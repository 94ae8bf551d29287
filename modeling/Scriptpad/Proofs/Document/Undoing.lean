import Mathlib.Data.List.Induction
import Mathlib.Logic.Function.Iterate
import Scriptpad.Proofs.Document.History
import Scriptpad.Proofs.Document.Parts
import Scriptpad.Proofs.Document.View

/-!
# Deleting undoes inserting

There is no undo in the editor, but deletions take back what was inserted, the last character first.
How many it takes is not the number of insertions: a break comes with the indentation of the line
that it breaks, which earlier insertions may have changed. `insertedBy` counts the characters that
come to stand before the cursor, each insertion in the document as it is then.

Which side of the cursor a text is on carries everything. Insertions put text on the left only, so
whatever has been inserted, the right side and the lines below are still there; and a deletion looks
at the left side only. `StandsBetween.exists_insert` is the step: after one insertion the document
stands in a place from which as many deletions lead back, and it is enough for a document to stand
there, however it got there. The run follows by induction, the last insertion being taken back
first.

In the other order the law is not quite exact. A character that was deleted can be typed again, and
since the cursor stays on its line the window does not move either. A break that was deleted comes
back with indentation, if the joined line has any, so breaking the line again restores the document
just when it has none.
-/

namespace Scriptpad.Document

variable {doc other : Document} {up down : List Text} {left right : Text}

/-! ### Insertions -/

/-- Something that is inserted at the cursor. -/
inductive Insertion where
  | char (c : Char)
  | lineBreak
  deriving Repr, DecidableEq

/-- The document with something inserted at the cursor. -/
def insert (doc : Document) : Insertion → Document
  | .char c => doc.typeChar c
  | .lineBreak => doc.breakLine

/-- The document with insertions made one after another. -/
def insertAll (doc : Document) (insertions : List Insertion) : Document :=
  insertions.foldl insert doc

/-- The number of characters that an insertion puts before the cursor, a break counting as one and
coming with the indentation of the line. -/
def inserted (doc : Document) : Insertion → Nat
  | .char _ => 1
  | .lineBreak => 1 + Text.leadingSpaces doc.cursorLine

/-- The number of characters that insertions put before the cursor, each counted in the document
that the earlier ones have made. -/
def insertedBy (doc : Document) : List Insertion → Nat
  | [] => 0
  | i :: more => doc.inserted i + (doc.insert i).insertedBy more

/-- Two documents with the same lines and the same cursor. -/
def SameText (doc other : Document) : Prop :=
  doc.lines = other.lines ∧ doc.cursor = other.cursor

instance (doc other : Document) : Decidable (doc.SameText other) :=
  inferInstanceAs (Decidable (_ ∧ _))

theorem StandsBetween.sameText (h : doc.StandsBetween up left right down)
    (hother : other.StandsBetween up left right down) : doc.SameText other :=
  ⟨h.lines.trans hother.lines.symm, h.cursor.trans hother.cursor.symm⟩

/-! ### Taking insertions back -/

/-- As many deletions as a text has characters take it off the left side. -/
theorem StandsBetween.iterate_deleteLeft {t : Text}
    (h : doc.StandsBetween up (left ++ t) right down) :
    (Document.deleteLeft^[t.length] doc).StandsBetween up left right down := by
  induction t using List.reverseRecOn generalizing doc with
  | nil => rwa [List.append_nil] at h
  | append_singleton t c ih =>
    rw [← List.append_assoc] at h
    rw [List.length_append, List.length_singleton, Function.iterate_succ_apply]
    exact ih h.deleteLeft

/-- **One insertion** leaves the document in a place from which as many deletions lead back as
characters were inserted, whichever document stands in this place. -/
theorem StandsBetween.exists_insert (h : doc.StandsBetween up left right down) (i : Insertion) :
    ∃ up' left', (doc.insert i).StandsBetween up' left' right down ∧
      ∀ {other : Document}, other.StandsBetween up' left' right down →
        (Document.deleteLeft^[doc.inserted i] other).StandsBetween up left right down := by
  rcases i with c | -
  · exact ⟨up, left ++ [c], h.typeChar c, fun hother ↦ hother.deleteLeft⟩
  · refine ⟨up ++ [left], _, h.breakLine, fun {other} hother ↦ ?_⟩
    obtain ⟨-, hline, -⟩ := h.parts
    have hcount : doc.inserted .lineBreak =
        1 + (Text.spaces (Text.leadingSpaces (left ++ right))).length := by
      rw [Text.spaces, List.length_replicate, ← hline]
      rfl
    rw [hcount, Function.iterate_add_apply]
    have hindented : other.StandsBetween (up ++ [left])
        ([] ++ Text.spaces (Text.leadingSpaces (left ++ right))) right down := hother
    exact hindented.iterate_deleteLeft.joinLeft

/-- **All insertions are taken back** by as many deletions as characters were inserted. -/
theorem StandsBetween.deletes_insertAll (h : doc.StandsBetween up left right down)
    (insertions : List Insertion) :
    (Document.deleteLeft^[doc.insertedBy insertions] (doc.insertAll insertions)).StandsBetween
      up left right down := by
  induction insertions generalizing doc up left with
  | nil => exact h
  | cons i more ih =>
    obtain ⟨up', left', hinsert, hback⟩ := h.exists_insert i
    rw [insertedBy, Function.iterate_add_apply]
    exact hback (ih hinsert)

/-! ### Putting back what was deleted -/

/-- A deletion behind the start of a line takes the character before the cursor, and typing it
again restores the document and its window. -/
theorem typeChar_deleteLeft (h : doc.WellFormed) (hpos : 0 < doc.cursor.column) :
    ∃ c, doc.cursorLine[doc.cursor.column - 1]? = some c ∧
      (doc.deleteLeft.typeChar c).SameText doc ∧
      (doc.deleteLeft.typeChar c).window = doc.window := by
  obtain ⟨c, hcharacter, hleft⟩ := h.exists_take_eq hpos
  have hstands := hleft ▸ h.standsBetween
  refine ⟨c, hcharacter, (hstands.deleteLeft.typeChar c).sameText hstands, ?_⟩
  rw [deleteLeft_of_column_pos hpos]
  show (doc.window.follow doc.cursor.line).follow doc.cursor.line = doc.window
  rw [Window.follow_of_contains h.visible, Window.follow_of_contains h.visible]

/-- A deletion at the start of a line joins it to the line above, and a break restores the two
lines if and only if the joined one has no indentation. -/
theorem breakLine_deleteLeft_iff (h : doc.WellFormed) (hzero : doc.cursor.column = 0)
    (hpos : 0 < doc.cursor.line) :
    doc.deleteLeft.breakLine.SameText doc ↔
      Text.leadingSpaces doc.deleteLeft.cursorLine = 0 := by
  have hstands := h.standsBetween_of_start hzero hpos
  have hjoined := hstands.joinLeft
  obtain ⟨-, hline, -⟩ := hjoined.parts
  have hbroken := hjoined.breakLine
  rw [← hline] at hbroken
  constructor
  · intro hsame
    have hcolumn := congrArg Position.column hsame.2
    rwa [hzero] at hcolumn
  · intro hnone
    rw [hnone] at hbroken
    exact hbroken.sameText hstands

/-- **Deleting undoes inserting, and inserting undoes deleting.** In a document with a history,
whatever characters and breaks are inserted, as many deletions as characters have come before the
cursor restore lines and cursor. The other way round, the character that a deletion takes out of a
line can be typed again, which restores lines, cursor and window; and where a deletion joins two
lines, a break restores lines and cursor if and only if the joined line does not begin with a
space. -/
theorem deleting_undoes_inserting (h : doc.Reachable) :
    (∀ insertions,
      (Document.deleteLeft^[doc.insertedBy insertions] (doc.insertAll insertions)).SameText doc) ∧
    (0 < doc.cursor.column → ∃ c, doc.cursorLine[doc.cursor.column - 1]? = some c ∧
      (doc.deleteLeft.typeChar c).SameText doc ∧
      (doc.deleteLeft.typeChar c).window = doc.window) ∧
    (doc.cursor.column = 0 → 0 < doc.cursor.line →
      (doc.deleteLeft.breakLine.SameText doc ↔
        Text.leadingSpaces doc.deleteLeft.cursorLine = 0)) := by
  have hdoc : doc.WellFormed := h.wellFormed
  have hstands := hdoc.standsBetween
  exact ⟨fun insertions ↦ (hstands.deletes_insertAll insertions).sameText hstands,
    typeChar_deleteLeft hdoc, breakLine_deleteLeft_iff hdoc⟩

/-- Six deletions take two characters and two breaks back: each break has brought a space with it,
from a line that begins with one. Below, a deletion within a line and one at the start of a line are
put back. -/
theorem deleting_undoes_two_breaks :
    let doc := (Origin.lines ["  ab".toList]).document.move .right
    let insertions := [.char 'é', .lineBreak, .char '\n', .lineBreak]
    let below := (Origin.lines ["é".toList, "b".toList]).document.move .down
    doc.Reachable ∧ below.Reachable ∧ doc.insertedBy insertions = 6 ∧
      (doc.insertAll insertions).lines = [" é".toList, " \n".toList, "  ab".toList] ∧
      (Document.deleteLeft^[6] (doc.insertAll insertions)).SameText doc ∧
      (doc.deleteLeft.typeChar ' ').SameText doc ∧ below.deleteLeft.lines = ["éb".toList] ∧
      below.deleteLeft.breakLine.SameText below := by
  intro doc insertions below
  have hdoc : doc.Reachable := (Reachable.origin _).move .right
  have hbelow : below.Reachable := (Reachable.origin _).move .down
  have hcount : doc.insertedBy insertions = 6 := by decide
  obtain ⟨hdeleted, hretyped, -⟩ := deleting_undoes_inserting hdoc
  obtain ⟨-, -, hbroken⟩ := deleting_undoes_inserting hbelow
  obtain ⟨c, hc, hsame, -⟩ := hretyped (by decide)
  obtain rfl : ' ' = c := Option.some.inj hc
  exact ⟨hdoc, hbelow, hcount, by decide, hcount ▸ hdeleted insertions, hsame, by decide,
    (hbroken (by decide) (by decide)).2 (by decide)⟩

end Scriptpad.Document
