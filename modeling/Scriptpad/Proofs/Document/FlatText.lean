import Mathlib.Algebra.GroupWithZero.Nat
import Scriptpad.Proofs.Document.Alphabet
import Scriptpad.Proofs.Document.History
import Scriptpad.Proofs.Document.Parts
import Scriptpad.Proofs.Text.Lines

/-!
# A document as one text

A document is edited line by line, but what its user sees is one text with one cursor in it. Here
that view is made precise: `text` joins the lines with line feeds, and `textCursor` counts the
characters and line feeds before the cursor. Both are read off one pair, the text `before` the
cursor and the text `behind` it, and every edit is an edit of `before` alone:

* typing appends the character;
* breaking a line appends a line feed and the indentation of the line that is broken;
* deleting takes the last character off, be it a character of the line or the line feed before it.

`behind` never changes. So the three edits of lines, of which two also add or remove a line, are
one insertion or one deletion in a flat text. The indentation that is appended is that of the
**whole** line even if the cursor stands inside of it, so breaking a line there makes the text
longer by more spaces than the cursor has before it.

Lines that hold a line feed themselves are not excluded, and the flat text does not show where such
a line ends. `Unbroken` says that there is none; only then are the lines the pieces of the text
(`pieces_text`).
-/

namespace Scriptpad

/-! ### Joined lines -/

namespace Text

theorem joinWith_cons (separator line : Text) {more : List Text} (h : more ≠ []) :
    joinWith separator (line :: more) = line ++ separator ++ joinWith separator more := by
  cases more with
  | nil => exact absurd rfl h
  | cons next more => rfl

/-- Seen from one of the lines, the joined text is the lines before it, each ended by a line feed,
the line, and the lines behind it, each begun by one. -/
theorem joinWith_append_cons (up : List Text) (middle : Text) (down : List Text) :
    joinWith ['\n'] (up ++ middle :: down) =
      ofLines up ++ (middle ++ down.flatMap ('\n' :: ·)) := by
  induction up with
  | nil => exact joinWith_cons_eq_flatMap ['\n'] middle down
  | cons line up ih =>
    rw [List.cons_append, joinWith_cons _ _ (List.append_ne_nil_of_right_ne_nil _
      (List.cons_ne_nil _ _)), ih, ofLines, ofLines, List.flatMap_cons, List.append_assoc,
      List.append_assoc, List.append_assoc]

/-- Lines without line feeds are the pieces of their join. -/
theorem pieces_joinWith {ls : List Text} (hne : ls ≠ []) (h : ∀ line ∈ ls, '\n' ∉ line) :
    pieces (· == '\n') (joinWith ['\n'] ls) = ls := by
  induction ls with
  | nil => exact absurd rfl hne
  | cons line more ih =>
    obtain ⟨hline, hmore⟩ := List.forall_mem_cons.1 h
    have hpiece : pieces (· == '\n') line = [line] := pieces_of_not_mem hline
    cases more with
    | nil => exact hpiece
    | cons next more =>
      rw [joinWith_cons _ _ (List.cons_ne_nil _ _), List.append_assoc, List.singleton_append,
        pieces_append_cons rfl, hpiece, ih (List.cons_ne_nil _ _) hmore, List.singleton_append]

theorem length_ofLines (ls : List Text) :
    (ofLines ls).length = (ls.map (·.length + 1)).sum := by
  induction ls with
  | nil => rfl
  | cons line ls ih =>
    rw [ofLines, List.flatMap_cons, List.length_append, ← ofLines, ih, List.length_append]
    rfl

end Text

namespace Document

variable {doc : Document}

/-! ### The text on both sides of the cursor -/

/-- The text before the cursor. -/
def before (doc : Document) : Text :=
  Text.ofLines doc.above ++ doc.cursorLine.take doc.cursor.column

/-- The text behind the cursor. -/
def behind (doc : Document) : Text :=
  doc.cursorLine.drop doc.cursor.column ++ doc.below.flatMap ('\n' :: ·)

/-- The place of the cursor in the text: the characters and line feeds before it. -/
def textCursor (doc : Document) : Nat :=
  (doc.above.map (·.length + 1)).sum + doc.cursor.column

theorem text_eq (h : doc.WellFormed) : doc.text = doc.before ++ doc.behind := by
  rw [text, lines_eq h.line_lt, Text.joinWith_append_cons, before, behind, List.append_assoc,
    ← List.append_assoc (doc.cursorLine.take _), List.take_append_drop]

theorem length_before (h : doc.WellFormed) : doc.before.length = doc.textCursor := by
  rw [before, List.length_append, Text.length_ofLines, List.length_take_of_le h.column_le,
    textCursor]

theorem take_text (h : doc.WellFormed) : doc.text.take doc.textCursor = doc.before := by
  rw [text_eq h]
  exact List.take_left' (length_before h)

theorem drop_text (h : doc.WellFormed) : doc.text.drop doc.textCursor = doc.behind := by
  rw [text_eq h]
  exact List.drop_left' (length_before h)

/-- The two sides, with the lines above and below. -/
theorem StandsBetween.sides {up down : List Text} {left right : Text}
    (h : doc.StandsBetween up left right down) :
    doc.before = Text.ofLines up ++ left ∧ doc.behind = right ++ down.flatMap ('\n' :: ·) := by
  obtain ⟨habove, hline, hbelow⟩ := h.parts
  rw [before, behind, habove, hline, hbelow, h.column, List.take_left, List.drop_left]
  exact ⟨rfl, rfl⟩

/-! ### What each edit makes of the two sides -/

theorem sides_typeChar (h : doc.WellFormed) (c : Char) :
    (doc.typeChar c).before = doc.before ++ [c] ∧ (doc.typeChar c).behind = doc.behind := by
  obtain ⟨hbefore, hbehind⟩ := (h.standsBetween.typeChar c).sides
  exact ⟨hbefore.trans (List.append_assoc _ _ _).symm, hbehind⟩

theorem sides_breakLine (h : doc.WellFormed) :
    doc.breakLine.before =
        doc.before ++ '\n' :: Text.spaces (Text.leadingSpaces doc.cursorLine) ∧
      doc.breakLine.behind = doc.behind := by
  obtain ⟨hbefore, hbehind⟩ := h.standsBetween.breakLine.sides
  refine ⟨hbefore.trans ?_, hbehind⟩
  rw [List.take_append_drop, Text.ofLines, List.flatMap_append]
  simp [before, Text.ofLines]

/-- Deleting takes one character off the end of the text before the cursor, whichever it is. -/
theorem sides_deleteLeft (h : doc.WellFormed) (hpos : 0 < doc.textCursor) :
    (∃ c, doc.before = doc.deleteLeft.before ++ [c]) ∧ doc.deleteLeft.behind = doc.behind := by
  have hlt := h.line_lt
  rcases Nat.eq_zero_or_pos doc.cursor.column with hzero | hcolumn
  · -- at the start of a line: the line feed that ends the line above
    have hline : 0 < doc.cursor.line := by
      rw [← length_above hlt]
      refine List.length_pos_iff.2 fun hnil ↦ ?_
      rw [textCursor, hzero, hnil] at hpos
      exact Nat.lt_irrefl 0 hpos
    have hstands := h.standsBetween_of_start hzero hline
    obtain ⟨hbefore, hbehind⟩ := hstands.sides
    obtain ⟨hjoined, hrest⟩ := hstands.joinLeft.sides
    rw [hbefore, hbehind, hjoined, hrest]
    refine ⟨⟨'\n', ?_⟩, rfl⟩
    rw [Text.ofLines, List.flatMap_append, List.flatMap_singleton, List.append_nil,
      List.append_assoc]
    rfl
  · -- within a line: the character before the cursor
    obtain ⟨c, -, hleft⟩ := h.exists_take_eq hcolumn
    have hstands := hleft ▸ h.standsBetween
    obtain ⟨hbefore, hbehind⟩ := hstands.sides
    obtain ⟨hdeleted, hrest⟩ := hstands.deleteLeft.sides
    refine ⟨⟨c, ?_⟩, hrest.trans hbehind.symm⟩
    rw [hbefore, hdeleted, List.append_assoc]

/-! ### Lines without line feeds -/

/-- No line of the document holds a line feed. -/
def Unbroken (doc : Document) : Prop :=
  ∀ line ∈ doc.lines, '\n' ∉ line

theorem unbroken_iff_over : doc.Unbroken ↔ doc.Over (· ≠ '\n') :=
  forall₂_congr fun _ _ ↦ ⟨fun h _ hc heq ↦ h (heq ▸ hc), fun h hc ↦ h _ hc rfl⟩

/-- **The lines of an unbroken document are its text, cut at the line feeds.** -/
theorem pieces_text (h : doc.WellFormed) (hunbroken : doc.Unbroken) :
    Text.pieces (· == '\n') doc.text = doc.lines :=
  Text.pieces_joinWith (List.ne_nil_of_length_pos (Nat.zero_lt_of_lt h.line_lt)) hunbroken

/-- The commands that put no line feed into a line, whatever the files hold. -/
def Command.AddsNoLineFeed : Command → Prop
  | .insert c => c ≠ '\n'
  | .load _ => False
  | _ => True

/-- **One command keeps a document unbroken**, unless it brings a line feed in. -/
theorem Unbroken.perform {σ : Type} (h : doc.Unbroken) {c : Command} (hc : c.AddsNoLineFeed)
    (store : Store σ) (files : σ) :
    ((doc.perform c).perform store files).value.1.Unbroken := by
  rw [unbroken_iff_over] at h ⊢
  cases c with
  | insert c => exact h.typeChar hc
  | delete => exact h.deleteLeft
  | split => exact h.breakLine (by decide)
  | move d => exact h.move d
  | setHeight height => exact h
  | load path => exact absurd hc id
  | save path =>
    obtain ⟨modified, hsave⟩ := exists_modified_eq_save doc path store files
    rw [Document.perform, Effect.bind_eq, Effect.perform_bind]
    show ((doc.save path).perform store files).value.1.Over _
    rw [hsave]
    exact h

/-! ### The flat text -/

/-- The text and its cursor, once the two sides are known. -/
theorem flat_eq {next : Document} {left right : Text} (h : next.WellFormed)
    (hsides : next.before = left ∧ next.behind = right) :
    next.text = left ++ right ∧ next.textCursor = left.length := by
  rw [text_eq h, ← length_before h, hsides.1, hsides.2]
  exact ⟨rfl, rfl⟩

theorem textCursor_le (h : doc.WellFormed) : doc.textCursor ≤ doc.text.length := by
  rw [text_eq h, List.length_append, length_before h]
  exact Nat.le_add_right _ _

theorem text_typeChar (h : doc.WellFormed) (c : Char) :
    (doc.typeChar c).text =
        doc.text.take doc.textCursor ++ c :: doc.text.drop doc.textCursor ∧
      (doc.typeChar c).textCursor = doc.textCursor + 1 := by
  obtain ⟨htext, hcursor⟩ := flat_eq (h.typeChar c) (sides_typeChar h c)
  rw [htext, hcursor, take_text h, drop_text h, List.append_assoc, List.length_append,
    length_before h]
  exact ⟨rfl, rfl⟩

theorem text_breakLine (h : doc.WellFormed) :
    doc.breakLine.text =
        doc.text.take doc.textCursor ++ '\n' :: Text.spaces (Text.leadingSpaces doc.cursorLine) ++
          doc.text.drop doc.textCursor ∧
      doc.breakLine.textCursor = doc.textCursor + 1 + Text.leadingSpaces doc.cursorLine := by
  obtain ⟨htext, hcursor⟩ := flat_eq h.breakLine (sides_breakLine h)
  rw [htext, hcursor, take_text h, drop_text h, List.length_append, length_before h,
    List.length_cons, Text.spaces, List.length_replicate]
  exact ⟨rfl, by omega⟩

theorem text_deleteLeft (h : doc.WellFormed) (hpos : 0 < doc.textCursor) :
    doc.deleteLeft.text =
        doc.text.take (doc.textCursor - 1) ++ doc.text.drop doc.textCursor ∧
      doc.deleteLeft.textCursor = doc.textCursor - 1 := by
  obtain ⟨⟨c, hlast⟩, hright⟩ := sides_deleteLeft h hpos
  obtain ⟨htext, hcursor⟩ := flat_eq h.deleteLeft ⟨rfl, hright⟩
  have hlength : doc.deleteLeft.before.length = doc.textCursor - 1 := by
    rw [← length_before h, hlast, List.length_append]
    rfl
  have htake : doc.text.take (doc.textCursor - 1) = doc.deleteLeft.before := by
    rw [text_eq h, hlast, List.append_assoc]
    exact List.take_left' hlength
  rw [htext, hcursor, htake, drop_text h, hlength]
  exact ⟨rfl, rfl⟩

/-- The place counts every line above, so at place zero there is nothing to delete. -/
theorem deleteLeft_eq_self (h : doc.WellFormed) (hzero : doc.textCursor = 0) :
    doc.deleteLeft = doc := by
  rw [textCursor] at hzero
  refine deleteLeft_of_origin (by omega) ?_
  rw [← length_above h.line_lt]
  cases habove : doc.above with
  | nil => rfl
  | cons line more =>
    rw [habove, List.map_cons, List.sum_cons] at hzero
    omega

theorem text_move (doc : Document) (d : Movement) : (doc.move d).text = doc.text := by
  rw [text, lines_move]
  rfl

theorem text_save {σ : Type} (doc : Document) (store : Store σ) (files : σ) (path : Path) :
    ((doc.save path).perform store files).value.1.text = doc.text := by
  obtain ⟨modified, hsave⟩ := exists_modified_eq_save doc path store files
  rw [hsave]
  rfl

/-- **Editing lines is editing one text.** In every document with a history, typing inserts the
character at the cursor's place in the text, breaking a line inserts a line feed and as many spaces
as the whole line begins with, and deleting takes the character before the cursor out, or, where
there is none, changes nothing. Nothing else that keeps the lines changes the text, and as long as
no line feed is brought into a line, the lines are the text cut at its line feeds. -/
theorem edits_of_flat_text (h : doc.Reachable) :
    let text := doc.text
    let place := doc.textCursor
    let indent := Text.leadingSpaces doc.cursorLine
    place ≤ text.length ∧
      (∀ c, (doc.typeChar c).text = text.take place ++ c :: text.drop place ∧
        (doc.typeChar c).textCursor = place + 1) ∧
      (doc.breakLine.text = text.take place ++ '\n' :: Text.spaces indent ++ text.drop place ∧
        doc.breakLine.textCursor = place + 1 + indent) ∧
      (0 < place →
        doc.deleteLeft.text = text.take (place - 1) ++ text.drop place ∧
          doc.deleteLeft.textCursor = place - 1) ∧
      (place = 0 → doc.deleteLeft = doc) ∧
      (∀ d, (doc.move d).text = text) ∧
      (∀ height, (doc.resizeWindow height).text = text) ∧
      (∀ {σ : Type} (store : Store σ) (files : σ) (path : Path),
        ((doc.save path).perform store files).value.1.text = text) ∧
      (doc.Unbroken → ∀ {σ : Type} (store : Store σ) (files : σ) (c : Command),
        c.AddsNoLineFeed →
          let next := ((doc.perform c).perform store files).value.1
          next.Unbroken ∧ next.lines = Text.pieces (· == '\n') next.text) := by
  intro text place indent
  have hdoc : doc.WellFormed := h.wellFormed
  refine ⟨textCursor_le hdoc, text_typeChar hdoc, text_breakLine hdoc, text_deleteLeft hdoc,
    deleteLeft_eq_self hdoc, text_move doc, fun _ ↦ rfl, text_save doc, ?_⟩
  intro hunbroken σ store files c hc
  have hnext := hunbroken.perform hc store files
  exact ⟨hnext, (pieces_text (hdoc.perform c store files) hnext).symm⟩

/-- A line that is broken inside of its indentation is indented twice over: one space stays before
the break, and the two that the line began with follow it, before the one behind the cursor. -/
theorem breakLine_in_indentation :
    let doc := (Origin.lines ["  ab".toList]).document.move .right
    doc.Reachable ∧ doc.breakLine.text = " \n   ab".toList := by
  intro doc
  have h : doc.Reachable :=
    (Reachable.origin _).perform (.move .right) ⟨fun _ s ↦ (.ok [], s), fun _ _ s ↦ (.ok (), s)⟩ ()
  exact ⟨h, (edits_of_flat_text h).2.2.1.1.trans (by decide)⟩

end Document

end Scriptpad
