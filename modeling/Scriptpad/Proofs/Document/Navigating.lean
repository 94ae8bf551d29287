import Scriptpad.Proofs.Document.Scrolling

/-!
# Ways through a document

Movements stop at the edges of a document, so there is a way to each of its positions that is the
same from everywhere: up until the cursor can go no further, to the start of the line, down, and to
the right. The first half of the way forgets where the cursor has been and what the window showed
(`moveAll_toTop`). That the window has forgotten it too is not said by any single movement: it
follows one line at a time, and is at the top in the end because it still shows the cursor's line.

The second half is then the same way in the same document. Going down the columns of the lines on
the way do not matter, because the cursor stays at their start; going right it does not leave its
line, and the window does not move (`iterate_move_right`).

No movement touches the text, the mark or the window's height, so no way does (`moveAll_keeps`).
-/

namespace Scriptpad.Document

variable {doc : Document}

/-- Carries out movements one after another. -/
def moveAll (doc : Document) (ds : List Movement) : Document :=
  ds.foldl move doc

/-- The way to the start of a document with `size` lines. -/
def toTop (size : Nat) : List Movement :=
  List.replicate size .up ++ [.lineStart]

/-- The way from there to a position. -/
def fromTop (target : Position) : List Movement :=
  List.replicate target.line .down ++ List.replicate target.column .right

theorem moveAll_append (doc : Document) (ds es : List Movement) :
    doc.moveAll (ds ++ es) = (doc.moveAll ds).moveAll es :=
  List.foldl_append

theorem moveAll_replicate (doc : Document) (n : Nat) (d : Movement) :
    doc.moveAll (List.replicate n d) = (Document.move · d)^[n] doc := by
  induction n generalizing doc with
  | zero => rfl
  | succ n ih => exact ih (doc.move d)

/-! ### What no movement changes -/

/-- The documents differ at most in where the cursor is and which lines are shown. -/
structure SameButPlace (doc next : Document) : Prop where
  lines : next.lines = doc.lines
  modified : next.modified = doc.modified
  height : next.window.height = doc.window.height

/-- Of such documents, one is the other at its own place. -/
theorem SameButPlace.eq {next : Document} (h : doc.SameButPlace next) {cursor : Position}
    (hcursor : next.cursor = cursor) {offset : Nat} (hoffset : next.window.offset = offset) :
    next = { doc with cursor := cursor, window := { doc.window with offset := offset } } := by
  obtain ⟨lines, _, ⟨_, height⟩, modified⟩ := next
  obtain ⟨rfl, rfl, rfl⟩ := h
  obtain rfl := hcursor
  obtain rfl := hoffset
  rfl

theorem sameButPlace_move (doc : Document) (d : Movement) : doc.SameButPlace (doc.move d) :=
  ⟨lines_move doc d, modified_move doc d, (keepsView_move doc d).height⟩

/-- **No way through a document changes it.** -/
theorem moveAll_keeps (doc : Document) (ds : List Movement) :
    doc.SameButPlace (doc.moveAll ds) := by
  induction ds generalizing doc with
  | nil => exact ⟨rfl, rfl, rfl⟩
  | cons d ds ih =>
    have hfirst := sameButPlace_move doc d
    have hrest := ih (doc.move d)
    exact ⟨hrest.lines.trans hfirst.lines, hrest.modified.trans hfirst.modified,
      hrest.height.trans hfirst.height⟩

theorem WellFormed.moveAll (h : doc.WellFormed) (ds : List Movement) :
    (doc.moveAll ds).WellFormed := by
  induction ds generalizing doc with
  | nil => exact h
  | cons d ds ih => exact ih (h.move d)

/-! ### To the start -/

theorem line_move_up (doc : Document) : (doc.move .up).cursor.line = doc.cursor.line - 1 := by
  rcases Nat.eq_zero_or_pos doc.cursor.line with hzero | hpos
  · have htarget : doc.target? .up = none := if_neg (Nat.not_lt.2 (Nat.le_of_eq hzero))
    rw [move, htarget, hzero]
  · have htarget : doc.target? .up = some (doc.onLine (doc.cursor.line - 1)) := if_pos hpos
    rw [move, htarget]
    rfl

theorem line_iterate_move_up (doc : Document) (n : Nat) :
    ((Document.move · .up)^[n] doc).cursor.line = doc.cursor.line - n := by
  induction n with
  | zero => rfl
  | succ n ih => rw [Function.iterate_succ_apply', line_move_up, ih, Nat.sub_sub]

/-- The cursor on the first line leaves the window only one place. -/
theorem WellFormed.offset_eq_zero (h : doc.WellFormed) (hline : doc.cursor.line = 0) :
    doc.window.offset = 0 := by
  obtain ⟨htop, -⟩ := Window.contains_iff.1 h.visible
  rw [hline] at htop
  exact Nat.le_zero.1 htop

/-- **The start is reached from everywhere**, and shown from the first line on. -/
theorem moveAll_toTop (h : doc.WellFormed) :
    doc.moveAll (toTop doc.size) =
      { doc with cursor := ⟨0, 0⟩, window := { doc.window with offset := 0 } } := by
  have hsize : doc.cursor.line ≤ doc.size := Nat.le_of_lt h.line_lt
  have hcursor : (doc.moveAll (toTop doc.size)).cursor = ⟨0, 0⟩ := by
    rw [toTop, moveAll_append, moveAll_replicate]
    show Position.mk ((Document.move · .up)^[doc.size] doc).cursor.line 0 = ⟨0, 0⟩
    rw [line_iterate_move_up, Nat.sub_eq_zero_of_le hsize]
  have hlast : (doc.moveAll (toTop doc.size)).WellFormed := h.moveAll _
  refine (moveAll_keeps doc _).eq hcursor (hlast.offset_eq_zero ?_)
  rw [hcursor]

/-! ### And on from there -/

theorem iterate_move_right (h : doc.WellFormed) {n : Nat}
    (hn : doc.cursor.column + n ≤ doc.cursorLine.length) :
    (Document.move · .right)^[n] doc =
      { doc with cursor := ⟨doc.cursor.line, doc.cursor.column + n⟩ } := by
  induction n with
  | zero => rfl
  | succ n ih =>
    have hnext : doc.cursor.column + n + 1 ≤ doc.cursorLine.length := hn
    rw [Function.iterate_succ_apply', ih (Nat.le_of_succ_le hn)]
    show { doc with
      cursor := ⟨doc.cursor.line, min (doc.cursor.column + n + 1) doc.cursorLine.length⟩
      window := doc.window.follow doc.cursor.line } = _
    rw [Nat.min_eq_left hnext, Window.follow_of_contains h.visible]
    rfl

/-- **There is one way to each position**, and where it leads depends on the text and on the
window's height only. -/
theorem moveAll_walk (h : doc.WellFormed) {target : Position} (hline : target.line < doc.size)
    (hcolumn : target.column ≤ (doc.line target.line).length) :
    doc.moveAll (toTop doc.size ++ fromTop target) =
      { doc with
          cursor := target
          window := { doc.window with offset := target.line + 1 - doc.window.height } } := by
  let top := { doc with cursor := ⟨0, 0⟩, window := { doc.window with offset := 0 } }
  let offset := target.line + 1 - doc.window.height
  let middle := { doc with cursor := ⟨target.line, 0⟩, window := { doc.window with offset } }
  have hmiddle : doc.moveAll (toTop doc.size ++ List.replicate target.line .down) = middle := by
    have hcursor : top.cursor = ⟨0, 0⟩ := rfl
    rw [moveAll_append, moveAll_toTop h, moveAll_replicate]
    exact iterate_move_down hcursor rfl h.height_pos hline
  have hwell : middle.WellFormed := hmiddle ▸ h.moveAll _
  have hright : middle.cursor.column + target.column ≤ middle.cursorLine.length := by
    rw [show middle.cursor.column = 0 from rfl, Nat.zero_add]
    exact hcolumn
  rw [fromTop, ← List.append_assoc, moveAll_append, hmiddle, moveAll_replicate,
    iterate_move_right hwell hright]
  show { middle with cursor := ⟨target.line, 0 + target.column⟩ } = _
  rw [Nat.zero_add]

/-- **Navigation forgets history.** In a document with a history, going up as often as it has lines,
to the start of the line, down to a line and right to a column of it leads to this position. The
lines and the mark are as before, and the line is the last of the window, or the window is at the
top; nothing of where the cursor was, what the window showed and where columns were cut on the way
is left. No movements of whatever kind and number change the lines, the mark or the window's
height. -/
theorem navigation_forgets_history (hdoc : doc.Reachable) :
    (∀ target : Position, target.line < doc.size →
      target.column ≤ (doc.line target.line).length →
      let last := doc.moveAll (List.replicate doc.size .up ++ [.lineStart] ++
        (List.replicate target.line .down ++ List.replicate target.column .right))
      last.lines = doc.lines ∧ last.modified = doc.modified ∧ last.cursor = target ∧
        (last.window.offset : Int) = max 0 ((target.line : Int) + 1 - doc.window.height)) ∧
    ∀ ds : List Movement, (doc.moveAll ds).lines = doc.lines ∧
      (doc.moveAll ds).size = doc.size ∧ (doc.moveAll ds).modified = doc.modified ∧
      (doc.moveAll ds).window.height = doc.window.height := by
  refine ⟨fun target hline hcolumn ↦ ?_, fun ds ↦ ?_⟩
  · intro last
    have hlast : last = _ := moveAll_walk hdoc.wellFormed hline hcolumn
    rw [hlast]
    refine ⟨rfl, rfl, rfl, ?_⟩
    show ((target.line + 1 - doc.window.height : Nat) : Int) = _
    omega
  · obtain ⟨hlines, hmodified, hheight⟩ := moveAll_keeps doc ds
    exact ⟨hlines, congrArg List.length hlines, hmodified, hheight⟩

/-- From the end of a document, in a window of two rows that shows its last lines, the way to the
end of the third line leads back over an empty one and to the right of where the cursor was. -/
theorem navigation_back_to_third_line :
    let doc := ((((Origin.lines ["abc".toList, [], "def".toList, "g".toList]).document.resizeWindow
      2).move .down).move .down).move .down
    let last := doc.moveAll (List.replicate 4 .up ++ [.lineStart] ++
      (List.replicate 2 .down ++ List.replicate 3 .right))
    doc.Reachable ∧ doc.cursor = ⟨3, 0⟩ ∧ doc.window = ⟨2, 2⟩ ∧ last.cursor = ⟨2, 3⟩ ∧
      last.window.offset = 1 := by
  intro doc last
  have hdoc : doc.Reachable := ((((Reachable.origin _).resizeWindow 2).move _).move _).move _
  obtain ⟨hwalk, -⟩ := navigation_forgets_history hdoc
  obtain ⟨-, -, hcursor, hoffset⟩ := hwalk ⟨2, 3⟩ (by decide) (by decide)
  exact ⟨hdoc, by decide, by decide, hcursor, Int.ofNat_inj.1 hoffset⟩

end Scriptpad.Document
