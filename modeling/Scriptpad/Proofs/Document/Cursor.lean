import Scriptpad.Document.File

/-!
# A document around its cursor

The cursor parts the lines of a document in three: those `above` its line, the line itself, and
those `below`. Each edit changes the middle part, and at most one line next to it, so an edit is
described by one equation between parts (`lines_typeChar`, `lines_breakLine`, `lines_deleteLeft`,
`lines_joinLeft`), and nothing after this module opens an edit again.

The invariant `WellFormed` is kept by every operation. Its two halves rest on different facts:

* the cursor is a position of the document because each edit says where it puts the cursor in terms
  of the parts;
* the window shows the cursor's line because no edit moves the cursor by more than one line, which
  is all that `Window.contains_follow` asks for. This is what `WellFormed.moveTo` isolates.
-/

namespace Scriptpad.Document

variable {doc : Document}

/-! ### The three parts -/

/-- The lines above the cursor's line. -/
def above (doc : Document) : List Text :=
  doc.lines.take doc.cursor.line

/-- The lines below the cursor's line. -/
def below (doc : Document) : List Text :=
  doc.lines.drop (doc.cursor.line + 1)

theorem line_of_lt {index : Nat} (h : index < doc.lines.length) :
    doc.line index = doc.lines[index] := by
  rw [line, line?, List.getElem?_eq_getElem h, Option.getD_some]

/-- **The parts make up the document.** -/
theorem lines_eq (h : doc.cursor.line < doc.lines.length) :
    doc.lines = doc.above ++ doc.cursorLine :: doc.below := by
  rw [cursorLine, line_of_lt h, above, below, List.getElem_cons_drop, List.take_append_drop]

theorem length_above (h : doc.cursor.line < doc.lines.length) :
    doc.above.length = doc.cursor.line := by
  rw [above, List.length_take]
  omega

/-- **And nothing else does**: whichever lines are given around the cursor's, they are the parts. -/
theorem parts_eq {up down : List Text} {middle : Text} (hlines : doc.lines = up ++ middle :: down)
    (hcursor : doc.cursor.line = up.length) :
    doc.above = up ∧ doc.cursorLine = middle ∧ doc.below = down := by
  refine ⟨?_, ?_, ?_⟩
  · rw [above, hlines, hcursor, List.take_left]
  · rw [cursorLine, line, line?, hlines, hcursor, List.getElem?_append_right (Nat.le_refl _),
      Nat.sub_self]
    rfl
  · rw [below, hlines, hcursor, ← List.singleton_append, ← List.append_assoc]
    exact List.drop_left' (by simp)

/-- The line before the cursor's is the last one above it. -/
theorem above_eq (h : doc.cursor.line < doc.lines.length) (hpos : 0 < doc.cursor.line) :
    doc.above = doc.lines.take (doc.cursor.line - 1) ++ [doc.line (doc.cursor.line - 1)] := by
  have hprevious : doc.cursor.line - 1 < doc.lines.length := by omega
  have hsucc : doc.cursor.line - 1 + 1 = doc.cursor.line := by omega
  rw [above, line_of_lt hprevious, List.take_append_getElem, hsucc]

/-! ### What each edit makes of the parts -/

theorem modify_append_cons {α : Type} (f : α → α) (up : List α) (middle : α) (down : List α) :
    (up ++ middle :: down).modify up.length f = up ++ f middle :: down := by
  induction up with
  | nil => rfl
  | cons first up ih => rw [List.cons_append, List.length_cons, List.modify_succ_cons, ih]; rfl

theorem lines_typeChar (h : doc.cursor.line < doc.lines.length) (c : Char) :
    (doc.typeChar c).lines =
      doc.above ++ Text.insertAt doc.cursor.column c doc.cursorLine :: doc.below := by
  have hmodify :=
    modify_append_cons (Text.insertAt doc.cursor.column c) doc.above doc.cursorLine doc.below
  rwa [← lines_eq h, length_above h] at hmodify

theorem lines_breakLine (doc : Document) :
    doc.breakLine.lines =
      (doc.above ++ [doc.cursorLine.take doc.cursor.column]) ++
        (Text.spaces (Text.leadingSpaces doc.cursorLine) ++
          doc.cursorLine.drop doc.cursor.column) :: doc.below := by
  rw [List.append_assoc]
  rfl

theorem deleteLeft_of_column_pos (hpos : 0 < doc.cursor.column) :
    doc.deleteLeft =
      { doc with
          lines := doc.lines.modify doc.cursor.line (Text.deleteBefore doc.cursor.column)
          modified := true }.moveTo ⟨doc.cursor.line, doc.cursor.column - 1⟩ := by
  rw [deleteLeft, if_pos hpos]

theorem deleteLeft_of_line_pos (hzero : doc.cursor.column = 0) (hpos : 0 < doc.cursor.line) :
    doc.deleteLeft =
      { doc with
          lines :=
            (doc.lines.eraseIdx doc.cursor.line).modify (doc.cursor.line - 1) (· ++ doc.cursorLine)
          modified := true }.moveTo
        ⟨doc.cursor.line - 1, (doc.line (doc.cursor.line - 1)).length⟩ := by
  rw [deleteLeft, if_neg (by omega), if_pos hpos]

theorem cursor_deleteLeft (hpos : 0 < doc.cursor.column) :
    doc.deleteLeft.cursor = ⟨doc.cursor.line, doc.cursor.column - 1⟩ := by
  rw [deleteLeft_of_column_pos hpos]
  rfl

theorem cursor_joinLeft (hzero : doc.cursor.column = 0) (hpos : 0 < doc.cursor.line) :
    doc.deleteLeft.cursor =
      ⟨doc.cursor.line - 1, (doc.line (doc.cursor.line - 1)).length⟩ := by
  rw [deleteLeft_of_line_pos hzero hpos]
  rfl

/-- Deleting at the very start changes nothing, the modified mark included. -/
theorem deleteLeft_of_origin (hcolumn : doc.cursor.column = 0) (hline : doc.cursor.line = 0) :
    doc.deleteLeft = doc := by
  rw [deleteLeft, if_neg (by omega), if_neg (by omega)]

theorem lines_deleteLeft (h : doc.cursor.line < doc.lines.length) (hpos : 0 < doc.cursor.column) :
    doc.deleteLeft.lines =
      doc.above ++ Text.deleteBefore doc.cursor.column doc.cursorLine :: doc.below := by
  have hmodify :=
    modify_append_cons (Text.deleteBefore doc.cursor.column) doc.above doc.cursorLine doc.below
  rw [← lines_eq h, length_above h] at hmodify
  rw [deleteLeft_of_column_pos hpos]
  exact hmodify

/-- Deleting the break before a line appends the line to the one before. -/
theorem lines_joinLeft (h : doc.cursor.line < doc.lines.length) (hzero : doc.cursor.column = 0)
    (hpos : 0 < doc.cursor.line) :
    doc.deleteLeft.lines =
      doc.lines.take (doc.cursor.line - 1) ++
        (doc.line (doc.cursor.line - 1) ++ doc.cursorLine) :: doc.below := by
  have herase : doc.lines.eraseIdx doc.cursor.line =
      doc.lines.take (doc.cursor.line - 1) ++ doc.line (doc.cursor.line - 1) :: doc.below := by
    rw [List.eraseIdx_eq_take_drop_succ, ← above, ← below, above_eq h hpos, List.append_assoc]
    rfl
  have hmodify :=
    modify_append_cons (· ++ doc.cursorLine) (doc.lines.take (doc.cursor.line - 1))
      (doc.line (doc.cursor.line - 1)) doc.below
  have hup : (doc.lines.take (doc.cursor.line - 1)).length = doc.cursor.line - 1 := by
    rw [List.length_take]
    omega
  rw [← herase, hup] at hmodify
  rw [deleteLeft_of_line_pos hzero hpos]
  exact hmodify

/-! ### The invariant -/

/-- **One line at a time.** A document whose window has followed the cursor by at most one line is
well formed as soon as its cursor is one of its positions. -/
theorem WellFormed.follow {next : Document} (h : doc.WellFormed)
    (hline : next.cursor.line < next.lines.length)
    (hcolumn : next.cursor.column ≤ next.cursorLine.length)
    (hwindow : next.window = doc.window.follow next.cursor.line)
    (hup : doc.cursor.line ≤ next.cursor.line + 1)
    (hdown : next.cursor.line ≤ doc.cursor.line + 1) : next.WellFormed where
  line_lt := hline
  column_le := hcolumn
  height_pos := by
    rw [hwindow, Window.WellFormed, Window.height_follow]
    exact h.height_pos
  visible := by
    rw [hwindow]
    exact Window.contains_follow h.height_pos h.visible hup hdown

/-- The form for edits, which say what lines there are around the new cursor. -/
theorem WellFormed.of_parts {next : Document} {up down : List Text} {middle : Text}
    (h : doc.WellFormed) (hlines : next.lines = up ++ middle :: down)
    (hcursor : next.cursor.line = up.length) (hcolumn : next.cursor.column ≤ middle.length)
    (hwindow : next.window = doc.window.follow next.cursor.line)
    (hup : doc.cursor.line ≤ next.cursor.line + 1)
    (hdown : next.cursor.line ≤ doc.cursor.line + 1) : next.WellFormed := by
  refine h.follow ?_ ?_ hwindow hup hdown
  · rw [hlines, hcursor, List.length_append, List.length_cons]
    omega
  · rwa [(parts_eq hlines hcursor).2.1]

theorem WellFormed.typeChar (h : doc.WellFormed) (c : Char) : (doc.typeChar c).WellFormed := by
  refine h.of_parts (lines_typeChar h.line_lt c) (length_above h.line_lt).symm ?_ rfl
    (Nat.le_succ _) (Nat.le_succ _)
  rw [Text.length_insertAt]
  exact Nat.succ_le_succ h.column_le

theorem WellFormed.breakLine (h : doc.WellFormed) : doc.breakLine.WellFormed := by
  refine h.of_parts (lines_breakLine doc) ?_ ?_ rfl (Nat.le_add_right _ 2) (Nat.le_refl _)
  · rw [List.length_append, length_above h.line_lt]
    rfl
  · rw [List.length_append, Text.spaces, List.length_replicate]
    exact Nat.le_add_right _ _

theorem WellFormed.deleteLeft (h : doc.WellFormed) : doc.deleteLeft.WellFormed := by
  have hlt := h.line_lt
  rcases Nat.eq_zero_or_pos doc.cursor.column with hzero | hpos
  · rcases Nat.eq_zero_or_pos doc.cursor.line with hfirst | hline
    · rwa [deleteLeft_of_origin hzero hfirst]
    · -- the joined line is at least as long as the line above, at whose end the cursor was put
      have hcursor := cursor_joinLeft hzero hline
      refine h.of_parts (lines_joinLeft hlt hzero hline) ?_ ?_ ?_ ?_ ?_ <;> rw [hcursor]
      · rw [List.length_take]
        show doc.cursor.line - 1 = _
        omega
      · rw [List.length_append]
        exact Nat.le_add_right _ _
      · rw [deleteLeft_of_line_pos hzero hline]
        rfl
      · show _ ≤ doc.cursor.line - 1 + 1
        omega
      · show doc.cursor.line - 1 ≤ _
        omega
  · have hcursor := cursor_deleteLeft hpos
    refine h.of_parts (lines_deleteLeft hlt hpos) ?_ ?_ ?_ ?_ ?_ <;> rw [hcursor]
    · exact (length_above hlt).symm
    · have hcolumn := h.column_le
      rw [Text.deleteBefore, List.length_append, List.length_take, List.length_drop]
      show doc.cursor.column - 1 ≤ _
      omega
    · rw [deleteLeft_of_column_pos hpos]
      rfl
    · exact Nat.le_succ _
    · exact Nat.le_succ _

/-- A movement leads at most one line away. -/
theorem target?_line {d : Movement} {position : Position}
    (htarget : doc.target? d = some position) :
    doc.cursor.line ≤ position.line + 1 ∧ position.line ≤ doc.cursor.line + 1 := by
  have hsame {column : Nat} (h : some ⟨doc.cursor.line, column⟩ = some position) :
      doc.cursor.line ≤ position.line + 1 ∧ position.line ≤ doc.cursor.line + 1 := by
    obtain rfl := Option.some.inj h
    exact ⟨Nat.le_succ _, Nat.le_succ _⟩
  cases d with
  | left => exact hsame htarget
  | right => exact hsame htarget
  | lineStart => exact hsame htarget
  | lineEnd => exact hsame htarget
  | up =>
    obtain ⟨-, hsome⟩ := Option.ite_none_right_eq_some.1 htarget
    obtain rfl := Option.some.inj hsome
    simp only [onLine]
    omega
  | down =>
    obtain ⟨-, hsome⟩ := Option.ite_none_right_eq_some.1 htarget
    obtain rfl := Option.some.inj hsome
    exact ⟨Nat.le_add_right _ 2, Nat.le_refl _⟩

/-- A movement leads to a position of the document. -/
theorem target?_spec (h : doc.WellFormed) {d : Movement} {position : Position}
    (htarget : doc.target? d = some position) :
    position.line < doc.lines.length ∧ position.column ≤ (doc.line position.line).length := by
  have hlt := h.line_lt
  have hle : doc.cursor.column ≤ (doc.line doc.cursor.line).length := h.column_le
  cases d with
  | left =>
    obtain rfl := Option.some.inj htarget
    exact ⟨hlt, Nat.le_trans (Nat.sub_le _ _) hle⟩
  | right =>
    obtain rfl := Option.some.inj htarget
    exact ⟨hlt, Nat.min_le_right _ _⟩
  | up =>
    obtain ⟨hpos, hsome⟩ := Option.ite_none_right_eq_some.1 htarget
    obtain rfl := Option.some.inj hsome
    -- the column is cut to the length of the line that is reached
    refine ⟨?_, Nat.min_le_right _ _⟩
    simp only [onLine]
    omega
  | down =>
    obtain ⟨hnext, hsome⟩ := Option.ite_none_right_eq_some.1 htarget
    obtain rfl := Option.some.inj hsome
    exact ⟨hnext, Nat.min_le_right _ _⟩
  | lineStart =>
    obtain rfl := Option.some.inj htarget
    exact ⟨hlt, Nat.zero_le _⟩
  | lineEnd =>
    obtain rfl := Option.some.inj htarget
    exact ⟨hlt, Nat.le_refl _⟩

theorem WellFormed.move (h : doc.WellFormed) (d : Movement) : (doc.move d).WellFormed := by
  cases htarget : doc.target? d with
  | none =>
    rw [Document.move, htarget]
    exact h
  | some position =>
    obtain ⟨hline, hcolumn⟩ := target?_spec h htarget
    obtain ⟨hup, hdown⟩ := target?_line htarget
    rw [Document.move, htarget]
    exact h.follow hline hcolumn rfl hup hdown

end Scriptpad.Document
