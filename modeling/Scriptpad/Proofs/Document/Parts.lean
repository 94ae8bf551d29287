import Scriptpad.Proofs.Document.Cursor

/-!
# Editing between two texts

Where the cursor stands, a document has four parts: the lines above, the text of the cursor's line
on its left, the text on its right, and the lines below. `StandsBetween` gives a document these
parts, and with them its lines and its cursor. In these terms each edit has one equation, without a
column in it: typing adds a character on the left, deleting takes the last one off, breaking the
line sends the left side up, and deleting with nothing on the left brings it down again.

No edit touches the right side, but for the indentation that a break puts on the new line's left.
-/

namespace Scriptpad.Document

variable {doc : Document} {up down : List Text} {left right line : Text}

/-- The cursor stands between `left` and `right` on its line, with the lines `up` above it and the
lines `down` below. -/
structure StandsBetween (doc : Document) (up : List Text) (left right : Text) (down : List Text) :
    Prop where
  lines : doc.lines = up ++ (left ++ right) :: down
  cursor : doc.cursor = ⟨up.length, left.length⟩

theorem WellFormed.standsBetween (h : doc.WellFormed) :
    doc.StandsBetween doc.above (doc.cursorLine.take doc.cursor.column)
      (doc.cursorLine.drop doc.cursor.column) doc.below where
  lines := by rw [List.take_append_drop, ← lines_eq h.line_lt]
  cursor := by rw [length_above h.line_lt, List.length_take_of_le h.column_le]

/-- Behind the start of a line, the text on the left ends with a character. -/
theorem WellFormed.exists_take_eq (h : doc.WellFormed) (hpos : 0 < doc.cursor.column) :
    ∃ c, doc.cursorLine[doc.cursor.column - 1]? = some c ∧
      doc.cursorLine.take doc.cursor.column =
        doc.cursorLine.take (doc.cursor.column - 1) ++ [c] := by
  have hlt : doc.cursor.column - 1 < doc.cursorLine.length := by
    have hle := h.column_le
    omega
  refine ⟨doc.cursorLine[doc.cursor.column - 1], List.getElem?_eq_getElem hlt, ?_⟩
  rw [List.take_append_getElem, Nat.sub_add_cancel hpos]

/-- At the start of a line there is nothing on the left. -/
theorem WellFormed.standsBetween_of_start (h : doc.WellFormed) (hzero : doc.cursor.column = 0)
    (hpos : 0 < doc.cursor.line) :
    doc.StandsBetween
      (doc.lines.take (doc.cursor.line - 1) ++ [doc.line (doc.cursor.line - 1)]) []
      doc.cursorLine doc.below := by
  have hstands := h.standsBetween
  rwa [above_eq h.line_lt hpos, hzero] at hstands

theorem StandsBetween.line_lt (h : doc.StandsBetween up left right down) :
    doc.cursor.line < doc.lines.length := by
  rw [h.lines, h.cursor, List.length_append, List.length_cons]
  exact Nat.lt_add_of_pos_right (Nat.succ_pos _)

theorem StandsBetween.parts (h : doc.StandsBetween up left right down) :
    doc.above = up ∧ doc.cursorLine = left ++ right ∧ doc.below = down :=
  parts_eq h.lines (congrArg Position.line h.cursor)

theorem StandsBetween.column (h : doc.StandsBetween up left right down) :
    doc.cursor.column = left.length :=
  congrArg Position.column h.cursor

/-! ### What each edit makes of the parts -/

theorem StandsBetween.typeChar (h : doc.StandsBetween up left right down) (c : Char) :
    (doc.typeChar c).StandsBetween up (left ++ [c]) right down := by
  obtain ⟨habove, hline, hbelow⟩ := h.parts
  refine ⟨?_, ?_⟩
  · rw [lines_typeChar h.line_lt, habove, hline, hbelow, h.column, Text.insertAt, List.take_left,
      List.drop_left, List.append_assoc, List.singleton_append]
  · show (⟨doc.cursor.line, doc.cursor.column + 1⟩ : Position) = _
    rw [h.cursor, List.length_append]
    rfl

/-- A break sends what is on the left up, and the new line is indented like the old one was. -/
theorem StandsBetween.breakLine (h : doc.StandsBetween up left right down) :
    doc.breakLine.StandsBetween (up ++ [left])
      (Text.spaces (Text.leadingSpaces (left ++ right))) right down := by
  obtain ⟨habove, hline, hbelow⟩ := h.parts
  refine ⟨?_, ?_⟩
  · rw [lines_breakLine, habove, hline, hbelow, h.column, List.take_left, List.drop_left]
  · show (⟨doc.cursor.line + 1, Text.leadingSpaces doc.cursorLine⟩ : Position) = _
    rw [h.cursor, hline, List.length_append, Text.spaces, List.length_replicate]
    rfl

theorem StandsBetween.deleteLeft {c : Char} (h : doc.StandsBetween up (left ++ [c]) right down) :
    doc.deleteLeft.StandsBetween up left right down := by
  obtain ⟨habove, hline, hbelow⟩ := h.parts
  have hcolumn : doc.cursor.column = left.length + 1 := by
    rw [h.column, List.length_append]
    rfl
  have hpos : 0 < doc.cursor.column := hcolumn ▸ Nat.succ_pos _
  refine ⟨?_, ?_⟩
  · have hleft : (left ++ [c] ++ right).take left.length = left := by
      rw [List.append_assoc, List.take_left]
    have hright : (left ++ [c] ++ right).drop (left.length + 1) = right :=
      List.drop_left' (by rw [List.length_append]; rfl)
    rw [lines_deleteLeft h.line_lt hpos, habove, hline, hbelow, hcolumn, Text.deleteBefore,
      Nat.add_sub_cancel, hleft, hright]
  · rw [cursor_deleteLeft hpos, h.cursor, List.length_append]
    rfl

/-- With nothing on the left, the line above is brought down to the left. -/
theorem StandsBetween.joinLeft (h : doc.StandsBetween (up ++ [line]) [] right down) :
    doc.deleteLeft.StandsBetween up line right down := by
  obtain ⟨-, hline, hbelow⟩ := h.parts
  have hzero : doc.cursor.column = 0 := h.column
  have hcursor : doc.cursor.line = up.length + 1 := by
    rw [h.cursor, List.length_append]
    rfl
  have hpos : 0 < doc.cursor.line := hcursor ▸ Nat.succ_pos _
  have hlines : doc.lines = up ++ line :: right :: down := by
    rw [h.lines, List.append_assoc]
    rfl
  have habove : doc.line (doc.cursor.line - 1) = line := by
    rw [hcursor, Nat.add_sub_cancel, Document.line, line?, hlines,
      List.getElem?_append_right (Nat.le_refl _), Nat.sub_self]
    rfl
  refine ⟨?_, ?_⟩
  · rw [lines_joinLeft h.line_lt hzero hpos, habove, hline, hbelow, hcursor, Nat.add_sub_cancel,
      hlines, List.take_left]
    rfl
  · rw [cursor_joinLeft hzero hpos, habove, hcursor]
    rfl

end Scriptpad.Document
