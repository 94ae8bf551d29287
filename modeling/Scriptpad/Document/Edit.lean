import Scriptpad.Document.Basic

/-!
# Editing

The three edits of a document: typing a character, deleting the character before the cursor, and
breaking a line. Deleting at the start of a line joins it to the line before. Breaking a line
indents the new one like the line it came from, the indentation being that of the whole line even if
the cursor stands within it.

Every edit marks the document as modified; deleting at its very start changes nothing. Each edit
moves the cursor by at most one line, so the window keeps showing it.

Main statement: `deleteBefore_insertAt`, deleting undoes typing.
-/

namespace Scriptpad

/-! ### Editing a line -/

namespace Text

/-- The line with a character inserted at a column, at its end if it is shorter. -/
def insertAt (column : Nat) (c : Char) (line : Text) : Text :=
  line.take column ++ c :: line.drop column

/-- The line without the character before a column. -/
def deleteBefore (column : Nat) (line : Text) : Text :=
  line.take (column - 1) ++ line.drop column

@[simp] theorem length_insertAt (column : Nat) (c : Char) (line : Text) :
    (insertAt column c line).length = line.length + 1 := by
  simp [insertAt]
  omega

theorem deleteBefore_insertAt {column : Nat} {line : Text} (h : column ≤ line.length) (c : Char) :
    deleteBefore (column + 1) (insertAt column c line) = line := by
  have hlen : (line.take column).length = column := by simp [h]
  simp only [deleteBefore, insertAt, Nat.add_sub_cancel]
  rw [List.take_append_of_le_length (by omega), List.take_of_length_le (by omega),
    List.drop_append, hlen, List.drop_of_length_le (by omega)]
  simp

end Text

namespace Document

/-! ### Editing a document -/

/-- Types a character at the cursor, which moves behind it. -/
def typeChar (doc : Document) (c : Char) : Document :=
  { doc with
      lines := doc.lines.modify doc.cursor.line (Text.insertAt doc.cursor.column c)
      modified := true }.moveTo ⟨doc.cursor.line, doc.cursor.column + 1⟩

/-- Deletes the character before the cursor; at the start of a line, the break before it. -/
def deleteLeft (doc : Document) : Document :=
  if 0 < doc.cursor.column then
    { doc with
        lines := doc.lines.modify doc.cursor.line (Text.deleteBefore doc.cursor.column)
        modified := true }.moveTo ⟨doc.cursor.line, doc.cursor.column - 1⟩
  else if 0 < doc.cursor.line then
    let above := doc.cursor.line - 1
    { doc with
        lines := (doc.lines.eraseIdx doc.cursor.line).modify above (· ++ doc.cursorLine)
        modified := true }.moveTo ⟨above, (doc.line above).length⟩
  else doc

/-- Breaks the line at the cursor, which moves behind the new line's indentation. -/
def breakLine (doc : Document) : Document :=
  let indent := Text.leadingSpaces doc.cursorLine
  let head := doc.cursorLine.take doc.cursor.column
  let tail := Text.spaces indent ++ doc.cursorLine.drop doc.cursor.column
  { doc with
      lines :=
        doc.lines.take doc.cursor.line ++ head :: tail :: doc.lines.drop (doc.cursor.line + 1)
      modified := true }.moveTo ⟨doc.cursor.line + 1, indent⟩

/-- Types the characters of a text one after another. -/
def typeText (doc : Document) (t : Text) : Document :=
  t.foldl typeChar doc

end Document

end Scriptpad
