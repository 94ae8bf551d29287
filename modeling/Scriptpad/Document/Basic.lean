import Scriptpad.Document.Window
import Scriptpad.Text.Lines

/-!
# Documents under edit

A document under edit has lines, of which there is always at least one, a cursor, a window of lines
that are shown, and a mark that says whether the lines may differ from the file. Columns count
characters, and the column behind the last character of a line is a position too.

`WellFormed` says what holds of every document that the operations build: the cursor is a position
of the document and its line is in the window. Operations are total; on a document that is not well
formed a missing line counts as empty.
-/

namespace Scriptpad

/-- A place in a document. Lines and columns count from zero. -/
structure Position where
  line : Nat
  column : Nat
  deriving Repr, DecidableEq

/-- A document under edit. -/
structure Document where
  lines : List Text
  cursor : Position
  window : Window
  modified : Bool
  deriving Repr, DecidableEq

namespace Document

/-- The height of a window before a screen has given it one. -/
def defaultHeight : Nat := 20

/-- The document with the given lines, or with one empty line if there are none. -/
def ofLines (lines : List Text) : Document where
  lines := if lines = [] then [[]] else lines
  cursor := ⟨0, 0⟩
  window := .ofHeight defaultHeight
  modified := false

/-- The document with one empty line. -/
def empty : Document :=
  ofLines []

/-- The document with the lines of a file's text. -/
def ofText (t : Text) : Document :=
  ofLines (Text.lines t)

/-- The number of lines. -/
def size (doc : Document) : Nat :=
  doc.lines.length

/-- A line of the document. -/
def line? (doc : Document) (index : Nat) : Option Text :=
  doc.lines[index]?

/-- A line of the document, empty if there is no such line. -/
def line (doc : Document) (index : Nat) : Text :=
  (doc.line? index).getD []

/-- The line that the cursor is on. -/
def cursorLine (doc : Document) : Text :=
  doc.line doc.cursor.line

/-- The whole document as one text. -/
def text (doc : Document) : Text :=
  Text.joinWith ['\n'] doc.lines

/-- The lines in the window, each with its number. -/
def visibleLines (doc : Document) : List (Nat × Text) :=
  let shown := (doc.lines.zipIdx.drop doc.window.offset).take doc.window.height
  shown.map fun (line, index) ↦ (index, line)

/-- The cursor is a position of the document, and the window shows its line. -/
structure WellFormed (doc : Document) : Prop where
  line_lt : doc.cursor.line < doc.lines.length
  column_le : doc.cursor.column ≤ doc.cursorLine.length
  height_pos : doc.window.WellFormed
  visible : doc.window.contains doc.cursor.line = true

/-- Puts the cursor at a position and lets the window follow it. -/
def moveTo (doc : Document) (position : Position) : Document :=
  { doc with cursor := position, window := doc.window.follow position.line }

/-- Gives the window another height, keeping the cursor's line in it. -/
def resizeWindow (doc : Document) (height : Nat) : Document :=
  { doc with window := doc.window.resize height doc.cursor.line }

/-! ### Laws -/

theorem lines_ofLines_ne_nil (lines : List Text) : (ofLines lines).lines ≠ [] := by
  unfold ofLines
  split <;> simp_all

theorem lines_ofLines_of_ne_nil {lines : List Text} (h : lines ≠ []) :
    (ofLines lines).lines = lines :=
  if_neg h

theorem wellFormed_ofLines (lines : List Text) : (ofLines lines).WellFormed where
  line_lt := List.length_pos_iff.2 (lines_ofLines_ne_nil lines)
  column_le := Nat.zero_le _
  height_pos := Window.wellFormed_ofHeight _
  visible := by simp [ofLines, Window.contains, Window.ofHeight]

theorem wellFormed_resizeWindow {doc : Document} (h : doc.WellFormed) (height : Nat) :
    (doc.resizeWindow height).WellFormed where
  line_lt := h.line_lt
  column_le := h.column_le
  height_pos := Window.wellFormed_resize _ _ _
  visible := Window.contains_resize _ _ _

end Document

end Scriptpad
