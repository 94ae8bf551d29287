import Scriptpad.Document.Basic
import Scriptpad.Keyboard

/-!
# Moving the cursor

Movements stay within the document: one that would leave it at an edge does nothing. Moving to a
shorter line puts the cursor at its end, and the column that it had before is not remembered.
-/

namespace Scriptpad.Document

/-- The position in the cursor's column on another line, or at that line's end. -/
def onLine (doc : Document) (line : Nat) : Position :=
  ⟨line, min doc.cursor.column (doc.line line).length⟩

/-- Where a movement leads, unless it would leave the document. -/
def target? (doc : Document) : Movement → Option Position
  | .left => some ⟨doc.cursor.line, doc.cursor.column - 1⟩
  | .right => some ⟨doc.cursor.line, min (doc.cursor.column + 1) doc.cursorLine.length⟩
  | .up => if 0 < doc.cursor.line then some (doc.onLine (doc.cursor.line - 1)) else none
  | .down =>
    if doc.cursor.line + 1 < doc.size then some (doc.onLine (doc.cursor.line + 1)) else none
  | .lineStart => some ⟨doc.cursor.line, 0⟩
  | .lineEnd => some ⟨doc.cursor.line, doc.cursorLine.length⟩

/-- Moves the cursor, if there is somewhere to move to. -/
def move (doc : Document) (d : Movement) : Document :=
  match doc.target? d with
  | some position => doc.moveTo position
  | none => doc

@[simp] theorem lines_move (doc : Document) (d : Movement) : (doc.move d).lines = doc.lines := by
  unfold move
  split <;> rfl

@[simp] theorem modified_move (doc : Document) (d : Movement) :
    (doc.move d).modified = doc.modified := by
  unfold move
  split <;> rfl

end Scriptpad.Document
