import Scriptpad.Document.Edit
import Scriptpad.Document.Motion
import Scriptpad.Effect

/-!
# Loading and saving

Loading replaces the whole document, whatever it was; only the height of the window stays. If the
file cannot be read one empty line is left. Saving writes the lines and changes nothing but the
modified mark, which it takes off if the write succeeds.

`Command` lists all that can be done to a document, so that a statement about every history of a
document is one about lists of commands.
-/

namespace Scriptpad.Document

/-- The document with freshly read lines, in a window as high as before. -/
def reloaded (doc : Document) (lines : List Text) : Document :=
  { ofLines lines with window := .ofHeight doc.window.height }

/-- Loads the lines of a file and gives their number. -/
def load (doc : Document) (path : Path) : Effect (Document × Except FileError Nat) := do
  match ← Effect.readLines path with
  | .ok lines =>
    Effect.notice (.documentLoaded path lines.length)
    return (doc.reloaded lines, .ok lines.length)
  | .error cause =>
    Effect.notice (.loadFailed (.load path cause))
    return (doc.reloaded [], .error (.load path cause))

/-- Saves the lines to a file and gives their number. -/
def save (doc : Document) (path : Path) : Effect (Document × Except FileError Nat) := do
  match ← Effect.writeLines path doc.lines with
  | .ok () =>
    Effect.notice (.documentSaved path doc.size)
    return ({ doc with modified := false }, .ok doc.size)
  | .error cause =>
    Effect.notice (.saveFailed (.save path cause))
    return (doc, .error (.save path cause))

/-- Something done to a document. -/
inductive Command where
  | insert (c : Char)
  | delete
  | split
  | move (d : Movement)
  | setHeight (height : Nat)
  | load (path : Path)
  | save (path : Path)
  deriving Repr, DecidableEq

/-- Carries out a command, giving what a load or a save reports. -/
def perform (doc : Document) : Command → Effect (Document × Option (Except FileError Nat))
  | .insert c => return (doc.typeChar c, none)
  | .delete => return (doc.deleteLeft, none)
  | .split => return (doc.breakLine, none)
  | .move d => return (doc.move d, none)
  | .setHeight height => return (doc.resizeWindow height, none)
  | .load path => do
    let (doc, report) ← doc.load path
    return (doc, some report)
  | .save path => do
    let (doc, report) ← doc.save path
    return (doc, some report)

/-- Carries out commands in order. -/
def performAll (doc : Document) : List Command → Effect Document
  | [] => return doc
  | c :: more => do
    let (doc, _) ← doc.perform c
    doc.performAll more

end Scriptpad.Document
