import Scriptpad.Script.Run
import Scriptpad.Session.Basic

/-!
# The dialogue of a session with its user

A session proceeds by turns: it shows something and waits for one input, and the input decides what
is done and what the session waits for next. Mostly it waits for a key that edits; saving a
document without a name waits for the name, quitting with unsaved changes for an answer, and a
finished run of a script for any key.

So the state between two turns is a session, what it waits for, and the terminal's size, and one
step takes one input: `Dialogue.receive` is the whole behaviour of the editor. A change of the
terminal's size that arrives while a name or an answer is asked for is remembered but not acted
upon.
-/

namespace Scriptpad

/-- What saving is for. -/
inductive Purpose where
  | save
  | run
  | quit
  deriving Repr, DecidableEq

/-- What a session waits for. -/
inductive Waiting where
  /-- A key that edits, moves or gives a command. -/
  | command
  /-- The next character of a file name, of which `typed` is there already. -/
  | fileName (typed : Text) (purpose : Purpose)
  /-- The answer whether to save before the session ends. -/
  | answer
  /-- Any key, after a script has run. -/
  | anyKey
  deriving Repr, DecidableEq

/-- A session between two inputs, and the size of its terminal. -/
structure Dialogue where
  session : Session
  waiting : Waiting
  size : Terminal.Size
  deriving Repr, DecidableEq

namespace Session

/-- The question for a file name. -/
def nameQuestion : Text :=
  "Enter filename: ".toList

/-- The question before unsaved changes are given up. -/
def quitQuestion : Text :=
  "Save changes before exit? (Y/N): ".toList

/-- Saves the document and says whether it was written. -/
def saveTo (s : Session) (path : Path) : Effect (Session × Bool) := do
  let (document, report) ← s.document.save path
  let s := { s with document }
  match report with
  | .ok _ => return (s.withMessage "File saved successfully!".toList, true)
  | .error e =>
    Effect.terminal .beep
    return (s.withMessage e.message, false)

/-- Runs a script on the display, between a heading and a request for a key. -/
def runProgram (path : Path) : Effect Unit := do
  Effect.notice (.programStarted path)
  Effect.output .clear
  Effect.output (.line "=== Running Program ===".toList)
  Effect.output (.line [])
  match ← Script.performFile path with
  | .ok _ => pure ()
  | .error fault =>
    Effect.notice (.programFailed fault)
    Effect.output (.line [])
    Effect.output (.line ("Error: ".toList ++ fault.message))
  Effect.output (.line [])
  Effect.output (.line "Press any key to return to IDE...".toList)

/-- What follows a save, successful or not, that was made for a purpose. A script is run only from
a written file; a session that is to end does so in any case. -/
def afterSave (s : Session) (saved : Bool) : Purpose → Effect (Session × Waiting)
  | .save => return (s, .command)
  | .run => do
    match saved, s.path with
    | true, some path =>
      runProgram path
      return (s, .anyKey)
    | _, _ => return (s, .command)
  | .quit => return ({ s with running := false }, .command)

/-- Saves the document to its path, or asks for a name first. -/
def save (s : Session) (purpose : Purpose) : Effect (Session × Waiting) := do
  match s.path with
  | none => return (s, .fileName [] purpose)
  | some path =>
    let (s, saved) ← s.saveTo path
    s.afterSave saved purpose

/-- Saves the document under a name that was asked for, unless the name is blank. -/
def saveUnder (s : Session) (name : Text) (purpose : Purpose) : Effect (Session × Waiting) := do
  if Text.trim name = [] then
    (s.withMessage "Save cancelled.".toList).afterSave false purpose
  else
    let (s, saved) ← (s.bindPath (Text.trim name)).saveTo (Text.trim name)
    s.afterSave saved purpose

/-- Gives up a save for which no name was given. -/
def cancelSave (s : Session) (purpose : Purpose) : Effect (Session × Waiting) :=
  (s.withMessage "Save cancelled.".toList).afterSave false purpose

/-- Carries out an action, on a terminal of the given size. -/
def act (s : Session) (size : Terminal.Size) : Action → Effect (Session × Waiting)
  | .insert c => return ({ s with document := s.document.typeChar c }, .command)
  | .move d => return ({ s with document := s.document.move d }, .command)
  | .split => return ({ s with document := s.document.breakLine }, .command)
  | .delete => return ({ s with document := s.document.deleteLeft }, .command)
  | .save => s.save .save
  | .run => s.save .run
  | .quit =>
    if s.document.modified then return (s, .answer)
    else return ({ s with running := false }, .command)
  | .resize => return (s.adoptSize size, .command)
  | .ignore => return (s, .command)

/-- Takes a key while a file name is asked for. -/
def receiveName (s : Session) (typed : Text) (purpose : Purpose) (k : Key) :
    Effect (Session × Waiting) :=
  match k.code with
  | .enter => s.saveUnder typed purpose
  | .escape => s.cancelSave purpose
  | .backspace => return (s, .fileName typed.dropLast purpose)
  | .char c =>
    if k.modifiers.control then return (s, .fileName typed purpose)
    else return (s, .fileName (typed ++ [c]) purpose)
  | _ => return (s, .fileName typed purpose)

/-- Takes the answer whether to save before the session ends. -/
def receiveAnswer (s : Session) (k : Key) : Effect (Session × Waiting) :=
  if k.code = .char 'y' || k.code = .char 'Y' then s.save .quit
  else return ({ s with running := false }, .command)

/-- Takes any key after a script has run. -/
def receiveAnyKey (s : Session) : Effect (Session × Waiting) := do
  Effect.terminal .defaultColor
  return (s.withoutMessage, .command)

end Session

namespace Dialogue

/-- What is shown before an input is waited for. -/
def shows (d : Dialogue) : List Terminal.Request :=
  match d.waiting with
  | .command => d.session.paint
  | .fileName typed _ => d.session.screen.paintPrompt Session.nameQuestion typed
  | .answer => d.session.screen.paintPrompt Session.quitQuestion []
  | .anyKey => [.flush]

/-- The size of the terminal after an input. -/
def sizeAfter (d : Dialogue) : Input → Terminal.Size
  | .key _ => d.size
  | .resize size => size

/-- Carries out an action, on the session of a dialogue. -/
def act (d : Dialogue) (action : Action) : Effect Dialogue := do
  let (session, waiting) ← d.session.act d.size action
  return { d with session, waiting }

/-- Takes one input. -/
def receive (d : Dialogue) (input : Input) : Effect Dialogue := do
  let size := d.sizeAfter input
  let k := input.toKey
  let (session, waiting) ←
    match d.waiting with
    | .command => d.session.withoutMessage.act size k.action
    | .fileName typed purpose => d.session.receiveName typed purpose k
    | .answer => d.session.receiveAnswer k
    | .anyKey => d.session.receiveAnyKey
  return { session, waiting, size }

end Dialogue

end Scriptpad
