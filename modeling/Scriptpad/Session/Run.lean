import Scriptpad.Session.Dialogue

/-!
# A session from beginning to end

A whole session takes over the terminal, alternates between showing and waiting until it has come
to its end, and gives the terminal back. The inputs are a list: a session whose inputs are used up
while it still waits for one fails, and the terminal is given back all the same. A terminal may
refuse to be taken over, and then nothing happens, or to be given back.

Main statements: `Dialogue.converse_of_finished` and `Session.run_of_refused`.
-/

namespace Scriptpad

/-- A terminal that a session runs on: its size, and for what reasons it refuses to be taken over
or given back. -/
structure Desk where
  size : Terminal.Size
  refusesEntry : Option Text := none
  refusesLeave : Option Text := none
  deriving Repr, DecidableEq

/-- Why a session did not come to its end. -/
inductive SessionFault where
  | terminal (detail : Text)
  | inputExhausted
  deriving Repr, DecidableEq

namespace Dialogue

/-- What a conversation leaves: the last state, the files, the events in order, the inputs that
were not taken, and whether it came to its end. -/
structure Conversation (σ : Type) where
  dialogue : Dialogue
  files : σ
  events : List Event
  unread : List Input
  result : Except SessionFault Unit
  deriving Repr

/-- The events of one turn before its input is taken. -/
def turnEvents (d : Dialogue) (input : Option Input) : List Event :=
  d.shows.map .terminal ++ [.awaitInput input]

/-- Shows and takes inputs in turn until `finished` holds. -/
def converse {σ : Type} (store : Store σ) (finished : Dialogue → Bool) :
    List Input → Dialogue → σ → Conversation σ
  | [], d, files =>
    if finished d then ⟨d, files, [], [], .ok ()⟩
    else ⟨d, files, d.turnEvents none, [], .error .inputExhausted⟩
  | input :: inputs, d, files =>
    if finished d then ⟨d, files, [], input :: inputs, .ok ()⟩
    else
      let out := (d.receive input).perform store files
      let more := converse store finished inputs out.value out.files
      { more with events := d.turnEvents (some input) ++ out.events ++ more.events }

theorem converse_of_finished {σ : Type} (store : Store σ) {finished : Dialogue → Bool}
    {d : Dialogue} (h : finished d = true) (inputs : List Input) (files : σ) :
    converse store finished inputs d files = ⟨d, files, [], inputs, .ok ()⟩ := by
  cases inputs <;> simp [converse, h]

end Dialogue

namespace Session

open Dialogue

/-- What a session leaves. -/
structure Report (σ : Type) where
  session : Session
  size : Terminal.Size
  files : σ
  events : List Event
  unread : List Input
  result : Except SessionFault Unit
  deriving Repr

/-- A dialogue is over when its session has ended. -/
def isOver (d : Dialogue) : Bool :=
  !d.session.running

/-- A dialogue is at rest when its session waits for a command. -/
def isAtRest (d : Dialogue) : Bool :=
  d.waiting = .command

/-- The events and the result of giving the terminal back after a conversation. -/
def closing (desk : Desk) (result : Except SessionFault Unit) :
    List Event × Except SessionFault Unit :=
  match desk.refusesLeave with
  | some detail => ([.leaveTerminal], .error (.terminal detail))
  | none => ([.leaveTerminal, .notice (.sessionEnded result.isOk)], result)

/-- Runs a session on a terminal to its end. -/
def run {σ : Type} (s : Session) (store : Store σ) (desk : Desk) (inputs : List Input)
    (files : σ) : Report σ :=
  match desk.refusesEntry with
  | some detail => ⟨s, desk.size, files, [.enterTerminal], inputs, .error (.terminal detail)⟩
  | none =>
    let opened := s.adoptSize desk.size
    let talk := converse store isOver inputs ⟨opened, .command, desk.size⟩ files
    let (ending, result) := closing desk talk.result
    { session := talk.dialogue.session
      size := talk.dialogue.size
      files := talk.files
      events :=
        [.enterTerminal, .notice (.sessionStarted opened.title)] ++ talk.events ++ ending
      unread := talk.unread
      result }

/-- Carries out a single action with the inputs that it asks for. -/
def perform {σ : Type} (s : Session) (store : Store σ) (size : Terminal.Size) (action : Action)
    (inputs : List Input) (files : σ) : Report σ :=
  let out := (Dialogue.act ⟨s, .command, size⟩ action).perform store files
  let talk := converse store isAtRest inputs out.value out.files
  { session := talk.dialogue.session
    size := talk.dialogue.size
    files := talk.files
    events := out.events ++ talk.events
    unread := talk.unread
    result := talk.result }

/-- A terminal that refuses to be taken over leaves everything as it was. -/
theorem run_of_refused {σ : Type} (s : Session) (store : Store σ) {desk : Desk} {detail : Text}
    (h : desk.refusesEntry = some detail) (inputs : List Input) (files : σ) :
    s.run store desk inputs files =
      ⟨s, desk.size, files, [.enterTerminal], inputs, .error (.terminal detail)⟩ := by
  simp [run, h]

end Session

end Scriptpad
