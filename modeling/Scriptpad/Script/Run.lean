import Scriptpad.Effect

/-!
# Running a script

A script runs line by line from its first line. Each line is read, reported and carried out
before the next is looked at; the first line that is an error ends the run, and nothing of what
came before is taken back. A run starts with no variable and gives back the variables at its end.

A run touches no file, so it is a function from the lines to the events and the result.
-/

namespace Scriptpad.Script

/-- What a statement shows. -/
def Statement.outputs : Statement → List Output
  | .nothing => []
  | .print t => [.line t]
  | .assign .. => []
  | .clear => [.clear]
  | .color c => [.color c]
  | .beep => [.beep]
  | .play resource => [.sound resource]

/-- The variables after a statement. -/
def Statement.update (env : Bindings) : Statement → Bindings
  | .assign name value => env.insert name value
  | _ => env

/-- The events and the result of a run. -/
structure Run where
  events : List Event
  result : Except UnknownCommand Bindings

/-- The notices at the end of a run that reached its last line. -/
def closingNotices (lineCount : Nat) (env : Bindings) : List Event :=
  [.notice (.scriptFinished lineCount env.size), .notice (.scriptBindings env.summary)]

/-- The events of a line that is the statement `s`. -/
def Statement.events (s : Statement) : List Event :=
  .notice (.statementExecuted s) :: s.outputs.map .output

/-- Runs the given lines from the variables `env`, within a script of `lineCount` lines. -/
def runFrom (lineCount : Nat) (env : Bindings) : List Text → Run
  | [] => ⟨closingNotices lineCount env, .ok env⟩
  | line :: rest =>
    match Statement.ofLine line with
    | .error e => ⟨[.notice (.scriptAborted e)], .error e⟩
    | .ok s =>
      let more := runFrom lineCount (s.update env) rest
      { more with events := s.events ++ more.events }

/-- Runs a script. -/
def run (source : List Text) : Run :=
  runFrom source.length ∅ source

/-- Reads the lines of a script. -/
def readSource (path : Path) : Effect (Except Fault (List Text)) := do
  match ← Effect.readLines path with
  | .ok source =>
    Effect.notice (.scriptLoaded path source.length)
    return .ok source
  | .error cause => return .error (.source path cause)

/-- Runs a script as an effect. -/
def perform (source : List Text) : Effect (Except Fault Bindings) := do
  Effect.events (run source).events
  return (run source).result.mapError .command

/-- Reads and runs a script. -/
def performFile (path : Path) : Effect (Except Fault Bindings) := do
  match ← readSource path with
  | .ok source => perform source
  | .error fault => return .error fault

theorem runFrom_error {lineCount : Nat} {env : Bindings} {line : Text} {e : UnknownCommand}
    (h : Statement.ofLine line = .error e) (rest : List Text) :
    runFrom lineCount env (line :: rest) = ⟨[.notice (.scriptAborted e)], .error e⟩ := by
  simp only [runFrom, h]

end Scriptpad.Script
