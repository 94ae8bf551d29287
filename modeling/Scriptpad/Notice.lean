import Scriptpad.Script.Fault

/-!
# Notices

What the library reports about its own work, for a log. Each kind of notice has a level, an area,
a fixed message and named fields, so that a notice carries only what varies. A statement that is
carried out is the one thing that varies and has no wording of its own, so it is no field of its
notice.
-/

namespace Scriptpad

/-- How important a notice is. -/
inductive Level where
  | debug
  | info
  | warn
  | error
  deriving Repr, DecidableEq

/-- The name of a level, as a log shows it. -/
def Level.name : Level → Text
  | .debug => "DEBUG".toList
  | .info => "INFO".toList
  | .warn => "WARN".toList
  | .error => "ERROR".toList

/-- The value of a field of a notice. -/
inductive Field where
  | text (t : Text)
  | count (n : Nat)
  | flag (b : Bool)
  deriving Repr, DecidableEq

/-- The text of a field's value. -/
def Field.shown : Field → Text
  | .text t => t
  | .count n => Decimal.digits n
  | .flag true => "true".toList
  | .flag false => "false".toList

/-- Something worth a line in the log. -/
inductive Notice where
  | scriptLoaded (file : Path) (lineCount : Nat)
  | statementExecuted (s : Script.Statement)
  | scriptAborted (e : Script.UnknownCommand)
  | scriptFinished (lineCount bindingCount : Nat)
  | scriptBindings (summary : Text)
  | documentLoaded (file : Path) (lineCount : Nat)
  | loadFailed (e : FileError)
  | documentSaved (file : Path) (lineCount : Nat)
  | saveFailed (e : FileError)
  | sessionStarted (title : Text)
  | sessionEnded (ok : Bool)
  | programStarted (file : Path)
  | programFailed (fault : Script.Fault)
  | soundUnsupported (resource : Text)
  | exitedWithError (message : Text)
  deriving Repr, DecidableEq

namespace Notice

/-- The level of a notice. -/
def level : Notice → Level
  | scriptLoaded .. | statementExecuted _ | scriptBindings _ | documentLoaded ..
  | documentSaved .. => .debug
  | scriptAborted _ | scriptFinished .. | sessionStarted _ | sessionEnded _ | programStarted _
  | soundUnsupported _ => .info
  | loadFailed _ | saveFailed _ | programFailed _ => .warn
  | exitedWithError _ => .error

/-- The area that a notice is about. -/
def area : Notice → Text
  | scriptLoaded .. | statementExecuted _ | scriptAborted _ | scriptFinished ..
  | scriptBindings _ => "script".toList
  | documentLoaded .. | loadFailed _ | documentSaved .. | saveFailed _ => "io".toList
  | sessionStarted _ | sessionEnded _ | programStarted _ | programFailed _ | exitedWithError _ =>
    "app".toList
  | soundUnsupported _ => "audio".toList

/-- The fixed message of a notice. -/
def message : Notice → Text
  | scriptLoaded .. => "script_loaded".toList
  | statementExecuted _ => "execute".toList
  | scriptAborted _ => "script_aborted".toList
  | scriptFinished .. => "script_finished".toList
  | scriptBindings _ => "script_bindings".toList
  | documentLoaded .. => "buffer_loaded".toList
  | loadFailed _ => "buffer_load_failed".toList
  | documentSaved .. => "buffer_saved".toList
  | saveFailed _ => "buffer_save_failed".toList
  | sessionStarted _ => "session_start".toList
  | sessionEnded _ => "session_end".toList
  | programStarted _ => "run_script".toList
  | programFailed _ => "run_failed".toList
  | soundUnsupported _ => "play_sound_unsupported".toList
  | exitedWithError _ => "exit_with_error".toList

/-- The fields of a notice. -/
def fields : Notice → List (Text × Field)
  | scriptLoaded file n | documentLoaded file n | documentSaved file n =>
    [("file".toList, .text file), ("line_count".toList, .count n)]
  | statementExecuted _ => []
  | scriptAborted e => [("err".toList, .text e.message)]
  | scriptFinished lines bindings =>
    [("lines".toList, .count lines), ("bindings".toList, .count bindings)]
  | scriptBindings summary => [("bindings".toList, .text summary)]
  | loadFailed e | saveFailed e => [("err".toList, .text e.message)]
  | sessionStarted title => [("file".toList, .text title)]
  | sessionEnded ok => [("ok".toList, .flag ok)]
  | programStarted file => [("file".toList, .text file)]
  | programFailed fault => [("err".toList, .text fault.message)]
  | soundUnsupported resource => [("resource".toList, .text resource)]
  | exitedWithError m => [("err".toList, .text m)]

/-- The line of a notice in a log, without the time. -/
def logLine (n : Notice) : Text :=
  n.level.name ++ [' '] ++ n.area ++ ": ".toList ++ n.message
    ++ n.fields.flatMap fun (name, value) ↦ ' ' :: name ++ '=' :: value.shown

end Notice

end Scriptpad
