import Scriptpad.Script.Statement
import Scriptpad.Storage

/-!
# Faults of a run

A script is not run to its end because its file cannot be read, or because a line gives a device a
command that it does not know.
-/

namespace Scriptpad.Script

/-- Why a script was not run to its end. -/
inductive Fault where
  | command (e : UnknownCommand)
  | source (path : Path) (cause : Failure)
  deriving Repr, DecidableEq

/-- The wording of a fault. -/
def Fault.message : Fault → Text
  | .command e => "Runtime Error: ".toList ++ e.message
  | .source path cause =>
    "Runtime Error: cannot read ".toList ++ path ++ ": ".toList ++ cause.detail

end Scriptpad.Script
