import Scriptpad.Text.Basic

/-!
# Storage

Files are read and written whole, as lists of lines. What keeps the files is left open: a `Store`
answers a read and a write from a state of any type, and may refuse either at any time, so a
statement about every store covers failing disks as well as files that change between two reads.
-/

namespace Scriptpad

/-- The name of a file. -/
abbrev Path := Text

/-- The kinds of reasons for which a file is not read or written. -/
inductive FailureKind where
  | notFound
  | permissionDenied
  | isADirectory
  | notADirectory
  | invalidData
  | invalidInput
  | invalidFilename
  | other
  deriving Repr, DecidableEq

/-- Why a file was not read or written: the kind of reason, and its wording. -/
structure Failure where
  kind : FailureKind
  detail : Text
  deriving Repr, DecidableEq

/-- A document could not be loaded or saved. -/
inductive FileError where
  | load (path : Path) (cause : Failure)
  | save (path : Path) (cause : Failure)
  deriving Repr, DecidableEq

/-- The failure behind a file error. -/
def FileError.cause : FileError → Failure
  | .load _ cause => cause
  | .save _ cause => cause

/-- The wording of a file error. -/
def FileError.message : FileError → Text
  | .load path cause => "Error loading file ".toList ++ path ++ ": ".toList ++ cause.detail
  | .save path cause => "Error saving file ".toList ++ path ++ ": ".toList ++ cause.detail

/-- What keeps files: it answers reads and writes from a state that both may change. -/
structure Store (σ : Type) where
  read : Path → σ → Except Failure (List Text) × σ
  write : Path → List Text → σ → Except Failure Unit × σ

end Scriptpad
