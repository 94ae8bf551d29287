import Scriptpad.Path
import Scriptpad.Text.Encoding
import Scriptpad.Text.Lines

/-!
# Files on a disk

A disk is a tree of directories with files that hold bytes. It is kept flat, as a list of places,
where a place is the list of names that leads to it from the root. A path is followed step by step
from the working directory, or from the root if it begins with a slash: every step but the last
must be a directory, a single dot stays, and two dots go up. A slash at the end says that the path
is that of a directory.

A file is read as text if its bytes are UTF-8, and text is cut into lines and joined from lines as
`Text.lines` and `Text.ofLines` say.

A file is emptied when it is opened for writing, and then written. There may be no room for all of
it, and then the write fails with the file already changed. Where that happens is left open: a
`Limit` says how far a file can be written, and a disk with limits is a store of its own
(`storeWithin`). The plain `store` has room for everything.

Main statement: `bytes?_writeBytes`, a file that was written holds what was written.
-/

namespace Scriptpad

/-- The names that lead from the root to a file or a directory. -/
abbrev Place := List Text

/-- Directories and files. The root is always a directory. -/
structure Disk where
  home : Place := []
  directories : List Place := []
  files : List (Place × ByteArray) := []

namespace Disk

/-! ### Failures -/

def notFound : Failure := ⟨.notFound, "No such file or directory (os error 2)".toList⟩

def notADirectory : Failure := ⟨.notADirectory, "Not a directory (os error 20)".toList⟩

def isADirectory : Failure := ⟨.isADirectory, "Is a directory (os error 21)".toList⟩

def nameTooLong : Failure := ⟨.invalidFilename, "File name too long (os error 36)".toList⟩

def zeroInName : Failure :=
  ⟨.invalidInput, "file name contained an unexpected NUL byte".toList⟩

def notText : Failure := ⟨.invalidData, "stream did not contain valid UTF-8".toList⟩

/-! ### Places -/

/-- Whether a place is a directory. -/
def isDirectory (d : Disk) (place : Place) : Bool :=
  place.isEmpty || d.directories.contains place

/-- The bytes of the file at a place. -/
def bytes? (d : Disk) (place : Place) : Option ByteArray :=
  (d.files.find? fun file ↦ file.1 == place).map (·.2)

/-- Enters a place, which must be a directory. -/
def enter (d : Disk) (place : Place) : Except Failure Unit :=
  if d.isDirectory place then .ok ()
  else if (d.bytes? place).isSome then .error notADirectory
  else .error notFound

/-- One step from a place, which must be a directory, to a name in it. -/
def step (d : Disk) (place : Place) (name : Text) : Except Failure Place := do
  d.enter place
  if name = Path.here then .ok place
  else if name = Path.upward then .ok place.dropLast
  else if 255 < Text.byteCount name then .error nameTooLong
  else .ok (place ++ [name])

/-- Where a path begins: at the root or in the working directory. A path may not be empty, and it
must be short enough and free of zero characters. -/
def origin (d : Disk) (path : Path) : Except Failure Place :=
  if '\x00' ∈ path then .error zeroInName
  else if path = [] then .error notFound
  else if 4096 ≤ Text.byteCount path then .error nameTooLong
  else if Path.isAbsolute path then .ok []
  else .ok d.home

/-- The place that a path leads to, where there need not be anything. -/
def locate (d : Disk) (path : Path) : Except Failure Place := do
  (Path.steps path).foldlM d.step (← d.origin path)

/-- Whether a path can only be that of a directory. -/
def endsWithSlash (path : Path) : Bool :=
  path.getLast? == some '/'

/-! ### Reading -/

/-- The bytes of a file. -/
def readBytes (d : Disk) (path : Path) : Except Failure ByteArray := do
  let place ← d.locate path
  if d.isDirectory place then .error isADirectory
  else match d.bytes? place with
    | none => .error notFound
    | some bytes => if endsWithSlash path then .error notADirectory else .ok bytes

/-- The text of a file. -/
def readText (d : Disk) (path : Path) : Except Failure Text := do
  let bytes ← d.readBytes path
  match Text.decode? bytes with
  | some t => .ok t
  | none => .error notText

/-- Whether a path leads to a file or a directory. -/
def exists? (d : Disk) (path : Path) : Bool :=
  match d.locate path with
  | .ok place => d.isDirectory place || ((d.bytes? place).isSome && !endsWithSlash path)
  | .error _ => false

/-! ### Writing -/

/-- The files with new contents for one of them, which is added if it is not there. -/
def putFile (place : Place) (bytes : ByteArray) :
    List (Place × ByteArray) → List (Place × ByteArray)
  | [] => [(place, bytes)]
  | file :: more =>
    if file.1 = place then (place, bytes) :: more else file :: putFile place bytes more

/-- The disk with new contents for the file at a place. -/
def writeBytes (d : Disk) (place : Place) (bytes : ByteArray) : Disk :=
  { d with files := putFile place bytes d.files }

/-- The place at which a file can be written. The last name of the path of a directory is not looked
at, but those before it are. -/
def locateForWriting (d : Disk) (path : Path) : Except Failure Place := do
  if endsWithSlash path then
    d.enter (← (Path.steps path).dropLast.foldlM d.step (← d.origin path))
    .error isADirectory
  else
    let place ← d.locate path
    if d.isDirectory place then .error isADirectory else .ok place

/-- How far a file can be written: how many bytes of it, and why no more. -/
structure Limit where
  size : Nat
  cause : Failure

/-- Writes the text of a file, which must not be a directory. If it goes beyond the limit, the write
fails and the file holds what was written until then. -/
def writeText (limit? : Disk → Place → Option Limit) (d : Disk) (path : Path) (t : Text) :
    Except Failure Unit × Disk :=
  match d.locateForWriting path with
  | .error cause => (.error cause, d)
  | .ok place =>
    let bytes := Text.encode t
    match (limit? d place).filter (·.size < bytes.size) with
    | some limit => (.error limit.cause, d.writeBytes place (bytes.extract 0 limit.size))
    | none => (.ok (), d.writeBytes place bytes)

/-- The disk with a directory, unless something is there already. -/
def addDirectory (d : Disk) (place : Place) : Disk :=
  if d.isDirectory place || (d.bytes? place).isSome then d
  else { d with directories := d.directories ++ [place] }

/-- Goes along the given names, making the directories that are missing, and gives the place that
is reached. -/
def makeDirectories (d : Disk) (place : Place) : List Text → Except Failure (Disk × Place)
  | [] => .ok (d, place)
  | name :: more => do
    let place ← d.step place name
    (d.addDirectory place).makeDirectories place more

/-- Adds text at the end of a file, making the file and the directories on the way to it. -/
def appendMaking (d : Disk) (path : Path) (t : Text) : Except Failure Disk := do
  match Path.fileName? path with
  | none => .error isADirectory
  | some name =>
    let start := if Path.isAbsolute path then [] else d.home
    let (d, place) ← d.makeDirectories start (Path.directoryNames path)
    let place ← d.step place name
    if d.isDirectory place then .error isADirectory
    else return d.writeBytes place ((d.bytes? place).getD .empty ++ Text.encode t)

/-- The disk as a store of lines, whose files can be written within limits. -/
def storeWithin (limit? : Disk → Place → Option Limit) : Store Disk where
  read path d := ((d.readText path).map Text.lines, d)
  write path lines d := d.writeText limit? path (Text.ofLines lines)

/-- The disk as a store of lines, with room for whatever is written. -/
def store : Store Disk :=
  storeWithin fun _ _ ↦ none

/-! ### Laws -/

theorem find?_putFile (place other : Place) (bytes : ByteArray)
    (files : List (Place × ByteArray)) :
    ((putFile place bytes files).find? fun file ↦ file.1 == other).map (·.2) =
      if other = place then some bytes
      else (files.find? fun file ↦ file.1 == other).map (·.2) := by
  induction files with
  | nil =>
    by_cases h : other = place
    · simp [putFile, h]
    · simp [putFile, h, Ne.symm h]
  | cons file more ih =>
    unfold putFile
    by_cases hf : file.1 = place
    · by_cases h : other = place
      · simp [hf, h]
      · simp [hf, h, Ne.symm h]
    · by_cases h : file.1 = other
      · subst h
        simp [hf]
      · simpa [hf, h] using ih

/-- A file that was written holds what was written, and every other file what it held. -/
theorem bytes?_writeBytes (d : Disk) (place other : Place) (bytes : ByteArray) :
    (d.writeBytes place bytes).bytes? other =
      if other = place then some bytes else d.bytes? other :=
  find?_putFile place other bytes d.files

end Disk

end Scriptpad
