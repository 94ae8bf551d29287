import Scriptpad.Storage
import Scriptpad.Text.Basic

/-!
# Parts of a path

A path names a file by the names on the way to it, separated by slashes. Empty names and single
dots count for nothing, so a slash at the end does not change which file is named. The last name
is the file's own, unless it is two dots, and its extension is what follows its last dot; a dot
that begins the name starts no extension.

Two paths are the same way if they start at the same place and name the same steps from there. The
places to start at are the root, the directory that one is in, and that directory when it is named
by a single dot.

Main statements: `nameExtension?_append` and `route_append_slash`.
-/

namespace Scriptpad.Path

/-- The name that stands for the directory above. -/
def upward : Text := "..".toList

/-- The name that stands for the directory itself. -/
def here : Text := ".".toList

/-- The names on the way, with single dots but without empty names. -/
def steps (p : Path) : List Text :=
  (Text.pieces (· == '/') p).filter (· ≠ [])

/-- The names on the way that count. -/
def names (p : Path) : List Text :=
  (steps p).filter (· ≠ here)

/-- The name of the file itself. -/
def fileName? (p : Path) : Option Text :=
  (names p).getLast?.filter (· ≠ upward)

/-- Whether a path starts at the root. -/
def isAbsolute (p : Path) : Bool :=
  p.head? == some '/'

/-- Where a path starts, and the names on the way from there. Two dots are a name like others here:
where they lead depends on the directories that there are. -/
structure Route where
  absolute : Bool
  fromHere : Bool
  names : List Text
  deriving Repr, DecidableEq

/-- The way that a path names. A single dot counts only in front of all names. -/
def route (p : Path) : Route where
  absolute := isAbsolute p
  fromHere := (Text.pieces (· == '/') p).head? == some here
  names := names p

/-- Whether two paths name the same way. -/
def sameRoute (p q : Path) : Bool :=
  route p == route q

/-- The names of the directory that the file is in. -/
def directoryNames (p : Path) : List Text :=
  (names p).dropLast

/-- The parts before and after the last occurrence of `separator`, if there is one. -/
def splitLast? (separator : Char) (t : Text) : Option (Text × Text) :=
  (Text.splitFirst? separator t.reverse).map fun (after, before) ↦ (before.reverse, after.reverse)

/-- The extension of a file's name. -/
def nameExtension? (name : Text) : Option Text :=
  match splitLast? '.' name with
  | some (stem, extension) => if stem = [] then none else some extension
  | none => none

/-- The extension of the file that a path names. -/
def extension? (p : Path) : Option Text :=
  (fileName? p).bind nameExtension?

/-- Whether a path's extension is one of the given ones, up to the case of ASCII letters. -/
def hasExtensionIn (p : Path) (extensions : List Text) : Bool :=
  match extension? p with
  | some extension => extensions.any (Text.sameIgnoringAsciiCase · extension)
  | none => false

theorem sameRoute_eq_true_iff {p q : Path} : sameRoute p q = true ↔ route p = route q :=
  beq_iff_eq

/-- Paths that name the same way cannot be told apart by it. -/
theorem sameRoute_congr {p q : Path} (h : route p = route q) : sameRoute p = sameRoute q :=
  funext fun other ↦ congrArg (· == route other) h

/-- A slash at the end of a path that is not empty does not change its way. -/
theorem route_append_slash {p : Path} (h : p ≠ []) : route (p ++ ['/']) = route p := by
  have hpieces : Text.pieces (· == '/') (p ++ ['/']) = Text.pieces (· == '/') p ++ [[]] :=
    Text.pieces_append_cons (by decide) p []
  have hhead : (Text.pieces (· == '/') p ++ [[]]).head? = (Text.pieces (· == '/') p).head? := by
    cases hp : Text.pieces (· == '/') p with
    | nil => exact absurd hp (Text.pieces_ne_nil _ _)
    | cons piece more => rfl
  have hstart : (p ++ ['/']).head? = p.head? := by
    cases p with
    | nil => exact absurd rfl h
    | cons c p => rfl
  simp [route, isAbsolute, names, steps, hpieces, hhead, hstart]

/-- A name that is not empty, a dot and an extension without dots. -/
theorem nameExtension?_append {stem extension : Text} (hstem : stem ≠ [])
    (hextension : '.' ∉ extension) :
    nameExtension? (stem ++ '.' :: extension) = some extension := by
  have hsplit : splitLast? '.' (stem ++ '.' :: extension) = some (stem, extension) := by
    have hrev : (stem ++ '.' :: extension).reverse = extension.reverse ++ '.' :: stem.reverse := by
      simp
    rw [splitLast?, hrev, Text.splitFirst?_append (by simpa using hextension)]
    simp
  simp [nameExtension?, hsplit, hstem]

end Scriptpad.Path
