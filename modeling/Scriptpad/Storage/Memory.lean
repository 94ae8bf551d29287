import Scriptpad.Dictionary
import Scriptpad.Path

/-!
# Files in memory

A store that keeps the lines of each file under a name. Paths that name the same way are paths of
one file, which stays under the name that it was first given; two dots and links mean nothing here,
since there are no directories. Reads and writes can be refused as a whole, which is decided before
the path is looked at.

Main statements: `lines?_write` (what a write does to every file) and `lines?_congr` (which path of
a file is used makes no difference).
-/

namespace Scriptpad

/-- Files in memory, and whether reading or writing them is refused. -/
structure Memory where
  files : Dictionary (List Text) := ∅
  refusesReads : Bool := false
  refusesWrites : Bool := false
  deriving Repr, DecidableEq

namespace Memory

/-- The name that the file of a path is under: the first of the names that names the same way, or
the path itself if there is none. -/
def nameFor (m : Memory) (path : Path) : Path :=
  (m.files.keys.find? (Path.sameRoute path)).getD path

/-- The lines of the file of a path, if there is one. -/
def lines? (path : Path) (m : Memory) : Option (List Text) :=
  m.files.find? (m.nameFor path)

/-- The lines of a file. -/
def read (path : Path) (m : Memory) : Except Failure (List Text) :=
  if m.refusesReads then .error ⟨.permissionDenied, "read refused".toList⟩
  else match m.lines? path with
    | some lines => .ok lines
    | none => .error ⟨.notFound, "no such file".toList⟩

/-- The files after a write, if it is not refused. -/
def write (path : Path) (lines : List Text) (m : Memory) : Except Failure Unit × Memory :=
  if m.refusesWrites then (.error ⟨.permissionDenied, "write refused".toList⟩, m)
  else (.ok (), { m with files := m.files.insert (m.nameFor path) lines })

/-- Files in memory as a store. -/
def store : Store Memory where
  read path m := (m.read path, m)
  write := write

/-! ### Laws -/

variable {m : Memory} {path other : Path}

theorem nameFor_of_some {name : Path}
    (h : m.files.keys.find? (Path.sameRoute path) = some name) : m.nameFor path = name := by
  rw [nameFor, h, Option.getD_some]

theorem nameFor_of_none (h : m.files.keys.find? (Path.sameRoute path) = none) :
    m.nameFor path = path := by
  rw [nameFor, h, Option.getD_none]

/-- The name of a file names the same way as each of its paths. -/
theorem route_nameFor (m : Memory) (path : Path) :
    Path.route (m.nameFor path) = Path.route path := by
  cases h : m.files.keys.find? (Path.sameRoute path) with
  | none => rw [nameFor_of_none h]
  | some name =>
    rw [nameFor_of_some h]
    exact (Path.sameRoute_eq_true_iff.1 (List.find?_some h)).symm

/-- A path for which there is no name is not a name itself. -/
theorem not_mem_keys_of_none (h : m.files.keys.find? (Path.sameRoute path) = none) :
    path ∉ m.files.keys := by
  intro hmem
  exact List.find?_eq_none.1 h path hmem (Path.sameRoute_eq_true_iff.2 rfl)

/-- **Which path of a file is used makes no difference.** -/
theorem lines?_congr (h : Path.route path = Path.route other) :
    m.lines? path = m.lines? other := by
  rw [lines?, lines?]
  cases hother : m.files.keys.find? (Path.sameRoute other) with
  | some name =>
    have hpath := hother
    rw [← Path.sameRoute_congr h] at hpath
    rw [nameFor_of_some hpath, nameFor_of_some hother]
  | none =>
    have hpath := hother
    rw [← Path.sameRoute_congr h] at hpath
    rw [nameFor_of_none hpath, nameFor_of_none hother,
      Dictionary.find?_eq_none (not_mem_keys_of_none hpath),
      Dictionary.find?_eq_none (not_mem_keys_of_none hother)]

/-- A write adds a name only if there is none for its path. -/
theorem nameFor_insert (m : Memory) (path other : Path) (lines : List Text) :
    nameFor { m with files := m.files.insert (m.nameFor path) lines } other =
      if Path.route other = Path.route path then m.nameFor path else m.nameFor other := by
  cases hpath : m.files.keys.find? (Path.sameRoute path) with
  | some name =>
    have hkeys : (m.files.insert (m.nameFor path) lines).keys = m.files.keys := by
      rw [Dictionary.keys_insert, nameFor_of_some hpath, if_pos (List.mem_of_find?_eq_some hpath)]
    rw [nameFor, hkeys]
    split
    · rename_i hroute
      rw [Path.sameRoute_congr hroute, hpath, nameFor_of_some hpath, Option.getD_some]
    · rfl
  | none =>
    have hkeys : (m.files.insert (m.nameFor path) lines).keys = m.files.keys ++ [path] := by
      rw [Dictionary.keys_insert, nameFor_of_none hpath, if_neg (not_mem_keys_of_none hpath)]
    rw [nameFor, hkeys, List.find?_append]
    split
    · rename_i hroute
      have hsame : Path.sameRoute path path = true := Path.sameRoute_eq_true_iff.2 rfl
      rw [Path.sameRoute_congr hroute, hpath, nameFor_of_none hpath, Option.none_or,
        List.find?_singleton, if_pos hsame, Option.getD_some]
    · rename_i hroute
      have hother : ¬Path.sameRoute other path = true := mt Path.sameRoute_eq_true_iff.1 hroute
      rw [List.find?_singleton, if_neg hother, Option.or_none, nameFor]

/-- **What a write does to files**: the file of its path has the new lines, every other file those
it had. -/
theorem lines?_write (h : m.refusesWrites = false) (path other : Path) (lines : List Text) :
    (m.write path lines).2.lines? other =
      if Path.route other = Path.route path then some lines else m.lines? other := by
  have hwrite : m.write path lines =
      (.ok (), { m with files := m.files.insert (m.nameFor path) lines }) := by
    rw [write, if_neg (by simp [h])]
  rw [hwrite, lines?, nameFor_insert, Dictionary.find?_insert]
  split
  · rw [if_pos rfl]
  · rename_i hroute
    -- Files of different ways are under different names.
    rw [if_neg fun hsame ↦ hroute ?_, lines?]
    rw [← route_nameFor m other, hsame, route_nameFor]

/-- What was written under a path is read under it. -/
theorem read_write {m : Memory} (hread : m.refusesReads = false) (hwrite : m.refusesWrites = false)
    (path : Path) (lines : List Text) : (m.write path lines).2.read path = .ok lines := by
  have hlines : (m.write path lines).2.lines? path = some lines := by
    rw [lines?_write hwrite, if_pos rfl]
  have hreads : (m.write path lines).2.refusesReads = false := by
    unfold write
    split <;> exact hread
  simp [read, hreads, hlines]

/-- A write changes no file of another way. -/
theorem lines?_write_of_ne (h : Path.route other ≠ Path.route path) (lines : List Text) :
    (m.write path lines).2.lines? other = m.lines? other := by
  cases hrefuses : m.refusesWrites with
  | true => simp [write, hrefuses]
  | false => rw [lines?_write hrefuses, if_neg h]

end Memory

end Scriptpad
