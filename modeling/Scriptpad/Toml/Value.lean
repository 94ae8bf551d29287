import Scriptpad.Decimal.Binary64

/-!
# TOML values

The values of a TOML document. A table remembers how it came to be, because that decides what may
still be added to it: an inline table is complete, a table with a header of its own takes no dotted
key from elsewhere, and a table that exists only because it is on the way to another may still get
a header.
-/

namespace Scriptpad.Toml

/-- How a table came to be. -/
inductive Origin where
  /-- By a header of its own, or as the document itself. -/
  | header
  /-- As a parent of a table with a header. -/
  | implied
  /-- As a part of a dotted key. -/
  | dotted
  /-- Between braces. -/
  | inlined
  deriving Repr, DecidableEq

/-- A TOML value. Dates and times are kept as normalized text; an array of tables is apart from
other arrays, since headers add to it. -/
inductive Value where
  | string (t : Text)
  | integer (n : Int)
  | float (x : Binary64)
  | boolean (b : Bool)
  | datetime (t : Text)
  | array (items : List Value)
  | table (origin : Origin) (entries : List (Text × Value))
  | tables (elements : List Value)
  deriving Repr

/-- The entries of a table, in the order in which their keys first came. -/
abbrev Entries := List (Text × Value)

namespace Entries

/-- The value of a key. -/
def get? (entries : Entries) (key : Text) : Option Value :=
  (entries.find? fun entry ↦ entry.1 == key).map (·.2)

/-- The entries with another value for a key that is there. -/
def replace (entries : Entries) (key : Text) (value : Value) : Entries :=
  entries.map fun (k, v) ↦ if k = key then (k, value) else (k, v)

/-- The entries without a key. -/
def erase (entries : Entries) (key : Text) : Entries :=
  entries.filter (·.1 ≠ key)

/-- The entries with a new key at their end; fails if the key is there already. -/
def add? (entries : Entries) (key : Text) (value : Value) : Option Entries :=
  if (entries.get? key).isSome then none else some (entries ++ [(key, value)])

/-- Applies `change` to the table at the end of a path of keys, making the tables on the way that
are missing. `viaDotted` says that the path is the beginning of a dotted key: then the tables on the
way must not have a header of their own. A path leads through the last element of an array of
tables, and through no other value. -/
def changeAt? {α : Type} (viaDotted : Bool) (change : Origin → Entries → Option (Entries × α)) :
    List Text → Origin → Entries → Option (Entries × α)
  | [], origin, entries => change origin entries
  | key :: path, _, entries =>
    match entries.get? key with
    | none => do
      let origin : Origin := if viaDotted then .dotted else .implied
      let (inner, a) ← changeAt? viaDotted change path origin []
      some (entries ++ [(key, .table origin inner)], a)
    | some (.table origin inner) =>
      if origin = .inlined || (viaDotted && origin = .header) then none
      else do
        let (inner, a) ← changeAt? viaDotted change path origin inner
        some (entries.replace key (.table origin inner), a)
    | some (.tables elements) =>
      match elements.getLast? with
      | some (.table origin inner) => do
        let (inner, a) ← changeAt? viaDotted change path origin inner
        some (entries.replace key (.tables (elements.dropLast ++ [.table origin inner])), a)
      | _ => none
    | some _ => none

/-- The entries with a value for a possibly dotted key, given as the way to it and its last part.
The last part must be new, and a dotted key adds only to tables that dotted keys made. -/
def addDotted? (entries : Entries) (path : List Text) (key : Text) (value : Value) :
    Option Entries :=
  let put (origin : Origin) (inner : Entries) : Option (Entries × Unit) :=
    if path ≠ [] && origin ≠ .dotted then none
    else (inner.add? key value).map fun inner ↦ (inner, ())
  (changeAt? true put path .header entries).map (·.1)

end Entries

end Scriptpad.Toml
