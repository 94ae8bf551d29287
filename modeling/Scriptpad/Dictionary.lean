import Scriptpad.Text.Order

/-!
# Dictionaries

Finite maps from texts, kept as a list of entries in the order in which their words first came. A
word that is inserted again keeps its place and takes the new value, so no word occurs twice in a
dictionary built by `insert`; this is `Distinct`.

Main statements: `find?_insert` (a lookup sees the last insertion of the word and no other) and
`distinct_insert`.
-/

namespace Scriptpad

/-- A finite map from texts to values. -/
structure Dictionary (α : Type) where
  entries : List (Text × α)
  deriving Repr, DecidableEq

namespace Dictionary

variable {α : Type}

instance : EmptyCollection (Dictionary α) := ⟨⟨[]⟩⟩

/-- The value of a word, if it has one. -/
def find? (d : Dictionary α) (word : Text) : Option α :=
  (d.entries.find? (·.1 == word)).map (·.2)

/-- Gives the word the value, in the place of an earlier entry for it or else at the end. -/
def insertEntry (word : Text) (value : α) : List (Text × α) → List (Text × α)
  | [] => [(word, value)]
  | (w, v) :: rest =>
    if w = word then (word, value) :: rest else (w, v) :: insertEntry word value rest

/-- The dictionary with `value` for `word`, whatever the word had before. -/
def insert (d : Dictionary α) (word : Text) (value : α) : Dictionary α :=
  ⟨insertEntry word value d.entries⟩

/-- The dictionary with the given entries inserted from first to last. -/
def insertAll (d : Dictionary α) (more : List (Text × α)) : Dictionary α :=
  more.foldl (fun d (word, value) ↦ d.insert word value) d

/-- The dictionary of the given entries; of two for one word the later counts. -/
def ofList (entries : List (Text × α)) : Dictionary α :=
  insertAll ∅ entries

/-- The number of words. -/
def size (d : Dictionary α) : Nat :=
  d.entries.length

/-- The words, in the order of their first insertion. -/
def keys (d : Dictionary α) : List Text :=
  d.entries.map (·.1)

/-- The entries in the order of their words. -/
def sorted (d : Dictionary α) : List (Text × α) :=
  d.entries.mergeSort fun a b ↦ Text.le a.1 b.1

/-- No word occurs twice. -/
def Distinct (d : Dictionary α) : Prop :=
  d.keys.Nodup

/-! ### Laws -/

@[simp] theorem find?_empty (word : Text) : (∅ : Dictionary α).find? word = none := rfl

@[simp] theorem size_empty : (∅ : Dictionary α).size = 0 := rfl

theorem find?_insert (d : Dictionary α) (word other : Text) (value : α) :
    (d.insert word value).find? other = if other = word then some value else d.find? other := by
  unfold find? insert
  generalize d.entries = entries
  induction entries with
  | nil =>
    by_cases h : other = word
    · simp [insertEntry, h]
    · simp [insertEntry, h, Ne.symm h]
  | cons entry rest ih =>
    obtain ⟨w, v⟩ := entry
    unfold insertEntry
    by_cases hw : w = word
    · subst hw
      by_cases h : other = w
      · simp [h]
      · simp [h, Ne.symm h]
    · by_cases h : w = other
      · subst h
        simp [hw]
      · simpa [hw, h] using ih

theorem find?_eq_none {d : Dictionary α} {word : Text} (h : word ∉ d.keys) :
    d.find? word = none := by
  rw [find?, List.find?_eq_none.2, Option.map_none]
  intro entry hentry hword
  exact h (List.mem_map.2 ⟨entry, hentry, eq_of_beq hword⟩)

/-- A word that is new comes behind the others. -/
theorem keys_insert (d : Dictionary α) (word : Text) (value : α) :
    (d.insert word value).keys = if word ∈ d.keys then d.keys else d.keys ++ [word] := by
  unfold insert keys
  generalize d.entries = entries
  induction entries with
  | nil => rfl
  | cons entry rest ih =>
    obtain ⟨w, v⟩ := entry
    unfold insertEntry
    by_cases hw : w = word
    · simp [hw]
    · simp only [hw, if_false, List.map_cons, ih, List.mem_cons, Ne.symm hw, false_or]
      split <;> rfl

theorem mem_keys_insert (d : Dictionary α) (word other : Text) (value : α) :
    other ∈ (d.insert word value).keys ↔ other = word ∨ other ∈ d.keys := by
  rw [keys_insert]
  split
  · rename_i hmem
    exact ⟨.inr, fun h ↦ h.elim (· ▸ hmem) id⟩
  · rw [List.mem_append, List.mem_singleton, or_comm]

theorem distinct_empty : (∅ : Dictionary α).Distinct := List.nodup_nil

theorem distinct_insert {d : Dictionary α} (h : d.Distinct) (word : Text) (value : α) :
    (d.insert word value).Distinct := by
  rw [Distinct, keys_insert]
  split
  · exact h
  · rename_i hnew
    refine List.nodup_append.2 ⟨h, List.pairwise_singleton _ _, fun other hother last hlast ↦ ?_⟩
    rw [List.mem_singleton.1 hlast]
    exact fun heq ↦ hnew (heq ▸ hother)

theorem find?_insertAll_or {word : Text} {before : Option α} (more : List (Text × α))
    {d e : Dictionary α} (h : d.find? word = (e.find? word).or before) :
    (d.insertAll more).find? word = ((e.insertAll more).find? word).or before := by
  induction more generalizing d e with
  | nil => exact h
  | cons entry more ih =>
    refine ih (d := d.insert entry.1 entry.2) (e := e.insert entry.1 entry.2) ?_
    rw [find?_insert, find?_insert]
    split
    · rfl
    · exact h

/-- After insertions, a word has the value of its last one, or else the value it had. -/
theorem find?_insertAll (d : Dictionary α) (more : List (Text × α)) (word : Text) :
    (d.insertAll more).find? word = ((ofList more).find? word).or (d.find? word) :=
  find?_insertAll_or more (by simp)

end Dictionary

end Scriptpad
