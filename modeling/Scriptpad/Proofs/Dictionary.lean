import Mathlib.Data.List.Dedup
import Scriptpad.Dictionary

/-!
# Dictionaries as maps

A dictionary without repeated words is a map, and its entries are the map in some order. Which order
is nobody's business: `Lists` speaks of the entries in any order, two such lists differ in their
order only (`Lists.perm`), and dictionaries whose entries do have the same words for the same values
(`find?_eq_of_perm`).

Entries that are inserted lie over those that are there. A word of theirs takes their value
(`find?_ofList_entries`), and only their words that are new make the dictionary larger
(`size_insertAll`).
-/

namespace Scriptpad

namespace Dictionary

variable {α : Type} {d e : Dictionary α} {entries others : List (Text × α)}

instance : Decidable d.Distinct := inferInstanceAs (Decidable d.keys.Nodup)

/-- These are the entries of a dictionary, each once, in whatever order. -/
def Lists (d : Dictionary α) (entries : List (Text × α)) : Prop :=
  (entries.map Prod.fst).Nodup ∧
    ∀ word value, (word, value) ∈ entries ↔ d.find? word = some value

theorem mem_entries_iff (h : d.Distinct) {word : Text} {value : α} :
    (word, value) ∈ d.entries ↔ d.find? word = some value := by
  rw [Distinct, keys] at h
  rw [find?]
  generalize d.entries = entries at h
  induction entries with
  | nil => simp
  | cons entry rest ih =>
    obtain ⟨w, v⟩ := entry
    obtain ⟨hnew, hrest⟩ := List.nodup_cons.1 h
    by_cases hw : w = word
    · subst hw
      have hother : (w, value) ∉ rest := fun hmem ↦ hnew (List.mem_map.2 ⟨_, hmem, rfl⟩)
      simp [hother, eq_comm]
    · simp [hw, Ne.symm hw, ih hrest]

/-- The order in which a dictionary keeps its entries is one of them. -/
theorem Distinct.lists (h : d.Distinct) : d.Lists d.entries :=
  ⟨h, fun _ _ ↦ mem_entries_iff h⟩

/-- There are no entries but the entries. -/
theorem Lists.perm (h : d.Lists entries) (h' : d.Lists others) : entries.Perm others := by
  rw [List.perm_ext_iff_of_nodup (.of_map _ h.1) (.of_map _ h'.1)]
  rintro ⟨word, value⟩
  rw [h.2, h'.2]

/-! ### Order of entries -/

/-- Dictionaries with the same entries in another order have the same words and values. -/
theorem find?_eq_of_perm (h : d.Distinct) (hperm : e.entries.Perm d.entries) (word : Text) :
    e.find? word = d.find? word := by
  have he : e.Distinct := ((hperm.map Prod.fst).nodup_iff).2 h
  refine Option.ext fun value ↦ ?_
  rw [← mem_entries_iff he, ← mem_entries_iff h, hperm.mem_iff]

/-- Dictionaries with the same words and values have the same entries. -/
theorem perm_of_find?_eq (he : e.Distinct) (hd : d.Distinct)
    (h : ∀ word, e.find? word = d.find? word) : e.entries.Perm d.entries := by
  refine Lists.perm (d := d) ⟨he, fun word value ↦ ?_⟩ hd.lists
  rw [mem_entries_iff he, h]

/-! ### Inserted entries -/

theorem find?_cons (word other : Text) (value : α) (rest : List (Text × α)) :
    (Dictionary.mk ((word, value) :: rest)).find? other =
      if other = word then some value else (Dictionary.mk rest).find? other := by
  by_cases h : other = word
  · simp [find?, h]
  · simp [find?, h, Ne.symm h]

theorem Distinct.insertAll (h : d.Distinct) (more : List (Text × α)) :
    (d.insertAll more).Distinct := by
  induction more generalizing d with
  | nil => exact h
  | cons entry more ih => exact ih (distinct_insert h entry.1 entry.2)

theorem distinct_ofList (more : List (Text × α)) : (ofList more).Distinct :=
  distinct_empty.insertAll more

theorem find?_ofList_cons (word other : Text) (value : α) (more : List (Text × α)) :
    (ofList ((word, value) :: more)).find? other =
      ((ofList more).find? other).or (if other = word then some value else none) := by
  rw [ofList, insertAll, List.foldl_cons, ← insertAll, find?_insertAll, find?_insert, find?_empty]

/-- A dictionary that is made of the entries of one without repeated words is the same map. -/
theorem find?_ofList_entries (h : d.Distinct) (word : Text) :
    (ofList d.entries).find? word = d.find? word := by
  obtain ⟨entries⟩ := d
  induction entries with
  | nil => rfl
  | cons entry rest ih =>
    obtain ⟨w, v⟩ := entry
    obtain ⟨hnew, hrest⟩ := List.nodup_cons.1 h
    rw [find?_ofList_cons, ih hrest, find?_cons]
    split
    · rename_i hword
      rw [hword, find?_eq_none (d := ⟨rest⟩) hnew, Option.none_or]
    · rw [Option.or_none]

theorem size_insert (d : Dictionary α) (word : Text) (value : α) :
    (d.insert word value).size = if word ∈ d.keys then d.size else d.size + 1 := by
  have hlength (e : Dictionary α) : e.size = e.keys.length := (List.length_map _).symm
  rw [hlength, keys_insert, hlength]
  split
  · rfl
  · rw [List.length_append, List.length_singleton]

/-- **Only new words make a dictionary larger**, each by one. -/
theorem size_insertAll (d : Dictionary α) {more : List (Text × α)}
    (h : (more.map Prod.fst).Nodup) :
    (d.insertAll more).size = d.size + (more.map Prod.fst).countP (· ∉ d.keys) := by
  induction more generalizing d with
  | nil => rfl
  | cons entry more ih =>
    obtain ⟨w, v⟩ := entry
    obtain ⟨hnew, hmore⟩ := List.nodup_cons.1 h
    -- the words that follow are new behind this one exactly if they were before
    have hcount : (more.map Prod.fst).countP (· ∉ (d.insert w v).keys) =
        (more.map Prod.fst).countP (· ∉ d.keys) := by
      refine List.countP_congr fun other hother ↦ ?_
      have hne : other ≠ w := fun heq ↦ hnew (heq ▸ hother)
      simp [mem_keys_insert, hne]
    rw [insertAll, List.foldl_cons, ← insertAll, ih _ hmore, hcount, size_insert, List.map_cons,
      List.countP_cons]
    by_cases hw : w ∈ d.keys <;> simp [hw]
    omega

end Dictionary

end Scriptpad
