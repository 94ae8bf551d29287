import Mathlib.Data.List.Dedup
import Mathlib.Data.List.Forall2
import Mathlib.Data.List.Induction
import Scriptpad.Proofs.Dictionary
import Scriptpad.Proofs.Text.ByteOrder
import Scriptpad.Script.Run

/-!
# The variables after statements

A run carries its variables along from statement to statement. What they are at its end is said here
without the run: each name that was assigned has the value of its last assignment, and no other name
has one (`find?_bindingsAfter`), so there are as many variables as different names
(`size_bindingsAfter`).

Which order the variables are kept in is nobody's business; `Dictionary.Lists` speaks of them in
any. The summary of a run does not depend on it: it joins what is said of each variable, sorted by
bytes (`summarizedBy_summary`). What is said of a variable is written out here once more, for each
type of value (`Value.ListedAs`).
-/

namespace Scriptpad

namespace Script

/-! ### The last assignment -/

/-- The last assignment to `name` among the statements gives it `value`. -/
def LastAssigns (name : Text) (value : Value) (statements : List Statement) : Prop :=
  ∃ before behind, statements = before ++ .assign name value :: behind ∧
    ∀ other, .assign name other ∉ behind

/-- The name that a statement assigns to. -/
def Statement.name? : Statement → Option Text
  | .assign name _ => some name
  | _ => none

variable {name : Text} {value : Value} {statements : List Statement} {s : Statement}

/-- A statement behind the others is the last assignment, or does not count. -/
theorem lastAssigns_concat :
    LastAssigns name value (statements ++ [s]) ↔
      s = .assign name value ∨
        (∀ other, s ≠ .assign name other) ∧ LastAssigns name value statements := by
  constructor
  · rintro ⟨before, behind, heq, hlast⟩
    rcases List.eq_nil_or_concat behind with rfl | ⟨behind, last, rfl⟩
    · left
      exact List.singleton_inj.1 (List.append_inj' heq rfl).2
    · right
      rw [List.concat_eq_append, ← List.cons_append, ← List.append_assoc] at heq
      obtain ⟨hstatements, hs⟩ := List.append_inj' heq rfl
      obtain rfl : s = last := List.singleton_inj.1 hs
      rw [List.concat_eq_append] at hlast
      refine ⟨fun other hs ↦ hlast other (by simp [hs]), before, behind, hstatements, ?_⟩
      exact fun other hmem ↦ hlast other (List.mem_append_left _ hmem)
  · rintro (rfl | ⟨hs, before, behind, rfl, hlast⟩)
    · exact ⟨statements, [], rfl, by simp⟩
    · refine ⟨before, behind ++ [s], by simp, fun other hmem ↦ ?_⟩
      rcases List.mem_append.1 hmem with hmem | hmem
      · exact hlast other hmem
      · exact hs other (List.mem_singleton.1 hmem).symm

/-! ### The variables -/

/-- The variables after statements, which begin with none. -/
def bindingsAfter (statements : List Statement) : Bindings :=
  statements.foldl Statement.update ∅

theorem bindingsAfter_concat (statements : List Statement) (s : Statement) :
    bindingsAfter (statements ++ [s]) = s.update (bindingsAfter statements) := by
  simp [bindingsAfter]

/-- **Each name has the value of its last assignment**, and a name without one has none. -/
theorem find?_bindingsAfter (statements : List Statement) (name : Text) (value : Value) :
    (bindingsAfter statements).find? name = some value ↔ LastAssigns name value statements := by
  induction statements using List.reverseRecOn with
  | nil => simp [bindingsAfter, LastAssigns]
  | append_singleton statements s ih =>
    rw [bindingsAfter_concat, lastAssigns_concat, ← ih]
    cases s with
    | assign n v =>
      rw [Statement.update, Dictionary.find?_insert]
      by_cases hn : name = n
      · subst hn
        simp
      · simp [hn, Ne.symm hn]
    | _ => simp [Statement.update]

theorem distinct_bindingsAfter (statements : List Statement) :
    (bindingsAfter statements).Distinct := by
  induction statements using List.reverseRecOn with
  | nil => exact Dictionary.distinct_empty
  | append_singleton statements s ih =>
    rw [bindingsAfter_concat]
    cases s with
    | assign n v => exact Dictionary.distinct_insert ih n v
    | _ => exact ih

theorem mem_keys_bindingsAfter (statements : List Statement) (name : Text) :
    name ∈ (bindingsAfter statements).keys ↔ name ∈ statements.filterMap Statement.name? := by
  induction statements using List.reverseRecOn with
  | nil => simp [bindingsAfter, Dictionary.keys, EmptyCollection.emptyCollection]
  | append_singleton statements s ih =>
    rw [bindingsAfter_concat, List.filterMap_append, List.mem_append, ← ih]
    cases s with
    | assign n v =>
      rw [Statement.update, Dictionary.mem_keys_insert]
      simp [Statement.name?, or_comm]
    | _ => simp [Statement.update, Statement.name?]

/-- **There are as many variables as different names that were assigned.** -/
theorem size_bindingsAfter (statements : List Statement) :
    (bindingsAfter statements).size = (statements.filterMap Statement.name?).dedup.length := by
  have hperm :
      (bindingsAfter statements).keys.Perm (statements.filterMap Statement.name?).dedup := by
    rw [List.perm_ext_iff_of_nodup (distinct_bindingsAfter statements) (List.nodup_dedup _)]
    intro name
    rw [List.mem_dedup, mem_keys_bindingsAfter]
  rw [Dictionary.size, ← hperm.length_eq, Dictionary.keys, List.length_map]

/-! ### The summary -/

/-- What a log says of a variable: its name, the word for its type, and the text of its value. -/
inductive Value.ListedAs (name : Text) : Value → Text → Prop
  | integer (n : Int) : ListedAs name (.integer n) (name ++ (": int = ".toList ++ Decimal.render n))
  | float (x : Binary64) : ListedAs name (.float x) (name ++ (": float = ".toList ++ x.text))
  | text (t : Text) : ListedAs name (.text t) (name ++ (": string = ".toList ++ t))
  | yes : ListedAs name (.truth true) (name ++ ": bool = true".toList)
  | no : ListedAs name (.truth false) (name ++ ": bool = false".toList)

theorem Value.listedAs_bindingText (name : Text) (value : Value) :
    value.ListedAs name (bindingText name value) := by
  simp only [bindingText, List.append_assoc]
  cases value with
  | integer n => exact .integer n
  | float x => exact .float x
  | text t => exact .text t
  | truth b =>
    cases b with
    | true => exact .yes
    | false => exact .no

theorem Value.ListedAs.unique {name s t : Text} {value : Value} (h : value.ListedAs name s)
    (h' : value.ListedAs name t) : s = t := by
  cases h <;> cases h' <;> rfl

/-- The summary joins what is said of the variables, of each once, sorted by bytes. It is the same
in whatever order the variables are given. -/
def Bindings.SummarizedBy (env : Bindings) (summary : Text) : Prop :=
  ∃ parts : List Text, summary = Text.joinWith ", ".toList parts ∧
    parts.Pairwise (fun s t ↦ Text.bytes s ≤ Text.bytes t) ∧
    ∀ entries, env.Lists entries → ∃ texts, parts.Perm texts ∧
      List.Forall₂ (fun entry text ↦ entry.2.ListedAs entry.1 text) entries texts

theorem summarizedBy_summary {env : Bindings} (h : env.Distinct) :
    env.SummarizedBy env.summary := by
  refine ⟨_, rfl, Text.pairwise_bytes_sort _, fun entries hentries ↦ ?_⟩
  refine ⟨entries.map fun entry ↦ bindingText entry.1 entry.2,
    (Text.sort_perm _).trans ((h.lists.perm hentries).map _), ?_⟩
  rw [List.forall₂_map_right_iff]
  exact List.forall₂_same.2 fun entry _ ↦ Value.listedAs_bindingText entry.1 entry.2

/-- There is one summary. It is known from any listing of the variables, once that is sorted. -/
theorem Bindings.SummarizedBy.eq_joinWith {env : Bindings} {summary : Text}
    (h : env.SummarizedBy summary) {entries : List (Text × Value)} {texts sorted : List Text}
    (hentries : env.Lists entries)
    (htexts : List.Forall₂ (fun entry text ↦ entry.2.ListedAs entry.1 text) entries texts)
    (hperm : sorted.Perm texts)
    (hsorted : sorted.Pairwise fun s t ↦ Text.bytes s ≤ Text.bytes t) :
    summary = Text.joinWith ", ".toList sorted := by
  obtain ⟨parts, hsummary, hparts, hlisted⟩ := h
  obtain ⟨others, hothers, hsame⟩ := hlisted entries hentries
  have hunique : Relator.RightUnique fun (entry : Text × Value) text ↦
      entry.2.ListedAs entry.1 text := fun _ _ _ ↦ Value.ListedAs.unique
  obtain rfl : others = texts := hunique.forall₂ hsame htexts
  have heq : parts = sorted := (hothers.trans hperm.symm).eq_of_pairwise
    (fun _ _ _ _ hst hts ↦ Text.bytes_inj.1 (List.le_antisymm hst hts)) hparts hsorted
  rw [hsummary, heq]

end Script

end Scriptpad
