import Mathlib.Algebra.GroupWithZero.Nat
import Mathlib.Data.List.Basic
import Scriptpad.Text.Lines

/-!
# What the lines of a file keep

Cutting a text into lines and joining lines to a text are not inverse to each other. Joining ends
every line alike, so nothing of how a line ended in the text is left; and cutting takes a carriage
return for a part of the end if a line feed comes next, also one that belonged to a line when it was
joined.

Both directions are treated from one law: a line feed cuts a text, and both sides have their own
lines (`lines_append_cons`).

* **From lines to text and back.** A line that holds line feeds comes back as several, so already
  the number of lines tells whether there was one; and a line that comes back without its return is
  another line. So the lines that come back are the same in just one case (`lines_ofLines_iff`).
* **From text to lines.** A line of a text ends in a carriage return if the text has one return more
  than the end of the line takes, or if it ends in one itself (`exists_return_iff`).
-/

namespace Scriptpad.Text

variable {line t : Text} {ls : List Text}

/-! ### Cuts -/

/-- There is one piece more than there are separators. -/
theorem length_pieces (p : Char → Bool) (t : Text) : (pieces p t).length = t.countP p + 1 := by
  induction t with
  | nil => rfl
  | cons c rest ih =>
    rw [pieces]
    cases hc : p c with
    | true => simp [hc, ih]
    | false =>
      rw [List.countP_cons_of_neg (by simp [hc]), ← ih]
      cases h : pieces p rest with
      | nil => exact absurd h (pieces_ne_nil p rest)
      | cons piece more => rfl

/-- Without line feeds there is nothing to cut. -/
theorem pieces_of_not_mem (h : '\n' ∉ t) : pieces (· == '\n') t = [t] :=
  pieces_of_forall fun _ hc ↦ beq_eq_false_iff_ne.2 fun heq ↦ h (heq ▸ hc)

/-- **A line feed cuts the text**: what is before it are whole lines, and what is behind it has its
own lines. -/
theorem lines_append_cons (s t : Text) :
    lines (s ++ '\n' :: t) = (pieces (· == '\n') s).map dropReturn ++ lines t := by
  have hne : pieces (· == '\n') t ≠ [] := pieces_ne_nil _ t
  rw [lines, lines, pieces_append_cons rfl, List.dropLast_append_of_ne_nil hne,
    List.getLast?_append_of_ne_nil _ hne, List.map_append, List.append_assoc]

/-- What is before the first line feed is the first line, less one carriage return at its end. -/
theorem lines_cons {s : Text} (h : '\n' ∉ s) (t : Text) :
    lines (s ++ '\n' :: t) = dropReturn s :: lines t := by
  rw [lines_append_cons, pieces_of_not_mem h]
  rfl

/-- A text without line feeds is one line, or none if it is empty. -/
theorem lines_of_not_mem (h : '\n' ∉ t) : lines t = if t = [] then [] else [t] := by
  rw [lines, pieces_of_not_mem h]
  by_cases hempty : t = []
  · simp [hempty]
  · simp [hempty]

/-! ### Lines that come back -/

/-- Each line comes back on its own, in the pieces that its line feeds cut it into. -/
theorem lines_ofLines_eq_flatMap (ls : List Text) :
    lines (ofLines ls) = ls.flatMap fun line ↦ (pieces (· == '\n') line).map dropReturn := by
  induction ls with
  | nil => rfl
  | cons line ls ih =>
    have hcut : ofLines (line :: ls) = line ++ '\n' :: ofLines ls := by simp [ofLines]
    rw [hcut, lines_append_cons, ih, List.flatMap_cons]

/-- As many lines come back as there were, and one more for each line feed in them. -/
theorem length_lines_ofLines (ls : List Text) :
    (lines (ofLines ls)).length = (ls.map (·.count '\n')).sum + ls.length := by
  rw [lines_ofLines_eq_flatMap]
  induction ls with
  | nil => rfl
  | cons line ls ih =>
    rw [List.flatMap_cons, List.length_append, ih, List.length_map, length_pieces,
      List.map_cons, List.sum_cons, List.length_cons, List.count]
    omega

theorem mem_of_mem_dropReturn {c : Char} (h : c ∈ dropReturn line) : c ∈ line := by
  rw [dropReturn] at h
  split at h
  · exact List.dropLast_subset line h
  · exact h

/-- A line keeps its end exactly if it does not end in a carriage return. -/
theorem dropReturn_eq_self_iff : dropReturn line = line ↔ line.getLast? ≠ some '\r' := by
  rw [dropReturn]
  split
  · rename_i hlast
    obtain ⟨front, rfl⟩ := List.getLast?_eq_some_iff.1 hlast
    simp
  · rename_i hlast
    exact iff_of_true rfl hlast

theorem map_dropReturn_eq_self_iff :
    ls.map dropReturn = ls ↔ ∀ line ∈ ls, line.getLast? ≠ some '\r' := by
  have hid : ls.map dropReturn = ls ↔ ∀ line ∈ ls, dropReturn line = line := by
    rw [← List.map_eq_map_iff, List.map_id']
  simp only [hid, dropReturn_eq_self_iff]

/-- **The lines that come back are the lines that were written** exactly if none of them holds a
line feed or ends in a carriage return. -/
theorem lines_ofLines_iff :
    lines (ofLines ls) = ls ↔ ∀ line ∈ ls, '\n' ∉ line ∧ line.getLast? ≠ some '\r' := by
  constructor
  · intro hsame
    -- If it were one line more for a line feed, it would not be the same lines.
    have hnone : (ls.map (·.count '\n')).sum = 0 := by
      have hlength := congrArg List.length hsame
      rw [length_lines_ofLines] at hlength
      omega
    have hunbroken : ∀ line ∈ ls, '\n' ∉ line := fun line hline ↦
      List.count_eq_zero.1
        (List.sum_eq_zero_iff_forall_eq_nat.1 hnone _ (List.mem_map_of_mem hline))
    rw [lines_ofLines hunbroken, map_dropReturn_eq_self_iff] at hsame
    exact fun line hline ↦ ⟨hunbroken line hline, hsame line hline⟩
  · intro hls
    rw [lines_ofLines fun line hline ↦ (hls line hline).1]
    exact map_dropReturn_eq_self_iff.2 fun line hline ↦ (hls line hline).2

/-! ### Lines with a return at their end -/

/-- What holds of texts without line feeds, and of a text as soon as it holds of what is behind its
first line, holds of all texts. -/
theorem induction_on_lines {motive : Text → Prop} (t : Text)
    (last : ∀ t, '\n' ∉ t → motive t)
    (first : ∀ s t, '\n' ∉ s → motive t → motive (s ++ '\n' :: t)) : motive t := by
  induction hn : t.length using Nat.strongRecOn generalizing t with
  | _ n ih =>
    by_cases hmem : '\n' ∈ t
    · obtain ⟨s, rest, rfl, hs⟩ := List.eq_append_cons_of_mem hmem
      refine first s rest hs (ih rest.length ?_ rest rfl)
      rw [← hn, List.length_append, List.length_cons]
      omega
    · exact last t hmem

theorem getLast?_dropReturn_iff :
    (dropReturn line).getLast? = some '\r' ↔ ['\r', '\r'] <:+ line := by
  constructor
  · intro hlast
    have hreturn : line.getLast? = some '\r' := by
      by_contra hno
      rw [dropReturn_eq_self_iff.2 hno] at hlast
      exact hno hlast
    obtain ⟨front, rfl⟩ := List.getLast?_eq_some_iff.1 hreturn
    rw [dropReturn, if_pos hreturn, List.dropLast_concat] at hlast
    obtain ⟨start, rfl⟩ := List.getLast?_eq_some_iff.1 hlast
    exact ⟨start, by simp⟩
  · rintro ⟨start, rfl⟩
    simp [dropReturn]

/-- Where a row of other characters meets a line feed, it is at the end of the first line or behind
it. -/
theorem infix_append_cons_iff {p s : Text} (hp : '\n' ∉ p) (hs : '\n' ∉ s) :
    p ++ ['\n'] <:+: s ++ '\n' :: t ↔ p <:+ s ∨ p ++ ['\n'] <:+: t := by
  have hmem : '\n' ∈ p ++ ['\n'] := List.mem_append_right p (List.mem_singleton.2 rfl)
  constructor
  · rw [List.infix_append_iff]
    rintro (hwithin | hwithin | ⟨left, right, heq, hleft, hright⟩)
    · exact absurd (hwithin.mem hmem) hs
    · rcases List.infix_cons_iff.1 hwithin with hbegins | hbehind
      · -- The row would have to begin with the line feed, so it is empty.
        rcases p with _ | ⟨c, p⟩
        · exact .inl (List.nil_suffix)
        · obtain ⟨rfl, -⟩ := List.cons_prefix_cons.1 hbegins
          exact absurd List.mem_cons_self hp
      · exact .inr hbehind
    · rcases List.prefix_cons_iff.1 hright with rfl | ⟨rest, rfl, -⟩
      · rw [List.append_nil] at heq
        exact absurd (hleft.mem (heq ▸ hmem)) hs
      · -- Both rows stand before the first line feed of one text.
        have hfirst := splitFirst?_append hp []
        rw [heq, splitFirst?_append fun hline ↦ hs (hleft.mem hline)] at hfirst
        obtain ⟨rfl, -⟩ := Prod.mk.inj (Option.some.inj hfirst)
        exact .inl hleft
  · rintro (⟨start, rfl⟩ | hbehind)
    · exact ⟨start, t, by simp⟩
    · exact List.infix_append_of_infix_right (List.infix_cons hbehind)

/-- No line of a text holds a line feed. -/
theorem not_mem_of_mem_lines (h : line ∈ lines t) : '\n' ∉ line := by
  induction t using induction_on_lines with
  | last t hno =>
    rw [lines_of_not_mem hno] at h
    split at h
    · cases h
    · rwa [List.mem_singleton.1 h]
  | first s t hno ih =>
    rw [lines_cons hno] at h
    rcases List.mem_cons.1 h with rfl | hmem
    · exact fun hfeed ↦ hno (mem_of_mem_dropReturn hfeed)
    · exact ih hmem

/-- **A line of a text ends in a carriage return** if there are two of them before a line feed, or
one at the end of the text. -/
theorem exists_return_iff (t : Text) :
    (∃ line ∈ lines t, line.getLast? = some '\r') ↔
      ['\r', '\r', '\n'] <:+: t ∨ t.getLast? = some '\r' := by
  induction t using induction_on_lines with
  | last t h =>
    have hno : ¬ ['\r', '\r', '\n'] <:+: t := fun hwithin ↦ h (hwithin.mem (by simp))
    rw [lines_of_not_mem h, or_iff_right hno]
    by_cases hempty : t = []
    · simp [hempty]
    · simp [hempty]
  | first s t h ih =>
    have hlast : (s ++ '\n' :: t).getLast? = some '\r' ↔ t.getLast? = some '\r' := by
      rw [List.getLast?_append_of_ne_nil _ (List.cons_ne_nil _ _), List.getLast?_cons]
      cases t.getLast? with
      | none => simp
      | some c => rfl
    have hreturns := infix_append_cons_iff (p := ['\r', '\r']) (t := t) (by decide) h
    rw [List.cons_append, List.cons_append, List.nil_append] at hreturns
    rw [lines_cons h, List.exists_mem_cons_iff, getLast?_dropReturn_iff, ih, hreturns, hlast,
      or_assoc]

end Scriptpad.Text
