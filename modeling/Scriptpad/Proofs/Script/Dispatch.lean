import Mathlib.Data.List.Basic
import Mathlib.Data.List.Perm.Basic
import Scriptpad.Proofs.Script.Writing

/-!
# One rule at most

The rules for a line are tried in an order, but no line depends on it: what a rule decides is known
by its first character, and no two rules share one (`beginnings`). So of the rules at most one
applies to a text, whatever the text (`pairwise_rules`), and a search through rules of which at most
one applies finds the same in every order (`findSome?_eq_of_perm`). A further rule keeps this as
long as its texts begin with a character that is none of these.

Only a rule for a device can find an error, and it does so just when the device does not know the
command (`Device.Knows`). This makes the lines that fail as few as the lines that a device is
addressed in (`ofLine_eq_error_iff`).
-/

namespace Scriptpad

namespace Text

variable {start t : Text}

theorem dropStart?_eq_none_iff : dropStart? start t = none ↔ ¬start <+: t := by
  rw [Option.eq_none_iff_forall_ne_some, List.IsPrefix, not_exists]
  refine forall_congr' fun rest ↦ not_congr ?_
  rw [dropStart?_eq_some_iff, eq_comm]

end Text

namespace Script

variable {line t : Text}

/-! ### Beginnings -/

/-- The rules, each with the first characters of the texts that it decides. The empty text has
none. -/
def beginnings : List (Rule × List (Option Char)) :=
  [(Rule.skip, [none, some '/']), (Rule.print, [some 'p']), (Rule.assign, [some 'v']),
    (Rule.terminal, [some 't']), (Rule.audio, [some 'a'])]

theorem head?_of_dropStart? {c : Char} {start : Text}
    (h : (Text.dropStart? (c :: start) t).isSome = true) : t.head? = some c := by
  obtain ⟨rest, hrest⟩ := Option.isSome_iff_exists.1 h
  rw [Text.dropStart?_eq_some_iff.1 hrest]
  rfl

theorem head?_of_map_dropStart? {c : Char} {start : Text} {f : Text → Reading}
    (h : ((Text.dropStart? (c :: start) t).map f).isSome = true) : t.head? ∈ [some c] := by
  rw [Option.isSome_map] at h
  exact List.mem_singleton.2 (head?_of_dropStart? h)

theorem head?_of_skip (h : (Rule.skip t).isSome = true) : t.head? ∈ [none, some '/'] := by
  rw [Rule.skip] at h
  split at h
  · rename_i hguard
    rw [Bool.or_eq_true, decide_eq_true_iff] at hguard
    rcases hguard with rfl | hcomment
    · exact List.mem_cons_self
    · exact List.mem_cons_of_mem _ (List.mem_singleton.2 (head?_of_dropStart? hcomment))
  · exact absurd h nofun

/-- A rule applies to a text only if it begins as the rule says. -/
theorem head?_mem_of_isSome {entry : Rule × List (Option Char)} (hentry : entry ∈ beginnings)
    (h : (entry.1 t).isSome = true) : t.head? ∈ entry.2 := by
  simp only [beginnings, List.mem_cons, List.not_mem_nil, or_false] at hentry
  rcases hentry with rfl | rfl | rfl | rfl | rfl
  · exact head?_of_skip h
  · exact head?_of_map_dropStart? h
  · exact head?_of_map_dropStart? h
  · exact head?_of_map_dropStart? h
  · exact head?_of_map_dropStart? h

/-- **At most one rule applies**, to any text. -/
theorem pairwise_rules (t : Text) :
    rules.Pairwise fun first second ↦ first t = none ∨ second t = none := by
  have happart : beginnings.Pairwise fun first second ↦ ∀ c ∈ first.2, c ∉ second.2 := by decide
  have hrules : rules = beginnings.map Prod.fst := rfl
  rw [hrules, List.pairwise_map]
  refine happart.imp_of_mem fun {first second} hfirst hsecond hdisjoint ↦ ?_
  by_contra hboth
  obtain ⟨hleft, hright⟩ := not_or.1 hboth
  exact hdisjoint _ (head?_mem_of_isSome hfirst (Option.isSome_iff_ne_none.2 hleft))
    (head?_mem_of_isSome hsecond (Option.isSome_iff_ne_none.2 hright))

/-! ### Orders -/

/-- What a line does if the rules are tried in the given order. -/
def Statement.ofLineBy (order : List Rule) (line : Text) : Reading :=
  (order.findSome? fun rule ↦ rule (Text.trim line)).getD (.ok .nothing)

/-- **If at most one answers, it does not matter in which order they are asked.** -/
theorem findSome?_eq_of_perm {α β : Type} {f : α → Option β} {l l' : List α} (hperm : l.Perm l')
    (h : l.Pairwise fun a b ↦ f a = none ∨ f b = none) : l.findSome? f = l'.findSome? f := by
  induction hperm with
  | nil => rfl
  | cons a _ ih => rw [List.findSome?_cons, List.findSome?_cons, ih h.of_cons]
  | swap a b l =>
    rcases (List.pairwise_cons.1 h).1 a List.mem_cons_self with hb | ha
    · simp only [List.findSome?_cons, hb]
    · simp only [List.findSome?_cons, ha]
  | trans hfirst _ ihfirst ihsecond =>
    have hmiddle := (hfirst.pairwise_iff Or.symm).1 h
    exact (ihfirst h).trans (ihsecond hmiddle)

/-! ### Commands -/

/-- The commands that a device knows: one that stands alone, and one that more may follow. -/
def Device.Knows : Device → Text → Prop
  | .terminal, command => command = "clear".toList ∨ "color".toList <+: command
  | .audio, command => command = "beep".toList ∨ "play".toList <+: command

/-- A command that is compared with one word and then looked at for another's beginning is unknown
if it is not the one and does not begin with the other. -/
theorem command_eq_error_iff {word start command : Text} {known : Reading} {f : Text → Statement}
    {e unknown : UnknownCommand} (hknown : known ≠ .error e) :
    (if command = word then known else match Text.dropStart? start command with
      | some rest => .ok (f rest)
      | none => .error unknown) = .error e ↔
      ¬(command = word ∨ start <+: command) ∧ e = unknown := by
  rcases eq_or_ne command word with heq | hne
  · rw [if_pos heq]
    exact iff_of_false hknown fun h ↦ h.1 (.inl heq)
  · rw [if_neg hne]
    cases hstart : Text.dropStart? start command with
    | some rest =>
      have hprefix : start <+: command := ⟨rest, (Text.dropStart?_eq_some_iff.1 hstart).symm⟩
      exact iff_of_false nofun fun h ↦ h.1 (.inr hprefix)
    | none =>
      have hno := Text.dropStart?_eq_none_iff.1 hstart
      rw [Except.error.injEq, eq_comm]
      exact (and_iff_right (not_or.2 ⟨hne, hno⟩)).symm

theorem terminalCommand_eq_error_iff {command : Text} {e : UnknownCommand} :
    terminalCommand command = .error e ↔
      ¬Device.terminal.Knows command ∧ e = ⟨.terminal, command⟩ :=
  command_eq_error_iff nofun

theorem audioCommand_eq_error_iff {command : Text} {e : UnknownCommand} :
    audioCommand command = .error e ↔ ¬Device.audio.Knows command ∧ e = ⟨.audio, command⟩ :=
  command_eq_error_iff nofun

/-- An error comes from a rule, since a line to which none applies is none. -/
theorem exists_rule_of_error {e : UnknownCommand} (h : Statement.ofLine line = .error e) :
    ∃ rule ∈ rules, rule (Text.trim line) = some (.error e) := by
  cases hfound : rules.findSome? fun rule ↦ rule (Text.trim line) with
  | none =>
    rw [Statement.ofLine, hfound, Option.getD_none] at h
    injection h
  | some reading =>
    rw [Statement.ofLine, hfound, Option.getD_some] at h
    obtain ⟨rule, hmem, hrule⟩ := List.exists_of_findSome?_eq_some hfound
    exact ⟨rule, hmem, h ▸ hrule⟩

/-- **A line fails just when it gives a device a command that it does not know.** -/
theorem ofLine_eq_error_iff {e : UnknownCommand} :
    Statement.ofLine line = .error e ↔
      ∃ device rest, Text.trim line = Device.name device ++ '.' :: rest ∧
        ¬device.Knows (Text.trim rest) ∧ e = ⟨device, Text.trim rest⟩ := by
  constructor
  · intro h
    obtain ⟨rule, hmem, hrule⟩ := exists_rule_of_error h
    simp only [rules, List.mem_cons, List.not_mem_nil, or_false] at hmem
    rcases hmem with rfl | rfl | rfl | rfl | rfl
    · obtain ⟨-, heq⟩ := Option.ite_none_right_eq_some.1 hrule
      exact absurd (Option.some.inj heq) nofun
    · obtain ⟨_, -, heq⟩ := Option.map_eq_some_iff.1 hrule
      exact absurd heq nofun
    · obtain ⟨_, -, heq⟩ := Option.map_eq_some_iff.1 hrule
      split at heq <;> exact absurd heq nofun
    · obtain ⟨rest, hrest, hcommand⟩ := Option.map_eq_some_iff.1 hrule
      obtain ⟨hunknown, rfl⟩ := terminalCommand_eq_error_iff.1 hcommand
      have hline := Text.dropStart?_eq_some_iff.1 hrest
      exact ⟨.terminal, rest, hline, hunknown, rfl⟩
    · obtain ⟨rest, hrest, hcommand⟩ := Option.map_eq_some_iff.1 hrule
      obtain ⟨hunknown, rfl⟩ := audioCommand_eq_error_iff.1 hcommand
      have hline := Text.dropStart?_eq_some_iff.1 hrest
      exact ⟨.audio, rest, hline, hunknown, rfl⟩
  · rintro ⟨device, rest, hline, hunknown, rfl⟩
    cases device with
    | terminal =>
      rw [ofLine_terminal hline]
      exact terminalCommand_eq_error_iff.2 ⟨hunknown, rfl⟩
    | audio =>
      rw [ofLine_audio hline]
      exact audioCommand_eq_error_iff.2 ⟨hunknown, rfl⟩

/-! ### Dispatch -/

/-- **Dispatch is unambiguous.** Of the rules at most one applies to a line, so they may be tried in
any order. A line is an error just when without the blanks around it it is the name of a device, a
dot, and a command that, again without the blanks around it, the device does not know; the error
names this device and this command. Blanks around a line do not count. -/
theorem dispatch_unambiguous (line : Text) :
    (rules.Pairwise fun first second ↦ first line = none ∨ second line = none) ∧
    (∀ order, order.Perm rules → Statement.ofLineBy order line = Statement.ofLine line) ∧
    (∀ e, Statement.ofLine line = .error e ↔
      ∃ device rest, Text.trim line = Device.name device ++ '.' :: rest ∧
        ¬device.Knows (Text.trim rest) ∧ e = ⟨device, Text.trim rest⟩) ∧
    ∀ u v : Text.Padding, Statement.ofLine (u ++ line ++ v) = Statement.ofLine line := by
  refine ⟨pairwise_rules line, fun order horder ↦ ?_, fun e ↦ ofLine_eq_error_iff,
    fun u v ↦ Statement.ofLine_congr (Text.trim_pad u line v)⟩
  have hfound := findSome?_eq_of_perm horder.symm (pairwise_rules (Text.trim line))
  rw [Statement.ofLineBy, ← hfound]
  rfl

/-- A command is unknown also if it only goes on behind the word that is known. -/
theorem dispatch_unambiguous_backwards :
    let line := "\taudio.  beep(500) ".toList
    let e : UnknownCommand := ⟨.audio, "beep(500)".toList⟩
    ¬Device.audio.Knows "beep(500)".toList ∧ Statement.ofLine line = .error e ∧
      Statement.ofLineBy rules.reverse line = .error e := by
  intro line e
  have hunknown : ¬Device.audio.Knows "beep(500)".toList := by
    rintro (heq | hprefix)
    · exact absurd heq (by decide)
    · exact absurd hprefix (by decide)
  obtain ⟨-, horder, herror, -⟩ := dispatch_unambiguous line
  have hfails : Statement.ofLine line = .error e :=
    (herror e).2 ⟨.audio, "  beep(500)".toList, by decide, hunknown, by decide⟩
  exact ⟨hunknown, hfails, (horder _ (List.reverse_perm rules)).trans hfails⟩

end Script

end Scriptpad
