import Mathlib.Data.List.Basic
import Scriptpad.Text.Blank

/-!
# Blanks around a text

Trimming takes off all blanks at both ends of a text, however many there are, and none within it.
So padding of any kind does not count (`trim_pad`), and what is left is the text itself if it has no
blanks of its own at its ends (`Trimmed.trim_pad_eq`).

`Padding` is the type of the texts that a reader skips. It carries its proof, so that a grammar may
name the places where blanks can stand without a hypothesis for each of them. `Trimmed` says what is
asked of a text that is not to be touched, without reference to the trimming itself. The empty text
is `Trimmed` and not `Solid`: it would let through the blanks of what it is put in front of.
-/

namespace Scriptpad.Text

/-- A row of blanks, which may be empty. -/
structure Padding where
  text : Text
  blank : text.all isBlank = true

instance : Coe Padding Text := ⟨Padding.text⟩

/-- No blank at all. -/
def Padding.none : Padding := ⟨[], rfl⟩

theorem Padding.not_mem (u : Padding) {c : Char} (hc : isBlank c = false) : c ∉ u.text :=
  fun hmem ↦ Bool.false_ne_true (hc.symm.trans (List.all_eq_true.1 u.blank c hmem))

/-- The text begins and ends with no blank. The empty text does neither. -/
def Trimmed (t : Text) : Prop :=
  (∀ c ∈ t.head?, isBlank c = false) ∧ ∀ c ∈ t.getLast?, isBlank c = false

-- At most one character is looked at on each side, and not all that there are.
instance (t : Text) : Decidable (Trimmed t) :=
  @instDecidableAnd _ _ (Option.decidableForallMem t.head?) (Option.decidableForallMem t.getLast?)

variable {t : Text}

/-! ### Padding is trimmed -/

theorem trimStart_pad (u : Padding) (t : Text) : trimStart (u ++ t) = trimStart t :=
  List.dropWhile_append_of_pos (List.all_eq_true.1 u.blank)

theorem trimEnd_pad (t : Text) (v : Padding) : trimEnd (t ++ v) = trimEnd t := by
  have hblank : ∀ c ∈ v.text.reverse, isBlank c = true := fun c hc ↦
    List.all_eq_true.1 v.blank c (List.mem_reverse.1 hc)
  rw [trimEnd, trimEnd, List.reverse_append]
  exact congrArg List.reverse (List.dropWhile_append_of_pos hblank)

/-- **Blanks around a text do not count.** -/
theorem trim_pad (u : Padding) (t : Text) (v : Padding) : trim (u ++ t ++ v) = trim t := by
  rw [trim, trim, List.append_assoc, trimStart_pad, trimStart, List.dropWhile_append]
  split
  · -- The text was blank itself, and nothing is left on either side.
    rename_i hempty
    have hnil : t.dropWhile isBlank = [] := List.isEmpty_iff.1 hempty
    have hpadding : v.text.dropWhile isBlank = [] := by
      have hall := trimStart_pad v []
      rwa [List.append_nil] at hall
    rw [trimStart, hnil, hpadding]
  · exact trimEnd_pad _ v

/-! ### Nothing else is -/

theorem trimStart_of_head? (h : ∀ c ∈ t.head?, isBlank c = false) : trimStart t = t := by
  cases t with
  | nil => rfl
  | cons c rest => exact List.dropWhile_cons_of_neg (by simpa using h)

/-- **A text without blanks at its ends is left as it is.** -/
theorem Trimmed.trim_eq (h : Trimmed t) : trim t = t := by
  have hreverse : trimStart t.reverse = t.reverse := by
    refine trimStart_of_head? ?_
    rw [List.head?_reverse]
    exact h.2
  rw [trim, trimStart_of_head? h.1, trimEnd, hreverse, List.reverse_reverse]

/-- **Padding comes off, and the text comes out.** -/
theorem Trimmed.trim_pad_eq (h : Trimmed t) (u v : Padding) : trim (u ++ t ++ v) = t :=
  (trim_pad u t v).trans h.trim_eq

theorem Trimmed.trim_append_eq (h : Trimmed t) (u : Padding) : trim (u ++ t) = t := by
  have hboth := h.trim_pad_eq u .none
  rwa [Padding.none, List.append_nil] at hboth

/-! ### Texts without blanks at their ends -/

/-- The text begins with a character that is not blank and ends with one. -/
structure Solid (t : Text) : Prop where
  trimmed : Trimmed t
  ne_nil : t ≠ []

instance (t : Text) : Decidable (Solid t) :=
  decidable_of_iff (Trimmed t ∧ t ≠ []) ⟨fun ⟨htrimmed, hne⟩ ↦ ⟨htrimmed, hne⟩,
    fun h ↦ ⟨h.trimmed, h.ne_nil⟩⟩

/-- What stands between two such texts does not matter. -/
theorem Solid.append {s : Text} (hs : Solid s) (middle : Text) (ht : Solid t) :
    Solid (s ++ middle ++ t) := by
  refine ⟨⟨?_, ?_⟩, List.append_ne_nil_of_right_ne_nil _ ht.ne_nil⟩
  · obtain ⟨c, rest, rfl⟩ := List.exists_cons_of_ne_nil hs.ne_nil
    exact hs.trimmed.1
  · rw [List.getLast?_append_of_ne_nil _ ht.ne_nil]
    exact ht.trimmed.2

/-- Padding comes off a line between its first and its last word, and off no other place. -/
theorem Solid.trim_line {s : Text} (hs : Solid s) (ht : Solid t) (u : Padding) (middle : Text)
    (v : Padding) : trim (u ++ (s ++ middle ++ t) ++ v) = s ++ (middle ++ t) :=
  ((hs.append middle ht).trimmed.trim_pad_eq u v).trans (List.append_assoc _ _ _)

theorem solid_of_forall (hne : t ≠ []) (h : ∀ c ∈ t, isBlank c = false) : Solid t :=
  ⟨⟨fun c hc ↦ h c (List.mem_of_mem_head? hc), fun c hc ↦ h c (List.mem_of_mem_getLast? hc)⟩, hne⟩

/-! ### ASCII -/

/-- The only blank among the printable characters of ASCII is the space. -/
theorem isBlank_of_ascii {c : Char} (hlow : 0x20 < c.toNat) (hhigh : c.toNat < 0x7F) :
    isBlank c = false := by
  rw [← Bool.not_eq_true]
  intro hblank
  simp only [isBlank, Bool.or_eq_true, Bool.and_eq_true, decide_eq_true_eq, beq_iff_eq] at hblank
  omega

/-- Only the capitals of ASCII have another small letter. -/
theorem toLower_of_not_capital {c : Char} (h : ¬(0x41 ≤ c.toNat ∧ c.toNat ≤ 0x5A)) :
    c.toLower = c :=
  dif_neg h

/-- No blank is a capital. -/
theorem toLower_of_isBlank {c : Char} (hc : isBlank c = true) : c.toLower = c := by
  refine toLower_of_not_capital ?_
  rintro ⟨hlow, hhigh⟩
  have hvisible := isBlank_of_ascii (c := c) (by omega) (by omega)
  exact Bool.false_ne_true (hvisible.symm.trans hc)

end Scriptpad.Text
