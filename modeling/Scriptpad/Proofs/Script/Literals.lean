import Mathlib.Algebra.Group.Int.Defs
import Mathlib.Algebra.Group.Nat.Defs
import Scriptpad.Proofs.Decimal.Grammar
import Scriptpad.Proofs.Script.Writing

/-!
# The grammar of literals

A literal has one of five forms, and which one is a matter of order: a text that writes an integer
also writes a numeral, and it is an integer if 64 bits can hold it. `Value.HasLiteral` gives each
form with what must not hold for it to be the one that counts. No form asks the readers; numbers are
written as the grammars of decimals say.

Reading a literal gives the value that has it (`ofLiteral_eq_iff`). That is proved from two sides:
each form is read as its value, and every text has a form. From then on the reader is not opened
again; what it makes of a text is found by cases on the forms.

An integer too large for 64 bits is therefore a floating-point value, and never another integer.
Words for infinities and for what is not a number have no digit, so they are texts; this is why a
value that comes from a literal equals itself, which not every value does (`Value.same`).
-/

namespace Scriptpad

namespace Binary64

/-- Only what is not a number differs from itself. -/
theorem numEq_self_iff {x : Binary64} : x.numEq x = true ↔ x ≠ .notANumber := by
  cases x with
  | finite negative m e => simp [numEq]
  | infinite negative => simp [numEq]
  | notANumber => simp [numEq]

end Binary64

namespace Script

open Decimal (IntegerIsWritten IsWord Numeral)
open Text (inQuotes)

namespace Value

/-- Equality of values as they are compared: two floating-point values as numbers, two values of
another type as they are, and values of different types never. -/
def same : Value → Value → Bool
  | .integer m, .integer n => m == n
  | .float x, .float y => x.numEq y
  | .text s, .text t => s == t
  | .truth a, .truth b => a == b
  | _, _ => false

variable {t : Text} {v : Value}

theorem same_self_iff : v.same v = true ↔ v ≠ .float .notANumber := by
  cases v with
  | float x =>
    show x.numEq x = true ↔ _
    rw [Binary64.numEq_self_iff]
    exact not_congr (by rw [Value.float.injEq])
  | integer n => exact iff_of_true (beq_self_eq_true n) nofun
  | text t => exact iff_of_true (beq_self_eq_true t) nofun
  | truth b => exact iff_of_true (beq_self_eq_true b) nofun

/-! ### The forms -/

/-- The text is a literal for the value: an integer that fits in 64 bits; another numeral; a text
between quotes; a word for a truth value; and else, the text for itself. -/
inductive HasLiteral : Value → Text → Prop
  | integer {n : Int} {t : Text} (h : IntegerIsWritten n t) (hn : IsWord n) :
    HasLiteral (.integer n) t
  | float {x : Numeral} {t : Text} (h : x.IsWritten t)
    (hinteger : ∀ n, IntegerIsWritten n t → ¬IsWord n) : HasLiteral (.float (.ofNumeral x)) t
  | quoted (inner : Text) : HasLiteral (.text inner) (inQuotes inner)
  | word (b : Bool) : HasLiteral (.truth b) (shown (.truth b))
  | itself {t : Text} (hnumeral : ∀ x : Numeral, ¬x.IsWritten t)
    (hquoted : ∀ inner, t ≠ inQuotes inner) (hword : ∀ b, t ≠ shown (.truth b)) :
    HasLiteral (.text t) t

theorem integerLiteral?_eq_some_iff :
    integerLiteral? t = some v ↔ ∃ n, IntegerIsWritten n t ∧ IsWord n ∧ v = .integer n := by
  rw [integerLiteral?]
  constructor
  · intro h
    split at h
    · rename_i n hn
      obtain ⟨hword, heq⟩ := Option.ite_none_right_eq_some.1 h
      exact ⟨n, Decimal.integer?_eq_some_iff.1 hn, hword, (Option.some.inj heq).symm⟩
    · exact absurd h.symm (Option.some_ne_none v)
  · rintro ⟨n, hn, hword, rfl⟩
    rw [Decimal.integer?_eq_some_iff.2 hn]
    exact if_pos hword

theorem integerLiteral?_eq_none (hinteger : ∀ n, IntegerIsWritten n t → ¬IsWord n) :
    integerLiteral? t = none := by
  refine Option.eq_none_iff_forall_ne_some.2 fun v h ↦ ?_
  obtain ⟨n, hn, hword, -⟩ := integerLiteral?_eq_some_iff.1 h
  exact hinteger n hn hword

theorem floatLiteral?_eq_some {x : Numeral} (h : x.IsWritten t) :
    floatLiteral? t = some (.float (.ofNumeral x)) := by
  rw [floatLiteral?, Decimal.numeral?_eq_some_iff.2 h, Option.map_some]

theorem floatLiteral?_eq_none (hnumeral : ∀ x : Numeral, ¬x.IsWritten t) :
    floatLiteral? t = none := by
  rw [floatLiteral?, Option.map_eq_none_iff]
  exact Option.eq_none_iff_forall_ne_some.2 fun x h ↦
    hnumeral x (Decimal.numeral?_eq_some_iff.1 h)

theorem truthLiteral?_eq_none (hword : ∀ b, t ≠ shown (.truth b)) : truthLiteral? t = none :=
  (if_neg (hword true)).trans (if_neg (hword false))

/-- A text that writes an integer writes a numeral too. -/
theorem not_integerIsWritten (hnumeral : ∀ x : Numeral, ¬x.IsWritten t) (n : Int) :
    ¬IntegerIsWritten n t := by
  intro h
  obtain ⟨_, -, hwritten⟩ := h.exists_numeral
  exact hnumeral _ hwritten

/-- **Each form is read as its value.** -/
theorem HasLiteral.ofLiteral_eq (h : v.HasLiteral t) : ofLiteral t = v := by
  cases h with
  | integer h hn =>
    rw [ofLiteral, integerLiteral?_eq_some_iff.2 ⟨_, h, hn, rfl⟩]
    rfl
  | float h hinteger =>
    rw [ofLiteral, integerLiteral?_eq_none hinteger, floatLiteral?_eq_some h]
    rfl
  | quoted inner => exact ofLiteral_inQuotes inner
  | word b =>
    cases b with
    | true => decide
    | false => decide
  | itself hnumeral hquoted hword =>
    have hunquoted : Text.unquote? t = none :=
      Option.eq_none_iff_forall_ne_some.2 fun inner h ↦
        hquoted inner (Text.unquote?_eq_some_iff.1 h)
    rw [ofLiteral, integerLiteral?_eq_none fun n h _ ↦ not_integerIsWritten hnumeral n h,
      floatLiteral?_eq_none hnumeral, hunquoted, truthLiteral?_eq_none hword]
    rfl

/-- **Every text has a form.** -/
theorem exists_hasLiteral (t : Text) : ∃ v : Value, v.HasLiteral t := by
  by_cases hinteger : ∃ n, IntegerIsWritten n t ∧ IsWord n
  · obtain ⟨n, h, hn⟩ := hinteger
    exact ⟨_, .integer h hn⟩
  by_cases hnumeral : ∃ x : Numeral, x.IsWritten t
  · obtain ⟨x, h⟩ := hnumeral
    exact ⟨_, .float h fun n hwritten hn ↦ hinteger ⟨n, hwritten, hn⟩⟩
  by_cases hquoted : ∃ inner, t = inQuotes inner
  · obtain ⟨inner, rfl⟩ := hquoted
    exact ⟨_, .quoted inner⟩
  by_cases hword : ∃ b, t = shown (.truth b)
  · obtain ⟨b, rfl⟩ := hword
    exact ⟨_, .word b⟩
  exact ⟨_, .itself (not_exists.1 hnumeral) (not_exists.1 hquoted) (not_exists.1 hword)⟩

/-- **Reading a literal gives the value that has it.** -/
theorem ofLiteral_eq_iff : ofLiteral t = v ↔ v.HasLiteral t := by
  refine ⟨fun h ↦ ?_, HasLiteral.ofLiteral_eq⟩
  obtain ⟨w, hw⟩ := exists_hasLiteral t
  rwa [← h, hw.ofLiteral_eq]

/-! ### The forms apart -/

theorem ofLiteral_eq_integer_iff {n : Int} :
    ofLiteral t = .integer n ↔ IntegerIsWritten n t ∧ IsWord n := by
  rw [ofLiteral_eq_iff]
  constructor
  · intro h
    cases h with
    | integer h hn => exact ⟨h, hn⟩
  · rintro ⟨h, hn⟩
    exact .integer h hn

theorem ofLiteral_eq_float_iff {y : Binary64} :
    ofLiteral t = .float y ↔ (∀ n, IntegerIsWritten n t → ¬IsWord n) ∧
      ∃ x : Numeral, x.IsWritten t ∧ y = .ofNumeral x := by
  rw [ofLiteral_eq_iff]
  constructor
  · intro h
    cases h with
    | float h hinteger => exact ⟨hinteger, _, h, rfl⟩
  · rintro ⟨hinteger, x, h, rfl⟩
    exact .float h hinteger

theorem ofLiteral_eq_truth_iff {b : Bool} : ofLiteral t = .truth b ↔ t = shown (.truth b) := by
  rw [ofLiteral_eq_iff]
  constructor
  · intro h
    cases h with
    | word b => rfl
  · rintro rfl
    exact .word b

theorem ofLiteral_eq_text_iff {s : Text} :
    ofLiteral t = .text s ↔ t = inQuotes s ∨ (∀ x : Numeral, ¬x.IsWritten t) ∧
      (∀ inner, t ≠ inQuotes inner) ∧ (∀ b, t ≠ shown (.truth b)) ∧ t = s := by
  rw [ofLiteral_eq_iff]
  constructor
  · intro h
    cases h with
    | quoted inner => exact .inl rfl
    | itself hnumeral hquoted hword => exact .inr ⟨hnumeral, hquoted, hword, rfl⟩
  · rintro (rfl | ⟨hnumeral, hquoted, hword, rfl⟩)
    · exact .quoted s
    · exact .itself hnumeral hquoted hword

/-- A numeral that no integer of 64 bits has. -/
theorem ofLiteral_of_large {n : Int} (h : IntegerIsWritten n t) (hn : ¬IsWord n) :
    ofLiteral t = .float (.ofNumeral ⟨decide (n < 0), n.natAbs, 0⟩) := by
  have hne : n ≠ 0 := by
    rintro rfl
    exact hn (by decide)
  refine ofLiteral_eq_float_iff.2 ⟨fun m hm ↦ ?_, _, h.numeral hne, rfl⟩
  rwa [hm.unique h]

theorem not_isWritten_inQuotes (x : Numeral) (inner : Text) : ¬x.IsWritten (inQuotes inner) := by
  intro h
  have hnone : Decimal.numeral? (inQuotes inner) = none := rfl
  exact Option.some_ne_none x ((Decimal.numeral?_eq_some_iff.2 h).symm.trans hnone)

/-- A pair of quotes is two characters. -/
theorem exists_eq_inQuotes_iff :
    (∃ inner, t = inQuotes inner) ↔
      2 ≤ t.length ∧ t.head? = some '"' ∧ t.getLast? = some '"' := by
  constructor
  · rintro ⟨inner, rfl⟩
    exact ⟨by simp [inQuotes], rfl, List.getLast?_concat⟩
  · rintro ⟨hlength, hhead, hlast⟩
    obtain ⟨rest, rfl⟩ := List.head?_eq_some_iff.1 hhead
    have hne : rest ≠ [] := by
      rintro rfl
      exact absurd hlength (by decide)
    rw [List.getLast?_cons_of_ne_nil hne] at hlast
    obtain ⟨inner, rfl⟩ := List.getLast?_eq_some_iff.1 hlast
    exact ⟨inner, rfl⟩

/-! ### Words that are no numbers -/

/-- The signs, and the letters of the words for infinities and for what is not a number. There is no
digit among them, no quote, and not the `e` in which both words for truth values end. -/
def specialLetters : Text :=
  "+-afinty".toList

theorem toLower_of_isDigit {c : Char} (hc : Decimal.isDigit c = true) : c.toLower = c := by
  have hhigh : c.toNat ≤ 0x39 := of_decide_eq_true (Bool.and_eq_true_iff.1 hc).2
  exact Text.toLower_of_not_capital (by omega)

theorem ofLiteral_of_specialLetters (h : Text.asciiLower t ⊆ specialLetters) :
    ofLiteral t = .text t := by
  have hletter {c : Char} (hmem : c ∈ t) : c.toLower ∈ specialLetters :=
    h (List.mem_map_of_mem hmem)
  refine ofLiteral_eq_text_iff.2 (.inr ⟨fun x hx ↦ ?_, ?_, ?_, rfl⟩)
  · obtain ⟨c, hmem, hc⟩ := hx.exists_digit
    have hspecial : c ∈ specialLetters := toLower_of_isDigit hc ▸ hletter hmem
    exact absurd (List.any_eq_true.2 ⟨c, hspecial, hc⟩) (by decide)
  · rintro inner rfl
    have hquote : '"'.toLower ∈ specialLetters := hletter List.mem_cons_self
    exact absurd hquote (by decide)
  · rintro b rfl
    have hmem : 'e' ∈ shown (.truth b) := by cases b <;> decide
    exact absurd (hletter hmem) (by decide)

/-- A sign and a word in letters of whatever case. -/
theorem ofLiteral_of_special {sign word : Text} (hsign : sign ∈ [[], ['+'], ['-']])
    (hword : Text.asciiLower word ∈ ["inf".toList, "infinity".toList, "nan".toList]) :
    ofLiteral (sign ++ word) = .text (sign ++ word) := by
  have hsigns : ∀ sign ∈ [[], ['+'], ['-']], Text.asciiLower sign ⊆ specialLetters := by decide
  have hwords : ∀ word ∈ ["inf".toList, "infinity".toList, "nan".toList],
      word ⊆ specialLetters := by decide
  refine ofLiteral_of_specialLetters ?_
  rw [Text.asciiLower, List.map_append]
  exact List.append_subset.2 ⟨hsigns sign hsign, hwords _ hword⟩

/-! ### The grammar -/

theorem isWord_iff {n : Int} : IsWord n ↔ -2 ^ 63 ≤ n ∧ n ≤ 2 ^ 63 - 1 := by
  show -0x8000000000000000 ≤ n ∧ n < 0x8000000000000000 ↔ _
  omega

/-- **The grammar of literals**, for every text. It is an integer iff it writes one, behind an
optional sign and with any zeros in front, that 64 bits can hold; a floating-point value iff it
writes another numeral, the value being the one nearest to it; the text between two quotes that are
its ends; a truth value iff it is the word for it; and else itself. So an integer that 64 bits
cannot hold is a floating-point value, and words for infinities and for what is not a number are
texts whatever their case and sign, which is why no literal is "not a number" and the value of each
equals itself. The text of an integer is a literal for this integer. -/
theorem grammar_of_literals (t : Text) :
    let isInteger := ∃ n, IntegerIsWritten n t ∧ -2 ^ 63 ≤ n ∧ n ≤ 2 ^ 63 - 1
    let isNumeral := ∃ x : Numeral, x.IsWritten t
    let isQuoted := 2 ≤ t.length ∧ t.head? = some '"' ∧ t.getLast? = some '"'
    (∀ n, ofLiteral t = .integer n ↔ IntegerIsWritten n t ∧ -2 ^ 63 ≤ n ∧ n ≤ 2 ^ 63 - 1) ∧
    (∀ y, ofLiteral t = .float y ↔
      ¬isInteger ∧ ∃ x : Numeral, x.IsWritten t ∧ y = .ofNumeral x) ∧
    (∀ s, ofLiteral t = .text s ↔
      ¬isNumeral ∧ (isQuoted ∧ t = '"' :: s ++ ['"'] ∨
        ¬isQuoted ∧ t ≠ "true".toList ∧ t ≠ "false".toList ∧ t = s)) ∧
    (∀ b, ofLiteral t = .truth b ↔ t = if b then "true".toList else "false".toList) ∧
    (∀ n, IntegerIsWritten n t → n < -2 ^ 63 ∨ 2 ^ 63 - 1 < n →
      ofLiteral t = .float (.ofNumeral ⟨decide (n < 0), n.natAbs, 0⟩)) ∧
    (∀ sign word, sign ∈ [[], ['+'], ['-']] →
      Text.asciiLower word ∈ ["inf".toList, "infinity".toList, "nan".toList] →
      t = sign ++ word → ofLiteral t = .text t) ∧
    ofLiteral t ≠ .float .notANumber ∧ (ofLiteral t).same (ofLiteral t) = true ∧
    ∀ n, -2 ^ 63 ≤ n → n ≤ 2 ^ 63 - 1 → ofLiteral (shown (.integer n)) = .integer n := by
  intro isInteger isNumeral isQuoted
  have hinteger : ¬isInteger ↔ ∀ n, IntegerIsWritten n t → ¬IsWord n := by
    simp only [isInteger, not_exists, not_and, isWord_iff]
  have hquoted : ¬isQuoted ↔ ∀ inner, t ≠ inQuotes inner := by
    rw [← not_exists, exists_eq_inQuotes_iff]
  have hword : (∀ b, t ≠ shown (.truth b)) ↔ t ≠ "true".toList ∧ t ≠ "false".toList := by
    rw [Bool.forall_bool]
    exact and_comm
  refine ⟨fun n ↦ ?_, fun y ↦ ?_, fun s ↦ ⟨fun h ↦ ?_, ?_⟩, fun b ↦ ?_, fun n h hlarge ↦ ?_,
    ?_, ofLiteral_ne_notANumber t, same_self_iff.2 (ofLiteral_ne_notANumber t),
    fun n hlow hhigh ↦ ofLiteral_shown_integer (isWord_iff.2 ⟨hlow, hhigh⟩)⟩
  · rw [ofLiteral_eq_integer_iff, isWord_iff]
  · rw [ofLiteral_eq_float_iff, hinteger]
  · rcases ofLiteral_eq_text_iff.1 h with heq | ⟨hnumeral, hnoquotes, hnoword, heq⟩
    · refine ⟨?_, .inl ⟨exists_eq_inQuotes_iff.1 ⟨s, heq⟩, heq⟩⟩
      rintro ⟨x, hx⟩
      exact not_isWritten_inQuotes x s (heq ▸ hx)
    · obtain ⟨htrue, hfalse⟩ := hword.1 hnoword
      exact ⟨not_exists.2 hnumeral, .inr ⟨hquoted.2 hnoquotes, htrue, hfalse, heq⟩⟩
  · rintro ⟨hnumeral, ⟨-, heq⟩ | ⟨hnoquotes, htrue, hfalse, heq⟩⟩
    · exact ofLiteral_eq_text_iff.2 (.inl heq)
    · exact ofLiteral_eq_text_iff.2 (.inr
        ⟨not_exists.1 hnumeral, hquoted.1 hnoquotes, hword.2 ⟨htrue, hfalse⟩, heq⟩)
  · rw [ofLiteral_eq_truth_iff]
    cases b <;> exact Iff.rfl
  · refine ofLiteral_of_large h fun hn ↦ ?_
    obtain ⟨hlow, hhigh⟩ := isWord_iff.1 hn
    omega
  · rintro sign word hsign hspecial rfl
    exact ofLiteral_of_special hsign hspecial

/-- Zeros in front do not count, and at the ends of 64 bits the signs differ: the least integer is
one, and the same digits behind a plus are a floating-point value. -/
theorem grammar_of_literals_at_bounds :
    ofLiteral "-009223372036854775808".toList = .integer (-2 ^ 63) ∧
      ofLiteral "+9223372036854775808".toList = .float (.finite false (2 ^ 52) 11) ∧
      ofLiteral "-InFinity".toList = .text "-InFinity".toList := by
  have hleast : IntegerIsWritten (-2 ^ 63) "-009223372036854775808".toList :=
    Decimal.integer?_eq_some_iff.1 (by decide)
  have hplus : IntegerIsWritten (2 ^ 63) "+9223372036854775808".toList :=
    Decimal.integer?_eq_some_iff.1 (by decide)
  obtain ⟨hinteger, -⟩ := grammar_of_literals "-009223372036854775808".toList
  obtain ⟨-, -, -, -, hlarge, -⟩ := grammar_of_literals "+9223372036854775808".toList
  obtain ⟨-, -, -, -, -, hspecial, -⟩ := grammar_of_literals "-InFinity".toList
  refine ⟨(hinteger _).2 ⟨hleast, by decide, by decide⟩, ?_,
    hspecial ['-'] "InFinity".toList (by decide) (by decide) rfl⟩
  rw [hlarge _ hplus (.inr (by decide))]
  decide +kernel

end Value

end Script

end Scriptpad
