import Mathlib.Data.List.Basic
import Mathlib.Data.List.Induction
import Scriptpad.Decimal.Numeral

/-!
# The grammar of decimal numerals

What the readers of numbers accept is said here without them, by grammars that give each text its
number. A row of digits grows at its end, so that a further digit is worth one and all digits before
it are worth ten times as much; zeros at its beginning need no rule of their own. An integer is such
a row with an optional sign. A numeral has digits with a point before, among or behind them, or with
none, and may end in a power of ten, which is an integer again.

Each reader inverts its grammar (`natural?_eq_some_iff`, `integer?_eq_some_iff`,
`numeral?_eq_some_iff`), so a text that a grammar does not give is refused, and one that it gives
in two ways has one number all the same. The readers take the longest row of digits, and this is the
right one because what follows a row in the grammar begins with no digit (`HeadIsNoDigit`).

Every integer is a numeral (`IntegerIsWritten.numeral`), which is where a text goes that writes an
integer too large for 64 bits; and no numeral is without a digit (`Numeral.IsWritten.exists_digit`),
which is what keeps words from being numbers.
-/

namespace Scriptpad.Decimal

variable {t ds : Text} {n : Nat} {negative : Bool}

/-! ### Rows of digits -/

/-- The natural number is written by a row of one or more digits. -/
inductive NaturalIsWritten : Nat → Text → Prop
  | digit {c : Char} (hc : isDigit c = true) : NaturalIsWritten (digitValue c) [c]
  | further {n : Nat} {ds : Text} {c : Char} (h : NaturalIsWritten n ds) (hc : isDigit c = true) :
    NaturalIsWritten (10 * n + digitValue c) (ds ++ [c])

theorem NaturalIsWritten.ne_nil (h : NaturalIsWritten n ds) : ds ≠ [] := by
  cases h with
  | digit _ => exact List.cons_ne_nil _ _
  | further _ _ => exact List.append_ne_nil_of_right_ne_nil _ (List.cons_ne_nil _ _)

theorem NaturalIsWritten.isDigit_of_mem (h : NaturalIsWritten n ds) :
    ∀ c ∈ ds, isDigit c = true := by
  induction h with
  | digit hc => exact List.forall_mem_singleton.2 hc
  | further _ hc ih => exact List.forall_mem_append.2 ⟨ih, List.forall_mem_singleton.2 hc⟩

theorem NaturalIsWritten.ofDigits_eq (h : NaturalIsWritten n ds) : ofDigits ds = n := by
  induction h with
  | digit _ => exact Nat.zero_add _
  | further _ _ ih => rw [ofDigits_append_singleton, ih]

/-- Every row of digits writes a number. -/
theorem naturalIsWritten_ofDigits (hne : ds ≠ []) (hdigits : ∀ c ∈ ds, isDigit c = true) :
    NaturalIsWritten (ofDigits ds) ds := by
  induction ds using List.reverseRecOn with
  | nil => exact absurd rfl hne
  | append_singleton ds c ih =>
    obtain ⟨hds, hc⟩ := List.forall_mem_append.1 hdigits
    have hc : isDigit c = true := hc c (List.mem_singleton_self c)
    rw [ofDigits_append_singleton]
    rcases eq_or_ne ds [] with rfl | hne
    · exact (Nat.zero_add (digitValue c)).symm ▸ NaturalIsWritten.digit hc
    · exact (ih hne hds).further hc

theorem natural?_eq_some_iff : natural? t = some n ↔ NaturalIsWritten n t := by
  have hguard : (t ≠ [] && t.all isDigit) = true ↔ t ≠ [] ∧ ∀ c ∈ t, isDigit c = true := by
    rw [Bool.and_eq_true, decide_eq_true_iff, List.all_eq_true]
  rw [natural?, Option.ite_none_right_eq_some, hguard, Option.some.injEq]
  constructor
  · rintro ⟨⟨hne, hdigits⟩, rfl⟩
    exact naturalIsWritten_ofDigits hne hdigits
  · intro h
    exact ⟨⟨h.ne_nil, h.isDigit_of_mem⟩, h.ofDigits_eq⟩

/-! ### Integers -/

/-- The sign is written, or left out: nothing and `+` mean that there is no minus. -/
inductive SignIsWritten : Bool → Text → Prop
  | none : SignIsWritten false []
  | plus : SignIsWritten false ['+']
  | minus : SignIsWritten true ['-']

/-- The integer with the given sign and absolute value. -/
def signed (negative : Bool) (n : Nat) : Int :=
  if negative then -(n : Int) else n

/-- The integer is written by digits behind an optional sign. -/
inductive IntegerIsWritten : Int → Text → Prop
  | mk {negative : Bool} {sign : Text} {n : Nat} {ds : Text} (hsign : SignIsWritten negative sign)
    (hdigits : NaturalIsWritten n ds) : IntegerIsWritten (signed negative n) (sign ++ ds)

/-- The reader takes the sign off and reads the digits behind it. -/
theorem integer?_append {sign : Text} (hsign : SignIsWritten negative sign)
    (hdigits : NaturalIsWritten n ds) : integer? (sign ++ ds) = some (signed negative n) := by
  have hnatural : natural? ds = some n := natural?_eq_some_iff.2 hdigits
  cases hsign with
  | none => exact integer?_of_natural? hnatural
  | plus =>
    show Option.map _ (natural? ds >>= _) = _
    rw [hnatural]
    rfl
  | minus =>
    show Option.map _ (natural? ds >>= _) = _
    rw [hnatural]
    rfl

theorem integer?_eq_some_iff {i : Int} : integer? t = some i ↔ IntegerIsWritten i t := by
  refine ⟨fun h ↦ ?_, fun ⟨hsign, hdigits⟩ ↦ integer?_append hsign hdigits⟩
  have hread {digits : Text} {f : Int → Int}
      (h : (natural? digits >>= fun n ↦ some (n : Int)).map f = some i) :
      ∃ n : Nat, NaturalIsWritten n digits ∧ f n = i := by
    obtain ⟨_, hbind, rfl⟩ := Option.map_eq_some_iff.1 h
    obtain ⟨n, hn, ⟨⟩⟩ := Option.bind_eq_some_iff.1 hbind
    exact ⟨n, natural?_eq_some_iff.1 hn, rfl⟩
  rw [integer?.eq_def] at h
  split at h
  · obtain ⟨n, hn, rfl⟩ := hread h
    exact .mk .minus hn
  · obtain ⟨n, hn, rfl⟩ := hread h
    exact .mk .plus hn
  · obtain ⟨n, hn, rfl⟩ := hread h
    exact .mk .none hn

/-- A text writes at most one integer. -/
theorem IntegerIsWritten.unique {i j : Int} (hi : IntegerIsWritten i t)
    (hj : IntegerIsWritten j t) : i = j :=
  Option.some.inj ((integer?_eq_some_iff.2 hi).symm.trans (integer?_eq_some_iff.2 hj))

/-! ### Powers of ten -/

/-- The power of ten is written behind the letter `e` of either case, or left out. -/
inductive PowerIsWritten : Int → Text → Prop
  | none : PowerIsWritten 0 []
  | some {e : Int} {c : Char} {t : Text} (hc : c = 'e' ∨ c = 'E') (h : IntegerIsWritten e t) :
    PowerIsWritten e (c :: t)

theorem power?_eq_some_iff {e : Int} : power? t = some e ↔ PowerIsWritten e t := by
  cases t with
  | nil =>
    constructor
    · intro h
      obtain rfl := Option.some.inj h
      exact .none
    · rintro ⟨⟩
      rfl
  | cons c t =>
    have hguard : (c = 'e' || c = 'E') = true ↔ c = 'e' ∨ c = 'E' := by
      rw [Bool.or_eq_true, decide_eq_true_iff, decide_eq_true_iff]
    rw [power?, Option.ite_none_right_eq_some, hguard, integer?_eq_some_iff]
    constructor
    · rintro ⟨hc, h⟩
      exact .some hc h
    · intro h
      cases h with
      | some hc h => exact ⟨hc, h⟩

/-! ### Numerals -/

/-- The numeral is written without its sign: digits, among which there may be a point, and an
optional power of ten. The point may also stand before the first digit or behind the last. -/
inductive MagnitudeIsWritten (negative : Bool) : Numeral → Text → Prop
  | whole {n : Nat} {ds : Text} {e : Int} {power : Text} (hdigits : NaturalIsWritten n ds)
    (hpower : PowerIsWritten e power) : MagnitudeIsWritten negative ⟨negative, n, e⟩ (ds ++ power)
  | pointed {n : Nat} {ds fs : Text} {e : Int} {power : Text}
    (hdigits : NaturalIsWritten n (ds ++ fs)) (hpower : PowerIsWritten e power) :
    MagnitudeIsWritten negative ⟨negative, n, e - fs.length⟩ (ds ++ '.' :: (fs ++ power))

/-- The numeral is written: its magnitude behind an optional sign. -/
inductive Numeral.IsWritten : Numeral → Text → Prop
  | mk {negative : Bool} {sign : Text} {x : Numeral} {t : Text}
    (hsign : SignIsWritten negative sign) (h : MagnitudeIsWritten negative x t) :
    IsWritten x (sign ++ t)

variable {x : Numeral}

/-- The text does not go on with a digit. -/
def HeadIsNoDigit (t : Text) : Prop :=
  ∀ c ∈ t.head?, isDigit c = false

theorem PowerIsWritten.headIsNoDigit {e : Int} (h : PowerIsWritten e t) : HeadIsNoDigit t := by
  cases h with
  | none => exact nofun
  | some hc _ =>
    rintro c ⟨⟩
    rcases hc with rfl | rfl <;> rfl

theorem PowerIsWritten.ne_point {e : Int} (h : PowerIsWritten e t) (rest : Text) :
    t ≠ '.' :: rest := by
  rintro rfl
  cases h with
  | some hc _ => exact absurd hc (by decide)

/-- **A row of digits is taken off whole, and nothing behind it.** -/
theorem span_digits (hdigits : ∀ c ∈ ds, isDigit c = true) (ht : HeadIsNoDigit t) :
    (ds ++ t).takeWhile isDigit = ds ∧ (ds ++ t).dropWhile isDigit = t := by
  rw [List.takeWhile_append_of_pos hdigits, List.dropWhile_append_of_pos hdigits]
  cases t with
  | nil => exact ⟨List.append_nil ds, rfl⟩
  | cons c t =>
    have hc : ¬isDigit c = true := Bool.eq_false_iff.1 (ht c rfl)
    rw [List.takeWhile_cons_of_neg hc, List.dropWhile_cons_of_neg hc]
    exact ⟨List.append_nil ds, rfl⟩

/-- Any text is a row of digits, which may be empty, and what does not go on with one. -/
theorem exists_digits_append (t : Text) :
    ∃ ds rest, t = ds ++ rest ∧ (∀ c ∈ ds, isDigit c = true) ∧ HeadIsNoDigit rest := by
  refine ⟨t.takeWhile isDigit, t.dropWhile isDigit, List.takeWhile_append_dropWhile.symm,
    List.all_eq_true.1 List.all_takeWhile, fun c hc ↦ ?_⟩
  have hhead := List.head?_dropWhile_not isDigit t
  rw [Option.mem_def.1 hc] at hhead
  exact hhead

theorem natural?_of_digits (hdigits : ∀ c ∈ ds, isDigit c = true) :
    natural? ds = if ds = [] then none else some (ofDigits ds) := by
  rcases eq_or_ne ds [] with rfl | hne
  · rfl
  · rw [if_neg hne, natural?_eq_some_iff]
    exact naturalIsWritten_ofDigits hne hdigits

variable {power : Text}

/-- The reader of magnitudes on a text that goes on behind its first digits with a point. -/
theorem magnitude?_pointed {fs : Text} (hds : ∀ c ∈ ds, isDigit c = true)
    (hfs : ∀ c ∈ fs, isDigit c = true) (hpower : HeadIsNoDigit power) :
    magnitude? negative (ds ++ '.' :: (fs ++ power)) =
      (natural? (ds ++ fs)).bind fun n ↦
        (power? power).map fun e ↦ ⟨negative, n, e - fs.length⟩ := by
  have hpoint : HeadIsNoDigit ('.' :: (fs ++ power)) := by
    rintro c ⟨⟩
    rfl
  obtain ⟨hwhole, hrest⟩ := span_digits hds hpoint
  obtain ⟨hfraction, hbehind⟩ := span_digits hfs hpower
  rw [natural?_of_digits (List.forall_mem_append.2 ⟨hds, hfs⟩)]
  simp only [magnitude?, hwhole, hrest, hfraction, hbehind, List.append_eq_nil_iff,
    Bool.and_eq_true, decide_eq_true_eq]
  split <;> rfl

/-- And on one that goes on with something else. -/
theorem magnitude?_whole (hds : ∀ c ∈ ds, isDigit c = true) (hpower : HeadIsNoDigit power)
    (hpoint : ∀ rest, power ≠ '.' :: rest) :
    magnitude? negative (ds ++ power) =
      (natural? ds).bind fun n ↦ (power? power).map fun e ↦ ⟨negative, n, e⟩ := by
  obtain ⟨hwhole, hrest⟩ := span_digits hds hpower
  rw [natural?_of_digits hds, magnitude?.eq_1, hwhole, hrest]
  split
  rename_i hparts
  split at hparts
  · exact absurd rfl (hpoint _)
  · obtain ⟨rfl, rfl⟩ := Prod.mk.inj hparts
    simp only [List.append_nil, decide_true, Bool.and_true, decide_eq_true_eq, List.length_nil,
      Int.natCast_zero, Int.sub_zero]
    split <;> rfl

/-- **The reader of magnitudes inverts their grammar.** -/
theorem magnitude?_eq_some_iff :
    magnitude? negative t = some x ↔ MagnitudeIsWritten negative x t := by
  constructor
  · intro h
    obtain ⟨ds, rest, rfl, hds, hrest⟩ := exists_digits_append t
    by_cases hpoint : ∃ behind, rest = '.' :: behind
    · obtain ⟨behind, rfl⟩ := hpoint
      obtain ⟨fs, power, rfl, hfs, hpower⟩ := exists_digits_append behind
      rw [magnitude?_pointed hds hfs hpower] at h
      obtain ⟨n, hn, hmap⟩ := Option.bind_eq_some_iff.1 h
      obtain ⟨e, he, rfl⟩ := Option.map_eq_some_iff.1 hmap
      exact .pointed (natural?_eq_some_iff.1 hn) (power?_eq_some_iff.1 he)
    · rw [magnitude?_whole hds hrest (not_exists.1 hpoint)] at h
      obtain ⟨n, hn, hmap⟩ := Option.bind_eq_some_iff.1 h
      obtain ⟨e, he, rfl⟩ := Option.map_eq_some_iff.1 hmap
      exact .whole (natural?_eq_some_iff.1 hn) (power?_eq_some_iff.1 he)
  · intro h
    cases h with
    | whole hdigits hpower =>
      rw [magnitude?_whole hdigits.isDigit_of_mem hpower.headIsNoDigit hpower.ne_point,
        natural?_eq_some_iff.2 hdigits, power?_eq_some_iff.2 hpower]
      rfl
    | pointed hdigits hpower =>
      obtain ⟨hds, hfs⟩ := List.forall_mem_append.1 hdigits.isDigit_of_mem
      rw [magnitude?_pointed hds hfs hpower.headIsNoDigit, natural?_eq_some_iff.2 hdigits,
        power?_eq_some_iff.2 hpower]
      rfl

/-- A sign is the beginning of no magnitude. -/
theorem magnitude?_cons_of_no_digit {c : Char} (hc : isDigit c = false) (hne : c ≠ '.') :
    magnitude? negative (c :: t) = none := by
  have hhead : HeadIsNoDigit (c :: t) := by
    rintro c ⟨⟩
    exact hc
  have hdigits : ∀ d ∈ ([] : Text), isDigit d = true := nofun
  exact magnitude?_whole hdigits hhead fun rest heq ↦ hne (List.head_eq_of_cons_eq heq)

theorem numeral?_of_magnitude? (h : magnitude? false t = some x) : numeral? t = some x := by
  rw [numeral?.eq_def]
  split
  · rw [magnitude?_cons_of_no_digit rfl (by decide)] at h
    exact absurd h nofun
  · rw [magnitude?_cons_of_no_digit rfl (by decide)] at h
    exact absurd h nofun
  · exact h

/-- **The reader of numerals inverts their grammar.** -/
theorem numeral?_eq_some_iff : numeral? t = some x ↔ x.IsWritten t := by
  constructor
  · intro h
    rw [numeral?.eq_def] at h
    split at h
    · exact .mk .minus (magnitude?_eq_some_iff.1 h)
    · exact .mk .plus (magnitude?_eq_some_iff.1 h)
    · exact .mk .none (magnitude?_eq_some_iff.1 h)
  · rintro ⟨hsign, h⟩
    have hmagnitude := magnitude?_eq_some_iff.2 h
    cases hsign with
    | none => exact numeral?_of_magnitude? hmagnitude
    | plus => exact hmagnitude
    | minus => exact hmagnitude

/-! ### Integers are numerals, and words are not -/

theorem natAbs_signed (negative : Bool) (n : Nat) : (signed negative n).natAbs = n := by
  cases negative with
  | false => exact Int.natAbs_natCast n
  | true => exact (Int.natAbs_neg n).trans (Int.natAbs_natCast n)

/-- **What writes an integer writes the numeral of the same value.** The sign is kept even before a
zero, so it is not read off the integer. -/
theorem IntegerIsWritten.exists_numeral {i : Int} (h : IntegerIsWritten i t) :
    ∃ negative, i = signed negative i.natAbs ∧ Numeral.IsWritten ⟨negative, i.natAbs, 0⟩ t := by
  cases h with
  | @mk negative sign n ds hsign hdigits =>
    refine ⟨negative, ?_, ?_⟩ <;> rw [natAbs_signed]
    have hmagnitude : MagnitudeIsWritten negative ⟨negative, n, 0⟩ (ds ++ []) :=
      .whole hdigits .none
    rw [List.append_nil] at hmagnitude
    exact .mk hsign hmagnitude

/-- But it is, before any other number. -/
theorem IntegerIsWritten.numeral {i : Int} (h : IntegerIsWritten i t) (hi : i ≠ 0) :
    Numeral.IsWritten ⟨decide (i < 0), i.natAbs, 0⟩ t := by
  obtain ⟨negative, hsigned, hnumeral⟩ := h.exists_numeral
  have hsign : negative = decide (i < 0) := by
    cases negative with
    | false =>
      have hpos : i = (i.natAbs : Int) := hsigned
      exact (decide_eq_false (by omega)).symm
    | true =>
      have hneg : i = -(i.natAbs : Int) := hsigned
      exact (decide_eq_true (by omega)).symm
  rwa [hsign] at hnumeral

theorem NaturalIsWritten.exists_digit (h : NaturalIsWritten n ds) : ∃ c ∈ ds, isDigit c = true := by
  obtain ⟨c, rest, rfl⟩ := List.exists_cons_of_ne_nil h.ne_nil
  exact ⟨c, List.mem_cons_self, h.isDigit_of_mem c List.mem_cons_self⟩

/-- **A numeral has a digit.** -/
theorem Numeral.IsWritten.exists_digit (h : x.IsWritten t) : ∃ c ∈ t, isDigit c = true := by
  obtain ⟨-, h⟩ := h
  cases h with
  | whole hdigits _ =>
    obtain ⟨c, hmem, hc⟩ := hdigits.exists_digit
    exact ⟨c, List.mem_append_right _ (List.mem_append_left _ hmem), hc⟩
  | pointed hdigits _ =>
    obtain ⟨c, hmem, hc⟩ := hdigits.exists_digit
    refine ⟨c, List.mem_append_right _ ?_, hc⟩
    rcases List.mem_append.1 hmem with hwhole | hfraction
    · exact List.mem_append_left _ hwhole
    · exact List.mem_append_right _ (List.mem_cons_of_mem _ (List.mem_append_left _ hfraction))

end Scriptpad.Decimal
