import Scriptpad.Text.Encoding
import Scriptpad.Text.Order

/-!
# The order of the bytes

Texts are sorted by the code points of their characters, and a reader of sorted output sees them
sorted by their bytes. The two orders are one, because UTF-8 was made so: the first byte of a
character says how many there are, longer ones begin with a greater byte, and behind the first byte
the bits of the code point follow from the highest to the lowest.

The last point is `InOrder.digit`: one more byte for the last six bits keeps the order, by the same
argument whatever the bytes before it. Characters of two, three and four bytes come out of it by
counting (`utf8EncodeChar_append_lt`).

Main statements: `le_iff_bytes_le`, and for sorting `pairwise_bytes_sort`.
-/

namespace Scriptpad.Text

/-- The bytes of a text, one after another. -/
def bytes (t : Text) : List UInt8 :=
  (encode t).data.toList

/-! ### Bytes of one character -/

/-- Lists of bytes for the numbers below a bound, such that a smaller number is decided to come
earlier within its own bytes, whatever follows. -/
def InOrder (digits : Nat → List UInt8) (bound : Nat) : Prop :=
  ∀ ⦃m n : Nat⦄, m < n → n < bound → ∀ s t : List UInt8, digits m ++ s < digits n ++ t

/-- Lists are in the order of their first bytes, if these differ. -/
theorem ofNat_cons_lt {m n : Nat} (hlt : m < n) (hn : n < 256) (s t : List UInt8) :
    UInt8.ofNat m :: s < UInt8.ofNat n :: t := by
  rw [List.cons_lt_cons_iff, UInt8.lt_iff_toNat_lt, UInt8.toNat_ofNat', UInt8.toNat_ofNat']
  left
  omega

/-- A single byte, which counts from a mark on. -/
theorem inOrder_mark {size mark : Nat} (h : size + mark ≤ 256) :
    InOrder (fun m ↦ [UInt8.ofNat (m % size + mark)]) size := by
  intro m n hlt hn s t
  refine ofNat_cons_lt ?_ ?_ s t
  · rw [Nat.mod_eq_of_lt hn, Nat.mod_eq_of_lt (Nat.lt_trans hlt hn)]
    omega
  · rw [Nat.mod_eq_of_lt hn]
    omega

/-- **One more byte keeps the order**, if it holds the last six bits. -/
theorem InOrder.digit {digits : Nat → List UInt8} {bound : Nat} (h : InOrder digits bound) :
    InOrder (fun m ↦ digits (m / 64) ++ [UInt8.ofNat (m % 64 + 128)]) (bound * 64) := by
  intro m n hlt hn s t
  simp only [List.append_assoc, List.singleton_append]
  rcases Nat.lt_or_eq_of_le (Nat.div_le_div_right (c := 64) (Nat.le_of_lt hlt)) with hdiv | hdiv
  · exact h hdiv (by omega) _ _
  · rw [hdiv]
    exact List.append_left_lt (ofNat_cons_lt (by omega) (by omega) s t)

/-- **Characters are in the order of their bytes**, whatever follows. -/
theorem utf8EncodeChar_append_lt {c d : Char} (h : c.toNat < d.toNat) (s t : List UInt8) :
    String.utf8EncodeChar c ++ s < String.utf8EncodeChar d ++ t := by
  have hd : d.val.toNat < 0x110000 := by
    rcases d.valid with hd | hd
    · exact Nat.lt_trans hd (by decide)
    · exact hd.2
  have htwo := (inOrder_mark (by decide : 32 + 192 ≤ 256)).digit
  have hthree := (inOrder_mark (by decide : 16 + 224 ≤ 256)).digit.digit
  have hfour := (inOrder_mark (by decide : 8 + 240 ≤ 256)).digit.digit.digit
  simp only [InOrder, Nat.div_div_eq_div_mul, List.append_assoc, List.singleton_append]
    at htwo hthree hfour
  replace h : c.val.toNat < d.val.toNat := h
  unfold String.utf8EncodeChar
  generalize c.val.toNat = m at *
  generalize d.val.toNat = n at *
  dsimp only
  -- Between characters that take as many bytes the bits decide, else the first byte.
  split
  · repeat' split
    all_goals exact ofNat_cons_lt (by omega) (by omega) _ _
  · rw [if_neg (show ¬n ≤ 127 by omega)]
    split
    · split
      · exact htwo h (by omega) s t
      · split
        all_goals exact ofNat_cons_lt (by omega) (by omega) _ _
    · rw [if_neg (show ¬n ≤ 2047 by omega)]
      split
      · split
        · exact hthree h (by omega) s t
        · exact ofNat_cons_lt (by omega) (by omega) _ _
      · rw [if_neg (show ¬n ≤ 65535 by omega)]
        exact hfour h (by omega) s t

/-! ### Bytes of texts -/

theorem bytes_nil : bytes [] = [] := by
  simp [bytes, encode]

theorem bytes_cons (c : Char) (t : Text) : bytes (c :: t) = String.utf8EncodeChar c ++ bytes t := by
  simp [bytes, encode, List.utf8Encode]

theorem bytes_append (s t : Text) : bytes (s ++ t) = bytes s ++ bytes t := by
  simp [bytes, encode_append]

theorem length_bytes (t : Text) : (bytes t).length = byteCount t := by
  rw [bytes, Array.length_toList, ← size_encode]
  rfl

/-- Different texts have different bytes. -/
theorem bytes_inj {s t : Text} : bytes s = bytes t ↔ s = t := by
  refine ⟨fun h ↦ ?_, congrArg bytes⟩
  have hencode : encode s = encode t := ByteArray.ext (Array.toList_inj.1 h)
  exact Option.some.inj (by rw [← decode?_encode s, hencode, decode?_encode t])

/-- Spaces take one byte each. -/
theorem bytes_spaces (n : Nat) : bytes (spaces n) = List.replicate n 0x20 := by
  have hspace : String.utf8EncodeChar ' ' = [0x20] := by decide
  induction n with
  | zero => exact bytes_nil
  | succ n ih =>
    rw [spaces, List.replicate_succ, bytes_cons, hspace, ← spaces, ih]
    rfl

theorem append_le_append_iff (l : List UInt8) {s t : List UInt8} : l ++ s ≤ l ++ t ↔ s ≤ t := by
  induction l with
  | nil => rfl
  | cons a l ih =>
    rw [List.cons_append, List.cons_append, List.cons_le_cons_iff, ih]
    simp

/-- **The order of texts is the order of their bytes.** -/
theorem le_iff_bytes_le (s t : Text) : le s t = true ↔ bytes s ≤ bytes t := by
  induction s generalizing t with
  | nil => simp [le, bytes_nil]
  | cons c s ih =>
    cases t with
    | nil => simp [le, bytes_nil, bytes_cons]
    | cons d t =>
      rw [bytes_cons, bytes_cons, le]
      rcases Nat.lt_trichotomy c.toNat d.toNat with hlt | heq | hgt
      · have hle := List.le_of_lt (utf8EncodeChar_append_lt hlt (bytes s) (bytes t))
        simp [hlt, hle]
      · obtain rfl : c = d := Char.toNat_inj.1 heq
        rw [append_le_append_iff]
        simp [ih]
      · have hlt := utf8EncodeChar_append_lt hgt (bytes t) (bytes s)
        have hne : c ≠ d := by
          rintro rfl
          exact Nat.lt_irrefl _ hgt
        have hle := List.not_le.2 hlt
        simp [hle, hne, Nat.le_of_lt hgt]

/-! ### Sorting -/

/-- A sorted list of texts has their bytes in order. -/
theorem pairwise_bytes_sort (ts : List Text) :
    (sort ts).Pairwise fun s t ↦ bytes s ≤ bytes t := by
  have htrans : ∀ a b c : Text, le a b = true → le b c = true → le a c = true := by
    intro a b c
    simp only [le_iff_bytes_le]
    exact List.le_trans
  have htotal : ∀ a b : Text, (le a b || le b a) = true := by
    intro a b
    simp only [Bool.or_eq_true, le_iff_bytes_le]
    exact List.le_total _ _
  refine (List.pairwise_mergeSort htrans htotal ts).imp ?_
  intro s t h
  exact (le_iff_bytes_le s t).1 h

end Scriptpad.Text
