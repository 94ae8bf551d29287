import Scriptpad.Document.Edit
import Scriptpad.Proofs.Text.ByteOrder
import Scriptpad.Text.Offset

/-!
# Cutting between bytes

A line that is stored as bytes is edited by byte offsets, and an offset within a character is
refused, since a cut there leaves bytes that are no text. The operations of this module see bytes
only. They tell characters apart by the first byte of each: the bytes that continue a character are
those from `0x80` to `0xBF`, and no character begins with one of them.

On the bytes of a text they are the operations on its characters. The offset of a column is the
number of bytes of the characters before it (`length_bytes_take`), which is a boundary, and there
are no other boundaries than these (`isBoundary_bytes_iff`). So inserting, removing and splitting at
columns is never refused, for characters of any number of bytes (`insert?_bytes`, `remove?_bytes`,
`split?_bytes`).
-/

namespace Scriptpad

/-- A text as it is stored. -/
abbrev Bytes := List UInt8

namespace Bytes

/-! ### Operations on bytes -/

/-- Whether a byte begins a character. The others continue one. -/
def beginsChar (b : UInt8) : Bool :=
  b < 0x80 || 0xC0 ≤ b

/-- Where characters begin among bytes that stand from `start` on. -/
def charStarts (start : Nat) : Bytes → List Nat
  | [] => []
  | b :: rest =>
    if beginsChar b then start :: charStarts (start + 1) rest else charStarts (start + 1) rest

/-- The number of characters. -/
def charCount (bs : Bytes) : Nat :=
  (charStarts 0 bs).length

/-- The byte at which the character in a column begins, or the number of bytes if there is none. -/
def offset (column : Nat) (bs : Bytes) : Nat :=
  (charStarts 0 bs)[column]?.getD bs.length

/-- The number of spaces at the beginning. -/
def leadingSpaces (bs : Bytes) : Nat :=
  (bs.takeWhile (· == 0x20)).length

/-- Whether bytes may be cut here: at an end, or before a byte that begins a character. -/
def isBoundary (bs : Bytes) (i : Nat) : Bool :=
  i == 0 || i == bs.length || bs[i]?.any beginsChar

/-- The bytes with a character inserted at a boundary. -/
def insert? (bs : Bytes) (i : Nat) (c : Char) : Option Bytes :=
  if isBoundary bs i then some (bs.take i ++ String.utf8EncodeChar c ++ bs.drop i) else none

/-- The bytes without those from one boundary to a later one. -/
def remove? (bs : Bytes) (i j : Nat) : Option Bytes :=
  if i ≤ j ∧ isBoundary bs i ∧ isBoundary bs j then some (bs.take i ++ bs.drop j) else none

/-- The bytes before and behind a boundary. -/
def split? (bs : Bytes) (i : Nat) : Option (Bytes × Bytes) :=
  if isBoundary bs i then some (bs.take i, bs.drop i) else none

/-! ### The bytes of a character -/

theorem beginsChar_ofNat {n : Nat} (hn : n < 0x100) :
    beginsChar (.ofNat n) = true ↔ n < 0x80 ∨ 0xC0 ≤ n := by
  have htoNat : (UInt8.ofNat n).toNat = n := UInt8.toNat_ofNat_of_lt' hn
  rw [beginsChar, Bool.or_eq_true, decide_eq_true_iff, decide_eq_true_iff, UInt8.lt_iff_toNat_lt,
    UInt8.le_iff_toNat_le, htoNat]
  rfl

/-- **One byte begins a character, and all others continue it.** -/
theorem exists_utf8EncodeChar_eq (c : Char) : ∃ first more,
    String.utf8EncodeChar c = first :: more ∧ beginsChar first = true ∧
      ∀ b ∈ more, beginsChar b = false := by
  have hfirst {n : Nat} (hn : n < 0x100) (h : n < 0x80 ∨ 0xC0 ≤ n) :
      beginsChar (.ofNat n) = true := (beginsChar_ofNat hn).2 h
  have hmore (n : Nat) : beginsChar (.ofNat (n % 0x40 + 0x80)) = false := by
    rw [← Bool.not_eq_true, beginsChar_ofNat (by omega)]
    omega
  have hnone : ∀ b ∈ ([] : Bytes), beginsChar b = false := List.forall_mem_nil _
  have hcons {more : Bytes} (n : Nat) (h : ∀ b ∈ more, beginsChar b = false) :
      ∀ b ∈ UInt8.ofNat (n % 0x40 + 0x80) :: more, beginsChar b = false :=
    List.forall_mem_cons.2 ⟨hmore n, h⟩
  unfold String.utf8EncodeChar
  dsimp only
  split
  · exact ⟨_, _, rfl, hfirst (by omega) (by omega), hnone⟩
  · split
    · exact ⟨_, _, rfl, hfirst (by omega) (by omega), hcons _ hnone⟩
    · split
      · exact ⟨_, _, rfl, hfirst (by omega) (by omega), hcons _ (hcons _ hnone)⟩
      · exact ⟨_, _, rfl, hfirst (by omega) (by omega), hcons _ (hcons _ (hcons _ hnone))⟩

/-- The byte of a space begins no other character. -/
theorem eq_space_of_head {c : Char} {more : Bytes} (h : String.utf8EncodeChar c = 0x20 :: more) :
    c = ' ' := by
  have htoNat {n : Nat} (hn : n < 0x100) (hspace : UInt8.ofNat n = 0x20) : n = 0x20 := by
    rw [← UInt8.toNat_ofNat_of_lt' hn, hspace]
    rfl
  unfold String.utf8EncodeChar at h
  dsimp only at h
  split at h
  · rename_i hone
    exact Char.toNat_inj.1 (htoNat (Nat.lt_of_le_of_lt hone (by decide)) (List.cons.inj h).1)
  · -- a character of several bytes begins with a byte from `0xC0` on
    repeat' split at h
    all_goals
      have hspace := htoNat (by omega) (List.cons.inj h).1
      omega

theorem charStarts_append_of_forall {inner : Bytes} (h : ∀ b ∈ inner, beginsChar b = false)
    (start : Nat) (rest : Bytes) :
    charStarts start (inner ++ rest) = charStarts (start + inner.length) rest := by
  induction inner generalizing start with
  | nil => rfl
  | cons b inner ih =>
    rw [List.forall_mem_cons] at h
    rw [List.cons_append, charStarts, h.1, if_neg Bool.false_ne_true, ih h.2, List.length_cons,
      Nat.add_right_comm, Nat.add_assoc]

/-! ### The bytes of a text -/

/-- The bytes show where the characters begin. -/
theorem charStarts_bytes (start : Nat) (t : Text) :
    charStarts start (Text.bytes t) = Text.charStarts start t := by
  induction t generalizing start with
  | nil => rw [Text.bytes_nil]; rfl
  | cons c t ih =>
    obtain ⟨first, more, hchar, hfirst, hmore⟩ := exists_utf8EncodeChar_eq c
    have hsize : start + 1 + more.length = start + c.utf8Size := by
      have hlength := String.length_utf8EncodeChar c
      rw [hchar, List.length_cons] at hlength
      omega
    rw [Text.bytes_cons, hchar, List.cons_append, charStarts, if_pos hfirst,
      charStarts_append_of_forall hmore, hsize, ih]
    rfl

theorem charCount_bytes (t : Text) : charCount (Text.bytes t) = t.length := by
  rw [charCount, charStarts_bytes]
  generalize 0 = start
  induction t generalizing start with
  | nil => rfl
  | cons c t ih => exact congrArg (· + 1) (ih _)

theorem offset_bytes (column : Nat) (t : Text) :
    offset column (Text.bytes t) = Text.byteOffset column t := by
  rw [offset, charStarts_bytes, Text.length_bytes]
  rfl

/-- **The offset of a column counts the bytes of the characters before it.** -/
theorem length_bytes_take (column : Nat) (t : Text) :
    (Text.bytes (t.take column)).length = offset column (Text.bytes t) := by
  rw [Text.length_bytes, offset_bytes, Text.byteOffset_eq]

theorem bytes_eq_parts (column : Nat) (t : Text) :
    Text.bytes t = Text.bytes (t.take column) ++ Text.bytes (t.drop column) := by
  rw [← Text.bytes_append, List.take_append_drop]

/-- The bytes before and behind the offset of a column are those of the characters there. -/
theorem take_offset (column : Nat) (t : Text) :
    (Text.bytes t).take (offset column (Text.bytes t)) = Text.bytes (t.take column) := by
  rw [← length_bytes_take, bytes_eq_parts column t, List.take_left]

theorem drop_offset (column : Nat) (t : Text) :
    (Text.bytes t).drop (offset column (Text.bytes t)) = Text.bytes (t.drop column) := by
  rw [← length_bytes_take, bytes_eq_parts column t, List.drop_left]

theorem leadingSpaces_bytes (t : Text) : leadingSpaces (Text.bytes t) = Text.leadingSpaces t := by
  rw [leadingSpaces, Text.leadingSpaces]
  induction t with
  | nil => rw [Text.bytes_nil]; rfl
  | cons c t ih =>
    by_cases hc : c = ' '
    · have hspace : String.utf8EncodeChar ' ' = [0x20] := by decide
      rw [hc, Text.bytes_cons, hspace, List.singleton_append, List.takeWhile_cons_of_pos rfl,
        List.takeWhile_cons_of_pos rfl, List.length_cons, List.length_cons, ih]
    · obtain ⟨first, more, hchar, -, -⟩ := exists_utf8EncodeChar_eq c
      have hfirst : ¬(first == 0x20) = true := fun hspace ↦
        hc (eq_space_of_head (hchar.trans (congrArg (· :: more) (eq_of_beq hspace))))
      have hother : ¬(c == ' ') = true := fun hspace ↦ hc (eq_of_beq hspace)
      rw [Text.bytes_cons, hchar, List.cons_append, List.takeWhile_cons, if_neg hfirst,
        List.takeWhile_cons, if_neg hother]
      rfl

theorem offset_le (column : Nat) (t : Text) :
    offset column (Text.bytes t) ≤ (Text.bytes t).length := by
  rw [← length_bytes_take, ← take_offset, List.length_take]
  exact Nat.min_le_right _ _

/-! ### Boundaries -/

theorem mem_charStarts {start i : Nat} {bs : Bytes} :
    i ∈ charStarts start bs ↔ start ≤ i ∧ bs[i - start]?.any beginsChar = true := by
  induction bs generalizing start with
  | nil => simp [charStarts]
  | cons b rest ih =>
    have hrest (h : i ≤ start) : i ∉ charStarts (start + 1) rest := fun hmem ↦
      Nat.not_succ_le_self start (Nat.le_trans (ih.1 hmem).1 h)
    rw [charStarts]
    rcases Nat.lt_trichotomy i start with hlt | rfl | hgt
    · have hne : i ≠ start := Nat.ne_of_lt hlt
      split <;> simp [hrest (Nat.le_of_lt hlt), hne, Nat.not_le.2 hlt]
    · rw [Nat.sub_self, List.getElem?_cons_zero]
      split <;> simp [hrest (Nat.le_refl i), *]
    · have hne : i ≠ start := Nat.ne_of_gt hgt
      have hsucc : i - start = i - (start + 1) + 1 := by omega
      rw [hsucc, List.getElem?_cons_succ]
      split <;> simp [ih, hne, Nat.succ_le_of_lt hgt, Nat.le_of_lt hgt]

theorem offset_of_le {column : Nat} {t : Text} (h : t.length ≤ column) :
    offset column (Text.bytes t) = (Text.bytes t).length := by
  rw [← length_bytes_take, List.take_of_length_le h]

/-- **The boundaries are the offsets of the columns**, and there are no others. -/
theorem isBoundary_bytes_iff {t : Text} {i : Nat} :
    isBoundary (Text.bytes t) i = true ↔
      ∃ column ≤ t.length, offset column (Text.bytes t) = i := by
  have hlength : (charStarts 0 (Text.bytes t)).length = t.length := charCount_bytes t
  have hbegins : (Text.bytes t)[i]?.any beginsChar = true ↔
      ∃ column < t.length, offset column (Text.bytes t) = i := by
    have hmem : i ∈ charStarts 0 (Text.bytes t) ↔ (Text.bytes t)[i]?.any beginsChar = true := by
      rw [mem_charStarts, Nat.sub_zero]
      exact and_iff_right (Nat.zero_le i)
    rw [← hmem, List.mem_iff_getElem?]
    refine exists_congr fun column ↦ ?_
    rw [offset]
    by_cases hlt : column < t.length
    · have hfound := List.getElem?_eq_getElem (Nat.lt_of_lt_of_eq hlt hlength.symm)
      simp [hfound, hlt]
    · have hle := Nat.le_trans (Nat.le_of_eq hlength) (Nat.le_of_not_lt hlt)
      have hnone := List.getElem?_eq_none hle
      simp [hnone, hlt]
  rw [isBoundary, Bool.or_eq_true, Bool.or_eq_true, beq_iff_eq, beq_iff_eq, hbegins]
  constructor
  · rintro ((rfl | rfl) | ⟨column, hlt, hoffset⟩)
    · exact ⟨0, Nat.zero_le _, by rw [← length_bytes_take, List.take_zero, Text.bytes_nil]; rfl⟩
    · exact ⟨t.length, Nat.le_refl _, offset_of_le (Nat.le_refl _)⟩
    · exact ⟨column, Nat.le_of_lt hlt, hoffset⟩
  · rintro ⟨column, hle, hoffset⟩
    rcases Nat.lt_or_eq_of_le hle with hlt | rfl
    · exact .inr ⟨column, hlt, hoffset⟩
    · exact .inl (.inr (hoffset.symm.trans (offset_of_le (Nat.le_refl _))))

theorem isBoundary_offset (column : Nat) (t : Text) :
    isBoundary (Text.bytes t) (offset column (Text.bytes t)) = true := by
  rcases Nat.le_total column t.length with hle | hge
  · exact isBoundary_bytes_iff.2 ⟨column, hle, rfl⟩
  · exact isBoundary_bytes_iff.2 ⟨t.length, Nat.le_refl _, by
      rw [offset_of_le hge, offset_of_le (Nat.le_refl _)]⟩

theorem offset_mono {m n : Nat} (h : m ≤ n) (t : Text) :
    offset m (Text.bytes t) ≤ offset n (Text.bytes t) := by
  obtain ⟨between, hbetween⟩ := List.take_prefix_take_left (l := t) h
  rw [← length_bytes_take, ← length_bytes_take, ← hbetween, Text.bytes_append, List.length_append]
  exact Nat.le_add_right _ _

/-! ### Edits -/

theorem insert?_bytes (column : Nat) (c : Char) (t : Text) :
    insert? (Text.bytes t) (offset column (Text.bytes t)) c =
      some (Text.bytes (Text.insertAt column c t)) := by
  rw [insert?, if_pos (isBoundary_offset column t), take_offset, drop_offset, Text.insertAt,
    Text.bytes_append, Text.bytes_cons, List.append_assoc]

theorem remove?_bytes (column : Nat) (t : Text) :
    remove? (Text.bytes t) (offset (column - 1) (Text.bytes t)) (offset column (Text.bytes t)) =
      some (Text.bytes (Text.deleteBefore column t)) := by
  rw [remove?, if_pos ⟨offset_mono (Nat.sub_le _ _) t, isBoundary_offset _ t,
    isBoundary_offset _ t⟩, take_offset, drop_offset, Text.deleteBefore, Text.bytes_append]

theorem split?_bytes (column : Nat) (t : Text) :
    split? (Text.bytes t) (offset column (Text.bytes t)) =
      some (Text.bytes (t.take column), Text.bytes (t.drop column)) := by
  rw [split?, if_pos (isBoundary_offset column t), take_offset, drop_offset]

end Bytes

end Scriptpad
