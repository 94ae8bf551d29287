import Scriptpad.Text.Basic

/-!
# Blank characters, trimming and words

The blank characters are those of the Unicode property `White_Space`. Trimming takes them off both
ends of a text, and the words of a text are its maximal runs of other characters.

Main statements: `words_append_cons` (a blank parts words, from which all else follows), `mem_words`
(a word is not empty and holds no blank) and `flatten_words` (the words are what is left of the text
when the blanks are taken out).
-/

namespace Scriptpad.Text

/-- The characters with the Unicode property `White_Space`. -/
def isBlank (c : Char) : Bool :=
  let n := c.toNat
  (0x09 ≤ n && n ≤ 0x0D) || n == 0x20 || n == 0x85 || n == 0xA0 || n == 0x1680
    || (0x2000 ≤ n && n ≤ 0x200A) || n == 0x2028 || n == 0x2029 || n == 0x202F || n == 0x205F
    || n == 0x3000

/-- The text from its first character that is not blank. -/
def trimStart (t : Text) : Text :=
  t.dropWhile isBlank

/-- The text up to its last character that is not blank. -/
def trimEnd (t : Text) : Text :=
  (trimStart t.reverse).reverse

/-- The text without the blanks at its two ends. -/
def trim (t : Text) : Text :=
  trimEnd (trimStart t)

/-- The maximal runs of characters that are not blank, in order. -/
def words (t : Text) : List Text :=
  (pieces isBlank t).filter (· ≠ [])

/-! ### Laws -/

theorem mem_pieces {p : Char → Bool} {t piece : Text} (h : piece ∈ pieces p t) :
    ∀ c ∈ piece, p c = false := by
  induction t generalizing piece with
  | nil => simp_all [pieces]
  | cons c rest ih =>
    unfold pieces at h
    split at h
    · rcases List.mem_cons.1 h with rfl | h
      · simp
      · exact ih h
    · rename_i hc
      split at h
      · simp_all
      · rename_i first more heq
        rcases List.mem_cons.1 h with rfl | h
        · have : ∀ d ∈ first, p d = false := ih (by simp [heq])
          simp_all
        · exact ih (by simp [heq, h])

/-- A blank parts the words before it from those behind it. -/
theorem words_append_cons {c : Char} (hc : isBlank c = true) (s t : Text) :
    words (s ++ c :: t) = words s ++ words t := by
  rw [words, pieces_append_cons hc, List.filter_append, words, words]

/-- A text that is not empty and holds no blank is one word. -/
theorem words_of_forall {t : Text} (hne : t ≠ []) (h : ∀ c ∈ t, isBlank c = false) :
    words t = [t] := by
  rw [words, pieces_of_forall h]
  simp [hne]

/-- Every word has a character and no blank. -/
theorem mem_words {t word : Text} (h : word ∈ words t) :
    word ≠ [] ∧ ∀ c ∈ word, isBlank c = false := by
  obtain ⟨hmem, hne⟩ := List.mem_filter.1 h
  exact ⟨by simpa using hne, mem_pieces hmem⟩

theorem flatten_pieces (p : Char → Bool) (t : Text) :
    (pieces p t).flatten = t.filter fun c ↦ !p c := by
  induction t with
  | nil => rfl
  | cons c rest ih =>
    unfold pieces
    cases hc : p c with
    | true => simp [ih, hc]
    | false =>
      cases h : pieces p rest with
      | nil => exact absurd h (pieces_ne_nil _ _)
      | cons piece more => simp_all

/-- The words of a text, put end to end, are the text without its blanks. -/
theorem flatten_words (t : Text) : (words t).flatten = t.filter fun c ↦ !isBlank c := by
  rw [words, List.flatten_filter_ne_nil, flatten_pieces]

end Scriptpad.Text
