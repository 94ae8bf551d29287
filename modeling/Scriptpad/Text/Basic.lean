/-!
# Texts

A text is the list of its characters, so that columns, cuts and joins are those of `List` and no
byte offset appears in any definition. This module holds what every other one needs of texts:
cutting a text into pieces at separators, joining pieces again, taking a known beginning off, and
stripping one pair of quotation marks.

Main statements: `pieces_append_cons` (each separator cuts once), `joinWith_pieces` (cutting at a
character loses nothing), `dropStart?_eq_some_iff` and `unquote?_eq_some_iff` (each reader inverts
the writing it undoes).
-/

namespace Scriptpad

/-- A text is the list of its characters. -/
abbrev Text := List Char

namespace Text

/-! ### Pieces and joins -/

/-- The pieces of a text between the characters that satisfy `isSeparator`. There is always one
piece more than there are separators, so the empty text has the one piece `[]`. -/
def pieces (isSeparator : Char → Bool) : Text → List Text
  | [] => [[]]
  | c :: rest =>
    if isSeparator c then [] :: pieces isSeparator rest
    else match pieces isSeparator rest with
      | [] => [[c]]
      | piece :: more => (c :: piece) :: more

/-- The given texts with `separator` between each two neighbours. -/
def joinWith (separator : Text) : List Text → Text
  | [] => []
  | [t] => t
  | t :: more => t ++ separator ++ joinWith separator more

theorem pieces_ne_nil (p : Char → Bool) (t : Text) : pieces p t ≠ [] := by
  cases t with
  | nil => simp [pieces]
  | cons c rest =>
    unfold pieces
    split
    · simp
    · split <;> simp

/-- A separator cuts the text, and both sides are cut on their own. -/
theorem pieces_append_cons {p : Char → Bool} {c : Char} (hc : p c = true) (s t : Text) :
    pieces p (s ++ c :: t) = pieces p s ++ pieces p t := by
  induction s with
  | nil => simp [pieces, hc]
  | cons d s ih =>
    simp only [List.cons_append, pieces, ih]
    split
    · rfl
    · cases h : pieces p s with
      | nil => exact absurd h (pieces_ne_nil _ _)
      | cons piece more => rfl

/-- A text without separators is one piece. -/
theorem pieces_of_forall {p : Char → Bool} {t : Text} (h : ∀ c ∈ t, p c = false) :
    pieces p t = [t] := by
  induction t with
  | nil => rfl
  | cons c rest ih =>
    simp only [List.mem_cons, forall_eq_or_imp] at h
    simp [pieces, h.1, ih h.2]

/-- Cutting at one character and joining with it again gives the text back. -/
theorem joinWith_pieces (separator : Char) (t : Text) :
    joinWith [separator] (pieces (· == separator) t) = t := by
  induction t with
  | nil => rfl
  | cons c rest ih =>
    unfold pieces
    cases h : pieces (· == separator) rest with
    | nil => exact absurd h (pieces_ne_nil _ _)
    | cons piece more =>
      rw [h] at ih
      by_cases hc : c = separator
      · subst hc
        simp [joinWith, ih]
      · cases more with
        | nil => simpa [hc, joinWith] using ih
        | cons next more => simpa [hc, joinWith] using ih

/-- In a join, the separator stands before each text but the first. -/
theorem joinWith_cons_eq_flatMap (separator t : Text) (more : List Text) :
    joinWith separator (t :: more) = t ++ more.flatMap (separator ++ ·) := by
  induction more generalizing t with
  | nil => simp [joinWith]
  | cons next more ih =>
    show t ++ separator ++ joinWith separator (next :: more) = _
    rw [ih, List.flatMap_cons, List.append_assoc, List.append_assoc]

/-! ### Known beginnings -/

/-- What follows `start`, if the text begins with it. -/
def dropStart? : (start t : Text) → Option Text
  | [], t => some t
  | _ :: _, [] => none
  | c :: start, d :: t => if c = d then dropStart? start t else none

theorem dropStart?_eq_some_iff {start t rest : Text} :
    dropStart? start t = some rest ↔ t = start ++ rest := by
  induction start generalizing t with
  | nil => simp [dropStart?]
  | cons c start ih =>
    cases t with
    | nil => simp [dropStart?]
    | cons d t =>
      by_cases h : c = d
      · subst h
        simp [dropStart?, ih]
      · simp [dropStart?, h, Ne.symm h]

/-- The parts before and after the first occurrence of `separator`, if there is one. -/
def splitFirst? (separator : Char) : Text → Option (Text × Text)
  | [] => none
  | c :: rest =>
    if c = separator then some ([], rest)
    else (splitFirst? separator rest).map fun (before, after) ↦ (c :: before, after)

theorem splitFirst?_append {separator : Char} {before : Text} (h : separator ∉ before)
    (after : Text) :
    splitFirst? separator (before ++ separator :: after) = some (before, after) := by
  induction before with
  | nil => simp [splitFirst?]
  | cons c before ih =>
    simp only [List.mem_cons, not_or] at h
    simp [splitFirst?, Ne.symm h.1, ih h.2]

theorem splitFirst?_eq_none_iff {separator : Char} {t : Text} :
    splitFirst? separator t = none ↔ separator ∉ t := by
  induction t with
  | nil => simp [splitFirst?]
  | cons c rest ih =>
    by_cases h : c = separator
    · simp [splitFirst?, h]
    · simp [splitFirst?, h, ih, Ne.symm h]

/-! ### Quotation marks -/

/-- The text between two double quotes that stand at its ends. A quote that is the whole text is
not a pair. -/
def unquote? : Text → Option Text
  | '"' :: rest => if rest.getLast? = some '"' then some rest.dropLast else none
  | _ => none

/-- The text without one pair of surrounding double quotes, if it has one. -/
def unquote (t : Text) : Text :=
  (unquote? t).getD t

theorem unquote?_eq_some_iff {t inner : Text} :
    unquote? t = some inner ↔ t = '"' :: inner ++ ['"'] := by
  unfold unquote?
  split
  · rename_i rest
    constructor
    · intro h
      split at h
      · rename_i hlast
        obtain ⟨front, rfl⟩ := List.getLast?_eq_some_iff.1 hlast
        simp_all
      · simp at h
    · intro h
      simp only [List.cons_append, List.cons.injEq, true_and] at h
      simp [h]
  · rename_i hne
    simp only [reduceCtorEq, false_iff]
    intro h
    exact hne _ h

/-! ### Letters and padding -/

/-- The text with the ASCII capitals made small; every other character stays. -/
def asciiLower (t : Text) : Text :=
  t.map Char.toLower

/-- Equality up to the case of ASCII letters only. -/
def sameIgnoringAsciiCase (s t : Text) : Bool :=
  asciiLower s == asciiLower t

/-- `n` spaces. -/
def spaces (n : Nat) : Text :=
  List.replicate n ' '

/-- The text, moved to the right end of a field of `width` columns. -/
def alignRight (width : Nat) (t : Text) : Text :=
  spaces (width - t.length) ++ t

/-- The number of spaces a text begins with. Tabs do not count. -/
def leadingSpaces (t : Text) : Nat :=
  (t.takeWhile (· == ' ')).length

end Text

end Scriptpad
