import Mathlib.Data.List.Chain
import Mathlib.Data.List.TakeWhile
import Scriptpad.Proofs.Document.Parts

/-!
# Typing lines at the end of a document

Which keys does it take to type given lines? Not the characters of all of them: a break indents the
new line like the one above it, so of each line the spaces that are there already are left out, and
this is possible only if it begins with as many. `typingKeys` is that list of keys, and a line takes
part in it twice, once by its characters and once by the spaces that it saves the next one.

The invariant is `EndsAt`: the cursor stands behind the last character of the document. A character
makes the last line longer by itself (`EndsAt.typeChar`), a break adds a line of spaces
(`EndsAt.breakLine`), and nothing else of the document is ever looked at. Lines of spaces only are
no exception: all of such a line is indentation.
-/

namespace Scriptpad

/-! ### Indentation -/

namespace Text

theorem take_leadingSpaces (t : Text) : t.take (leadingSpaces t) = spaces (leadingSpaces t) := by
  have hbegins : t.take (leadingSpaces t) = t.takeWhile (· == ' ') :=
    (List.prefix_iff_eq_take.1 (List.takeWhile_prefix _)).symm
  have hspaces : ∀ c ∈ t.takeWhile (· == ' '), c = ' ' := by
    intro c hc
    have hspace := List.mem_takeWhile_imp hc
    exact beq_iff_eq.1 hspace
  rw [hbegins]
  exact List.eq_replicate_iff.2 ⟨rfl, hspaces⟩

/-- A line is its first spaces, as many as one likes of them, and the rest. -/
theorem spaces_append_drop {count : Nat} {t : Text} (h : count ≤ leadingSpaces t) :
    spaces count ++ t.drop count = t := by
  have hspaces : t.take count = spaces count :=
    calc
      t.take count = (t.take (leadingSpaces t)).take count := by
        rw [List.take_take, Nat.min_eq_left h]
      _ = spaces count := by
        rw [take_leadingSpaces, spaces, List.take_replicate, Nat.min_eq_left h, spaces]
  rw [← hspaces, List.take_append_drop]

end Text

/-! ### The keys -/

/-- The keys that type further lines below `line`, each behind a break and without the spaces that
the break puts at its beginning. -/
def furtherKeys (line : Text) : List Text → List KeyCode
  | [] => []
  | next :: more =>
    .enter :: (next.drop (Text.leadingSpaces line)).map .char ++ furtherKeys next more

/-- The keys that type lines, one below another. -/
def typingKeys : List Text → List KeyCode
  | [] => []
  | line :: more => line.map .char ++ furtherKeys line more

/-- Each line begins with all the spaces that the line above it begins with. -/
def KeepsIndentation (ls : List Text) : Prop :=
  ls.IsChain fun line next ↦ Text.leadingSpaces line ≤ Text.leadingSpaces next

instance (ls : List Text) : Decidable (KeepsIndentation ls) :=
  inferInstanceAs (Decidable (List.IsChain _ _))

namespace Document

variable {doc : Document} {up : List Text} {line : Text}

/-- What a key types. Keys that type nothing are left out. -/
def strike (doc : Document) : KeyCode → Document
  | .char c => doc.typeChar c
  | .enter => doc.breakLine
  | _ => doc

/-- The cursor is behind the last character of the document, which is in `line`. -/
structure EndsAt (doc : Document) (up : List Text) (line : Text) : Prop where
  lines : doc.lines = up ++ [line]
  cursor : doc.cursor = ⟨up.length, line.length⟩

/-- There is nothing behind the cursor, on its line and below. -/
theorem endsAt_iff_standsBetween : doc.EndsAt up line ↔ doc.StandsBetween up line [] [] := by
  constructor
  · rintro ⟨hlines, hcursor⟩
    exact ⟨by rw [List.append_nil, hlines], hcursor⟩
  · rintro ⟨hlines, hcursor⟩
    exact ⟨by rw [hlines, List.append_nil], hcursor⟩

/-! ### One key -/

/-- A character at the end makes the last line longer. -/
theorem EndsAt.typeChar (h : doc.EndsAt up line) (c : Char) :
    (doc.typeChar c).EndsAt up (line ++ [c]) := by
  rw [endsAt_iff_standsBetween] at h ⊢
  exact h.typeChar c

/-- A break at the end adds a line of spaces, as many as the last line begins with. -/
theorem EndsAt.breakLine (h : doc.EndsAt up line) :
    doc.breakLine.EndsAt (up ++ [line]) (Text.spaces (Text.leadingSpaces line)) := by
  rw [endsAt_iff_standsBetween] at h ⊢
  have hbroken := h.breakLine
  rwa [List.append_nil] at hbroken

/-! ### Many keys -/

theorem EndsAt.typeText (h : doc.EndsAt up line) (t : Text) :
    (doc.typeText t).EndsAt up (line ++ t) := by
  induction t generalizing doc line with
  | nil => exact (List.append_nil line).symm ▸ h
  | cons c t ih =>
    have hmore := ih (h.typeChar c)
    rwa [List.append_assoc, List.singleton_append] at hmore

theorem foldl_strike_char (doc : Document) (t : Text) :
    (t.map KeyCode.char).foldl strike doc = doc.typeText t :=
  List.foldl_map

/-- **The keys for further lines type these lines**, and the cursor stays at the end. -/
theorem EndsAt.strike_furtherKeys (h : doc.EndsAt up line) {more : List Text}
    (hindented : KeepsIndentation (line :: more)) :
    ∃ above last, above ++ [last] = up ++ line :: more ∧
      ((furtherKeys line more).foldl strike doc).EndsAt above last := by
  induction more generalizing doc up line with
  | nil => exact ⟨up, line, rfl, h⟩
  | cons next more ih =>
    obtain ⟨hnext, hmore⟩ := List.isChain_cons_cons.1 hindented
    have htyped := h.breakLine.typeText (next.drop (Text.leadingSpaces line))
    rw [Text.spaces_append_drop hnext] at htyped
    obtain ⟨above, last, hlines, hends⟩ := ih htyped hmore
    refine ⟨above, last, hlines.trans (List.append_assoc _ _ _), ?_⟩
    rw [furtherKeys, List.cons_append, List.foldl_cons, List.foldl_append,
      foldl_strike_char]
    exact hends

/-- **Lines typed into an empty document are its lines**, and the cursor is behind the last one. -/
theorem EndsAt.strike_typingKeys (h : doc.EndsAt [] []) {ls : List Text} (hne : ls ≠ [])
    (hindented : KeepsIndentation ls) :
    let typed := (typingKeys ls).foldl strike doc
    typed.lines = ls ∧ typed.cursor = ⟨ls.length - 1, (ls.getLast hne).length⟩ := by
  intro typed
  obtain ⟨line, more, rfl⟩ := List.exists_cons_of_ne_nil hne
  obtain ⟨above, last, hlines, hends⟩ := (h.typeText line).strike_furtherKeys hindented
  have htyped : typed.EndsAt above last := by
    simp only [typed, typingKeys, List.foldl_append, foldl_strike_char]
    exact hends
  have hall : line :: more = above ++ [last] := hlines.symm
  refine ⟨htyped.lines.trans hall.symm, htyped.cursor.trans ?_⟩
  simp only [hall, List.length_append, List.length_singleton, Nat.add_sub_cancel,
    List.getLast_append_singleton]

end Document

end Scriptpad
