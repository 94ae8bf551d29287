import Scriptpad.Text.Basic

/-!
# Plain texts

A text can hold control characters and control sequences, which a terminal obeys and does not show.
A text without them is plain: its characters are shown, or part lines and columns.

## Sequences

A sequence begins with the escape character and ends as its second character says: at once, at a
final character, at a bell, or, for strings, at a terminator. A new escape gives it up for another
one, and two controls cancel it. Blanks are obeyed even inside of a sequence that has no text of its
own: such a blank is kept, and so is what follows it, up to the next control character, where the
sequence goes on.

## Main statements

* `isPlain_of_mem_plain`: nothing is left that a terminal obeys.
* `plain_eq_self`: a plain text loses nothing.
* `plain_append`: what follows a plain text is made plain on its own.
-/

namespace Scriptpad.Text

/-- The control characters that only part lines and columns. -/
def isLayout (c : Char) : Bool :=
  c = '\t' || c = '\n' || c = '\x0c' || c = '\r'

/-- Whether a character may stand in a plain text. Controls beyond ASCII are no longer obeyed by
terminals that read UTF-8, and may. -/
def isPlain (c : Char) : Bool :=
  (' ' ≤ c && c ≠ '\x7f') || isLayout c

/-- How far a control sequence has come. -/
inductive Sequence where
  /-- There is none. -/
  | absent
  /-- Its escape has been read. -/
  | escape
  /-- Characters that announce one more have been read. -/
  | announced
  /-- Parameters, up to a final character. -/
  | parameters
  /-- A command to the window around the terminal, up to a bell. -/
  | windowCommand
  /-- A string for the terminal's device has begun. -/
  | deviceStart
  /-- The parameters in front of such a string. -/
  | deviceParameters
  /-- The characters between those parameters and the string. -/
  | deviceAnnounced
  /-- A string, up to its terminator. -/
  | string
  deriving Repr, DecidableEq

namespace Sequence

/-- Whether the bytes of a character hold the one that ends a string. -/
def isTerminator (c : Char) : Bool :=
  (String.utf8EncodeChar c).contains 0x9c

/-- What follows the escape of a sequence. -/
def afterEscape (c : Char) : Sequence :=
  if c = '[' then .parameters
  else if c = ']' then .windowCommand
  else if c = 'P' then .deviceStart
  else if c = 'X' || c = '^' || c = '_' then .string
  else if ' ' ≤ c && c ≤ '/' then .announced
  else if '0' ≤ c && c ≤ '~' then .absent
  else .escape

/-- What follows a character in front of a device's string; `here` if it does not count. -/
def beforeString (here : Sequence) (c : Char) : Sequence :=
  if ' ' ≤ c && c ≤ '/' then .deviceAnnounced
  else if c < ' ' || '~' < c then here
  else if here = .deviceAnnounced then .string
  else if '0' ≤ c && c ≤ '9' || c = ';' then .deviceParameters
  else if here = .deviceStart && '<' ≤ c && c ≤ '?' then .deviceParameters
  else .string

/-- How far a sequence has come after one more character. -/
def next (q : Sequence) (c : Char) : Sequence :=
  if c = '\x1b' then .escape
  else if c = '\x18' || c = '\x1a' then .absent
  else
    match q with
    | .absent => .absent
    | .escape => afterEscape c
    | .announced => if '0' ≤ c && c ≤ '~' then .absent else q
    | .parameters => if '@' ≤ c && c ≤ '~' then .absent else q
    | .windowCommand => if c = '\x07' then .absent else q
    | .deviceStart => beforeString q c
    | .deviceParameters => beforeString q c
    | .deviceAnnounced => beforeString q c
    | .string => if isTerminator c then .absent else q

/-- Whether a character that belongs to a sequence is kept all the same. -/
def keeps : Sequence → Char → Bool
  | .absent, c => isPlain c
  | .escape, c | .announced, c | .parameters, c => isLayout c
  | _, _ => false

end Sequence

/-- What is left of a text that follows the beginning `q` of a sequence. If `shown` holds, the
character before it was kept, and so are those that follow, up to the next control character. -/
def plainAfter (q : Sequence) (shown : Bool) : Text → Text
  | [] => []
  | c :: t =>
    if (shown && isPlain c) || q.keeps c then
      c :: plainAfter (if c.toNat < 0x80 then q else .absent) true t
    else plainAfter (q.next c) false t

/-- A text without its control characters and control sequences. -/
def plain (t : Text) : Text :=
  plainAfter .absent false t

/-! ### Laws -/

theorem isPlain_of_keeps {q : Sequence} {c : Char} (h : q.keeps c = true) : isPlain c = true := by
  cases q <;> simp_all [Sequence.keeps, isPlain]

theorem isPlain_of_mem_plainAfter {q : Sequence} {shown : Bool} {t : Text} {c : Char}
    (h : c ∈ plainAfter q shown t) : isPlain c = true := by
  induction t generalizing q shown with
  | nil => simp [plainAfter] at h
  | cons d t ih =>
    unfold plainAfter at h
    split at h
    · rename_i hd
      rcases List.mem_cons.1 h with rfl | h
      · rcases Bool.or_eq_true_iff.1 hd with hd | hd
        · exact (Bool.and_eq_true_iff.1 hd).2
        · exact isPlain_of_keeps hd
      · exact ih h
    · exact ih h

/-- Nothing is left that a terminal obeys. -/
theorem isPlain_of_mem_plain {t : Text} {c : Char} (h : c ∈ plain t) : isPlain c = true :=
  isPlain_of_mem_plainAfter h

/-- Without a sequence it does not matter whether the character before was kept. -/
theorem plainAfter_absent (shown : Bool) (t : Text) :
    plainAfter .absent shown t = plain t := by
  cases t with
  | nil => rfl
  | cons c t => cases shown <;> simp [plain, plainAfter, Sequence.keeps]

/-- What follows a plain text is made plain on its own. -/
theorem plain_append {s : Text} (h : ∀ c ∈ s, isPlain c = true) (t : Text) :
    plain (s ++ t) = s ++ plain t := by
  induction s with
  | nil => rfl
  | cons c s ih =>
    simp only [List.mem_cons, forall_eq_or_imp] at h
    rw [List.cons_append, plain, plainAfter, if_pos (by simp [Sequence.keeps, h.1]), ite_self,
      plainAfter_absent, ih h.2, List.cons_append]

/-- A plain text loses nothing. -/
theorem plain_eq_self {t : Text} (h : ∀ c ∈ t, isPlain c = true) : plain t = t := by
  simpa [plain, plainAfter] using plain_append h []

end Scriptpad.Text
