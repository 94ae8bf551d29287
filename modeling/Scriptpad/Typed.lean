import Scriptpad.Keyboard
import Scriptpad.Text.Encoding

/-!
# What a terminal sends for keys

A terminal in raw mode sends a character for most keys, a control character for a letter together
with the control key, and a sequence that begins with escape for the keys that have no character
and for keys with other modifiers. An escape in front of a character stands for the alt key, and
the escape key itself sends an escape and nothing more.

Characters are read one at a time. Those that do not yet make a key are held back until they do, or
until no key can come of them; then they are dropped, as are the reports that a terminal sends on
its own account (of the mouse, the cursor, its focus, a paste, and of keys let go).

## Main statements

* `read_append`: it does not matter how what is typed is cut into pieces.
* `read_of_typeable`: printable characters of ASCII are read as themselves.
-/

namespace Scriptpad.Typed

/-- What characters that have come one after the other amount to. -/
inductive Reading where
  /-- More characters belong to them. -/
  | unfinished
  | key (k : Key)
  /-- No key, and none can come of them. -/
  | dropped
  deriving Repr, DecidableEq

/-- A key if there is one. -/
def Reading.ofKey? : Option Key → Reading
  | some k => .key k
  | none => .dropped

/-- A key without modifiers if there is one. -/
def Reading.ofCode? (code : Option KeyCode) : Reading :=
  .ofKey? (code.map fun code ↦ { code })

/-! ### Single characters -/

/-- The key of a single character. In raw mode a line feed is not the enter key, which sends a
carriage return. -/
def charKey (c : Char) : Key :=
  if c = '\r' then { code := .enter }
  else if c = '\t' then { code := .tab }
  else if c = '\x7f' then { code := .backspace }
  else if c = '\x1b' then { code := .escape }
  else if c = '\x00' then { code := .char ' ', modifiers := { control := true } }
  else if c.toNat ≤ 26 then
    { code := .char (.ofNat (c.toNat + 'a'.toNat - 1)), modifiers := { control := true } }
  else if c.toNat < 32 then
    { code := .char (.ofNat (c.toNat + '4'.toNat - 28)), modifiers := { control := true } }
  else { code := .char c }

/-! ### Parameters

Numbers parted by semicolons, of which each can have parts of its own, parted by colons. -/

/-- A number below a bound, with or without a plus sign. -/
def below? (bound : Nat) (t : Text) : Option Nat :=
  let n := match t with
    | '+' :: digits => Decimal.natural? digits
    | digits => Decimal.natural? digits
  n.filter (· < bound)

/-- The parts of a parameter. -/
def parts (t : Text) : List Text :=
  Text.pieces (· == ':') t

/-- The modifiers that a number stands for: one more than the sum of their bits. -/
def modifiersOf (n : Nat) : Modifiers :=
  let bits := n - 1
  { shift := bits.testBit 0, alt := bits.testBit 1, control := bits.testBit 2
    super := bits.testBit 3, hyper := bits.testBit 4, metaKey := bits.testBit 5 }

/-- The modifiers of a key, and whether it was let go and not pressed. -/
structure Press where
  modifiers : Modifiers := {}
  released : Bool := false

/-- What the second of the parameters says about a key. -/
def Press.ofParameters? : List Text → Option Press
  | _ :: second :: _ => do
    let modifiers ← (parts second).head?.bind (below? 256)
    let kind := ((parts second)[1]?.bind (below? 256)).getD 1
    return { modifiers := modifiersOf modifiers, released := kind = 3 }
  | _ => none

/-- A key with the modifiers of a press. Keys that are let go are not read. -/
def Press.reading (p : Press) (code : KeyCode) : Reading :=
  if p.released then .dropped else .key { code, modifiers := p.modifiers }

/-! ### Keys without a character -/

/-- The key that a final letter stands for. -/
def letterKey? (c : Char) : Option KeyCode :=
  if c = 'A' then some .up
  else if c = 'B' then some .down
  else if c = 'C' then some .right
  else if c = 'D' then some .left
  else if c = 'F' then some .endKey
  else if c = 'H' then some .home
  else if 'P' ≤ c && c ≤ 'S' then some (.function (c.toNat - 'P'.toNat + 1))
  else none

/-- The key that a number in front of a tilde stands for. Function keys come in groups, between
which a number is left out. -/
def numberKey? (n : Nat) : Option KeyCode :=
  if n = 1 || n = 7 then some .home
  else if n = 2 then some .insert
  else if n = 3 then some .delete
  else if n = 4 || n = 8 then some .endKey
  else if n = 5 then some .pageUp
  else if n = 6 then some .pageDown
  else if 11 ≤ n && n ≤ 15 then some (.function (n - 10))
  else if 17 ≤ n && n ≤ 21 then some (.function (n - 11))
  else if 23 ≤ n && n ≤ 26 then some (.function (n - 12))
  else if 28 ≤ n && n ≤ 29 then some (.function (n - 15))
  else if 31 ≤ n && n ≤ 34 then some (.function (n - 17))
  else none

/-- The keys of the keypad behind its digits, in the order of their numbers. -/
def keypad : List KeyCode :=
  [ .char '.', .char '/', .char '*', .char '-', .char '+', .enter, .char '=', .char ',', .left,
    .right, .up, .down, .pageUp, .pageDown, .home, .endKey, .insert, .delete ]

/-- The key that a number stands for which is no character's. -/
def specialKey? (n : Nat) : Option KeyCode :=
  if n = 57358 then some .capsLock
  else if n = 57362 then some .pause
  else if n = 57363 then some .menu
  else if 57359 ≤ n && n ≤ 57361 then some (.numbered n)
  else if 57376 ≤ n && n ≤ 57398 then some (.function (n - 57363))
  else if 57399 ≤ n && n ≤ 57408 then some (.char (.ofNat (n - 57399 + '0'.toNat)))
  else if 57409 ≤ n && n ≤ 57454 then some (keypad[n - 57409]?.getD (.numbered n))
  else none

/-- The modifiers that are held when the key with a number is pressed: if that is itself the key of
a modifier, on either side of the keyboard, it counts with the others. -/
def holding (n : Nat) (m : Modifiers) : Modifiers :=
  if 57441 ≤ n && n ≤ 57452 then
    match (n - 57441) % 6 with
    | 0 => { m with shift := true }
    | 1 => { m with control := true }
    | 2 => { m with alt := true }
    | 3 => { m with super := true }
    | 4 => { m with hyper := true }
    | _ => { m with metaKey := true }
  else m

/-- The character with a code point, if there is one. -/
def charOf? (n : Nat) : Option Char :=
  if n.isValidChar then some (.ofNat n) else none

/-- The key of a character that was sent by its code point. -/
def codedKey (shift : Bool) (c : Char) : KeyCode :=
  if c = '\x1b' then .escape
  else if c = '\r' then .enter
  else if c = '\t' then if shift then .backTab else .tab
  else if c = '\x7f' then .backspace
  else .char c

/-! ### Sequences -/

/-- A sequence of parameters that ends in `u`: a code point and what shift makes of it, and the
modifiers. While shift is held, what shift makes of a key stands for the key and for shift. -/
def readCoded (parameters : List Text) : Reading :=
  let press := (Press.ofParameters? parameters).getD {}
  let codes := parts (parameters.head?.getD [])
  match codes.head?.bind (below? 0x100000000) with
  | none => .dropped
  | some n =>
    match (specialKey? n).or ((charOf? n).map (codedKey press.modifiers.shift)) with
    | none => .dropped
    | some code =>
      let held := holding n press.modifiers
      match if held.shift then (codes[1]?.bind (below? 0x100000000)).bind charOf? else none with
      | some shifted =>
        { press with modifiers := { held with shift := false } }.reading (.char shifted)
      | none => { press with modifiers := held }.reading code

/-- A sequence of parameters that ends in a tilde: the number of a key, and the modifiers. -/
def readNumbered (parameters : List Text) : Reading :=
  match (parameters.head?.bind (below? 256)).bind numberKey? with
  | some code => ((Press.ofParameters? parameters).getD {}).reading code
  | none => .dropped

/-- A sequence of parameters that ends in a letter. Without a second parameter the last digit stands
for the modifiers. -/
def readLettered (parameters : Text) (last : Char) : Reading :=
  let press : Option Press :=
    (Press.ofParameters? (Text.pieces (· == ';') parameters)).or do
      let digit ← parameters.getLast?
      if Decimal.isDigit digit then
        return { modifiers := modifiersOf (Decimal.digitValue digit) }
      else none
  match press, letterKey? last with
  | some press, some code => press.reading code
  | _, _ => .dropped

/-- The beginning and the end of a paste, without the escape and the bracket. -/
def pasteStart : Text := "200~".toList

def pasteEnd : Text := "\x1b[201~".toList

/-- What follows an escape and a bracket, if it begins with a digit. It is read when a final
character has come. -/
def readParameters (t : Text) : Reading :=
  match t.getLast? with
  | none => .unfinished
  | some last =>
    if last < '@' || '~' < last then .unfinished
    else if (Text.dropStart? pasteStart t).isSome then
      if pasteEnd.isSuffixOf t then .dropped else .unfinished
    else if last = 'M' || last = 'R' then .dropped
    else if last = '~' then readNumbered (Text.pieces (· == ';') t.dropLast)
    else if last = 'u' then readCoded (Text.pieces (· == ';') t.dropLast)
    else readLettered t.dropLast last

/-- What follows an escape and a bracket. -/
def readBracket (t : Text) : Reading :=
  match t with
  | [] => .unfinished
  | ['['] => .unfinished
  | '[' :: c :: _ =>
    if 'A' ≤ c && c ≤ 'E' then .key { code := .function (c.toNat - 'A'.toNat + 1) } else .dropped
  | 'Z' :: _ => .key { code := .backTab, modifiers := { shift := true } }
  | 'M' :: _ => if Text.byteCount t < 4 then .unfinished else .dropped
  | '<' :: _ =>
    if t.getLast? = some 'm' || t.getLast? = some 'M' then .dropped else .unfinished
  | '?' :: _ =>
    if t.getLast? = some 'c' || (t.getLast? = some 'u' && 3 ≤ Text.byteCount t) then .dropped
    else .unfinished
  | 'R' :: _ => .dropped
  | c :: _ => if Decimal.isDigit c then readParameters t else .ofCode? (letterKey? c)

/-- What all characters together amount to that have been held back and the one that has come.
More will follow at once if `more` holds; otherwise an escape is the escape key. -/
def classify (more : Bool) : Text → Reading
  | [] => .unfinished
  | ['\x1b'] => if more then .unfinished else .key { code := .escape }
  | ['\x1b', 'O'] => .unfinished
  | '\x1b' :: 'O' :: c :: _ => .ofCode? (letterKey? c)
  | '\x1b' :: '[' :: t => readBracket t
  | '\x1b' :: '\x1b' :: _ => .key { code := .escape }
  | '\x1b' :: c :: _ =>
    let k := charKey c
    .key { k with modifiers.alt := true }
  | c :: _ => .key (charKey c)

/-- The keys that were typed if the characters `held` had been held back and the given ones have
come, and the characters that are held back then. -/
def read (more : Bool) (held : Text) : Text → List Key × Text
  | [] => ([], held)
  | c :: t =>
    match classify (more || !t.isEmpty) (held ++ [c]) with
    | .unfinished => read more (held ++ [c]) t
    | .key k =>
      let rest := read more [] t
      (k :: rest.1, rest.2)
    | .dropped => read more [] t

/-! ### Laws -/

/-- It does not matter how what is typed is cut into pieces, as long as each piece but the last is
read with the knowledge that it is not the last. -/
theorem read_append (more : Bool) (held s : Text) {t : Text} (ht : t ≠ []) :
    read more held (s ++ t) =
      ((read true held s).1 ++ (read more (read true held s).2 t).1,
        (read more (read true held s).2 t).2) := by
  induction s generalizing held with
  | nil => rfl
  | cons c s ih =>
    have hmore : (more || !(s ++ t).isEmpty) = true := by simp [ht]
    rw [List.cons_append, read, read, hmore, Bool.true_or]
    cases classify true (held ++ [c]) <;> simp [ih]

theorem charKey_of_typeable {c : Char} (h : isTypeable c = true) :
    charKey c = { code := .char c } := by
  have hle : 32 ≤ c.toNat ∧ c.toNat ≤ 126 := by simpa [isTypeable] using h
  have hne (d : Char) (hd : d.toNat < 32 ∨ 126 < d.toNat) : c ≠ d := by
    rintro rfl
    omega
  have hlarge : ¬c.toNat ≤ 26 := by omega
  have hlarger : ¬c.toNat < 32 := by omega
  simp [charKey, hne '\r' (by decide), hne '\t' (by decide), hne '\x7f' (by decide),
    hne '\x1b' (by decide), hne '\x00' (by decide), hlarge, hlarger]

theorem classify_singleton {c : Char} (more : Bool) (h : c ≠ '\x1b') :
    classify more [c] = .key (charKey c) := by
  unfold classify
  split <;> simp_all

/-- Printable characters of ASCII are read as themselves. -/
theorem read_of_typeable (more : Bool) {t : Text} (h : ∀ c ∈ t, isTypeable c = true) :
    read more [] t = (t.map fun c ↦ { code := .char c }, []) := by
  induction t with
  | nil => rfl
  | cons c t ih =>
    have hc := h c (by simp)
    have hescape : c ≠ '\x1b' := by
      rintro rfl
      exact absurd hc (by decide)
    rw [read, List.nil_append, classify_singleton _ hescape, charKey_of_typeable hc,
      ih fun d hd ↦ h d (by simp [hd])]
    rfl

end Scriptpad.Typed
