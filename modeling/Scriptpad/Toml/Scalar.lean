import Scriptpad.Toml.Value

/-!
# TOML scalars

Readers for the parts of a TOML document that hold no other value: strings in their four forms,
integers in four bases, floating-point numbers, truth values, dates and times. A reader takes its
part off the front of a text and gives the rest, or fails; it never looks beyond what it takes,
so that an ill-formed end is left to what follows.
-/

namespace Scriptpad.Toml

/-- Takes a value off the front of a text. -/
abbrev Reader (α : Type) := Text → Option (α × Text)

/-! ### Characters -/

/-- Spaces and tabs. -/
def isSpace (c : Char) : Bool :=
  c == ' ' || c == '\t'

/-- The characters that may stand in comments and, but for quotes and backslashes, in strings. -/
def isPlain (c : Char) : Bool :=
  c == '\t' || (' '.toNat ≤ c.toNat && c.toNat ≤ '~'.toNat) || 0x80 ≤ c.toNat

/-- The characters of keys without quotes. -/
def isBare (c : Char) : Bool :=
  c.isAlphanum || c == '_' || c == '-'

/-- The value of a digit in a base of at most sixteen. -/
def digitIn? (base : Nat) (c : Char) : Option Nat :=
  let value? : Option Nat :=
    if Decimal.isDigit c then some (Decimal.digitValue c)
    else if 'a'.toNat ≤ c.toNat && c.toNat ≤ 'f'.toNat then some (c.toNat - 'a'.toNat + 10)
    else if 'A'.toNat ≤ c.toNat && c.toNat ≤ 'F'.toNat then some (c.toNat - 'A'.toNat + 10)
    else none
  value?.filter (· < base)

/-- The text after its spaces and tabs. -/
def skipSpaces (t : Text) : Text :=
  t.dropWhile isSpace

/-- Takes one line break. -/
def lineBreak? : Text → Option Text
  | '\n' :: rest => some rest
  | '\r' :: '\n' :: rest => some rest
  | _ => none

/-- Takes a given beginning. -/
def expect (start : Text) (t : Text) : Option Text :=
  Text.dropStart? start t

/-! ### Strings -/

/-- The number that `count` hexadecimal digits write, continuing from `value`. -/
def hexDigits : (count value : Nat) → Reader Nat
  | 0, value, t => some (value, t)
  | _ + 1, _, [] => none
  | count + 1, value, c :: t => do
    let d ← digitIn? 16 c
    hexDigits count (16 * value + d) t

/-- The character of a code point, which must not be a surrogate. -/
def scalarValue? (n : Nat) : Option Char :=
  if n.isValidChar then some (.ofNat n) else none

/-- The character that an escape sequence stands for, after its backslash. -/
def escape? : Reader Char
  | 'b' :: t => some ('\x08', t)
  | 't' :: t => some ('\t', t)
  | 'n' :: t => some ('\n', t)
  | 'f' :: t => some ('\x0c', t)
  | 'r' :: t => some ('\r', t)
  | '"' :: t => some ('"', t)
  | '\\' :: t => some ('\\', t)
  | 'u' :: t => do
    let (n, t) ← hexDigits 4 0 t
    return (← scalarValue? n, t)
  | 'U' :: t => do
    let (n, t) ← hexDigits 8 0 t
    return (← scalarValue? n, t)
  | _ => none

/-- The text after the spaces, tabs and line breaks at its front. -/
def skipBlankLines : Text → Text
  | ' ' :: t => skipBlankLines t
  | '\t' :: t => skipBlankLines t
  | '\n' :: t => skipBlankLines t
  | '\r' :: '\n' :: t => skipBlankLines t
  | t => t

/-- The rest after a line break that a backslash hides, and after all blanks that follow it. -/
def hiddenBreak? (t : Text) : Option Text :=
  (lineBreak? (skipSpaces t)).map skipBlankLines

/-- The quotes at the front of a text, at most five, and the rest. -/
def quoteRun (quote : Char) (t : Text) : Nat × Text :=
  let run := (t.takeWhile (· == quote)).take 5
  (run.length, t.drop run.length)

/-- The contents of a string on one line, up to its closing quote. Only double quotes admit escape
sequences. The first argument bounds the number of characters. -/
def lineString (quote : Char) : Nat → Reader Text
  | 0, _ => none
  | _ + 1, [] => none
  | fuel + 1, c :: t =>
    if c = quote then some ([], t)
    else if c = '\\' && quote = '"' then do
      let (c, t) ← escape? t
      let (more, t) ← lineString quote fuel t
      return (c :: more, t)
    else if isPlain c then do
      let (more, t) ← lineString quote fuel t
      return (c :: more, t)
    else none

/-- The contents of a string over several lines, up to its three closing quotes, before which one
or two quotes may stand that belong to the string. Line breaks are read as line feeds. -/
def blockString (quote : Char) : Nat → Reader Text
  | 0, _ => none
  | _ + 1, [] => none
  | fuel + 1, c :: t =>
    if c = quote then do
      let (count, rest) := quoteRun quote (c :: t)
      if 3 ≤ count then return (List.replicate (count - 3) quote, rest)
      else
        let (more, rest) ← blockString quote fuel rest
        return (List.replicate count quote ++ more, rest)
    else if c = '\\' && quote = '"' then
      match hiddenBreak? t with
      | some t => blockString quote fuel t
      | none => do
        let (c, t) ← escape? t
        let (more, t) ← blockString quote fuel t
        return (c :: more, t)
    else
      match lineBreak? (c :: t) with
      | some t => do
        let (more, t) ← blockString quote fuel t
        return ('\n' :: more, t)
      | none =>
        if isPlain c then do
          let (more, t) ← blockString quote fuel t
          return (c :: more, t)
        else none

/-- A string between the given kind of quotes, single or triple. A line break directly after three
opening quotes does not count. -/
def quoted (quote : Char) (t : Text) : Option (Text × Text) :=
  match expect [quote, quote, quote] t with
  | some rest => blockString quote (t.length + 1) ((lineBreak? rest).getD rest)
  | none => do
    let rest ← expect [quote] t
    lineString quote (t.length + 1) rest

/-- A string of any of the four forms. -/
def string? (t : Text) : Option (Text × Text) :=
  quoted '"' t <|> quoted '\'' t

/-! ### Numbers -/

/-- One or more digits of a base, between which single underscores may stand; gives the digits. -/
def digitGroup (base : Nat) : Reader Text
  | [] => none
  | c :: t =>
    if (digitIn? base c).isNone then none
    else match t with
      | '_' :: d :: t =>
        (digitGroup base (d :: t)).map fun (more, rest) ↦ (c :: more, rest)
      | '_' :: [] => none
      | t =>
        match digitGroup base t with
        | some (more, rest) => some (c :: more, rest)
        | none => if t.head?.any fun d ↦ (digitIn? base d).isSome then none else some ([c], t)

/-- The number that digits of a base write. -/
def ofDigitsIn (base : Nat) (digits : Text) : Nat :=
  digits.foldl (fun n c ↦ base * n + (digitIn? base c).getD 0) 0

/-- An optional sign; gives whether it is a minus, and its text. -/
def sign : Text → Text × Text
  | '-' :: t => (['-'], t)
  | '+' :: t => (['+'], t)
  | t => ([], t)

/-- The decimal digits of a whole number, which has no leading zeros. -/
def wholeDigits : Reader Text
  | '0' :: t => some (['0'], t)
  | t => digitGroup 10 t

/-- An integer, if it fits in 64 bits. -/
def word? (n : Int) (t : Text) : Option (Value × Text) :=
  if Decimal.IsWord n then some (.integer n, t) else none

/-- An integer in one of the bases that a letter after a zero announces, or a decimal one. -/
def integer? (t : Text) : Option (Value × Text) :=
  match t with
  | '0' :: 'x' :: t => do
    let (ds, t) ← digitGroup 16 t
    word? (ofDigitsIn 16 ds) t
  | '0' :: 'o' :: t => do
    let (ds, t) ← digitGroup 8 t
    word? (ofDigitsIn 8 ds) t
  | '0' :: 'b' :: t => do
    let (ds, t) ← digitGroup 2 t
    word? (ofDigitsIn 2 ds) t
  | t => do
    let (minus, t) := sign t
    let (ds, t) ← wholeDigits t
    let n : Int := ofDigitsIn 10 ds
    word? (if minus = ['-'] then -n else n) t

/-- A power of ten; gives its text. -/
def power : Reader Text
  | c :: t =>
    if c = 'e' || c = 'E' then do
      let (s, t) := sign t
      let (ds, t) ← digitGroup 10 t
      return ('e' :: s ++ ds, t)
    else none
  | [] => none

/-- The digits after a point, and a power of ten if there is one; gives their text. -/
def fraction : Reader Text
  | '.' :: t => do
    let (ds, t) ← digitGroup 10 t
    match power t with
    | some (p, t) => return ('.' :: ds ++ p, t)
    | none => return ('.' :: ds, t)
  | _ => none

/-- A floating-point number in digits. One that is too large is an error, unless it is negative. -/
def digitFloat? (t : Text) : Option (Value × Text) := do
  let (s, t) := sign t
  let (whole, t) ← wholeDigits t
  let (tail, t) ← power t <|> fraction t
  let x := Binary64.ofNumeral (← Decimal.numeral? (s ++ whole ++ tail))
  if x = .infinite false then none else return (.float x, t)

/-- Infinity or "not a number", with an optional sign. -/
def namedFloat? (t : Text) : Option (Value × Text) :=
  let (s, t) := sign t
  match expect "inf".toList t with
  | some t => some (.float (.infinite (s == ['-'])), t)
  | none => (expect "nan".toList t).map fun t ↦ (.float .notANumber, t)

/-! ### Dates and times -/

/-- Two digits whose number lies in a range; gives the digits. -/
def twoDigits (low high : Nat) : Reader Text
  | c :: d :: t =>
    let n := Decimal.ofDigits [c, d]
    if Decimal.isDigit c && Decimal.isDigit d && low ≤ n && n ≤ high then some ([c, d], t)
    else none
  | _ => none

/-- The number of days of a month. -/
def daysInMonth (year month : Nat) : Nat :=
  if month = 2 then
    if year % 4 = 0 && (year % 100 ≠ 0 || year % 400 = 0) then 29 else 28
  else if month = 4 || month = 6 || month = 9 || month = 11 then 30
  else 31

/-- A day of the calendar. -/
def date (t : Text) : Option (Text × Text) := do
  let year := t.take 4
  if year.length ≠ 4 || !year.all Decimal.isDigit then none
  let t ← expect ['-'] (t.drop 4)
  let (month, t) ← twoDigits 1 12 t
  let t ← expect ['-'] t
  let (day, t) ←
    twoDigits 1 (daysInMonth (Decimal.ofDigits year) (Decimal.ofDigits month)) t
  return (year ++ '-' :: month ++ '-' :: day, t)

/-- The fraction of a second, to nine digits and without the zeros at its end. -/
def secondFraction : Text → Option (Text × Text)
  | '.' :: t =>
    let ds := t.takeWhile Decimal.isDigit
    if ds = [] then none
    else
      let kept := ((ds.take 9).reverse.dropWhile (· == '0')).reverse
      some (if kept = [] then [] else '.' :: kept, t.dropWhile Decimal.isDigit)
  | t => some ([], t)

/-- A time of the day. -/
def time (t : Text) : Option (Text × Text) := do
  let (hour, t) ← twoDigits 0 23 t
  let t ← expect [':'] t
  let (minute, t) ← twoDigits 0 59 t
  let t ← expect [':'] t
  let (second, t) ← twoDigits 0 60 t
  let (frac, t) ← secondFraction t
  return (hour ++ ':' :: minute ++ ':' :: second ++ frac, t)

/-- The distance from universal time, if one is given. No distance has a plus sign. -/
def offset : Text → Option (Text × Text)
  | 'Z' :: t => some (['Z'], t)
  | 'z' :: t => some (['Z'], t)
  | c :: t =>
    if c = '+' || c = '-' then do
      let (hour, t) ← twoDigits 0 23 t
      let t ← expect [':'] t
      let (minute, t) ← twoDigits 0 59 t
      let atZero := hour = ['0', '0'] && minute = ['0', '0']
      return ((if atZero then '+' else c) :: hour ++ ':' :: minute, t)
    else some ([], c :: t)
  | [] => some ([], [])

/-- What follows a date: a letter or a space and a time, or nothing. After a letter, and after a
space that an hour follows, there must be a time. -/
def afterDate : Text → Option (Text × Text)
  | c :: t =>
    if c = 'T' || c = 't' || (c = ' ' && (twoDigits 0 23 t).any fun (_, t) ↦ t.head? == some ':')
    then do
      let (clock, t) ← time t
      let (zone, t) ← offset t
      return ('T' :: clock ++ zone, t)
    else some ([], c :: t)
  | [] => some ([], [])

/-- A date, a time, or both. -/
def datetime? (t : Text) : Option (Value × Text) :=
  match date t with
  | some (day, t) => do
    let (clock, t) ← afterDate t
    return (.datetime (day ++ clock), t)
  | none => (time t).map fun (clock, t) ↦ (.datetime clock, t)

/-! ### All scalars -/

/-- A truth value. -/
def boolean? (t : Text) : Option (Value × Text) :=
  match expect "true".toList t with
  | some t => some (.boolean true, t)
  | none => (expect "false".toList t).map fun t ↦ (.boolean false, t)

/-- Any value that holds no other value. -/
def scalar? (t : Text) : Option (Value × Text) :=
  (string? t).map (fun (s, t) ↦ (Value.string s, t))
    <|> datetime? t <|> namedFloat? t <|> digitFloat? t <|> integer? t <|> boolean? t

end Scriptpad.Toml
