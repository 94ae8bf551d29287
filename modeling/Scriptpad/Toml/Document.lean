import Scriptpad.Toml.Scalar

/-!
# TOML documents

A document is a list of statements, one a line: a key with its value, or a header that says to
which table the following keys belong. Keys may be dotted, which makes tables within the current
one. The rules on what may be said twice are those of TOML 1.0: no key twice, no header twice, no
key or header into a table that was completed elsewhere.

Arrays and inline tables nest at most `nestingLimit` deep, and a key has at most as many parts.
A text that is not a document has no value; why is not said.
-/

namespace Scriptpad.Toml

/-- How deep arrays and inline tables may nest, and how many parts a key may have. -/
def nestingLimit : Nat := 79

/-! ### Layout -/

/-- The text after blanks, line breaks and comments, within an array. The flag says whether the
text begins within a comment. -/
def skipLayout : Bool → Text → Option Text
  | _, [] => some []
  | _, '\n' :: t => skipLayout false t
  | _, '\r' :: '\n' :: t => skipLayout false t
  | true, c :: t => if isPlain c then skipLayout true t else none
  | false, ' ' :: t => skipLayout false t
  | false, '\t' :: t => skipLayout false t
  | false, '#' :: t => skipLayout true t
  | false, c :: t => some (c :: t)

/-- The rest after the end of a line, before which only blanks and a comment may stand. -/
def lineEnd (t : Text) : Option Text :=
  let rest := skipSpaces t
  let rest := if rest.head? = some '#' then rest.tail.dropWhile isPlain else rest
  if rest = [] then some [] else lineBreak? rest

/-! ### Keys -/

/-- One part of a key: a string on one line, or bare characters. -/
def keyPart : Reader Text
  | '"' :: t => lineString '"' (t.length + 1) t
  | '\'' :: t => lineString '\'' (t.length + 1) t
  | t =>
    let bare := t.takeWhile isBare
    if bare = [] then none else some (bare, t.dropWhile isBare)

/-- The parts of a key that dots separate, with blanks around each. The first argument bounds the
number of parts. -/
def keyParts : Nat → Reader (List Text)
  | 0, _ => none
  | fuel + 1, t => do
    let (part, t) ← keyPart (skipSpaces t)
    match skipSpaces t with
    | '.' :: t =>
      let (more, t) ← keyParts fuel t
      return (part :: more, t)
    | t => return ([part], t)

/-- A key: the way to its table, and its last part. -/
def key (t : Text) : Option ((List Text × Text) × Text) := do
  let (parts, t) ← keyParts nestingLimit t
  let last ← parts.getLast?
  return ((parts.dropLast, last), t)

/-! ### Values -/

/-- The elements of an array after its opening bracket, up to the closing one; a comma may follow
the last. The number bounds the number of elements. -/
def arrayItems (one : Reader Value) : Nat → Reader (List Value)
  | 0, _ => none
  | fuel + 1, t => do
    match ← skipLayout false t with
    | ']' :: t => return ([], t)
    | t =>
      let (v, t) ← one t
      match ← skipLayout false t with
      | ',' :: t =>
        let (more, t) ← arrayItems one fuel t
        return (v :: more, t)
      | ']' :: t => return ([v], t)
      | _ => none

/-- A key, an equals sign and a value. -/
def keyValue (one : Reader Value) (t : Text) : Option (((List Text × Text) × Value) × Text) := do
  let (k, t) ← key t
  let t ← expect ['='] t
  let (v, t) ← one (skipSpaces t)
  return ((k, v), t)

/-- The entries of an inline table, from a key on, up to the closing brace, added to `entries`. The
number bounds the number of entries. -/
def inlineEntries (one : Reader Value) : Nat → Entries → Reader Entries
  | 0, _, _ => none
  | fuel + 1, entries, t => do
    let (((path, last), v), t) ← keyValue one t
    let entries ← entries.addDotted? path last v
    match skipSpaces t with
    | ',' :: t => inlineEntries one fuel entries t
    | '}' :: t => return (entries, t)
    | _ => none

/-- An inline table after its opening brace. -/
def inlineTable (one : Reader Value) (t : Text) : Option (Entries × Text) :=
  match skipSpaces t with
  | '}' :: t => some ([], t)
  | t => inlineEntries one t.length [] t

/-- A value in which arrays and inline tables nest at most as deep as the number says. -/
def value : Nat → Reader Value
  | 0, t => scalar? t
  | depth + 1, t =>
    match t with
    | '[' :: t => (arrayItems (value depth) (t.length + 1) t).map fun (vs, t) ↦ (.array vs, t)
    | '{' :: t => (inlineTable (value depth) t).map fun (es, t) ↦ (.table .inlined es, t)
    | t => scalar? t

/-! ### Statements -/

/-- A line of a document that says something. -/
inductive Statement where
  | entry (path : List Text) (key : Text) (v : Value)
  | table (path : List Text) (key : Text)
  | element (path : List Text) (key : Text)

/-- A header, or a key with its value, up to the end of its line. -/
def statement (t : Text) : Option (Statement × Text) := do
  match t with
  | '[' :: '[' :: t =>
    let ((path, last), t) ← key t
    let t ← lineEnd (← expect [']', ']'] t)
    return (.element path last, t)
  | '[' :: t =>
    let ((path, last), t) ← key t
    let t ← lineEnd (← expect [']'] t)
    return (.table path last, t)
  | t =>
    let (((path, last), v), t) ← keyValue (value nestingLimit) t
    let t ← lineEnd t
    return (.entry path last v, t)

/-- All statements of a text. The number bounds the number of lines. -/
def statements : Nat → Text → Option (List Statement)
  | 0, _ => none
  | fuel + 1, t =>
    match skipSpaces t with
    | [] => some []
    | '#' :: t => (lineEnd ('#' :: t)).bind (statements fuel)
    | '\n' :: t => statements fuel t
    | '\r' :: t => (lineBreak? ('\r' :: t)).bind (statements fuel)
    | t => do
      let (s, t) ← statement t
      return s :: (← statements fuel t)

/-! ### Building the document -/

/-- Where the keys that follow a header belong. -/
inductive Header where
  | document
  | table (path : List Text) (key : Text)
  | element (path : List Text) (key : Text)

/-- A document under construction: what is complete, the last header, and the entries under it. -/
structure Draft where
  done : Entries := []
  header : Header := .document
  current : Entries := []

namespace Draft

/-- Applies a change to the complete part at the end of a path. -/
def change? {α : Type} (d : Draft) (path : List Text) (f : Entries → Option (Entries × α)) :
    Option (Draft × α) :=
  (Entries.changeAt? false (fun _ es ↦ f es) path .header d.done).map fun (es, a) ↦
    ({ d with done := es }, a)

/-- Puts the entries under the last header into the complete part. -/
def close? (d : Draft) : Option Draft :=
  match d.header with
  | .document => some { d with done := d.current, current := [] }
  | .table path key =>
    (d.change? path fun es ↦ (es.add? key (.table .header d.current)).map fun es ↦ (es, ())).map
      fun (d, _) ↦ { d with current := [] }
  | .element path key =>
    (d.change? path fun es ↦
      match es.get? key with
      | some (.tables elements) =>
        some (es.replace key (.tables (elements ++ [.table .header d.current])), ())
      | _ => none).map fun (d, _) ↦ { d with current := [] }

/-- Opens a table. One that is only a parent so far keeps its entries; any other must be new. -/
def openTable? (d : Draft) (path : List Text) (key : Text) : Option Draft :=
  (d.change? path fun es ↦
    match es.get? key with
    | none => some (es, [])
    | some (.table .implied inner) => some (es.erase key, inner)
    | some _ => none).map fun (d, inner) ↦ { d with header := .table path key, current := inner }

/-- Opens a further element of an array of tables. -/
def openElement? (d : Draft) (path : List Text) (key : Text) : Option Draft :=
  (d.change? path fun es ↦
    match es.get? key with
    | none => some (es ++ [(key, .tables [])], ())
    | some (.tables _) => some (es, ())
    | some _ => none).map fun (d, _) ↦ { d with header := .element path key, current := [] }

/-- Carries out a statement. -/
def take? (d : Draft) : Statement → Option Draft
  | .entry path key v =>
    (d.current.addDotted? path key v).map fun es ↦ { d with current := es }
  | .table path key => d.close?.bind fun d ↦ d.openTable? path key
  | .element path key => d.close?.bind fun d ↦ d.openElement? path key

end Draft

/-- The mark that may stand at the very beginning of a document. -/
def byteOrderMark : Char := '\ufeff'

/-- The entries of a document. -/
def parse? (t : Text) : Option Entries := do
  let t := if t.head? = some byteOrderMark then t.tail else t
  let ss ← statements (t.length + 1) t
  let d ← ss.foldlM Draft.take? {}
  let d ← d.close?
  return d.done

end Scriptpad.Toml
