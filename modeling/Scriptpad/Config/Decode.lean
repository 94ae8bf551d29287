import Scriptpad.Config.Basic
import Scriptpad.Decimal.Shortest
import Scriptpad.Text.Quoted
import Scriptpad.Toml.Document

/-!
# Reading the configuration

A configuration file is a TOML document whose top-level keys are the settings. Keys are taken in
the order of the document, and the first one that is unknown or has a value of the wrong type is
the error that is reported. A setting that is not given keeps its default.

A color is given by its name, or by a table whose only key is the name and whose value is empty.
-/

namespace Scriptpad.Config

/-! ### Errors -/

/-- What is wrong with a configuration. -/
inductive DecodeError where
  /-- The text is not a TOML document. -/
  | malformed
  | unknownSetting (name : Text)
  | unknownColor (name : Text)
  | wrongType (found : Toml.Value) (expected : Text)
  /-- A color is given by something other than a name. -/
  | unfitColor
  deriving Repr

/-- Names as a message lists them. -/
def listed (names : List Text) : Text :=
  Text.joinWith ", ".toList (names.map fun name ↦ '`' :: name ++ ['`'])

/-- The names of the settings. -/
def settingNames : List Text :=
  [ "script_extension".toList, "highlight_extensions".toList, "log_file".toList,
    "keywords".toList ]

/-- A floating-point value as a message shows it: a finite one always has a point. -/
def floatText (x : Binary64) : Text :=
  match x with
  | .finite .. => if '.' ∈ x.text then x.text else x.text ++ ".0".toList
  | _ => x.text

/-- A value as a message about its type describes it. -/
def describe : Toml.Value → Text
  | .string t => "string ".toList ++ Text.quote t
  | .integer n => "integer `".toList ++ Decimal.render n ++ ['`']
  | .float x => "floating point `".toList ++ floatText x ++ ['`']
  | .boolean true => "boolean `true`".toList
  | .boolean false => "boolean `false`".toList
  | .datetime _ => "map".toList
  | .array _ => "sequence".toList
  | .tables _ => "sequence".toList
  | .table .. => "map".toList

/-- The wording of an error, for those errors that are about the settings themselves. -/
def DecodeError.message? : DecodeError → Option Text
  | .malformed => none
  | .unknownSetting name =>
    some ("unknown field `".toList ++ name ++ "`, expected one of ".toList ++ listed settingNames)
  | .unknownColor name =>
    some ("unknown variant `".toList ++ name ++ "`, expected one of ".toList
      ++ listed (Color.all.map Color.name))
  | .wrongType found expected =>
    some ("invalid type: ".toList ++ describe found ++ ", expected ".toList ++ expected)
  | .unfitColor => none

/-! ### Settings -/

/-- A text, for a setting that expects one. -/
def textSetting (expected : Text) : Toml.Value → Except DecodeError Text
  | .string t => .ok t
  | v => .error (.wrongType v expected)

/-- A list of texts. -/
def listSetting : Toml.Value → Except DecodeError (List Text)
  | .array vs => vs.mapM (textSetting "a string".toList)
  | .tables vs => vs.mapM (textSetting "a string".toList)
  | v => .error (.wrongType v "a sequence".toList)

/-- A color by its name. -/
def namedColor (name : Text) : Except DecodeError Color :=
  match Color.ofName? name with
  | some c => .ok c
  | none => .error (.unknownColor name)

/-- Whether a value holds nothing. -/
def isEmpty : Toml.Value → Bool
  | .array [] => true
  | .table _ [] => true
  | .tables [] => true
  | _ => false

/-- A color, by its name or as the only key of a table. -/
def color : Toml.Value → Except DecodeError Color
  | .string name => namedColor name
  | .table _ [(name, v)] => do
    let c ← namedColor name
    if isEmpty v then .ok c else .error .unfitColor
  | _ => .error .unfitColor

/-- The colors of keywords. A date or a time counts as a table whose only value is its text, and no
such text names a color. -/
def keywordSetting : Toml.Value → Except DecodeError (Dictionary Color)
  | .table _ entries => do
    let colors ← entries.mapM fun (word, v) ↦ return (word, ← color v)
    return .ofList colors
  | .datetime t => .error (.unknownColor t)
  | v => .error (.wrongType v "a map".toList)

/-- Takes one setting. -/
def take (c : Config) (name : Text) (v : Toml.Value) : Except DecodeError Config :=
  if name = "script_extension".toList then do
    return { c with scriptExtension := ← textSetting "a string".toList v }
  else if name = "highlight_extensions".toList then do
    return { c with highlightExtensions := ← listSetting v }
  else if name = "log_file".toList then do
    return { c with logFile := ← textSetting "path string".toList v }
  else if name = "keywords".toList then do
    return { c with keywords := ← keywordSetting v }
  else .error (.unknownSetting name)

/-- The settings that a text gives, over the defaults. -/
def ofText (t : Text) : Except DecodeError Config :=
  match Toml.parse? t with
  | none => .error .malformed
  | some entries => entries.foldlM (fun c (name, v) ↦ c.take name v) {}

/-! ### Files -/

/-- Why no settings were read from a file. -/
inductive LoadError where
  | unreadable (path : Path) (cause : Failure)
  | invalid (path : Path) (cause : DecodeError)
  deriving Repr

/-- The wording of a load error, without what is wrong with an invalid file. -/
def LoadError.heading : LoadError → Text
  | .unreadable path _ => "cannot read config ".toList ++ path
  | .invalid path _ => "invalid config ".toList ++ path

/-- The wording of a load error. -/
def LoadError.message (e : LoadError) : Text :=
  e.heading ++ ": ".toList ++
    match e with
    | .unreadable _ cause => cause.detail
    | .invalid _ cause => cause.message?.getD "not a configuration".toList

/-- The settings of a file, from the answer to reading it. -/
def ofFile (path : Path) : Except Failure Text → Except LoadError Config
  | .ok t => (ofText t).mapError (.invalid path)
  | .error cause => .error (.unreadable path cause)

end Scriptpad.Config
