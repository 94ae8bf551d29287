import Scriptpad.Config.Basic
import Scriptpad.Terminal
import Scriptpad.Text.Plain

/-!
# The command line

The program takes at most one file, a switch to run it as a script, and an option that names a
configuration file. Options may stand before and after the file; short ones can be put together,
the value of an option is the rest of its word or the next word, and after a double dash every word
is a file.

Words are taken in order and the first mistake is reported; a request for help or for the version
that stands before it is answered instead. A value is looked at only when the words that follow it
have shown that it is complete, so a word that nothing can be made of is reported before an empty
value to its left.

The explanation of the command line is written for a terminal, in the terminal's styles. A report
of a mistake is plain, whatever the words that it quotes.
-/

namespace Scriptpad.CommandLine

/-- What the program is asked to do. -/
structure Options where
  file : Option Path := none
  run : Bool := false
  config : Option Path := none
  deriving Repr, DecidableEq

/-- A mistake in the use of the command line. -/
inductive UsageError where
  | unexpectedArgument (word : Text)
  | unexpectedValue (value option : Text)
  | missingValue (option : Text)
  | repeated (option : Text)
  | missingFile
  deriving Repr, DecidableEq

/-- How an option is shown in messages. -/
def runOption : Text := "--run".toList

def configOption : Text := "--config <FILE>".toList

def fileArgument : Text := "[FILE]".toList

/-- The first line of the report of a mistake. A word is quoted without its control characters, so
that it cannot be mistaken for the report. -/
def UsageError.message : UsageError → Text
  | .unexpectedArgument word =>
    "error: unexpected argument '".toList ++ Text.plain word ++ "' found".toList
  | .unexpectedValue value option =>
    "error: unexpected value '".toList ++ Text.plain value ++ "' for '".toList ++ option
      ++ "' found; no more were expected".toList
  | .missingValue option =>
    "error: a value is required for '".toList ++ option ++ "' but none was supplied".toList
  | .repeated option =>
    "error: the argument '".toList ++ option ++ "' cannot be used multiple times".toList
  | .missingFile => "error: the following required arguments were not provided:".toList

/-- What a command line comes to. -/
inductive Request where
  | start (options : Options)
  | help
  | version
  | mistake (e : UsageError)
  deriving Repr, DecidableEq

/-! ### Options -/

/-- Turns the switch for scripts on. -/
def Options.setRun (o : Options) : Except Request Options :=
  if o.run then .error (.mistake (.repeated runOption)) else .ok { o with run := true }

/-- Names the configuration file. -/
def Options.setConfig (o : Options) (value : Text) : Except Request Options :=
  if o.config.isSome then .error (.mistake (.repeated configOption))
  else if value = [] then .error (.mistake (.missingValue configOption))
  else .ok { o with config := some value }

/-- Names the file. -/
def Options.setFile (o : Options) (word : Text) : Except Request Options :=
  if word = [] then .error (.mistake (.missingValue fileArgument))
  else .ok { o with file := some word }

/-! ### Words -/

/-- A value that has been given but not looked at. -/
inductive Pending where
  | nothing
  /-- The option that names a configuration file, and its value if that has come. -/
  | config (value : Option Text)
  | file (word : Text)
  deriving Repr, DecidableEq

/-- The words so far: what they ask for, the value that is still open, and whether a double dash
has made files of all words that follow. -/
structure Progress where
  options : Options := {}
  pending : Pending := .nothing
  filesOnly : Bool := false
  deriving Repr, DecidableEq

namespace Progress

/-- Looks at the open value. -/
def settle (p : Progress) : Except Request Progress :=
  match p.pending with
  | .nothing => .ok p
  | .config none => .error (.mistake (.missingValue configOption))
  | .config (some value) => do
    return { p with options := ← p.options.setConfig value, pending := .nothing }
  | .file word => do
    return { p with options := ← p.options.setFile word, pending := .nothing }

/-- Whether a file was given. -/
def hasFile (p : Progress) : Bool :=
  p.options.file.isSome ||
    match p.pending with
    | .file _ => true
    | _ => false

/-- Takes the switch for scripts. -/
def takeRun (p : Progress) : Except Request Progress := do
  let p ← p.settle
  return { p with options := ← p.options.setRun }

/-- Takes the option that names a configuration file, with the value that is part of its word. -/
def takeConfig (p : Progress) (value : Option Text) : Except Request Progress := do
  let p ← p.settle
  match value with
  | some value => return { p with options := ← p.options.setConfig value }
  | none => return { p with pending := .config none }

/-- Takes a request for an answer. -/
def takeQuestion (p : Progress) (answer : Request) : Except Request Progress := do
  let _ ← p.settle
  .error answer

/-- Takes a file, of which there is at most one. -/
def takeFile (p : Progress) (word : Text) : Except Request Progress := do
  if p.hasFile then .error (.mistake (.unexpectedArgument word))
  else
    let p ← p.settle
    return { p with pending := .file word }

/-- Takes a word of short options, without its dash. -/
def takeShort (p : Progress) : Text → Except Request Progress
  | [] => .ok p
  | 'r' :: more => do (← p.takeRun).takeShort more
  | 'c' :: [] => p.takeConfig none
  | 'c' :: '=' :: value => p.takeConfig (some value)
  | 'c' :: value => p.takeConfig (some value)
  | 'h' :: _ => p.takeQuestion .help
  | 'V' :: _ => p.takeQuestion .version
  | c :: _ => .error (.mistake (.unexpectedArgument ['-', c]))

/-- Takes a long option, without its dashes. -/
def takeLong (p : Progress) (word : Text) : Except Request Progress :=
  let (name, value) : Text × Option Text :=
    match Text.splitFirst? '=' word with
    | some (name, value) => (name, some value)
    | none => (word, none)
  let shown := "--".toList ++ name
  if name = "config".toList then p.takeConfig value
  else if name = "run".toList || name = "help".toList || name = "version".toList then
    match value with
    | some value => .error (.mistake (.unexpectedValue value shown))
    | none =>
      if name = "run".toList then p.takeRun
      else p.takeQuestion (if name = "help".toList then .help else .version)
  else .error (.mistake (.unexpectedArgument shown))

/-- Takes a word that is not an option: the value that is waited for, or a file. -/
def takePlain (p : Progress) (word : Text) : Except Request Progress :=
  if p.pending = .config none then .ok { p with pending := .config (some word) }
  else p.takeFile word

/-- Takes a word. A single dash is not an option. -/
def takeWord (p : Progress) (word : Text) : Except Request Progress :=
  if p.filesOnly then p.takeFile word
  else
    match word with
    | '-' :: '-' :: [] => .ok { p with filesOnly := true }
    | '-' :: '-' :: long => p.takeLong long
    | '-' :: c :: short => p.takeShort (c :: short)
    | word => p.takePlain word

end Progress

/-- What the words ask for. -/
def options (words : List Text) : Except Request Options := do
  let p ← words.foldlM Progress.takeWord {}
  return (← p.settle).options

/-- What a command line comes to. A script to run must be named. -/
def parse (words : List Text) : Request :=
  match options words with
  | .error request => request
  | .ok o => if o.run && o.file.isNone then .mistake .missingFile else .start o

/-! ### Answers -/

/-- The program's name and version. -/
def versionText : Text :=
  "nanco 0.1.0\n".toList

/-- A line of the explanation: the short and the long form of an option, what stands for its value
and fills the column, and what it does. -/
def optionLine (short long value meaning : String) : Text :=
  "  ".toList ++ Terminal.bold short.toList ++ ", ".toList ++ Terminal.bold long.toList
    ++ value.toList ++ meaning.toList

/-- The explanation of the command line, as a terminal shows it. -/
def helpText : Text :=
  Text.ofLines
    [ "A terminal micro IDE and line interpreter for the NanCo toy scripting language.".toList,
      [],
      Terminal.heading "Usage:".toList ++ [' '] ++ Terminal.bold "nanco".toList
        ++ " [OPTIONS] [FILE]".toList,
      [],
      Terminal.heading "Arguments:".toList,
      "  [FILE]  File to edit, or to run with --run".toList,
      [],
      Terminal.heading "Options:".toList,
      optionLine "-r" "--run" "            " "Run FILE as a script instead of opening the editor",
      optionLine "-c" "--config" " <FILE>  "
        "Configuration file (default: ./nanco.toml if present)",
      optionLine "-h" "--help" "           " "Print help",
      optionLine "-V" "--version" "        " "Print version" ]

/-- The explanation as it is written where there is no terminal. -/
def plainHelpText : Text :=
  Text.plain helpText

end Scriptpad.CommandLine
