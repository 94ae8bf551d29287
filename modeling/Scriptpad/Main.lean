import Scriptpad.Launch
import Scriptpad.Typed

/-!
# The program

The program on a real disk and a real terminal. Everything that is decided is decided by the rest
of the library; here effects are carried out as they come, and typed bytes are handed on as keys.

The terminal is expected in raw mode. Its size is taken from the environment.
-/

namespace Scriptpad.Program

/-- The library's view of a failure of the operating system. -/
def failure (e : IO.Error) : Failure :=
  match e with
  | .noFileOrDirectory .. => Disk.notFound
  | .permissionDenied .. => ⟨.permissionDenied, "Permission denied (os error 13)".toList⟩
  | .inappropriateType _ 20 _ => Disk.notADirectory
  | .inappropriateType _ 21 _ => Disk.isADirectory
  | e => ⟨.other, e.toString.toList⟩

/-- Shows a text on the terminal at once. -/
def display (t : Text) : IO Unit := do
  let out ← IO.getStdout
  out.putStr (String.ofList t)
  out.flush

/-- Reads the text of a file. -/
def readText (path : Path) : IO (Except Failure Text) := do
  try
    let bytes ← IO.FS.readBinFile (String.ofList path)
    match Text.decode? bytes with
    | some t => return .ok t
    | none => return .error Disk.notText
  catch e => return .error (failure e)

/-- Writes the text of a file. -/
def writeText (path : Path) (t : Text) : IO (Except Failure Unit) := do
  try
    IO.FS.writeBinFile (String.ofList path) (Text.encode t)
    return .ok ()
  catch e => return .error (failure e)

/-- Carries out an effect on the disk and the terminal. -/
def perform {α : Type} : Effect α → IO α
  | .done a => return a
  | .emit event rest => do
    display event.bytes
    perform rest
  | .read path next => do
    let answer ← readText path
    perform (next (answer.map Text.lines))
  | .write path lines next => do
    let answer ← writeText path (Text.ofLines lines)
    perform (next answer)

/-- Adds lines to the log, making it if necessary. -/
def log (config : Config) (notices : List Notice) : IO Unit := do
  match Path.fileName? config.logFile with
  | none => return
  | some _ =>
    try
      let names := Path.directoryNames config.logFile
      let start := if Path.isAbsolute config.logFile then ['/'] else []
      if names ≠ [] then
        IO.FS.createDirAll (String.ofList (start ++ Text.joinWith ['/'] names))
      let handle ← IO.FS.Handle.mk (String.ofList config.logFile) .append
      handle.putStr (String.ofList (Text.ofLines (Launch.logged notices)))
    catch _ => return

/-- The settings to run with. -/
def settings (named : Option Path) : IO (Except Config.LoadError Config) := do
  let path := named.getD Config.defaultFile
  let answer ← readText path
  match named, answer with
  | none, .error cause =>
    if cause.kind = .notFound then return .ok {} else return Config.ofFile path answer
  | _, _ => return Config.ofFile path answer

/-- The size of the terminal. -/
def terminalSize : IO Terminal.Size := do
  let number (name : String) (fallback : UInt16) : IO UInt16 := do
    match (← IO.getEnv name).bind fun s ↦ Decimal.natural? s.toList with
    | some n => return .ofNat n
    | none => return fallback
  return ⟨← number "COLUMNS" Launch.fallbackSize.width, ← number "LINES" Launch.fallbackSize.height⟩

/-- Runs a script, and gives the reason if it fails. -/
def runFile (config : Config) (path : Path) : IO (Option Text) := do
  if config.mayRun path then
    let result ← perform (Script.performFile path)
    display Terminal.resetSequence
    match result with
    | .ok _ => return none
    | .error fault => return some fault.message
  else return some (Launch.refusal config)

/-- Takes the inputs of one chunk of typed keys. -/
def takeInputs (d : Dialogue) : List Key → IO Dialogue
  | [] => return d
  | k :: more => do
    if Session.isOver d then return d
    display (consoleBytes (d.shows.map .terminal))
    takeInputs (← perform (d.receive (.key k))) more

/-- The most bytes that are taken from the keyboard at once. -/
def chunkSize : USize :=
  1024

/-- Shows and takes keys in turn until the session is over; false if there are no more keys. The
text holds the characters that have come and do not make a key yet. -/
partial def converse (d : Dialogue) (held : Text) : IO Bool := do
  if Session.isOver d then return true
  display (consoleBytes (d.shows.map .terminal))
  let bytes ← (← IO.getStdin).read chunkSize
  if bytes.isEmpty then return false
  let more := bytes.usize == chunkSize
  let (keys, held) := Typed.read more held ((Text.decode? bytes).getD [])
  match keys with
  | [] => converse d held
  | k :: more => converse (← takeInputs (← perform (d.receive (.key k))) more) held

/-- Runs a session, and gives the reason if it fails. -/
def runSession (config : Config) (path : Option Path) : IO (Option Text) := do
  let size ← terminalSize
  let opened ← perform (Session.openFile { size } config path)
  display Terminal.enterSequence
  let finished ← converse ⟨opened, .command, size⟩ []
  display Terminal.leaveSequence
  return if finished then none else some (Launch.sessionFailure .inputExhausted)

/-- Runs the program with the given options. -/
def start (o : CommandLine.Options) : IO UInt32 := do
  match ← settings o.config with
  | .error e =>
    IO.eprintln (String.ofList e.message)
    return 1
  | .ok config =>
    log config []
    let reason ←
      match o.run, o.file with
      | true, some path => runFile config path
      | _, path => runSession config path
    match reason with
    | none => return 0
    | some message =>
      log config [.exitedWithError message]
      IO.eprintln ("Error: " ++ String.ofList message)
      return 1

end Scriptpad.Program

/-- Runs the program on the words of its command line. -/
def main (words : List String) : IO UInt32 := do
  match Scriptpad.CommandLine.parse (words.map String.toList) with
  | .start o => Scriptpad.Program.start o
  | .help =>
    let out ← IO.getStdout
    IO.print (String.ofList (if ← out.isTty then Scriptpad.CommandLine.helpText
      else Scriptpad.CommandLine.plainHelpText))
    return 0
  | .version =>
    IO.print (String.ofList Scriptpad.CommandLine.versionText)
    return 0
  | .mistake e =>
    IO.eprintln (String.ofList e.message)
    return 2
