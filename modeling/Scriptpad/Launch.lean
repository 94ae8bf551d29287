import Scriptpad.CommandLine
import Scriptpad.Config.Decode
import Scriptpad.Console
import Scriptpad.Session.Run
import Scriptpad.Storage.Disk

/-!
# The program from start to exit

One run of the program on a disk: the command line is read, then the configuration, then the log is
opened, and then a script is run or a session opened. Each stage can end the program. What the
program leaves is an exit code, its output, its complaints, and the disk.

The configuration is read before there is a log, so an error in it is not logged; every later error
is both logged and complained about.
-/

namespace Scriptpad.Launch

/-- What a run of the program leaves. -/
structure Exit where
  code : Nat := 0
  output : Text := []
  complaints : Text := []
  disk : Disk

/-- The terminal that the program was started on, and all that is typed there. -/
structure Console where
  desk : Desk
  inputs : List Input

/-- The size that is assumed if the terminal does not tell its own. -/
def fallbackSize : Terminal.Size :=
  ⟨80, 24⟩

/-- Why there is no session without a terminal. -/
def noTerminal : Text :=
  "No such device or address (os error 6)".toList

/-! ### Stages -/

/-- The file that settings are read from: the one that is named, or else the default one if there
is such a file. -/
def configFile? (disk : Disk) : Option Path → Option Path
  | some path => some path
  | none => if disk.exists? Config.defaultFile then some Config.defaultFile else none

/-- The settings to run with. -/
def settings (disk : Disk) (named : Option Path) : Except Config.LoadError Config :=
  match configFile? disk named with
  | some path => Config.ofFile path (disk.readText path)
  | none => .ok {}

/-- The notices that go to the log file: only errors do. -/
def logged (notices : List Notice) : List Text :=
  (notices.filter fun n ↦ n.level = .error).map Notice.logLine

/-- The disk after notices were logged, making the log if necessary. A path without a file name
means that there is no log. -/
def log (config : Config) (notices : List Notice) (disk : Disk) : Disk :=
  match disk.appendMaking config.logFile (Text.ofLines (logged notices)) with
  | .ok disk => disk
  | .error _ => disk

/-- What is said of files that may not be run. -/
def refusal (config : Config) : Text :=
  "Can only run .".toList ++ config.scriptExtension ++ " files".toList

/-- What a stage leaves: its output, why it failed if it did, and the disk. -/
structure Stage where
  output : Text
  failure : Option Text
  disk : Disk

/-- Runs a script on the console. Afterwards the terminal's own color is restored, whether or not
the script ran to its end. -/
def scriptStage (config : Config) (path : Path) (disk : Disk) : Stage :=
  if config.mayRun path then
    let out := (Script.performFile path).perform Disk.store disk
    { output := consoleBytes out.events ++ Terminal.resetSequence
      failure :=
        match out.value with
        | .ok _ => none
        | .error fault => some fault.message
      disk := out.files }
  else { output := [], failure := some (refusal config), disk }

/-- The wording of a session's fault. -/
def sessionFailure : SessionFault → Text
  | .terminal detail => detail
  | .inputExhausted => "end of input".toList

/-- Opens a session on the console and runs it to its end. -/
def sessionOn (console : Console) (config : Config) (path : Option Path) (disk : Disk) : Stage :=
  let opened := (Session.openFile { size := console.desk.size } config path).perform Disk.store disk
  let report := opened.value.run Disk.store console.desk console.inputs opened.files
  { output := consoleBytes report.events
    failure :=
      match report.result with
      | .ok _ => none
      | .error fault => some (sessionFailure fault)
    disk := report.files }

/-- Runs a session, for which there must be a console. -/
def sessionStage (config : Config) (path : Option Path) (console : Option Console) (disk : Disk) :
    Stage :=
  match console with
  | some console => sessionOn console config path disk
  | none => { output := [], failure := some noTerminal, disk }

/-- What the program is started for. -/
def runStage (o : CommandLine.Options) (config : Config) (console : Option Console) (disk : Disk) :
    Stage :=
  match o.run, o.file with
  | true, some path => scriptStage config path disk
  | true, none => { output := [], failure := some "No file given to run".toList, disk }
  | false, path => sessionStage config path console disk

/-- The end of the program after its last stage. -/
def finish (config : Config) (stage : Stage) : Exit :=
  match stage.failure with
  | none => { output := stage.output, disk := stage.disk }
  | some message =>
    { code := 1
      output := stage.output
      complaints := "Error: ".toList ++ message ++ ['\n']
      disk := log config [.exitedWithError message] stage.disk }

/-- Runs the program with the given options. -/
def start (o : CommandLine.Options) (console : Option Console) (disk : Disk) : Exit :=
  match settings disk o.config with
  | .error e => { code := 1, complaints := e.message ++ ['\n'], disk }
  | .ok config => finish config (runStage o config console (log config [] disk))

/-- Runs the program, on a console if there is one. -/
def run (words : List Text) (console : Option Console) (disk : Disk) : Exit :=
  match CommandLine.parse words with
  | .start o => start o console disk
  | .help =>
    { output := if console.isSome then CommandLine.helpText else CommandLine.plainHelpText, disk }
  | .version => { output := CommandLine.versionText, disk }
  | .mistake e => { code := 2, complaints := e.message ++ ['\n'], disk }

end Scriptpad.Launch
