import Scriptpad.Highlight
import Scriptpad.Path

/-!
# Configuration

What a user can set: which files may be run as scripts, which are shown with highlighted keywords,
where the log goes, and the colors of further keywords. Every setting has a default.

Configured colors lie over the standard ones. A file whose extension asks for no highlighting is
shown with the empty table; a document without a name is shown like a script.

Main statement: `find?_colors`, a configured color wins over a standard one.
-/

namespace Scriptpad

/-- The settings. -/
structure Config where
  scriptExtension : Text := "ns".toList
  highlightExtensions : List Text := ["ns".toList, "nsp".toList]
  logFile : Path := "nanco.log".toList
  keywords : Dictionary Color := ∅
  deriving Repr, DecidableEq

namespace Config

/-- The file that settings are read from when none is named. -/
def defaultFile : Path :=
  "nanco.toml".toList

/-- The standard keywords under the configured ones. -/
def colors (c : Config) : WordColors :=
  WordColors.standard.insertAll c.keywords.entries

/-- The keywords to show a document with, by its path if it has one. -/
def colorsFor (c : Config) : Option Path → WordColors
  | some path => if Path.hasExtensionIn path c.highlightExtensions then c.colors else ∅
  | none => c.colors

/-- Whether a file may be run as a script. -/
def mayRun (c : Config) (path : Path) : Bool :=
  Path.hasExtensionIn path [c.scriptExtension]

/-- The same settings, whatever the order in which keywords were configured and in whatever way the
path of the log is written. -/
def sameSettings (c d : Config) : Bool :=
  c.scriptExtension == d.scriptExtension && c.highlightExtensions == d.highlightExtensions
    && Path.sameRoute c.logFile d.logFile && c.keywords.sorted == d.keywords.sorted

/-- A configured color wins over a standard one. -/
theorem find?_colors (c : Config) (word : Text) :
    c.colors.find? word =
      ((Dictionary.ofList c.keywords.entries).find? word).or (WordColors.standard.find? word) :=
  Dictionary.find?_insertAll _ _ _

end Config

end Scriptpad
