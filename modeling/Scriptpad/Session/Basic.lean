import Scriptpad.Document.File
import Scriptpad.Config.Basic
import Scriptpad.Screen

/-!
# Sessions

A session is one document under edit on a screen, together with the settings, the path that the
document is saved to, if it has one yet, and the colors of words that go with this path.

`Coherent` says how these parts fit together: the window is as high as the screen has rows for
text, and the colors are those that the settings give for the path.
-/

namespace Scriptpad

/-- A document under edit on a screen. -/
structure Session where
  document : Document
  screen : Screen
  config : Config
  path : Option Path
  colors : WordColors
  running : Bool
  deriving Repr, DecidableEq

namespace Session

/-- The parts of a session fit together. -/
structure Coherent (s : Session) : Prop where
  height : s.document.window.height = s.screen.textRows
  colors : s.colors = s.config.colorsFor s.path

/-- Makes the window as high as the screen has rows for text. -/
def adjustWindow (s : Session) : Session :=
  { s with document := s.document.resizeWindow s.screen.textRows }

/-- Takes over the size of the terminal. -/
def adoptSize (s : Session) (size : Terminal.Size) : Session :=
  { s with screen := s.screen.resize size }.adjustWindow

/-- Binds the session to a path. -/
def bindPath (s : Session) (path : Path) : Session :=
  { s with path := some path, colors := s.config.colorsFor (some path) }

/-- Shows a message until the next key. -/
def withMessage (s : Session) (message : Text) : Session :=
  { s with screen := s.screen.withMessage message }

/-- Takes the message away. -/
def withoutMessage (s : Session) : Session :=
  { s with screen := s.screen.withoutMessage }

/-- What the header calls the document. -/
def title (s : Session) : Text :=
  s.path.getD "New File".toList

/-- A session on a given document. -/
def start (document : Document) (screen : Screen) (config : Config) (path : Option Path) :
    Session :=
  adjustWindow
    { document, screen, config, path, colors := config.colorsFor path, running := true }

/-- What is said of a file that could not be loaded. A missing one is a new document. -/
def openingMessage (path : Path) (e : FileError) : Text :=
  if e.cause.kind = .notFound then "New file: ".toList ++ path else e.message

/-- A session on a file, or on an empty document without a path. -/
def openFile (screen : Screen) (config : Config) : Option Path → Effect Session
  | none => return start .empty screen config none
  | some path => do
    match ← Document.empty.load path with
    | (document, .ok _) => return start document screen config (some path)
    | (document, .error e) =>
      return (start document screen config (some path)).withMessage (openingMessage path e)

/-- The requests that paint the session. -/
def paint (s : Session) : List Terminal.Request :=
  s.screen.paint s.document s.title s.colors

/-! ### Laws -/

theorem height_adjustWindow (s : Session) :
    s.adjustWindow.document.window.height = s.adjustWindow.screen.textRows := by
  simp only [adjustWindow, Document.resizeWindow, Window.height_resize, Screen.textRows]
  omega

theorem coherent_start (document : Document) (screen : Screen) (config : Config)
    (path : Option Path) :
    (start document screen config path).Coherent where
  height := height_adjustWindow _
  colors := rfl

theorem coherent_adoptSize {s : Session} (h : s.Coherent) (size : Terminal.Size) :
    (s.adoptSize size).Coherent where
  height := height_adjustWindow _
  colors := h.colors

theorem coherent_bindPath {s : Session} (h : s.Coherent) (path : Path) :
    (s.bindPath path).Coherent where
  height := h.height
  colors := rfl

end Session

end Scriptpad
