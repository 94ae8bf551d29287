import Scriptpad.Palette
import Scriptpad.Script.Value
import Scriptpad.Text.Blank

/-!
# Statements

A line of a script is one statement. The blanks around a line do not count; what the line does is
then decided by the word it begins with, by a fixed list of rules of which the first that applies
is followed. A rule applies to a line by its beginning alone and then decides it, be it with an
error; a line to which no rule applies does nothing.

Since a beginning is matched as text and not as a word, `printer` is a `print` with the text `er`.
-/

namespace Scriptpad.Script

/-- What a line of a script does. -/
inductive Statement where
  | nothing
  | print (t : Text)
  | assign (name : Text) (value : Value)
  | clear
  | color (c : Color)
  | beep
  | play (resource : Text)
  deriving Repr, DecidableEq

/-- The devices that a script addresses by name. -/
inductive Device where
  | terminal
  | audio
  deriving Repr, DecidableEq

/-- The name of a device. -/
def Device.name : Device → Text
  | .terminal => "terminal".toList
  | .audio => "audio".toList

/-- A device does not know the command it was given. -/
structure UnknownCommand where
  device : Device
  command : Text
  deriving Repr, DecidableEq

/-- The wording of an unknown command. -/
def UnknownCommand.message (e : UnknownCommand) : Text :=
  "Unknown ".toList ++ e.device.name ++ " command: ".toList ++ e.command

/-- What a line decided by a rule is. -/
abbrev Reading := Except UnknownCommand Statement

/-- A rule either leaves a trimmed line to later rules or decides it. -/
abbrev Rule := Text → Option Reading

/-! ### The rules -/

/-- Empty lines and comments do nothing. -/
def Rule.skip : Rule := fun line ↦
  if line = [] || (Text.dropStart? "//".toList line).isSome then some (.ok .nothing) else none

/-- `print` shows the rest of the line, less one pair of quotes. -/
def Rule.print : Rule := fun line ↦
  (Text.dropStart? "print".toList line).map fun rest ↦
    .ok (.print (Text.unquote (Text.trim rest)))

/-- `var` binds the name before the first equals sign to the value of the literal after it. Without
an equals sign it does nothing. -/
def Rule.assign : Rule := fun line ↦
  (Text.dropStart? "var".toList line).map fun rest ↦
    match Text.splitFirst? '=' rest with
    | some (name, literal) =>
      .ok (.assign (Text.trim name) (Value.ofLiteral (Text.trim literal)))
    | none => .ok .nothing

/-- A command to the terminal. -/
def terminalCommand (command : Text) : Reading :=
  if command = "clear".toList then .ok .clear
  else match Text.dropStart? "color".toList command with
    | some word => .ok (.color (.ofScriptWord (Text.trim word)))
    | none => .error ⟨.terminal, command⟩

/-- `terminal.` gives the terminal a command. -/
def Rule.terminal : Rule := fun line ↦
  (Text.dropStart? "terminal.".toList line).map fun rest ↦ terminalCommand (Text.trim rest)

/-- A command to the loudspeaker. -/
def audioCommand (command : Text) : Reading :=
  if command = "beep".toList then .ok .beep
  else match Text.dropStart? "play".toList command with
    | some resource => .ok (.play (Text.unquote (Text.trim resource)))
    | none => .error ⟨.audio, command⟩

/-- `audio.` gives the loudspeaker a command. -/
def Rule.audio : Rule := fun line ↦
  (Text.dropStart? "audio.".toList line).map fun rest ↦ audioCommand (Text.trim rest)

/-- The rules in the order in which they are tried. -/
def rules : List Rule :=
  [Rule.skip, Rule.print, Rule.assign, Rule.terminal, Rule.audio]

/-- What a line of a script does. -/
def Statement.ofLine (line : Text) : Reading :=
  (rules.findSome? fun rule ↦ rule (Text.trim line)).getD (.ok .nothing)

/-- Only the trimmed line counts. -/
theorem Statement.ofLine_congr {s t : Text} (h : Text.trim s = Text.trim t) :
    ofLine s = ofLine t := by
  simp only [ofLine, h]

end Scriptpad.Script
