import Scriptpad.Decimal.Numeral
import Scriptpad.Palette

/-!
# The terminal

What can be asked of a terminal: to move its cursor, to write, to clear, to choose a color, to ring
its bell, and to pass on what has been written. Columns, rows and sizes are numbers of 16 bits, as
terminals have them, and count from zero.

`Request.bytes` says by which control sequence each request is made.
-/

namespace Scriptpad.Terminal

/-- The number of columns and rows. -/
structure Size where
  width : UInt16
  height : UInt16
  deriving Repr, DecidableEq

/-- Something that a terminal is asked to do. -/
inductive Request where
  | moveTo (column row : UInt16)
  | write (t : Text)
  | clearToEnd
  | clear
  | color (c : Color)
  | defaultColor
  | beep
  | flush
  deriving Repr, DecidableEq

/-- A control sequence: escape, an opening bracket, and the given characters. -/
def control (t : Text) : Text :=
  '\x1b' :: '[' :: t

/-- Move the cursor. Sequences count rows and columns from one, and name the row first. -/
def moveSequence (column row : UInt16) : Text :=
  control (Decimal.digits (row.toNat + 1) ++ ';' :: Decimal.digits (column.toNat + 1) ++ ['H'])

/-- Choose the color of the text that follows. -/
def colorSequence (color : Color) : Text :=
  control ("38;5;".toList ++ Decimal.digits color.paletteIndex ++ ['m'])

/-- Return to the terminal's own color. -/
def resetSequence : Text :=
  control "0m".toList

/-- Clear the whole screen. -/
def clearSequence : Text :=
  control "2J".toList

/-- The terminal's bell. -/
def bell : Text :=
  ['\x07']

/-- Change to the alternate screen, which a session draws on. -/
def enterSequence : Text :=
  control "?1049h".toList

/-- Leave the alternate screen, in the terminal's own color and with a visible cursor. -/
def leaveSequence : Text :=
  resetSequence ++ control "?1049l".toList ++ control "?25h".toList

/-- A text in bold, after which the terminal's own style is restored. -/
def bold (t : Text) : Text :=
  control "1m".toList ++ t ++ resetSequence

/-- A text in bold and underlined, after which the terminal's own style is restored. -/
def heading (t : Text) : Text :=
  control "1m".toList ++ control "4m".toList ++ t ++ resetSequence

/-- What is sent to the terminal for a request. -/
def Request.bytes : Request → Text
  | .moveTo column row => moveSequence column row
  | .write t => t
  | .clearToEnd => control ['K']
  | .clear => clearSequence
  | .color c => colorSequence c
  | .defaultColor => resetSequence
  | .beep => bell
  | .flush => []

end Scriptpad.Terminal
