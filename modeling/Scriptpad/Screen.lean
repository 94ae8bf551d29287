import Scriptpad.Highlight
import Scriptpad.Terminal

/-!
# The screen

How a session looks: three rows of header, the lines in the window behind a gutter of line numbers,
and a message at the bottom. The screen is painted as a list of requests to the terminal.

Every row is painted from its first column with a budget of as many characters as the screen is
wide; what is beyond the budget is not written. A text row shows the line's indentation as it is
and its words with one space between each two. There is always one row for text, even on a screen
that is too low for it.
-/

namespace Scriptpad

open Terminal (Request Size)

/-- The rows above the text. -/
def rowsAbove : Nat := 3

/-- The rows below the text. -/
def rowsBelow : Nat := 1

/-- The columns before the text. -/
def gutterColumns : Nat := 7

/-- The keys that the header explains. -/
def keyReminder : Text :=
  "Ctrl+S: Save | Ctrl+R: Run | Ctrl+Q: Quit".toList

/-- The size that is painted for, and the message on the last row. -/
structure Screen where
  size : Size
  message : Option Text := none
  deriving Repr, DecidableEq

namespace Screen

/-- The number of columns. -/
def width (s : Screen) : Nat :=
  s.size.width.toNat

/-- The number of rows for text, at least one. -/
def textRows (s : Screen) : Nat :=
  max (s.size.height.toNat - (rowsAbove + rowsBelow)) 1

theorem one_le_textRows (s : Screen) : 1 ≤ s.textRows :=
  Nat.le_max_right _ 1

/-- The row of the message. -/
def bottomRow (s : Screen) : Nat :=
  s.size.height.toNat - 1

/-- The screen at another size. -/
def resize (s : Screen) (size : Size) : Screen :=
  { s with size }

/-- The screen with a message. -/
def withMessage (s : Screen) (message : Text) : Screen :=
  { s with message := some message }

/-- The screen without a message. -/
def withoutMessage (s : Screen) : Screen :=
  { s with message := none }

/-! ### Painting -/

/-- Moves the cursor to a column and a row. -/
def goTo (column row : Nat) : Request :=
  .moveTo (.ofNat column) (.ofNat row)

/-- Writes as much of a text as the budget allows. -/
def clip (budget : Nat) (t : Text) : Request :=
  .write (t.take budget)

/-- Paints a token in its color. -/
def paintToken (budget : Nat) (token : Token) : List Request :=
  match token.color with
  | some color => [.color color, clip budget token.text, .defaultColor]
  | none => [clip budget token.text]

/-- Paints tokens that follow an earlier one, each after a space, until the budget is used up. -/
def paintFurther : Nat → List Token → List Request
  | _, [] => []
  | 0, _ :: _ => []
  | budget + 1, token :: more =>
    clip (budget + 1) [' '] :: paintToken budget token
      ++ paintFurther (budget - token.text.length) more

/-- Paints the tokens of a line. -/
def paintTokens : Nat → List Token → List Request
  | _, [] => []
  | 0, _ :: _ => []
  | budget + 1, token :: more =>
    paintToken (budget + 1) token ++ paintFurther (budget + 1 - token.text.length) more

/-- The gutter before a line: its number, counted from one, and a rule. -/
def gutter (index : Nat) : Text :=
  Text.alignRight 4 (Decimal.digits (index + 1)) ++ " │ ".toList

/-- Paints the row of a line. -/
def paintLine (width index : Nat) (line : Text) (tokens : List Token) : List Request :=
  let budget := width - (gutter index).length
  let indent := Text.leadingSpaces line
  let indented := if 0 < indent then [clip budget (Text.spaces indent)] else []
  clip width (gutter index) :: indented ++ paintTokens (budget - indent) tokens

/-- Paints the rows above the text. -/
def paintTop (s : Screen) (title : Text) : List Request :=
  [ goTo 0 0, clip s.width ("NanCo IDE - ".toList ++ title),
    goTo 0 1, clip s.width keyReminder,
    goTo 0 2, clip s.width (List.replicate s.width '─') ]

/-- Paints the lines in the window, from the row `row` on. -/
def paintLines (s : Screen) (doc : Document) : Nat → List (Nat × List Token) → List Request
  | _, [] => []
  | row, (index, tokens) :: more =>
    goTo 0 row :: paintLine s.width index (doc.line index) tokens ++ s.paintLines doc (row + 1) more

/-- Paints a text on the message row. -/
def paintMessage (s : Screen) (message : Text) : List Request :=
  [goTo 0 s.bottomRow, .clearToEnd, clip s.width message]

/-- Where the cursor is left after painting. -/
def parkingPlace (s : Screen) (doc : Document) : Nat × Nat :=
  (min (gutterColumns + doc.cursor.column) (s.width - 1),
    (doc.window.row? doc.cursor.line).getD 0 + rowsAbove)

/-- Paints the whole screen and leaves the cursor where it is in the text. -/
def paint (s : Screen) (doc : Document) (title : Text) (table : WordColors) : List Request :=
  [.defaultColor, .clear]
    ++ s.paintTop title
    ++ s.paintLines doc rowsAbove (doc.visibleTokens table)
    ++ (match s.message with
        | some message => s.paintMessage message
        | none => [])
    ++ [goTo (s.parkingPlace doc).1 (s.parkingPlace doc).2, .flush]

/-- Paints a question and what has been typed as its answer on the message row. -/
def paintPrompt (s : Screen) (question answer : Text) : List Request :=
  s.paintMessage (question ++ answer) ++ [.flush]

end Screen

end Scriptpad
