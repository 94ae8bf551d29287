import Scriptpad.Document.Basic
import Scriptpad.Dictionary
import Scriptpad.Palette
import Scriptpad.Text.Blank

/-!
# Highlighting

A line is shown as its words, each in the color that a table has for exactly this word, or plain.
Quotes and comments are words like others. Since only the words count, the blanks between them are
lost: tokens are shown with one space between each two.

Main statements: `text_mem_words` (a token is a word of the line, in the color that the table has
for it) and `map_text_ofLine` (no word is left out, and none is added).
-/

namespace Scriptpad

/-! ### Tables of colors -/

/-- The color of each word that has one. -/
abbrev WordColors := Dictionary Color

namespace WordColors

/-- The words that have a color in every script. -/
def standardEntries : List (Text × Color) :=
  [ ("func".toList, .blue), ("var".toList, .blue), ("const".toList, .blue),
    ("if".toList, .magenta), ("else".toList, .magenta), ("loop".toList, .magenta),
    ("break".toList, .magenta), ("return".toList, .magenta),
    ("terminal".toList, .cyan), ("screen".toList, .cyan), ("audio".toList, .cyan),
    ("input".toList, .cyan),
    ("int".toList, .green), ("float".toList, .green), ("string".toList, .green),
    ("bool".toList, .green), ("array".toList, .green) ]

/-- The table of the words that have a color in every script. -/
def standard : WordColors :=
  .ofList standardEntries

/-- No two of these words are the same. -/
theorem size_standard : standard.size = standardEntries.length := by
  decide

end WordColors

/-! ### Tokens -/

/-- A word of a line, with its color if it has one. -/
structure Token where
  text : Text
  color : Option Color
  deriving Repr, DecidableEq

namespace Token

/-- The words of a line with their colors. -/
def ofLine (table : WordColors) (line : Text) : List Token :=
  (Text.words line).map fun word ↦ ⟨word, table.find? word⟩

/-- The tokens as a line, with one space between each two. -/
def spaced (tokens : List Token) : Text :=
  Text.joinWith [' '] (tokens.map (·.text))

theorem text_mem_words {table : WordColors} {line : Text} {token : Token}
    (h : token ∈ ofLine table line) :
    token.text ∈ Text.words line ∧ token.color = table.find? token.text := by
  obtain ⟨word, hword, rfl⟩ := List.mem_map.1 h
  exact ⟨hword, rfl⟩

@[simp] theorem map_text_ofLine (table : WordColors) (line : Text) :
    (ofLine table line).map (·.text) = Text.words line := by
  rw [ofLine, List.map_map]
  exact List.map_id _

end Token

/-- The lines in a document's window as tokens, each line with its number. -/
def Document.visibleTokens (doc : Document) (table : WordColors) : List (Nat × List Token) :=
  doc.visibleLines.map fun (index, line) ↦ (index, Token.ofLine table line)

end Scriptpad
