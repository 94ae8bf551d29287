import Scriptpad.Text.Basic

/-!
# The palette

The seven foreground colors of scripts and keywords. A color has one lower-case name, by which
configuration files know it, and one number in the terminal's palette of 256 colors.

Scripts name colors more freely: the case of ASCII letters does not count, only four of the seven
have a word, and any other word means gray. Main statements: `ofScriptWord_eq_of_lower` and
`ofScriptWord_mem`.
-/

namespace Scriptpad

/-- A foreground color. -/
inductive Color where
  | green
  | red
  | blue
  | white
  | gray
  | magenta
  | cyan
  deriving Repr, DecidableEq

namespace Color

/-- All colors, in the order in which messages list them. -/
def all : List Color :=
  [green, red, blue, white, gray, magenta, cyan]

/-- The name of a color. -/
def name : Color → Text
  | green => "green".toList
  | red => "red".toList
  | blue => "blue".toList
  | white => "white".toList
  | gray => "gray".toList
  | magenta => "magenta".toList
  | cyan => "cyan".toList

/-- The color with exactly this name. -/
def ofName? (t : Text) : Option Color :=
  all.find? fun c ↦ c.name == t

/-- The number of a color in the terminal's palette. -/
def paletteIndex : Color → Nat
  | green => 10
  | red => 9
  | blue => 12
  | white => 15
  | gray => 7
  | magenta => 13
  | cyan => 14

/-- The colors that have a word in scripts. -/
def scriptPalette : List Color :=
  [green, red, blue, white]

/-- The color that a script's word means: the color of that name, whatever the case of its ASCII
letters, or gray. -/
def ofScriptWord (word : Text) : Color :=
  (scriptPalette.find? fun c ↦ c.name == Text.asciiLower word).getD gray

theorem ofName?_name (c : Color) : ofName? c.name = some c := by
  cases c <;> decide

/-- The case of ASCII letters does not change the color of a word. -/
theorem ofScriptWord_eq_of_lower {s t : Text} (h : Text.asciiLower s = Text.asciiLower t) :
    ofScriptWord s = ofScriptWord t := by
  simp only [ofScriptWord, h]

/-- A script names no magenta and no cyan. -/
theorem ofScriptWord_mem (word : Text) : ofScriptWord word ∈ [green, red, blue, white, gray] := by
  unfold ofScriptWord
  cases h : scriptPalette.find? fun c ↦ c.name == Text.asciiLower word with
  | none => simp
  | some c =>
    have := List.mem_of_find?_eq_some h
    simp only [scriptPalette, List.mem_cons, List.not_mem_nil, or_false] at this
    rcases this with rfl | rfl | rfl | rfl <;> simp

end Color

end Scriptpad
