import Scriptpad.Decimal.Shortest
import Scriptpad.Dictionary

/-!
# Script values

A declaration binds a name to a value that its literal writes. There is no syntax error among
literals: what is neither a number nor a quoted text nor a truth value is the text itself. The
readings are tried in a fixed order, so that an integer beyond 64 bits is a floating-point value
and a quoted number is a text.

Words such as `inf` and `NaN` are texts, because a number has at least one digit.
-/

namespace Scriptpad.Script

/-- The value of a variable. -/
inductive Value where
  | integer (n : Int)
  | float (x : Binary64)
  | text (t : Text)
  | truth (b : Bool)
  deriving Repr, DecidableEq

namespace Value

/-- The integer that a literal writes, if it fits in 64 bits. -/
def integerLiteral? (t : Text) : Option Value :=
  match Decimal.integer? t with
  | some n => if Decimal.IsWord n then some (.integer n) else none
  | none => none

/-- The floating-point value that a literal writes. -/
def floatLiteral? (t : Text) : Option Value :=
  (Decimal.numeral? t).map fun x ↦ .float (.ofNumeral x)

/-- The truth value that a literal writes. -/
def truthLiteral? (t : Text) : Option Value :=
  if t = "true".toList then some (.truth true)
  else if t = "false".toList then some (.truth false)
  else none

/-- The value of a literal: an integer, else a floating-point value, else the text between quotes,
else a truth value, else the literal itself as a text. -/
def ofLiteral (t : Text) : Value :=
  (integerLiteral? t
    <|> floatLiteral? t
    <|> (Text.unquote? t).map Value.text
    <|> truthLiteral? t).getD (.text t)

/-- The name of a value's type. -/
def typeWord : Value → Text
  | .integer _ => "int".toList
  | .float _ => "float".toList
  | .text _ => "string".toList
  | .truth _ => "bool".toList

/-- The text that shows a value. -/
def shown : Value → Text
  | .integer n => Decimal.render n
  | .float x => x.text
  | .text t => t
  | .truth true => "true".toList
  | .truth false => "false".toList

/-- An integer of 64 bits reads back from its text. -/
theorem ofLiteral_shown_integer {n : Int} (h : Decimal.IsWord n) :
    ofLiteral (shown (.integer n)) = .integer n := by
  simp [ofLiteral, shown, integerLiteral?, Decimal.integer?_render, h]

/-- No literal is read as "not a number". -/
theorem ofLiteral_ne_notANumber (t : Text) : ofLiteral t ≠ .float .notANumber := by
  have hinteger : integerLiteral? t ≠ some (.float .notANumber) := by
    unfold integerLiteral?
    split
    · split <;> simp
    · simp
  have hfloat : floatLiteral? t ≠ some (.float .notANumber) := by
    simp [floatLiteral?, Binary64.ofNumeral_ne_notANumber]
  have htruth : truthLiteral? t ≠ some (.float .notANumber) := by
    unfold truthLiteral?
    split
    · simp
    · split <;> simp
  unfold ofLiteral
  cases h₁ : integerLiteral? t with
  | some v => simpa [h₁] using hinteger
  | none =>
    cases h₂ : floatLiteral? t with
    | some v => simpa [h₂] using hfloat
    | none =>
      cases Text.unquote? t with
      | some inner => simp
      | none =>
        cases h₄ : truthLiteral? t with
        | some v => simpa [h₄] using htruth
        | none => simp

end Value

/-! ### Bindings -/

/-- The variables of one run. -/
abbrev Bindings := Dictionary Value

/-- One binding as the log shows it. -/
def bindingText (name : Text) (value : Value) : Text :=
  name ++ ": ".toList ++ value.typeWord ++ " = ".toList ++ value.shown

/-- All bindings as the log shows them, in the order of their texts. -/
def Bindings.summary (env : Bindings) : Text :=
  Text.joinWith ", ".toList (Text.sort (env.entries.map fun (name, value) ↦ bindingText name value))

end Scriptpad.Script
