import Scriptpad.Text.Basic

/-!
# The order of texts

Texts are ordered character by character, by code point. Because UTF-8 keeps the order of code
points, this is also the order of the encoded bytes.
-/

namespace Scriptpad.Text

/-- Whether the first text comes no later than the second. -/
def le : Text → Text → Bool
  | [], _ => true
  | _ :: _, [] => false
  | c :: s, d :: t => c.toNat < d.toNat || (c == d && le s t)

/-- The texts in their order, equal ones side by side. -/
def sort (ts : List Text) : List Text :=
  ts.mergeSort le

theorem sort_perm (ts : List Text) : (sort ts).Perm ts :=
  List.mergeSort_perm ts le

end Scriptpad.Text
