import Scriptpad.Text.Encoding

/-!
# Byte offsets

Columns count characters, and a stored text is cut between bytes. The byte offset of a column is
where its character begins, or where the text ends if it has no character in that column.

Main statement: `byteOffset_eq` (the offset counts the bytes of the characters before the column).
-/

namespace Scriptpad.Text

/-- Where each character of a text begins, if the text begins at the byte `start`. -/
def charStarts (start : Nat) : Text → List Nat
  | [] => []
  | c :: rest => start :: charStarts (start + c.utf8Size) rest

/-- The byte at which the character in a column begins, or the number of bytes if there is none. -/
def byteOffset (column : Nat) (t : Text) : Nat :=
  (charStarts 0 t)[column]?.getD (byteCount t)

/-! ### Laws -/

theorem getD_charStarts (column start : Nat) (t : Text) :
    (charStarts start t)[column]?.getD (start + byteCount t) =
      start + byteCount (t.take column) := by
  induction t generalizing column start with
  | nil => simp [charStarts]
  | cons c rest ih =>
    cases column with
    | zero => simp [charStarts]
    | succ column =>
      simp only [charStarts, List.getElem?_cons_succ, byteCount_cons, List.take_succ_cons]
      rw [← Nat.add_assoc, ih, Nat.add_assoc]

/-- The offset of a column is the number of bytes of the characters before it. -/
theorem byteOffset_eq (column : Nat) (t : Text) :
    byteOffset column t = byteCount (t.take column) := by
  simpa [byteOffset] using getD_charStarts column 0 t

end Scriptpad.Text
