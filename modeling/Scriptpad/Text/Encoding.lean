import Scriptpad.Text.Basic

/-!
# The bytes of a text

Texts are stored as UTF-8. Every text can be written, and not every sequence of bytes is a text.

Main statements: `decode?_encode`, a text is read back from its bytes, and `size_encode`, the bytes
are as many as the characters take.
-/

namespace Scriptpad.Text

/-- The bytes of a text. -/
def encode (t : Text) : ByteArray :=
  (String.ofList t).toByteArray

/-- The text of which these are the bytes. -/
def decode? (bytes : ByteArray) : Option Text :=
  bytes.utf8Decode?.map Array.toList

/-- The number of bytes that a text takes. -/
def byteCount : Text → Nat
  | [] => 0
  | c :: rest => c.utf8Size + byteCount rest

/-! ### Laws -/

/-- A text is read back from its bytes. -/
theorem decode?_encode (t : Text) : decode? (encode t) = some t := by
  simp [decode?, encode, List.utf8Decode?_utf8Encode]

theorem encode_append (s t : Text) : encode (s ++ t) = encode s ++ encode t := by
  simp [encode]

@[simp] theorem byteCount_nil : byteCount [] = 0 := rfl

@[simp] theorem byteCount_cons (c : Char) (t : Text) :
    byteCount (c :: t) = c.utf8Size + byteCount t := rfl

/-- A text has as many bytes as its characters take. -/
theorem size_encode (t : Text) : (encode t).size = byteCount t := by
  induction t with
  | nil => simp [encode]
  | cons c t ih =>
    have happend : encode (c :: t) = encode [c] ++ encode t := encode_append [c] t
    have hsingle : (encode [c]).size = c.utf8Size := by
      rw [encode, String.toByteArray_ofList, List.utf8Encode_singleton, List.size_toByteArray,
        String.length_utf8EncodeChar]
    rw [happend, ByteArray.size_append, hsingle, ih, byteCount_cons]

end Scriptpad.Text
