import Mathlib.Data.List.InsertIdx
import Scriptpad.Proofs.Document.History
import Scriptpad.Proofs.Text.Boundaries

/-!
# Documents stored as bytes

The lines of a document are lists of characters here, and its operations are total. An editor that
stores lines as bytes has neither: it computes an offset for every column, and a cut within a
character, a line that does not exist or a number below zero stop it. This module carries the
operations out in that way. Each is **partial on purpose**, and gives no result where such an editor
stops.

On a document that can arise none of them stops, and the result is the stored form of what the
operation on characters gives. Two facts carry this. Offsets come from columns, so all cuts are at
boundaries (`Bytes.isBoundary_offset`); and by `WellFormed` the cursor is on a line that exists and
the window has a line, so that nothing is taken from zero.
-/

namespace Scriptpad

/-- The difference of two numbers, unless it is below zero. -/
def sub? (m n : Nat) : Option Nat :=
  if n ≤ m then some (m - n) else none

theorem sub?_of_le {m n : Nat} (h : n ≤ m) : sub? m n = some (m - n) :=
  if_pos h

/-! ### Windows -/

namespace Window

/-- The last line shown. -/
def bottom? (w : Window) : Option Nat :=
  sub? (w.offset + w.height) 1

/-- The window, moved by one line towards a line outside of it. -/
def follow? (w : Window) (line : Nat) : Option Window := do
  if line < w.offset then
    return { w with offset := ← sub? w.offset 1 }
  else if (← w.bottom?) < line then
    return { w with offset := w.offset + 1 }
  else
    return w

/-- The window, moved by as little as makes it show a line. -/
def reveal? (w : Window) (line : Nat) : Option Window := do
  if line < w.offset then
    return { w with offset := line }
  else if (← w.bottom?) < line then
    return { w with offset := ← sub? (line + 1) w.height }
  else
    return w

/-- The window with another height, moved by as little as makes it show a line. -/
def resize? (w : Window) (height line : Nat) : Option Window :=
  { w with height := max height 1 }.reveal? line

variable {w : Window}

theorem bottom?_eq (hw : w.WellFormed) : w.bottom? = some w.bottom :=
  sub?_of_le (Nat.le_trans hw (Nat.le_add_left _ _))

theorem follow?_eq (hw : w.WellFormed) (line : Nat) : w.follow? line = some (w.follow line) := by
  rw [follow?, follow]
  by_cases habove : line < w.offset
  · rw [if_pos habove, if_pos habove, sub?_of_le (by omega)]
    rfl
  · rw [if_neg habove, if_neg habove, bottom?_eq hw]
    show (if w.bottom < line then _ else _) = _
    split <;> rfl

theorem reveal?_eq (hw : w.WellFormed) (line : Nat) : w.reveal? line = some (w.reveal line) := by
  rw [reveal?, reveal]
  by_cases habove : line < w.offset
  · rw [if_pos habove, if_pos habove]
    rfl
  · rw [if_neg habove, if_neg habove, bottom?_eq hw]
    by_cases hbelow : w.bottom < line
    · -- a line behind the last one shown is no nearer to the first line than the window is high
      have hheight : w.height ≤ line + 1 := by
        rw [bottom] at hbelow
        omega
      rw [if_pos hbelow, sub?_of_le hheight]
      exact if_pos hbelow
    · rw [if_neg hbelow]
      exact if_neg hbelow

theorem resize?_eq (w : Window) (height line : Nat) :
    w.resize? height line = some (w.resize height line) :=
  reveal?_eq (w := { w with height := max height 1 }) (Nat.le_max_right height 1) line

end Window

/-! ### Documents -/

/-- A document whose lines are stored as bytes. -/
structure StoredDocument where
  lines : List Bytes
  cursor : Position
  window : Window
  modified : Bool
  deriving Repr, DecidableEq

/-- The document with its lines stored as bytes. -/
def Document.stored (doc : Document) : StoredDocument where
  lines := doc.lines.map Text.bytes
  cursor := doc.cursor
  window := doc.window
  modified := doc.modified

namespace StoredDocument

/-- Puts the cursor at a position and lets the window follow it. -/
def moveTo? (s : StoredDocument) (position : Position) : Option StoredDocument := do
  return { s with cursor := position, window := ← s.window.follow? position.line }

/-- Gives the window another height, keeping the cursor's line in it. -/
def resizeWindow? (s : StoredDocument) (height : Nat) : Option StoredDocument := do
  return { s with window := ← s.window.resize? height s.cursor.line }

/-- Types a character at the cursor, which moves behind it. -/
def typeChar? (s : StoredDocument) (c : Char) : Option StoredDocument := do
  let line ← s.lines[s.cursor.line]?
  let typed ← Bytes.insert? line (Bytes.offset s.cursor.column line) c
  { s with lines := s.lines.set s.cursor.line typed, modified := true }.moveTo?
    ⟨s.cursor.line, s.cursor.column + 1⟩

/-- Deletes the character before the cursor; at the start of a line, the break before it. -/
def deleteLeft? (s : StoredDocument) : Option StoredDocument := do
  if 0 < s.cursor.column then
    let line ← s.lines[s.cursor.line]?
    let column ← sub? s.cursor.column 1
    let left ← Bytes.remove? line (Bytes.offset column line) (Bytes.offset s.cursor.column line)
    { s with lines := s.lines.set s.cursor.line left, modified := true }.moveTo?
      ⟨s.cursor.line, column⟩
  else if 0 < s.cursor.line then
    let line ← s.lines[s.cursor.line]?
    let lines := s.lines.eraseIdx s.cursor.line
    let above ← sub? s.cursor.line 1
    let previous ← lines[above]?
    { s with lines := lines.set above (previous ++ line), modified := true }.moveTo?
      ⟨above, Bytes.charCount previous⟩
  else
    return s

/-- Inserts a line before the line with this number, or behind the last one. -/
def insertLine? (lines : List Bytes) (index : Nat) (line : Bytes) : Option (List Bytes) :=
  if index ≤ lines.length then some (lines.insertIdx index line) else none

/-- Breaks the line at the cursor, which moves behind the new line's indentation. -/
def breakLine? (s : StoredDocument) : Option StoredDocument := do
  let line ← s.lines[s.cursor.line]?
  let indent := Bytes.leadingSpaces line
  let (head, tail) ← Bytes.split? line (Bytes.offset s.cursor.column line)
  let lines ← insertLine? (s.lines.set s.cursor.line head) (s.cursor.line + 1)
    (List.replicate indent 0x20 ++ tail)
  { s with lines, modified := true }.moveTo? ⟨s.cursor.line + 1, indent⟩

/-- The position in the cursor's column on another line, or at that line's end. -/
def onLine? (s : StoredDocument) (index : Nat) : Option Position := do
  let line ← s.lines[index]?
  return ⟨index, min s.cursor.column (Bytes.charCount line)⟩

/-- Moves the cursor, if there is somewhere to move to. -/
def move? (s : StoredDocument) : Movement → Option StoredDocument
  | .left => s.moveTo? ⟨s.cursor.line, s.cursor.column - 1⟩
  | .right => do
    let line ← s.lines[s.cursor.line]?
    s.moveTo? ⟨s.cursor.line, min (s.cursor.column + 1) (Bytes.charCount line)⟩
  | .up =>
    if 0 < s.cursor.line then do
      let above ← sub? s.cursor.line 1
      s.moveTo? (← s.onLine? above)
    else some s
  | .down =>
    if s.cursor.line + 1 < s.lines.length then do
      s.moveTo? (← s.onLine? (s.cursor.line + 1))
    else some s
  | .lineStart => s.moveTo? ⟨s.cursor.line, 0⟩
  | .lineEnd => do
    let line ← s.lines[s.cursor.line]?
    s.moveTo? ⟨s.cursor.line, Bytes.charCount line⟩

end StoredDocument

/-! ### Agreement -/

namespace Document

variable {doc : Document}

theorem moveTo?_stored (hw : doc.window.WellFormed) (position : Position) :
    doc.stored.moveTo? position = some (doc.moveTo position).stored := by
  rw [StoredDocument.moveTo?, stored, Window.follow?_eq hw]
  rfl

/-- The last step of every edit. -/
theorem moveTo?_edited (hw : doc.window.WellFormed) {lines : List Text} {bytes : List Bytes}
    (hlines : lines.map Text.bytes = bytes) (position : Position) :
    { doc.stored with lines := bytes, modified := true }.moveTo? position =
      some ({ doc with lines, modified := true }.moveTo position).stored := by
  subst hlines
  exact @moveTo?_stored { doc with lines, modified := true } hw position

@[simp] theorem cursor_stored (doc : Document) : doc.stored.cursor = doc.cursor := rfl

theorem length_stored (doc : Document) : doc.stored.lines.length = doc.size :=
  List.length_map _

theorem lines_getElem? {index : Nat} (h : index < doc.lines.length) :
    doc.lines[index]? = some (doc.line index) := by
  rw [List.getElem?_eq_getElem h, line_of_lt h]

theorem stored_line? {index : Nat} (h : index < doc.lines.length) :
    doc.stored.lines[index]? = some (Text.bytes (doc.line index)) := by
  rw [stored, List.getElem?_map, lines_getElem? h]
  rfl

theorem stored_cursorLine? (h : doc.WellFormed) :
    doc.stored.lines[doc.cursor.line]? = some (Text.bytes doc.cursorLine) :=
  stored_line? h.line_lt

theorem map_modify {α β : Type} {g : α → β} {f : α → α} {l : List α} {i : Nat} {a : α}
    (h : l[i]? = some a) : (l.modify i f).map g = (l.map g).set i (g (f a)) := by
  induction l generalizing i with
  | nil => cases h
  | cons b l ih =>
    cases i with
    | zero =>
      obtain rfl := Option.some.inj h
      rfl
    | succ i => exact congrArg (g b :: ·) (ih h)

theorem insertIdx_set {α : Type} {l : List α} {i : Nat} (h : i < l.length) (a b : α) :
    (l.set i a).insertIdx (i + 1) b = l.take i ++ a :: b :: l.drop (i + 1) := by
  induction l generalizing i with
  | nil => cases h
  | cons c l ih =>
    cases i with
    | zero => rfl
    | succ i => exact congrArg (c :: ·) (ih (Nat.lt_of_succ_lt_succ h))

theorem typeChar?_stored (h : doc.WellFormed) (c : Char) :
    doc.stored.typeChar? c = some (doc.typeChar c).stored := by
  simp only [StoredDocument.typeChar?, cursor_stored, stored_cursorLine? h, Option.bind_eq_bind,
    Option.bind_some, Bytes.insert?_bytes]
  exact moveTo?_edited h.height_pos (map_modify (lines_getElem? h.line_lt)) _

theorem deleteLeft?_of_column_pos (h : doc.WellFormed) (hpos : 0 < doc.cursor.column) :
    doc.stored.deleteLeft? = some doc.deleteLeft.stored := by
  simp only [StoredDocument.deleteLeft?, cursor_stored, if_pos hpos, stored_cursorLine? h,
    sub?_of_le hpos, Option.bind_eq_bind, Option.bind_some, Bytes.remove?_bytes]
  rw [deleteLeft_of_column_pos hpos]
  exact moveTo?_edited h.height_pos (map_modify (lines_getElem? h.line_lt)) _

/-- At the start of a line two lines are read, the second of them once the first is taken out. -/
theorem deleteLeft?_of_line_pos (h : doc.WellFormed) (hzero : doc.cursor.column = 0)
    (hpos : 0 < doc.cursor.line) : doc.stored.deleteLeft? = some doc.deleteLeft.stored := by
  have habove : doc.cursor.line - 1 < doc.cursor.line := by omega
  have hstart : ¬0 < doc.cursor.column := by omega
  have hprevious : (doc.lines.eraseIdx doc.cursor.line)[doc.cursor.line - 1]? =
      some (doc.line (doc.cursor.line - 1)) := by
    rw [List.getElem?_eraseIdx_of_lt habove, lines_getElem? (Nat.lt_trans habove h.line_lt)]
  have hstored : (doc.stored.lines.eraseIdx doc.cursor.line)[doc.cursor.line - 1]? =
      some (Text.bytes (doc.line (doc.cursor.line - 1))) := by
    rw [stored, List.eraseIdx_map, List.getElem?_map, hprevious]
    rfl
  have hjoined : ((doc.lines.eraseIdx doc.cursor.line).modify (doc.cursor.line - 1)
        (· ++ doc.cursorLine)).map Text.bytes =
      (doc.stored.lines.eraseIdx doc.cursor.line).set (doc.cursor.line - 1)
        (Text.bytes (doc.line (doc.cursor.line - 1)) ++ Text.bytes doc.cursorLine) := by
    rw [map_modify hprevious, ← List.eraseIdx_map, Text.bytes_append]
    rfl
  simp only [StoredDocument.deleteLeft?, cursor_stored, if_neg hstart, if_pos hpos,
    stored_cursorLine? h, sub?_of_le hpos, hstored, Option.bind_eq_bind, Option.bind_some,
    Bytes.charCount_bytes]
  rw [deleteLeft_of_line_pos hzero hpos]
  exact moveTo?_edited h.height_pos hjoined _

theorem deleteLeft?_stored (h : doc.WellFormed) :
    doc.stored.deleteLeft? = some doc.deleteLeft.stored := by
  rcases Nat.eq_zero_or_pos doc.cursor.column with hzero | hpos
  · rcases Nat.eq_zero_or_pos doc.cursor.line with hfirst | hline
    · rw [StoredDocument.deleteLeft?, cursor_stored, if_neg (by omega), if_neg (by omega),
        deleteLeft_of_origin hzero hfirst]
      rfl
    · exact deleteLeft?_of_line_pos h hzero hline
  · exact deleteLeft?_of_column_pos h hpos

theorem breakLine?_stored (h : doc.WellFormed) :
    doc.stored.breakLine? = some doc.breakLine.stored := by
  have hlt : doc.cursor.line < doc.stored.lines.length := by
    rw [length_stored]
    exact h.line_lt
  have hinsert (head tail : Bytes) :
      StoredDocument.insertLine? (doc.stored.lines.set doc.cursor.line head)
          (doc.cursor.line + 1) tail =
        some (doc.stored.lines.take doc.cursor.line ++
          head :: tail :: doc.stored.lines.drop (doc.cursor.line + 1)) := by
    rw [StoredDocument.insertLine?, List.length_set, if_pos (Nat.succ_le_of_lt hlt),
      insertIdx_set hlt]
  simp only [StoredDocument.breakLine?, cursor_stored, stored_cursorLine? h, Option.bind_eq_bind,
    Option.bind_some, Bytes.split?_bytes, Bytes.leadingSpaces_bytes, hinsert]
  refine moveTo?_edited h.height_pos ?_ _
  rw [List.map_append, List.map_cons, List.map_cons, Text.bytes_append, Text.bytes_spaces,
    List.map_take, List.map_drop]
  rfl

theorem onLine?_stored {index : Nat} (h : index < doc.lines.length) :
    doc.stored.onLine? index = some (doc.onLine index) := by
  simp only [StoredDocument.onLine?, cursor_stored, stored_line? h, Option.bind_eq_bind,
    Option.bind_some, Bytes.charCount_bytes]
  rfl

theorem move?_stored (h : doc.WellFormed) (d : Movement) :
    doc.stored.move? d = some (doc.move d).stored := by
  have hmove (position : Position) := moveTo?_stored h.height_pos position
  cases d with
  | left => exact hmove _
  | right =>
    simp only [StoredDocument.move?, cursor_stored, stored_cursorLine? h, Option.bind_eq_bind,
      Option.bind_some, Bytes.charCount_bytes]
    exact hmove _
  | up =>
    rw [StoredDocument.move?, cursor_stored, Document.move, target?]
    by_cases hpos : 0 < doc.cursor.line
    · have hlt : doc.cursor.line - 1 < doc.lines.length := by
        have := h.line_lt
        omega
      simp only [if_pos hpos, sub?_of_le hpos, onLine?_stored hlt, Option.bind_eq_bind,
        Option.bind_some]
      exact hmove _
    · rw [if_neg hpos, if_neg hpos]
  | down =>
    rw [StoredDocument.move?, cursor_stored, Document.move, target?, length_stored]
    by_cases hnext : doc.cursor.line + 1 < doc.size
    · simp only [if_pos hnext, onLine?_stored hnext, Option.bind_eq_bind, Option.bind_some]
      exact hmove _
    · rw [if_neg hnext, if_neg hnext]
  | lineStart => exact hmove _
  | lineEnd =>
    simp only [StoredDocument.move?, cursor_stored, stored_cursorLine? h, Option.bind_eq_bind,
      Option.bind_some, Bytes.charCount_bytes]
    exact hmove _

theorem resizeWindow?_stored (doc : Document) (height : Nat) :
    doc.stored.resizeWindow? height = some (doc.resizeWindow height).stored := by
  rw [StoredDocument.resizeWindow?, stored, Window.resize?_eq]
  rfl

/-- **Edits of stored lines are edits of their characters, and none stops.** The offset of a column
is the number of bytes of the characters before it, hence a boundary within the text, and to insert,
remove or split there does so at the column. On a document with a history every operation that is
carried out on its stored form comes to the stored form of what the operation gives: no cut is
within a character, no line is missing, and nothing is taken from zero. -/
theorem stored_operations_agree (hdoc : doc.Reachable) :
    (∀ (t : Text) (column : Nat),
      Text.byteOffset column t = (Text.bytes (t.take (min column t.length))).length ∧
      Bytes.offset column (Text.bytes t) = Text.byteOffset column t ∧
      Bytes.isBoundary (Text.bytes t) (Text.byteOffset column t) = true ∧
      Text.byteOffset column t ≤ (Text.bytes t).length ∧
      (∀ c, Bytes.insert? (Text.bytes t) (Text.byteOffset column t) c =
        some (Text.bytes (t.take column ++ c :: t.drop column))) ∧
      Bytes.remove? (Text.bytes t) (Text.byteOffset (column - 1) t) (Text.byteOffset column t) =
        some (Text.bytes (t.take (column - 1) ++ t.drop column)) ∧
      Bytes.split? (Text.bytes t) (Text.byteOffset column t) =
        some (Text.bytes (t.take column), Text.bytes (t.drop column))) ∧
    (∀ c, doc.stored.typeChar? c = some (doc.typeChar c).stored) ∧
    doc.stored.deleteLeft? = some doc.deleteLeft.stored ∧
    doc.stored.breakLine? = some doc.breakLine.stored ∧
    (∀ d, doc.stored.move? d = some (doc.move d).stored) ∧
    ∀ height, doc.stored.resizeWindow? height = some (doc.resizeWindow height).stored := by
  have h := hdoc.wellFormed
  refine ⟨fun t column ↦ ?_, typeChar?_stored h, deleteLeft?_stored h, breakLine?_stored h,
    move?_stored h, resizeWindow?_stored doc⟩
  have htake : Bytes.offset column (Text.bytes t) =
      (Text.bytes (t.take (min column t.length))).length := by
    rw [← List.take_eq_take_min, Bytes.length_bytes_take]
  rw [← Bytes.offset_bytes column t, ← Bytes.offset_bytes (column - 1) t]
  exact ⟨htake, rfl, Bytes.isBoundary_offset column t, Bytes.offset_le column t,
    fun c ↦ Bytes.insert?_bytes column c t, Bytes.remove?_bytes column t,
    Bytes.split?_bytes column t⟩

/-- A line with characters of one to four bytes, and the cursor behind its last one. -/
theorem stored_operations_agree_on_long_characters :
    let line : Text := "aé€😀".toList
    let doc := (Origin.lines [line, "b".toList]).document.move .lineEnd
    doc.Reachable ∧ doc.cursor = ⟨0, 4⟩ ∧
      (Text.bytes (line.take 3)).length = 6 ∧ Bytes.isBoundary (Text.bytes line) 6 = true ∧
      Bytes.isBoundary (Text.bytes line) 5 = false ∧
      Bytes.insert? (Text.bytes line) 6 'ß' = some (Text.bytes "aé€ß😀".toList) ∧
      doc.stored.deleteLeft? = some doc.deleteLeft.stored ∧
      doc.deleteLeft.lines = ["aé€".toList, "b".toList] := by
  intro line doc
  have hdoc : doc.Reachable := (Reachable.origin _).move .lineEnd
  obtain ⟨htext, -, hdelete, -⟩ := stored_operations_agree hdoc
  obtain ⟨hlength, -, hboundary, -, hinsert, -⟩ := htext line 3
  have hoffset : Text.byteOffset 3 line = 6 := by decide
  rw [hoffset] at hlength hboundary hinsert
  exact ⟨hdoc, by decide, hlength.symm, hboundary, by decide, hinsert 'ß', hdelete, by decide⟩

end Document

end Scriptpad
