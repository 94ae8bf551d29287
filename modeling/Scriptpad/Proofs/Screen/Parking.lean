import Scriptpad.Proofs.Document.Scrolling
import Scriptpad.Proofs.Screen.Layout

/-!
# The cursor on its text

Painting leaves the terminal's cursor where the document's cursor is in the painted text, or so it
should. The row is always right. The column is computed from a gutter of seven columns, while the
gutter that is drawn is as wide as the line's number needs: seven columns up to line 9999, and more
from line 10000 on (`length_gutter_eq_iff`). From there the cursor stands too far left, on the
gutter or on an earlier character, unless the edge of the screen holds it back anyway
(`parkingColumn_eq_iff`).

Which character a cell shows is a matter of all strokes: a later one writes over an earlier one, and
where none has written the screen is blank (`charAt`). Of the strokes of a painted screen only one
writes into the row of the cursor's line (`eq_cursorStroke`), but for a message on a terminal of
exactly four rows, which takes the row of the only line. And only a line that is drawn as it stands
has its characters in the columns that the document counts (`IsVerbatim`): painting draws one space
between words, whatever there is between them.
-/

namespace Scriptpad

/-! ### Texts up to spaces at their ends -/

namespace Text

theorem getD_append_spaces (t : Text) (n i : Nat) :
    (t ++ spaces n)[i]?.getD ' ' = t[i]?.getD ' ' := by
  rcases Nat.lt_or_ge i t.length with hinside | hbehind
  · rw [List.getElem?_append_left hinside]
  · rw [List.getElem?_append_right hbehind, List.getElem?_eq_none hbehind, spaces,
      List.getElem?_replicate]
    split <;> rfl

/-- Two texts that differ in the number of spaces at their ends only. -/
def SameUpToSpaces (s t : Text) : Prop :=
  ∃ m n, s ++ spaces m = t ++ spaces n

/-- If what is behind a text counts as blank, such texts have the same character everywhere. -/
theorem SameUpToSpaces.getD_eq {s t : Text} (h : s.SameUpToSpaces t) (i : Nat) :
    s[i]?.getD ' ' = t[i]?.getD ' ' := by
  obtain ⟨m, n, heq⟩ := h
  rw [← getD_append_spaces s m, heq, getD_append_spaces]

theorem SameUpToSpaces.append_left {s t : Text} (h : s.SameUpToSpaces t) (first : Text) :
    SameUpToSpaces (first ++ s) (first ++ t) := by
  obtain ⟨m, n, heq⟩ := h
  exact ⟨m, n, by rw [List.append_assoc, heq, List.append_assoc]⟩

end Text

/-! ### What a cell shows -/

namespace Terminal

/-- What a stroke writes into a cell. -/
def Stroke.cell? (stroke : Stroke) (column row : Nat) : Option Cell :=
  if stroke.row = row ∧ stroke.column ≤ column then stroke.cells[column - stroke.column]? else none

/-- The character that a cell of a cleared screen shows after strokes: that of the last one which
writes into it, and a blank if none does. -/
def charAt (strokes : List Stroke) (column row : Nat) : Char :=
  ((strokes.reverse.findSome? (·.cell? column row)).map Prod.fst).getD ' '

/-- If only one element of a list is mapped to something, it is found. -/
theorem findSome?_eq_of_mem {α β : Type} {f : α → Option β} {a : α} {l : List α} (h : a ∈ l)
    (hall : ∀ b ∈ l, f b = none ∨ b = a) : l.findSome? f = f a := by
  induction l with
  | nil => exact absurd h List.not_mem_nil
  | cons b l ih =>
    obtain ⟨hb, hl⟩ := List.forall_mem_cons.1 hall
    rw [List.findSome?_cons]
    rcases hfirst : f b with - | c
    · rcases List.mem_cons.1 h with rfl | hmem
      · rw [hfirst]
        refine List.findSome?_eq_none_iff.2 fun other hother ↦ ?_
        exact (hl other hother).elim id fun heq ↦ heq ▸ hfirst
      · exact ih hmem hl
    · rcases hb with hnone | rfl
      · exact absurd (hfirst.symm.trans hnone) (Option.some_ne_none c)
      · exact hfirst.symm

theorem charAt_eq_of_mem {strokes : List Stroke} {stroke : Stroke} (h : stroke ∈ strokes)
    {column row : Nat}
    (hall : ∀ other ∈ strokes, other.row = row → other.cells = [] ∨ other = stroke) :
    charAt strokes column row = ((stroke.cell? column row).map Prod.fst).getD ' ' := by
  have hfind : strokes.reverse.findSome? (·.cell? column row) = stroke.cell? column row := by
    refine findSome?_eq_of_mem (List.mem_reverse.2 h) fun other hother ↦ ?_
    rcases Decidable.em (other.row = row) with hrow | hrow
    · rcases hall other (List.mem_reverse.1 hother) hrow with hempty | rfl
      · left
        rw [Stroke.cell?, hempty, List.getElem?_nil, ite_self]
      · exact .inr rfl
    · left
      rw [Stroke.cell?, if_neg fun hcell ↦ hrow hcell.1]
  rw [charAt, hfind]

end Terminal

open Terminal

namespace Screen

/-! ### The gutter -/

theorem length_gutter (index : Nat) :
    (gutter index).length = max 4 (Decimal.digits (index + 1)).length + 3 := by
  rw [gutter, Text.alignRight, List.length_append, List.length_append, Text.spaces,
    List.length_replicate]
  show 4 - _ + _ + 3 = _
  omega

theorem gutterColumns_le (index : Nat) : gutterColumns ≤ (gutter index).length := by
  rw [length_gutter]
  exact Nat.add_le_add_right (Nat.le_max_left _ _) 3

/-- **The gutter has seven columns up to line 9999**, lines being counted from one. -/
theorem length_gutter_eq_iff (index : Nat) :
    (gutter index).length = gutterColumns ↔ index < 9999 := by
  have hdigits : (Decimal.digits (index + 1)).length ≤ 4 ↔ index + 1 < 10 ^ 4 :=
    Nat.length_toDigits_le_iff (by decide) (by decide)
  rw [length_gutter]
  show max 4 _ + 3 = 7 ↔ _
  omega

/-- The row that is drawn for the cursor's line. -/
def cursorStroke (s : Screen) (doc : Document) (table : WordColors) : Stroke where
  column := 0
  row := rowsAbove + (doc.cursor.line - doc.window.offset)
  cells := (lineCells table doc.cursor.line doc.cursorLine).take s.width

variable {s : Screen} {doc : Document}

theorem parkingPlace_eq (h : doc.WellFormed) :
    s.parkingPlace doc = (min (gutterColumns + doc.cursor.column) (s.width - 1),
      rowsAbove + (doc.cursor.line - doc.window.offset)) := by
  rw [parkingPlace, Window.row?, if_pos h.visible, Option.getD_some, Nat.add_comm rowsAbove]

theorem lineStroke_eq (h : doc.WellFormed) (table : WordColors) :
    s.lineStroke doc table (doc.cursor.line - doc.window.offset) = s.cursorStroke doc table := by
  obtain ⟨htop, -⟩ := Window.contains_iff.1 h.visible
  rw [lineStroke, Nat.add_sub_cancel' htop]
  rfl

theorem cursorStroke_mem (h : doc.WellFormed) (table : WordColors) :
    s.cursorStroke doc table ∈ s.lineStrokes doc table := by
  obtain ⟨htop, hbottom⟩ := Window.contains_iff.1 h.visible
  have hline : doc.cursor.line < doc.size := h.line_lt
  have hheight : 1 ≤ doc.window.height := h.height_pos
  refine List.mem_map.2 ⟨doc.cursor.line - doc.window.offset, List.mem_range.2 ?_,
    lineStroke_eq h table⟩
  show _ < min doc.window.height (doc.size - doc.window.offset)
  omega

theorem row_lt_of_mem_topStrokes (s : Screen) (title : Text) :
    ∀ stroke ∈ s.topStrokes title, stroke.row < rowsAbove :=
  List.forall_mem_cons.2 ⟨Nat.zero_lt_succ _, List.forall_mem_cons.2
    ⟨Nat.one_lt_succ_succ _, List.forall_mem_singleton.2 (Nat.lt_succ_self _)⟩⟩

/-- **Nothing else is written into the cursor's row**, unless a message takes it. -/
theorem eq_cursorStroke (h : doc.WellFormed) (hfit : doc.window.height = s.textRows)
    (hmessage : s.message = none ∨ s.size.height.toNat ≠ 4) (title : Text) (table : WordColors)
    (pen : Option Color) :
    ∀ stroke ∈ (draw pen (s.paint doc title table)).strokes,
      stroke.row = rowsAbove + (doc.cursor.line - doc.window.offset) →
        stroke.cells = [] ∨ stroke = s.cursorStroke doc table := by
  rw [draw_paint hfit]
  simp only [List.forall_mem_append, List.forall_mem_singleton]
  refine ⟨⟨⟨fun stroke hmem hrow ↦ ?_, ?_⟩, ?_⟩, fun _ ↦ .inl rfl⟩
  · have hlt := s.row_lt_of_mem_topStrokes title stroke hmem
    omega
  · refine List.forall_mem_map.2 fun r _ hrow ↦ .inr ?_
    obtain rfl : r = doc.cursor.line - doc.window.offset := Nat.add_left_cancel hrow
    exact lineStroke_eq h table
  · rcases hmessage with hnone | hheight
    · rw [messageStrokes, hnone]
      exact fun stroke hmem ↦ absurd hmem List.not_mem_nil
    · refine List.forall_mem_map.2 fun m _ hrow ↦ ?_
      -- the last row is above the text on a lower terminal, and below all text on a higher one
      obtain ⟨htop, hbottom⟩ := Window.contains_iff.1 h.visible
      have hrows : doc.window.height = max (s.size.height.toNat - 4) 1 := hfit
      have hlast : s.size.height.toNat - 1 = 3 + (doc.cursor.line - doc.window.offset) := hrow
      omega

/-! ### The column -/

/-- The line is drawn as it stands, spaces at its end apart: there is nothing else than one space
between two words, and no other blank before the first. -/
def IsVerbatim (table : WordColors) (line : Text) : Prop :=
  (Text.spaces (Text.leadingSpaces line) ++ Token.spaced (Token.ofLine table line)).SameUpToSpaces
    line

/-- **The column is right** if the gutter has the columns that are counted for it, or if the edge of
the screen is reached in any case. -/
theorem parkingColumn_eq_iff (width line column : Nat) :
    min (gutterColumns + column) (width - 1) =
        min (((gutter line).take width).length + column) (width - 1) ↔
      line < 9999 ∨ width ≤ gutterColumns + column + 1 := by
  have hwide := gutterColumns_le line
  rw [List.length_take, ← length_gutter_eq_iff]
  omega

theorem cursorStroke_mem_draw_paint (h : doc.WellFormed) (hfit : doc.window.height = s.textRows)
    (title : Text) (table : WordColors) (pen : Option Color) :
    s.cursorStroke doc table ∈ (draw pen (s.paint doc title table)).strokes := by
  rw [draw_paint hfit]
  exact List.mem_append_left _ (List.mem_append_left _ (List.mem_append_right _
    (cursorStroke_mem h table)))

theorem map_fst_cursorStroke (s : Screen) (doc : Document) (table : WordColors) :
    (s.cursorStroke doc table).cells.map Prod.fst =
      (gutter doc.cursor.line ++ (Text.spaces (Text.leadingSpaces doc.cursorLine) ++
        Token.spaced (Token.ofLine table doc.cursorLine))).take s.width := by
  show ((lineCells table doc.cursor.line doc.cursorLine).take s.width).map Prod.fst = _
  rw [List.map_take, map_fst_lineCells, gutter, List.append_assoc _ (Text.spaces _)]

/-- What is seen in the cursor's row, as far as the screen is wide. -/
theorem charAt_draw_paint (h : doc.WellFormed) (hfit : doc.window.height = s.textRows)
    (hmessage : s.message = none ∨ s.size.height.toNat ≠ 4) (title : Text) {table : WordColors}
    (hverbatim : IsVerbatim table doc.cursorLine) {column : Nat} (hcolumn : column < s.width)
    (pen : Option Color) :
    charAt (draw pen (s.paint doc title table)).strokes column
        (rowsAbove + (doc.cursor.line - doc.window.offset)) =
      (gutter doc.cursor.line ++ doc.cursorLine)[column]?.getD ' ' := by
  have hmem := cursorStroke_mem_draw_paint h hfit title table pen
  rw [charAt_eq_of_mem hmem (eq_cursorStroke h hfit hmessage title table pen),
    ← (hverbatim.append_left (gutter doc.cursor.line)).getD_eq column,
    Stroke.cell?, if_pos ⟨rfl, Nat.zero_le _⟩]
  show ((s.cursorStroke doc table).cells[column]?.map Prod.fst).getD ' ' = _
  rw [← List.getElem?_map, map_fst_cursorStroke, List.getElem?_take_of_lt hcolumn]

/-- **The cursor is parked on the text it edits, up to line 9999.** Painting ends with a move of the
cursor into the row that shows the cursor's line. Its column counts seven columns before the text.
What is drawn before the text is the line's number and the rule, cut off at the width of the screen;
the column agrees with that exactly if the line is one of the first 9999, or if the edge of the
screen holds the cursor back in any case. If the line is drawn as it stands and the cursor is not
held back, the cell under the cursor shows what the row has seven columns behind its column: up to
line 9999 the character of the line that it is at, and from there on one further left, of the line
or of the gutter. A message leaves this as it is, but on a terminal of four rows it takes the row.
-/
theorem cursor_parked_on_text_iff {s : Screen} {doc : Document} (h : doc.Reachable)
    (hfit : doc.window.height = s.textRows) (title : Text) (table : WordColors)
    (pen : Option Color) :
    let strokes := (draw pen (s.paint doc title table)).strokes
    let line := doc.cursor.line
    let column := doc.cursor.column
    let row := 3 + (line - doc.window.offset)
    let before := (gutter line).take s.width
    ∃ parked, strokes.getLast? = some ⟨parked, row, []⟩ ∧
      parked = min (7 + column) (s.width - 1) ∧
      (∃ drawn ∈ strokes, drawn.column = 0 ∧ drawn.row = row ∧
        drawn.cells.map Prod.fst = before ++
          (Text.spaces (Text.leadingSpaces doc.cursorLine) ++
            Token.spaced (Token.ofLine table doc.cursorLine)).take (s.width - before.length)) ∧
      (parked = min (before.length + column) (s.width - 1) ↔
        line < 9999 ∨ s.width ≤ 7 + column + 1) ∧
      (IsVerbatim table doc.cursorLine → 7 + column < s.width →
        s.message = none ∨ s.size.height.toNat ≠ 4 →
        charAt strokes parked row = (gutter line ++ doc.cursorLine)[7 + column]?.getD ' ' ∧
        (line < 9999 → charAt strokes parked row = doc.cursorLine[column]?.getD ' ')) := by
  intro strokes line column row before
  have hdoc : doc.WellFormed := h.wellFormed
  have hcell : (gutter line).length = 7 →
      (gutter line ++ doc.cursorLine)[7 + column]? = doc.cursorLine[column]? := fun hseven ↦ by
    rw [← hseven, List.getElem?_append_right (Nat.le_add_right _ _), Nat.add_sub_cancel_left]
  refine ⟨min (7 + column) (s.width - 1), ?_, rfl, ?_, parkingColumn_eq_iff s.width line column,
    fun hverbatim hinside hmessage ↦ ?_⟩
  · show (draw pen (s.paint doc title table)).strokes.getLast? = _
    rw [draw_paint hfit, List.getLast?_concat, parkingStroke, parkingPlace_eq hdoc]
    rfl
  · refine ⟨s.cursorStroke doc table, cursorStroke_mem_draw_paint hdoc hfit title table pen,
      rfl, rfl, ?_⟩
    have hbudget : s.width - before.length = s.width - (gutter line).length := by
      show s.width - ((gutter line).take s.width).length = _
      rw [List.length_take]
      omega
    rw [map_fst_cursorStroke, List.take_append, hbudget]
  · have hparked : min (7 + column) (s.width - 1) = 7 + column := by omega
    have hchar : charAt strokes (7 + column) row = _ :=
      charAt_draw_paint hdoc hfit hmessage title hverbatim hinside pen
    rw [hparked]
    refine ⟨hchar, fun hline ↦ ?_⟩
    rw [hchar, hcell ((length_gutter_eq_iff line).2 hline)]

/-- The cursor at the end of an indented second line is on the blank behind its last character, and
one to the left it is on the `x`. -/
theorem cursor_parked_on_indented_text :
    let start := (Document.Origin.lines ["ab".toList, "    x".toList]).document
    let doc := ((start.move .down).move .lineEnd).move .left
    let s : Screen := { size := ⟨80, 24⟩ }
    let strokes := (draw none (s.paint doc "t".toList .standard)).strokes
    doc.Reachable ∧ doc.window.height = s.textRows ∧ doc.cursor = ⟨1, 4⟩ ∧
      IsVerbatim .standard doc.cursorLine ∧
      strokes.getLast? = some ⟨11, 4, []⟩ ∧ charAt strokes 11 4 = 'x' := by
  intro start doc s strokes
  have hdoc : doc.Reachable := (((Document.Reachable.origin _).move .down).move .lineEnd).move .left
  have hfit : doc.window.height = s.textRows := by decide
  have hverbatim : IsVerbatim .standard doc.cursorLine := ⟨0, 0, by decide⟩
  obtain ⟨parked, hlast, hparked, -, -, hcell⟩ :=
    cursor_parked_on_text_iff hdoc hfit "t".toList .standard none
  have hcursor : doc.cursor = ⟨1, 4⟩ := by decide
  have hrow : 3 + (doc.cursor.line - doc.window.offset) = 4 := by decide
  obtain rfl : parked = 11 := hparked.trans (by decide)
  obtain ⟨-, hchar⟩ := hcell hverbatim (by decide) (.inl rfl)
  have hshown := hchar (by decide)
  rw [hrow] at hlast hshown
  exact ⟨hdoc, hfit, hcursor, hverbatim, hlast, hshown.trans (by decide)⟩

/-- On line 10000 the cursor stands on the blank before the text, one column left of the character
that it is at in the document. -/
theorem cursor_left_of_line_ten_thousand :
    let many := List.replicate 10000 ['x']
    let doc := (Document.move · .down)^[9999] (Document.Origin.lines many).document
    let s : Screen := { size := ⟨80, 24⟩ }
    let strokes := (draw none (s.paint doc "t".toList .standard)).strokes
    let before := (gutter doc.cursor.line).take s.width
    doc.Reachable ∧ doc.window.height = s.textRows ∧ IsVerbatim .standard doc.cursorLine ∧
      doc.cursor = ⟨9999, 0⟩ ∧ doc.cursorLine[0]? = some 'x' ∧
      strokes.getLast? = some ⟨7, 22, []⟩ ∧ charAt strokes 7 22 = ' ' ∧
      min (before.length + 0) (s.width - 1) = 8 ∧ charAt strokes 8 22 = 'x' := by
  intro many doc s strokes before
  have hlines : (Document.ofLines many).lines = many :=
    Document.lines_ofLines_of_ne_nil (List.cons_ne_nil ['x'] (List.replicate 9999 ['x']))
  have hsize : 9999 < (Document.ofLines many).size := by
    rw [Document.size, hlines, List.length_replicate]
    exact Nat.lt_succ_self 9999
  have hwalk : doc = { Document.ofLines many with cursor := ⟨9999, 0⟩, window := ⟨9980, 20⟩ } :=
    Document.iterate_move_down rfl rfl (Window.wellFormed_ofHeight _) hsize
  have hcursor : doc.cursor = ⟨9999, 0⟩ := congrArg Document.cursor hwalk
  have hwindow : doc.window = ⟨9980, 20⟩ := congrArg Document.window hwalk
  have hline : doc.cursorLine = ['x'] := by
    rw [Document.cursorLine, hcursor, hwalk]
    show (Document.ofLines many).lines[9999]?.getD [] = ['x']
    rw [hlines, List.getElem?_replicate, if_pos (Nat.lt_succ_self 9999), Option.getD_some]
  have hdoc : doc.Reachable := (Document.Reachable.origin _).iterate_move .down 9999
  have hfit : doc.window.height = s.textRows := hwindow ▸ rfl
  have hverbatim : IsVerbatim .standard doc.cursorLine := hline ▸ ⟨0, 0, by decide⟩
  have hgutter : gutter doc.cursor.line = "10000 │ ".toList := by
    rw [hcursor]
    decide
  have hrow : rowsAbove + (doc.cursor.line - doc.window.offset) = 22 := by
    rw [hcursor, hwindow]
    rfl
  have hchar (column : Nat) (hcolumn : column < 80) :
      charAt strokes column 22 = ("10000 │ ".toList ++ ['x'])[column]?.getD ' ' := by
    rw [← hrow, ← hgutter, ← hline]
    exact charAt_draw_paint hdoc.wellFormed hfit (.inl rfl) "t".toList hverbatim hcolumn none
  refine ⟨hdoc, hfit, hverbatim, hcursor, by rw [hline]; rfl, ?_,
    (hchar 7 (by decide)).trans (by decide), ?_, (hchar 8 (by decide)).trans (by decide)⟩
  · show (draw none (s.paint doc "t".toList .standard)).strokes.getLast? = _
    rw [draw_paint hfit, List.getLast?_concat, parkingStroke, parkingPlace_eq hdoc.wellFormed, hrow,
      hcursor]
    rfl
  · show min (((gutter doc.cursor.line).take s.width).length + 0) (s.width - 1) = 8
    rw [hgutter]
    rfl

end Screen

end Scriptpad
