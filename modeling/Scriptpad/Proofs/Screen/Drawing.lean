import Scriptpad.Proofs.Document.Cursor
import Scriptpad.Screen

/-!
# What painting draws

A screen is painted by a list of requests, in which a row is many small writes between changes of
color, each clipped to what is left of a budget. What a reader sees is another thing: at some places
rows of colored characters. `Terminal.draw` reads requests this way. It keeps the color that is in
force, gives it to each character that is written, and begins a new stroke where the cursor is moved
to; so colors that are chosen and not reset, or writes that go on in a foreign row, would show.

The budget is an accumulator, and what carries the induction over the tokens is that cutting cells
off a row that is written in parts is the same as cutting each part off by what the earlier ones
have left (`draw_paintFurther`). From there on a row is `rowCells`, cut off at the width of the
screen, and painting is a list of such rows (`paint_draws_rows`). The number of a row fits into 16
bits because the window is no higher than the screen.
-/

namespace Scriptpad

namespace Terminal

/-! ### Requests as strokes -/

/-- A character and the color that it is written in, if that is not the terminal's own. -/
abbrev Cell := Char × Option Color

/-- A text in the terminal's own color. -/
def plain (t : Text) : List Cell :=
  t.map (·, none)

/-- A place that the cursor is moved to, and what is written from there before it is moved again. -/
structure Stroke where
  column : Nat
  row : Nat
  cells : List Cell
  deriving Repr, DecidableEq

/-- What requests draw: what is written where the cursor stands, the strokes that follow, and the
color that is in force at the end. -/
structure Drawing where
  here : List Cell
  strokes : List Stroke
  pen : Option Color
  deriving Repr, DecidableEq

/-- What requests draw if they find the color `pen` in force. -/
def draw (pen : Option Color) : List Request → Drawing
  | [] => ⟨[], [], pen⟩
  | .moveTo column row :: rest =>
    let d := draw pen rest
    ⟨[], ⟨column.toNat, row.toNat, d.here⟩ :: d.strokes, d.pen⟩
  | .write t :: rest =>
    let d := draw pen rest
    { d with here := t.map (·, pen) ++ d.here }
  | .color c :: rest => draw (some c) rest
  | .defaultColor :: rest => draw none rest
  | .clearToEnd :: rest | .clear :: rest | .beep :: rest | .flush :: rest => draw pen rest

/-- **Requests that move the cursor nowhere** only add to what is written where it stands. -/
theorem draw_append_of_strokes_nil {pen : Option Color} {first : List Request}
    (h : (draw pen first).strokes = []) (rest : List Request) :
    draw pen (first ++ rest) =
      let d := draw (draw pen first).pen rest
      { d with here := (draw pen first).here ++ d.here } := by
  induction first generalizing pen with
  | nil => rfl
  | cons request first ih =>
    cases request with
    | moveTo column row => exact absurd h (List.cons_ne_nil _ _)
    | write t =>
      rw [List.cons_append, draw, ih h]
      simp only [draw, List.append_assoc]
    | color c => exact ih h
    | defaultColor => exact ih h
    | clearToEnd | clear | beep | flush => exact ih h

/-- **Requests that begin with a move** only add strokes. -/
theorem draw_append_of_here_nil {pen : Option Color} {first rest : List Request}
    (h : (draw (draw pen first).pen rest).here = []) :
    draw pen (first ++ rest) =
      let d := draw (draw pen first).pen rest
      ⟨(draw pen first).here, (draw pen first).strokes ++ d.strokes, d.pen⟩ := by
  induction first generalizing pen with
  | nil =>
    show draw pen rest = ⟨[], _, _⟩
    exact h ▸ rfl
  | cons request first ih =>
    cases request with
    | moveTo column row =>
      rw [List.cons_append, draw, ih h]
      rfl
    | write t =>
      rw [List.cons_append, draw, ih h]
      rfl
    | color c => exact ih h
    | defaultColor => exact ih h
    | clearToEnd | clear | beep | flush => exact ih h

/-- Drawings that are made of strokes are joined. -/
theorem draw_append_of_strokes {pen between last : Option Color} {first rest : List Request}
    {above below : List Stroke} (hfirst : draw pen first = ⟨[], above, between⟩)
    (hrest : draw between rest = ⟨[], below, last⟩) :
    draw pen (first ++ rest) = ⟨[], above ++ below, last⟩ := by
  rw [draw_append_of_here_nil (by rw [hfirst, hrest]), hfirst, hrest]

end Terminal

open Terminal

/-! ### Rows -/

/-- A token in its color. -/
def Token.cells (token : Token) : List Cell :=
  token.text.map (·, token.color)

/-- Tokens that follow an earlier one, each behind a space. -/
def Token.furtherCells (tokens : List Token) : List Cell :=
  tokens.flatMap fun token ↦ (' ', none) :: token.cells

/-- Tokens in their colors, with one space between each two. -/
def Token.rowCells : List Token → List Cell
  | [] => []
  | token :: more => token.cells ++ furtherCells more

theorem Token.length_cells (token : Token) : token.cells.length = token.text.length :=
  List.length_map _

theorem Token.map_fst_cells (token : Token) : token.cells.map Prod.fst = token.text := by
  rw [cells, List.map_map]
  exact List.map_id _

/-- Without their colors, the tokens of a row are its words with one space between each two. -/
theorem Token.map_fst_rowCells (tokens : List Token) :
    (rowCells tokens).map Prod.fst = spaced tokens := by
  rcases tokens with - | ⟨token, more⟩
  · rfl
  · rw [spaced, List.map_cons, Text.joinWith_cons_eq_flatMap, List.flatMap_map, rowCells,
      List.map_append, map_fst_cells, furtherCells, List.map_flatMap]
    simp only [List.map_cons, map_fst_cells, List.singleton_append]

/-- A line that a window shows is in one of its rows, and any other counts as in the first. -/
theorem Window.row?_lt {w : Window} (h : w.WellFormed) (line : Nat) :
    (w.row? line).getD 0 < w.height := by
  unfold Window.row?
  split
  · rename_i hcontains
    obtain ⟨htop, hbottom⟩ := Window.contains_iff.1 hcontains
    show line - w.offset < w.height
    unfold Window.WellFormed at h
    omega
  · exact h

namespace Screen

/-- The row of a line, on a screen that is wide enough for it: its number and the rule, the spaces
that it begins with, and its words. -/
def lineCells (table : WordColors) (index : Nat) (line : Text) : List Cell :=
  plain (gutter index) ++ plain (Text.spaces (Text.leadingSpaces line)) ++
    Token.rowCells (Token.ofLine table line)

/-- What a row that is written in full says. -/
theorem map_fst_lineCells (table : WordColors) (index : Nat) (line : Text) :
    (lineCells table index line).map Prod.fst =
      Text.alignRight 4 (Decimal.digits (index + 1)) ++ " │ ".toList ++
        Text.spaces (Text.leadingSpaces line) ++ Token.spaced (Token.ofLine table line) := by
  have hplain (t : Text) : (plain t).map Prod.fst = t := by
    rw [plain, List.map_map]
    exact List.map_id t
  rw [lineCells, List.map_append, List.map_append, hplain, hplain, Token.map_fst_rowCells, gutter]

/-! ### Painting a row -/

/-- Clipping a text in the terminal's own color cuts its cells off. -/
theorem draw_clip (pen : Option Color) (budget : Nat) (t : Text) (rest : List Request) :
    draw pen (clip budget t :: rest) =
      let d := draw pen rest
      { d with here := (t.map (·, pen)).take budget ++ d.here } := by
  rw [clip, draw, List.map_take]

/-- **A token is drawn in its color**, as far as the budget goes, and the terminal's own color is in
force again behind it. -/
theorem draw_paintToken (budget : Nat) (token : Token) :
    draw none (paintToken budget token) = ⟨token.cells.take budget, [], none⟩ := by
  obtain ⟨text, color | color⟩ := token
  · rw [paintToken, draw_clip]
    simp [draw, Token.cells]
  · rw [paintToken, draw, draw_clip]
    simp [draw, Token.cells]

/-- **Tokens are drawn up to the budget**, wherever it ends. -/
theorem draw_paintFurther (budget : Nat) (tokens : List Token) :
    draw none (paintFurther budget tokens) =
      ⟨(Token.furtherCells tokens).take budget, [], none⟩ := by
  induction tokens generalizing budget with
  | nil => simp [paintFurther, draw, Token.furtherCells]
  | cons token more ih =>
    rcases budget with - | budget
    · rfl
    · have htoken := draw_paintToken budget token
      rw [paintFurther, List.cons_append, draw_clip,
        draw_append_of_strokes_nil (by rw [htoken]), htoken, ih]
      simp [Token.furtherCells, List.take_append, Token.length_cells]

theorem draw_paintTokens (budget : Nat) (tokens : List Token) :
    draw none (paintTokens budget tokens) = ⟨(Token.rowCells tokens).take budget, [], none⟩ := by
  rcases tokens with - | ⟨token, more⟩
  · simp [paintTokens, draw, Token.rowCells]
  · rcases budget with - | budget
    · rfl
    · have htoken := draw_paintToken (budget + 1) token
      rw [paintTokens, draw_append_of_strokes_nil (by rw [htoken]), htoken, draw_paintFurther]
      simp [Token.rowCells, List.take_append, Token.length_cells]

/-- **The row of a line is drawn up to the width of the screen.** -/
theorem draw_paintLine (width index : Nat) (line : Text) (table : WordColors) :
    draw none (paintLine width index line (Token.ofLine table line)) =
      ⟨(lineCells table index line).take width, [], none⟩ := by
  have hindent (budget : Nat) (rest : List Request) :
      draw none ((if 0 < Text.leadingSpaces line then
          [clip budget (Text.spaces (Text.leadingSpaces line))] else []) ++ rest) =
        let d := draw none rest
        { d with
          here := (plain (Text.spaces (Text.leadingSpaces line))).take budget ++ d.here } := by
    split
    · exact draw_clip none budget _ rest
    · rename_i hnone
      rw [Nat.eq_zero_of_not_pos hnone]
      simp [plain, Text.spaces]
  rw [paintLine, List.cons_append, draw_clip, hindent, draw_paintTokens]
  simp [lineCells, plain, Text.spaces, List.take_append, Nat.sub_sub]

/-! ### Painting the window -/

/-- The lines in the window are those from its offset on, as many as there are. -/
theorem visibleTokens_eq (doc : Document) (table : WordColors) :
    doc.visibleTokens table =
      (List.range' doc.window.offset
        (min doc.window.height (doc.size - doc.window.offset))).map fun index ↦
          (index, Token.ofLine table (doc.line index)) := by
  rw [Document.visibleTokens, Document.visibleLines, List.map_map]
  refine List.ext_getElem (by simp [Document.size]) fun r hr _ ↦ ?_
  have hline : doc.window.offset + r < doc.lines.length := by
    simp only [List.length_map, List.length_take, List.length_drop, List.length_zipIdx] at hr
    omega
  simp [Document.line_of_lt hline]

/-- A move to a row and a column that fit into 16 bits goes there. -/
theorem draw_goTo {column row : Nat} (hcolumn : column < 65536) (hrow : row < 65536)
    (pen : Option Color) (rest : List Request) :
    draw pen (goTo column row :: rest) =
      let d := draw pen rest
      ⟨[], ⟨column, row, d.here⟩ :: d.strokes, d.pen⟩ := by
  rw [goTo, draw, UInt16.toNat_ofNat_of_lt' hcolumn, UInt16.toNat_ofNat_of_lt' hrow]

/-- **Each line is one row**, from the row `row` on. -/
theorem draw_paintLines (s : Screen) (doc : Document) (table : WordColors) {row count : Nat}
    (h : row + count ≤ 65536) (index : Nat) :
    draw none (s.paintLines doc row ((List.range' index count).map fun index ↦
        (index, Token.ofLine table (doc.line index)))) =
      ⟨[], (List.range count).map fun r ↦
        ⟨0, row + r, (lineCells table (index + r) (doc.line (index + r))).take s.width⟩, none⟩ := by
  induction count generalizing row index with
  | zero => rfl
  | succ count ih =>
    have hrow := draw_paintLine s.width index (doc.line index) table
    have hmore := ih (show row + 1 + count ≤ 65536 by omega) (index + 1)
    rw [List.range'_succ, List.map_cons, paintLines, List.cons_append,
      draw_goTo (by omega) (by omega), draw_append_of_strokes_nil (by rw [hrow]), hrow, hmore,
      List.range_succ_eq_map, List.map_cons, List.map_map]
    simp [Function.comp_def, Nat.add_assoc, Nat.add_comm 1]

/-! ### Painting the screen -/

/-- No screen has more rows than 16 bits count. -/
theorem textRows_lt (s : Screen) : rowsAbove + s.textRows < 65536 := by
  have := s.size.height.toNat_lt
  simp only [textRows, rowsAbove, rowsBelow]
  omega

theorem draw_paintTop (s : Screen) (title : Text) (pen : Option Color) :
    draw pen (s.paintTop title) =
      ⟨[], [⟨0, 0, (("NanCo IDE - ".toList ++ title).take s.width).map (·, pen)⟩,
        ⟨0, 1, (keyReminder.take s.width).map (·, pen)⟩,
        ⟨0, 2, ((List.replicate s.width '─').take s.width).map (·, pen)⟩], pen⟩ := by
  simp [paintTop, draw_goTo, draw_clip, draw]

theorem draw_paintMessage (s : Screen) (message : Text) (pen : Option Color) :
    draw pen (s.paintMessage message) =
      ⟨[], [⟨0, s.bottomRow, (message.take s.width).map (·, pen)⟩], pen⟩ := by
  have hrow : s.bottomRow < 65536 := by
    have := s.size.height.toNat_lt
    rw [bottomRow]
    omega
  rw [paintMessage, draw_goTo (by omega) hrow]
  simp [draw, draw_clip]

theorem draw_paintMessage? (s : Screen) (pen : Option Color) :
    draw pen (match s.message with
        | some message => s.paintMessage message
        | none => []) =
      ⟨[], s.message.toList.map fun m ↦ ⟨0, s.bottomRow, (m.take s.width).map (·, pen)⟩, pen⟩ := by
  rcases s.message with - | message
  · rfl
  · exact draw_paintMessage s message pen

/-- The cursor is left in a column of the terminal, and in a row for text. -/
theorem parkingPlace_lt {s : Screen} {doc : Document} (hfit : doc.window.height = s.textRows) :
    (s.parkingPlace doc).1 < max s.size.width.toNat 1 ∧
      ∃ r < s.textRows, (s.parkingPlace doc).2 = rowsAbove + r := by
  have hheight : doc.window.WellFormed := Nat.le_trans s.one_le_textRows (Nat.le_of_eq hfit.symm)
  have hrow := Window.row?_lt hheight doc.cursor.line
  refine ⟨?_, (doc.window.row? doc.cursor.line).getD 0, hfit ▸ hrow, Nat.add_comm _ _⟩
  show min _ (s.size.width.toNat - 1) < max s.size.width.toNat 1
  omega

theorem draw_parking {s : Screen} {doc : Document} (hfit : doc.window.height = s.textRows)
    (pen : Option Color) :
    draw pen [goTo (s.parkingPlace doc).1 (s.parkingPlace doc).2, .flush] =
      ⟨[], [⟨(s.parkingPlace doc).1, (s.parkingPlace doc).2, []⟩], pen⟩ := by
  obtain ⟨hwidth, r, hr, hparking⟩ := parkingPlace_lt hfit
  have hcolumn : (s.parkingPlace doc).1 < 65536 := by
    have := s.size.width.toNat_lt
    omega
  have hrow : (s.parkingPlace doc).2 < 65536 := by
    have := s.textRows_lt
    omega
  rw [draw_goTo hcolumn hrow]
  rfl

/-- The rows above the text. -/
def topStrokes (s : Screen) (title : Text) : List Stroke :=
  [⟨0, 0, plain (("NanCo IDE - ".toList ++ title).take s.width)⟩,
    ⟨0, 1, plain (keyReminder.take s.width)⟩,
    ⟨0, 2, plain ((List.replicate s.width '─').take s.width)⟩]

/-- The number of lines that a document has in its window. -/
def lineCount (doc : Document) : Nat :=
  min doc.window.height (doc.size - doc.window.offset)

/-- A row of the window, with the line that is shown in it. -/
def lineStroke (s : Screen) (doc : Document) (table : WordColors) (r : Nat) : Stroke :=
  let index := doc.window.offset + r
  ⟨0, rowsAbove + r, (lineCells table index (doc.line index)).take s.width⟩

/-- The rows of the lines in the window. -/
def lineStrokes (s : Screen) (doc : Document) (table : WordColors) : List Stroke :=
  (List.range (lineCount doc)).map (s.lineStroke doc table)

/-- The row of the message, if there is one. -/
def messageStrokes (s : Screen) : List Stroke :=
  s.message.toList.map fun m ↦ ⟨0, s.bottomRow, plain (m.take s.width)⟩

/-- The place where the cursor is left, at which nothing is written. -/
def parkingStroke (s : Screen) (doc : Document) : Stroke :=
  ⟨(s.parkingPlace doc).1, (s.parkingPlace doc).2, []⟩

/-- **Painting draws these strokes**, whatever color is in force before it. -/
theorem draw_paint {s : Screen} {doc : Document} (hfit : doc.window.height = s.textRows)
    (title : Text) (table : WordColors) (pen : Option Color) :
    draw pen (s.paint doc title table) =
      ⟨[], s.topStrokes title ++ s.lineStrokes doc table ++ s.messageStrokes ++
        [s.parkingStroke doc], none⟩ := by
  have hrows : rowsAbove + lineCount doc ≤ 65536 := by
    have := s.textRows_lt
    have hcount : lineCount doc ≤ doc.window.height := Nat.min_le_left _ _
    omega
  have hlines := draw_paintLines s doc table hrows doc.window.offset
  have hmessage := draw_paintMessage? s none
  have hparking := draw_parking hfit none
  have hrest := draw_append_of_strokes (draw_paintTop s title none)
    (draw_append_of_strokes hlines (draw_append_of_strokes hmessage hparking))
  rw [paint, visibleTokens_eq, List.append_assoc, List.append_assoc, List.append_assoc]
  refine hrest.trans ?_
  simp [topStrokes, lineStrokes, lineStroke, messageStrokes, parkingStroke, plain]

end Screen

end Scriptpad
