import Scriptpad.Proofs.Screen.Drawing

/-!
# The screen within the terminal

What is painted has to find room on a terminal of any size. `places` lists where painting moves the
cursor to, as natural numbers; requests carry 16 bits, so that these are the places that the strokes
begin at (`map_place_draw_paint`) says that no number has lost a digit on the way. Columns and rows
are bounded by sizes that are not zero: painting takes the first column of a terminal without any,
and the rows above the text together with one row of text even of a terminal that is lower.

How much is written is an account. Each write takes its characters off the budget of its row, and
`left?` keeps this account from outside, refusing a write that the budget does not cover. For
requests that stay in one row it comes out at the length of the row (`left?_eq`), so that rows cut
off at the width of the screen are rows that stay within the budget.

From five rows on the parts are in their own rows, one below another (`pairwise_rows`). On fewer the
row of the text is still painted, and the message may fall on it.
-/

namespace Scriptpad

namespace Terminal

/-- The place that a stroke begins at. -/
def Stroke.place (stroke : Stroke) : Nat × Nat :=
  (stroke.column, stroke.row)

/-- The stroke begins on a terminal of this size, a terminal without columns counting as one column
and one of less than four rows as four, and is no longer than the terminal is wide. -/
structure Stroke.Within (stroke : Stroke) (size : Size) : Prop where
  column_lt : stroke.column < max size.width.toNat 1
  row_lt : stroke.row < max size.height.toNat 4
  length_le : stroke.cells.length ≤ size.width.toNat

/-- Cells that are cut off at the terminal's width, from the first column of a row on. -/
theorem Stroke.within_row {size : Size} {row : Nat} (h : row < max size.height.toNat 4)
    {cells : List Cell} (hcells : cells.length ≤ size.width.toNat) :
    (Stroke.mk 0 row cells).Within size :=
  ⟨Nat.lt_of_lt_of_le Nat.zero_lt_one (Nat.le_max_right _ 1), h, hcells⟩

/-! ### The account of a row -/

/-- What is left of a budget of characters after requests, if each text that is written finds as
many as it has. -/
def left? : Nat → List Request → Option Nat
  | budget, [] => some budget
  | budget, .write t :: rest =>
    if t.length ≤ budget then left? (budget - t.length) rest else none
  | budget, _ :: rest => left? budget rest

/-- **The account of requests that move the cursor nowhere** comes out at what they write. -/
theorem left?_eq {pen : Option Color} {requests : List Request}
    (h : (draw pen requests).strokes = []) (budget : Nat) :
    left? budget requests =
      if (draw pen requests).here.length ≤ budget then
        some (budget - (draw pen requests).here.length)
      else none := by
  induction requests generalizing pen budget with
  | nil => rfl
  | cons request rest ih =>
    cases request with
    | moveTo column row => exact absurd h (List.cons_ne_nil _ _)
    | write t =>
      have hlength : (draw pen (.write t :: rest)).here.length =
          t.length + (draw pen rest).here.length := by
        rw [draw, List.length_append, List.length_map]
      rw [left?, hlength]
      rcases Nat.lt_or_ge budget t.length with hless | hcovers
      · rw [if_neg (Nat.not_le.2 hless), if_neg (by omega)]
      · rw [if_pos hcovers, ih h, Nat.sub_add_eq]
        exact ite_congr (propext (by omega)) (fun _ ↦ rfl) (fun _ ↦ rfl)
    | color c => exact ih h budget
    | defaultColor => exact ih h budget
    | clearToEnd | clear | beep | flush => exact ih h budget

end Terminal

open Terminal

namespace Screen

/-- Clipping a text never overdraws the budget, and leaves what the text does not need. -/
theorem left?_clip (budget : Nat) (t : Text) :
    left? budget [clip budget t] = some (budget - t.length) := by
  have hlength : (t.take budget).length = min budget t.length := List.length_take
  rw [clip, left?, if_pos (by omega), left?, hlength]
  exact congrArg some (by omega)

/-- **A row never overdraws the width of the screen.** -/
theorem left?_paintLine (width index : Nat) (line : Text) (table : WordColors) :
    left? width (paintLine width index line (Token.ofLine table line)) =
      some (width - (lineCells table index line).length) := by
  have hdraw := draw_paintLine width index line table
  have hstay : (draw none (paintLine width index line (Token.ofLine table line))).strokes = [] := by
    rw [hdraw]
  have hlength : ((lineCells table index line).take width).length =
      min width (lineCells table index line).length := List.length_take
  rw [left?_eq hstay, hdraw, hlength, if_pos (Nat.min_le_left _ _)]
  exact congrArg some (by omega)

/-! ### Places -/

/-- Where painting moves the cursor to, in order. -/
def places (s : Screen) (doc : Document) : List (Nat × Nat) :=
  [(0, 0), (0, 1), (0, 2)] ++ (List.range (lineCount doc)).map (fun r ↦ (0, rowsAbove + r)) ++
    s.message.toList.map (fun _ ↦ (0, s.bottomRow)) ++ [s.parkingPlace doc]

theorem map_place_draw_paint {s : Screen} {doc : Document} (hfit : doc.window.height = s.textRows)
    (title : Text) (table : WordColors) (pen : Option Color) :
    (draw pen (s.paint doc title table)).strokes.map Stroke.place = s.places doc := by
  rw [draw_paint hfit]
  simp [topStrokes, lineStrokes, lineStroke, messageStrokes, parkingStroke, places, Stroke.place,
    Function.comp_def]

theorem draw_paintPrompt (s : Screen) (question answer : Text) (pen : Option Color) :
    draw pen (s.paintPrompt question answer) =
      ⟨[], [⟨0, s.bottomRow, ((question ++ answer).take s.width).map (·, pen)⟩], pen⟩ := by
  have hflush : draw pen [.flush] = ⟨[], [], pen⟩ := rfl
  rw [paintPrompt, draw_append_of_strokes (draw_paintMessage s _ pen) hflush, List.append_nil]

/-! ### Bounds -/

theorem bottomRow_lt (s : Screen) : s.bottomRow < max s.size.height.toNat 4 := by
  show s.size.height.toNat - 1 < max s.size.height.toNat 4
  omega

/-- A row for text is one of the terminal's, which counts as having four at least. -/
theorem textRow_lt (s : Screen) {r : Nat} (h : r < s.textRows) :
    rowsAbove + r < max s.size.height.toNat 4 := by
  have hrows : r < max (s.size.height.toNat - 4) 1 := h
  show 3 + r < max s.size.height.toNat 4
  omega

/-- **All strokes are within the terminal**, those of the question too. -/
theorem within_of_mem_draw {s : Screen} {doc : Document} (hfit : doc.window.height = s.textRows)
    (title question answer : Text) (table : WordColors) (pen : Option Color) :
    ∀ stroke ∈ (draw pen (s.paint doc title table)).strokes ++
      (draw pen (s.paintPrompt question answer)).strokes, stroke.Within s.size := by
  have hplain (t : Text) (pen : Option Color) :
      ((t.take s.width).map (·, pen)).length ≤ s.size.width.toNat := by
    rw [List.length_map]
    exact List.length_take_le _ _
  have htop {row : Nat} (h : row < 4) : row < max s.size.height.toNat 4 :=
    Nat.lt_of_lt_of_le h (Nat.le_max_right _ 4)
  rw [draw_paint hfit, draw_paintPrompt]
  simp only [List.forall_mem_append, List.forall_mem_singleton]
  refine ⟨⟨⟨⟨?_, ?_⟩, ?_⟩, ?_⟩, Stroke.within_row s.bottomRow_lt (hplain _ pen)⟩
  · refine List.forall_mem_cons.2 ⟨?_, List.forall_mem_cons.2 ⟨?_, List.forall_mem_singleton.2 ?_⟩⟩
    all_goals exact Stroke.within_row (htop (by decide)) (hplain _ none)
  · refine List.forall_mem_map.2 fun r hr ↦ Stroke.within_row (s.textRow_lt ?_) ?_
    · have hcount : r < min doc.window.height (doc.size - doc.window.offset) := List.mem_range.1 hr
      omega
    · exact List.length_take_le _ _
  · exact List.forall_mem_map.2 fun m _ ↦ Stroke.within_row s.bottomRow_lt (hplain m none)
  · obtain ⟨hcolumn, r, hr, hrow⟩ := parkingPlace_lt hfit
    refine ⟨hcolumn, ?_, Nat.zero_le _⟩
    show (s.parkingPlace doc).2 < _
    rw [hrow]
    exact s.textRow_lt hr

/-- The rows of the strokes, in the order in which they are painted. -/
theorem map_row_draw_paint {s : Screen} {doc : Document} (hfit : doc.window.height = s.textRows)
    (title : Text) (table : WordColors) (pen : Option Color) :
    (draw pen (s.paint doc title table)).strokes.map (·.row) =
      [0, 1, 2] ++ List.range' 3 (lineCount doc) ++ s.message.toList.map (fun _ ↦ s.bottomRow) ++
        [(s.parkingPlace doc).2] := by
  rw [draw_paint hfit, List.range'_eq_map_range]
  simp [topStrokes, lineStrokes, lineStroke, messageStrokes, parkingStroke, rowsAbove,
    Function.comp_def]

/-- **From five rows on, no two parts of the screen share a row.** -/
theorem pairwise_rows {s : Screen} {doc : Document} (hfit : doc.window.height = s.textRows)
    (h : 5 ≤ s.size.height.toNat) :
    ([0, 1, 2] ++ List.range' 3 (lineCount doc) ++ [s.bottomRow]).Pairwise (· < ·) := by
  have hcount : lineCount doc ≤ max (s.size.height.toNat - 4) 1 :=
    Nat.le_trans (Nat.min_le_left _ _) (Nat.le_of_eq hfit)
  have hbottom : s.bottomRow = s.size.height.toNat - 1 := rfl
  rw [List.append_assoc, List.pairwise_append, List.pairwise_append]
  refine ⟨by decide, ⟨List.pairwise_lt_range', List.pairwise_singleton _ _, ?_⟩, ?_⟩
  · intro row hrow bottom hmem
    obtain ⟨-, hlast⟩ := List.mem_range'_1.1 hrow
    obtain rfl := List.mem_singleton.1 hmem
    omega
  · intro top htop row hrow
    have hthree : top < 3 := by
      revert top
      decide
    rcases List.mem_append.1 hrow with htext | hmem
    · obtain ⟨hfirst, -⟩ := List.mem_range'_1.1 htext
      omega
    · obtain rfl := List.mem_singleton.1 hmem
      omega

/-- **Painting stays within the terminal**, whatever its size, whatever the document, and with any
title, message and question, as long as the window is as high as the screen has rows for text.
Nothing is written before the first move of the cursor. The moves arrive at the places that were
computed, so no number was too large for 16 bits; each is on the terminal, or in its first column,
or in its first four rows, if it has none or fewer; and what is written there until the next move is
not longer than the terminal is wide. The budget of a row is never overdrawn. On a terminal of five
rows or more every row is one of its rows, and the three rows above the text, those of the text, and
the one of messages and questions are all different, each part below the one before it. -/
theorem painting_stays_inside {s : Screen} {doc : Document}
    (hfit : doc.window.height = s.textRows) (title question answer : Text) (table : WordColors)
    (pen : Option Color) :
    let height := s.size.height.toNat
    let painted := draw pen (s.paint doc title table)
    let asked := draw pen (s.paintPrompt question answer)
    let textRows := List.range' 3 (lineCount doc)
    (painted.here = [] ∧ painted.strokes.map Stroke.place = s.places doc) ∧
    (asked.here = [] ∧ asked.strokes.map Stroke.place = [(0, s.bottomRow)]) ∧
    (∀ stroke ∈ painted.strokes ++ asked.strokes, stroke.Within s.size) ∧
    (∀ budget t, left? budget [clip budget t] = some (budget - t.length)) ∧
    (∀ index line, left? s.width (paintLine s.width index line (Token.ofLine table line)) =
      some (s.width - (lineCells table index line).length)) ∧
    (5 ≤ height →
      (∀ stroke ∈ painted.strokes ++ asked.strokes, stroke.row < height) ∧
      painted.strokes.map (·.row) = [0, 1, 2] ++ textRows ++
        s.message.toList.map (fun _ ↦ height - 1) ++ [(s.parkingPlace doc).2] ∧
      asked.strokes.map (·.row) = [height - 1] ∧
      ([0, 1, 2] ++ textRows ++ [height - 1]).Pairwise (· < ·) ∧
      3 ≤ (s.parkingPlace doc).2 ∧ (s.parkingPlace doc).2 ≤ height - 2) := by
  intro height painted asked textRows
  have hasked : asked = _ := draw_paintPrompt s question answer pen
  have hwithin := within_of_mem_draw hfit title question answer table pen
  refine ⟨⟨?_, map_place_draw_paint hfit title table pen⟩, ?_, hwithin, left?_clip,
    fun index line ↦ left?_paintLine s.width index line table, fun hfive ↦ ?_⟩
  · show (draw pen (s.paint doc title table)).here = []
    rw [draw_paint hfit]
  · rw [hasked]
    exact ⟨rfl, rfl⟩
  · obtain ⟨-, r, hr, hrow⟩ := parkingPlace_lt hfit
    have hr : r < max (s.size.height.toNat - 4) 1 := hr
    have hparking : (s.parkingPlace doc).2 = 3 + r := hrow
    refine ⟨fun stroke hmem ↦ ?_, map_row_draw_paint hfit title table pen, ?_,
      pairwise_rows hfit hfive, by omega, ?_⟩
    · have hlt := (hwithin stroke hmem).row_lt
      rwa [Nat.max_eq_left (Nat.le_of_succ_le hfive)] at hlt
    · rw [hasked]
      rfl
    · show (s.parkingPlace doc).2 ≤ s.size.height.toNat - 2
      omega

/-- On a terminal without rows and columns, moves still go to its first column and to the four rows
that painting needs. On one of nine columns and six rows a line too many is left out. -/
theorem painting_stays_inside_nothing :
    let tiny : Screen := { size := ⟨0, 0⟩, message := some "no".toList }
    let small : Screen := { size := ⟨9, 6⟩, message := some "saved as x".toList }
    let doc := Document.ofLines ["var".toList, [], "x".toList]
    let one := doc.resizeWindow 1
    let two := doc.resizeWindow 2
    let rows := fun (s : Screen) (doc : Document) ↦
      (draw none (s.paint doc [] .standard)).strokes.map (·.row)
    one.window.height = tiny.textRows ∧ two.window.height = small.textRows ∧
      (draw none (tiny.paint one [] .standard)).strokes.map Stroke.place =
        [(0, 0), (0, 1), (0, 2), (0, 3), (0, 0), (0, 3)] ∧
      rows small two = [0, 1, 2, 3, 4, 5, 3] ∧
      left? 9 (paintLine 9 0 "var".toList (Token.ofLine .standard "var".toList)) = some 0 := by
  intro tiny small doc one two rows
  have hone : one.window.height = tiny.textRows := by decide
  have htwo : two.window.height = small.textRows := by decide
  obtain ⟨⟨-, hplaces⟩, -⟩ := painting_stays_inside hone [] [] [] .standard none
  obtain ⟨-, -, -, -, hleft, hfive⟩ := painting_stays_inside htwo [] [] [] .standard none
  obtain ⟨-, hrows, -⟩ := hfive (by decide)
  exact ⟨hone, htwo, hplaces.trans (by decide), hrows.trans (by decide), hleft 0 "var".toList⟩

end Screen

end Scriptpad
