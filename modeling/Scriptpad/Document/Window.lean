/-!
# The window on a document

A window shows a run of consecutive lines of a document: `height` lines from `offset` on. While the
cursor moves, the window follows it by one line at a time and never jumps; only a change of its
height moves it further, by as little as keeps the cursor's line inside.

Main statements: `contains_follow` (one step suffices for a line at most one line outside) and
`contains_resize`.
-/

namespace Scriptpad

/-- A run of `height` lines from `offset` on. -/
structure Window where
  offset : Nat
  height : Nat
  deriving Repr, DecidableEq

namespace Window

/-- A window shows at least one line. -/
def WellFormed (w : Window) : Prop :=
  1 ≤ w.height

/-- The window at the top of a document. -/
def ofHeight (height : Nat) : Window :=
  ⟨0, max height 1⟩

/-- The last line shown. -/
def bottom (w : Window) : Nat :=
  w.offset + w.height - 1

/-- Whether a line is shown. -/
def contains (w : Window) (line : Nat) : Bool :=
  w.offset ≤ line && line ≤ w.bottom

/-- The row of the window in which a line is shown. -/
def row? (w : Window) (line : Nat) : Option Nat :=
  if w.contains line then some (line - w.offset) else none

/-- The window, moved by one line towards a line outside of it. -/
def follow (w : Window) (line : Nat) : Window :=
  if line < w.offset then { w with offset := w.offset - 1 }
  else if w.bottom < line then { w with offset := w.offset + 1 }
  else w

/-- The window, moved by as little as makes it show `line`. -/
def reveal (w : Window) (line : Nat) : Window :=
  if line < w.offset then { w with offset := line }
  else if w.bottom < line then { w with offset := line + 1 - w.height }
  else w

/-- The window with another height, moved by as little as makes it show `line`. -/
def resize (w : Window) (height line : Nat) : Window :=
  { w with height := max height 1 }.reveal line

/-! ### Laws -/

theorem contains_iff {w : Window} {line : Nat} :
    w.contains line = true ↔ w.offset ≤ line ∧ line ≤ w.offset + w.height - 1 := by
  rw [contains, Bool.and_eq_true, decide_eq_true_iff, decide_eq_true_iff]
  exact Iff.rfl

theorem wellFormed_ofHeight (height : Nat) : (ofHeight height).WellFormed :=
  Nat.le_max_right height 1

@[simp] theorem height_follow (w : Window) (line : Nat) : (w.follow line).height = w.height := by
  unfold follow
  split
  · rfl
  · split <;> rfl

@[simp] theorem height_reveal (w : Window) (line : Nat) : (w.reveal line).height = w.height := by
  unfold reveal
  split
  · rfl
  · split <;> rfl

@[simp] theorem height_resize (w : Window) (height line : Nat) :
    (w.resize height line).height = max height 1 :=
  height_reveal _ line

/-- A window that shows `line` shows any line next to it after following it. -/
theorem contains_follow {w : Window} (hw : w.WellFormed) {line next : Nat}
    (h : w.contains line = true) (hup : line ≤ next + 1) (hdown : next ≤ line + 1) :
    (w.follow next).contains next = true := by
  rw [contains_iff] at h ⊢
  rw [height_follow]
  unfold WellFormed at hw
  have hoffset : (w.follow next).offset =
      if next < w.offset then w.offset - 1
      else if w.bottom < next then w.offset + 1 else w.offset := by
    unfold follow
    split
    · rfl
    · split <;> rfl
  have hbottom : w.bottom = w.offset + w.height - 1 := rfl
  rw [hoffset]
  split
  · omega
  · split <;> omega

/-- A window shows the line that it was moved to show. -/
theorem contains_reveal {w : Window} (hw : w.WellFormed) (line : Nat) :
    (w.reveal line).contains line = true := by
  rw [contains_iff, height_reveal]
  unfold WellFormed at hw
  have hoffset : (w.reveal line).offset =
      if line < w.offset then line
      else if w.bottom < line then line + 1 - w.height else w.offset := by
    unfold reveal
    split
    · rfl
    · split <;> rfl
  have hbottom : w.bottom = w.offset + w.height - 1 := rfl
  rw [hoffset]
  split
  · omega
  · split <;> omega

theorem wellFormed_resize (w : Window) (height line : Nat) :
    (w.resize height line).WellFormed := by
  rw [WellFormed, height_resize]
  exact Nat.le_max_right height 1

/-- A window shows the line for which it was resized. -/
theorem contains_resize (w : Window) (height line : Nat) :
    (w.resize height line).contains line = true :=
  contains_reveal (w := { w with height := max height 1 }) (Nat.le_max_right height 1) line

end Window

end Scriptpad
