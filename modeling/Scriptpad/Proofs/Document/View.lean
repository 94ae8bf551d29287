import Scriptpad.Proofs.Document.Cursor

/-!
# What is seen of a document

Of the invariant of a document, the half about the window asks nothing of the text. Whether or not
the cursor is a position of the document, an edit or a movement takes it at most one line further,
and the window follows by one line (`Follows`). So as many lines are seen as before, and the
cursor's is among them if it was before: `KeepsView` says this of an operation.

A document may thus be given to a session with its cursor anywhere. Once a screen has fitted the
window, the cursor's line is seen and stays so.
-/

namespace Scriptpad

namespace Window

variable {w : Window} {line : Nat}

theorem not_outside_of_contains (h : w.contains line = true) :
    ¬line < w.offset ∧ ¬w.bottom < line := by
  obtain ⟨htop, hbottom⟩ := contains_iff.1 h
  exact ⟨Nat.not_lt.2 htop, Nat.not_lt.2 hbottom⟩

/-- A window does not move after a line that it shows. -/
theorem follow_of_contains (h : w.contains line = true) : w.follow line = w := by
  obtain ⟨htop, hbottom⟩ := not_outside_of_contains h
  rw [follow, if_neg htop, if_neg hbottom]

end Window

namespace Document

variable {doc next : Document}

/-- As many lines are seen as before, and the cursor's is among them if it was. -/
structure KeepsView (doc next : Document) : Prop where
  height : next.window.height = doc.window.height
  visible : doc.window.WellFormed → doc.window.contains doc.cursor.line = true →
    next.window.contains next.cursor.line = true

/-- The cursor has gone at most one line further, and the window has followed it. What does nothing
counts too. -/
inductive Follows (doc : Document) : Document → Prop
  | stay : doc.Follows doc
  | turn {next : Document} (hwindow : next.window = doc.window.follow next.cursor.line)
      (hup : doc.cursor.line ≤ next.cursor.line + 1)
      (hdown : next.cursor.line ≤ doc.cursor.line + 1) : doc.Follows next

theorem follows_typeChar (doc : Document) (c : Char) : doc.Follows (doc.typeChar c) :=
  .turn rfl (Nat.le_succ _) (Nat.le_succ _)

theorem follows_breakLine (doc : Document) : doc.Follows doc.breakLine :=
  .turn rfl (Nat.le_add_right _ 2) (Nat.le_refl _)

theorem follows_deleteLeft (doc : Document) : doc.Follows doc.deleteLeft := by
  rcases Nat.eq_zero_or_pos doc.cursor.column with hzero | hcolumn
  · rcases Nat.eq_zero_or_pos doc.cursor.line with hfirst | hline
    · rw [deleteLeft_of_origin hzero hfirst]
      exact .stay
    · rw [deleteLeft_of_line_pos hzero hline]
      refine .turn rfl ?_ (Nat.le_succ_of_le (Nat.sub_le _ 1))
      exact Nat.le_of_eq (Nat.sub_add_cancel hline).symm
  · rw [deleteLeft_of_column_pos hcolumn]
    exact .turn rfl (Nat.le_succ _) (Nat.le_succ _)

theorem follows_move (doc : Document) (d : Movement) : doc.Follows (doc.move d) := by
  cases htarget : doc.target? d with
  | none =>
    rw [Document.move, htarget]
    exact .stay
  | some position =>
    obtain ⟨hup, hdown⟩ := target?_line htarget
    rw [Document.move, htarget]
    exact .turn rfl hup hdown

/-- **Following the cursor by one line is enough** if it goes no further. -/
theorem Follows.keepsView (h : doc.Follows next) : doc.KeepsView next := by
  rcases h with - | ⟨hwindow, hup, hdown⟩
  · exact ⟨rfl, fun _ hvisible ↦ hvisible⟩
  · refine ⟨?_, fun hheight hvisible ↦ ?_⟩
    · rw [hwindow, Window.height_follow]
    · rw [hwindow]
      exact Window.contains_follow hheight hvisible hup hdown

theorem keepsView_typeChar (doc : Document) (c : Char) : doc.KeepsView (doc.typeChar c) :=
  (follows_typeChar doc c).keepsView

theorem keepsView_breakLine (doc : Document) : doc.KeepsView doc.breakLine :=
  (follows_breakLine doc).keepsView

theorem keepsView_deleteLeft (doc : Document) : doc.KeepsView doc.deleteLeft :=
  (follows_deleteLeft doc).keepsView

theorem keepsView_move (doc : Document) (d : Movement) : doc.KeepsView (doc.move d) :=
  (follows_move doc d).keepsView

end Document

end Scriptpad
