import Scriptpad.Text.Basic

/-!
# Lines of a file

A file's text is cut into lines at each line feed. One carriage return directly before the line
feed belongs to the line's end and is dropped; a carriage return anywhere else stays. A final line
feed ends the last line and starts no further one, so the empty file has no line.

Writing ends every line with a line feed. Main statement: `lines_ofLines`, reading back what was
written returns each line less one carriage return at its end.
-/

namespace Scriptpad.Text

/-- The line without one carriage return at its end. -/
def dropReturn (line : Text) : Text :=
  if line.getLast? = some '\r' then line.dropLast else line

/-- The lines of a file's text. -/
def lines (t : Text) : List Text :=
  let cut := pieces (· == '\n') t
  cut.dropLast.map dropReturn ++ (cut.getLast?.toList.filter (· ≠ []))

/-- The text of a file with the given lines, each ended by a line feed. -/
def ofLines (ls : List Text) : Text :=
  ls.flatMap (· ++ ['\n'])

theorem pieces_ofLines {ls : List Text} (h : ∀ line ∈ ls, '\n' ∉ line) :
    pieces (· == '\n') (ofLines ls) = ls ++ [[]] := by
  induction ls with
  | nil => rfl
  | cons line ls ih =>
    simp only [List.mem_cons, forall_eq_or_imp] at h
    have hline : ∀ d ∈ line, (d == '\n') = false := by
      intro d hd
      simp only [beq_eq_false_iff_ne]
      rintro rfl
      exact h.1 hd
    have happend : ofLines (line :: ls) = line ++ '\n' :: ofLines ls := by
      simp [ofLines]
    rw [happend, pieces_append_cons rfl, pieces_of_forall hline, ih h.2, List.singleton_append,
      List.cons_append]

/-- Lines that hold no line feed come back from the file they were written to, each less one
carriage return at its end. -/
theorem lines_ofLines {ls : List Text} (h : ∀ line ∈ ls, '\n' ∉ line) :
    lines (ofLines ls) = ls.map dropReturn := by
  simp [lines, pieces_ofLines h]

end Scriptpad.Text
