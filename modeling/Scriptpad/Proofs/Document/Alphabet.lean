import Scriptpad.Document.File

/-!
# Documents over an alphabet

Which characters a document is made of. Typing brings in the typed character and breaking a line
brings in spaces; deleting and moving bring in nothing. So the lines stay over an alphabet as long
as it has the space and whatever is typed.

The cursor need not be a position of the document here: a line that is missing counts as empty, and
an empty line is over every alphabet.
-/

namespace Scriptpad.Document

variable {doc : Document} {p : Char → Prop}

/-- Every character of every line has the property. -/
def Over (p : Char → Prop) (doc : Document) : Prop :=
  ∀ line ∈ doc.lines, ∀ c ∈ line, p c

/-- A blank document is over every alphabet. -/
theorem over_of_blank (h : doc.lines = [[]]) : doc.Over p := by
  rw [Over, h, List.forall_mem_singleton]
  exact fun c hc ↦ absurd hc List.not_mem_nil

/-- A document is over every alphabet that its lines are over, if it has any. -/
theorem over_ofLines {lines : List Text} (h : ∀ line ∈ lines, ∀ c ∈ line, p c) :
    (ofLines lines).Over p := by
  by_cases hempty : lines = []
  · exact over_of_blank (if_pos hempty)
  · rwa [Over, lines_ofLines_of_ne_nil hempty]

theorem Over.line (h : doc.Over p) (index : Nat) : ∀ c ∈ doc.line index, p c := by
  rw [Document.line, line?]
  cases hline : doc.lines[index]? with
  | none => exact fun c hc ↦ absurd hc List.not_mem_nil
  | some line => exact h line (List.mem_of_getElem? hline)

/-- What is in a list with one element changed, was there, or is what was changed. -/
theorem mem_of_mem_modify {α : Type} {f : α → α} {l : List α} {index : Nat} {a : α}
    (h : a ∈ l.modify index f) : a ∈ l ∨ ∃ b ∈ l, a = f b := by
  obtain ⟨place, hplace⟩ := List.getElem?_of_mem h
  rw [List.getElem?_modify] at hplace
  obtain ⟨b, hb, heq⟩ := Option.map_eq_some_iff.1 hplace
  have hmem : b ∈ l := List.mem_of_getElem? hb
  split at heq
  · exact .inr ⟨b, hmem, heq.symm⟩
  · exact .inl (heq ▸ hmem)

/-- A line that is changed within the alphabet leaves the document over it. -/
theorem Over.modify {next : Document} (h : doc.Over p) {lines : List Text} {index : Nat}
    {f : Text → Text} (hnext : next.lines = lines.modify index f) (hlines : lines ⊆ doc.lines)
    (hf : ∀ line, (∀ c ∈ line, p c) → ∀ c ∈ f line, p c) : next.Over p := by
  intro line hline
  rw [hnext] at hline
  rcases mem_of_mem_modify hline with hmem | ⟨old, hmem, rfl⟩
  · exact h line (hlines hmem)
  · exact hf old (h old (hlines hmem))

theorem Over.typeChar (h : doc.Over p) {c : Char} (hc : p c) : (doc.typeChar c).Over p := by
  refine h.modify rfl (List.Subset.refl _) fun line hline d hd ↦ ?_
  rcases List.mem_append.1 hd with hd | hd
  · exact hline d (List.mem_of_mem_take hd)
  · rcases List.mem_cons.1 hd with rfl | hd
    · exact hc
    · exact hline d (List.mem_of_mem_drop hd)

theorem Over.breakLine (h : doc.Over p) (hspace : p ' ') : doc.breakLine.Over p := by
  intro line hline
  rcases List.mem_append.1 hline with hmem | hmem
  · exact h line (List.mem_of_mem_take hmem)
  · rcases List.mem_cons.1 hmem with rfl | hmem
    · exact fun c hc ↦ h.line _ c (List.mem_of_mem_take hc)
    · rcases List.mem_cons.1 hmem with rfl | hmem
      · -- the new line's indentation is made of spaces
        intro c hc
        rcases List.mem_append.1 hc with hc | hc
        · rwa [List.eq_of_mem_replicate hc]
        · exact h.line _ c (List.mem_of_mem_drop hc)
      · exact h line (List.mem_of_mem_drop hmem)

theorem Over.deleteLeft (h : doc.Over p) : doc.deleteLeft.Over p := by
  unfold Document.deleteLeft
  split
  · refine h.modify rfl (List.Subset.refl _) fun line hline c hc ↦ ?_
    rcases List.mem_append.1 hc with hc | hc
    · exact hline c (List.mem_of_mem_take hc)
    · exact hline c (List.mem_of_mem_drop hc)
  · split
    · refine h.modify rfl List.eraseIdx_subset fun line hline c hc ↦ ?_
      rcases List.mem_append.1 hc with hc | hc
      · exact hline c hc
      · exact h.line _ c hc
    · exact h

theorem Over.move (h : doc.Over p) (d : Movement) : (doc.move d).Over p := by
  rwa [Over, lines_move]

end Scriptpad.Document
