import Scriptpad.Proofs.Document.History

/-!
# Documents without unsaved changes

The mark of a document is put on by every edit, and taken off by a load and by a save that succeeds.
So as long as it is off, the lines are those of the last time that it was off for a reason: right
after the document began, was loaded, or was saved with success. `IsSettled` says that a document is
in such a place of its history, and `Since` that none has come after it; every document with a
history has a last such place (`Reachable.exists_isSettled`).

A command that does not settle a document may leave it unmodified only by not touching the lines
(`unmodified_of_perform`). That is the step, and `Since.lines_eq` follows by going back along the
history.
-/

namespace Scriptpad.Document

variable {doc base : Document} {σ : Type}

/-! ### What puts the mark on -/

/-- A deletion marks the document, unless there is nothing to delete. -/
theorem deleteLeft_eq_self_or_modified (doc : Document) :
    doc.deleteLeft = doc ∨ doc.deleteLeft.modified = true := by
  rcases Nat.eq_zero_or_pos doc.cursor.column with hzero | hcolumn
  · rcases Nat.eq_zero_or_pos doc.cursor.line with hfirst | hline
    · exact .inl (deleteLeft_of_origin hzero hfirst)
    · rw [deleteLeft_of_line_pos hzero hline]
      exact .inr rfl
  · rw [deleteLeft_of_column_pos hcolumn]
    exact .inr rfl

/-! ### Places in a history -/

/-- A command with this report brings document and file together: it is a load, whatever came of it,
or a save that succeeded. -/
def Command.settles : Command → Option (Except FileError Nat) → Bool
  | .load _, _ => true
  | .save _, some (.ok _) => true
  | _, _ => false

/-- A document right after it began, was loaded, or was saved with success. -/
inductive IsSettled : Document → Prop
  | origin (o : Origin) : IsSettled o.document
  | perform {doc : Document} {σ : Type} (h : doc.Reachable) (c : Command) (store : Store σ)
      (files : σ) (hc : c.settles ((doc.perform c).perform store files).value.2 = true) :
      IsSettled ((doc.perform c).perform store files).value.1

/-- The document has come from `base` by commands of which none has settled it. -/
inductive Since (base : Document) : Document → Prop
  | refl : Since base base
  | perform {doc : Document} {σ : Type} (h : Since base doc) (c : Command) (store : Store σ)
      (files : σ) (hc : c.settles ((doc.perform c).perform store files).value.2 = false) :
      Since base ((doc.perform c).perform store files).value.1

/-- Every document with a history was settled at some time, and has come from there. -/
theorem Reachable.exists_isSettled (h : doc.Reachable) :
    ∃ base, base.IsSettled ∧ Since base doc := by
  induction h with
  | origin o => exact ⟨_, .origin o, .refl⟩
  | @perform doc σ hdoc c store files ih =>
    obtain ⟨base, hbase, hsince⟩ := ih
    -- A command that settles the document is the last one to do so; any other goes on from `base`.
    cases hc : c.settles ((doc.perform c).perform store files).value.2 with
    | true => exact ⟨_, .perform hdoc c store files hc, .refl⟩
    | false => exact ⟨base, hbase, hsince.perform c store files hc⟩

/-! ### The lines of an unmodified document -/

/-- A save that is refused leaves the document as it was. -/
theorem perform_save_of_not_settles {path : Path} {store : Store σ} {files : σ}
    (hc : (Command.save path).settles ((doc.perform (.save path)).perform store files).value.2 =
      false) :
    ((doc.perform (.save path)).perform store files).value.1 = doc := by
  simp only [Document.perform, Effect.bind_eq, Effect.perform_bind, Effect.pure_eq,
    Effect.perform_done, value_save] at hc ⊢
  cases hanswer : (store.write path doc.lines files).1 with
  | ok _ =>
    rw [hanswer] at hc
    cases hc
  | error cause => rfl

/-- **What leaves a document unmodified without settling it, touches no line.** -/
theorem unmodified_of_perform (c : Command) {store : Store σ} {files : σ}
    (hc : c.settles ((doc.perform c).perform store files).value.2 = false)
    (hclean : ((doc.perform c).perform store files).value.1.modified = false) :
    doc.modified = false ∧ ((doc.perform c).perform store files).value.1.lines = doc.lines := by
  cases c with
  -- An edit puts the mark on, but a deletion may find nothing to delete.
  | insert c => exact absurd hclean.symm Bool.false_ne_true
  | split => exact absurd hclean.symm Bool.false_ne_true
  | delete =>
    rcases deleteLeft_eq_self_or_modified doc with hsame | hmodified
    · have hresult : ((doc.perform .delete).perform store files).value.1 = doc := hsame
      rw [hresult] at hclean ⊢
      exact ⟨hclean, rfl⟩
    · exact absurd (hclean.symm.trans hmodified) Bool.false_ne_true
  | move d => exact ⟨(modified_move doc d).symm.trans hclean, lines_move doc d⟩
  | setHeight height => exact ⟨hclean, rfl⟩
  | load path => cases hc
  | save path =>
    have hsame := perform_save_of_not_settles hc
    rw [hsame] at hclean ⊢
    exact ⟨hclean, rfl⟩

/-- **The lines of an unmodified document** are those that it had when it was settled last. -/
theorem Since.lines_eq (h : Since base doc) (hclean : doc.modified = false) :
    doc.lines = base.lines := by
  induction h with
  | refl => rfl
  | perform _ c store files hc ih =>
    obtain ⟨hbefore, hlines⟩ := unmodified_of_perform c hc hclean
    exact hlines.trans (ih hbefore)

end Scriptpad.Document
