import Scriptpad.Proofs.Document.Cursor

/-!
# Histories of a document

A document begins blank, with given lines, or with the text of a file, and from then on changes
through commands only, loads and saves among them. `Reachable` is the closure of the beginnings
under single commands. Each command may meet another store, in any state: nothing is assumed of the
files from one command to the next, neither that they stay nor that they can be read or written.

The invariant holds along every history because each command keeps it (`WellFormed.perform`) and
each beginning has it. Main statement: `invariant_after_commands`.
-/

namespace Scriptpad.Document

variable {doc : Document} {σ : Type}

/-! ### What loading and saving leave -/

theorem value_load (doc : Document) (path : Path) (store : Store σ) (files : σ) :
    ((doc.load path).perform store files).value =
      match (store.read path files).1 with
      | .ok lines => (doc.reloaded lines, .ok lines.length)
      | .error cause => (doc.reloaded [], .error (.load path cause)) := by
  rw [load, Effect.bind_eq, Effect.perform_bind, Effect.perform_readLines]
  cases (store.read path files).1 <;> rfl

theorem files_load (doc : Document) (path : Path) (store : Store σ) (files : σ) :
    ((doc.load path).perform store files).files = (store.read path files).2 := by
  rw [load, Effect.bind_eq, Effect.perform_bind, Effect.perform_readLines]
  cases (store.read path files).1 <;> rfl

theorem events_load (doc : Document) (path : Path) (store : Store σ) (files : σ) :
    ((doc.load path).perform store files).events =
      .read path :: match (store.read path files).1 with
        | .ok lines => [.notice (.documentLoaded path lines.length)]
        | .error cause => [.notice (.loadFailed (.load path cause))] := by
  rw [load, Effect.bind_eq, Effect.perform_bind, Effect.perform_readLines]
  cases (store.read path files).1 <;> rfl

/-- **A load forgets the document**: whatever the store answers, only the window's height stays. -/
theorem exists_reloaded_eq_load (doc : Document) (path : Path) (store : Store σ) (files : σ) :
    ∃ lines, ((doc.load path).perform store files).value.1 = doc.reloaded lines := by
  rw [value_load]
  cases (store.read path files).1 with
  | ok lines => exact ⟨lines, rfl⟩
  | error cause => exact ⟨[], rfl⟩

theorem value_save (doc : Document) (path : Path) (store : Store σ) (files : σ) :
    ((doc.save path).perform store files).value =
      match (store.write path doc.lines files).1 with
      | .ok () => ({ doc with modified := false }, .ok doc.size)
      | .error cause => (doc, .error (.save path cause)) := by
  rw [save, Effect.bind_eq, Effect.perform_bind, Effect.perform_writeLines]
  cases (store.write path doc.lines files).1 <;> rfl

theorem files_save (doc : Document) (path : Path) (store : Store σ) (files : σ) :
    ((doc.save path).perform store files).files = (store.write path doc.lines files).2 := by
  rw [save, Effect.bind_eq, Effect.perform_bind, Effect.perform_writeLines]
  cases (store.write path doc.lines files).1 <;> rfl

theorem events_save (doc : Document) (path : Path) (store : Store σ) (files : σ) :
    ((doc.save path).perform store files).events =
      .write path doc.lines :: match (store.write path doc.lines files).1 with
        | .ok () => [.notice (.documentSaved path doc.size)]
        | .error cause => [.notice (.saveFailed (.save path cause))] := by
  rw [save, Effect.bind_eq, Effect.perform_bind, Effect.perform_writeLines]
  cases (store.write path doc.lines files).1 <;> rfl

/-- **A save takes at most the mark off.** -/
theorem exists_modified_eq_save (doc : Document) (path : Path) (store : Store σ) (files : σ) :
    ∃ modified, ((doc.save path).perform store files).value.1 = { doc with modified } := by
  rw [value_save]
  cases (store.write path doc.lines files).1 with
  | ok _ => exact ⟨false, rfl⟩
  | error cause => exact ⟨doc.modified, rfl⟩

/-! ### Beginnings -/

/-- What a document begins with. -/
inductive Origin where
  | blank
  | lines (ls : List Text)
  | text (t : Text)
  deriving Repr, DecidableEq

/-- The document at its beginning. -/
def Origin.document : Origin → Document
  | .blank => .empty
  | .lines ls => .ofLines ls
  | .text t => .ofText t

theorem Origin.wellFormed (o : Origin) : o.document.WellFormed := by
  cases o with
  | blank => exact wellFormed_ofLines []
  | lines ls => exact wellFormed_ofLines ls
  | text t => exact wellFormed_ofLines (Text.lines t)

/-! ### The invariant along a history -/

theorem wellFormed_reloaded (doc : Document) (lines : List Text) :
    (doc.reloaded lines).WellFormed where
  line_lt := (wellFormed_ofLines lines).line_lt
  column_le := (wellFormed_ofLines lines).column_le
  height_pos := Window.wellFormed_ofHeight _
  visible := by simp [reloaded, ofLines, Window.contains, Window.ofHeight]

/-- **One command keeps the invariant**, whatever the store answers. -/
theorem WellFormed.perform (h : doc.WellFormed) (c : Command) (store : Store σ) (files : σ) :
    ((doc.perform c).perform store files).value.1.WellFormed := by
  cases c with
  | insert c => exact h.typeChar c
  | delete => exact h.deleteLeft
  | split => exact h.breakLine
  | move d => exact h.move d
  | setHeight height => exact wellFormed_resizeWindow h height
  | load path =>
    obtain ⟨lines, hload⟩ := exists_reloaded_eq_load doc path store files
    rw [Document.perform, Effect.bind_eq, Effect.perform_bind]
    -- what the command reports behind the load is dropped
    show ((doc.load path).perform store files).value.1.WellFormed
    rw [hload]
    exact wellFormed_reloaded doc lines
  | save path =>
    obtain ⟨modified, hsave⟩ := exists_modified_eq_save doc path store files
    rw [Document.perform, Effect.bind_eq, Effect.perform_bind]
    show ((doc.save path).perform store files).value.1.WellFormed
    rw [hsave]
    exact ⟨h.line_lt, h.column_le, h.height_pos, h.visible⟩

/-- The documents with a history. -/
inductive Reachable : Document → Prop
  | origin (o : Origin) : Reachable o.document
  | perform {doc : Document} {σ : Type} (h : Reachable doc) (c : Command) (store : Store σ)
      (files : σ) : Reachable ((doc.perform c).perform store files).value.1

theorem Reachable.move (h : doc.Reachable) (d : Movement) : (doc.move d).Reachable :=
  h.perform (.move d) ⟨fun _ files ↦ (.ok [], files), fun _ _ files ↦ (.ok (), files)⟩ ()

theorem Reachable.resizeWindow (h : doc.Reachable) (height : Nat) :
    (doc.resizeWindow height).Reachable :=
  h.perform (.setHeight height)
    ⟨fun _ files ↦ (.ok [], files), fun _ _ files ↦ (.ok (), files)⟩ ()

theorem Reachable.wellFormed (h : doc.Reachable) : doc.WellFormed := by
  induction h with
  | origin o => exact o.wellFormed
  | perform _ c store files ih => exact ih.perform c store files

/-- Carrying out a list of commands is a history. -/
theorem Reachable.performAll (h : doc.Reachable) (commands : List Command) (store : Store σ)
    (files : σ) : ((doc.performAll commands).perform store files).value.Reachable := by
  induction commands generalizing doc files with
  | nil => exact h
  | cons c more ih =>
    rw [Document.performAll, Effect.bind_eq, Effect.perform_bind]
    exact ih (h.perform c store files) ((doc.perform c).perform store files).files

/-- **The invariant of every history.** However a document begins, whatever commands are carried
out and whatever a store answers to the loads and saves among them: there is a line, the cursor is
on a line and not behind its end, and the window has a row and shows the cursor's line. -/
theorem invariant_after_commands (o : Origin) (commands : List Command) (store : Store σ)
    (files : σ) :
    let last := ((o.document.performAll commands).perform store files).value
    1 ≤ last.size ∧ last.cursor.line < last.size ∧
      last.cursor.column ≤ last.cursorLine.length ∧ 1 ≤ last.window.height ∧
      last.window.offset ≤ last.cursor.line ∧
      last.cursor.line ≤ last.window.offset + last.window.height - 1 := by
  intro last
  have hlast : last.WellFormed := ((Reachable.origin o).performAll commands store files).wellFormed
  have hline : last.cursor.line < last.size := hlast.line_lt
  obtain ⟨htop, hbottom⟩ := Window.contains_iff.1 hlast.visible
  exact ⟨by omega, hline, hlast.column_le, hlast.height_pos, htop, hbottom⟩

end Scriptpad.Document
