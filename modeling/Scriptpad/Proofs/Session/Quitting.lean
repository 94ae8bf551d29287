import Scriptpad.Proofs.Session.Saving
import Scriptpad.Proofs.Storage.Keeping

/-!
# Quitting with unsaved changes

A session with unsaved changes asks whether to save them before it ends. Answering yes makes it
save, under a name that is asked for if there is no path yet, and then the session ends, whatever
came of the save. So yes is a promise that is kept exactly when there is a path to write to and the
store accepts the write (`yes_saves_iff_accepted`). If the write is refused, or the name is given up
or blank, the session ends all the same and its changes are gone (`yes_loses_unwritten_changes`).

Two facts carry the first statement. `after_save` follows the inputs through the question for a
name, and `perform_quit_yes` says what is left on each way; these are the only places where the
conversation is looked into. Everything else is a comparison of what is left with what the store was
asked.
-/

namespace Scriptpad

namespace Session

open Dialogue

variable {s : Session} {σ : Type} (store : Store σ) (files : σ)

/-! ### The save that ends a session -/

/-- The session `s` on `files` has ended as `last`, leaving `rest`, after a save to `path?`. -/
structure EndsAfterSave (s : Session) (store : Store σ) (files : σ) (path? : Option Path)
    (last : Session) (rest : σ) : Prop where
  ended : last.running = false
  path : last.path = path?
  left : (last.document, rest) = s.document.writtenTo store files path?

section

variable {store files} {path? : Option Path} {last : Session} {rest : σ}

/-- What has ended after a save has its changes saved, and in the file that it is bound to, if the
store has accepted the write. -/
theorem EndsAfterSave.of_accepted {path : Path} {holds : Path → List Text → σ → Prop}
    (h : s.EndsAfterSave store files (some path) last rest) (hkeeps : store.Keeps holds)
    (haccepted : (store.write path s.document.lines files).1 = .ok ()) :
    last.document = { s.document with modified := false } ∧
      holds path last.document.lines rest := by
  have hleft := h.left
  simp only [Document.writtenTo, haccepted, Document.written] at hleft
  obtain ⟨hdocument, rfl⟩ := Prod.mk.inj hleft
  refine ⟨hdocument, ?_⟩
  rw [hdocument]
  exact hkeeps path s.document.lines files haccepted

/-- Otherwise its document is what it was. -/
theorem EndsAfterSave.of_not_accepted (h : s.EndsAfterSave store files path? last rest)
    (hrefused : ¬∃ path, path? = some path ∧
      (store.write path s.document.lines files).1 = .ok ()) :
    last.document = s.document := by
  have hdocument : last.document = (s.document.writtenTo store files path?).1 :=
    congrArg Prod.fst h.left
  cases path? with
  | none => exact hdocument
  | some path =>
    cases hanswer : (store.write path s.document.lines files).1 with
    | ok _ => exact absurd ⟨path, rfl, hanswer⟩ hrefused
    | error cause =>
      rw [Document.writtenTo, hanswer] at hdocument
      exact hdocument

end

/-- Once it is clear where to, a save that was to end the session does so, whatever comes of it. -/
theorem perform_saveNamed_quit {path? : Option Path} (hpath : s.path = none ∨ s.path = path?) :
    let out := (s.saveNamed path? .quit).perform store files
    out.value.2 = .command ∧ s.EndsAfterSave store files path? out.value.1 out.files := by
  cases path? with
  | none => exact ⟨rfl, rfl, hpath.elim id id, rfl⟩
  | some path =>
    have hnamed : (s.named (some path)).path = some path := by
      rcases hpath with hnone | hsome
      · rw [named_of_none hnone, path_bindPath]
      · rw [named_of_some hsome, hsome]
    have hdocument := document_saveTo store files (s.named (some path)) path
    have hfiles := files_saveTo store files (s.named (some path)) path
    rw [document_named] at hdocument hfiles
    rw [saveNamed, Effect.perform_bind]
    exact ⟨rfl, rfl, (path_saveTo store files _ path).trans hnamed, Prod.ext hdocument hfiles⟩

/-! ### Answering yes -/

theorem act_quit (hmodified : s.document.modified = true) (size : Terminal.Size) :
    (Dialogue.act ⟨s, .command, size⟩ .quit).perform store files =
      ⟨⟨s, .answer, size⟩, files, []⟩ := by
  simp only [Dialogue.act, Session.act, hmodified, if_true]
  rfl

theorem reaction_yes {k : Key} (hyes : k.code = .char 'y' ∨ k.code = .char 'Y')
    (size : Terminal.Size) :
    (⟨s, .answer, size⟩ : Dialogue).reaction (.key k) = s.save .quit := by
  rw [reaction_answer, receiveAnswer, Input.toKey, if_pos]
  rcases hyes with hyes | hyes <;> rw [hyes] <;> rfl

/-- After a yes, what is left is what the inputs behind it make of a save. -/
theorem perform_quit_yes_state (hmodified : s.document.modified = true) {k : Key}
    (hyes : k.code = .char 'y' ∨ k.code = .char 'Y') (size : Terminal.Size)
    (inputs : List Input) :
    let r := s.perform store size .quit (.key k :: inputs) files
    let out := (s.save .quit).perform store files
    let last := after store isAtRest inputs (⟨out.value.1, out.value.2, size⟩, out.files)
    (r.session, r.files) = (last.1.session, last.2) := by
  have hstate := perform_state s store files size .quit (.key k :: inputs)
  have hasked : isAtRest ⟨s, .answer, size⟩ = false := rfl
  simp only [act_quit store files hmodified, after_cons, turn_of_unfinished hasked,
    reaction_yes hyes] at hstate
  exact hstate

/-- A single action stops where a command is waited for. -/
theorem after_isAtRest {waiting : Waiting} (h : waiting = .command) (size : Terminal.Size)
    (inputs : List Input) :
    after store isAtRest inputs (⟨s, waiting, size⟩, files) = (⟨s, waiting, size⟩, files) :=
  after_of_finished (decide_eq_true h) inputs

/-- **What is left when quitting is answered with yes**: the session has ended after a save to the
path it has or is given, unless it still asks for one. -/
theorem perform_quit_yes (hmodified : s.document.modified = true) {k : Key}
    (hyes : k.code = .char 'y' ∨ k.code = .char 'Y') (size : Terminal.Size)
    (inputs : List Input) :
    let r := s.perform store size .quit (.key k :: inputs) files
    if s.path = none ∧ nameAnswer? [] inputs = none then r.session = s ∧ r.files = files
    else s.EndsAfterSave store files (s.savePath? inputs) r.session r.files := by
  intro r
  obtain ⟨hsession, hfiles⟩ := Prod.mk.inj
    (perform_quit_yes_state store files hmodified hyes size inputs)
  have hsave := after_save store files (isAtRest_fileName s .quit) inputs size
  dsimp only at hsave
  split at hsave
  · rename_i hasked
    obtain ⟨typed, size', hlast⟩ := hsave
    rw [hlast] at hsession hfiles
    rw [if_pos hasked]
    exact ⟨hsession, hfiles⟩
  · rename_i hanswered
    obtain ⟨more, size', hlast⟩ := hsave
    have hpath : s.path = none ∨ s.path = s.savePath? inputs := by
      cases hpath : s.path with
      | none => exact .inl rfl
      | some path => exact .inr (savePath?_of_some hpath inputs).symm
    obtain ⟨hwaiting, hends⟩ := perform_saveNamed_quit store files hpath
    rw [hlast, after_isAtRest store _ hwaiting] at hsession hfiles
    rw [if_neg hanswered, hsession, hfiles]
    exact hends

/-- **Yes saves exactly if the store accepts.** The session ends if it has a path or the question
for a name is answered; it ends with its changes saved if there is a path after all and the store
accepts the write, and with its changes lost otherwise. -/
theorem yes_saves_iff_accepted {holds : Path → List Text → σ → Prop} (hkeeps : store.Keeps holds)
    (hmodified : s.document.modified = true) {k : Key}
    (hyes : k.code = .char 'y' ∨ k.code = .char 'Y') (size : Terminal.Size)
    (inputs : List Input) :
    let r := s.perform store size .quit (.key k :: inputs) files
    (r.session.running = false ↔
      s.running = false ∨ s.path ≠ none ∨ nameAnswer? [] inputs ≠ none) ∧
    r.session.document.lines = s.document.lines ∧
    (r.session.document.modified = false ↔
      ∃ path, s.savePath? inputs = some path ∧
        (store.write path s.document.lines files).1 = .ok ()) ∧
    (r.session.document.modified = false →
      ∃ path, r.session.path = some path ∧ holds path r.session.document.lines r.files) := by
  intro r
  have hleft := perform_quit_yes store files hmodified hyes size inputs
  split at hleft
  · -- The name is still asked for, and nothing has happened.
    rename_i hasked
    have hsession : r.session = s := hleft.1
    rw [hsession, savePath?_of_asked hasked]
    simp [hasked.1, hasked.2, hmodified]
  · rename_i hanswered
    have hends : s.EndsAfterSave store files (s.savePath? inputs) r.session r.files := hleft
    have hended : s.running = false ∨ s.path ≠ none ∨ nameAnswer? [] inputs ≠ none :=
      .inr (Decidable.not_and_iff_not_or_not.1 hanswered)
    refine ⟨iff_of_true hends.ended hended, ?_⟩
    by_cases haccepted : ∃ path, s.savePath? inputs = some path ∧
        (store.write path s.document.lines files).1 = .ok ()
    · obtain ⟨path, hpath, haccepted⟩ := haccepted
      rw [hpath] at hends
      obtain ⟨hdocument, hholds⟩ := hends.of_accepted hkeeps haccepted
      refine ⟨by rw [hdocument], ?_, fun _ ↦ ⟨path, hends.path, hholds⟩⟩
      exact iff_of_true (by rw [hdocument]) ⟨path, hpath, haccepted⟩
    · have hdocument := hends.of_not_accepted haccepted
      have hdirty : ¬r.session.document.modified = false := by simp [hdocument, hmodified]
      exact ⟨by rw [hdocument], iff_of_false hdirty haccepted, fun h ↦ absurd h hdirty⟩

/-- A session in which one character was typed. -/
def draft (path : Option Path) : Session :=
  start ((Document.ofLines []).typeChar 'x') ⟨⟨80, 24⟩, none⟩
    { scriptExtension := [], highlightExtensions := [], logFile := [], keywords := ∅ } path

/-- A draft without a path is saved under the name that is typed after the yes. -/
theorem yes_saves_under_typed_name :
    let r := (draft none).perform Memory.store ⟨80, 24⟩ .quit
      [.key ⟨.char 'y', {}⟩, .key ⟨.char 'a', {}⟩, .key ⟨.enter, {}⟩] {}
    (draft none).document.modified = true ∧ r.session.running = false ∧
      r.session.document.lines = ["x".toList] ∧ r.session.document.modified = false ∧
      ∃ path, r.session.path = some path ∧
        r.files.lines? path = some r.session.document.lines := by
  intro r
  have hmodified : (draft none).document.modified = true := by decide
  obtain ⟨hended, hlines, haccepted, hkept⟩ := yes_saves_iff_accepted Memory.store {}
    Memory.keeps hmodified (k := ⟨.char 'y', {}⟩) (.inl rfl) ⟨80, 24⟩
    [.key ⟨.char 'a', {}⟩, .key ⟨.enter, {}⟩]
  have hclean := haccepted.2 ⟨"a".toList, by decide, rfl⟩
  exact ⟨hmodified, hended.2 (.inr (.inr (by decide))), hlines.trans (by decide), hclean,
    hkept hclean⟩

/-- **Yes loses changes** that the store refuses to write, and those of a draft for which the name
is given up: the session has ended, its changes are unsaved, and no file holds them. -/
theorem yes_loses_unwritten_changes :
    let refused := (draft (some "a.ns".toList)).perform Memory.store ⟨80, 24⟩ .quit
      [.key ⟨.char 'y', {}⟩] { refusesWrites := true }
    let cancelled := (draft none).perform Memory.store ⟨80, 24⟩ .quit
      [.key ⟨.char 'y', {}⟩, .key ⟨.escape, {}⟩] {}
    (refused.session.running = false ∧ refused.session.document.modified = true ∧
      refused.files.files = ∅) ∧
    (cancelled.session.running = false ∧ cancelled.session.document.modified = true ∧
      cancelled.files.files = ∅) := by
  decide

end Session

end Scriptpad
