import Scriptpad.Proofs.Session.Quitting

/-!
# Saves that write nothing

A save may come to nothing in three ways: the store refuses the write, the name that is asked for is
given up or blank, or the inputs end before it is there. Text, cursor, window and mark are then what
they were, the files too, and there is a message. But a session binds itself to a name as soon as it
is given, before the store is asked. So a session without a path that is refused has a path
afterwards: it is called by it, it is shown in the colors of it, and the next save goes to it
without a question. This is the only trace (`refused_save_leaves_name`), and what is left can be
said in one equation.

A save that belongs to a run or to the end of a session leaves the same; in the first case no script
is run, in the second the session ends.
-/

namespace Scriptpad

namespace Session

open Dialogue

variable {s next : Session} {purpose : Purpose} {σ : Type} {store : Store σ} {files : σ}

/-! ### What a save leaves that has written nothing -/

/-- Naming shows in the path exactly if there was none and there is one now. -/
theorem path_named_eq_iff (s : Session) (path? : Option Path) :
    (s.named path?).path = s.path ↔ s.path ≠ none ∨ path? = none := by
  cases hpath : s.path with
  | some path => simp [named_of_some hpath, hpath]
  | none =>
    cases path? with
    | none => simp [named_none, hpath]
    | some path => simp [named_of_none hpath]

/-- The session is what it was, apart from the message. One that was to end may have ended. -/
def DiffersInMessage (purpose : Purpose) (s next : Session) : Prop :=
  ∃ message running, next = { s with screen := { s.screen with message }, running } ∧
    (purpose ≠ .quit → running = s.running)

theorem DiffersInMessage.refl (s : Session) : DiffersInMessage purpose s s :=
  ⟨s.screen.message, s.running, rfl, fun _ ↦ rfl⟩

theorem DiffersInMessage.of_withMessage {message : Text}
    (h : DiffersInMessage purpose (s.withMessage message) next) :
    DiffersInMessage purpose s next := h

theorem afterSave_of_unsaved (s : Session) (purpose : Purpose) :
    ∃ next, DiffersInMessage purpose s next ∧
      s.afterSave false purpose = .done (next, .command) := by
  cases purpose with
  | quit => exact ⟨{ s with running := false }, ⟨_, _, rfl, fun h ↦ absurd rfl h⟩, rfl⟩
  | save => exact ⟨s, .refl s, rfl⟩
  | run => exact ⟨s, .refl s, rfl⟩

theorem exists_cancelSave_eq (s : Session) (purpose : Purpose) :
    ∃ next, DiffersInMessage purpose s next ∧
      s.cancelSave purpose = .done (next, .command) := by
  obtain ⟨next, hnext, heq⟩ :=
    afterSave_of_unsaved (s.withMessage "Save cancelled.".toList) purpose
  exact ⟨next, hnext.of_withMessage, heq⟩

variable {lines? : Path → σ → Option (List Text)} {kept : List Text → List Text}

/-- A save that is refused, or that has nowhere to go, leaves the session bound to the name that was
given, with another message, and no file changed. -/
theorem perform_saveNamed_of_refused (hstore : store.IsFaithful lines? kept) {path? : Option Path}
    (hrefused : ∀ path, path? = some path →
      (store.write path s.document.lines files).1 ≠ .ok ()) (purpose : Purpose) :
    let out := (s.saveNamed path? purpose).perform store files
    out.value.2 = .command ∧ DiffersInMessage purpose (s.named path?) out.value.1 ∧
      ∀ other, lines? other out.files = lines? other files := by
  cases path? with
  | none =>
    obtain ⟨next, hnext, hcancel⟩ := exists_cancelSave_eq s purpose
    rw [saveNamed, hcancel, named_none]
    exact ⟨rfl, hnext, fun _ ↦ rfl⟩
  | some path =>
    have hrefusedPath := hrefused path rfl
    cases hanswer : (store.write path s.document.lines files).1 with
    | ok _ => exact absurd hanswer hrefusedPath
    | error cause =>
      obtain ⟨next, hnext, hafter⟩ := afterSave_of_unsaved
        ((s.named (some path)).withMessage (FileError.save path cause).message) purpose
      simp only [saveNamed, Effect.perform_bind, value_saveTo, files_saveTo, document_named,
        hanswer, hafter, Effect.perform_done]
      exact ⟨trivial, hnext.of_withMessage, hstore.lines?_refused hrefusedPath⟩

/-- **What a save leaves that has written nothing**, with the inputs that it asks for. -/
theorem after_save_of_refused (hstore : store.IsFaithful lines? kept) {inputs : List Input}
    (hrefused : ∀ path, s.savePath? inputs = some path →
      (store.write path s.document.lines files).1 ≠ .ok ())
    (purpose : Purpose) (size : Terminal.Size) :
    let out := (s.save purpose).perform store files
    let last := after store isAtRest inputs (⟨out.value.1, out.value.2, size⟩, out.files)
    DiffersInMessage purpose (s.named (s.savePath? inputs)) last.1.session ∧
      ∀ other, lines? other last.2 = lines? other files := by
  intro out last
  have hsave := after_save store files (isAtRest_fileName s purpose) inputs size
  dsimp only at hsave
  split at hsave
  · rename_i hasked
    obtain ⟨typed, size', hlast : last = _⟩ := hsave
    rw [hlast, savePath?_of_asked hasked, named_none]
    exact ⟨.refl s, fun _ ↦ rfl⟩
  · obtain ⟨more, size', hlast : last = _⟩ := hsave
    obtain ⟨hwaiting, hsession, hfiles⟩ := perform_saveNamed_of_refused hstore hrefused purpose
    rw [hlast, after_isAtRest store _ hwaiting]
    exact ⟨hsession, hfiles⟩

/-! ### Single actions -/

theorem screen_named (s : Session) (path? : Option Path) : (s.named path?).screen = s.screen := by
  unfold named
  split <;> rfl

/-- Quitting with a yes to saving changes as little, except that the session may end. -/
theorem perform_quit_yes_of_refused (hstore : store.IsFaithful lines? kept)
    (hmodified : s.document.modified = true) {k : Key}
    (hyes : k.code = .char 'y' ∨ k.code = .char 'Y') {inputs : List Input}
    (hrefused : ∀ path, s.savePath? inputs = some path →
      (store.write path s.document.lines files).1 ≠ .ok ()) (size : Terminal.Size) :
    let r := s.perform store size .quit (.key k :: inputs) files
    DiffersInMessage .quit (s.named (s.savePath? inputs)) r.session ∧
      ∀ path, lines? path r.files = lines? path files := by
  intro r
  obtain ⟨hsession, hfiles⟩ :=
    Prod.mk.inj (perform_quit_yes_state store files hmodified hyes size inputs)
  simp only [r, hsession, hfiles]
  exact after_save_of_refused hstore hrefused .quit size

/-- **A save that writes nothing leaves a message, and perhaps a name.** Saving, by itself or before
a run, either meets a store that refuses, or gets no name to write to. Then all of the session but
its message is what it was, if it had a path before or has got no name; otherwise it is bound to the
name that was refused. The files are what they were. A save that is made to quit leaves no more
behind, apart from the end of the session. -/
theorem refused_save_leaves_name (hstore : store.IsFaithful lines? kept) {action : Action}
    (haction : action = .save ∨ action = .run) {inputs : List Input}
    (hrefused : ∀ path, s.savePath? inputs = some path →
      (store.write path s.document.lines files).1 ≠ .ok ()) (size : Terminal.Size) :
    let r := s.perform store size action inputs files
    (∃ message, r.session =
        { s.named (s.savePath? inputs) with screen := { s.screen with message } }) ∧
      (r.session.path = s.path ↔ s.path ≠ none ∨ s.savePath? inputs = none) ∧
      (∀ path, lines? path r.files = lines? path files) ∧
      ∀ yes : Key, yes.code = .char 'y' ∨ yes.code = .char 'Y' → s.document.modified = true →
        let r := s.perform store size .quit (.key yes :: inputs) files
        (∃ message running, r.session =
          { s.named (s.savePath? inputs) with screen := { s.screen with message }, running }) ∧
        ∀ path, lines? path r.files = lines? path files := by
  intro r
  -- Both actions are a save for some purpose, and neither purpose is to end the session.
  have hsaves : ∃ purpose, purpose ≠ .quit ∧
      DiffersInMessage purpose (s.named (s.savePath? inputs)) r.session ∧
      ∀ path, lines? path r.files = lines? path files := by
    obtain ⟨hsession, hfiles⟩ :=
      Prod.mk.inj (perform_state s store files size action inputs)
    rcases haction with rfl | rfl
    · rw [Dialogue.perform_act] at hsession hfiles
      refine ⟨.save, by simp, ?_⟩
      simp only [r, hsession, hfiles]
      exact after_save_of_refused hstore hrefused .save size
    · rw [Dialogue.perform_act] at hsession hfiles
      refine ⟨.run, by simp, ?_⟩
      simp only [r, hsession, hfiles]
      exact after_save_of_refused hstore hrefused .run size
  obtain ⟨purpose, hpurpose, ⟨message, running, hsession, hrunning⟩, hfiles⟩ := hsaves
  obtain rfl := hrunning hpurpose
  rw [screen_named] at hsession
  refine ⟨⟨message, hsession⟩, ?_, hfiles, fun yes hyes hmodified ↦ ?_⟩
  · rw [hsession]
    exact path_named_eq_iff s _
  · obtain ⟨⟨message, running, hquit, -⟩, hfiles⟩ :=
      perform_quit_yes_of_refused hstore hmodified hyes hrefused size
    rw [screen_named] at hquit
    exact ⟨⟨message, running, hquit⟩, hfiles⟩

/-- A draft is saved under a name that the store refuses, before it is run. -/
theorem refused_run_leaves_name :
    let inputs : List Input := [.key ⟨.char 'a', {}⟩, .key ⟨.enter, {}⟩]
    let r := (draft none).perform Memory.store ⟨80, 24⟩ .run inputs { refusesWrites := true }
    r.session.path = some "a".toList ∧ r.session.document = (draft none).document ∧
      r.session.path ≠ (draft none).path ∧ ∀ path, r.files.lines? path = none := by
  intro inputs r
  have hnamed : (draft none).savePath? inputs = some "a".toList := by decide
  have hrefused : ∀ path, (draft none).savePath? inputs = some path →
      (Memory.store.write path (draft none).document.lines { refusesWrites := true }).1 ≠
        .ok () := by
    rintro path - ⟨⟩
  obtain ⟨⟨message, hsession⟩, hpath, hfiles, -⟩ :=
    refused_save_leaves_name Memory.isFaithful (.inr rfl) hrefused ⟨80, 24⟩
  have hbound : (draft none).named (some "a".toList) = (draft none).bindPath "a".toList :=
    named_of_none rfl _
  rw [hnamed, hbound] at hsession
  rw [hnamed] at hpath
  have hkept : ¬((draft none).path ≠ none ∨ some "a".toList = none) := by decide
  exact ⟨congrArg Session.path hsession, (congrArg Session.document hsession).trans rfl,
    fun hsame ↦ hkept (hpath.1 hsame), fun path ↦ hfiles path⟩

/-- A draft is saved under a name that the store refuses. It is called by this name from then on,
shows no colors any more, and the next save goes to the name without a question. -/
theorem refused_name_stays_bound :
    let r := (draft none).perform Memory.store ⟨80, 24⟩ .save
      [.key ⟨.char 'a', {}⟩, .key ⟨.enter, {}⟩] { refusesWrites := true }
    let again := r.session.perform Memory.store ⟨80, 24⟩ .save [] {}
    r.result.isOk = true ∧ r.files.files = ∅ ∧ r.session.document = (draft none).document ∧
      (draft none).title = "New File".toList ∧ r.session.title = "a".toList ∧
      (draft none).colors ≠ ∅ ∧ r.session.colors = ∅ ∧
      again.files.lines? "a".toList = some ["x".toList] := by
  decide

end Session

end Scriptpad
