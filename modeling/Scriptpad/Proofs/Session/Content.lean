import Scriptpad.Proofs.Session.Saving

/-!
# The content of a session

What a session is about are the lines, the cursor, the mark, the path, and whether it goes on. The
rest is how it is shown: window, screen, settings and colors. Nothing that is shown has a say in the
content: two sessions of the same content, given the same action or key, are of the same content
afterwards, wait for the same, and have left the same files.

The statements are about effects, before a store is chosen. `Effect.Agree` compares two effects by
what they leave in every store; it is closed under sequencing (`Effect.Agree.bind`), so each
operation is treated where it is defined and its callers cite it. Main statement:
`Dialogue.agree_reaction`.
-/

namespace Scriptpad

namespace Effect

/-! ### Agreement of effects -/

/-- Two effects agree if, whatever the store answers, their values are related and they leave the
same files. -/
def Agree {α β : Type} (R : α → β → Prop) (x : Effect α) (y : Effect β) : Prop :=
  ∀ ⦃σ : Type⦄ (store : Store σ) (files : σ),
    R (x.perform store files).value (y.perform store files).value ∧
      (x.perform store files).files = (y.perform store files).files

variable {α β γ δ : Type} {R : α → β → Prop} {S : γ → δ → Prop}

theorem Agree.pure {a : α} {b : β} (h : R a b) : Agree R (pure a) (pure b) :=
  fun _ _ _ ↦ ⟨h, rfl⟩

theorem Agree.refl (x : Effect α) : Agree Eq x x :=
  fun _ _ _ ↦ ⟨rfl, rfl⟩

theorem Agree.bind {x : Effect α} {y : Effect β} {f : α → Effect γ} {g : β → Effect δ}
    (h : Agree R x y) (hnext : ∀ a b, R a b → Agree S (f a) (g b)) :
    Agree S (x >>= f) (y >>= g) := by
  intro σ store files
  obtain ⟨hvalue, hfiles⟩ := h store files
  simp only [Effect.bind_eq, Effect.perform_bind, hfiles]
  exact hnext _ _ hvalue store _

end Effect

open Effect (Agree)

namespace Session

/-! ### Sessions of the same content -/

/-- What a session is about. -/
structure Content where
  lines : List Text
  cursor : Position
  modified : Bool
  path : Option Path
  running : Bool
  deriving Repr, DecidableEq

/-- What a session is about, whatever is shown of it. -/
def content (s : Session) : Content where
  lines := s.document.lines
  cursor := s.document.cursor
  modified := s.document.modified
  path := s.path
  running := s.running

@[simp] theorem content_withMessage (s : Session) (message : Text) :
    (s.withMessage message).content = s.content := rfl

@[simp] theorem content_withoutMessage (s : Session) : s.withoutMessage.content = s.content := rfl

@[simp] theorem content_adoptSize (s : Session) (size : Terminal.Size) :
    (s.adoptSize size).content = s.content := rfl

/-- A session of the same content is the session itself, shown in another way. -/
theorem eq_of_content_eq {s t : Session} (h : t.content = s.content) :
    ∃ window screen config colors,
      t = ⟨{ s.document with window }, screen, config, s.path, colors, s.running⟩ := by
  obtain ⟨⟨lines, cursor, window, modified⟩, screen, config, path, colors, running⟩ := t
  injection h with hlines hcursor hmodified hpath hrunning
  refine ⟨window, screen, config, colors, ?_⟩
  dsimp only at hlines hcursor hmodified hpath hrunning
  rw [hlines, hcursor, hmodified, hpath, hrunning]

theorem content_bindPath {s t : Session} (h : t.content = s.content) (path : Path) :
    (t.bindPath path).content = (s.bindPath path).content := by
  obtain ⟨window, screen, config, colors, rfl⟩ := eq_of_content_eq h
  rfl

/-- What is left of a step: a session of the same content that waits for the same. -/
def Alike (a b : Session × Waiting) : Prop :=
  b.1.content = a.1.content ∧ b.2 = a.2

variable {s t : Session}

/-! ### Saving -/

theorem agree_saveTo (h : t.content = s.content) (path : Path) :
    Agree (fun a b ↦ b.1.content = a.1.content ∧ b.2 = a.2) (s.saveTo path) (t.saveTo path) := by
  intro σ store files
  obtain ⟨window, screen, config, colors, rfl⟩ := eq_of_content_eq h
  simp only [value_saveTo, files_saveTo]
  cases (store.write path s.document.lines files).1 with
  | ok _ => exact ⟨⟨rfl, rfl⟩, trivial⟩
  | error cause => exact ⟨⟨rfl, rfl⟩, trivial⟩

theorem agree_afterSave (h : t.content = s.content) (saved : Bool) (purpose : Purpose) :
    Agree Alike (s.afterSave saved purpose) (t.afterSave saved purpose) := by
  have hpath : t.path = s.path := congrArg Content.path h
  cases purpose with
  | save => exact .pure ⟨h, rfl⟩
  | run =>
    -- a script is read from the path, and paths are content
    simp only [afterSave, hpath]
    split
    · exact .bind (.refl _) fun _ _ _ ↦ .pure ⟨h, rfl⟩
    · exact .pure ⟨h, rfl⟩
  | quit =>
    obtain ⟨window, screen, config, colors, rfl⟩ := eq_of_content_eq h
    exact .pure ⟨rfl, rfl⟩

/-- A write goes on with the same answer in both sessions. -/
theorem agree_saveTo_afterSave (h : t.content = s.content) (path : Path) (purpose : Purpose) :
    Agree Alike ((s.saveTo path).bind fun next ↦ next.1.afterSave next.2 purpose)
      ((t.saveTo path).bind fun next ↦ next.1.afterSave next.2 purpose) := by
  refine .bind (agree_saveTo h path) fun a b hnext ↦ ?_
  obtain ⟨hcontent, hsaved⟩ := hnext
  rw [hsaved]
  exact agree_afterSave hcontent a.2 purpose

theorem agree_save (h : t.content = s.content) (purpose : Purpose) :
    Agree Alike (s.save purpose) (t.save purpose) := by
  have hsame : t.path = s.path := congrArg Content.path h
  cases hpath : s.path with
  | none =>
    rw [save_of_none hpath, save_of_none (hsame.trans hpath)]
    exact .pure ⟨h, rfl⟩
  | some path =>
    rw [save_of_some hpath, save_of_some (hsame.trans hpath)]
    exact agree_saveTo_afterSave h path purpose

theorem agree_cancelSave (h : t.content = s.content) (purpose : Purpose) :
    Agree Alike (s.cancelSave purpose) (t.cancelSave purpose) :=
  agree_afterSave (by simpa using h) false purpose

theorem agree_saveUnder (h : t.content = s.content) (name : Text) (purpose : Purpose) :
    Agree Alike (s.saveUnder name purpose) (t.saveUnder name purpose) := by
  by_cases hname : Text.trim name = []
  · rw [saveUnder_of_blank hname, saveUnder_of_blank hname]
    exact agree_cancelSave h purpose
  · rw [saveUnder_of_name hname, saveUnder_of_name hname]
    exact agree_saveTo_afterSave (content_bindPath h _) _ purpose

/-! ### Keys and actions -/

theorem agree_receiveName (h : t.content = s.content) (typed : Text) (purpose : Purpose) (k : Key) :
    Agree Alike (s.receiveName typed purpose k) (t.receiveName typed purpose k) := by
  unfold receiveName
  split
  · exact agree_saveUnder h typed purpose
  · exact agree_cancelSave h purpose
  · exact .pure ⟨h, rfl⟩
  · split <;> exact .pure ⟨h, rfl⟩
  · exact .pure ⟨h, rfl⟩

theorem agree_receiveAnswer (h : t.content = s.content) (k : Key) :
    Agree Alike (s.receiveAnswer k) (t.receiveAnswer k) := by
  unfold receiveAnswer
  split
  · exact agree_save h .quit
  · obtain ⟨window, screen, config, colors, rfl⟩ := eq_of_content_eq h
    exact .pure ⟨rfl, rfl⟩

theorem agree_receiveAnyKey (h : t.content = s.content) :
    Agree Alike s.receiveAnyKey t.receiveAnyKey :=
  .bind (.refl _) fun _ _ _ ↦ .pure ⟨by simpa using h, rfl⟩

/-- Deleting asks for the lines and the cursor only. -/
theorem deleteLeft_window (doc : Document) (window : Window) :
    ∃ window', { doc with window }.deleteLeft = { doc.deleteLeft with window := window' } := by
  unfold Document.deleteLeft
  dsimp only
  split
  · exact ⟨_, rfl⟩
  · split
    · exact ⟨_, rfl⟩
    · exact ⟨_, rfl⟩

theorem move_window (doc : Document) (window : Window) (d : Movement) :
    ∃ window', { doc with window }.move d = { doc.move d with window := window' } := by
  unfold Document.move
  have htarget : Document.target? { doc with window } d = doc.target? d := by cases d <;> rfl
  rw [htarget]
  split
  · exact ⟨_, rfl⟩
  · exact ⟨_, rfl⟩

/-- **An action has the same effect on the content**, whatever the sizes of the terminals. -/
theorem agree_act (h : t.content = s.content) (size size' : Terminal.Size) (action : Action) :
    Agree Alike (s.act size action) (t.act size' action) := by
  cases action with
  | save => exact agree_save h .save
  | run => exact agree_save h .run
  | resize => exact .pure ⟨by simpa using h, rfl⟩
  | ignore => exact .pure ⟨h, rfl⟩
  | insert c =>
    obtain ⟨window, screen, config, colors, rfl⟩ := eq_of_content_eq h
    exact .pure ⟨rfl, rfl⟩
  | split =>
    obtain ⟨window, screen, config, colors, rfl⟩ := eq_of_content_eq h
    exact .pure ⟨rfl, rfl⟩
  | delete =>
    obtain ⟨window, screen, config, colors, rfl⟩ := eq_of_content_eq h
    obtain ⟨window', hdelete⟩ := deleteLeft_window s.document window
    refine .pure ⟨?_, rfl⟩
    simp only [content, hdelete]
  | move d =>
    obtain ⟨window, screen, config, colors, rfl⟩ := eq_of_content_eq h
    obtain ⟨window', hmove⟩ := move_window s.document window d
    refine .pure ⟨?_, rfl⟩
    simp only [content, hmove]
  | quit =>
    obtain ⟨window, screen, config, colors, rfl⟩ := eq_of_content_eq h
    simp only [act]
    split <;> exact .pure ⟨rfl, rfl⟩

end Session

namespace Dialogue

/-! ### One input -/

/-- Two dialogues are alike if their sessions are of the same content and wait for the same. -/
def Alike (d e : Dialogue) : Prop :=
  e.session.content = d.session.content ∧ e.waiting = d.waiting

/-- **An input has the same effect on alike dialogues.** -/
theorem agree_reaction {d e : Dialogue} (h : d.Alike e) (input : Input) :
    Agree Session.Alike (d.reaction input) (e.reaction input) := by
  obtain ⟨hcontent, hwaiting⟩ := h
  unfold reaction
  rw [hwaiting]
  cases d.waiting with
  | command => exact Session.agree_act (by simpa using hcontent) _ _ _
  | fileName typed purpose => exact Session.agree_receiveName hcontent typed purpose _
  | answer => exact Session.agree_receiveAnswer hcontent _
  | anyKey => exact Session.agree_receiveAnyKey hcontent

/-! ### Turns -/

variable {σ : Type} (store : Store σ)

/-- Two states of a conversation are alike if their dialogues are and the files are the same. -/
def AlikeStates (x y : Dialogue × σ) : Prop :=
  x.1.Alike y.1 ∧ y.2 = x.2

theorem AlikeStates.refl (x : Dialogue × σ) : AlikeStates x x :=
  ⟨⟨rfl, rfl⟩, rfl⟩

theorem AlikeStates.trans {x y z : Dialogue × σ} (hxy : AlikeStates x y) (hyz : AlikeStates y z) :
    AlikeStates x z :=
  ⟨⟨hyz.1.1.trans hxy.1.1, hyz.1.2.trans hxy.1.2⟩, hyz.2.trans hxy.2⟩

theorem AlikeStates.isOver_eq {x y : Dialogue × σ} (h : AlikeStates x y) :
    Session.isOver y.1 = Session.isOver x.1 :=
  congrArg (fun c : Session.Content ↦ !c.running) h.1.1

/-- **A turn keeps states alike.** -/
theorem AlikeStates.turn {x y : Dialogue × σ} (h : AlikeStates x y) (input : Input) :
    AlikeStates (Dialogue.turn store Session.isOver x input)
      (Dialogue.turn store Session.isOver y input) := by
  have hsame := h.isOver_eq
  cases hover : Session.isOver x.1 with
  | true =>
    rw [turn_of_finished hover, turn_of_finished (hsame.trans hover)]
    exact h
  | false =>
    obtain ⟨d, files⟩ := x
    obtain ⟨e, files'⟩ := y
    obtain ⟨halike, hfiles⟩ := h
    dsimp only at hfiles
    subst hfiles
    rw [turn_of_unfinished hover, turn_of_unfinished (hsame.trans hover)]
    obtain ⟨hnext, hfiles⟩ := agree_reaction halike input store files'
    exact ⟨hnext, hfiles.symm⟩

end Dialogue

end Scriptpad
