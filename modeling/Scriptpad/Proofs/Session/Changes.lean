import Scriptpad.Proofs.Session.Turns

/-!
# What an input changes in a session

`Step` says what an input comes to for the text and the files, and leaves the rest of the session
open. Here it is the session that counts, with its window, screen and colors. Whatever way an input
takes, what it does to the session is one change after another: an action is carried out on the
document, or the terminal's size is taken over; the mark is taken off, a message comes or goes, a
path is bound, the session ends. `Change` lists these, and says which of them need an action.

So a property of sessions that every single change keeps (`Keeps`) is kept by an input
(`Keeps.reaction`), it holds after a single action (`Keeps.perform`), and at every moment of a
conversation and of a whole session (`Keeps.mem_turns`, `Keeps.after`, `Keeps.throughout`). A
property need not be kept by all actions: the parameter `Q` says by which.

The store may be any. It need not be faithful to its files, and may refuse what it likes.
-/

namespace Scriptpad

namespace Effect

variable {α β : Type} {P : α → Prop} {Q : β → Prop}

/-- Whatever a store answers, the value of the effect has the property. -/
def Yields (P : α → Prop) (x : Effect α) : Prop :=
  ∀ ⦃σ : Type⦄ (store : Store σ) (files : σ), P (x.perform store files).value

theorem Yields.done {a : α} (h : P a) : (Effect.done a).Yields P :=
  fun _ _ _ ↦ h

theorem Yields.bind {x : Effect α} {f : α → Effect β} (hx : x.Yields P)
    (hf : ∀ a, P a → (f a).Yields Q) : (x.bind f).Yields Q := by
  intro σ store files
  rw [perform_bind]
  exact hf _ (hx store files) store _

end Effect

open Effect (Yields)

/-- What holds of the actions of all keys, holds of what an input is taken for. -/
theorem Dialogue.of_action? {Q : Action → Prop} (hQ : ∀ k : Key, Q k.action) {d : Dialogue}
    {input : Input} : ∀ action, d.action? input = some action → Q action := by
  intro action haction
  obtain ⟨s, waiting, size⟩ := d
  cases waiting with
  | command =>
    obtain rfl := Option.some.inj haction
    exact hQ input.toKey
  | fileName typed purpose => cases haction
  | answer => cases haction
  | anyKey => cases haction

namespace Session

/-! ### Single changes -/

/-- A single change of a session. Those of the text, the cursor and the size belong to an action,
which is carried out on a terminal of the given size; the others need none. -/
inductive Change (action? : Option Action) (size : Terminal.Size) (s : Session) : Session → Prop
  | typed {c : Char} (h : action? = some (.insert c)) :
      Change action? size s { s with document := s.document.typeChar c }
  | broken (h : action? = some .split) :
      Change action? size s { s with document := s.document.breakLine }
  | deleted (h : action? = some .delete) :
      Change action? size s { s with document := s.document.deleteLeft }
  | moved {d : Movement} (h : action? = some (.move d)) :
      Change action? size s { s with document := s.document.move d }
  | resized (h : action? = some .resize) : Change action? size s (s.adoptSize size)
  | saved : Change action? size s { s with document := { s.document with modified := false } }
  | announced (message : Option Text) :
      Change action? size s { s with screen := { s.screen with message } }
  | bound (path : Path) : Change action? size s (s.bindPath path)
  | ended : Change action? size s { s with running := false }

/-- `I` is kept by every change, where a change that belongs to an action belongs to one with `Q`.
-/
def Keeps (Q : Action → Prop) (I : Session → Prop) : Prop :=
  ∀ ⦃action? : Option Action⦄ ⦃size : Terminal.Size⦄ ⦃s t : Session⦄,
    (∀ action, action? = some action → Q action) → Change action? size s t → I s → I t

namespace Keeps

variable {Q : Action → Prop} {I : Session → Prop} {s t : Session}

/-- A change that belongs to no action. -/
theorem idle (hI : Keeps Q I) (h : Change none s.screen.size s t) (hs : I s) : I t :=
  hI (fun _ hnone ↦ absurd hnone (by simp)) h hs

theorem withMessage (hI : Keeps Q I) (hs : I s) (message : Text) : I (s.withMessage message) :=
  hI.idle (.announced (some message)) hs

theorem withoutMessage (hI : Keeps Q I) (hs : I s) : I s.withoutMessage :=
  hI.idle (.announced none) hs

/-! ### Saves -/

theorem saveTo (hI : Keeps Q I) (hs : I s) (path : Path) :
    (s.saveTo path).Yields fun next ↦ I next.1 := by
  intro σ store files
  rw [value_saveTo]
  cases (store.write path s.document.lines files).1 with
  | ok _ => exact hI.withMessage (hI.idle .saved hs) _
  | error cause => exact hI.withMessage hs _

theorem afterSave (hI : Keeps Q I) (hs : I s) (saved : Bool) (purpose : Purpose) :
    (s.afterSave saved purpose).Yields fun next ↦ I next.1 := by
  cases purpose with
  | save => exact .done hs
  | quit => exact .done (hI.idle .ended hs)
  | run =>
    simp only [Session.afterSave]
    split
    · exact Yields.bind (P := fun _ ↦ True) (fun _ _ _ ↦ trivial) fun _ _ ↦ .done hs
    · exact .done hs

theorem saveTo_afterSave (hI : Keeps Q I) (hs : I s) (path : Path) (purpose : Purpose) :
    ((s.saveTo path).bind fun next ↦ next.1.afterSave next.2 purpose).Yields fun next ↦ I next.1 :=
  (hI.saveTo hs path).bind fun next hnext ↦ hI.afterSave hnext next.2 purpose

theorem save (hI : Keeps Q I) (hs : I s) (purpose : Purpose) :
    (s.save purpose).Yields fun next ↦ I next.1 := by
  cases hpath : s.path with
  | none =>
    rw [save_of_none hpath]
    exact .done hs
  | some path =>
    rw [save_of_some hpath]
    exact hI.saveTo_afterSave hs path purpose

theorem cancelSave (hI : Keeps Q I) (hs : I s) (purpose : Purpose) :
    (s.cancelSave purpose).Yields fun next ↦ I next.1 :=
  hI.afterSave (hI.withMessage hs _) false purpose

theorem saveAnswered (hI : Keeps Q I) (hs : I s) (answer : Option Text) (purpose : Purpose) :
    (s.saveAnswered answer purpose).Yields fun next ↦ I next.1 := by
  cases answer with
  | none => exact hI.cancelSave hs purpose
  | some name =>
    rw [Session.saveAnswered]
    by_cases hname : Text.trim name = []
    · rw [saveUnder_of_blank hname]
      exact hI.cancelSave hs purpose
    · rw [saveUnder_of_name hname]
      exact hI.saveTo_afterSave (hI.idle (.bound _) hs) _ purpose

/-! ### Actions and answers -/

theorem act (hI : Keeps Q I) (hs : I s) (size : Terminal.Size) {action : Action}
    (hQ : Q action) : (s.act size action).Yields fun next ↦ I next.1 := by
  have hchange {t : Session} (h : Change (some action) size s t) : I t :=
    hI (fun _ hsome ↦ Option.some.inj hsome ▸ hQ) h hs
  cases action with
  | insert c => exact .done (hchange (.typed rfl))
  | move d => exact .done (hchange (.moved rfl))
  | split => exact .done (hchange (.broken rfl))
  | delete => exact .done (hchange (.deleted rfl))
  | resize => exact .done (hchange (.resized rfl))
  | save => exact hI.save hs .save
  | run => exact hI.save hs .run
  | ignore => exact .done hs
  | quit =>
    rw [Session.act]
    split
    · exact .done hs
    · exact .done (hI.idle .ended hs)

theorem receiveName (hI : Keeps Q I) (hs : I s) (typed : Text) (purpose : Purpose) (k : Key) :
    (s.receiveName typed purpose k).Yields fun next ↦ I next.1 := by
  by_cases henter : k.code = .enter
  · rw [receiveName_of_enter henter]
    exact hI.saveAnswered hs _ purpose
  · by_cases hescape : k.code = .escape
    · rw [receiveName_of_escape hescape]
      exact hI.saveAnswered hs _ purpose
    · rw [receiveName_of_edit henter hescape]
      exact .done hs

theorem receiveAnswer (hI : Keeps Q I) (hs : I s) (k : Key) :
    (s.receiveAnswer k).Yields fun next ↦ I next.1 := by
  rw [Session.receiveAnswer]
  split
  · exact hI.save hs .quit
  · exact .done (hI.idle .ended hs)

theorem receiveAnyKey (hI : Keeps Q I) (hs : I s) :
    s.receiveAnyKey.Yields fun next ↦ I next.1 :=
  fun _ _ _ ↦ hI.withoutMessage hs

/-- **An input keeps what every change keeps**, if the action that it is taken for has `Q`. -/
theorem reaction (hI : Keeps Q I) {d : Dialogue} (hd : I d.session) {input : Input}
    (hQ : ∀ action, d.action? input = some action → Q action) :
    (d.reaction input).Yields fun next ↦ I next.1 := by
  obtain ⟨s, waiting, size⟩ := d
  cases waiting with
  | command => exact hI.act (hI.withoutMessage hd) _ (hQ _ rfl)
  | fileName typed purpose => exact hI.receiveName hd typed purpose _
  | answer => exact hI.receiveAnswer hd _
  | anyKey => exact hI.receiveAnyKey hd

/-! ### Conversations and sessions -/

variable {σ : Type} {store : Store σ} {finished : Dialogue → Bool}

theorem after (hI : Keeps Q I) (hQ : ∀ k : Key, Q k.action) (inputs : List Input)
    {state : Dialogue × σ} (h : I state.1.session) :
    I (Dialogue.after store finished inputs state).1.session := by
  induction inputs generalizing state with
  | nil => exact h
  | cons input inputs ih =>
    rw [Dialogue.after_cons]
    refine ih ?_
    cases hfinished : finished state.1 with
    | true => rwa [Dialogue.turn_of_finished hfinished]
    | false =>
      rw [Dialogue.turn_of_unfinished hfinished]
      exact hI.reaction h (Dialogue.of_action? hQ) store state.2

/-- **It holds in every turn of a conversation** that it holds at the beginning of. -/
theorem mem_turns (hI : Keeps Q I) (hQ : ∀ k : Key, Q k.action) {inputs : List Input}
    {d : Dialogue} {files : σ} (h : I d.session) {t : Dialogue.Turn σ}
    (ht : t ∈ Dialogue.turns store finished inputs d files) : I t.dialogue.session := by
  obtain ⟨before, later, hturns⟩ := List.append_of_mem ht
  refine Dialogue.of_turns_eq (P := fun _ d _ ↦ I d.session) hturns h ?_
  intro _ d files input hd
  exact hI.reaction hd (Dialogue.of_action? hQ) store files

/-- Taking over the size of the terminal is what a resize does. -/
theorem adoptSize (hI : Keeps Q I) (hQ : ∀ k : Key, Q k.action) (hs : I s)
    (size : Terminal.Size) : I (s.adoptSize size) := by
  have hresized : Change (some .resize) size s (s.adoptSize size) := .resized rfl
  exact hI (fun _ hsome ↦ Option.some.inj hsome ▸ hQ .resized) hresized hs

/-- **It holds after a whole session.** -/
theorem run (hI : Keeps Q I) (hQ : ∀ k : Key, Q k.action) (hs : I s) (desk : Desk)
    (inputs : List Input) (files : σ) : I (s.run store desk inputs files).session := by
  cases hentry : desk.refusesEntry with
  | some detail =>
    rw [run_of_refused s store hentry]
    exact hs
  | none =>
    have hstate := congrArg Prod.fst (run_state s store files hentry inputs)
    dsimp only at hstate
    rw [hstate]
    exact hI.after hQ inputs (hI.adoptSize hQ hs desk.size)

/-- **It holds throughout a whole session.** -/
theorem throughout (hI : Keeps Q I) (hQ : ∀ k : Key, Q k.action) (hs : I s) (desk : Desk)
    (inputs : List Input) (files : σ) :
    s.Throughout store desk inputs files fun s _ _ ↦ I s := by
  refine ⟨fun before t later hturns ↦ ?_, hI.run hQ hs desk inputs files⟩
  have ht : t ∈ Dialogue.turns store isOver inputs (s.opening desk) files := by
    rw [turns_opening hturns]
    exact List.mem_append_cons_self
  exact hI.mem_turns hQ (hI.adoptSize hQ hs desk.size) ht

/-- **It holds after a single action** and the inputs that it asks for. -/
theorem perform (hI : Keeps Q I) (hQ : ∀ k : Key, Q k.action) (hs : I s) (size : Terminal.Size)
    {action : Action} (haction : Q action) (inputs : List Input) (files : σ) :
    I (s.perform store size action inputs files).session := by
  have hstate := congrArg Prod.fst (perform_state s store files size action inputs)
  dsimp only at hstate
  rw [hstate, Dialogue.perform_act]
  exact hI.after hQ inputs (hI.act hs size haction store files)

end Keeps

end Session

end Scriptpad
