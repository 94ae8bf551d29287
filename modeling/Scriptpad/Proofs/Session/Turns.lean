import Scriptpad.Proofs.Session.Stepping

/-!
# Conversations turn by turn

`after` forgets what a conversation shows. For statements about that, a conversation is the list of
its turns: before each input there is a dialogue that shows something, and files that the input is
going to meet. All events of a conversation are the events of its turns (`events_converse`), and
what each turn hands to the next holds in all of them (`of_turns_eq`).

A conversation that runs out of inputs has a last turn in which nothing comes; one that is finished
has none. So to hold at every moment of a session is to hold in its turns and once more at its end
(`Throughout`), and what persists along steps does (`Persists.throughout`).
-/

namespace Scriptpad

namespace Dialogue

/-- A turn of a conversation: what shows something, the files at that time, and the input that
comes, if one does. -/
structure Turn (σ : Type) where
  dialogue : Dialogue
  files : σ
  input : Option Input
  deriving Repr

/-- The events of a turn: something is shown, an input is waited for, and taken if it comes. -/
def Turn.events {σ : Type} (store : Store σ) (t : Turn σ) : List Event :=
  t.dialogue.turnEvents t.input ++
    match t.input with
    | some input => ((t.dialogue.receive input).perform store t.files).events
    | none => []

variable {σ : Type} (store : Store σ) (finished : Dialogue → Bool)

/-- The turns of a conversation, in their order. -/
def turns : List Input → Dialogue → σ → List (Turn σ)
  | [], d, files => if finished d then [] else [⟨d, files, none⟩]
  | input :: inputs, d, files =>
    if finished d then []
    else
      let out := (d.receive input).perform store files
      ⟨d, files, some input⟩ :: turns inputs out.value out.files

variable {store finished}

theorem turns_of_finished {d : Dialogue} (h : finished d = true) (inputs : List Input)
    (files : σ) : turns store finished inputs d files = [] := by
  cases inputs <;> simp [turns, h]

theorem turns_cons {d : Dialogue} (h : finished d = false) (input : Input) (inputs : List Input)
    (files : σ) :
    turns store finished (input :: inputs) d files =
      let out := (d.reaction input).perform store files
      ⟨d, files, some input⟩ ::
        turns store finished inputs ⟨out.value.1, out.value.2, d.sizeAfter input⟩ out.files := by
  simp [turns, h, perform_receive]

/-- **The events of a conversation are those of its turns.** -/
theorem events_converse (inputs : List Input) (d : Dialogue) (files : σ) :
    (converse store finished inputs d files).events =
      (turns store finished inputs d files).flatMap (Turn.events store) := by
  induction inputs generalizing d files with
  | nil =>
    rw [converse, turns]
    split
    · rfl
    · simp [Turn.events]
  | cons input inputs ih =>
    cases h : finished d with
    | true => rw [converse_of_finished store h, turns_of_finished h, List.flatMap_nil]
    | false =>
      rw [converse_cons h, turns_cons h, List.flatMap_cons, ← ih]
      simp only [Turn.events, perform_receive]

/-- **What the turns carry on holds in each of them**, together with the turns before it: it is
enough that it holds at the beginning, and that a turn in which an input comes hands it to the
next. -/
theorem of_turns_eq {P : List (Turn σ) → Dialogue → σ → Prop} {inputs : List Input}
    {d : Dialogue} {files : σ} {before later : List (Turn σ)} {t : Turn σ}
    (h : turns store finished inputs d files = before ++ t :: later) (hbegin : P [] d files)
    (hturn : ∀ past d files input, P past d files →
      let out := (d.reaction input).perform store files
      P (past ++ [⟨d, files, some input⟩]) ⟨out.value.1, out.value.2, d.sizeAfter input⟩
        out.files) :
    P before t.dialogue t.files := by
  suffices hpast : ∀ past, P past d files → P (past ++ before) t.dialogue t.files from
    hpast [] hbegin
  clear hbegin
  induction inputs generalizing d files before with
  | nil =>
    intro past hpast
    rw [turns] at h
    split at h
    · exact absurd h (by simp)
    · obtain ⟨rfl, hlast⟩ := List.append_eq_singleton_iff.1 h.symm |>.resolve_right (by simp)
      obtain rfl := (List.cons.inj hlast).1
      rwa [List.append_nil]
  | cons input inputs ih =>
    intro past hpast
    cases hfinished : finished d with
    | true =>
      rw [turns_of_finished hfinished] at h
      exact absurd h (by simp)
    | false =>
      rw [turns_cons hfinished] at h
      cases before with
      | nil =>
        obtain rfl := (List.cons.inj h).1
        rwa [List.append_nil]
      | cons first before =>
        obtain ⟨rfl, hmore⟩ := List.cons.inj h
        rw [← List.singleton_append, ← List.append_assoc]
        exact ih hmore _ (hturn past d files input hpast)

end Dialogue

namespace Session

open Dialogue

variable {σ : Type} (s : Session) (store : Store σ) (desk : Desk) (inputs : List Input) (files : σ)

/-- The turns of a whole session, in their order. There are none on a terminal that refuses to be
taken over. -/
def turns : List (Turn σ) :=
  match desk.refusesEntry with
  | some _ => []
  | none => Dialogue.turns store isOver inputs (s.opening desk) files

/-- A session that has a turn was given the terminal, and its turns are those of a conversation. -/
theorem turns_opening {s : Session} {store : Store σ} {desk : Desk} {inputs : List Input}
    {files : σ} {before later : List (Turn σ)} {t : Turn σ}
    (h : s.turns store desk inputs files = before ++ t :: later) :
    Dialogue.turns store isOver inputs (s.opening desk) files = before ++ t :: later := by
  cases hentry : desk.refusesEntry with
  | none => rwa [turns, hentry] at h
  | some detail =>
    rw [turns, hentry] at h
    exact absurd h (by simp)

/-- **The events of a whole session** are those of its turns, between taking the terminal over and
giving it back. -/
theorem events_run {desk : Desk} (h : desk.refusesEntry = none) :
    (s.run store desk inputs files).events =
      [.enterTerminal, .notice (.sessionStarted (s.adoptSize desk.size).title)] ++
        (s.turns store desk inputs files).flatMap (Turn.events store) ++
        (closing desk (converse store isOver inputs (s.opening desk) files).result).1 := by
  rw [turns, h, ← events_converse]
  simp only [run, h]
  rfl

/-! ### Every moment of a session -/

/-- `P` holds in every turn of a whole session and at its end. It may look at the files at that time
and at the events of the turns until then. -/
def Throughout (P : Session → σ → List Event → Prop) : Prop :=
  (∀ before t later, s.turns store desk inputs files = before ++ t :: later →
    P t.dialogue.session t.files (before.flatMap (Turn.events store))) ∧
  P (s.run store desk inputs files).session (s.run store desk inputs files).files
    (s.run store desk inputs files).events

variable {s store desk inputs files} {P R : Session → σ → List Event → Prop}

theorem Throughout.imp (h : s.Throughout store desk inputs files P)
    (himp : ∀ s files events, P s files events → R s files events) :
    s.Throughout store desk inputs files R :=
  ⟨fun before t later hturns ↦ himp _ _ _ (h.1 before t later hturns), himp _ _ _ h.2⟩

theorem Throughout.and (h : s.Throughout store desk inputs files P)
    (hR : s.Throughout store desk inputs files R) :
    s.Throughout store desk inputs files fun s files events ↦
      P s files events ∧ R s files events :=
  ⟨fun before t later hturns ↦ ⟨h.1 before t later hturns, hR.1 before t later hturns⟩,
    h.2, hR.2⟩

/-- What a turn settles is settled by the input that comes in it. -/
theorem settledPaths_turn_events (store : Store σ) (d : Dialogue) (files : σ) (input : Input) :
    settledPaths (Turn.events store ⟨d, files, some input⟩) =
      settledPaths ((d.reaction input).perform store files).events := by
  rw [Turn.events, settledPaths_append, settledPaths_turnEvents, List.nil_append]
  dsimp only
  rw [perform_receive]

/-- **What holds on after steps, holds throughout a session.** -/
theorem Persists.throughout {lines? : Path → σ → Option (List Text)}
    {kept : List Text → List Text} {P : Session → σ → List Path → Prop}
    (hP : Persists lines? kept (fun _ ↦ True) P) (hstore : store.IsFaithful lines? kept)
    (desk : Desk) (inputs : List Input) (h : P s files []) :
    s.Throughout store desk inputs files fun s files events ↦ P s files (settledPaths events) := by
  refine ⟨fun before t later hturns ↦ ?_, hP.run hstore desk inputs (fun _ _ ↦ trivial) h⟩
  -- Which names may be asked for has to be carried along, because steps depend on it.
  suffices hboth : t.dialogue.session.MayWait t.dialogue.waiting ∧
      P t.dialogue.session t.files (settledPaths (before.flatMap (Turn.events store))) from hboth.2
  have hadopts : Step lines? kept none s files (s.adoptSize desk.size) files [] :=
    .idle rfl rfl (.inl rfl) fun _ ↦ rfl
  have hopened := hP (fun _ _ ↦ trivial) hadopts h
  refine of_turns_eq (P := fun past d files ↦ d.session.MayWait d.waiting ∧
    P d.session files (settledPaths (past.flatMap (Turn.events store))))
    (turns_opening hturns) ⟨trivial, hopened⟩ ?_
  rintro past d files input ⟨hwait, hpast⟩
  obtain ⟨hstep, hnext⟩ := stepsBy_reaction hstore hwait input files
  refine ⟨hnext, ?_⟩
  rw [List.flatMap_append, List.flatMap_singleton, settledPaths_append, settledPaths_turn_events]
  exact hP (fun _ _ ↦ trivial) hstep hpast

end Session

end Scriptpad
