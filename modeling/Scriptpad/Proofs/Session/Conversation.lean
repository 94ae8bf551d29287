import Scriptpad.Session.Run

/-!
# Conversations as folds

A conversation shows something before each input and takes the inputs in turn. Where it leads to is
a fold: `turn` takes one input, unless the dialogue is finished, and `after` folds it over the
inputs. What the conversation shows, which inputs it leaves and whether it comes to its end do not
enter, so this is the view for statements about the state alone, and inputs can be cut anywhere
(`after_append`), also before the last one.

`after` may be cut where a conversation may not: a conversation whose inputs are used up shows what
it would have shown before the next one.
-/

namespace Scriptpad

namespace Dialogue

/-! ### One input -/

/-- What an input does, by what the session waits for. -/
def reaction (d : Dialogue) (input : Input) : Effect (Session × Waiting) :=
  match d.waiting with
  | .command => d.session.withoutMessage.act (d.sizeAfter input) input.toKey.action
  | .fileName typed purpose => d.session.receiveName typed purpose input.toKey
  | .answer => d.session.receiveAnswer input.toKey
  | .anyKey => d.session.receiveAnyKey

theorem reaction_fileName (s : Session) (typed : Text) (purpose : Purpose) (size : Terminal.Size)
    (input : Input) :
    (⟨s, .fileName typed purpose, size⟩ : Dialogue).reaction input =
      s.receiveName typed purpose input.toKey := rfl

theorem reaction_answer (s : Session) (size : Terminal.Size) (input : Input) :
    (⟨s, .answer, size⟩ : Dialogue).reaction input = s.receiveAnswer input.toKey := rfl

theorem receive_eq (d : Dialogue) (input : Input) :
    d.receive input =
      (d.reaction input).bind fun next ↦ .done ⟨next.1, next.2, d.sizeAfter input⟩ := by
  unfold receive reaction
  cases d.waiting <;> rfl

variable {σ : Type} (store : Store σ) (finished : Dialogue → Bool)

theorem perform_receive (d : Dialogue) (input : Input) (files : σ) :
    (d.receive input).perform store files =
      let out := (d.reaction input).perform store files
      ⟨⟨out.value.1, out.value.2, d.sizeAfter input⟩, out.files, out.events⟩ := by
  rw [receive_eq, Effect.perform_bind]
  simp

/-- An action is carried out on the session of a dialogue. -/
theorem perform_act (d : Dialogue) (action : Action) (files : σ) :
    (d.act action).perform store files =
      let out := (d.session.act d.size action).perform store files
      ⟨⟨out.value.1, out.value.2, d.size⟩, out.files, out.events⟩ := by
  simp [Dialogue.act, Effect.perform_bind]

/-- The events of a turn are for the terminal, and the wait for the input. -/
theorem mem_turnEvents {d : Dialogue} {input : Option Input} {event : Event}
    (h : event ∈ d.turnEvents input) :
    (∃ request, event = .terminal request) ∨ event = .awaitInput input := by
  rcases List.mem_append.1 h with hshown | hwait
  · obtain ⟨request, -, hrequest⟩ := List.mem_map.1 hshown
    exact .inl ⟨request, hrequest.symm⟩
  · exact .inr (List.mem_singleton.1 hwait)

/-! ### Many inputs -/

/-- Takes an input, on a dialogue and the files, unless the dialogue is finished. -/
def turn (state : Dialogue × σ) (input : Input) : Dialogue × σ :=
  if finished state.1 then state
  else
    let out := (state.1.receive input).perform store state.2
    (out.value, out.files)

/-- The dialogue and the files after the inputs. -/
def after (inputs : List Input) (state : Dialogue × σ) : Dialogue × σ :=
  inputs.foldl (turn store finished) state

variable {store finished}

@[simp] theorem after_nil (state : Dialogue × σ) : after store finished [] state = state := rfl

theorem after_cons (input : Input) (inputs : List Input) (state : Dialogue × σ) :
    after store finished (input :: inputs) state =
      after store finished inputs (turn store finished state input) := rfl

theorem after_append (first more : List Input) (state : Dialogue × σ) :
    after store finished (first ++ more) state =
      after store finished more (after store finished first state) :=
  List.foldl_append

theorem turn_of_finished {state : Dialogue × σ} (h : finished state.1 = true) (input : Input) :
    turn store finished state input = state := by
  rw [turn, if_pos h]

theorem turn_of_unfinished {d : Dialogue} (h : finished d = false) (input : Input) (files : σ) :
    turn store finished (d, files) input =
      let out := (d.reaction input).perform store files
      (⟨out.value.1, out.value.2, d.sizeAfter input⟩, out.files) := by
  rw [turn, h, perform_receive]
  rfl

/-- Nothing happens to a finished dialogue. -/
theorem after_of_finished {state : Dialogue × σ} (h : finished state.1 = true)
    (inputs : List Input) : after store finished inputs state = state := by
  induction inputs with
  | nil => rfl
  | cons input inputs ih => rw [after_cons, turn_of_finished h, ih]

/-- A conversation takes an input, and goes on from what it has done. -/
theorem converse_cons {d : Dialogue} (h : finished d = false) (input : Input) (inputs : List Input)
    (files : σ) :
    converse store finished (input :: inputs) d files =
      let out := (d.reaction input).perform store files
      let more := converse store finished inputs
        ⟨out.value.1, out.value.2, d.sizeAfter input⟩ out.files
      { more with events := d.turnEvents (some input) ++ out.events ++ more.events } := by
  simp [converse, h, perform_receive]

/-- **A conversation leads to where the fold leads.** -/
theorem converse_state (inputs : List Input) (d : Dialogue) (files : σ) :
    ((converse store finished inputs d files).dialogue,
      (converse store finished inputs d files).files) = after store finished inputs (d, files) := by
  induction inputs generalizing d files with
  | nil =>
    unfold converse
    split <;> rfl
  | cons input inputs ih =>
    cases h : finished d with
    | true => rw [converse_of_finished store h, after_of_finished h]
    | false =>
      rw [after_cons, turn_of_unfinished h, ← ih, converse_cons h]

/-- A conversation comes to its end if the fold does. -/
theorem converse_result (inputs : List Input) (d : Dialogue) (files : σ) :
    (converse store finished inputs d files).result =
      if finished (after store finished inputs (d, files)).1 then .ok ()
      else .error .inputExhausted := by
  induction inputs generalizing d files with
  | nil =>
    rw [converse, after_nil]
    split <;> rfl
  | cons input inputs ih =>
    cases h : finished d with
    | true => rw [converse_of_finished store h, after_of_finished h, if_pos h]
    | false =>
      rw [after_cons, turn_of_unfinished h, ← ih, converse_cons h]

end Dialogue

namespace Session

open Dialogue

variable {σ : Type} (s : Session) (store : Store σ) (files : σ)

/-- The state in which a whole session has shown nothing yet. -/
def opening (desk : Desk) : Dialogue :=
  ⟨s.adoptSize desk.size, .command, desk.size⟩

/-- A session that is running is not over, whatever it waits for. -/
theorem isOver_of_running {s : Session} (h : s.running = true) (waiting : Waiting)
    (size : Terminal.Size) : isOver ⟨s, waiting, size⟩ = false := by
  rw [isOver, h, Bool.not_true]

/-- One that is not running any more is over. -/
theorem isOver_of_ended {s : Session} (h : s.running = false) (waiting : Waiting)
    (size : Terminal.Size) : isOver ⟨s, waiting, size⟩ = true := by
  rw [isOver, h, Bool.not_false]

theorem run_state {desk : Desk} (h : desk.refusesEntry = none) (inputs : List Input) :
    ((s.run store desk inputs files).session, (s.run store desk inputs files).files) =
      ((after store isOver inputs (s.opening desk, files)).1.session,
        (after store isOver inputs (s.opening desk, files)).2) := by
  rw [← converse_state, run, h]
  rfl

/-- On a terminal that refuses nothing, a session comes to its end if the inputs end it. -/
theorem run_result {desk : Desk} (hentry : desk.refusesEntry = none)
    (hleave : desk.refusesLeave = none) (inputs : List Input) :
    (s.run store desk inputs files).result =
      if isOver (after store isOver inputs (s.opening desk, files)).1 then .ok ()
      else .error .inputExhausted := by
  rw [← converse_result]
  simp only [run, hentry, closing, hleave]
  rfl

theorem perform_state (size : Terminal.Size) (action : Action) (inputs : List Input) :
    let out := (Dialogue.act ⟨s, .command, size⟩ action).perform store files
    ((s.perform store size action inputs files).session,
        (s.perform store size action inputs files).files) =
      ((after store isAtRest inputs (out.value, out.files)).1.session,
        (after store isAtRest inputs (out.value, out.files)).2) := by
  intro out
  rw [← converse_state]
  rfl

end Session

end Scriptpad
