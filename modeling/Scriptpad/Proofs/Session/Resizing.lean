import Scriptpad.Proofs.Session.Content
import Scriptpad.Proofs.Session.Quitting

/-!
# Resizing during a session

The terminal may be resized at any time, and the new size reaches the session among the keys. It
should change nothing but what is shown. While a text is edited that is so, and also while a name is
typed. But a session that asks whether to save takes the very next input for the answer, and a
session that has run a script takes it for the key that it waits for: there a resize counts as a
*no*, and as that key.

`Padded` relates inputs to the same inputs with resizes put in at allowed places. Allowed are all
places but those two (`CanResize`), and then the content and the files come out the same, however
many resizes there are; at each of the two places some continuation shows the difference
(`resizes_interfere_only_with_questions`). So the general statement, with every place allowed, is
false (`resize_answers_quit_question`).

The proof is one invariant: the states after both lists of inputs are alike. A common input keeps
them alike by `AlikeStates.turn`, a resize by `AlikeStates.turn_resize`.
-/

namespace Scriptpad

namespace Dialogue

variable {σ : Type} (store : Store σ)

/-- The dialogue takes the next input for an answer, whatever it is. -/
def takesAnyInput (d : Dialogue) : Bool :=
  match d.waiting with
  | .answer | .anyKey => true
  | .command | .fileName _ _ => false

/-- A resize now leaves the content alone: the dialogue is over, or does not take it for an
answer. -/
def IsQuiet (d : Dialogue) : Prop :=
  Session.isOver d = true ∨ d.takesAnyInput = false

theorem AlikeStates.isQuiet {x y : Dialogue × σ} (h : AlikeStates x y) (hquiet : x.1.IsQuiet) :
    y.1.IsQuiet := by
  refine hquiet.imp h.isOver_eq.trans fun htakes ↦ ?_
  rw [takesAnyInput, h.1.2]
  exact htakes

/-! ### A single resize -/

/-- **A resize leaves a quiet dialogue alike.** -/
theorem alikeStates_turn_resize {x : Dialogue × σ} (hquiet : x.1.IsQuiet) (size : Terminal.Size) :
    AlikeStates x (turn store Session.isOver x (.resize size)) := by
  obtain ⟨⟨s, waiting, size'⟩, files⟩ := x
  cases hover : Session.isOver ⟨s, waiting, size'⟩ with
  | true =>
    rw [turn_of_finished hover]
    exact .refl _
  | false =>
    have htakes := hquiet.resolve_left (by simp [hover])
    rw [turn_of_unfinished hover]
    cases waiting with
    | command => exact ⟨⟨rfl, rfl⟩, rfl⟩
    | fileName typed purpose => exact ⟨⟨rfl, rfl⟩, rfl⟩
    | answer => cases htakes
    | anyKey => cases htakes

/-- A resize is taken for a no, and the session has ended. -/
theorem turn_resize_answer {s : Session} (hrunning : s.running = true) (size size' : Terminal.Size)
    (files : σ) :
    turn store Session.isOver (⟨s, .answer, size⟩, files) (.resize size') =
      (⟨{ s with running := false }, .command, size'⟩, files) := by
  rw [turn_of_unfinished (Session.isOver_of_running hrunning _ _), reaction_answer]
  rfl

/-- A resize is taken for the key that is waited for, like any input. -/
theorem turn_anyKey {s : Session} (hrunning : s.running = true) (size : Terminal.Size)
    (input : Input) (files : σ) :
    turn store Session.isOver (⟨s, .anyKey, size⟩, files) input =
      (⟨s.withoutMessage, .command, sizeAfter ⟨s, .anyKey, size⟩ input⟩, files) := by
  rw [turn_of_unfinished (Session.isOver_of_running hrunning _ _)]
  rfl

/-- A printable character types itself while a command is waited for. -/
theorem turn_command_char {s : Session} (hrunning : s.running = true) (size : Terminal.Size)
    {c : Char} (hc : isTypeable c = true) (files : σ) :
    turn store Session.isOver (⟨s, .command, size⟩, files) (.key ⟨.char c, {}⟩) =
      (⟨{ s.withoutMessage with document := s.document.typeChar c }, .command, size⟩, files) := by
  rw [turn_of_unfinished (Session.isOver_of_running hrunning _ _), reaction, Input.toKey,
    Key.action_char hc]
  rfl

/-- **A resize of a dialogue that is not quiet shows**, in the content after some continuation. -/
theorem exists_content_ne {x : Dialogue × σ} (hquiet : ¬x.1.IsQuiet) (size : Terminal.Size) :
    ∃ more, (after store Session.isOver (.resize size :: more) x).1.session.content ≠
      (after store Session.isOver more x).1.session.content := by
  obtain ⟨⟨s, waiting, size'⟩, files⟩ := x
  obtain ⟨hover, htakes⟩ := not_or.1 hquiet
  have hrunning : s.running = true := by simpa [Session.isOver] using hover
  cases waiting with
  | command => exact absurd rfl htakes
  | fileName typed purpose => exact absurd rfl htakes
  | answer =>
    -- Without more inputs the question is still open, unless the resize has answered it.
    refine ⟨[], fun heq ↦ ?_⟩
    rw [after_cons, turn_resize_answer store hrunning] at heq
    have hended : false = s.running := congrArg (·.running) heq
    exact absurd (hended.trans hrunning) (by decide)
  | anyKey =>
    -- A character is the key that is waited for, unless the resize has been; then it is typed.
    refine ⟨[.key ⟨.char 'x', {}⟩], fun heq ↦ ?_⟩
    have hrunning' : s.withoutMessage.running = true := hrunning
    have htypeable : isTypeable 'x' = true := by decide
    rw [after_cons, after_cons, after_cons, turn_anyKey store hrunning, turn_anyKey store hrunning,
      turn_command_char store hrunning' _ htypeable] at heq
    have hcursor : s.document.cursor.column + 1 = s.document.cursor.column :=
      congrArg (·.cursor.column) heq
    omega

/-! ### Resizes among the inputs -/

/-- The second list of inputs is the first with resizes put in, each behind a beginning of the first
list that allows it. -/
inductive Padded (allowed : List Input → Prop) : List Input → List Input → Prop
  | nil : Padded allowed [] []
  | keep {inputs padded : List Input} (h : Padded allowed inputs padded) (input : Input) :
      Padded allowed (inputs ++ [input]) (padded ++ [input])
  | resize {inputs padded : List Input} (h : Padded allowed inputs padded)
      (hallowed : allowed inputs) (size : Terminal.Size) :
      Padded allowed inputs (padded ++ [.resize size])

namespace Padded

variable {allowed : List Input → Prop} {inputs padded : List Input}

theorem append (h : Padded allowed inputs padded) (more : List Input) :
    Padded allowed (inputs ++ more) (padded ++ more) := by
  induction more generalizing inputs padded with
  | nil => simpa using h
  | cons input more ih => simpa using ih (h.keep input)

theorem refl (inputs : List Input) : Padded allowed inputs inputs :=
  nil.append inputs

/-- One resize at one place. -/
theorem single (hallowed : allowed inputs) (size : Terminal.Size) (more : List Input) :
    Padded allowed (inputs ++ more) (inputs ++ .resize size :: more) := by
  simpa using ((refl inputs).resize hallowed size).append more

theorem mono {allowed' : List Input → Prop} (h : Padded allowed inputs padded)
    (himp : ∀ inputs, allowed inputs → allowed' inputs) : Padded allowed' inputs padded := by
  induction h with
  | nil => exact .nil
  | keep _ input ih => exact ih.keep input
  | resize _ hallowed size ih => exact ih.resize (himp _ hallowed) size

/-- **Resizes of quiet dialogues leave the state alike**, however many there are. -/
theorem alikeStates {start : Dialogue × σ}
    (h : Padded (fun inputs ↦ (after store Session.isOver inputs start).1.IsQuiet) inputs padded) :
    AlikeStates (after store Session.isOver inputs start)
      (after store Session.isOver padded start) := by
  induction h with
  | nil => exact .refl _
  | keep _ input ih =>
    rw [after_append, after_append]
    exact ih.turn store input
  | resize _ hquiet size ih =>
    rw [after_append]
    exact ih.trans (alikeStates_turn_resize store (ih.isQuiet hquiet) size)

end Padded

end Dialogue

namespace Session

open Dialogue

variable {σ : Type}

/-- What is left of a session, whatever was shown of it. -/
def Report.left (r : Report σ) : Content × σ :=
  (r.session.content, r.files)

variable (s : Session) (store : Store σ) (desk : Desk) (files : σ)

/-- A resize can come behind the given inputs without being taken for an answer. -/
def CanResize (inputs : List Input) : Prop :=
  desk.refusesEntry ≠ none ∨
    (after store isOver inputs (s.opening desk, files)).1.IsQuiet

theorem left_run {desk : Desk} (h : desk.refusesEntry = none) (inputs : List Input) :
    (s.run store desk inputs files).left =
      ((after store isOver inputs (s.opening desk, files)).1.session.content,
        (after store isOver inputs (s.opening desk, files)).2) := by
  obtain ⟨hsession, hfiles⟩ := Prod.mk.inj (run_state s store files h inputs)
  rw [Report.left, hsession, hfiles]

/-- Resizes at places that allow them change nothing that is left. -/
theorem left_run_of_padded {inputs padded : List Input}
    (h : Padded (s.CanResize store desk files) inputs padded) :
    (s.run store desk padded files).left = (s.run store desk inputs files).left := by
  cases hentry : desk.refusesEntry with
  | some detail => simp only [run, hentry, Report.left]
  | none =>
    have hquiet :
        Padded (fun inputs ↦ (after store isOver inputs (s.opening desk, files)).1.IsQuiet)
          inputs padded :=
      h.mono fun _ hallowed ↦ hallowed.resolve_left (not_not_intro hentry)
    obtain ⟨⟨hcontent, -⟩, hfiles⟩ := hquiet.alikeStates store
    rw [left_run s store files hentry, left_run s store files hentry, hcontent, hfiles]

theorem exists_left_run_ne {desk : Desk} {inputs : List Input}
    (h : ¬s.CanResize store desk files inputs) (size : Terminal.Size) :
    ∃ more, (s.run store desk (inputs ++ .resize size :: more) files).left ≠
      (s.run store desk (inputs ++ more) files).left := by
  obtain ⟨hentry, hquiet⟩ := not_or.1 h
  have hentry : desk.refusesEntry = none := Classical.not_not.1 hentry
  obtain ⟨more, hne⟩ := exists_content_ne store hquiet size
  refine ⟨more, fun heq ↦ hne ?_⟩
  rw [left_run s store files hentry, left_run s store files hentry, after_append,
    after_append] at heq
  exact congrArg Prod.fst heq

/-- **Resizes interfere with questions only.** Put in at any places but those where the very next
input is taken for an answer, and in any number, they change neither the content of a session nor
the files. And these places are all: a place at which no resize ever makes a difference, whatever
its size and whatever follows, is one of them. -/
theorem resizes_interfere_only_with_questions :
    (∀ inputs padded, Padded (s.CanResize store desk files) inputs padded →
      (s.run store desk padded files).left = (s.run store desk inputs files).left) ∧
    ∀ inputs, s.CanResize store desk files inputs ↔
      ∀ size more, (s.run store desk (inputs ++ .resize size :: more) files).left =
        (s.run store desk (inputs ++ more) files).left := by
  refine ⟨fun _ _ h ↦ left_run_of_padded s store desk files h, fun inputs ↦ ⟨?_, ?_⟩⟩
  · intro hallowed size more
    exact left_run_of_padded s store desk files (.single hallowed size more)
  · intro hsame
    refine Classical.byContradiction fun hnot ↦ ?_
    obtain ⟨more, hne⟩ := exists_left_run_ne s store files hnot ⟨80, 24⟩
    exact hne (hsame ⟨80, 24⟩ more)

/-- Resizes before, between and behind the keys, and while a name is typed: the draft is saved all
the same, and the same characters are typed. -/
theorem resizes_while_naming :
    let resize (n : UInt16) : Input := .resize ⟨n, n⟩
    let letter : Input := .key ⟨.char 'y', {}⟩
    let ctrlS : Input := .key ⟨.char 's', { control := true }⟩
    let enter : Input := .key ⟨.enter, {}⟩
    let desk : Desk := ⟨⟨80, 24⟩, none, none⟩
    let keys : List Input := [letter, ctrlS, letter, letter, enter, letter]
    let padded : List Input := [resize 5, letter, resize 6, resize 7, ctrlS, resize 0, letter,
      letter, resize 9, enter, resize 60, letter, resize 1]
    let left := ((draft none).run Memory.store desk padded {}).left
    Padded ((draft none).CanResize Memory.store desk {}) keys padded ∧
      left = ((draft none).run Memory.store desk keys {}).left ∧
      left.1.lines = ["xyy".toList] ∧ left.1.path = some "yy".toList ∧
      left.2.lines? "yy".toList = some ["xy".toList] := by
  intro resize letter ctrlS enter desk keys padded left
  have hpadded : Padded ((draft none).CanResize Memory.store desk {}) keys padded := by
    -- No place is one where the next input is taken for an answer.
    have hquiet {inputs : List Input}
        (h : (after Memory.store isOver inputs ((draft none).opening desk, {})).1.takesAnyInput =
          false) : (draft none).CanResize Memory.store desk {} inputs := .inr (.inr h)
    have htyped := (Padded.nil.resize (hquiet (by decide)) ⟨5, 5⟩).keep letter
    have hresized :=
      (htyped.resize (hquiet (by decide)) ⟨6, 6⟩).resize (hquiet (by decide)) ⟨7, 7⟩
    have hasked := hresized.keep ctrlS
    have hnamed := ((hasked.resize (hquiet (by decide)) ⟨0, 0⟩).keep letter).keep letter
    have hsaved := (hnamed.resize (hquiet (by decide)) ⟨9, 9⟩).keep enter
    have hedited := (hsaved.resize (hquiet (by decide)) ⟨60, 60⟩).keep letter
    exact hedited.resize (hquiet (by decide)) ⟨1, 1⟩
  have hleft := (resizes_interfere_only_with_questions (draft none) Memory.store desk {}).1
    keys padded hpadded
  refine ⟨hpadded, hleft, ?_⟩
  rw [show left = _ from hleft]
  decide

/-- **A resize answers a question.** Quitting with unsaved changes and answering yes saves them;
with a resize before the yes, they are lost. -/
theorem resize_answers_quit_question :
    let ctrlQ : Input := .key ⟨.char 'q', { control := true }⟩
    let yes : Input := .key ⟨.char 'y', {}⟩
    let resize : Input := .resize ⟨80, 24⟩
    let saved := ((draft (some "a.ns".toList)).run Memory.store ⟨⟨80, 24⟩, none, none⟩
      [ctrlQ, yes] {}).left
    let lost := ((draft (some "a.ns".toList)).run Memory.store ⟨⟨80, 24⟩, none, none⟩
      [ctrlQ, resize, yes] {}).left
    Padded (fun _ ↦ True) [ctrlQ, yes] [ctrlQ, resize, yes] ∧
      saved.1.modified = false ∧ saved.2.lines? "a.ns".toList = some ["x".toList] ∧
      lost.1.modified = true ∧ lost.2.lines? "a.ns".toList = none := by
  intro ctrlQ yes resize saved lost
  have hplace : Padded (fun _ ↦ True) ([ctrlQ] ++ [yes]) ([ctrlQ] ++ resize :: [yes]) :=
    .single trivial ⟨80, 24⟩ [yes]
  exact ⟨hplace, by decide⟩

end Session

end Scriptpad
