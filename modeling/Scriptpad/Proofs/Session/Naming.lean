import Scriptpad.Proofs.Session.Saving
import Scriptpad.Storage.Memory

/-!
# The question for a name

A name is typed at the end and taken off at the end, so what is typed is a fold of the inputs
(`typedAfter`), whichever of them are of no use for a name. The first Enter or Escape ends the
question, whatever is held down with it, and the inputs behind it are left for what follows. Before
each input the question is shown again, with what is typed by then.

`nameAnswer?` reads an answer off the inputs, and `nameAnswer?_eq_some_iff` and
`nameAnswer?_eq_none_iff` say that it finds just this. `converse_of_answered` and
`converse_of_asked` follow a conversation through the question, with all that it shows; they hold
for any purpose and up to any end.

The question is done with when it has an answer. What the answer is good for is decided after it,
and a name is a name only if something is left when the blanks at its ends are taken off.
-/

namespace Scriptpad

/-! ### Keys -/

/-- A key that ends the question for a name, whatever is held down with it. -/
def Key.endsName (k : Key) : Bool :=
  k.code = .enter || k.code = .escape

/-- What such a key answers: Enter what is typed, and Escape nothing. -/
def Key.answer (k : Key) (typed : Text) : Option Text :=
  if k.code = .enter then some typed else none

theorem Key.endsName_iff {k : Key} : k.endsName = true ↔ k.code = .enter ∨ k.code = .escape := by
  simp [endsName]

namespace Session

open Dialogue

variable {s : Session} {σ : Type}

theorem receiveName_of_ends {k : Key} (h : k.endsName = true) (typed : Text) (purpose : Purpose) :
    s.receiveName typed purpose k = s.saveAnswered (k.answer typed) purpose := by
  rcases Key.endsName_iff.1 h with henter | hescape
  · rw [receiveName_of_enter henter, Key.answer, if_pos henter]
  · rw [receiveName_of_escape hescape, Key.answer, if_neg (by simp [hescape])]

theorem receiveName_of_edits {k : Key} (h : k.endsName = false) (typed : Text)
    (purpose : Purpose) :
    s.receiveName typed purpose k = pure (s, .fileName (k.editName typed) purpose) := by
  have hneither := not_or.1 (mt Key.endsName_iff.2 (Bool.eq_false_iff.1 h))
  exact receiveName_of_edit hneither.1 hneither.2

/-! ### What is typed and shown -/

/-- What is typed once the inputs have come. -/
def typedAfter (typed : Text) (inputs : List Input) : Text :=
  inputs.foldl (fun typed input ↦ input.toKey.editName typed) typed

theorem nameAnswer?_cons (typed : Text) (input : Input) (inputs : List Input) :
    nameAnswer? typed (input :: inputs) =
      if input.toKey.endsName then some (input.toKey.answer typed, inputs)
      else nameAnswer? (input.toKey.editName typed) inputs := by
  rw [nameAnswer?, Key.endsName, Key.answer]
  split <;> simp_all

/-- **There is no answer** exactly as long as neither Enter nor Escape has come. -/
theorem nameAnswer?_eq_none_iff {typed : Text} {inputs : List Input} :
    nameAnswer? typed inputs = none ↔ ∀ input ∈ inputs, input.toKey.endsName = false := by
  induction inputs generalizing typed with
  | nil => simp [nameAnswer?]
  | cons input inputs ih =>
    rw [nameAnswer?_cons, List.forall_mem_cons]
    cases hends : input.toKey.endsName with
    | true => simp
    | false => simpa using ih

/-- **The answer is what was typed** before the first of them. -/
theorem nameAnswer?_eq_some_iff {typed : Text} {inputs more : List Input} {answer : Option Text} :
    nameAnswer? typed inputs = some (answer, more) ↔
      ∃ asked last, inputs = asked ++ last :: more ∧
        (∀ input ∈ asked, input.toKey.endsName = false) ∧ last.toKey.endsName = true ∧
        answer = last.toKey.answer (typedAfter typed asked) := by
  induction inputs generalizing typed with
  | nil => simp [nameAnswer?]
  | cons input inputs ih =>
    rw [nameAnswer?_cons]
    cases hends : input.toKey.endsName with
    | true =>
      constructor
      · rintro ⟨⟩
        exact ⟨[], input, rfl, by simp, hends, rfl⟩
      · rintro ⟨- | ⟨first, asked⟩, last, hinputs, hasked, -, rfl⟩
        · obtain ⟨rfl, rfl⟩ := List.cons.inj hinputs
          rfl
        · obtain ⟨rfl, -⟩ := List.cons.inj hinputs
          rw [(List.forall_mem_cons.1 hasked).1] at hends
          cases hends
    | false =>
      simp only [Bool.false_eq_true, if_false, ih]
      constructor
      · rintro ⟨asked, last, rfl, hasked, hlast, rfl⟩
        exact ⟨input :: asked, last, rfl, List.forall_mem_cons.2 ⟨hends, hasked⟩, hlast, rfl⟩
      · rintro ⟨- | ⟨first, asked⟩, last, hinputs, hasked, hlast, rfl⟩
        · obtain ⟨rfl, -⟩ := List.cons.inj hinputs
          rw [hends] at hlast
          cases hlast
        · obtain ⟨rfl, rfl⟩ := List.cons.inj hinputs
          exact ⟨asked, last, rfl, (List.forall_mem_cons.1 hasked).2, hlast, rfl⟩

/-- The question is shown with what is typed, as far as the screen is wide, and an input is waited
for. -/
def asking (s : Session) (typed : Text) (next : Option Input) : List Event :=
  [.terminal (Screen.goTo 0 s.screen.bottomRow), .terminal .clearToEnd,
    .terminal (.write ((nameQuestion ++ typed).take s.screen.width)), .terminal .flush,
    .awaitInput next]

/-- The question before each of the inputs, with what is typed by then. -/
def askings (s : Session) (typed : Text) (inputs : List Input) : List Event :=
  (List.range inputs.length).flatMap fun i ↦ s.asking (typedAfter typed (inputs.take i)) inputs[i]?

theorem askings_cons (s : Session) (typed : Text) (input : Input) (inputs : List Input) :
    s.askings typed (input :: inputs) =
      s.asking typed (some input) ++ s.askings (input.toKey.editName typed) inputs := by
  rw [askings, List.length_cons, List.range_succ_eq_map, List.flatMap_cons, List.flatMap_map]
  rfl

theorem turnEvents_fileName (s : Session) (typed : Text) (purpose : Purpose)
    (size : Terminal.Size) (next : Option Input) :
    turnEvents ⟨s, .fileName typed purpose, size⟩ next = s.asking typed next := rfl

/-! ### Conversations -/

variable (store : Store σ) (files : σ)

/-- **Inputs go into the name** as long as none of them ends the question. -/
theorem converse_typing {finished : Dialogue → Bool} {purpose : Purpose}
    (hunfinished : ∀ typed size, finished ⟨s, .fileName typed purpose, size⟩ = false)
    {asked : List Input} (hasked : ∀ input ∈ asked, input.toKey.endsName = false)
    (inputs : List Input) (typed : Text) (size : Terminal.Size) :
    ∃ size', converse store finished (asked ++ inputs) ⟨s, .fileName typed purpose, size⟩ files =
      let talk := converse store finished inputs
        ⟨s, .fileName (typedAfter typed asked) purpose, size'⟩ files
      { talk with events := s.askings typed asked ++ talk.events } := by
  induction asked generalizing typed size with
  | nil => exact ⟨size, rfl⟩
  | cons input asked ih =>
    obtain ⟨hedits, hasked⟩ := List.forall_mem_cons.1 hasked
    obtain ⟨size', hmore⟩ := ih hasked (input.toKey.editName typed)
      (sizeAfter ⟨s, .fileName typed purpose, size⟩ input)
    refine ⟨size', ?_⟩
    rw [List.cons_append, converse_cons (hunfinished typed size), reaction_fileName,
      receiveName_of_edits hedits]
    simp only [Effect.pure_eq, Effect.perform_done, hmore, askings_cons, turnEvents_fileName,
      List.append_nil, List.append_assoc]
    rfl

/-- A question that no input ends is asked until there are no inputs any more. -/
theorem converse_of_asked {finished : Dialogue → Bool} {purpose : Purpose}
    (hunfinished : ∀ typed size, finished ⟨s, .fileName typed purpose, size⟩ = false)
    {asked : List Input} (hasked : ∀ input ∈ asked, input.toKey.endsName = false)
    (typed : Text) (size : Terminal.Size) :
    ∃ size', converse store finished asked ⟨s, .fileName typed purpose, size⟩ files =
      ⟨⟨s, .fileName (typedAfter typed asked) purpose, size'⟩, files,
        s.askings typed asked ++ s.asking (typedAfter typed asked) none, [],
        .error .inputExhausted⟩ := by
  obtain ⟨size', htyping⟩ := converse_typing store files hunfinished hasked [] typed size
  refine ⟨size', ?_⟩
  rw [List.append_nil] at htyping
  rw [htyping, converse, if_neg (by simp [hunfinished])]
  rfl

/-- **The first input that ends the question answers it**, and what is behind it is left to what
follows. -/
theorem converse_of_answered {finished : Dialogue → Bool} {purpose : Purpose}
    (hunfinished : ∀ typed size, finished ⟨s, .fileName typed purpose, size⟩ = false)
    {asked : List Input} (hasked : ∀ input ∈ asked, input.toKey.endsName = false)
    {last : Input} (hlast : last.toKey.endsName = true) (more : List Input) (typed : Text)
    (size : Terminal.Size) :
    ∃ size', converse store finished (asked ++ last :: more) ⟨s, .fileName typed purpose, size⟩
        files =
      let answer := last.toKey.answer (typedAfter typed asked)
      let out := (s.saveAnswered answer purpose).perform store files
      let rest := converse store finished more ⟨out.value.1, out.value.2, size'⟩ out.files
      { rest with
        events := s.askings typed asked ++ s.asking (typedAfter typed asked) (some last) ++
          out.events ++ rest.events } := by
  obtain ⟨size', htyping⟩ :=
    converse_typing store files hunfinished hasked (last :: more) typed size
  refine ⟨sizeAfter ⟨s, .fileName (typedAfter typed asked) purpose, size'⟩ last, ?_⟩
  rw [htyping, converse_cons (hunfinished _ _), reaction_fileName, receiveName_of_ends hlast]
  simp only [turnEvents_fileName, List.append_assoc]

/-! ### A save without a path -/

/-- A save without a path begins with the question. -/
theorem perform_save_of_none (hpath : s.path = none) (size : Terminal.Size)
    (inputs : List Input) :
    let r := s.perform store size .save inputs files
    let talk := converse store isAtRest inputs ⟨s, .fileName [] .save, size⟩ files
    r = ⟨talk.dialogue.session, talk.dialogue.size, talk.files, talk.events, talk.unread,
      talk.result⟩ := by
  intro r talk
  have hact : s.act size .save = .done (s, .fileName [] .save) := save_of_none hpath .save
  simp only [r, talk, Session.perform, perform_act, hact, Effect.perform_done, List.nil_append]

theorem answeredPath?_answer (k : Key) (typed : Text) :
    answeredPath? (k.answer typed) =
      if k.code = .enter ∧ Text.trim typed ≠ [] then some (Text.trim typed) else none := by
  by_cases henter : k.code = .enter
  · by_cases hblank : Text.trim typed = []
    · simp [Key.answer, answeredPath?, henter, hblank]
    · simp [Key.answer, answeredPath?, henter, hblank]
  · simp [Key.answer, answeredPath?, henter]

/-- **A save that was asked for by itself is over when it is answered**: it writes to the path that
the answer names, if it names one. -/
theorem perform_saveAnswered (hpath : s.path = none) (answer : Option Text) :
    let out := (s.saveAnswered answer .save).perform store files
    out.value.2 = .command ∧ out.value.1.path = answeredPath? answer ∧
      match answeredPath? answer with
      | some path =>
        let written := store.write path s.document.lines files
        out.files = written.2 ∧ out.value.1.document = s.document.written written.1 ∧
          out.events = .write path s.document.lines :: saveReport s.document path written.1
      | none => out.files = files ∧ out.value.1.document = s.document ∧ out.events = [] := by
  intro out
  have hnamed : out = (s.saveNamed (answeredPath? answer) .save).perform store files := by
    rw [← saveAnswered_eq_saveNamed hpath]
  rw [hnamed]
  cases answeredPath? answer with
  | none => exact ⟨rfl, hpath, rfl, rfl, rfl⟩
  | some path =>
    obtain ⟨next, hdocument, hnext, hsave⟩ :=
      exists_saveTo_eq store files (s.named (some path)) path
    rw [named_of_none hpath] at hdocument hnext hsave
    simp only [saveNamed, named_of_none hpath, Effect.perform_bind, hsave, afterSave]
    exact ⟨rfl, hnext, rfl, hdocument, List.append_nil _⟩

/-- Once the question is answered and the save made, such a save takes no more inputs. -/
theorem perform_save_of_answered (hpath : s.path = none) {asked : List Input}
    (hasked : ∀ input ∈ asked, input.toKey.endsName = false) {last : Input}
    (hlast : last.toKey.endsName = true) (more : List Input) (size : Terminal.Size) :
    let r := s.perform store size .save (asked ++ last :: more) files
    let out := (s.saveAnswered (last.toKey.answer (typedAfter [] asked)) .save).perform store files
    r.session = out.value.1 ∧ r.files = out.files ∧
      r.events =
        s.askings [] asked ++ s.asking (typedAfter [] asked) (some last) ++ out.events ∧
      r.unread = more ∧ r.result = .ok () := by
  intro r out
  obtain ⟨size', htalk⟩ :=
    converse_of_answered store files (isAtRest_fileName s .save) hasked hlast more [] size
  obtain ⟨hwaiting, -⟩ := perform_saveAnswered store files hpath
    (last.toKey.answer (typedAfter [] asked))
  have hrest : converse store isAtRest more ⟨out.value.1, out.value.2, size'⟩ out.files =
      ⟨⟨out.value.1, out.value.2, size'⟩, out.files, [], more, .ok ()⟩ :=
    converse_of_finished store (decide_eq_true hwaiting) more out.files
  simp only [r, perform_save_of_none store files hpath, htalk]
  rw [hrest]
  exact ⟨rfl, rfl, List.append_nil _, rfl, rfl⟩

/-- **The question for a name takes the inputs up to the first Enter or Escape.** Let none of the
inputs `asked` be one of these. They are typed from the first to the last, and before each input the
question is shown with what is typed. Without more inputs the question stands, and the session with
it; an input that ends it is answered with what is typed or with nothing, and all behind it is left.
So a save of a session without a path waits as long, and then writes to what is typed, less the
blanks at its ends, if Enter has ended the question and anything is left. -/
theorem name_question_takes_keys {asked : List Input}
    (hasked : ∀ input ∈ asked, input.toKey.endsName = false) (s : Session) (store : Store σ)
    (files : σ) (size : Terminal.Size) :
    let typed := typedAfter [] asked
    let shown (next : Option Input) := s.askings [] asked ++ s.asking typed next
    (∀ (finished : Dialogue → Bool) (purpose : Purpose),
      (∀ typed size, finished ⟨s, .fileName typed purpose, size⟩ = false) →
      (∃ size', converse store finished asked ⟨s, .fileName [] purpose, size⟩ files =
        ⟨⟨s, .fileName typed purpose, size'⟩, files, shown none, [], .error .inputExhausted⟩) ∧
      ∀ (last : Input) (more : List Input), last.toKey.endsName = true →
        ∃ size', converse store finished (asked ++ last :: more) ⟨s, .fileName [] purpose, size⟩
            files =
          let out := (s.saveAnswered (last.toKey.answer typed) purpose).perform store files
          let rest := converse store finished more ⟨out.value.1, out.value.2, size'⟩ out.files
          { rest with events := shown (some last) ++ out.events ++ rest.events }) ∧
    (s.path = none →
      (let r := s.perform store size .save asked files
       r.session = s ∧ r.files = files ∧ r.events = shown none ∧ r.unread = [] ∧
         r.result = .error .inputExhausted) ∧
      ∀ (last : Input) (more : List Input), last.toKey.endsName = true →
        let r := s.perform store size .save (asked ++ last :: more) files
        let name := Text.trim typed
        let written := store.write name s.document.lines files
        r.unread = more ∧ r.result = .ok () ∧
          if last.toKey.code = .enter ∧ name ≠ [] then
            r.session.path = some name ∧ r.files = written.2 ∧
              r.events = shown (some last) ++
                .write name s.document.lines :: saveReport s.document name written.1
          else
            r.session.path = none ∧ r.session.document = s.document ∧ r.files = files ∧
              r.events = shown (some last)) := by
  intro typed shown
  refine ⟨fun finished purpose hunfinished ↦ ⟨?_, fun last more hlast ↦ ?_⟩,
    fun hpath ↦ ⟨?_, fun last more hlast ↦ ?_⟩⟩
  · exact converse_of_asked store files hunfinished hasked [] size
  · exact converse_of_answered store files hunfinished hasked hlast more [] size
  · obtain ⟨size', htalk⟩ :=
      converse_of_asked store files (isAtRest_fileName s .save) hasked [] size
    simp only [perform_save_of_none store files hpath, htalk]
    exact ⟨trivial, trivial, rfl, trivial, trivial⟩
  · intro r name written
    obtain ⟨hsession, hfiles, hevents, hunread, hresult⟩ :=
      perform_save_of_answered store files hpath hasked hlast more size
    obtain ⟨-, hnamed, hwritten⟩ :=
      perform_saveAnswered store files hpath (last.toKey.answer typed)
    refine ⟨hunread, hresult, ?_⟩
    simp only [r, hsession, hfiles, hevents]
    rw [answeredPath?_answer] at hnamed hwritten
    split
    · rename_i hname
      rw [if_pos hname] at hnamed hwritten
      exact ⟨hnamed, hwritten.1, congrArg _ hwritten.2.2⟩
    · rename_i hname
      rw [if_neg hname] at hnamed hwritten
      exact ⟨hnamed, hwritten.2.1, hwritten.1, by rw [hwritten.2.2, List.append_nil]⟩

/-- More is taken off the name than is there, keys with the control key held down and a change of
size come in between, and Enter ends it with the control key held down. -/
theorem name_question_takes_keys_of_no_use :
    let s := start (Document.empty.typeChar 'x') { size := ⟨20, 8⟩ } {} none
    let asked : List Input :=
      [.key ⟨.backspace, {}⟩, .key ⟨.char ' ', {}⟩, .key ⟨.char 'é', { alt := true }⟩,
        .key ⟨.char 'q', { control := true }⟩, .resize ⟨60, 10⟩, .key ⟨.char 'b', {}⟩,
        .key ⟨.backspace, { control := true }⟩, .key ⟨.left, {}⟩]
    let last : Input := .key ⟨.enter, { control := true }⟩
    let r := s.perform Memory.store ⟨80, 24⟩ .save (asked ++ [last, .key ⟨.escape, {}⟩]) {}
    (∀ input ∈ asked, input.toKey.endsName = false) ∧ s.path = none ∧
      typedAfter [] asked = [' ', 'é'] ∧ r.unread = [.key ⟨.escape, {}⟩] ∧
      r.session.path = some ['é'] ∧ r.files.lines? ['é'] = some [['x']] := by
  intro s asked last r
  have hasked : ∀ input ∈ asked, input.toKey.endsName = false := by decide
  have htyped : typedAfter [] asked = [' ', 'é'] := by decide
  obtain ⟨hunread, -, hnamed⟩ :=
    ((name_question_takes_keys hasked s Memory.store {} ⟨80, 24⟩).2 rfl).2 last
      [.key ⟨.escape, {}⟩] rfl
  rw [if_pos (by rw [htyped]; decide), htyped] at hnamed
  obtain ⟨hpath, hfiles, -⟩ := hnamed
  have hfile := congrArg (fun m : Memory ↦ m.lines? ['é']) hfiles
  exact ⟨hasked, rfl, htyped, hunread, hpath, hfile.trans rfl⟩

end Session

end Scriptpad
