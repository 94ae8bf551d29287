import Scriptpad.Proofs.Session.Bracketing
import Scriptpad.Proofs.Session.Content

/-!
# The moments of a session, and what its questions go back to

A whole session goes from moment to moment, one for each beginning of its inputs, and each input
takes one of a few courses (`Dialogue.Course`). Either it is done with at once, or it makes the
session ask something, or it answers; and only a save that has found its path, or found that there
is none, does anything to files.

Questions are asked over several moments, so what an answer means is said further back. A session
that asks whether to save was told to quit by the input before; one that asks for a name was told to
save by an input further back, and all inputs since then have gone into the name. `Traced` says so
of a moment, and every moment is traced (`traced_moment`). With it, a claim about the input that
ends a session, or about the one that changes a file, becomes one about the inputs that led to it.
-/

namespace Scriptpad

/-- A yes to the question whether to save. -/
def Key.isYes (k : Key) : Bool :=
  k.code = .char 'y' || k.code = .char 'Y'

namespace Dialogue

open Session

/-! ### Courses -/

/-- The purpose of the save that an input asks for. It is a key to save or to run, or a yes to the
question whether to save. -/
def savePurpose? (d : Dialogue) (input : Input) : Option Purpose :=
  match d.waiting with
  | .command =>
    match input.toKey.action with
    | .save => some .save
    | .run => some .run
    | _ => none
  | .answer => if input.toKey.isYes then some .quit else none
  | _ => none

/-- The courses that an input can take. The last two go on with a save, to the path that it has or
is given, and are the only ones that ask the store for anything. -/
inductive Course (d : Dialogue) (input : Input) : Effect (Session × Waiting) → Prop
  /-- It is done with at once. -/
  | goesOn {s : Session} (hrunning : s.running = d.session.running) :
      Course d input (.done (s, .command))
  /-- It leads back from a run. -/
  | returns : Course d input d.session.receiveAnyKey
  /-- It ends the session at once. -/
  | ends {s : Session} (hrunning : s.running = false)
      (h : (d.action? input = some .quit ∧ d.session.document.modified = false) ∨
        (d.waiting = .answer ∧ input.toKey.isYes = false)) :
      Course d input (.done (s, .command))
  /-- It is to end the session, which asks whether to save. -/
  | asksWhether (h : d.action? input = some .quit)
      (hmodified : d.session.document.modified = true) :
      Course d input (.done (d.session.withoutMessage, .answer))
  /-- It asks for a save, which asks for a name. -/
  | asksName {s : Session} {purpose : Purpose} (h : d.savePurpose? input = some purpose)
      (hcontent : s.content = d.session.content) (hpath : s.path = none) :
      Course d input (.done (s, .fileName [] purpose))
  /-- It goes into a name. -/
  | types {typed : Text} {purpose : Purpose} (hwaiting : d.waiting = .fileName typed purpose)
      (hopen : ∀ more, nameAnswer? typed (input :: more) =
        nameAnswer? (input.toKey.editName typed) more) :
      Course d input (.done (d.session, .fileName (input.toKey.editName typed) purpose))
  /-- It asks for a save, which is made. -/
  | saves {s : Session} {path : Path} {purpose : Purpose}
      (h : d.savePurpose? input = some purpose) (hcontent : s.content = d.session.content)
      (hpath : s.path = some path) : Course d input (s.saveNamed (some path) purpose)
  /-- It ends the question for a name. -/
  | answers {typed : Text} {purpose : Purpose} {answer : Option Text}
      (hwaiting : d.waiting = .fileName typed purpose)
      (hanswer : ∀ more, nameAnswer? typed (input :: more) = some (answer, more)) :
      Course d input (d.session.saveNamed (answeredPath? answer) purpose)

variable {d : Dialogue}

/-- A save either asks for a name or is made. -/
theorem course_save {s : Session} {input : Input} {purpose : Purpose}
    (h : d.savePurpose? input = some purpose) (hcontent : s.content = d.session.content) :
    d.Course input (s.save purpose) := by
  rcases hpath : s.path with - | path
  · rw [save_of_none hpath]
    exact .asksName h hcontent hpath
  · rw [save_eq_saveNamed hpath]
    exact .saves h hcontent hpath

theorem course_act (s : Session) (size : Terminal.Size) (input : Input) :
    (⟨s, .command, size⟩ : Dialogue).Course input
      (s.withoutMessage.act (sizeAfter ⟨s, .command, size⟩ input) input.toKey.action) := by
  rcases haction : input.toKey.action with c | d | - | - | - | - | - | - | -
  · exact .goesOn rfl
  · exact .goesOn rfl
  · exact .goesOn rfl
  · exact .goesOn rfl
  · exact course_save (by simp [savePurpose?, haction]) rfl
  · exact course_save (by simp [savePurpose?, haction]) rfl
  · have hquit : action? ⟨s, .command, size⟩ input = some .quit := congrArg some haction
    rw [Session.act]
    split
    · rename_i hmodified
      exact .asksWhether hquit hmodified
    · rename_i hunmodified
      exact .ends rfl (.inl ⟨hquit, Bool.eq_false_iff.2 hunmodified⟩)
  · exact .goesOn rfl
  · exact .goesOn rfl

/-- **Every input takes one of the courses.** -/
theorem course_reaction (hwait : d.session.MayWait d.waiting) (input : Input) :
    d.Course input (d.reaction input) := by
  obtain ⟨s, - | ⟨typed, purpose⟩ | - | -, size⟩ := d
  · exact course_act s size input
  · have hpath : s.path = none := hwait
    rw [reaction_fileName]
    by_cases henter : input.toKey.code = .enter
    · rw [receiveName_of_enter henter, saveAnswered_eq_saveNamed hpath]
      exact .answers rfl fun more ↦ by rw [nameAnswer?, henter]
    · by_cases hescape : input.toKey.code = .escape
      · rw [receiveName_of_escape hescape, saveAnswered_eq_saveNamed hpath]
        exact .answers rfl fun more ↦ by rw [nameAnswer?, hescape]
      · rw [receiveName_of_edit henter hescape]
        refine .types rfl fun more ↦ ?_
        rw [nameAnswer?]
        split
        · exact absurd ‹_› henter
        · exact absurd ‹_› hescape
        · rfl
  · rw [reaction_answer]
    show Course _ input (if input.toKey.isYes then _ else _)
    split
    · rename_i hyes
      exact course_save (by simp [savePurpose?, hyes]) rfl
    · rename_i hno
      exact .ends rfl (.inr ⟨rfl, Bool.eq_false_iff.2 hno⟩)
  · exact .returns

end Dialogue

namespace Session

open Dialogue

/-- The inputs that a save leaves of those behind it. A session without a path takes them up to the
end of an answer to the question for a name. -/
def behindSave? (s : Session) (inputs : List Input) : Option (List Input) :=
  match s.path with
  | some _ => some inputs
  | none => (nameAnswer? [] inputs).map (·.2)

theorem running_saveTo {σ : Type} (store : Store σ) (files : σ) (s : Session) (path : Path) :
    ((s.saveTo path).perform store files).value.1.running = s.running := by
  rw [value_saveTo]
  split <;> rfl

theorem running_named (s : Session) (path? : Option Path) :
    (s.named path?).running = s.running := by
  unfold named
  split <;> rfl

/-- What follows a save asks no question, and ends the session if it was to end. -/
theorem ends_afterSave {σ : Type} (store : Store σ) (files : σ) (s : Session) (saved : Bool)
    (purpose : Purpose) :
    let out := (s.afterSave saved purpose).perform store files
    (out.value.2 = .command ∨ out.value.2 = .anyKey ∧ purpose ≠ .quit) ∧
      out.value.1.running = (s.running && purpose != .quit) := by
  rcases purpose with - | - | -
  · exact ⟨.inl rfl, (Bool.and_true _).symm⟩
  · rcases saved with - | -
    · exact ⟨.inl rfl, (Bool.and_true _).symm⟩
    · rcases hpath : s.path with - | path
      · simp only [afterSave, hpath]
        exact ⟨.inl rfl, (Bool.and_true _).symm⟩
      · rw [afterSave_of_saved hpath, Effect.perform_bind]
        exact ⟨.inr ⟨rfl, Purpose.noConfusion⟩, (Bool.and_true _).symm⟩
  · exact ⟨.inl rfl, (Bool.and_false _).symm⟩

/-- **A save for which it is clear where to** asks no question either. -/
theorem ends_saveNamed {σ : Type} (store : Store σ) (files : σ) (s : Session)
    (path? : Option Path) (purpose : Purpose) :
    let out := (s.saveNamed path? purpose).perform store files
    (out.value.2 = .command ∨ out.value.2 = .anyKey ∧ purpose ≠ .quit) ∧
      out.value.1.running = (s.running && purpose != .quit) := by
  rcases path? with - | path
  · exact ends_afterSave store files _ false purpose
  · have hrunning := (running_saveTo store files (s.named (some path)) path).trans
      (running_named s (some path))
    rw [saveNamed, Effect.perform_bind, ← hrunning]
    exact ends_afterSave store _ _ _ purpose

/-! ### Moments -/

variable {σ : Type} (s : Session) (store : Store σ) (desk : Desk) (files : σ)

/-- The dialogue and the files of a whole session when the inputs `past` have come. On a terminal
that refuses to be taken over, nothing happens. -/
def moment (past : List Input) : Dialogue × σ :=
  match desk.refusesEntry with
  | some _ => (⟨s, .command, desk.size⟩, files)
  | none => after store isOver past (s.opening desk, files)

/-- **The last moment is what the session leaves.** -/
theorem run_eq_moment (inputs : List Input) :
    (s.run store desk inputs files).session = (s.moment store desk files inputs).1.session ∧
      (s.run store desk inputs files).files = (s.moment store desk files inputs).2 := by
  rw [moment]
  split
  · rename_i hentry
    rw [run_of_refused s store hentry]
    exact ⟨rfl, rfl⟩
  · rename_i hentry
    exact Prod.mk.inj (run_state s store files hentry inputs)

variable {s store desk files}

/-- An input that comes leads from one moment to the next, unless the session is over. -/
theorem moment_concat (hentry : desk.refusesEntry = none) (past : List Input) (input : Input) :
    s.moment store desk files (past ++ [input]) =
      turn store isOver (s.moment store desk files past) input := by
  simp only [moment, hentry]
  exact after_append past [input] _

theorem moment_concat_of_running (hentry : desk.refusesEntry = none) {past : List Input}
    (hrunning : (s.moment store desk files past).1.session.running = true) (input : Input) :
    s.moment store desk files (past ++ [input]) =
      let now := s.moment store desk files past
      let out := (now.1.reaction input).perform store now.2
      (⟨out.value.1, out.value.2, now.1.sizeAfter input⟩, out.files) := by
  rw [moment_concat hentry]
  exact turn_of_unfinished (isOver_of_running hrunning _ _) input _

/-- A session that is over stays as it is. -/
theorem moment_concat_of_ended {past : List Input}
    (hended : (s.moment store desk files past).1.session.running = false) (input : Input) :
    s.moment store desk files (past ++ [input]) = s.moment store desk files past := by
  rcases hentry : desk.refusesEntry with - | detail
  · rw [moment_concat hentry, turn_of_finished (isOver_of_ended hended _ _)]
  · simp only [moment, hentry]

/-- **From one moment to the next**, nothing happens at all, or an input has its course. -/
theorem moment_concat_cases (s : Session) (store : Store σ) (desk : Desk) (files : σ)
    (past : List Input) (input : Input) :
    s.moment store desk files (past ++ [input]) = s.moment store desk files past ∨
      let now := s.moment store desk files past
      let out := (now.1.reaction input).perform store now.2
      now.1.session.running = true ∧ s.moment store desk files (past ++ [input]) =
        (⟨out.value.1, out.value.2, now.1.sizeAfter input⟩, out.files) := by
  rcases hrunning : (s.moment store desk files past).1.session.running with - | -
  · exact .inl (moment_concat_of_ended hrunning input)
  · rcases hentry : desk.refusesEntry with - | detail
    · exact .inr ⟨hrunning, moment_concat_of_running hentry hrunning input⟩
    · refine .inl ?_
      simp only [moment, hentry]

/-! ### What questions go back to -/

variable (s store desk files)

/-- The last of the inputs `past` was to end the session, which has unsaved changes. -/
def AsksWhether (past : List Input) : Prop :=
  ∃ earlier key, past = earlier ++ [key] ∧
    let before := (s.moment store desk files earlier).1
    before.session.running = true ∧ before.action? key = some .quit ∧
      before.session.document.modified = true ∧
      (s.moment store desk files past).1.session.content = before.session.content

/-- One of the inputs `past` asked for a save, and those since then typed `typed` as a name. -/
def AsksName (past : List Input) (typed : Text) (purpose : Purpose) : Prop :=
  ∃ earlier first asked, past = earlier ++ first :: asked ∧
    let before := (s.moment store desk files earlier).1
    before.session.running = true ∧ before.savePurpose? first = some purpose ∧
      (s.moment store desk files past).1.session.content = before.session.content ∧
      ∀ more, nameAnswer? [] (asked ++ more) = nameAnswer? typed more

/-- What a session waits for after the inputs `past` goes back to these inputs. -/
structure Traced (past : List Input) : Prop where
  waits :
    (s.moment store desk files past).1.session.MayWait (s.moment store desk files past).1.waiting
  ended : (s.moment store desk files past).1.session.running = false →
    (s.moment store desk files past).1.waiting = .command
  whether : (s.moment store desk files past).1.waiting = .answer →
    s.AsksWhether store desk files past
  name : ∀ {typed purpose}, (s.moment store desk files past).1.waiting = .fileName typed purpose →
    s.AsksName store desk files past typed purpose

variable {s store desk files}

/-- A session that waits for a command asks nothing. -/
theorem Traced.of_command {past : List Input}
    (h : (s.moment store desk files past).1.waiting = .command) :
    s.Traced store desk files past where
  waits := by rw [h]; trivial
  ended _ := h
  whether hanswer := by rw [h] at hanswer; cases hanswer
  name hname := by rw [h] at hname; cases hname

/-- One that waits for any key asks nothing either. -/
theorem Traced.of_anyKey {past : List Input}
    (h : (s.moment store desk files past).1.waiting = .anyKey)
    (hrunning : (s.moment store desk files past).1.session.running = true) :
    s.Traced store desk files past where
  waits := by rw [h]; trivial
  ended hended := absurd (hrunning.symm.trans hended) (by simp)
  whether hanswer := by rw [h] at hanswer; cases hanswer
  name hname := by rw [h] at hname; cases hname

theorem Traced.of_answer {past : List Input}
    (h : (s.moment store desk files past).1.waiting = .answer)
    (hrunning : (s.moment store desk files past).1.session.running = true)
    (hasks : s.AsksWhether store desk files past) : s.Traced store desk files past where
  waits := by rw [h]; trivial
  ended hended := absurd (hrunning.symm.trans hended) (by simp)
  whether _ := hasks
  name hname := by rw [h] at hname; cases hname

theorem Traced.of_fileName {past : List Input} {typed : Text} {purpose : Purpose}
    (h : (s.moment store desk files past).1.waiting = .fileName typed purpose)
    (hrunning : (s.moment store desk files past).1.session.running = true)
    (hpath : (s.moment store desk files past).1.session.path = none)
    (hasks : s.AsksName store desk files past typed purpose) : s.Traced store desk files past where
  waits := by rw [h]; exact hpath
  ended hended := absurd (hrunning.symm.trans hended) (by simp)
  whether hanswer := by rw [h] at hanswer; cases hanswer
  name hname := by
    rw [h] at hname
    cases hname
    exact hasks

/-- A key that edits a name is one more of those that have gone into it. -/
theorem AsksName.concat {past : List Input} {typed : Text} {purpose : Purpose}
    (h : s.AsksName store desk files past typed purpose) {input : Input}
    (hopen : ∀ more, nameAnswer? typed (input :: more) =
      nameAnswer? (input.toKey.editName typed) more)
    (hcontent : (s.moment store desk files (past ++ [input])).1.session.content =
      (s.moment store desk files past).1.session.content) :
    s.AsksName store desk files (past ++ [input]) (input.toKey.editName typed) purpose := by
  obtain ⟨earlier, first, asked, hpast, hrunning, hsave, hsame, hasked⟩ := h
  refine ⟨earlier, first, asked ++ [input], by simp [hpast], hrunning, hsave,
    hcontent.trans hsame, fun more ↦ ?_⟩
  rw [List.append_assoc, hasked, List.singleton_append, hopen]

/-- **An input leads from a traced moment to a traced moment.** -/
theorem Traced.concat (hentry : desk.refusesEntry = none) {past : List Input}
    (h : s.Traced store desk files past)
    (hrunning : (s.moment store desk files past).1.session.running = true) (input : Input) :
    s.Traced store desk files (past ++ [input]) := by
  have hmoment := moment_concat_of_running hentry hrunning input
  dsimp only at hmoment
  have hcourse := course_reaction h.waits input
  generalize (s.moment store desk files past).1.reaction input = x at hmoment hcourse
  -- A save leaves no question, and a session that waits for any key behind it goes on.
  have hsaved {t : Session} {path? : Option Path} {purpose : Purpose}
      (ht : t.running = true) (hx : x = t.saveNamed path? purpose) :
      s.Traced store desk files (past ++ [input]) := by
    obtain ⟨hwaiting, hgoesOn⟩ :=
      ends_saveNamed store (s.moment store desk files past).2 t path? purpose
    rw [hx] at hmoment
    rcases hwaiting with hcommand | ⟨hanyKey, hpurpose⟩
    · exact .of_command (by rw [hmoment]; exact hcommand)
    · refine .of_anyKey (by rw [hmoment]; exact hanyKey) ?_
      rw [hmoment]
      show Session.running _ = true
      rw [hgoesOn, ht]
      simpa using hpurpose
  cases hcourse with
  | goesOn => exact .of_command (by rw [hmoment]; rfl)
  | returns => exact .of_command (by rw [hmoment]; rfl)
  | ends => exact .of_command (by rw [hmoment]; rfl)
  | saves _ hcontent _ => exact hsaved ((congrArg Content.running hcontent).trans hrunning) rfl
  | answers => exact hsaved hrunning rfl
  | asksWhether hquit hmodified =>
    refine .of_answer (by rw [hmoment]; rfl) (by rw [hmoment]; exact hrunning) ?_
    exact ⟨past, input, rfl, hrunning, hquit, hmodified, by rw [hmoment]; rfl⟩
  | @asksName t purpose hsave hcontent hpath =>
    have hgoesOn := (congrArg Content.running hcontent).trans hrunning
    refine .of_fileName (by rw [hmoment]; rfl) (by rw [hmoment]; exact hgoesOn)
      (by rw [hmoment]; exact hpath) ?_
    exact ⟨past, input, [], rfl, hrunning, hsave, by rw [hmoment]; exact hcontent, fun _ ↦ rfl⟩
  | @types typed purpose hwaiting hopen =>
    have hpath : (s.moment store desk files past).1.session.path = none := by
      have hwaits := h.waits
      rwa [hwaiting] at hwaits
    refine .of_fileName (by rw [hmoment]; rfl) (by rw [hmoment]; exact hrunning)
      (by rw [hmoment]; exact hpath) ?_
    exact (h.name hwaiting).concat hopen (by rw [hmoment]; rfl)

/-- **Every moment is traced.** -/
theorem traced_moment (s : Session) (store : Store σ) (desk : Desk) (files : σ)
    (past : List Input) : s.Traced store desk files past := by
  rcases hentry : desk.refusesEntry with - | detail
  · induction past using List.reverseRecOn with
    | nil =>
      refine .of_command ?_
      simp only [moment, hentry]
      rfl
    | append_singleton past input ih =>
      rcases hrunning : (s.moment store desk files past).1.session.running with - | -
      · -- Nothing happens to a session that is over, and it waits for a command.
        refine .of_command ?_
        rw [moment_concat_of_ended hrunning]
        exact ih.ended hrunning
      · exact ih.concat hentry hrunning input
  · refine .of_command ?_
    simp only [moment, hentry]

end Session

end Scriptpad
