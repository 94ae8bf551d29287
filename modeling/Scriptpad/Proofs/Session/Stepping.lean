import Scriptpad.Proofs.Document.Unmodified
import Scriptpad.Proofs.Script.Trace
import Scriptpad.Proofs.Session.Saving
import Scriptpad.Proofs.Storage.Keeping

/-!
# What an input can come to

Whatever a session waits for, and whatever its store refuses, an input comes to one of three things.
Nothing happens to the lines, the mark and the files, though the session may get its first path; an
edit marks the document; or a save succeeds, which takes the mark off and leaves the lines in the
file that the session is then bound to. `Step` says so, `StepsBy` says it of an effect, and each
operation is treated where its callers need it, up to `Dialogue.stepsBy_reaction`; after that no way
through a session is looked into again.

So whatever holds on after such a step, holds after a conversation, a single action and a whole
session: `Persists.converse`, `Persists.perform` and `Persists.run`. The paths of the saves that
succeed are taken from the log (`settledPaths`), and the actions that are carried out from the
inputs (`executed`), so that a statement may speak of both.

The store may be any that is faithful to its files, and refuse what it likes.
-/

namespace Scriptpad

variable {σ : Type} {store : Store σ} {lines? : Path → σ → Option (List Text)}
  {kept : List Text → List Text}

/-! ### What the log tells of files -/

/-- The path of a load or a save that an event reports as a success. -/
def Event.settledPath? : Event → Option Path
  | .notice (.documentLoaded path _) | .notice (.documentSaved path _) => some path
  | _ => none

/-- The paths of the loads and saves that succeeded, in their order. -/
def settledPaths (events : List Event) : List Path :=
  events.filterMap Event.settledPath?

@[simp] theorem settledPaths_nil : settledPaths [] = [] := rfl

@[simp] theorem settledPaths_append (events more : List Event) :
    settledPaths (events ++ more) = settledPaths events ++ settledPaths more :=
  List.filterMap_append

theorem settledPaths_turnEvents (d : Dialogue) (input : Option Input) :
    settledPaths (d.turnEvents input) = [] := by
  refine List.filterMap_eq_nil_iff.2 fun event hevent ↦ ?_
  rcases Dialogue.mem_turnEvents hevent with ⟨request, rfl⟩ | rfl
  · rfl
  · rfl

theorem settledPaths_saveReport (doc : Document) (path : Path) (answer : Except Failure Unit) :
    settledPaths (Session.saveReport doc path answer) = if answer.isOk then [path] else [] := by
  cases answer <;> rfl

/-- A script settles nothing. -/
theorem settledPaths_runFrom (lineCount : Nat) (env : Script.Bindings) (source : List Text) :
    settledPaths (Script.runFrom lineCount env source).events = [] := by
  induction source generalizing env with
  | nil => rfl
  | cons line rest ih =>
    rw [Script.runFrom]
    cases Script.Statement.ofLine line with
    | error e => rfl
    | ok s =>
      have hstatement : settledPaths s.events = [] := by cases s <;> rfl
      rw [settledPaths_append, hstatement, ih]
      rfl

namespace Effect

variable {α β : Type}

/-! ### Effects that only look -/

/-- The effect writes no file, and reports no load and no save. -/
inductive Looks : Effect α → Prop
  | done (a : α) : Looks (done a)
  | emit {event : Event} {rest : Effect α} (hevent : event.settledPath? = none)
      (hrest : Looks rest) : Looks (emit event rest)
  | read {path : Path} {next : Except Failure (List Text) → Effect α}
      (hnext : ∀ answer, Looks (next answer)) : Looks (read path next)

theorem Looks.bind {x : Effect α} {f : α → Effect β} (hx : Looks x) (hf : ∀ a, Looks (f a)) :
    Looks (x.bind f) := by
  induction hx with
  | done a => exact hf a
  | emit hevent _ ih => exact .emit hevent ih
  | read _ ih => exact .read ih

theorem looks_events {es : List Event} (h : settledPaths es = []) : Looks (events es) := by
  induction es with
  | nil => exact .done ()
  | cons event es ih =>
    have hall := List.filterMap_eq_nil_iff.1 h
    refine .emit (hall event List.mem_cons_self) (ih ?_)
    exact List.filterMap_eq_nil_iff.2 fun e he ↦ hall e (List.mem_cons_of_mem _ he)

/-- **An effect that only looks** changes no file of a faithful store. -/
theorem Looks.perform (hstore : store.IsFaithful lines? kept) {x : Effect α} (hx : Looks x)
    (files : σ) :
    settledPaths (x.perform store files).events = [] ∧
      ∀ path, lines? path (x.perform store files).files = lines? path files := by
  induction hx generalizing files with
  | done a => exact ⟨rfl, fun _ ↦ rfl⟩
  | @emit event rest hevent _ ih =>
    obtain ⟨hpaths, hfiles⟩ := ih files
    refine ⟨?_, hfiles⟩
    show settledPaths (event :: (rest.perform store files).events) = []
    rw [settledPaths, List.filterMap_cons, hevent]
    exact hpaths
  | @read path next _ ih =>
    obtain ⟨hpaths, hfiles⟩ := ih (store.read path files).1 (store.read path files).2
    exact ⟨hpaths, fun other ↦ (hfiles other).trans (hstore.lines?_read path files other)⟩

end Effect

theorem Script.looks_performFile (path : Path) : (Script.performFile path).Looks := by
  refine .read fun answer ↦ ?_
  cases answer with
  | error cause => exact .done _
  | ok source =>
    have hrun := settledPaths_runFrom source.length ∅ source
    exact .emit rfl ((Effect.looks_events hrun).bind fun _ ↦ .done _)

namespace Session

theorem looks_runProgram (path : Path) : (runProgram path).Looks := by
  refine .emit rfl (.emit rfl (.emit rfl (.emit rfl ?_)))
  refine (Script.looks_performFile path).bind fun result ↦ ?_
  cases result with
  | ok env => exact .emit rfl (.emit rfl (.done ()))
  | error fault => exact .emit rfl (.emit rfl (.emit rfl (.emit rfl (.emit rfl (.done ())))))

/-! ### Steps -/

/-- A name is asked for only by a session that has no path. -/
def MayWait (s : Session) : Waiting → Prop
  | .fileName .. => s.path = none
  | _ => True

end Session

/-- The action changes the text, if there is something to change. -/
def Action.isEdit : Action → Bool
  | .insert _ | .split | .delete => true
  | _ => false

namespace Session

section

variable (lines? : Path → σ → Option (List Text)) (kept : List Text → List Text)

/-- What an input, and the action that it may be taken for, come to: the session after it, its
files, and the paths of the saves that succeeded. -/
inductive Step (action? : Option Action) (s : Session) (files : σ) (next : Session) (files' : σ) :
    List Path → Prop
  /-- Nothing happens to the lines, the mark and the files. -/
  | idle (hlines : next.document.lines = s.document.lines)
      (hmodified : next.document.modified = s.document.modified)
      (hpath : next.path = s.path ∨ s.path = none)
      (hfiles : ∀ path, lines? path files' = lines? path files) :
      Step action? s files next files' []
  /-- The document is edited. -/
  | edited {action : Action} (haction : action? = some action) (hedit : action.isEdit = true)
      (hmodified : next.document.modified = true) (hpath : next.path = s.path)
      (hfiles : ∀ path, lines? path files' = lines? path files) :
      Step action? s files next files' []
  /-- The document is saved to the path of the session. -/
  | saved {path : Path} (hlines : next.document.lines = s.document.lines)
      (hmodified : next.document.modified = false) (hpath : next.path = some path)
      (hbound : s.path = some path ∨ s.path = none)
      (hfile : lines? path files' = some (kept s.document.lines)) :
      Step action? s files next files' [path]

/-- Whatever the store answers, the effect is a step of the session. -/
def StepsBy (store : Store σ) (action? : Option Action) (s : Session)
    (x : Effect (Session × Waiting)) : Prop :=
  ∀ files, let out := x.perform store files
    Step lines? kept action? s files out.value.1 out.files (settledPaths out.events) ∧
      out.value.1.MayWait out.value.2

end

variable {action? : Option Action} {s t : Session}

/-- Of a session, only its document and its path count. -/
theorem StepsBy.of_eq (hdocument : t.document = s.document) (hpath : t.path = s.path)
    {x : Effect (Session × Waiting)} (h : StepsBy lines? kept store action? t x) :
    StepsBy lines? kept store action? s x := by
  intro files
  obtain ⟨hstep, hwait⟩ := h files
  refine ⟨?_, hwait⟩
  generalize settledPaths (x.perform store files).events = paths at hstep ⊢
  cases hstep with
  | idle hlines hmodified hpath' hfiles =>
    exact .idle (hdocument ▸ hlines) (hdocument ▸ hmodified) (hpath ▸ hpath') hfiles
  | edited haction hedit hmodified hpath' hfiles =>
    exact .edited haction hedit hmodified (hpath ▸ hpath') hfiles
  | saved hlines hmodified hpath' hbound hfile =>
    exact .saved (hdocument ▸ hlines) hmodified hpath' (hpath ▸ hbound) (hdocument ▸ hfile)

/-- What only changes the session's looks, and what it waits for, is idle. -/
theorem stepsBy_idle {x : Effect (Session × Waiting)} {waiting : Waiting}
    (hx : x = .done (t, waiting)) (hlines : t.document.lines = s.document.lines)
    (hmodified : t.document.modified = s.document.modified) (hpath : t.path = s.path)
    (hwait : t.MayWait waiting) : StepsBy lines? kept store action? s x := by
  intro files
  rw [hx]
  exact ⟨.idle hlines hmodified (.inl hpath) fun _ ↦ rfl, hwait⟩

/-! ### Saves -/

/-- What follows a save leaves the document and the path, and looks at files only. -/
theorem afterSave_spec (hstore : store.IsFaithful lines? kept) (s : Session) (saved : Bool)
    (purpose : Purpose) (files : σ) :
    let out := (s.afterSave saved purpose).perform store files
    out.value.1.document = s.document ∧ out.value.1.path = s.path ∧
      out.value.1.MayWait out.value.2 ∧ settledPaths out.events = [] ∧
      ∀ path, lines? path out.files = lines? path files := by
  cases purpose with
  | save => exact ⟨rfl, rfl, trivial, rfl, fun _ ↦ rfl⟩
  | quit => exact ⟨rfl, rfl, trivial, rfl, fun _ ↦ rfl⟩
  | run =>
    cases hpath : s.path with
    | none => cases saved <;> simp [afterSave, hpath, MayWait]
    | some path =>
      cases saved with
      | false => simp [afterSave, hpath, MayWait]
      | true =>
        obtain ⟨hsettled, hfiles⟩ := (looks_runProgram path).perform hstore files
        rw [afterSave_of_saved hpath, Effect.perform_bind]
        exact ⟨rfl, hpath, trivial, by simp [hsettled], hfiles⟩

/-- **A save is idle if the store refuses it**, and otherwise leaves the lines in the file. The
session `t` is `s`, perhaps with its first path. -/
theorem stepsBy_saveTo (hstore : store.IsFaithful lines? kept) {path : Path}
    (hdocument : t.document = s.document) (hpath : t.path = some path)
    (hbound : s.path = some path ∨ s.path = none) (purpose : Purpose) :
    StepsBy lines? kept store action? s
      ((t.saveTo path).bind fun next ↦ next.1.afterSave next.2 purpose) := by
  intro files
  obtain ⟨next, hwritten, hnext, hsave⟩ := exists_saveTo_eq store files t path
  rw [hdocument] at hwritten hsave
  rw [Effect.perform_bind, hsave]
  obtain ⟨hsame, hbinds, hwait, hsettled, hfiles⟩ := afterSave_spec hstore next
    (store.write path s.document.lines files).1.isOk purpose
    (store.write path s.document.lines files).2
  refine ⟨?_, hwait⟩
  have hafter := hbinds.trans (hnext.trans hpath)
  have hreport : settledPaths (.write path s.document.lines ::
      saveReport s.document path (store.write path s.document.lines files).1) =
        if (store.write path s.document.lines files).1.isOk then [path] else [] :=
    settledPaths_saveReport s.document path _
  rw [settledPaths_append, hreport, hsettled, List.append_nil]
  rw [hwritten] at hsame
  cases hanswer : (store.write path s.document.lines files).1 with
  | ok _ =>
    rw [hanswer] at hsame hafter hfiles
    -- A script that is run behind the save looks at files only, so the file is as it was written.
    refine .saved ?_ ?_ hafter hbound ?_
    · rw [hsame]
      rfl
    · rw [hsame]
      rfl
    · exact (hfiles path).trans (hstore.keeps path s.document.lines files hanswer)
  | error cause =>
    rw [hanswer] at hsame hafter hfiles
    have hrefused : (store.write path s.document.lines files).1 ≠ .ok () := by simp [hanswer]
    refine .idle ?_ ?_ ?_ fun other ↦ (hfiles other).trans (hstore.lines?_refused hrefused other)
    · rw [hsame]
      rfl
    · rw [hsame]
      rfl
    · exact hbound.imp_left fun hsame ↦ hafter.trans hsame.symm

theorem stepsBy_save (hstore : store.IsFaithful lines? kept) (s : Session) (purpose : Purpose) :
    StepsBy lines? kept store action? s (s.save purpose) := by
  cases hpath : s.path with
  | none =>
    rw [save_of_none hpath]
    exact stepsBy_idle rfl rfl rfl rfl hpath
  | some path =>
    rw [save_of_some hpath]
    exact stepsBy_saveTo hstore rfl hpath (.inl hpath) purpose

theorem stepsBy_cancelSave (s : Session) (purpose : Purpose) :
    StepsBy lines? kept store action? s (s.cancelSave purpose) := by
  cases purpose with
  | save => exact stepsBy_idle rfl rfl rfl rfl trivial
  | run => exact stepsBy_idle rfl rfl rfl rfl trivial
  | quit => exact stepsBy_idle rfl rfl rfl rfl trivial

theorem stepsBy_saveAnswered (hstore : store.IsFaithful lines? kept) (hpath : s.path = none)
    (answer : Option Text) (purpose : Purpose) :
    StepsBy lines? kept store action? s (s.saveAnswered answer purpose) := by
  rw [saveAnswered_eq_saveNamed hpath]
  cases answeredPath? answer with
  | none => exact stepsBy_cancelSave s purpose
  | some path =>
    rw [saveNamed, named_of_none hpath]
    have hbinds := path_bindPath s path
    exact stepsBy_saveTo (s := s) (t := s.bindPath _) hstore rfl hbinds (.inr hpath) purpose

/-! ### Actions and answers -/

/-- **An action is a step.** -/
theorem stepsBy_act (hstore : store.IsFaithful lines? kept) (s : Session) (size : Terminal.Size)
    (action : Action) : StepsBy lines? kept store (some action) s (s.act size action) := by
  -- Typing and breaking a line mark the document in any case, a deletion only if it deletes.
  have hedited {doc : Document} (hedit : action.isEdit = true) (hmodified : doc.modified = true) :
      StepsBy lines? kept store (some action) s (.done ({ s with document := doc }, .command)) :=
    fun _ ↦ ⟨.edited rfl hedit hmodified rfl fun _ ↦ rfl, trivial⟩
  cases action with
  | insert c => exact hedited rfl rfl
  | split => exact hedited rfl rfl
  | delete =>
    rcases s.document.deleteLeft_eq_self_or_modified with hsame | hmodified
    · exact stepsBy_idle rfl (congrArg Document.lines hsame) (congrArg Document.modified hsame) rfl
        trivial
    · exact hedited rfl hmodified
  | move d =>
    exact stepsBy_idle rfl (s.document.lines_move d) (s.document.modified_move d) rfl trivial
  | save => exact stepsBy_save hstore s .save
  | run => exact stepsBy_save hstore s .run
  | quit =>
    rw [act]
    split
    · exact stepsBy_idle rfl rfl rfl rfl trivial
    · exact stepsBy_idle rfl rfl rfl rfl trivial
  | resize => exact stepsBy_idle rfl rfl rfl rfl trivial
  | ignore => exact stepsBy_idle rfl rfl rfl rfl trivial

theorem stepsBy_receiveName (hstore : store.IsFaithful lines? kept) (hpath : s.path = none)
    (typed : Text) (purpose : Purpose) (k : Key) :
    StepsBy lines? kept store action? s (s.receiveName typed purpose k) := by
  by_cases henter : k.code = .enter
  · rw [receiveName_of_enter henter]
    exact stepsBy_saveAnswered hstore hpath _ purpose
  · by_cases hescape : k.code = .escape
    · rw [receiveName_of_escape hescape]
      exact stepsBy_saveAnswered hstore hpath _ purpose
    · rw [receiveName_of_edit henter hescape]
      exact stepsBy_idle rfl rfl rfl rfl hpath

theorem stepsBy_receiveAnswer (hstore : store.IsFaithful lines? kept) (s : Session) (k : Key) :
    StepsBy lines? kept store action? s (s.receiveAnswer k) := by
  rw [receiveAnswer]
  split
  · exact stepsBy_save hstore s .quit
  · exact stepsBy_idle rfl rfl rfl rfl trivial

theorem stepsBy_receiveAnyKey (s : Session) :
    StepsBy lines? kept store action? s s.receiveAnyKey :=
  fun _ ↦ ⟨.idle rfl rfl (.inl rfl) fun _ ↦ rfl, trivial⟩

end Session

namespace Dialogue

open Session

/-- The action that an input is taken for. Only a session that waits for a command takes any. -/
def action? (d : Dialogue) (input : Input) : Option Action :=
  match d.waiting with
  | .command => some input.toKey.action
  | _ => none

/-- **An input is a step.** -/
theorem stepsBy_reaction (hstore : store.IsFaithful lines? kept) {d : Dialogue}
    (hwait : d.session.MayWait d.waiting) (input : Input) :
    StepsBy lines? kept store (d.action? input) d.session (d.reaction input) := by
  obtain ⟨s, waiting, size⟩ := d
  cases waiting with
  | command =>
    have hact := stepsBy_act hstore s.withoutMessage (sizeAfter ⟨s, .command, size⟩ input)
      input.toKey.action
    exact hact.of_eq (s := s) (t := s.withoutMessage) rfl rfl
  | fileName typed purpose => exact stepsBy_receiveName hstore hwait typed purpose _
  | answer => exact stepsBy_receiveAnswer hstore s _
  | anyKey => exact stepsBy_receiveAnyKey s

/-! ### Runs -/

/-- The actions that a conversation carries out, in their order. -/
def executed (store : Store σ) (finished : Dialogue → Bool) :
    List Input → Dialogue → σ → List Action
  | [], _, _ => []
  | input :: inputs, d, files =>
    if finished d then []
    else
      let out := (d.receive input).perform store files
      (d.action? input).toList ++ executed store finished inputs out.value out.files

theorem executed_cons {finished : Dialogue → Bool} {d : Dialogue} (h : finished d = false)
    (input : Input) (inputs : List Input) (files : σ) :
    executed store finished (input :: inputs) d files =
      let out := (d.reaction input).perform store files
      (d.action? input).toList ++
        executed store finished inputs ⟨out.value.1, out.value.2, d.sizeAfter input⟩ out.files := by
  simp [executed, h, perform_receive]

end Dialogue

namespace Session

open Dialogue

/-- The actions that a whole session carries out, in their order. -/
def executed (s : Session) (store : Store σ) (desk : Desk) (inputs : List Input) (files : σ) :
    List Action :=
  match desk.refusesEntry with
  | some _ => []
  | none => Dialogue.executed store isOver inputs (s.opening desk) files

/-- `P` holds on after each step that takes only actions of which `Q` holds. It may look at the
session, at the files, and at the paths of all that was saved so far. -/
def Persists (lines? : Path → σ → Option (List Text)) (kept : List Text → List Text)
    (Q : Action → Prop) (P : Session → σ → List Path → Prop) : Prop :=
  ∀ {action? : Option Action} {s next : Session} {files files' : σ} {past paths : List Path},
    (∀ action, action? = some action → Q action) →
      Step lines? kept action? s files next files' paths → P s files past →
        P next files' (past ++ paths)

variable {Q : Action → Prop} {P : Session → σ → List Path → Prop}

/-- **What holds on after steps, holds after a conversation.** -/
theorem Persists.converse (hP : Persists lines? kept Q P) (hstore : store.IsFaithful lines? kept)
    (finished : Dialogue → Bool) (inputs : List Input) {d : Dialogue} {files : σ}
    {past : List Path} (hwait : d.session.MayWait d.waiting)
    (hQ : ∀ action ∈ Dialogue.executed store finished inputs d files, Q action)
    (h : P d.session files past) :
    let talk := converse store finished inputs d files
    P talk.dialogue.session talk.files (past ++ settledPaths talk.events) := by
  induction inputs generalizing d files past with
  | nil =>
    rw [Dialogue.converse]
    split
    · simpa using h
    · simpa [settledPaths_turnEvents] using h
  | cons input inputs ih =>
    cases hover : finished d with
    | true => simpa [converse_of_finished store hover] using h
    | false =>
      -- The first input is a step, and the conversation goes on from what it leaves; what
      -- is shown before the input settles nothing.
      rw [executed_cons hover] at hQ
      obtain ⟨hstep, hnext⟩ := stepsBy_reaction hstore hwait input files
      have haction : ∀ action, d.action? input = some action → Q action := fun action haction ↦
        hQ action (List.mem_append_left _ (Option.mem_toList.2 haction))
      have hlater := ih hnext (fun action hmem ↦ hQ action (List.mem_append_right _ hmem))
        (hP haction hstep h)
      rw [converse_cons hover]
      simpa [settledPaths_turnEvents, List.append_assoc] using hlater

/-! ### Opening and closing -/

/-- **A session on a file** shows the lines that are read, or one empty line if they cannot be. -/
theorem openFile_spec (store : Store σ) (screen : Screen) (config : Config) (path : Path)
    (files : σ) :
    let out := (openFile screen config (some path)).perform store files
    let answer := (store.read path files).1
    out.value.path = some path ∧ out.value.document.modified = false ∧
      out.value.document.lines = (Document.ofLines (answer.toOption.getD [])).lines ∧
      out.files = (store.read path files).2 ∧
      settledPaths out.events = if answer.isOk then [path] else [] := by
  rw [openFile, Effect.bind_eq, Effect.perform_bind]
  simp only [Document.value_load, Document.files_load, Document.events_load]
  cases (store.read path files).1 with
  | ok lines => exact ⟨rfl, rfl, rfl, rfl, rfl⟩
  | error cause => exact ⟨rfl, rfl, rfl, rfl, rfl⟩

theorem settledPaths_closing (desk : Desk) (result : Except SessionFault Unit) :
    settledPaths (closing desk result).1 = [] := by
  rw [closing]
  cases desk.refusesLeave <;> rfl

/-- **What holds on after steps, holds after a whole session.** -/
theorem Persists.run (hP : Persists lines? kept Q P) (hstore : store.IsFaithful lines? kept)
    {s : Session} {files : σ} {past : List Path} (desk : Desk) (inputs : List Input)
    (hQ : ∀ action ∈ s.executed store desk inputs files, Q action) (h : P s files past) :
    let r := s.run store desk inputs files
    P r.session r.files (past ++ settledPaths r.events) := by
  intro r
  cases hentry : desk.refusesEntry with
  | some detail =>
    have hr : r = _ := run_of_refused s store hentry inputs files
    rw [hr]
    exact (List.append_nil past).symm ▸ h
  | none =>
    -- Taking over the size of the terminal is an idle step like any other.
    have hadopts : Step lines? kept none s files (s.adoptSize desk.size) files [] :=
      .idle rfl rfl (.inl rfl) fun _ ↦ rfl
    have hnone : ∀ action, (none : Option Action) = some action → Q action := by simp
    have hopened := hP hnone hadopts h
    rw [executed, hentry] at hQ
    have htalk := hP.converse hstore isOver inputs (d := s.opening desk) trivial hQ hopened
    have hbegins : settledPaths [.enterTerminal,
        .notice (.sessionStarted (s.adoptSize desk.size).title)] = [] := rfl
    simp only [r, Session.run, hentry, settledPaths_append, settledPaths_closing, hbegins,
      List.nil_append, List.append_nil] at htalk ⊢
    exact htalk

/-- **What holds on after steps, holds after a single action** and the inputs that it asks for. -/
theorem Persists.perform (hP : Persists lines? kept Q P) (hstore : store.IsFaithful lines? kept)
    (hQ : ∀ action, Q action) {s : Session} {files : σ} {past : List Path} (size : Terminal.Size)
    (action : Action) (inputs : List Input) (h : P s files past) :
    let r := s.perform store size action inputs files
    P r.session r.files (past ++ settledPaths r.events) := by
  intro r
  obtain ⟨hstep, hwait⟩ := stepsBy_act hstore s size action files
  have hacted := hP (fun action _ ↦ hQ action) hstep h
  have htalk := hP.converse hstore isAtRest inputs (d := ⟨_, _, size⟩) hwait
    (fun action _ ↦ hQ action) hacted
  simp only [r, Session.perform, Dialogue.perform_act, settledPaths_append, ← List.append_assoc]
  exact htalk

end Session

end Scriptpad
