import Scriptpad.Proofs.Session.Stepping

/-!
# A session between taking over the terminal and giving it back

What a session does can end in many ways: by a quit, or because no input comes any more, be it at
the text, at a question or behind a script. None of them is a way around the end of the session. The
terminal is taken over once, before anything else, and given back once, after anything else that it
is asked for; and the log has the beginning of the session once, and its end if the terminal could
be given back (`terminal_brackets_session`).

It rests on what an input cannot do. `Event.IsReply` leaves out taking over and giving back the
terminal, waiting for another input, and the notices of a beginning and an end; it also says that
files other than the session's own are not touched. Each operation emits replies only, and says at
which path the session is afterwards (`StaysAt`), since a save under a new name writes to the path
that it has just bound. `staysAt_reaction` says it of an input, and `converse_replies` of a
conversation.
-/

namespace Scriptpad

/-- An event that an input may lead to in a session that is at `path?` afterwards. No other file is
touched, the terminal is neither taken over nor given back, and no input is waited for. -/
def Event.IsReply (path? : Option Path) : Event → Prop
  | .read path | .write path _ => path? = some path
  | .enterTerminal | .leaveTerminal | .awaitInput _ => False
  | .notice (.sessionStarted _) | .notice (.sessionEnded _) => False
  | _ => True

theorem Event.IsReply.mono {path? path'? : Option Path} {event : Event} (h : event.IsReply path?)
    (hpath : ∀ path, path? = some path → path'? = some path) : event.IsReply path'? := by
  unfold IsReply at h ⊢
  split at h <;> simp_all

namespace Effect

variable {α β : Type} {p : Event → Prop}

/-! ### What an effect emits -/

/-- Whatever a store answers, all events of the effect have the property. -/
def Emits (p : Event → Prop) (x : Effect α) : Prop :=
  ∀ ⦃σ : Type⦄ (store : Store σ) (files : σ), ∀ event ∈ (x.perform store files).events, p event

theorem Emits.done (a : α) : (Effect.done a).Emits p :=
  fun _ _ _ _ hnone ↦ absurd hnone List.not_mem_nil

theorem Emits.emit {event : Event} {rest : Effect α} (hevent : p event) (hrest : rest.Emits p) :
    (Effect.emit event rest).Emits p :=
  fun _ store files _ hmem ↦ (List.mem_cons.1 hmem).elim (· ▸ hevent) (hrest store files _)

theorem Emits.read {path : Path} {next : Except Failure (List Text) → Effect α}
    (hread : p (.read path)) (hnext : ∀ answer, (next answer).Emits p) :
    (Effect.read path next).Emits p :=
  fun _ store _ _ hmem ↦ (List.mem_cons.1 hmem).elim (· ▸ hread) (hnext _ store _ _)

theorem Emits.bind {x : Effect α} {f : α → Effect β} (hx : x.Emits p)
    (hf : ∀ a, (f a).Emits p) : (x.bind f).Emits p := by
  intro σ store files event hmem
  rw [perform_bind] at hmem
  rcases List.mem_append.1 hmem with hfirst | hsecond
  · exact hx store files event hfirst
  · exact hf _ store _ event hsecond

theorem emits_events {es : List Event} (h : ∀ event ∈ es, p event) : (events es).Emits p := by
  intro σ store files event hmem
  rw [perform_events] at hmem
  exact h event hmem

end Effect

open Effect (Emits)

/-- A script replies with what it shows and with notices of its own. -/
theorem Script.isReply_runFrom (path? : Option Path) (lineCount : Nat) (env : Bindings)
    (source : List Text) : ∀ event ∈ (runFrom lineCount env source).events,
      event.IsReply path? := by
  induction source generalizing env with
  | nil => simp [runFrom, closingNotices, Event.IsReply]
  | cons line rest ih =>
    rw [runFrom]
    rcases Statement.ofLine line with e | statement
    · simp [Event.IsReply]
    · intro event hmem
      rcases List.mem_append.1 hmem with hstatement | hrest
      · rcases List.mem_cons.1 hstatement with rfl | houtput
        · trivial
        · obtain ⟨output, -, rfl⟩ := List.mem_map.1 houtput
          trivial
      · exact ih _ event hrest

theorem Script.emits_performFile (path : Path) :
    (performFile path).Emits (Event.IsReply (some path)) := by
  refine .read rfl fun answer ↦ ?_
  rcases answer with cause | source
  · exact .done _
  · have hrun := isReply_runFrom (some path) source.length ∅ source
    exact .emit trivial ((Effect.emits_events hrun).bind fun _ ↦ .done _)

namespace Session

variable {s t : Session} {path? : Option Path}

theorem emits_runProgram (path : Path) : (runProgram path).Emits (Event.IsReply (some path)) := by
  refine .emit trivial (.emit trivial (.emit trivial (.emit trivial ?_)))
  refine (Script.emits_performFile path).bind fun result ↦ ?_
  rcases result with fault | env
  · exact .emit trivial (.emit trivial (.emit trivial (.emit trivial (.emit trivial (.done ())))))
  · exact .emit trivial (.emit trivial (.done ()))

/-! ### Where a session stays -/

/-- Whatever a store answers, the session is at `path?` afterwards, waits for what it may wait for
there, and the events are replies. -/
def StaysAt (path? : Option Path) (x : Effect (Session × Waiting)) : Prop :=
  ∀ ⦃σ : Type⦄ (store : Store σ) (files : σ),
    let out := x.perform store files
    out.value.1.path = path? ∧ out.value.1.MayWait out.value.2 ∧
      ∀ event ∈ out.events, event.IsReply path?

theorem staysAt_done {waiting : Waiting} (hpath : t.path = path?) (hwait : t.MayWait waiting) :
    StaysAt path? (.done (t, waiting)) :=
  fun _ store files ↦ ⟨hpath, hwait, Emits.done _ store files⟩

/-- What follows a save reads no file but the one that was saved. -/
theorem staysAt_afterSave {path : Path} (hpath : t.path = some path) (saved : Bool)
    (purpose : Purpose) : StaysAt (some path) (t.afterSave saved purpose) := by
  rcases purpose with - | - | -
  · exact staysAt_done hpath trivial
  · rcases saved with - | -
    · exact staysAt_done hpath trivial
    · rw [afterSave_of_saved hpath]
      intro σ store files
      have hprogram := (emits_runProgram path).bind fun _ ↦ Emits.done (t, Waiting.anyKey)
      refine ⟨?_, ?_, hprogram store files⟩
      · rw [Effect.perform_bind]
        exact hpath
      · rw [Effect.perform_bind]
        trivial
  · exact staysAt_done hpath trivial

theorem isReply_saveReport (path? : Option Path) (doc : Document) (path : Path)
    (answer : Except Failure Unit) : ∀ event ∈ saveReport doc path answer,
      event.IsReply path? := by
  rcases answer with cause | -
  · simp [saveReport, Event.IsReply]
  · simp [saveReport, Event.IsReply]

theorem staysAt_saveTo {path : Path} (hpath : t.path = some path) (purpose : Purpose) :
    StaysAt (some path)
      ((t.saveTo path).bind fun next ↦ next.1.afterSave next.2 purpose) := by
  intro σ store files
  obtain ⟨next, -, hnext, hsave⟩ := exists_saveTo_eq store files t path
  have hafter := staysAt_afterSave (hnext.trans hpath)
    (store.write path t.document.lines files).1.isOk purpose
  obtain ⟨hstays, hwait, hreplies⟩ := hafter store (store.write path t.document.lines files).2
  rw [Effect.perform_bind, hsave]
  refine ⟨hstays, hwait, fun event hmem ↦ ?_⟩
  rcases List.mem_append.1 hmem with hfirst | hlater
  · rcases List.mem_cons.1 hfirst with rfl | hreport
    · rfl
    · exact isReply_saveReport _ _ path _ event hreport
  · exact hreplies event hlater

theorem staysAt_save (s : Session) (purpose : Purpose) : StaysAt s.path (s.save purpose) := by
  rcases hpath : s.path with - | path
  · rw [save_of_none hpath]
    exact staysAt_done hpath hpath
  · rw [save_of_some hpath]
    exact staysAt_saveTo hpath purpose

theorem staysAt_cancelSave (s : Session) (purpose : Purpose) :
    StaysAt s.path (s.cancelSave purpose) := by
  rcases purpose with - | - | -
  · exact staysAt_done rfl trivial
  · exact staysAt_done rfl trivial
  · exact staysAt_done rfl trivial

/-- A save of a session without a path binds the one that it is given, if it is given one. -/
theorem staysAt_saveNamed (hpath : s.path = none) (path? : Option Path) (purpose : Purpose) :
    StaysAt path? (s.saveNamed path? purpose) := by
  rcases path? with - | path
  · have hcancels := staysAt_cancelSave s purpose
    rwa [hpath] at hcancels
  · rw [saveNamed, named_of_none hpath]
    exact staysAt_saveTo (path_bindPath s path) purpose

theorem staysAt_act (s : Session) (size : Terminal.Size) (action : Action) :
    StaysAt s.path (s.act size action) := by
  rcases action with c | d | - | - | - | - | - | - | -
  · exact staysAt_done rfl trivial
  · exact staysAt_done rfl trivial
  · exact staysAt_done rfl trivial
  · exact staysAt_done rfl trivial
  · exact staysAt_save s .save
  · exact staysAt_save s .run
  · rw [act]
    split
    · exact staysAt_done rfl trivial
    · exact staysAt_done rfl trivial
  · exact staysAt_done rfl trivial
  · exact staysAt_done rfl trivial

end Session

namespace Dialogue

open Session

/-- The path of a session after an input: an answer to the question for a name binds it, and no
other input changes it. -/
def pathAfter (d : Dialogue) (input : Input) : Option Path :=
  match d.waiting with
  | .fileName typed _ =>
    if input.toKey.code = .enter then answeredPath? (some typed) else d.session.path
  | _ => d.session.path

/-- **An input emits replies**, and leaves the session where it says. -/
theorem staysAt_reaction {d : Dialogue} (hwait : d.session.MayWait d.waiting) (input : Input) :
    StaysAt (d.pathAfter input) (d.reaction input) := by
  obtain ⟨s, - | ⟨typed, purpose⟩ | - | -, size⟩ := d
  · exact staysAt_act s.withoutMessage _ _
  · have hpath : s.path = none := hwait
    show StaysAt (if _ then _ else _) (s.receiveName typed purpose input.toKey)
    split
    · rename_i henter
      rw [receiveName_of_enter henter, saveAnswered_eq_saveNamed hpath]
      exact staysAt_saveNamed hpath _ purpose
    · rename_i henter
      by_cases hescape : input.toKey.code = .escape
      · rw [receiveName_of_escape hescape]
        exact staysAt_cancelSave s purpose
      · rw [receiveName_of_edit henter hescape]
        exact staysAt_done rfl hpath
  · show StaysAt s.path (s.receiveAnswer input.toKey)
    rw [receiveAnswer]
    split
    · exact staysAt_save s .quit
    · exact staysAt_done rfl trivial
  · exact fun σ store files ↦ ⟨rfl, trivial, Emits.emit trivial (.done _) store files⟩

/-- A path that a session has is never given up. -/
theorem pathAfter_of_some {d : Dialogue} (hwait : d.session.MayWait d.waiting) {path : Path}
    (h : d.session.path = some path) (input : Input) : d.pathAfter input = some path := by
  obtain ⟨s, - | ⟨typed, purpose⟩ | - | -, size⟩ := d
  · exact h
  · have hnone : s.path = none := hwait
    exact absurd (hnone.symm.trans h) (by simp)
  · exact h
  · exact h

/-- **A conversation waits for inputs and replies**, with regard to the path that it leaves the
session at, and keeps a path that the session has. -/
theorem converse_replies {σ : Type} (store : Store σ) (finished : Dialogue → Bool)
    (inputs : List Input) {d : Dialogue} (files : σ)
    (hwait : d.session.MayWait d.waiting) :
    let talk := converse store finished inputs d files
    (∀ path, d.session.path = some path → talk.dialogue.session.path = some path) ∧
      ∀ event ∈ talk.events, (∃ input?, event = .awaitInput input?) ∨
        event.IsReply talk.dialogue.session.path := by
  have hturn (d : Dialogue) (input : Option Input) (path? : Option Path) :
      ∀ event ∈ d.turnEvents input, (∃ input?, event = .awaitInput input?) ∨
        event.IsReply path? := by
    intro event hmem
    rcases mem_turnEvents hmem with ⟨request, rfl⟩ | rfl
    · exact .inr trivial
    · exact .inl ⟨input, rfl⟩
  induction inputs generalizing d files with
  | nil =>
    rw [converse]
    split
    · exact ⟨fun _ h ↦ h, fun _ hnone ↦ absurd hnone List.not_mem_nil⟩
    · exact ⟨fun _ h ↦ h, hturn d none _⟩
  | cons input inputs ih =>
    rcases hfinished : finished d with - | -
    · obtain ⟨hpath, hnext, hreplies⟩ := staysAt_reaction hwait input store files
      rw [converse_cons hfinished]
      obtain ⟨hkeeps, hlater⟩ := ih (d := ⟨_, _, d.sizeAfter input⟩) _ hnext
      refine ⟨fun path h ↦ hkeeps path (hpath.trans (pathAfter_of_some hwait h input)), ?_⟩
      intro event hmem
      rcases List.mem_append.1 hmem with hbefore | hafter
      · rcases List.mem_append.1 hbefore with hshown | hreply
        · exact hturn d (some input) _ event hshown
        · refine .inr ((hreplies event hreply).mono fun path h ↦ ?_)
          exact hkeeps path (hpath.trans h)
      · exact hlater event hafter
    · rw [converse_of_finished store hfinished]
      exact ⟨fun _ h ↦ h, fun _ hnone ↦ absurd hnone List.not_mem_nil⟩

end Dialogue

/-! ### The whole session -/

/-- An event is one for the terminal. -/
def Event.isForTerminal : Event → Bool
  | .enterTerminal | .leaveTerminal | .terminal _ | .awaitInput _ => true
  | _ => false

/-- An event belongs to the beginning or the end of a session. -/
def Event.isBoundary : Event → Bool
  | .enterTerminal | .leaveTerminal => true
  | .notice (.sessionStarted _) | .notice (.sessionEnded _) => true
  | _ => false

namespace Session

open Dialogue

/-- Between its beginning and its end, a session converses. -/
theorem events_run_eq {σ : Type} (s : Session) (store : Store σ) {desk : Desk}
    (h : desk.refusesEntry = none) (inputs : List Input) (files : σ) :
    let talk := converse store isOver inputs (s.opening desk) files
    (s.run store desk inputs files).events =
      [.enterTerminal, .notice (.sessionStarted s.title)] ++ talk.events ++
        (closing desk talk.result).1 := by
  simp only [run, h]
  rfl

theorem isBoundary_of_mem_closing {desk : Desk} {result : Except SessionFault Unit} :
    ∀ event ∈ (closing desk result).1, event.isBoundary = true := by
  rw [closing]
  split
  · simp [Event.isBoundary]
  · simp [Event.isBoundary]

/-- **The terminal brackets a session.** If it refuses to be taken over, that is all that happens.
Otherwise, whatever the inputs do and whatever the store answers, taking it over is the first event
and giving it back the last that is for the terminal, and both come once, as the notice of the
beginning does. The result is that of the conversation, unless the terminal refuses to be given
back; then this is the result, and the log has no end of the session. -/
theorem terminal_brackets_session {σ : Type} (s : Session) (store : Store σ) (desk : Desk)
    (inputs : List Input) (files : σ) :
    let r := s.run store desk inputs files
    let talk := converse store isOver inputs (s.opening desk) files
    match desk.refusesEntry with
    | some detail =>
      r = ⟨s, desk.size, files, [.enterTerminal], inputs, .error (.terminal detail)⟩
    | none =>
      r.events.head? = some .enterTerminal ∧
      (r.events.filter Event.isForTerminal).getLast? = some .leaveTerminal ∧
      r.events.filter Event.isBoundary =
        [.enterTerminal, .notice (.sessionStarted s.title), .leaveTerminal] ++
          (if desk.refusesLeave = none then [.notice (.sessionEnded talk.result.isOk)] else []) ∧
      r.session = talk.dialogue.session ∧ r.files = talk.files ∧ r.unread = talk.unread ∧
      r.result = match desk.refusesLeave with
        | some detail => .error (.terminal detail)
        | none => talk.result := by
  intro r talk
  split
  · rename_i detail hentry
    exact run_of_refused s store hentry inputs files
  · rename_i hentry
    have hmiddle : talk.events.filter Event.isBoundary = [] := by
      refine List.filter_eq_nil_iff.2 fun event hmem ↦ ?_
      have hwait : (s.opening desk).session.MayWait (s.opening desk).waiting := trivial
      obtain ⟨input, rfl⟩ | hreply :=
        (converse_replies store isOver inputs files hwait).2 event hmem
      · exact Bool.false_ne_true
      · unfold Event.isBoundary
        split <;> simp_all [Event.IsReply]
    have hevents : r.events = [.enterTerminal, .notice (.sessionStarted s.title)] ++ talk.events ++
        (closing desk talk.result).1 := events_run_eq s store hentry inputs files
    have hleft : r.session = talk.dialogue.session ∧ r.files = talk.files ∧
        r.unread = talk.unread ∧ r.result = (closing desk talk.result).2 := by
      simp only [r, run, hentry]
      exact ⟨rfl, rfl, rfl, rfl⟩
    obtain ⟨hsession, hfiles, hunread, hresult⟩ := hleft
    rw [hevents, hresult, List.filter_append, List.filter_append, List.filter_append,
      List.filter_append, hmiddle]
    rcases hleave : desk.refusesLeave with - | detail
    · rw [closing, hleave]
      exact ⟨rfl, List.getLast?_append_cons _ _ _, rfl, hsession, hfiles, hunread, rfl⟩
    · rw [closing, hleave]
      exact ⟨rfl, List.getLast?_append_cons _ _ _, rfl, hsession, hfiles, hunread, rfl⟩

end Session

end Scriptpad
