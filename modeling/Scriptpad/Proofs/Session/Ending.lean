import Scriptpad.Proofs.Session.Moments

/-!
# How a session ends

A session takes its inputs one by one and waits for each exactly once. Whether it ends is decided by
a quit: not by the key alone, since with unsaved changes the session still asks whether to save, and
then perhaps for a name. `behindQuit?` reads off the inputs behind the key what a quit needs, and
gives those that it leaves, or nothing if it is never carried through. So there are two outcomes
(`session_ends_by_quitting`). Either a quit is carried through, and the session ends well and leaves
exactly the inputs that this quit leaves; or none is, the session is still running, and it has used
up all inputs and failed for want of another.

That a quit which is carried through ends the session is read forwards along its inputs. That
nothing else ends it is read backwards: the input that ends a session takes one of three courses,
and `traced_moment` leads from each of them to the quit that it belongs to.
-/

namespace Scriptpad

namespace Session

open Dialogue

/-! ### What a quit needs -/

/-- The inputs that a quit leaves of those behind it. With unsaved changes it takes an answer
whether to save, and what a save takes if this is a yes. -/
def behindQuit? (s : Session) (inputs : List Input) : Option (List Input) :=
  if s.document.modified then
    match inputs with
    | [] => none
    | answer :: more => if answer.toKey.isYes then s.behindSave? more else some more
  else some inputs

theorem behindQuit?_of_unmodified {s : Session} (h : s.document.modified = false)
    (inputs : List Input) : s.behindQuit? inputs = some inputs := by
  unfold behindQuit?
  rw [if_neg (by simp [h])]

theorem behindQuit?_of_modified {s : Session} (h : s.document.modified = true) (answer : Input)
    (more : List Input) :
    s.behindQuit? (answer :: more) =
      if answer.toKey.isYes then s.behindSave? more else some more := by
  unfold behindQuit?
  rw [if_pos h]

variable {σ : Type} (s : Session) (store : Store σ) (desk : Desk) (files : σ)

/-- Among the inputs is a quit that is carried through, and it leaves `rest` of them. -/
def QuitsWith (inputs rest : List Input) : Prop :=
  ∃ earlier key behind, inputs = earlier ++ key :: behind ∧
    let before := (s.moment store desk files earlier).1
    before.session.running = true ∧ before.action? key = some .quit ∧
      before.session.behindQuit? behind = some rest

variable {s store desk files}

/-! ### A quit ends a session -/

theorem receiveAnswer_eq (s : Session) (k : Key) :
    s.receiveAnswer k =
      if k.isYes then s.save .quit else .done ({ s with running := false }, .command) := rfl

/-- A save that is to end the session does so once it has what it asks for. -/
theorem isOver_after_save (store : Store σ) (files : σ) {s : Session} (hrunning : s.running = true)
    {inputs rest : List Input} (h : s.behindSave? inputs = some rest) (size : Terminal.Size) :
    let out := (s.save .quit).perform store files
    isOver (after store isOver inputs (⟨out.value.1, out.value.2, size⟩, out.files)).1 = true := by
  have hunfinished (typed : Text) (size : Terminal.Size) :
      isOver ⟨s, .fileName typed .quit, size⟩ = false := isOver_of_running hrunning _ _
  have hsave := after_save store files hunfinished inputs size
  dsimp only at hsave ⊢
  split at hsave
  · rename_i hasked
    rw [behindSave?, hasked.1, hasked.2] at h
    cases h
  · obtain ⟨more, size', hlast⟩ := hsave
    have hended := (ends_saveNamed store files s (s.savePath? inputs) .quit).2
    have hover := isOver_of_ended (hended.trans (Bool.and_false _))
    rw [hlast, after_of_finished (hover _ _)]
    exact hover _ _

/-- **A quit that is carried through ends the session.** -/
theorem isOver_after_quit (store : Store σ) (files : σ) {d : Dialogue} {key : Input}
    (hrunning : d.session.running = true) (hquit : d.action? key = some .quit)
    {behind rest : List Input} (h : d.session.behindQuit? behind = some rest) :
    isOver (after store isOver (key :: behind) (d, files)).1 = true := by
  obtain ⟨s, - | ⟨typed, purpose⟩ | - | -, size⟩ := d
  · have hreaction : (⟨s, .command, size⟩ : Dialogue).reaction key =
        if s.document.modified then .done (s.withoutMessage, .answer)
        else .done ({ s.withoutMessage with running := false }, .command) := by
      show s.withoutMessage.act _ key.toKey.action = _
      rw [show key.toKey.action = .quit from Option.some.inj hquit]
      rfl
    rw [after_cons, turn_of_unfinished (isOver_of_running hrunning _ _), hreaction]
    rcases hmodified : s.document.modified with - | -
    · rw [if_neg Bool.false_ne_true, after_of_finished rfl]
      rfl
    · rcases behind with - | ⟨answer, more⟩
      · simp [behindQuit?, hmodified] at h
      · show isOver
          (after store isOver (answer :: more) (⟨s.withoutMessage, .answer, _⟩, files)).1 = true
        rw [after_cons, turn_of_unfinished (isOver_of_running (s := s.withoutMessage) hrunning _ _),
          reaction_answer, receiveAnswer_eq]
        rw [behindQuit?_of_modified hmodified] at h
        split at h
        · rename_i hyes
          rw [if_pos hyes]
          exact isOver_after_save store files (s := s.withoutMessage) hrunning h _
        · rename_i hno
          rw [if_neg hno, after_of_finished rfl]
          rfl
  · cases hquit
  · cases hquit
  · cases hquit

/-! ### Nothing else ends a session -/

/-- Only a yes asks for a save that is to end the session. -/
theorem eq_answer_of_savePurpose? {d : Dialogue} {input : Input}
    (h : d.savePurpose? input = some .quit) :
    d.waiting = .answer ∧ input.toKey.isYes = true := by
  unfold savePurpose? at h
  split at h
  · split at h <;> cases h
  · split at h
    · exact ⟨‹_›, ‹_›⟩
    · cases h
  · cases h

/-- A session that asks whether to save goes back to a quit, which takes what it still needs from
the inputs that follow. -/
theorem AsksWhether.quitsWith {past behind rest : List Input}
    (h : s.AsksWhether store desk files past)
    (hbehind : ∀ before : Session, before.document.modified = true →
      before.content = (s.moment store desk files past).1.session.content →
        before.behindQuit? behind = some rest) :
    s.QuitsWith store desk files (past ++ behind) rest := by
  obtain ⟨earlier, key, rfl, hrunning, hquit, hmodified, hcontent⟩ := h
  exact ⟨earlier, key, behind, by simp, hrunning, hquit, hbehind _ hmodified hcontent.symm⟩

/-- **The input that ends a session is the last that a quit needs**, so this quit leaves exactly the
inputs behind it. -/
theorem quitsWith_of_over (hentry : desk.refusesEntry = none) {past : List Input} {last : Input}
    (hrunning : (s.moment store desk files past).1.session.running = true)
    (hended : (s.moment store desk files (past ++ [last])).1.session.running = false)
    (unread : List Input) :
    s.QuitsWith store desk files (past ++ last :: unread) unread := by
  have htraced := traced_moment s store desk files past
  have hcourse := course_reaction htraced.waits last
  rw [moment_concat_of_running hentry hrunning last] at hended
  dsimp only at hended
  generalize (s.moment store desk files past).1.reaction last = x at hcourse hended
  -- A save ends the session only if it was made for this.
  have hpurpose {t : Session} {path? : Option Path} {purpose : Purpose} (ht : t.running = true)
      (hx : x = t.saveNamed path? purpose) : purpose = .quit := by
    have hsaved := (ends_saveNamed store (s.moment store desk files past).2 t path? purpose).2
    rw [← hx, hended, ht] at hsaved
    simpa using hsaved
  cases hcourse with
  | goesOn hsame => exact absurd (hended.symm.trans (hsame.trans hrunning)) Bool.false_ne_true
  | returns => exact absurd (hended.symm.trans hrunning) Bool.false_ne_true
  | asksWhether => exact absurd (hended.symm.trans hrunning) Bool.false_ne_true
  | types => exact absurd (hended.symm.trans hrunning) Bool.false_ne_true
  | asksName _ hcontent _ =>
    have hsame := (congrArg Content.running hcontent).trans hrunning
    exact absurd (hended.symm.trans hsame) Bool.false_ne_true
  | ends _ hends =>
    rcases hends with ⟨hquit, hunmodified⟩ | ⟨hwaiting, hno⟩
    · exact ⟨past, last, unread, rfl, hrunning, hquit, behindQuit?_of_unmodified hunmodified _⟩
    · refine (htraced.whether hwaiting).quitsWith fun before hmodified _ ↦ ?_
      rw [behindQuit?_of_modified hmodified, hno, if_neg Bool.false_ne_true]
  | @saves t path purpose hsave hcontent hpath =>
    obtain rfl := hpurpose ((congrArg Content.running hcontent).trans hrunning) rfl
    obtain ⟨hwaiting, hyes⟩ := eq_answer_of_savePurpose? hsave
    refine (htraced.whether hwaiting).quitsWith fun before hmodified hsame ↦ ?_
    have hbound : before.path = some path :=
      (congrArg Content.path (hsame.trans hcontent.symm)).trans hpath
    rw [behindQuit?_of_modified hmodified, hyes, if_pos rfl, behindSave?, hbound]
  | @answers typed purpose answer hwaiting hanswer =>
    obtain rfl := hpurpose hrunning rfl
    have hnone : (s.moment store desk files past).1.session.path = none := by
      have hwaits := htraced.waits
      rwa [hwaiting] at hwaits
    obtain ⟨earlier, first, asked, hpast, -, hsave, hcontent, hasked⟩ := htraced.name hwaiting
    obtain ⟨hbegins, hyes⟩ := eq_answer_of_savePurpose? hsave
    have hcut : past ++ last :: unread = earlier ++ first :: (asked ++ last :: unread) := by
      rw [hpast, List.append_assoc, List.cons_append]
    rw [hcut]
    have hwhether := (traced_moment s store desk files earlier).whether hbegins
    refine hwhether.quitsWith fun before hmodified hsame ↦ ?_
    have hbound : before.path = none :=
      (congrArg Content.path (hsame.trans hcontent.symm)).trans hnone
    rw [behindQuit?_of_modified hmodified, hyes, if_pos rfl, behindSave?, hbound]
    show (nameAnswer? [] (asked ++ last :: unread)).map (·.2) = some unread
    rw [hasked, hanswer]
    rfl

end Session

/-! ### Inputs that are waited for -/

/-- The input that an event waits for, if it waits for one. -/
def Event.awaited? : Event → Option (Option Input)
  | .awaitInput input => some input
  | _ => none

namespace Dialogue

theorem awaited?_turnEvents (d : Dialogue) (input : Option Input) :
    (d.turnEvents input).filterMap Event.awaited? = [input] := by
  rw [turnEvents, List.filterMap_append, List.filterMap_map]
  have hshown : d.shows.filterMap (Event.awaited? ∘ Event.terminal) = [] :=
    List.filterMap_eq_nil_iff.2 fun _ _ ↦ rfl
  rw [hshown]
  rfl

/-- No reply waits for an input. -/
theorem awaited?_of_isReply {events : List Event} {path? : Option Path}
    (h : ∀ event ∈ events, event.IsReply path?) : events.filterMap Event.awaited? = [] := by
  refine List.filterMap_eq_nil_iff.2 fun event hmem ↦ ?_
  have hreply := h event hmem
  unfold Event.awaited?
  split
  · exact absurd hreply (by simp [Event.IsReply])
  · rfl

/-- **A conversation waits for its inputs in their order, and for each once.** It takes them until
it is finished; if it is not, it takes them all and waits for one more. -/
theorem converse_taken {σ : Type} (store : Store σ) (finished : Dialogue → Bool)
    (inputs : List Input) {d : Dialogue} (files : σ) (hwait : d.session.MayWait d.waiting) :
    let talk := converse store finished inputs d files
    ∃ taken, inputs = taken ++ talk.unread ∧
      talk.events.filterMap Event.awaited? =
        taken.map some ++ (if finished talk.dialogue then [] else [none]) ∧
      (∀ before input, taken = before ++ [input] →
        finished (after store finished before (d, files)).1 = false) ∧
      (talk.dialogue, talk.files) = after store finished taken (d, files) ∧
      (finished talk.dialogue = false → talk.unread = []) := by
  induction inputs generalizing d files with
  | nil =>
    refine ⟨[], ?_⟩
    rw [converse]
    rcases hfinished : finished d with - | -
    · rw [if_neg Bool.false_ne_true]
      refine ⟨rfl, ?_, by simp, rfl, fun _ ↦ rfl⟩
      rw [awaited?_turnEvents, hfinished]
      rfl
    · rw [if_pos rfl]
      refine ⟨rfl, ?_, by simp, rfl, fun _ ↦ rfl⟩
      rw [hfinished]
      rfl
  | cons input inputs ih =>
    rcases hfinished : finished d with - | -
    · obtain ⟨-, hnext, hreplies⟩ := staysAt_reaction hwait input store files
      obtain ⟨taken, htaken, hawaited, hbefore, hstate, hunread⟩ :=
        ih (d := ⟨_, _, d.sizeAfter input⟩) _ hnext
      rw [converse_cons hfinished]
      refine ⟨input :: taken, by rw [List.cons_append, ← htaken], ?_, ?_, ?_, hunread⟩
      · rw [List.filterMap_append, List.filterMap_append, awaited?_turnEvents,
          awaited?_of_isReply hreplies, hawaited]
        rfl
      · intro before last hlast
        rcases before with - | ⟨first, before⟩
        · exact hfinished
        · obtain ⟨rfl, hmore⟩ := List.cons.inj hlast
          rw [after_cons, turn_of_unfinished hfinished]
          exact hbefore before last hmore
      · rw [after_cons, turn_of_unfinished hfinished]
        exact hstate
    · rw [converse_of_finished store hfinished]
      refine ⟨[], rfl, ?_, by simp, rfl, ?_⟩
      · rw [hfinished]
        rfl
      · intro hunfinished
        rw [hfinished] at hunfinished
        cases hunfinished

end Dialogue

/-! ### The outcome of a session -/

namespace Session

open Dialogue

variable {σ : Type} {s : Session} {store : Store σ} {desk : Desk}

/-- On a terminal that refuses nothing, a session fails exactly if it is still running. -/
theorem result_run (s : Session) (store : Store σ) (hentry : desk.refusesEntry = none)
    (hleave : desk.refusesLeave = none) (inputs : List Input) (files : σ) :
    (s.run store desk inputs files).result =
      if (s.run store desk inputs files).session.running then .error .inputExhausted
      else .ok () := by
  rw [run_result s store files hentry hleave,
    (Prod.mk.inj (run_state s store files hentry inputs)).1, isOver]
  rcases (after store Session.isOver inputs (s.opening desk, files)).1.session.running with - | -
  · rfl
  · rfl

/-- **A session takes a beginning of its inputs** and waits for each of them once. It is over only
when it has taken the last, and if it is not over then, there are no more. -/
theorem run_taken (s : Session) (store : Store σ) (hentry : desk.refusesEntry = none)
    (hleave : desk.refusesLeave = none) (inputs : List Input) (files : σ) :
    let r := s.run store desk inputs files
    ∃ taken, inputs = taken ++ r.unread ∧
      r.events.filterMap Event.awaited? =
        taken.map some ++ (if r.session.running then [none] else []) ∧
      (∀ before input, taken = before ++ [input] →
        (s.moment store desk files before).1.session.running = true) ∧
      (s.moment store desk files taken).1.session = r.session ∧
      (r.session.running = true → r.unread = []) := by
  obtain ⟨taken, hinputs, hawaited, hbefore, hstate, hexhausted⟩ := converse_taken store isOver
    inputs files (d := s.opening desk) trivial
  intro r
  have hleft : r.session = (converse store isOver inputs (s.opening desk) files).dialogue.session ∧
      r.unread = (converse store isOver inputs (s.opening desk) files).unread ∧
      r.events.filterMap Event.awaited? =
        (converse store isOver inputs (s.opening desk) files).events.filterMap Event.awaited? := by
    simp only [r, run, hentry, closing, hleave]
    refine ⟨rfl, rfl, ?_⟩
    rw [List.filterMap_append, List.filterMap_append]
    exact List.append_nil _
  obtain ⟨hsession, hunread, hevents⟩ := hleft
  rw [hsession, hunread, hevents, hawaited]
  refine ⟨taken, hinputs, ?_, fun before input hcut ↦ ?_, ?_, fun hrunning ↦
    hexhausted (isOver_of_running hrunning _ _)⟩
  · rw [isOver]
    rcases (converse store isOver inputs (s.opening desk) files).dialogue.session.running
      with - | -
    · rfl
    · rfl
  · rw [moment, hentry]
    simpa [isOver] using hbefore before input hcut
  · rw [moment, hentry]
    exact congrArg (·.1.session) hstate.symm

/-- A quit among the inputs that is carried through leaves the session over. -/
theorem QuitsWith.ended (hentry : desk.refusesEntry = none) {files : σ} {inputs rest : List Input}
    (h : s.QuitsWith store desk files inputs rest) :
    (s.moment store desk files inputs).1.session.running = false := by
  obtain ⟨earlier, key, behind, rfl, hrunning, hquit, hbehind⟩ := h
  have hover := isOver_after_quit store (s.moment store desk files earlier).2 hrunning hquit hbehind
  simp only [moment, hentry] at hover ⊢
  rw [after_append]
  simpa [isOver] using hover

/-- A conversation that leaves the session over has taken inputs up to the last that a quit
needs. -/
theorem quitsWith_of_taken (hrunning : s.running = true) (hentry : desk.refusesEntry = none)
    {files : σ} {taken unread : List Input}
    (hbefore : ∀ before input, taken = before ++ [input] →
      (s.moment store desk files before).1.session.running = true)
    (hended : (s.moment store desk files taken).1.session.running = false) :
    s.QuitsWith store desk files (taken ++ unread) unread := by
  rcases List.eq_nil_or_concat' taken with rfl | ⟨before, last, rfl⟩
  · have hopening : (s.moment store desk files []).1.session.running = true := by
      simp only [moment, hentry]
      exact hrunning
    exact absurd (hopening.symm.trans hended) (by simp)
  · rw [List.append_assoc, List.singleton_append]
    exact quitsWith_of_over hentry (hbefore before last rfl) hended unread

/-- **A session ends by a quit that is carried through, and by nothing else.** It takes a beginning
of its inputs, and waits for each input that it takes exactly once and in their order. It ends well
exactly if it is not running any more. Then among its inputs is a quit that is carried through, and
no input is taken behind the last that this quit needs. Otherwise there is no such quit, and the
session has taken all inputs and is still running when it fails for want of another. -/
theorem session_ends_by_quitting (s : Session) (store : Store σ) (desk : Desk)
    (hrunning : s.running = true) (hentry : desk.refusesEntry = none)
    (hleave : desk.refusesLeave = none)
    (inputs : List Input) (files : σ) :
    let r := s.run store desk inputs files
    (∃ taken, inputs = taken ++ r.unread ∧
      r.events.filterMap Event.awaited? =
        taken.map some ++ (if r.session.running then [none] else [])) ∧
    (r.result = .ok () ↔ r.session.running = false) ∧
    match r.result with
    | .ok () => s.QuitsWith store desk files inputs r.unread
    | .error fault => fault = .inputExhausted ∧ r.unread = [] ∧ r.session.running = true ∧
        ∀ rest, ¬s.QuitsWith store desk files inputs rest := by
  intro r
  obtain ⟨taken, hinputs, hawaited, hbefore, hstate, hexhausted⟩ :=
    run_taken s store hentry hleave inputs files
  have hresult : r.result = _ := result_run s store hentry hleave inputs files
  refine ⟨⟨taken, hinputs, hawaited⟩, ?_⟩
  rcases hgoes : r.session.running with - | -
  · rw [hresult, hgoes, if_neg Bool.false_ne_true]
    refine ⟨by simp, ?_⟩
    show s.QuitsWith store desk files inputs r.unread
    rw [hinputs]
    exact quitsWith_of_taken hrunning hentry hbefore (by rw [hstate]; exact hgoes)
  · rw [hresult, hgoes, if_pos rfl]
    refine ⟨by simp, rfl, hexhausted hgoes, rfl, fun rest hquits ↦ ?_⟩
    have hlast := congrArg Session.running (run_eq_moment s store desk files inputs).1
    exact absurd (hgoes.symm.trans (hlast.trans (hquits.ended hentry))) (by simp)

/-- A draft without a path is quit. The session takes a yes and a name, and leaves what comes behind
them. -/
theorem session_ends_behind_name :
    let s := start .empty ⟨⟨80, 24⟩, none⟩ {} none
    let desk : Desk := { size := ⟨80, 24⟩ }
    let rest : List Input := [.key ⟨.char 'z', {}⟩]
    let inputs := [.key ⟨.char 'x', {}⟩, .key ⟨.char 'q', { control := true }⟩,
      .key ⟨.char 'y', {}⟩, .key ⟨.char 'a', {}⟩, .key ⟨.enter, {}⟩] ++ rest
    let r := s.run Memory.store desk inputs {}
    s.running = true ∧ r.result = .ok () ∧ r.session.running = false ∧ r.unread = rest ∧
      s.QuitsWith Memory.store desk {} inputs rest := by
  intro s desk rest inputs r
  have hrunning : s.running = true := rfl
  have hends : r.result = .ok () := by decide
  have hrest : r.unread = rest := by decide
  obtain ⟨-, hended, houtcome⟩ := session_ends_by_quitting s Memory.store desk hrunning
    rfl rfl inputs {}
  have hquits : s.QuitsWith Memory.store desk {} inputs r.unread := by
    rw [show (s.run Memory.store desk inputs {}).result = .ok () from hends] at houtcome
    exact houtcome
  rw [hrest] at hquits
  exact ⟨hrunning, hends, hended.1 hends, hrest, hquits⟩

end Session

end Scriptpad
