import Scriptpad.Proofs.Script.Rereading
import Scriptpad.Proofs.Session.HostCalls

/-!
# Running what is edited

A session runs a script by saving its document and running the file. So three things could come
apart: the lines that are edited, the lines that the file gives back, and those that a run of the
file without a session would read. They do not: whatever the file makes of the lines, the script
shows what the lines themselves would show.

`runCalls` says what the host is asked for once a document is run under a path, and `perform_run`
that a session asks for just this, by whatever way it comes to the path. If it comes to none, or the
write is refused, no script is run and nothing is shown. Main statement: `run_shows_document`.
-/

namespace Scriptpad

namespace Session

/-! ### What a program shows -/

/-- What is shown before a script. -/
def heading : List Event :=
  [.output .clear, .output (.line "=== Running Program ===".toList), .output (.line [])]

/-- What is shown after a script that was not run to its end. -/
def complaint : Except Script.UnknownCommand Script.Bindings → List Event
  | .ok _ => []
  | .error e =>
    [.output (.line []), .output (.line ("Error: ".toList ++ (Script.Fault.command e).message))]

/-- What is shown at last. -/
def trailer : List Event :=
  [.output (.line []), .output (.line "Press any key to return to IDE...".toList)]

theorem hostCalls_complaint (result : Except Script.UnknownCommand Script.Bindings) :
    hostCalls (complaint result) = complaint result := by
  cases result <;> rfl

variable {s : Session} {σ : Type} (store : Store σ) (files : σ)

/-- **A file that can be read is run between heading and trailer**, and the log is told of it. -/
theorem perform_runProgram {path : Path} {source : List Text}
    (hread : (store.read path files).1 = .ok source) :
    ∃ reported, hostCalls reported = [] ∧
      (runProgram path).perform store files =
        ⟨(), (store.read path files).2,
          .notice (.programStarted path) :: heading ++
            [.read path, .notice (.scriptLoaded path source.length)] ++
            (Script.run source).events ++ reported ++ complaint (Script.run source).result ++
            trailer⟩ := by
  have hrun := Script.perform_performFile hread
  simp only [runProgram, Effect.notice, Effect.output, Effect.bind_eq, Effect.perform_bind,
    Effect.perform_event, hrun]
  cases (Script.run source).result with
  | ok env =>
    refine ⟨[], rfl, ?_⟩
    simp only [Except.mapError, Effect.perform_bind, Effect.perform_event, complaint, trailer,
      heading, List.cons_append, List.nil_append, List.append_nil]
  | error e =>
    refine ⟨[.notice (.programFailed (.command e))], rfl, ?_⟩
    simp only [Except.mapError, Effect.perform_bind, Effect.perform_event, complaint, trailer,
      heading, List.append_assoc, List.cons_append, List.nil_append]

theorem hostCalls_runProgram {path : Path} {source : List Text}
    (hread : (store.read path files).1 = .ok source) :
    hostCalls ((runProgram path).perform store files).events =
      heading ++ .read path :: hostCalls (Script.run source).events ++
        complaint (Script.run source).result ++ trailer := by
  obtain ⟨reported, hreported, hprogram⟩ := perform_runProgram store files hread
  rw [hprogram]
  simp only [← List.singleton_append (l := heading), hostCalls_append, hreported,
    hostCalls_complaint, List.append_nil]
  simp only [List.append_assoc]
  rfl

/-! ### Saving for a run -/

/-- What the host is asked for if a document is run under a path, and the files behind. Without a
path nothing is asked for. -/
def runCalls (doc : Document) : Option Path → List Event × σ
  | none => ([], files)
  | some path =>
    let saved := store.write path doc.lines files
    match saved.1 with
    | .ok () =>
      let program := (runProgram path).perform store saved.2
      (.write path doc.lines :: hostCalls program.events, program.files)
    | .error _ => ([.write path doc.lines], saved.2)

theorem runCalls_of_accepted {doc : Document} {path : Path}
    (h : (store.write path doc.lines files).1 = .ok ()) :
    runCalls store files doc (some path) =
      let program := (runProgram path).perform store (store.write path doc.lines files).2
      (.write path doc.lines :: hostCalls program.events, program.files) := by
  simp only [runCalls, h]

theorem runCalls_of_refused {doc : Document} {path : Path}
    (h : (store.write path doc.lines files).1 ≠ .ok ()) :
    runCalls store files doc (some path) =
      ([.write path doc.lines], (store.write path doc.lines files).2) := by
  simp only [runCalls]
  split
  · exact absurd ‹_› h
  · rfl

/-- A save for a run asks for the run, and the rest of the conversation for nothing. -/
theorem calls_saveTo_run {path : Path} (hpath : s.path = some path) (size : Terminal.Size)
    (inputs : List Input) :
    let out := ((s.saveTo path).bind fun next ↦ next.1.afterSave next.2 .run).perform store files
    let talk := Dialogue.converse store isAtRest inputs ⟨out.value.1, out.value.2, size⟩ out.files
    (hostCalls (out.events ++ talk.events), talk.files) =
      runCalls store files s.document (some path) := by
  intro out talk
  obtain ⟨next, -, hnext, hsave⟩ := exists_saveTo_eq store files s path
  have hout : out = _ := Effect.perform_bind store (s.saveTo path) _ files
  rw [hsave] at hout
  cases hanswer : (store.write path s.document.lines files).1 with
  | ok _ =>
    -- The script has been run when the conversation begins, and a key is waited for.
    rw [hanswer] at hout
    simp only [Except.isOk, Except.toBool, afterSave_of_saved (hnext.trans hpath),
      Effect.perform_bind, Effect.perform_done, List.append_nil] at hout
    obtain ⟨hcalls, hfiles⟩ := converse_anyKey store out.files (s := next) size inputs
    have htalk :
        talk = Dialogue.converse store isAtRest inputs ⟨next, .anyKey, size⟩ out.files := by
      simp only [talk, hout]
    rw [runCalls_of_accepted store files hanswer, htalk, hostCalls_append, hcalls, hfiles, hout]
    simp only [hostCalls_append, List.append_nil]
    rfl
  | error cause =>
    rw [hanswer] at hout
    have hrefused : (store.write path s.document.lines files).1 ≠ .ok () := by simp [hanswer]
    have hover : talk = ⟨⟨next, .command, size⟩, out.files, [], inputs, .ok ()⟩ := by
      simp only [talk, hout]
      exact Dialogue.converse_of_finished store rfl inputs _
    rw [runCalls_of_refused store files hrefused, hover, hout]
    rfl

/-- A question that is answered with no name asks for nothing. -/
theorem calls_cancelSave_run (size : Terminal.Size) (inputs : List Input) :
    let out := (s.cancelSave .run).perform store files
    let talk := Dialogue.converse store isAtRest inputs ⟨out.value.1, out.value.2, size⟩ out.files
    (hostCalls (out.events ++ talk.events), talk.files) = runCalls store files s.document none := by
  intro out talk
  have hover : talk = ⟨⟨out.value.1, .command, size⟩, files, [], inputs, .ok ()⟩ :=
    Dialogue.converse_of_finished store rfl inputs _
  rw [hover]
  rfl

theorem calls_saveAnswered_run (hpath : s.path = none) (answer : Option Text)
    (size : Terminal.Size) (inputs : List Input) :
    let out := (s.saveAnswered answer .run).perform store files
    let talk := Dialogue.converse store isAtRest inputs ⟨out.value.1, out.value.2, size⟩ out.files
    (hostCalls (out.events ++ talk.events), talk.files) =
      runCalls store files s.document (answeredPath? answer) := by
  rw [saveAnswered_eq_saveNamed hpath]
  cases answeredPath? answer with
  | none => exact calls_cancelSave_run store files size inputs
  | some path =>
    rw [saveNamed, named_of_none hpath]
    exact calls_saveTo_run store files (path_bindPath s path) size inputs

/-- **What a run asks the host for** is what its path makes it ask for, and the path is the
session's or the one that is answered with. -/
theorem calls_perform_run (s : Session) (size : Terminal.Size) (inputs : List Input) :
    let r := s.perform store size .run inputs files
    (hostCalls r.events, r.files) = runCalls store files s.document (s.savePath? inputs) := by
  intro r
  have hr : (hostCalls r.events, r.files) =
      let out := (s.save .run).perform store files
      let talk := Dialogue.converse store isAtRest inputs ⟨out.value.1, out.value.2, size⟩ out.files
      (hostCalls (out.events ++ talk.events), talk.files) := by
    simp only [r, perform, Dialogue.perform_act, act]
  rw [hr]
  cases hpath : s.path with
  | some path =>
    rw [savePath?, hpath, save_of_some hpath]
    exact calls_saveTo_run store files hpath size inputs
  | none =>
    have hask := isAtRest_fileName s .run
    rw [savePath?, hpath, save_of_none hpath]
    cases hanswer : nameAnswer? [] inputs with
    | none =>
      obtain ⟨last, shown, hshown, htalk⟩ :=
        converse_fileName_of_none store files hask hanswer size
      simp only [Effect.perform_done, htalk, List.nil_append, hshown]
      rfl
    | some answer =>
      obtain ⟨answer, more⟩ := answer
      obtain ⟨size', shown, hshown, htalk⟩ :=
        converse_fileName_of_some store files hask hanswer size
      have hrest := calls_saveAnswered_run store files hpath answer size' more
      simp only [Effect.perform_done, htalk, List.nil_append, List.append_assoc, hostCalls_append,
        hshown] at hrest ⊢
      exact hrest

/-! ### What is shown -/

/-- A script is shown from the file as it is without the file. -/
theorem hostCalls_performFile {path : Path} {ls back : List Text}
    (hunbroken : ∀ line ∈ ls, '\n' ∉ line) (hback : Text.IsReread ls back)
    (hread : (store.read path files).1 = .ok back) :
    hostCalls ((Script.performFile path).perform store files).events =
      .read path :: hostCalls (Script.run ls).events := by
  rw [Script.perform_performFile hread, Script.run_of_isReread hunbroken hback, hostCalls_append]
  rfl

/-- **A run shows what is edited.** If there is a path in the end and the store accepts the write,
the host is asked for the write, the heading, the file, what the lines of the document show as a
script, the complaint that is due to that script, and the trailer, and for nothing else; the file
then gives the lines back, and whatever host it is read on without a session, the script shows the
same. Otherwise nothing is shown at all. -/
theorem run_shows_document (hunbroken : ∀ line ∈ s.document.lines, '\n' ∉ line)
    (hback : store.GivesBack s.document.lines files) (size : Terminal.Size) (inputs : List Input) :
    let r := s.perform store size .run inputs files
    let script := Script.run s.document.lines
    (∀ path, s.savePath? inputs = some path →
      (store.write path s.document.lines files).1 = .ok () →
        hostCalls r.events =
          .write path s.document.lines :: heading ++ .read path :: hostCalls script.events ++
            complaint script.result ++ trailer ∧
        (∃ back, Text.IsReread s.document.lines back ∧
          (store.read path r.files).1 = .ok back) ∧
        ∀ {τ : Type} (host : Store τ) (disk : τ) (back : List Text),
          Text.IsReread s.document.lines back → (host.read path disk).1 = .ok back →
            hostCalls ((Script.performFile path).perform host disk).events =
              .read path :: hostCalls script.events) ∧
    ((∀ path, s.savePath? inputs = some path →
      (store.write path s.document.lines files).1 ≠ .ok ()) → ∀ o, .output o ∉ r.events) := by
  intro r script
  have hcalls : hostCalls r.events = (runCalls store files s.document (s.savePath? inputs)).1 :=
    congrArg Prod.fst (calls_perform_run store files s size inputs)
  have hfiles : r.files = (runCalls store files s.document (s.savePath? inputs)).2 :=
    congrArg Prod.snd (calls_perform_run store files s size inputs)
  constructor
  · intro path hpath haccepted
    obtain ⟨back, hreread, hread⟩ := hback path haccepted
    have hanswer := congrArg Prod.fst hread
    have hsame : Script.run back = script := Script.run_of_isReread hunbroken hreread
    rw [hpath, runCalls_of_accepted store files haccepted] at hcalls hfiles
    obtain ⟨_, -, hprogram⟩ := perform_runProgram store _ hanswer
    refine ⟨?_, ⟨back, hreread, ?_⟩, fun host disk back' hreread' hread' ↦ ?_⟩
    · rw [hcalls]
      dsimp only
      rw [hostCalls_runProgram store _ hanswer, hsame]
      rfl
    · rw [hfiles, hprogram, hread]
      exact hanswer
    · exact hostCalls_performFile host disk hunbroken hreread' hread'
  · intro hrefused o hshown
    have hmem : Event.output o ∈ hostCalls r.events := List.mem_filter.2 ⟨hshown, rfl⟩
    rw [hcalls] at hmem
    cases hpath : s.savePath? inputs with
    | none =>
      rw [hpath] at hmem
      cases hmem
    | some path =>
      rw [hpath, runCalls_of_refused store files (hrefused path hpath)] at hmem
      simp at hmem

/-- A script with a line that ends in a carriage return, run from a disk that loses it: the line
shows what it says, and the one behind it is complained about. -/
theorem run_shows_line_with_return :
    let lines := ["print \"a\"\r".toList, "audio.honk".toList]
    let s := start (.ofLines lines) ⟨⟨80, 24⟩, none⟩
      { scriptExtension := [], highlightExtensions := [], logFile := [], keywords := ∅ } none
    let r := s.perform Disk.store ⟨80, 24⟩ .run [.key ⟨.char 'a', {}⟩, .key ⟨.enter, {}⟩] {}
    hostCalls r.events =
      [.write "a".toList lines, .output .clear, .output (.line "=== Running Program ===".toList),
        .output (.line []), .read "a".toList, .output (.line "a".toList), .output (.line []),
        .output (.line "Error: Runtime Error: Unknown audio command: honk".toList),
        .output (.line []), .output (.line "Press any key to return to IDE...".toList)] := by
  intro lines s r
  have hunbroken : ∀ line ∈ s.document.lines, '\n' ∉ line := by decide
  have hshown := run_shows_document Disk.store {} hunbroken (Disk.givesBack _ _) ⟨80, 24⟩
    [.key ⟨.char 'a', {}⟩, .key ⟨.enter, {}⟩]
  have hpath : s.savePath? [.key ⟨.char 'a', {}⟩, .key ⟨.enter, {}⟩] = some "a".toList := by decide
  exact (hshown.1 "a".toList hpath rfl).1

end Session

end Scriptpad
