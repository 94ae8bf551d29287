import Scriptpad.Proofs.Session.Moments

/-!
# The one file of a session

A session has one file to do with. It is the file at its path, and a session without a path has none
until a name is accepted for it; after that the path stays what it is, whatever becomes of the save
that the name was asked for. So there is a path, the last that the session has, such that every read
and every write is of the file there, from the opening to the end, with all scripts that are run in
between; and no other file changes (`session_touches_one_file`).

That no other file changes is a law of effects: one that does not write a file leaves it alone
(`Effect.lines?_perform`). It asks of the store that it keeps its files apart. Which files are other
files is a matter of the way that a path names (`Path.route`), since one file has many paths:
`d//a` is the file `d/a`. Files in memory are kept apart like that; on a disk two ways may lead to
one place.

When the file itself changes is read off the courses of inputs. Only a save asks the store for
anything, and `traced_moment` gives the input that asked for it: a key to save or to run, or a yes
to the question whether to save. What the file holds then are the lines of the document, which are
the same at that input and now, since a session that asks for a name does nothing else.
-/

namespace Scriptpad

/-! ### Other files -/

/-- A write changes no file that is named another way. -/
def Store.KeepsApart {σ : Type} (store : Store σ) (lines? : Path → σ → Option (List Text)) : Prop :=
  ∀ path other lines files, Path.route other ≠ Path.route path →
    lines? other (store.write path lines files).2 = lines? other files

theorem Memory.keepsApart : Memory.store.KeepsApart Memory.lines? :=
  fun _ _ lines _ hother ↦ Memory.lines?_write_of_ne hother lines

/-- The file that an event reads or writes. -/
def Event.file? : Event → Option Path
  | .read path | .write path _ => some path
  | _ => none

theorem Event.IsReply.file?_eq {path? : Option Path} {event : Event} (h : event.IsReply path?)
    {path : Path} (hfile : event.file? = some path) : path? = some path := by
  unfold file? at hfile
  split at hfile
  · exact hfile ▸ h
  · exact hfile ▸ h
  · cases hfile

/-- Beginning and end of a session are about no file. -/
theorem Event.file?_of_isBoundary {event : Event} (h : event.isBoundary = true) :
    event.file? = none := by
  unfold file?
  split
  · cases h
  · cases h
  · rfl

variable {σ : Type} {store : Store σ} {lines? : Path → σ → Option (List Text)}
  {kept : List Text → List Text}

/-- **An effect that does not write a file leaves it alone.** -/
theorem Effect.lines?_perform {α : Type} (hstore : store.IsFaithful lines? kept)
    (hapart : store.KeepsApart lines?) {other : Path} (x : Effect α) (files : σ)
    (h : ∀ path lines, Event.write path lines ∈ (x.perform store files).events →
      Path.route other ≠ Path.route path) :
    lines? other (x.perform store files).files = lines? other files := by
  induction x generalizing files with
  | done a => rfl
  | emit event rest ih =>
    exact ih files fun path lines hmem ↦ h path lines (List.mem_cons_of_mem _ hmem)
  | read path next ih =>
    have hnext := ih (store.read path files).1 (store.read path files).2
      fun path lines hmem ↦ h path lines (List.mem_cons_of_mem _ hmem)
    exact hnext.trans (hstore.lines?_read path files other)
  | write path lines next ih =>
    have hnext := ih (store.write path lines files).1 (store.write path lines files).2
      fun path lines hmem ↦ h path lines (List.mem_cons_of_mem _ hmem)
    exact hnext.trans (hapart path other lines files (h path lines List.mem_cons_self))

namespace Session

open Dialogue

variable {s : Session} {desk : Desk} {files : σ}

/-! ### The path of a session -/

/-- Before any input has come, a session is where it began, and so are its files. -/
theorem moment_nil : (s.moment store desk files []).1.session.path = s.path ∧
    (s.moment store desk files []).2 = files := by
  rw [moment]
  split
  · exact ⟨rfl, rfl⟩
  · exact ⟨rfl, rfl⟩

/-- What every moment leads to the next has each moment lead to all later ones. -/
theorem path_moment_concat {past : List Input} {path : Path}
    (h : (s.moment store desk files past).1.session.path = some path) (input : Input) :
    (s.moment store desk files (past ++ [input])).1.session.path = some path := by
  have hwaits := (traced_moment s store desk files past).waits
  rcases moment_concat_cases s store desk files past input with hsame | ⟨-, hnext⟩
  · rwa [hsame]
  · rw [hnext]
    exact (staysAt_reaction hwaits input store _).1.trans (pathAfter_of_some hwaits h input)

/-- **A path that a session has is never given up.** -/
theorem path_moment_append {past : List Input} {path : Path}
    (h : (s.moment store desk files past).1.session.path = some path) (more : List Input) :
    (s.moment store desk files (past ++ more)).1.session.path = some path := by
  induction more using List.reverseRecOn with
  | nil => rwa [List.append_nil]
  | append_singleton more input ih =>
    rw [← List.append_assoc]
    exact path_moment_concat ih input

/-- **A path is bound by a name** that is answered with. -/
theorem eq_fileName_of_path {past : List Input} {input : Input} {path : Path}
    (hnone : (s.moment store desk files past).1.session.path = none)
    (hbound : (s.moment store desk files (past ++ [input])).1.session.path = some path) :
    ∃ typed purpose, (s.moment store desk files past).1.waiting = .fileName typed purpose ∧
      input.toKey.code = .enter ∧ answeredPath? (some typed) = some path := by
  have hwaits := (traced_moment s store desk files past).waits
  rcases moment_concat_cases s store desk files past input with hsame | ⟨-, hnext⟩
  · rw [hsame, hnone] at hbound
    cases hbound
  · rw [hnext] at hbound
    have hpath := (staysAt_reaction hwaits input store _).1.symm.trans hbound
    unfold pathAfter at hpath
    split at hpath
    · rename_i typed purpose hwaiting
      split at hpath
      · exact ⟨typed, purpose, hwaiting, ‹_›, hpath⟩
      · exact absurd (hnone.symm.trans hpath) (by simp)
    · exact absurd (hnone.symm.trans hpath) (by simp)

/-! ### Other files in a session -/

/-- **A session leaves a file alone** that is not the file of the path it has at last. -/
theorem lines?_moment (hstore : store.IsFaithful lines? kept) (hapart : store.KeepsApart lines?)
    (past : List Input) {other : Path}
    (h : ∀ path, (s.moment store desk files past).1.session.path = some path →
      Path.route other ≠ Path.route path) :
    lines? other (s.moment store desk files past).2 = lines? other files := by
  induction past using List.reverseRecOn with
  | nil => rw [moment_nil.2]
  | append_singleton past input ih =>
    have hbefore := ih fun path hbound ↦ h path (path_moment_concat hbound input)
    have hwaits := (traced_moment s store desk files past).waits
    rcases moment_concat_cases s store desk files past input with hsame | ⟨-, hnext⟩
    · rwa [hsame]
    · obtain ⟨hpath, -, hreplies⟩ := staysAt_reaction hwaits input store
        (s.moment store desk files past).2
      rw [hnext] at h ⊢
      refine (Effect.lines?_perform hstore hapart _ _ fun path lines hmem ↦ ?_).trans hbefore
      exact h path (hpath.trans ((hreplies _ hmem).file?_eq rfl))

/-- The files that the events of a session read and write are at the path that it has at last. -/
theorem path_eq_of_mem_events (inputs : List Input) {event : Event} {path : Path}
    (hmem : event ∈ (s.run store desk inputs files).events) (hfile : event.file? = some path) :
    (s.run store desk inputs files).session.path = some path := by
  rcases hentry : desk.refusesEntry with - | detail
  · have hsession : (s.run store desk inputs files).session =
        (converse store isOver inputs (s.opening desk) files).dialogue.session := by
      simp only [run, hentry]
      rfl
    have hreplies := (converse_replies store isOver inputs files (d := s.opening desk) trivial).2
    rw [events_run_eq s store hentry] at hmem
    rw [hsession]
    have hboundary (h : event.isBoundary = true) : False := by
      rw [Event.file?_of_isBoundary h] at hfile
      cases hfile
    rcases List.mem_append.1 hmem with hbefore | hclosing
    · rcases List.mem_append.1 hbefore with hopening | htalk
      · refine (hboundary ?_).elim
        rcases List.mem_cons.1 hopening with rfl | hstarted
        · rfl
        · rw [List.mem_singleton.1 hstarted]
          rfl
      · rcases hreplies event htalk with ⟨input, rfl⟩ | hreply
        · cases hfile
        · exact hreply.file?_eq hfile
    · exact (hboundary (isBoundary_of_mem_closing event hclosing)).elim
  · rw [run_of_refused s store hentry] at hmem
    obtain rfl := List.mem_singleton.1 hmem
    cases hfile

/-! ### The file of a session -/

/-- What a step does to files: nothing, or it leaves the lines of the document in the file at the
path that the session has from then on. -/
theorem Step.lines?_eq_or {action? : Option Action} {before next : Session} {files files' : σ}
    {paths : List Path} (h : Step lines? id action? before files next files' paths) :
    (∀ other, lines? other files' = lines? other files) ∨
      ∃ path, next.path = some path ∧ (before.path = some path ∨ before.path = none) ∧
        next.document.lines = before.document.lines ∧
        lines? path files' = some before.document.lines := by
  cases h with
  | idle _ _ _ hfiles => exact .inl hfiles
  | edited _ _ _ _ hfiles => exact .inl hfiles
  | saved hlines _ hpath hbound hfile => exact .inr ⟨_, hpath, hbound, hlines, hfile⟩

section

variable (s store desk files)

/-- One of the inputs `past` asked for a save, by a key to save or to run or by a yes to the
question whether to save. Those since then are what the save took, and they lead it to `path`; the
document had the lines `lines` then, and has them now. -/
def SavesTo (past : List Input) (path : Path) (lines : List Text) : Prop :=
  ∃ earlier first asked, past = earlier ++ first :: asked ∧
    let before := (s.moment store desk files earlier).1
    before.session.running = true ∧ before.savePurpose? first ≠ none ∧
      before.session.behindSave? asked = some [] ∧ before.session.savePath? asked = some path ∧
      before.session.document.lines = lines ∧
      (s.moment store desk files past).1.session.document.lines = lines

/-- All that a session does to files when `inputs` come is done to the file at `path`. -/
structure HasOneFile (lines? : Path → σ → Option (List Text)) (inputs : List Input) (path : Path) :
    Prop where
  /-- Its moments lead from the files at the beginning to what it leaves. -/
  leads : (s.moment store desk files []).2 = files ∧
    (s.run store desk inputs files).session = (s.moment store desk files inputs).1.session ∧
      (s.run store desk inputs files).files = (s.moment store desk files inputs).2
  /-- Every read and every write is of this file. -/
  touches : ∀ event ∈ (s.run store desk inputs files).events, ∀ file,
    event.file? = some file → file = path
  /-- A path that the session has is this one, and is never given up. -/
  stays : ∀ past more behind bound, inputs = past ++ more ++ behind →
    (s.moment store desk files past).1.session.path = some bound →
      bound = path ∧ (s.moment store desk files (past ++ more)).1.session.path = some path
  /-- It is bound by nothing but a name that is answered with. -/
  binds : ∀ past input behind, inputs = past ++ input :: behind →
    (s.moment store desk files past).1.session.path = none →
      (s.moment store desk files (past ++ [input])).1.session.path ≠ none →
        ∃ typed purpose, (s.moment store desk files past).1.waiting = .fileName typed purpose ∧
          input.toKey.code = .enter ∧ answeredPath? (some typed) = some path
  /-- No other file changes. -/
  spares : ∀ other, Path.route other ≠ Path.route path →
    lines? other (s.run store desk inputs files).files = lines? other files
  /-- This file changes only by a save, and then holds the lines of the document. -/
  changes : ∀ past input behind, inputs = past ++ input :: behind →
    let before := (s.moment store desk files past).2
    let next := (s.moment store desk files (past ++ [input])).2
    lines? path next = lines? path before ∨
      ∃ lines, s.SavesTo store desk files (past ++ [input]) path lines ∧
        lines? path next = some lines

end

/-- An input that ends the question for a name leads the save that asks it to the path that is
named. -/
theorem AsksName.savesTo {past : List Input} {typed : Text} {purpose : Purpose}
    (h : s.AsksName store desk files past typed purpose)
    (hnone : (s.moment store desk files past).1.session.path = none)
    {input : Input} {answer : Option Text} {path : Path}
    (hanswer : ∀ more, nameAnswer? typed (input :: more) = some (answer, more))
    (hpath : answeredPath? answer = some path)
    (hlines : (s.moment store desk files (past ++ [input])).1.session.document.lines =
      (s.moment store desk files past).1.session.document.lines) :
    s.SavesTo store desk files (past ++ [input]) path
      (s.moment store desk files past).1.session.document.lines := by
  obtain ⟨earlier, first, asked, hpast, hrunning, hsave, hcontent, hasked⟩ := h
  have hunbound : (s.moment store desk files earlier).1.session.path = none :=
    (congrArg Content.path hcontent).symm.trans hnone
  have hanswered : nameAnswer? [] (asked ++ [input]) = some (answer, []) := by
    rw [hasked, hanswer]
  refine ⟨earlier, first, asked ++ [input], by simp [hpast], hrunning, by simp [hsave], ?_, ?_,
    (congrArg Content.lines hcontent).symm, hlines⟩
  · rw [behindSave?, hunbound, hanswered]
    rfl
  · rw [savePath?, hunbound, hanswered]
    exact hpath

/-- **Files change only by a save**, and then the file of the session holds the lines of its
document. -/
theorem lines?_moment_concat (hstore : store.IsFaithful lines? id) (past : List Input)
    (input : Input) :
    let before := (s.moment store desk files past).2
    let next := s.moment store desk files (past ++ [input])
    (∀ other, lines? other next.2 = lines? other before) ∨
      ∃ path lines, next.1.session.path = some path ∧
        s.SavesTo store desk files (past ++ [input]) path lines ∧
        lines? path next.2 = some lines := by
  intro before next
  have htraced := traced_moment s store desk files past
  rcases moment_concat_cases s store desk files past input with hsame | ⟨hrunning, hnext⟩
  · exact .inl fun _ ↦ congrArg (lines? _ ·.2) hsame
  · have hstep := (stepsBy_reaction hstore htraced.waits input before).1.lines?_eq_or
    have hcourse := course_reaction htraced.waits input
    dsimp only [next] at hnext ⊢
    rw [hnext]
    generalize (s.moment store desk files past).1.reaction input = x at hnext hstep hcourse ⊢
    cases hcourse with
    | goesOn => exact .inl fun _ ↦ rfl
    | returns => exact .inl fun _ ↦ rfl
    | ends => exact .inl fun _ ↦ rfl
    | asksWhether => exact .inl fun _ ↦ rfl
    | asksName => exact .inl fun _ ↦ rfl
    | types => exact .inl fun _ ↦ rfl
    | @saves t target purpose hsave hcontent htarget =>
      refine hstep.imp_right ?_
      rintro ⟨path, hpath, hbound, hlines, hfile⟩
      have hhas : (s.moment store desk files past).1.session.path = some target :=
        (congrArg Content.path hcontent).symm.trans htarget
      obtain rfl : target = path := by simpa [hhas] using hbound
      refine ⟨target, _, hpath, ⟨past, input, [], rfl, hrunning, by simp [hsave], ?_,
        savePath?_of_some hhas _, rfl, ?_⟩, hfile⟩
      · rw [behindSave?, hhas]
      · rw [hnext]
        exact hlines
    | @answers typed purpose answer hwaiting hanswer =>
      refine hstep.imp_right ?_
      rintro ⟨path, hpath, -, hlines, hfile⟩
      have hnone : (s.moment store desk files past).1.session.path = none := by
        have hwaits := htraced.waits
        rwa [hwaiting] at hwaits
      -- A save that asked for a name is at the path that the answer names, wherever it came from.
      have hnames : answeredPath? answer = some path :=
        (staysAt_saveNamed hnone _ purpose store before).1.symm.trans hpath
      have hsaves := (htraced.name hwaiting).savesTo hnone hanswer hnames
        (by rw [hnext]; exact hlines)
      exact ⟨path, _, hpath, hsaves, hfile⟩

/-- **The whole of a session is about one file**, once it has begun. -/
theorem exists_hasOneFile (hstore : store.IsFaithful lines? id) (hapart : store.KeepsApart lines?)
    (s : Session) (desk : Desk) (inputs : List Input) (files : σ) :
    ∃ path, s.HasOneFile store desk files lines? inputs path := by
  have hrun := run_eq_moment s store desk files inputs
  have hstays {past : List Input} (behind : List Input) {bound : Path}
      (hcut : inputs = past ++ behind)
      (hbound : (s.moment store desk files past).1.session.path = some bound) :
      (s.run store desk inputs files).session.path.getD [] = bound := by
    rw [hrun.1, hcut, path_moment_append hbound behind]
    rfl
  refine ⟨(s.run store desk inputs files).session.path.getD [], ⟨moment_nil.2, hrun⟩,
    ?_, ?_, ?_, ?_, ?_⟩
  · intro event hmem file hfile
    rw [path_eq_of_mem_events inputs hmem hfile]
    rfl
  · intro past more behind bound hcut hbound
    rw [hstays _ (hcut.trans (List.append_assoc ..)) hbound]
    exact ⟨rfl, path_moment_append hbound more⟩
  · intro past input behind hcut hnone hsome
    obtain ⟨bound, hbound⟩ := Option.ne_none_iff_exists'.1 hsome
    rw [hstays behind (by simp [hcut]) hbound]
    exact eq_fileName_of_path hnone hbound
  · intro other hother
    rw [hrun.2]
    refine lines?_moment hstore hapart inputs fun bound hbound ↦ ?_
    rwa [← hstays [] (List.append_nil inputs).symm hbound]
  · intro past input behind hcut
    refine (lines?_moment_concat hstore past input).imp (· _) ?_
    rintro ⟨path, lines, hbound, hsaves, hfile⟩
    rw [hstays behind (by simp [hcut]) hbound]
    exact ⟨lines, hsaves, hfile⟩

/-! ### The beginning of a session -/

/-- How a session begins, at the path `path?`: with any state that is given, or by opening a
file. -/
inductive Begins : Option Path → Effect Session → Prop
  | given (s : Session) : Begins s.path (.done s)
  | opened (screen : Screen) (config : Config) (path? : Option Path) :
      Begins path? (openFile screen config path?)

/-- A file is opened by reading it. -/
theorem emits_openFile (screen : Screen) (config : Config) (path : Path) :
    (openFile screen config (some path)).Emits (Event.IsReply (some path)) := by
  refine .read rfl fun answer ↦ ?_
  rcases answer with cause | lines
  · exact .emit trivial (.done _)
  · exact .emit trivial (.done _)

/-- A session begins at its path, and no file changes by this. -/
theorem Begins.spec (hstore : store.IsFaithful lines? kept) {path? : Option Path}
    {beginning : Effect Session} (h : Begins path? beginning) (files : σ) :
    let opened := beginning.perform store files
    opened.value.path = path? ∧ (∀ event ∈ opened.events, event.IsReply path?) ∧
      ∀ other, lines? other opened.files = lines? other files := by
  rcases h with s | ⟨screen, config, - | path⟩
  · exact ⟨rfl, Effect.Emits.done s store files, fun _ ↦ rfl⟩
  · exact ⟨rfl, Effect.Emits.done _ store files, fun _ ↦ rfl⟩
  · obtain ⟨hpath, -, -, hfiles, -⟩ := openFile_spec store screen config path files
    refine ⟨hpath, emits_openFile screen config path store files, fun other ↦ ?_⟩
    rw [hfiles]
    exact hstore.lines?_read path files other

/-- **A session has to do with one file.** However it begins, whatever the inputs do, and whatever
the store and the terminal refuse, there is a path such that all reads and writes are of the file
there, from the opening on. No other file changes, and this one only by a save, after which it holds
the lines of the document. The path is the one that the session begins with, or else the first that
is accepted as a name, and it stays the same from then on. -/
theorem session_touches_one_file (hstore : store.IsFaithful lines? id)
    (hapart : store.KeepsApart lines?) {path? : Option Path} {beginning : Effect Session}
    (hbegins : Begins path? beginning) (desk : Desk) (inputs : List Input) (files : σ) :
    let opened := beginning.perform store files
    opened.value.path = path? ∧ (∀ other, lines? other opened.files = lines? other files) ∧
      ∃ path, (∀ event ∈ opened.events, ∀ file, event.file? = some file → file = path) ∧
        opened.value.HasOneFile store desk opened.files lines? inputs path := by
  intro opened
  obtain ⟨hpath, hreplies, hfiles⟩ := hbegins.spec hstore files
  obtain ⟨path, hone⟩ := exists_hasOneFile hstore hapart opened.value desk inputs opened.files
  refine ⟨hpath, hfiles, path, fun event hmem file hfile ↦ ?_, hone⟩
  have hbound := hpath.trans ((hreplies event hmem).file?_eq hfile)
  exact (hone.stays [] [] inputs file rfl (moment_nil.1.trans hbound)).1

/-- A draft is saved under the name that is asked for, and run; it is no script. The name has a
slash too many, so its file is one that is there already. The other file is left alone. -/
theorem draft_touches_one_file :
    let screen : Screen := ⟨⟨80, 24⟩, none⟩
    let files : Memory := { files := .ofList [("b".toList, ["y".toList]), ("d/a".toList, [[]])] }
    let opened := (openFile screen {} none).perform Memory.store files
    let inputs : List Input := [.key ⟨.char 'x', {}⟩, .key ⟨.char 's', { control := true }⟩,
      .key ⟨.char 'd', {}⟩, .key ⟨.char '/', {}⟩, .key ⟨.char '/', {}⟩, .key ⟨.char 'a', {}⟩,
      .key ⟨.enter, {}⟩, .key ⟨.char 'r', { control := true }⟩]
    let r := opened.value.run Memory.store { size := ⟨80, 24⟩ } inputs opened.files
    r.events.filterMap Event.file? = ["d//a".toList, "d//a".toList, "d//a".toList] ∧
      r.files.files.keys = ["b".toList, "d/a".toList] ∧
      r.files.lines? "d/a".toList = some ["x".toList] ∧
      r.files.lines? "b".toList = some ["y".toList] ∧
      opened.value.HasOneFile Memory.store { size := ⟨80, 24⟩ } opened.files Memory.lines? inputs
        "d//a".toList := by
  intro screen files opened inputs r
  have hfiles : r.events.filterMap Event.file? = ["d//a".toList, "d//a".toList, "d//a".toList] := by
    decide
  obtain ⟨-, -, path, -, hone⟩ := session_touches_one_file Memory.isFaithful Memory.keepsApart
    (.opened screen {} none) { size := ⟨80, 24⟩ } inputs files
  obtain ⟨event, hmem, hfile⟩ : ∃ event ∈ r.events, event.file? = some "d//a".toList :=
    List.mem_filterMap.1 (by rw [hfiles]; exact List.mem_cons_self)
  obtain rfl := hone.touches event hmem _ hfile
  have hother : r.files.lines? "b".toList = files.lines? "b".toList := hone.spares _ (by decide)
  exact ⟨hfiles, by decide, by decide, hother.trans (by decide), hone⟩

end Session

end Scriptpad
