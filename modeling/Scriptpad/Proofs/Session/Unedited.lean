import Scriptpad.Proofs.Session.Stepping

/-!
# Sessions in which nothing is edited

Looking at a file should not harm it. A session that is opened on a file and carries out no edit may
still save, for a run or for nothing, and then it writes the lines that it shows. Those are the
lines of the file if they were read at the beginning, and one empty line if they were not. The path
is the same in both cases, and a save does not remember which it was.

So the file holds at the end what it held at the beginning, or what the store keeps of the lines
that are shown, and nothing else, whatever the store refuses in between
(`file_after_unedited_session`). It is harmed if it could not be read when the session was opened
but can be written: one save leaves an empty line in it (`save_overwrites_unread_file`).
-/

namespace Scriptpad

namespace Session

variable {σ : Type} {store : Store σ} {lines? : Path → σ → Option (List Text)}
  {kept : List Text → List Text} {path : Path} {ls shown : List Text}

/-- A session that shows `shown` for a file that held `ls`: nothing else has got into the file, and
only by a save. -/
structure ShowsFor (lines? : Path → σ → Option (List Text)) (kept : List Text → List Text)
    (path : Path) (ls shown : List Text) (s : Session) (files : σ) (saved : List Path) : Prop where
  bound : s.path = some path
  shows : s.document.lines = shown
  file : lines? path files = some (if path ∈ saved then kept shown else ls)

/-- **Without an edit, a step shows the same lines and gets nothing else into the file.** -/
theorem persists_showsFor :
    Persists lines? kept (fun action ↦ action.isEdit = false)
      (ShowsFor lines? kept path ls shown) := by
  intro action? s next files files' past paths hunedited hstep h
  cases hstep with
  | idle hlines hmodified hpath hfiles =>
    have hkept : next.path = s.path := hpath.resolve_right (by simp [h.bound])
    refine ⟨hkept.trans h.bound, hlines.trans h.shows, ?_⟩
    rw [List.append_nil, hfiles]
    exact h.file
  | edited haction hedit hmodified hpath hfiles =>
    exact absurd (hunedited _ haction) (by simp [hedit])
  | @saved written hlines hmodified hpath hbound hfile =>
    -- The session has had a path all the time, so this is where it was saved to.
    have hsame : s.path = some written := hbound.resolve_right (by simp [h.bound])
    obtain rfl : path = written := Option.some.inj (h.bound.symm.trans hsame)
    refine ⟨hpath, hlines.trans h.shows, ?_⟩
    rw [if_pos (List.mem_append_right past (List.mem_singleton.2 rfl)), hfile, h.shows]

/-- **What a session leaves of its file if nothing is edited.** The file had lines when the session
was opened on it, and no action that is carried out is an edit. Then the session shows its lines, or
one empty line if they could not be read at the beginning; and the file still holds its lines, or,
once a save has succeeded, what the store keeps of those that are shown. So the file is as it was
exactly if nothing was saved, or what was saved is what had been there. -/
theorem file_after_unedited_session (hstore : store.IsFaithful lines? kept) {files : σ}
    (hfile : lines? path files = some ls) (hlines : ls ≠ []) (screen : Screen) (config : Config)
    (desk : Desk) (inputs : List Input) :
    let opened := (openFile screen config (some path)).perform store files
    let r := opened.value.run store desk inputs opened.files
    let shown := if (store.read path files).1.isOk then ls else [[]]
    (∀ action ∈ opened.value.executed store desk inputs opened.files, action.isEdit = false) →
      r.session.document.lines = shown ∧
      lines? path r.files = some (if path ∈ settledPaths r.events then kept shown else ls) ∧
      (lines? path r.files = some ls ↔ path ∉ settledPaths r.events ∨ kept shown = ls) := by
  intro opened r shown hunedited
  obtain ⟨hpath, -, hshows, hfiles, -⟩ := openFile_spec store screen config path files
  have hshown : opened.value.document.lines = shown := by
    refine hshows.trans ?_
    cases hanswer : (store.read path files).1 with
    | error cause =>
      simp only [shown, hanswer]
      rfl
    | ok lines =>
      have hread := hstore.lines?_of_read hanswer
      obtain rfl : lines = ls := Option.some.inj (hread.symm.trans hfile)
      simp only [shown, hanswer]
      exact if_neg hlines
  have hbegins : ShowsFor lines? kept path ls shown opened.value opened.files [] := by
    refine ⟨hpath, hshown, ?_⟩
    rw [hfiles, hstore.lines?_read]
    exact hfile
  obtain ⟨-, hleft, hend⟩ := persists_showsFor.run hstore desk inputs hunedited hbegins
  rw [List.nil_append] at hend
  refine ⟨hleft, hend, ?_⟩
  rw [hend, Option.some.injEq]
  by_cases hsaved : path ∈ settledPaths r.events
  · simp [hsaved, r]
  · simp [hsaved, r]

/-- A file in memory with one line. -/
def oneLiner : Memory where
  files := (∅ : Dictionary (List Text)).insert "a.ns".toList ["x".toList]

/-- A file that was read is saved, run and left with its line. -/
theorem save_keeps_read_file :
    let screen : Screen := ⟨⟨80, 24⟩, none⟩
    let config : Config :=
      { scriptExtension := [], highlightExtensions := [], logFile := [], keywords := ∅ }
    let opened := (openFile screen config (some "a.ns".toList)).perform Memory.store oneLiner
    let desk : Desk := ⟨⟨80, 24⟩, none, none⟩
    let inputs : List Input := [.key ⟨.char 's', { control := true }⟩,
      .key ⟨.char 'r', { control := true }⟩, .key ⟨.up, {}⟩, .key ⟨.char 'q', { control := true }⟩]
    let r := opened.value.run Memory.store desk inputs opened.files
    opened.value.executed Memory.store desk inputs opened.files = [.save, .run, .quit] ∧
      r.session.document.lines = ["x".toList] ∧
      r.files.lines? "a.ns".toList = some ["x".toList] := by
  intro screen config opened desk inputs r
  have hexecuted : opened.value.executed Memory.store desk inputs opened.files =
      [.save, .run, .quit] := by decide
  have hunedited : ∀ action ∈ opened.value.executed Memory.store desk inputs opened.files,
      action.isEdit = false := by
    rw [hexecuted]
    decide
  have hfile : oneLiner.lines? "a.ns".toList = some ["x".toList] := by decide
  have hread : (Memory.store.read "a.ns".toList oneLiner).1.isOk = true := by decide
  obtain ⟨hshown, -, hsame⟩ := file_after_unedited_session Memory.isFaithful hfile
    (List.cons_ne_nil _ _) screen config desk inputs hunedited
  rw [if_pos hread] at hshown hsame
  refine ⟨hexecuted, ?_⟩
  simp only [r, opened]
  exact ⟨hshown, hsame.2 (.inr rfl)⟩

/-- **A save overwrites a file that could not be read.** The session is opened on a file with a
line, saved at once and ended; no edit is carried out, and the line is gone. -/
theorem save_overwrites_unread_file :
    let m := { oneLiner with refusesReads := true }
    let opened := (openFile ⟨⟨80, 24⟩, none⟩
      { scriptExtension := [], highlightExtensions := [], logFile := [], keywords := ∅ }
      (some "a.ns".toList)).perform Memory.store m
    let desk : Desk := ⟨⟨80, 24⟩, none, none⟩
    let inputs : List Input := [.key ⟨.char 's', { control := true }⟩,
      .key ⟨.char 'q', { control := true }⟩]
    let r := opened.value.run Memory.store desk inputs opened.files
    opened.value.executed Memory.store desk inputs opened.files = [.save, .quit] ∧
      r.result = .ok () ∧ m.lines? "a.ns".toList = some ["x".toList] ∧
      r.files.lines? "a.ns".toList = some [[]] := by
  decide

end Session

end Scriptpad
