import Scriptpad.Proofs.Session.Stepping

/-!
# Sessions without unsaved changes

What the mark of a session promises. If it is off, and the file that the session is bound to has
been loaded or saved with success at some time, then the file holds the lines that are shown; or it
is empty, and an empty line is shown for it. So a session that ends without asking has nothing to
lose.

The store may refuse what it likes and change its mind about it, but only the session changes files.
`History` closes the ways to use a session under these terms: it begins on some document or on a
file, runs to the end of its inputs, or carries out single actions. `InStep` is what holds along all
of them, because it holds on after every step (`persists_inStep`).

A name that is asked for does not disturb this: a session that gets its first path has saved nothing
before.
-/

namespace Scriptpad

namespace Session

variable {σ : Type} {store : Store σ} {lines? : Path → σ → Option (List Text)} {s : Session}
  {files : σ} {events : List Event}

/-! ### Histories -/

/-- A session, its files, and the events since it began. Between two uses of the session the store
may change in any way that leaves the files alone. -/
inductive History (store : Store σ) (lines? : Path → σ → Option (List Text)) :
    Session → σ → List Event → Prop
  | start (document : Document) (screen : Screen) (config : Config) (path : Option Path)
      (files : σ) : History store lines? (start document screen config path) files []
  | opened (screen : Screen) (config : Config) (path : Option Path) (files : σ) :
      History store lines? ((openFile screen config path).perform store files).value
        ((openFile screen config path).perform store files).files
        ((openFile screen config path).perform store files).events
  | run {s : Session} {files : σ} {events : List Event} (h : History store lines? s files events)
      (desk : Desk) (inputs : List Input) :
      History store lines? (s.run store desk inputs files).session
        (s.run store desk inputs files).files (events ++ (s.run store desk inputs files).events)
  | perform {s : Session} {files : σ} {events : List Event}
      (h : History store lines? s files events) (size : Terminal.Size) (action : Action)
      (inputs : List Input) :
      History store lines? (s.perform store size action inputs files).session
        (s.perform store size action inputs files).files
        (events ++ (s.perform store size action inputs files).events)
  | elsewhere {s : Session} {files files' : σ} {events : List Event}
      (h : History store lines? s files events)
      (hfiles : ∀ path, lines? path files' = lines? path files) :
      History store lines? s files' events

/-! ### Documents in step with their files -/

/-- The file holds the lines, or it is empty and there is one empty line. -/
def Holds (file : Option (List Text)) (lines : List Text) : Prop :=
  file = some lines ∨ file = some [] ∧ lines = [[]]

/-- An unmodified session is in step with the file at its path, if that was ever settled. -/
structure InStep (lines? : Path → σ → Option (List Text)) (s : Session) (files : σ)
    (settled : List Path) : Prop where
  unbound : s.path = none → settled = []
  holds : ∀ path, s.path = some path → s.document.modified = false → path ∈ settled →
    Holds (lines? path files) s.document.lines

theorem inStep_of_nothing_settled (s : Session) (files : σ) : InStep lines? s files [] :=
  ⟨fun _ ↦ rfl, fun _ _ _ hsettled ↦ absurd hsettled List.not_mem_nil⟩

/-- **Every step leaves the session in step**: an edit puts the mark on, a save that succeeds brings
lines and file together, and everything else leaves them both. -/
theorem persists_inStep : Persists lines? id (fun _ ↦ True) (InStep lines?) := by
  intro action? s next files files' past paths _ hstep h
  cases hstep with
  | idle hlines hmodified hpath hfiles =>
    rw [List.append_nil]
    rcases hpath with hpath | hnone
    · refine ⟨fun hnext ↦ h.unbound (hpath.symm.trans hnext), fun path hnext hclean hsettled ↦ ?_⟩
      rw [hfiles, hlines]
      exact h.holds path (hpath.symm.trans hnext) (hmodified.symm.trans hclean) hsettled
    · -- The session may have got its first path, but nothing has been settled under it.
      rw [h.unbound hnone]
      exact inStep_of_nothing_settled next files'
  | edited haction hedit hmodified hpath hfiles =>
    rw [List.append_nil]
    refine ⟨fun hnext ↦ h.unbound (hpath.symm.trans hnext), fun path hnext hclean hsettled ↦ ?_⟩
    exact absurd (hclean.symm.trans hmodified) Bool.false_ne_true
  | @saved path hlines hmodified hpath hbound hfile =>
    refine ⟨fun hnext ↦ absurd (hpath.symm.trans hnext) (by simp), fun path' hnext _ _ ↦ ?_⟩
    obtain rfl : path = path' := Option.some.inj (hpath.symm.trans hnext)
    rw [hlines]
    exact .inl hfile

/-- A session that is opened is in step. -/
theorem inStep_openFile (hstore : store.IsFaithful lines? id) (screen : Screen) (config : Config)
    (path : Option Path) (files : σ) :
    let out := (openFile screen config path).perform store files
    InStep lines? out.value out.files (settledPaths out.events) := by
  cases path with
  | none => exact inStep_of_nothing_settled _ _
  | some path =>
    intro out
    obtain ⟨hpath, -, hshows, hfiles, hsettled⟩ := openFile_spec store screen config path files
    refine ⟨fun hnone ↦ absurd (hpath.symm.trans hnone) (by simp), fun path' hsome _ hmem ↦ ?_⟩
    obtain rfl : path = path' := Option.some.inj (hpath.symm.trans hsome)
    rw [hfiles, hstore.lines?_read, hshows]
    rw [hsettled] at hmem
    -- Only a load that succeeded is in the log, and an empty file is shown as one empty line.
    cases hanswer : (store.read path files).1 with
    | error cause =>
      rw [hanswer] at hmem
      cases hmem
    | ok lines =>
      rw [hstore.lines?_of_read hanswer]
      by_cases hempty : lines = []
      · exact .inr ⟨congrArg some hempty, if_pos hempty⟩
      · exact .inl (congrArg some (if_neg hempty).symm)

theorem History.inStep (hstore : store.IsFaithful lines? id)
    (h : History store lines? s files events) : InStep lines? s files (settledPaths events) := by
  induction h with
  | start document screen config path files => exact inStep_of_nothing_settled _ _
  | opened screen config path files => exact inStep_openFile hstore screen config path files
  | run _ desk inputs ih =>
    rw [settledPaths_append]
    exact persists_inStep.run hstore desk inputs (fun _ _ ↦ trivial) ih
  | perform _ size action inputs ih =>
    rw [settledPaths_append]
    exact persists_inStep.perform hstore (fun _ ↦ trivial) size action inputs ih
  | elsewhere _ hfiles ih =>
    refine ⟨ih.unbound, fun path hpath hclean hsettled ↦ ?_⟩
    rw [hfiles]
    exact ih.holds path hpath hclean hsettled

/-! ### Nothing to lose -/

/-- An unmodified session that is asked to end does so at once, and nothing else happens. -/
theorem perform_quit_of_unmodified (hclean : s.document.modified = false) (size : Terminal.Size)
    (inputs : List Input) (store : Store σ) (files : σ) :
    s.perform store size .quit inputs files =
      ⟨{ s with running := false }, size, files, [], inputs, .ok ()⟩ := by
  have hact : (Dialogue.act ⟨s, .command, size⟩ .quit).perform store files =
      ⟨⟨{ s with running := false }, .command, size⟩, files, []⟩ := by
    simp [Dialogue.perform_act, act, hclean]
  rw [Session.perform, hact, Dialogue.converse_of_finished store rfl]
  rfl

/-- **What the mark promises.** A document with a history has come from a place where it had just
begun, been loaded, or been saved with success, without coming through another one; and if it is
unmodified, its lines are those that it had there. And over a store that keeps lines as they are,
and whose files only the session changes: if the session is unmodified, and the file at its path has
ever been loaded or saved with success, then the file holds the lines, unless it is empty and there
is one empty line. Being asked to end, such a session ends without a question, and leaves lines and
files as they are. -/
theorem unmodified_holds_settled_lines :
    (∀ doc : Document, doc.Reachable →
      (∃ base : Document, base.IsSettled ∧ Document.Since base doc) ∧
      ∀ base : Document, base.IsSettled → Document.Since base doc → doc.modified = false →
        doc.lines = base.lines) ∧
    ∀ {σ : Type} {store : Store σ} {lines? : Path → σ → Option (List Text)} {s : Session}
      {files : σ} {events : List Event} {path : Path}, store.IsFaithful lines? id →
      History store lines? s files events → s.document.modified = false → s.path = some path →
      path ∈ settledPaths events →
        Holds (lines? path files) s.document.lines ∧
        ∀ (size : Terminal.Size) (inputs : List Input),
          s.perform store size .quit inputs files =
            ⟨{ s with running := false }, size, files, [], inputs, .ok ()⟩ := by
  refine ⟨fun doc hdoc ↦ ⟨hdoc.exists_isSettled, fun base _ hsince ↦ hsince.lines_eq⟩, ?_⟩
  intro σ store lines? s files events path hstore h hclean hpath hsettled
  have hholds := (h.inStep hstore).holds path hpath hclean hsettled
  exact ⟨hholds, fun size inputs ↦ perform_quit_of_unmodified hclean size inputs store files⟩

/-- A line that is typed and saved in memory, where reading is refused in between, is in the file.
-/
theorem typed_line_is_in_file :
    let size : Terminal.Size := ⟨80, 24⟩
    let s := start .empty ⟨size, none⟩
      { scriptExtension := [], highlightExtensions := [], logFile := [], keywords := ∅ }
      (some "a.ns".toList)
    let typed := s.perform Memory.store size (.insert 'x') [] {}
    let saved := typed.session.perform Memory.store size .save []
      { typed.files with refusesReads := true }
    saved.session.document.lines = ["x".toList] ∧
      saved.files.lines? "a.ns".toList = some saved.session.document.lines := by
  intro size s typed saved
  have htyped : History Memory.store Memory.lines? typed.session typed.files
      ([] ++ typed.events) :=
    .perform (.start _ _ _ _ _) size (.insert 'x') []
  have hrefusing : History Memory.store Memory.lines? typed.session
      { typed.files with refusesReads := true } ([] ++ typed.events) :=
    .elsewhere htyped fun _ ↦ rfl
  have hsaved : History Memory.store Memory.lines? saved.session saved.files
      ([] ++ typed.events ++ saved.events) :=
    .perform hrefusing size .save []
  have hlines : saved.session.document.lines = ["x".toList] := by decide
  have hpath : saved.session.path = some "a.ns".toList := by decide
  have hsettled : "a.ns".toList ∈ settledPaths ([] ++ typed.events ++ saved.events) := by decide
  obtain ⟨hholds, -⟩ := unmodified_holds_settled_lines.2 Memory.isFaithful hsaved (by decide) hpath
    hsettled
  refine ⟨hlines, hholds.resolve_right fun hempty ↦ ?_⟩
  exact absurd (hlines.symm.trans hempty.2) (by decide)

end Session

end Scriptpad
