import Scriptpad.Proofs.Document.Alphabet
import Scriptpad.Proofs.Document.History
import Scriptpad.Proofs.Session.Coherence
import Scriptpad.Proofs.Text.Lines

/-!
# Text that survives a disk

A disk keeps the lines of a document as one text, and cuts it into lines when it is read. What is
cut are the lines that were written as long as these hold no line feed and no carriage return, and
no key types either: breaking a line is an action of its own. So the characters of a session's lines
stay in an alphabet that has the typeable characters and those that were read at the beginning
(`over_throughout`).

That the lines come back takes two more facts. The file at the session's path holds what the store
keeps of the lines, from a save on and as long as the mark is off (`persists_saved`), and a document
always has a line, so that an empty file never stands for one. Together they give
`saved_text_reopens`: every session that is saved and unmodified opens again as it is, with the
cursor at the beginning.
-/

namespace Scriptpad

/-- Characters that do not end a line, neither by themselves nor before a line feed. -/
def StaysInLine (c : Char) : Prop :=
  c ≠ '\n' ∧ c ≠ '\r'

theorem staysInLine_of_isTypeable {c : Char} (h : isTypeable c = true) : StaysInLine c := by
  constructor <;> rintro rfl <;> exact absurd h (by decide)

theorem KeyCode.controlAction_ne_insert (code : KeyCode) (c : Char) :
    code.controlAction ≠ .insert c := by
  unfold controlAction
  split <;> simp

theorem KeyCode.isTypeable_of_plainAction {code : KeyCode} {c : Char}
    (h : code.plainAction = .insert c) : isTypeable c = true := by
  cases code with
  | char typed =>
    rw [plainAction] at h
    split at h
    · rename_i htypeable
      cases h
      exact htypeable
    · cases h
  | _ => cases h

/-- A key inserts only what can be typed. -/
theorem Key.isTypeable_of_action {k : Key} {c : Char} (h : k.action = .insert c) :
    isTypeable c = true := by
  rw [Key.action] at h
  split at h
  · cases h
  · split at h
    · exact absurd h (KeyCode.controlAction_ne_insert _ c)
    · exact KeyCode.isTypeable_of_plainAction h

namespace Session

variable {s : Session} {σ : Type} {store : Store σ} {files : σ} {p : Char → Prop}

/-! ### Characters -/

/-- Every change keeps a document over an alphabet that has the space and whatever is inserted. -/
theorem keeps_over (hspace : p ' ') :
    Keeps (fun action ↦ ∀ c, action = .insert c → p c) fun s ↦ s.document.Over p := by
  intro action? size s t hinserts hchange h
  cases hchange with
  | typed hinsert => exact h.typeChar (hinserts _ hinsert _ rfl)
  | broken _ => exact h.breakLine hspace
  | deleted _ => exact h.deleteLeft
  | moved _ => exact h.move _
  | resized | saved | announced | bound | ended => exact h

/-- **A session stays over an alphabet** that has all that can be typed. -/
theorem over_throughout (htypeable : ∀ c, isTypeable c = true → p c) (hs : s.document.Over p)
    (store : Store σ) (desk : Desk) (inputs : List Input) (files : σ) :
    s.Throughout store desk inputs files fun s _ _ ↦ s.document.Over p :=
  (keeps_over (htypeable ' ' rfl)).throughout
    (fun _ c hinsert ↦ htypeable c (Key.isTypeable_of_action hinsert)) hs desk inputs files

/-- What is read when a session is opened on the path is over the alphabet. Without a path, and from
a file that cannot be read, nothing is. -/
def ReadsOver (p : Char → Prop) (store : Store σ) (files : σ) (path? : Option Path) : Prop :=
  ∀ path lines, path? = some path → (store.read path files).1 = .ok lines →
    ∀ line ∈ lines, ∀ c ∈ line, p c

theorem over_openFile {path? : Option Path} (hreads : ReadsOver p store files path?)
    (screen : Screen) (config : Config) :
    ((openFile screen config path?).perform store files).value.document.Over p := by
  cases path? with
  | none => exact Document.over_of_blank rfl
  | some path =>
    obtain ⟨-, -, hlines, -, -⟩ := openFile_spec store screen config path files
    rw [Document.Over, hlines]
    refine Document.over_ofLines ?_
    cases hanswer : (store.read path files).1 with
    | ok lines => exact hreads path lines rfl hanswer
    | error cause => exact fun line hline ↦ absurd hline List.not_mem_nil

/-! ### Well-formed documents -/

theorem keeps_wellFormed : Keeps (fun _ ↦ True) fun s ↦ s.document.WellFormed := by
  intro action? size s t _ hchange h
  cases hchange with
  | typed _ => exact h.typeChar _
  | broken _ => exact h.breakLine
  | deleted _ => exact h.deleteLeft
  | moved _ => exact h.move _
  | resized _ => exact Document.wellFormed_resizeWindow h _
  | saved => exact ⟨h.line_lt, h.column_le, h.height_pos, h.visible⟩
  | announced | bound | ended => exact h

theorem wellFormed_openFile (screen : Screen) (config : Config) (path? : Option Path)
    (store : Store σ) (files : σ) :
    ((openFile screen config path?).perform store files).value.document.WellFormed := by
  obtain ⟨lines, hopened⟩ := exists_openFile_eq screen config path? store files
  have hstarted : (start (Document.empty.reloaded lines) screen config path?).document.WellFormed :=
    Document.wellFormed_resizeWindow (Document.wellFormed_reloaded _ lines) _
  rcases hopened with hopened | ⟨message, hopened⟩
  · rwa [hopened]
  · rwa [hopened]

/-! ### Saved files -/

/-- What was saved is at the path of the session, and in it is what the store keeps of the lines,
unless these were changed since. -/
structure Saved (lines? : Path → σ → Option (List Text)) (kept : List Text → List Text)
    (s : Session) (files : σ) (saved : List Path) : Prop where
  bound : ∀ path ∈ saved, s.path = some path
  holds : ∀ path ∈ saved, s.document.modified = false →
    lines? path files = some (kept s.document.lines)

theorem persists_saved {lines? : Path → σ → Option (List Text)}
    {kept : List Text → List Text} :
    Persists lines? kept (fun _ ↦ True) (Saved lines? kept) := by
  intro action? s next files files' past paths _ hstep h
  cases hstep with
  | idle hlines hmodified hpath hfiles =>
    rw [List.append_nil]
    refine ⟨fun path hsaved ↦ ?_, fun path hsaved hclean ↦ ?_⟩
    · have hbound := h.bound path hsaved
      exact (hpath.resolve_right (by simp [hbound])).trans hbound
    · rw [hfiles, hlines]
      exact h.holds path hsaved (hmodified.symm.trans hclean)
  | edited haction hedit hmodified hpath hfiles =>
    rw [List.append_nil]
    refine ⟨fun path hsaved ↦ hpath.trans (h.bound path hsaved), fun path hsaved hclean ↦ ?_⟩
    exact absurd (hclean.symm.trans hmodified) Bool.false_ne_true
  | @saved written hlines hmodified hpath hbound hfile =>
    -- Whatever was saved before was saved to the same path, because a session keeps its path.
    have hsame : ∀ path ∈ past ++ [written], path = written := by
      intro path hsaved
      rcases List.mem_append.1 hsaved with hpast | hlast
      · have hbefore := h.bound path hpast
        have hwritten : s.path = some written := hbound.resolve_right (by simp [hbefore])
        exact Option.some.inj (hbefore.symm.trans hwritten)
      · exact List.mem_singleton.1 hlast
    refine ⟨fun path hsaved ↦ ?_, fun path hsaved _ ↦ ?_⟩
    · rw [hsame path hsaved, hpath]
    · rw [hsame path hsaved, hfile, hlines]

/-! ### Opening again -/

/-- Opening the path loads its file, and gives an unmodified document with the lines of the session
and the cursor at the beginning. -/
def Reopens (s : Session) (d : Disk) (path : Path) : Prop :=
  ∀ screen config,
    let again := (openFile screen config (some path)).perform Disk.store d
    path ∈ settledPaths again.events ∧ again.value.document.lines = s.document.lines ∧
      again.value.document.cursor = ⟨0, 0⟩ ∧ again.value.document.modified = false

/-- A file that holds the lines of a document gives this document. -/
theorem reopens_of_lines? {d : Disk} {path : Path} (hwellFormed : s.document.WellFormed)
    (h : Disk.lines? path d = some s.document.lines) : s.Reopens d path := by
  intro screen config again
  have hread := Disk.read_of_lines? h
  obtain ⟨-, hclean, hlines, -, hsettled⟩ := openFile_spec Disk.store screen config path d
  obtain ⟨lines, hopened⟩ := exists_openFile_eq screen config (some path) Disk.store d
  have hcursor : again.value.document.cursor = ⟨0, 0⟩ := by
    rcases hopened with hopened | ⟨message, hopened⟩
    · exact congrArg (·.document.cursor) hopened
    · exact congrArg (·.document.cursor) hopened
  have hne : s.document.lines ≠ [] :=
    List.ne_nil_of_length_pos (Nat.zero_lt_of_lt hwellFormed.line_lt)
  rw [hread] at hlines hsettled
  refine ⟨?_, hlines.trans (if_neg hne), hcursor, hclean⟩
  rw [hsettled]
  exact List.mem_singleton.2 rfl

/-- **Saved text opens again as it is.** At every moment of a session that was opened without a
path, on a file that could not be read, or on one whose lines hold no line feed and no carriage
return, its lines hold neither, whatever the store; and the lines of a session that began with a
blank document hold only what can be typed. So over a disk, whatever path was saved to with success
until then is that of the session, and if the session is unmodified, opening this path gives the
same lines. -/
theorem saved_text_reopens (screen : Screen) (config : Config) (path? : Option Path) (desk : Desk)
    (inputs : List Input) :
    (∀ {σ : Type} (store : Store σ) (files : σ),
      (ReadsOver StaysInLine store files path? →
        let opened := (openFile screen config path?).perform store files
        opened.value.Throughout store desk inputs opened.files fun s _ _ ↦
          s.document.Over StaysInLine) ∧
      ∀ s : Session, s.document.lines = [[]] →
        s.Throughout store desk inputs files fun s _ _ ↦ s.document.Over (isTypeable · = true)) ∧
    ∀ d : Disk, ReadsOver StaysInLine Disk.store d path? →
      let opened := (openFile screen config path?).perform Disk.store d
      opened.value.Throughout Disk.store desk inputs opened.files fun s d events ↦
        ∀ path ∈ settledPaths events,
          s.path = some path ∧ (s.document.modified = false → s.Reopens d path) := by
  have hinLine : ∀ {σ : Type} (store : Store σ) (files : σ),
      ReadsOver StaysInLine store files path? →
        let opened := (openFile screen config path?).perform store files
        opened.value.Throughout store desk inputs opened.files fun s _ _ ↦
          s.document.Over StaysInLine := fun store files hreads ↦
    over_throughout (fun _ ↦ staysInLine_of_isTypeable) (over_openFile hreads screen config) store
      desk inputs _
  refine ⟨fun store files ↦ ⟨hinLine store files, fun s hblank ↦ ?_⟩, fun d hreads ↦ ?_⟩
  · exact over_throughout (fun _ h ↦ h) (Document.over_of_blank hblank) store desk inputs files
  · intro opened
    have hover := hinLine Disk.store d hreads
    have hwellFormed : opened.value.Throughout Disk.store desk inputs opened.files fun s _ _ ↦
        s.document.WellFormed :=
      keeps_wellFormed.throughout (fun _ ↦ trivial)
        (wellFormed_openFile screen config path? Disk.store d) desk inputs opened.files
    have hbegins : Saved Disk.lines? (fun lines ↦ Text.lines (Text.ofLines lines)) opened.value
        opened.files [] := ⟨by simp, by simp⟩
    have hsaved := persists_saved.throughout Disk.isFaithful desk inputs hbegins
    refine ((hover.and hwellFormed).and hsaved).imp ?_
    rintro s d events ⟨⟨hover, hwellFormed⟩, hsaved⟩ path hpath
    refine ⟨hsaved.bound path hpath, fun hclean ↦ reopens_of_lines? hwellFormed ?_⟩
    rw [hsaved.holds path hpath hclean, Text.lines_ofLines_iff.2]
    intro line hline
    refine ⟨fun hmem ↦ (hover line hline _ hmem).1 rfl, fun hlast ↦ ?_⟩
    exact (hover line hline _ (List.mem_of_getLast? hlast)).2 rfl

/-- Two lines, the second a blank, are typed and saved to a file that was missing. -/
theorem typed_lines_reopen :
    let screen : Screen := ⟨⟨80, 24⟩, none⟩
    let saveKey : Key := ⟨.char 's', { control := true }⟩
    let inputs : List Input := [.key ⟨.char 'x', {}⟩, .key ⟨.enter, {}⟩, .key ⟨.char ' ', {}⟩,
      .key saveKey]
    let opened := (openFile screen {} (some "a.ns".toList)).perform Disk.store {}
    let r := opened.value.run Disk.store { size := ⟨80, 24⟩ } inputs opened.files
    r.session.document.lines = ["x".toList, " ".toList] ∧ r.session.document.cursor = ⟨1, 1⟩ ∧
      r.session.Reopens r.files "a.ns".toList := by
  intro screen saveKey inputs opened r
  have hmissing : ReadsOver StaysInLine Disk.store {} (some "a.ns".toList) := by
    rintro path lines ⟨⟩ ⟨⟩
  obtain ⟨-, hend⟩ := (saved_text_reopens screen {} (some "a.ns".toList) { size := ⟨80, 24⟩ }
    inputs).2 {} hmissing
  have hsaved : "a.ns".toList ∈ settledPaths r.events := by decide
  have hclean : r.session.document.modified = false := by decide
  exact ⟨by decide, by decide, (hend _ hsaved).2 hclean⟩

end Session

end Scriptpad
