import Scriptpad.Proofs.Document.View
import Scriptpad.Proofs.Session.Changes
import Scriptpad.Proofs.Session.Unmodified

/-!
# Sessions whose parts fit together

Three parts of a session repeat what others say: the window is as high as the screen has rows for
text, it stands where the cursor is, and the colors are those that the settings give for the path.
None is computed anew when it is needed, so whatever changes a size, a cursor or a path has to bring
the copy along. `Fits` says that the copies are right, and every single change keeps them right
(`keeps_fits`), also one that a refused save or a question without an answer leaves behind.

A session may be started on any document, with its cursor anywhere; fitting the window to the screen
puts the cursor's line into it. Main statement: `window_and_colors_follow_session`.
-/

namespace Scriptpad

namespace Session

variable {s : Session} {σ : Type} {store : Store σ}

/-- The parts of a session fit together, and its window shows the cursor. -/
structure Fits (s : Session) : Prop extends s.Coherent where
  visible : s.document.window.contains s.document.cursor.line = true

/-- A window that is as high as the screen has rows for text has a row. -/
theorem Fits.wellFormed_window (h : s.Fits) : s.document.window.WellFormed :=
  Nat.le_trans s.screen.one_le_textRows (Nat.le_of_eq h.height.symm)

theorem Fits.withDocument (h : s.Fits) {doc : Document} (hview : s.document.KeepsView doc) :
    { s with document := doc }.Fits where
  height := hview.height.trans h.height
  colors := h.colors
  visible := hview.visible h.wellFormed_window h.visible

/-- **Every change keeps the parts fitting.** -/
theorem keeps_fits : Keeps (fun _ ↦ True) Fits := by
  intro action? size s t _ hchange h
  cases hchange with
  | typed _ => exact h.withDocument (Document.keepsView_typeChar _ _)
  | broken _ => exact h.withDocument (Document.keepsView_breakLine _)
  | deleted _ => exact h.withDocument (Document.keepsView_deleteLeft _)
  | moved _ => exact h.withDocument (Document.keepsView_move _ _)
  | saved => exact h.withDocument ⟨rfl, fun _ hvisible ↦ hvisible⟩
  | resized _ => exact ⟨coherent_adoptSize h.toCoherent size, Window.contains_resize _ _ _⟩
  | bound path => exact ⟨coherent_bindPath h.toCoherent path, h.visible⟩
  | announced message => exact ⟨⟨h.height, h.colors⟩, h.visible⟩
  | ended => exact ⟨⟨h.height, h.colors⟩, h.visible⟩

theorem fits_start (document : Document) (screen : Screen) (config : Config)
    (path : Option Path) : (start document screen config path).Fits :=
  ⟨coherent_start document screen config path, Window.contains_resize _ _ _⟩

/-- A session that is opened is one that is started on what was read, perhaps with a message. -/
theorem exists_openFile_eq (screen : Screen) (config : Config) (path : Option Path)
    (store : Store σ) (files : σ) :
    let opened := ((openFile screen config path).perform store files).value
    ∃ lines, let started := start (Document.empty.reloaded lines) screen config path
      opened = started ∨ ∃ message, opened = started.withMessage message := by
  cases path with
  | none => exact ⟨[], .inl rfl⟩
  | some path =>
    rw [openFile, Effect.bind_eq, Effect.perform_bind]
    simp only [Document.value_load]
    cases (store.read path files).1 with
    | ok lines => exact ⟨lines, .inl rfl⟩
    | error cause => exact ⟨[], .inr ⟨_, rfl⟩⟩

theorem fits_openFile (screen : Screen) (config : Config) (path : Option Path) (store : Store σ)
    (files : σ) : ((openFile screen config path).perform store files).value.Fits := by
  obtain ⟨lines, hopened | ⟨message, hopened⟩⟩ := exists_openFile_eq screen config path store files
  · rw [hopened]
    exact fits_start _ screen config path
  · rw [hopened]
    exact keeps_fits.withMessage (fits_start _ screen config path) message

variable {lines? : Path → σ → Option (List Text)} {files : σ} {events : List Event}

theorem History.fits (h : History store lines? s files events) : s.Fits := by
  induction h with
  | start document screen config path files => exact fits_start document screen config path
  | opened screen config path files => exact fits_openFile screen config path store files
  | run _ desk inputs ih => exact keeps_fits.run (fun _ ↦ trivial) ih desk inputs _
  | perform _ size action inputs ih =>
    exact keeps_fits.perform (fun _ ↦ trivial) ih size trivial inputs _
  | elsewhere _ _ ih => exact ih

/-- **Window and colors follow the session**, whatever was done with it. It was started on any
document, or opened, on any screen, with any settings and any path; then any actions were carried
out, on terminals of any size, with any inputs, also such as leave a question without an answer. The
store may refuse what it likes, and since nothing is asked of `lines?`, files may change in any way
from one action to the next. -/
theorem window_and_colors_follow_session (h : History store lines? s files events) :
    s.document.window.height = s.screen.textRows ∧
      s.document.window.offset ≤ s.document.cursor.line ∧
      s.document.cursor.line ≤ s.document.window.offset + s.document.window.height - 1 ∧
      s.colors = s.config.colorsFor s.path := by
  have hfits := h.fits
  obtain ⟨htop, hbottom⟩ := Window.contains_iff.1 hfits.visible
  exact ⟨hfits.height, htop, hbottom, hfits.colors⟩

/-- A session without a path, its cursor on the second line, is shown on a screen with one row for
text. The name for a save stays unanswered at first, and then the store refuses the file, whose
extension asks for no colors. -/
theorem window_and_colors_follow_refused_save :
    let size : Terminal.Size := ⟨80, 5⟩
    let s := start ((Document.ofLines ["if".toList, "x".toList]).move .down) ⟨⟨80, 24⟩, none⟩
      { scriptExtension := [], highlightExtensions := [], logFile := [], keywords := ∅ } none
    let shrunk := s.perform Memory.store size .resize [] { refusesWrites := true }
    let asked := shrunk.session.perform Memory.store size .save [.key ⟨.char 'a', {}⟩] shrunk.files
    let last := asked.session.perform Memory.store size .save
      [.key ⟨.char 'b', {}⟩, .key ⟨.enter, {}⟩] asked.files
    asked.result = .error .inputExhausted ∧ last.session.path = some "b".toList ∧
      last.session.document.window.height = 1 ∧ last.session.document.window.offset = 1 ∧
      s.colors ≠ ∅ ∧ last.session.colors = ∅ := by
  intro size s shrunk asked last
  have hshrunk : History Memory.store (fun _ _ ↦ none) shrunk.session shrunk.files
      ([] ++ shrunk.events) := .perform (.start _ _ _ _ _) size .resize []
  have hasked : History Memory.store (fun _ _ ↦ none) asked.session asked.files _ :=
    .perform hshrunk size .save _
  have hlast : History Memory.store (fun _ _ ↦ none) last.session last.files _ :=
    .perform hasked size .save _
  have hpath : last.session.path = some "b".toList := by decide
  have hrows : last.session.screen.textRows = 1 := by decide
  have hcursor : last.session.document.cursor.line = 1 := by decide
  have hplain : last.session.config.colorsFor (some "b".toList) = ∅ := by decide
  obtain ⟨hheight, htop, hbottom, hcolors⟩ := window_and_colors_follow_session hlast
  rw [hrows] at hheight
  rw [hcursor] at htop
  rw [hcursor, hheight] at hbottom
  rw [hpath, hplain] at hcolors
  have hoffset : last.session.document.window.offset = 1 := by omega
  exact ⟨by decide, hpath, hheight, hoffset, by decide, hcolors⟩

end Session

end Scriptpad
