import Scriptpad.Proofs.Document.FlatText
import Scriptpad.Proofs.Storage.Keeping
import Scriptpad.Proofs.Text.Lines

/-!
# Files that are written and read again

On a disk, lines are kept as one text, and what is read again is cut from this text. That is always
possible after a write that was accepted, but what comes back need not be what was written.

* Any list of lines may be written. It comes back as it was exactly if no line holds a line feed
  or ends in a carriage return (`Disk.read_write_iff`).
* The lines of a document that was loaded hold no line feed, because a file is cut at all of them.
  They may end in a carriage return, and then each of them comes back without it. So a document that
  is loaded, saved and loaded again may have other lines: exactly if its file has two returns before
  a line feed or ends in one (`Document.load_save_load`). The file `load_save_load_drops_return` is
  of the second kind.
-/

namespace Scriptpad

namespace Disk

variable {d : Disk} {path : Path} {ls : List Text}

/-- **The lines that are read from a file are those that were written to it** exactly if none of
them holds a line feed or ends in a carriage return. -/
theorem read_write_iff (haccepted : (store.write path ls d).1 = .ok ()) :
    (store.read path (store.write path ls d).2).1 = .ok ls ↔
      (∀ line ∈ ls, '\n' ∉ line) ∧ ∀ line ∈ ls, line.getLast? ≠ some '\r' := by
  have hread : (store.read path (store.write path ls d).2).1 = .ok (Text.lines (Text.ofLines ls)) :=
    read_of_accepted haccepted
  rw [hread, Except.ok.injEq, Text.lines_ofLines_iff, ← forall₂_and]

/-- Returns within a line, lines without characters and lines of blanks come back. -/
theorem read_write_inner_return :
    let ls := ["a\rb".toList, [], "\r c ".toList]
    let saved := store.write "a.ns".toList ls {}
    saved.1 = .ok () ∧ (store.read "a.ns".toList saved.2).1 = .ok ls := by
  intro ls saved
  have haccepted : saved.1 = .ok () := rfl
  exact ⟨haccepted, (read_write_iff haccepted).2 (by decide)⟩

end Disk

namespace Document

variable {d : Disk} {path other : Path} {t : Text}

/-! ### Loaded documents -/

/-- A document has a line more than its file only if that has none. -/
theorem lines_ofText (t : Text) :
    (ofText t).lines = if Text.lines t = [] then [[]] else Text.lines t := rfl

/-- The lines of a text hold no line feed, and neither does the line that stands for none. -/
theorem unbroken_ofText (t : Text) : (ofText t).Unbroken := by
  intro line hline
  rw [lines_ofText] at hline
  split at hline
  · rw [List.mem_singleton.1 hline]
    exact List.not_mem_nil
  · exact Text.not_mem_of_mem_lines hline

/-- A document has a line with a return at its end if its text has two before a line feed, or one at
its own end. -/
theorem exists_return_ofText_iff (t : Text) :
    (∃ line ∈ (ofText t).lines, line.getLast? = some '\r') ↔
      ['\r', '\r', '\n'] <:+: t ∨ t.getLast? = some '\r' := by
  rw [← Text.exists_return_iff, lines_ofText]
  split
  · rename_i hempty
    simp [hempty]
  · rfl

/-- Loading a file from a disk makes the document of its text. -/
theorem load_of_readText (doc : Document) (htext : d.readText path = .ok t) :
    let out := (doc.load path).perform Disk.store d
    out.value.1.lines = (ofText t).lines ∧ out.value.2 = .ok (Text.lines t).length ∧
      out.files = d := by
  intro out
  have hread : (Disk.store.read path d).1 = .ok (Text.lines t) := congrArg (·.map Text.lines) htext
  have hvalue : out.value = (doc.reloaded (Text.lines t), .ok (Text.lines t).length) := by
    simp only [out, value_load, hread]
  rw [hvalue]
  exact ⟨rfl, rfl, files_load doc path Disk.store d⟩

/-- A save succeeds exactly if the store accepts the write. -/
theorem save_isOk_iff {σ : Type} {doc : Document} {store : Store σ} {files : σ} :
    ((doc.save path).perform store files).value.2.isOk = true ↔
      (store.write path doc.lines files).1 = .ok () := by
  rw [value_save]
  cases (store.write path doc.lines files).1 with
  | ok _ => exact iff_of_true rfl rfl
  | error cause => exact iff_of_false Bool.noConfusion (by simp)

/-- **What comes back from the file that a loaded document is saved to**: the lines that were
loaded, each less one carriage return at its end. -/
theorem load_after_save (doc again : Document) (htext : d.readText path = .ok t) :
    let first := (doc.load path).perform Disk.store d
    let saved := (first.value.1.save other).perform Disk.store first.files
    let second := (again.load other).perform Disk.store saved.files
    saved.value.2.isOk = true →
      first.value.1.lines = (ofText t).lines ∧ second.value.2.isOk = true ∧
        second.value.1.lines = (ofText t).lines.map Text.dropReturn := by
  intro first saved second haccepted
  obtain ⟨hlines, -, hfiles⟩ := load_of_readText doc htext
  have hwrite : (Disk.store.write other (ofText t).lines d).1 = .ok () := by
    have hanswer := save_isOk_iff.1 haccepted
    rwa [hlines, hfiles] at hanswer
  have hsaved : saved.files = (Disk.store.write other (ofText t).lines d).2 := by
    simp only [saved, files_save, first, hlines, hfiles]
  have hrewritten : saved.files.readText other = .ok (Text.ofLines (ofText t).lines) := by
    rw [hsaved]
    exact Disk.readText_of_accepted hwrite
  obtain ⟨hback, hcount, -⟩ := load_of_readText again hrewritten
  refine ⟨hlines, (congrArg Except.isOk hcount).trans rfl, hback.trans ?_⟩
  -- A document has a line, so there is one in the file that it is saved to.
  rw [lines_ofText, Text.lines_ofLines (unbroken_ofText t), if_neg]
  exact fun hempty ↦ lines_ofLines_ne_nil _ (List.map_eq_nil_iff.1 hempty)

/-- A disk with one file, which holds the text. -/
def oneFile (t : Text) : Disk where
  files := [(["a.ns".toList], Text.encode t)]

theorem readText_oneFile (t : Text) : (oneFile t).readText "a.ns".toList = .ok t :=
  Disk.readText_of_readBytes rfl

/-- What was loaded from the one file can be saved to another. -/
theorem save_oneFile (t : Text) (doc : Document) :
    let first := (doc.load "a.ns".toList).perform Disk.store (oneFile t)
    ((first.value.1.save "b.ns".toList).perform Disk.store first.files).value.2.isOk = true := by
  intro first
  have hfiles : first.files = oneFile t := files_load doc _ Disk.store _
  refine save_isOk_iff.2 ?_
  rw [hfiles]
  rfl

/-- **What a file is after it was loaded, saved and loaded again.** A document is loaded from a file
on a disk that holds the text `t`, it is saved to the same or another file, and that file is loaded,
into the same or another document. The second load succeeds, and its lines are those of the first,
each less one carriage return at its end. They are the same lines exactly if in `t` there are no two
returns before a line feed and none at the end. -/
theorem load_save_load (doc again : Document) (htext : d.readText path = .ok t) :
    let first := (doc.load path).perform Disk.store d
    let saved := (first.value.1.save other).perform Disk.store first.files
    let second := (again.load other).perform Disk.store saved.files
    saved.value.2.isOk = true →
      second.value.2.isOk = true ∧
      second.value.1.lines = first.value.1.lines.map Text.dropReturn ∧
      (second.value.1.lines = first.value.1.lines ↔
        ¬ ['\r', '\r', '\n'] <:+: t ∧ t.getLast? ≠ some '\r') := by
  intro first saved second haccepted
  obtain ⟨hfirst, hsuccess, hsecond⟩ := load_after_save doc again htext haccepted
  rw [← hfirst] at hsecond
  refine ⟨hsuccess, hsecond, ?_⟩
  have hreturns : (∀ line ∈ (ofText t).lines, line.getLast? ≠ some '\r') ↔
      ¬ ∃ line ∈ (ofText t).lines, line.getLast? = some '\r' := by simp
  rw [hsecond, Text.map_dropReturn_eq_self_iff, hfirst, hreturns, exists_return_ofText_iff, not_or]

/-- Returns that a line feed follows at once are part of a line's end and make no difference, not
even where the last line has no end. -/
theorem load_save_load_keeps_crlf :
    let t := "x\r\n\ry\r\n z".toList
    let first := (empty.load "a.ns".toList).perform Disk.store (oneFile t)
    let saved := (first.value.1.save "b.ns".toList).perform Disk.store first.files
    let second := (empty.load "b.ns".toList).perform Disk.store saved.files
    (oneFile t).readText "a.ns".toList = .ok t ∧ saved.value.2.isOk = true ∧
      second.value.1.lines = first.value.1.lines := by
  have hplain : ¬ ∃ line ∈ (ofText "x\r\n\ry\r\n z".toList).lines, line.getLast? = some '\r' := by
    decide
  intro t first saved second
  have htext := readText_oneFile t
  have hsaved : saved.value.2.isOk = true := save_oneFile t empty
  obtain ⟨-, -, hsame⟩ := load_save_load empty empty htext hsaved
  exact ⟨htext, hsaved, hsame.2 (not_or.1 (mt (exists_return_ofText_iff t).2 hplain))⟩

/-- **A return is lost.** The one line of the file ends in a carriage return that no line feed
follows, so the return is a part of the line. Once the document is saved a line feed follows, and
the line comes back without its return. -/
theorem load_save_load_drops_return :
    let t := "x\r".toList
    let first := (empty.load "a.ns".toList).perform Disk.store (oneFile t)
    let saved := (first.value.1.save "b.ns".toList).perform Disk.store first.files
    let second := (empty.load "b.ns".toList).perform Disk.store saved.files
    (oneFile t).readText "a.ns".toList = .ok t ∧ saved.value.2.isOk = true ∧
      second.value.2.isOk = true ∧ first.value.1.lines = ["x\r".toList] ∧
      second.value.1.lines = ["x".toList] := by
  have hlines : (ofText "x\r".toList).lines = ["x\r".toList] := by decide
  have hback : (ofText "x\r".toList).lines.map Text.dropReturn = ["x".toList] := by decide
  intro t first saved second
  have htext := readText_oneFile t
  have hsaved : saved.value.2.isOk = true := save_oneFile t empty
  obtain ⟨hfirst, hsuccess, hsecond⟩ := load_after_save empty empty htext hsaved
  exact ⟨htext, hsaved, hsuccess, hfirst.trans hlines, hsecond.trans hback⟩

end Document

end Scriptpad
