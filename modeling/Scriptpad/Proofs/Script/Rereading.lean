import Scriptpad.Proofs.Script.Trace
import Scriptpad.Proofs.Storage.Keeping
import Scriptpad.Proofs.Text.Trimming
import Scriptpad.Text.Lines

/-!
# Running a script that was written and read again

A file does not give back every list of lines: of a line that ends in a carriage return, the return
is lost. A script does not notice. A carriage return is blank, blanks around a line do not count, so
such a line is the same statement with its return and without (`ofLine_dropReturn`), and the run is
the same line by line, with the same notices, counts and errors (`run_of_isReread`).

`IsReread` gathers what a store may give back (`Store.GivesBack`): the lines themselves, as files in
memory do, or what is cut from the text that they were joined to, as files on a disk do.
-/

namespace Scriptpad

namespace Text

/-! ### Returns are trimmed -/

/-- A blank at the end of a text is trimmed. -/
theorem trim_append_blank {c : Char} (hc : isBlank c = true) (t : Text) :
    trim (t ++ [c]) = trim t :=
  trim_pad .none t ⟨[c], List.all_eq_true.2 (List.forall_mem_singleton.2 hc)⟩

theorem trim_dropReturn (line : Text) : trim (dropReturn line) = trim line := by
  rw [dropReturn]
  split
  · rename_i hlast
    obtain ⟨front, rfl⟩ := List.getLast?_eq_some_iff.1 hlast
    rw [List.dropLast_concat, trim_append_blank (by decide)]
  · rfl

/-- These lines are what a file may give back of `ls`. -/
def IsReread (ls back : List Text) : Prop :=
  back = ls ∨ back = lines (ofLines ls)

end Text

/-! ### What stores give back -/

/-- Lines that the store accepts are given back if they are read at once, and reading them changes
no file. -/
def Store.GivesBack {σ : Type} (store : Store σ) (ls : List Text) (files : σ) : Prop :=
  ∀ path, let saved := store.write path ls files
    saved.1 = .ok () → ∃ back, Text.IsReread ls back ∧ store.read path saved.2 = (.ok back, saved.2)

/-- Files in memory give back just what they accepted, unless reading is refused. -/
theorem Memory.givesBack {m : Memory} (hread : m.refusesReads = false) (ls : List Text) :
    Memory.store.GivesBack ls m := by
  intro path saved haccepted
  have hanswer : saved.2.read path = .ok ls :=
    Memory.read_write hread (Memory.write_eq_ok_iff.1 haccepted) path ls
  exact ⟨ls, .inl rfl, congrArg (·, saved.2) hanswer⟩

/-- A disk gives back what is cut from the text that was written. -/
theorem Disk.givesBack (ls : List Text) (d : Disk) : Disk.store.GivesBack ls d := by
  intro path saved haccepted
  exact ⟨_, .inr rfl, congrArg (·, saved.2) (Disk.read_of_accepted haccepted)⟩

namespace Script

/-! ### Running what comes back -/

/-- **A carriage return at its end makes no other statement of a line.** -/
theorem ofLine_dropReturn (line : Text) :
    Statement.ofLine (Text.dropReturn line) = Statement.ofLine line :=
  Statement.ofLine_congr (Text.trim_dropReturn line)

theorem runFrom_map_dropReturn (lineCount : Nat) (env : Bindings) (source : List Text) :
    runFrom lineCount env (source.map Text.dropReturn) = runFrom lineCount env source := by
  induction source generalizing env with
  | nil => rfl
  | cons line rest ih =>
    rw [List.map_cons, runFrom, runFrom, ofLine_dropReturn]
    cases Statement.ofLine line with
    | error e => rfl
    | ok s => simp only [ih]

/-- **What comes back runs like what was written.** -/
theorem run_of_isReread {source back : List Text} (hunbroken : ∀ line ∈ source, '\n' ∉ line)
    (hback : Text.IsReread source back) : run back = run source := by
  rcases hback with rfl | rfl
  · rfl
  · rw [Text.lines_ofLines hunbroken, run, List.length_map, runFrom_map_dropReturn]
    rfl

variable {σ : Type} {store : Store σ} {files : σ} {path : Path} {source : List Text}

/-- A file that can be read is run, after a notice. -/
theorem perform_performFile (hread : (store.read path files).1 = .ok source) :
    (performFile path).perform store files =
      ⟨(run source).result.mapError .command, (store.read path files).2,
        [.read path, .notice (.scriptLoaded path source.length)] ++ (run source).events⟩ := by
  simp only [performFile, readSource, Effect.bind_eq, Effect.perform_bind,
    Effect.perform_readLines, hread, Effect.notice, Effect.perform_event, Effect.pure_eq,
    Effect.perform_done, perform_run]
  rfl

end Script

end Scriptpad
