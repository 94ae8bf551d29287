import Scriptpad.Proofs.Script.Bindings
import Scriptpad.Storage.Memory

/-!
# The trace of a run

A run is an early exit from a loop that carries variables along, and its trace can be told without
the loop. Up to the first line that is an error every line is a statement, and leaves its notice and
what it calls for, one line after another. Then comes that error and nothing else; or, if there is
no such line, the two notices that close the run, with the variables that the assignments leave.

What a statement calls for is not taken from the run. `Statement.Calls` says it for each kind of
statement, `Traces` puts the calls in a row, and `traces_flatMap_events` has the run agree with
them.

`runFrom_append` is the step and the induction: lines that are statements put their events in front
of whatever is run behind them. Both endings follow by looking at what that is. Main statement:
`trace_of_run`.
-/

namespace Scriptpad.Script

variable {σ : Type}

/-- A run does not get past the line. -/
def stops (line : Text) : Bool :=
  match Statement.ofLine line with
  | .ok _ => false
  | .error _ => true

theorem stops_eq_true_iff {line : Text} :
    stops line = true ↔ ∃ e, Statement.ofLine line = .error e := by
  rw [stops]
  cases Statement.ofLine line <;> simp

theorem stops_eq_false_iff {line : Text} :
    stops line = false ↔ ∃ s, Statement.ofLine line = .ok s := by
  rw [stops]
  cases Statement.ofLine line <;> simp

/-- Lines that do not stop a run are statements. -/
theorem exists_statements {lines : List Text} (h : ∀ line ∈ lines, stops line = false) :
    ∃ statements : List Statement, lines.map Statement.ofLine = statements.map .ok := by
  induction lines with
  | nil => exact ⟨[], rfl⟩
  | cons line lines ih =>
    rw [List.forall_mem_cons] at h
    obtain ⟨s, hs⟩ := stops_eq_false_iff.1 h.1
    obtain ⟨statements, hstatements⟩ := ih h.2
    exact ⟨s :: statements, by rw [List.map_cons, hs, hstatements, List.map_cons]⟩

/-- Lines are no other statements than they are read as. -/
theorem statements_unique {lines : List Text} {statements others : List Statement}
    (h : lines.map Statement.ofLine = statements.map .ok)
    (hothers : lines.map Statement.ofLine = others.map .ok) : statements = others :=
  List.map_injective_iff.2 (fun _ _ ↦ Except.ok.inj) (h.symm.trans hothers)

/-! ### What statements call for -/

/-- What a statement asks of the display and the loudspeaker, which is one thing at most. -/
inductive Statement.Calls : Statement → Option Output → Prop
  | nothing : Calls .nothing none
  | assign (name : Text) (value : Value) : Calls (.assign name value) none
  | print (t : Text) : Calls (.print t) (some (.line t))
  | clear : Calls .clear (some .clear)
  | color (c : Color) : Calls (.color c) (some (.color c))
  | beep : Calls .beep (some .beep)
  | play (resource : Text) : Calls (.play resource) (some (.sound resource))

/-- The events of statements, one statement after another: each is noticed before it makes its
call. -/
inductive Traces : List Statement → List Event → Prop
  | nil : Traces [] []
  | cons {s : Statement} {call : Option Output} {statements : List Statement} {events : List Event}
      (hcall : s.Calls call) (hmore : Traces statements events) :
      Traces (s :: statements)
        (.notice (.statementExecuted s) :: (call.toList.map Event.output ++ events))

/-- **A statement shows what it calls for.** -/
theorem Statement.exists_calls (s : Statement) :
    ∃ call, s.Calls call ∧ s.outputs = call.toList := by
  cases s with
  | nothing => exact ⟨_, .nothing, rfl⟩
  | print t => exact ⟨_, .print t, rfl⟩
  | assign name value => exact ⟨_, .assign name value, rfl⟩
  | clear => exact ⟨_, .clear, rfl⟩
  | color c => exact ⟨_, .color c, rfl⟩
  | beep => exact ⟨_, .beep, rfl⟩
  | play resource => exact ⟨_, .play resource, rfl⟩

/-- No statement calls for two different things. -/
theorem Statement.Calls.unique {s : Statement} {call other : Option Output} (h : s.Calls call)
    (hother : s.Calls other) : call = other := by
  cases h <;> cases hother <;> rfl

theorem Traces.unique {statements : List Statement} {events others : List Event}
    (h : Traces statements events) (hothers : Traces statements others) : events = others := by
  induction h generalizing others with
  | nil =>
    cases hothers
    rfl
  | cons hcall _ ih =>
    cases hothers with
    | cons hother hmore => rw [hcall.unique hother, ih hmore]

theorem traces_flatMap_events (statements : List Statement) :
    Traces statements (statements.flatMap Statement.events) := by
  induction statements with
  | nil => exact .nil
  | cons s statements ih =>
    obtain ⟨call, hcall, houtputs⟩ := s.exists_calls
    rw [List.flatMap_cons, Statement.events, houtputs]
    exact .cons hcall ih

/-! ### Runs in two parts -/

/-- **Lines that are statements leave their events and their variables** to what is run behind
them. -/
theorem runFrom_append {lines : List Text} {statements : List Statement}
    (h : lines.map Statement.ofLine = statements.map .ok) (lineCount : Nat) (env : Bindings)
    (rest : List Text) :
    runFrom lineCount env (lines ++ rest) =
      let more := runFrom lineCount (statements.foldl Statement.update env) rest
      ⟨statements.flatMap Statement.events ++ more.events, more.result⟩ := by
  induction lines generalizing statements env with
  | nil =>
    obtain rfl : statements = [] := List.map_eq_nil_iff.1 h.symm
    rfl
  | cons line lines ih =>
    obtain ⟨s, statements, rfl, hs, hlines⟩ := List.map_eq_cons_iff.1 h.symm
    rw [List.cons_append, runFrom, ← hs]
    simp only [ih hlines.symm, List.foldl_cons, List.flatMap_cons, List.append_assoc]

/-- A run of statements only closes with what they leave. -/
theorem run_of_statements {source : List Text} {statements : List Statement}
    (h : source.map Statement.ofLine = statements.map .ok) :
    run source =
      ⟨statements.flatMap Statement.events ++
          closingNotices source.length (bindingsAfter statements),
        .ok (bindingsAfter statements)⟩ := by
  have happend := runFrom_append h source.length ∅ []
  rw [List.append_nil] at happend
  exact happend

/-- A run ends with its first error, whatever follows. -/
theorem run_of_error {lines : List Text} {statements : List Statement} {line : Text}
    {e : UnknownCommand} (h : lines.map Statement.ofLine = statements.map .ok)
    (hline : Statement.ofLine line = .error e) (rest : List Text) :
    run (lines ++ line :: rest) =
      ⟨statements.flatMap Statement.events ++ [.notice (.scriptAborted e)], .error e⟩ := by
  rw [run, runFrom_append h, runFrom_error hline]

/-! ### The trace -/

theorem perform_run (source : List Text) (store : Store σ) (files : σ) :
    (perform source).perform store files =
      ⟨(run source).result.mapError .command, files, (run source).events⟩ := by
  rw [perform, Effect.bind_eq, Effect.perform_bind, Effect.perform_events]
  simp

/-- **The trace of a run.** Let `k` be the number of lines before the first that is an error. These
lines are statements, each is noticed and makes its call, in their order, and no file is touched. If
the run gets no further, it ends with the error of the next line, and any other script that begins
with the same `k + 1` lines does just the same. If it gets to the end, it closes with the number of
lines and of variables and with a summary. Then each name has the value of its last assignment,
there are as many variables as names assigned, and the summary lists them. -/
theorem trace_of_run (source : List Text) (store : Store σ) (files : σ) :
    let out := (perform source).perform store files
    let k := source.findIdx stops
    ∃ (statements : List Statement) (events : List Event),
      (source.take k).map Statement.ofLine = statements.map .ok ∧
      Traces statements events ∧
      out.files = files ∧
      (∀ h : k < source.length, ∃ e, Statement.ofLine source[k] = .error e ∧
        out.value = .error (.command e) ∧
        out.events = events ++ [.notice (.scriptAborted e)] ∧
        ∀ other : List Text, other.take (k + 1) = source.take (k + 1) →
          (perform other).perform store files = out) ∧
      (k = source.length → ∃ (env : Bindings) (summary : Text),
        out.value = .ok env ∧
        out.events = events ++ [.notice (.scriptFinished source.length env.size),
          .notice (.scriptBindings summary)] ∧
        (∀ name value, env.find? name = some value ↔ LastAssigns name value statements) ∧
        env.size = (statements.filterMap Statement.name?).dedup.length ∧
        env.Lists env.entries ∧ env.SummarizedBy summary) := by
  intro out k
  have hbefore : ∀ line ∈ source.take k, stops line = false := by
    intro line hline
    obtain ⟨i, hi, rfl⟩ := List.mem_take_iff_getElem.1 hline
    exact List.not_of_lt_findIdx (Nat.lt_of_lt_of_le hi (Nat.min_le_left _ _))
  obtain ⟨statements, hstatements⟩ := exists_statements hbefore
  refine ⟨statements, statements.flatMap Statement.events, hstatements,
    traces_flatMap_events statements, ?_, ?_, ?_⟩
  · exact congrArg (·.files) (perform_run source store files)
  · intro hk
    obtain ⟨e, he⟩ := stops_eq_true_iff.1 (List.findIdx_getElem (w := hk))
    -- The run of any script that begins like this one is known from its beginning.
    have hrun : ∀ other : List Text, other.take (k + 1) = source.take (k + 1) →
        (perform other).perform store files =
          ⟨.error (.command e), files,
            statements.flatMap Statement.events ++ [.notice (.scriptAborted e)]⟩ := by
      intro other hother
      have hcut : other = source.take k ++ source[k] :: other.drop (k + 1) :=
        calc
          other = other.take (k + 1) ++ other.drop (k + 1) := (List.take_append_drop _ _).symm
          _ = source.take k ++ source[k] :: other.drop (k + 1) := by
            rw [hother, List.take_succ_eq_append_getElem hk, List.append_assoc,
              List.singleton_append]
      rw [perform_run, hcut, run_of_error hstatements he]
      rfl
    have hout : out = _ := hrun source rfl
    refine ⟨e, he, congrArg (·.value) hout, congrArg (·.events) hout, fun other hother ↦ ?_⟩
    rw [hrun other hother, hout]
  · intro hk
    rw [hk, List.take_length] at hstatements
    have hout : out = _ := perform_run source store files
    rw [run_of_statements hstatements] at hout
    have hdistinct := distinct_bindingsAfter statements
    exact ⟨bindingsAfter statements, _, congrArg (·.value) hout, congrArg (·.events) hout,
      find?_bindingsAfter statements, size_bindingsAfter statements, hdistinct.lists,
      summarizedBy_summary hdistinct⟩

/-- A name that is declared twice has its second value and stands once in the summary, which is
sorted. A script that gives a device an unknown command stops there, whatever follows. -/
theorem trace_of_run_redeclared :
    let source := ["var n = 1".toList, "print \" a \"".toList, "var m = yes".toList,
      "// beep".toList, "var n = -2".toList, "audio.beep".toList]
    let out := (perform source).perform Memory.store {}
    let stopped (more : List Text) := (perform ("terminal.color Red".toList ::
      "audio.hum".toList :: more)).perform Memory.store {}
    (out.value = .ok ⟨[("n".toList, .integer (-2)), ("m".toList, .text "yes".toList)]⟩ ∧
      out.events =
        [ .notice (.statementExecuted (.assign "n".toList (.integer 1))),
          .notice (.statementExecuted (.print " a ".toList)), .output (.line " a ".toList),
          .notice (.statementExecuted (.assign "m".toList (.text "yes".toList))),
          .notice (.statementExecuted .nothing),
          .notice (.statementExecuted (.assign "n".toList (.integer (-2)))),
          .notice (.statementExecuted .beep), .output .beep, .notice (.scriptFinished 6 2),
          .notice (.scriptBindings "m: string = yes, n: int = -2".toList) ]) ∧
    ∀ more, (stopped more).value = .error (.command ⟨.audio, "hum".toList⟩) ∧
      (stopped more).events =
        [ .notice (.statementExecuted (.color .red)), .output (.color .red),
          .notice (.scriptAborted ⟨.audio, "hum".toList⟩) ] := by
  intro source out stopped
  refine ⟨?_, fun more ↦ ?_⟩
  · obtain ⟨statements, events, hstatements, htraces, -, -, hcloses⟩ :=
      trace_of_run source Memory.store {}
    obtain rfl : statements = [.assign "n".toList (.integer 1), .print " a ".toList,
        .assign "m".toList (.text "yes".toList), .nothing, .assign "n".toList (.integer (-2)),
        .beep] :=
      statements_unique hstatements rfl
    obtain rfl := htraces.unique (.cons (.assign _ _) <| .cons (.print _) <| .cons (.assign _ _) <|
      .cons .nothing <| .cons (.assign _ _) <| .cons .beep .nil)
    obtain ⟨env, summary, hvalue, hevents, -, -, hlists, hsummary⟩ := hcloses (by decide)
    have henv : out.value =
      .ok ⟨[("n".toList, .integer (-2)), ("m".toList, .text "yes".toList)]⟩ := rfl
    obtain rfl := Except.ok.inj (hvalue.symm.trans henv)
    obtain rfl := hsummary.eq_joinWith hlists (.cons (.integer _) <| .cons (.text _) .nil)
      (List.Perm.swap _ _ []) (by decide)
    exact ⟨henv, hevents⟩
  · obtain ⟨statements, events, hstatements, htraces, -, hstops, -⟩ :=
      trace_of_run ["terminal.color Red".toList, "audio.hum".toList] Memory.store {}
    obtain rfl : statements = [.color .red] := statements_unique hstatements rfl
    obtain rfl := htraces.unique (.cons (.color _) .nil)
    obtain ⟨e, he, hvalue, hevents, hsame⟩ := hstops (by decide)
    obtain rfl : ⟨.audio, "hum".toList⟩ = e := Except.error.inj he
    have hmore : stopped more = _ := hsame _ rfl
    rw [hmore]
    exact ⟨hvalue, hevents⟩

end Scriptpad.Script
