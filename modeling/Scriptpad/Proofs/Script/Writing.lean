import Scriptpad.Proofs.Script.Trace
import Scriptpad.Proofs.Text.Trimming
import Scriptpad.Storage.Memory

/-!
# Statements in writing

There is no printer of statements, but there is a way to write each of them, and reading undoes it.
`Statement.IsWritten` says which lines write a statement: keywords and payload in their order, with
any padding wherever a blank may stand. Blanks in a payload are protected by its quotes, and so are
quotes in it, because only the outer pair comes off. A name has no quotes around it; it may hold
anything but an equals sign, and blanks within it but not at its ends.

Reading goes down as far as three levels, and what is trimmed at each of them is padding and a text
that is `Trimmed`: the line, then what is behind its first word, then what is behind a command's
second. So `Statement.IsWritten.ofLine_eq` has a case for each kind of statement, and each case is
one rewriting per level. A whole script is then known from the statements that are written in it
(`perform_of_written`).

Not every statement can be written: nothing writes a color that scripts have no word for, and no
literal is given here for floating-point values.
-/

namespace Scriptpad

namespace Text

/-- The text between a pair of quotes, with nothing done to it. -/
def inQuotes (t : Text) : Text :=
  '"' :: t ++ ['"']

theorem unquote?_inQuotes (t : Text) : unquote? (inQuotes t) = some t :=
  unquote?_eq_some_iff.2 rfl

theorem unquote_inQuotes (t : Text) : unquote (inQuotes t) = t := by
  rw [unquote, unquote?_inQuotes, Option.getD_some]

/-- Blanks at the ends of a text are not at its ends once there are quotes. -/
theorem solid_inQuotes (t : Text) : Solid (inQuotes t) := by
  have hquote : Solid ['"'] := by decide
  exact hquote.append t hquote

end Text

namespace Decimal

theorem isBlank_of_isDigit {c : Char} (hc : isDigit c = true) : Text.isBlank c = false := by
  obtain ⟨hlow, hhigh⟩ := Bool.and_eq_true_iff.1 hc
  have hlow : 0x30 ≤ c.toNat := of_decide_eq_true hlow
  have hhigh : c.toNat ≤ 0x39 := of_decide_eq_true hhigh
  exact Text.isBlank_of_ascii (by omega) (by omega)

/-- The text of an integer holds no blank. -/
theorem solid_render (n : Int) : Text.Solid (render n) := by
  have hdigits (k : Nat) : ∀ c ∈ digits k, Text.isBlank c = false := fun c hc ↦
    isBlank_of_isDigit (List.all_eq_true.1 (all_isDigit_digits k) c hc)
  cases n with
  | ofNat k => exact Text.solid_of_forall (digits_ne_nil k) (hdigits k)
  | negSucc k =>
    exact Text.solid_of_forall (List.cons_ne_nil _ _)
      (List.forall_mem_cons.2 ⟨by decide, hdigits (k + 1)⟩)

end Decimal

namespace Script

open Text (Padding Trimmed Solid inQuotes)

/-! ### Literals -/

/-- The literal writes the value: an integer of 64 bits in decimal, a truth value by its word, a
text between quotes. -/
inductive Value.IsWritten : Value → Text → Prop
  | integer {n : Int} (hn : Decimal.IsWord n) : IsWritten (.integer n) (Decimal.render n)
  | yes : IsWritten (.truth true) "true".toList
  | no : IsWritten (.truth false) "false".toList
  | text (t : Text) : IsWritten (.text t) (inQuotes t)

variable {value : Value} {literal : Text}

/-- A quote is the beginning of no number. -/
theorem ofLiteral_inQuotes (t : Text) : Value.ofLiteral (inQuotes t) = .text t := by
  have hinteger : Value.integerLiteral? (inQuotes t) = none := rfl
  have hfloat : Value.floatLiteral? (inQuotes t) = none := rfl
  rw [Value.ofLiteral, hinteger, hfloat, Text.unquote?_inQuotes]
  rfl

/-- **A literal is read as the value that it writes.** -/
theorem Value.IsWritten.ofLiteral_eq (h : value.IsWritten literal) :
    Value.ofLiteral literal = value := by
  cases h with
  | integer hn => exact Value.ofLiteral_shown_integer hn
  | yes => decide
  | no => decide
  | text t => exact ofLiteral_inQuotes t

theorem Value.IsWritten.solid (h : value.IsWritten literal) : Solid literal := by
  cases h with
  | @integer n _ => exact Decimal.solid_render n
  | yes => decide
  | no => decide
  | text t => exact Text.solid_inQuotes t

/-! ### Words for colors -/

/-- The word names the color, in letters of whatever case, and scripts know the color. -/
def ColorIsWritten (c : Color) (word : Text) : Prop :=
  c ∈ Color.scriptPalette ∧ Text.sameIgnoringAsciiCase word c.name = true

variable {c : Color} {word : Text}

instance : Decidable (ColorIsWritten c word) := inferInstanceAs (Decidable (_ ∧ _))

theorem ColorIsWritten.ofScriptWord_eq (h : ColorIsWritten c word) :
    Color.ofScriptWord word = c := by
  have hnames : ∀ c ∈ Color.scriptPalette, Color.ofScriptWord c.name = c := by decide
  exact (Color.ofScriptWord_eq_of_lower (beq_iff_eq.1 h.2)).trans (hnames c h.1)

theorem ColorIsWritten.solid (h : ColorIsWritten c word) : Solid word := by
  have hlower : Text.asciiLower word = Text.asciiLower c.name := beq_iff_eq.1 h.2
  refine Text.solid_of_forall ?_ fun d hd ↦ Bool.eq_false_iff.2 fun hblank ↦ ?_
  · rintro rfl
    have hnames : ∀ c ∈ Color.scriptPalette, Text.asciiLower [] ≠ Text.asciiLower c.name := by
      decide
    exact hnames c h.1 hlower
  · -- Only letters change their case, so a blank would be one of the name itself.
    have hnames : ∀ c ∈ Color.scriptPalette, (Text.asciiLower c.name).any Text.isBlank = false := by
      decide
    have hmem : d ∈ Text.asciiLower word :=
      List.mem_map.2 ⟨d, hd, Text.toLower_of_isBlank hblank⟩
    rw [hlower] at hmem
    exact Bool.false_ne_true ((hnames c h.1).symm.trans (List.any_eq_true.2 ⟨d, hmem, hblank⟩))

/-! ### Lines -/

/-- The line writes the statement. -/
inductive Statement.IsWritten : Statement → Text → Prop
  | print (u v w : Padding) (t : Text) :
    IsWritten (.print t) (u ++ ("print".toList ++ v ++ inQuotes t) ++ w)
  | play (u v w x : Padding) (resource : Text) :
    IsWritten (.play resource)
      (u ++ ("audio.".toList ++ v ++ ("play".toList ++ w ++ inQuotes resource)) ++ x)
  | beep (u v w : Padding) : IsWritten .beep (u ++ ("audio.".toList ++ v ++ "beep".toList) ++ w)
  | clear (u v w : Padding) :
    IsWritten .clear (u ++ ("terminal.".toList ++ v ++ "clear".toList) ++ w)
  | color (u v w x : Padding) {c : Color} {word : Text} (hword : ColorIsWritten c word) :
    IsWritten (.color c) (u ++ ("terminal.".toList ++ v ++ ("color".toList ++ w ++ word)) ++ x)
  | assign (u v w x y : Padding) {name literal : Text} {value : Value} (hname : '=' ∉ name)
      (htrimmed : Trimmed name) (hvalue : value.IsWritten literal) :
    IsWritten (.assign name value)
      (u ++ ("var".toList ++ (v ++ name ++ w ++ "=".toList ++ x) ++ literal) ++ y)

variable {line rest : Text}

/-! The rule for a line is found by its first word. -/

theorem ofLine_print (h : Text.trim line = "print".toList ++ rest) :
    Statement.ofLine line = .ok (.print (Text.unquote (Text.trim rest))) := by
  rw [Statement.ofLine, h]
  rfl

theorem ofLine_assign {before behind : Text}
    (h : Text.trim line = "var".toList ++ (before ++ '=' :: behind)) (hbefore : '=' ∉ before) :
    Statement.ofLine line =
      .ok (.assign (Text.trim before) (Value.ofLiteral (Text.trim behind))) := by
  have hrule : Rule.assign ("var".toList ++ (before ++ '=' :: behind)) =
      some (.ok (.assign (Text.trim before) (Value.ofLiteral (Text.trim behind)))) := by
    rw [Rule.assign, Text.dropStart?_eq_some_iff.2 rfl, Option.map_some,
      Text.splitFirst?_append hbefore]
  have hfound : Statement.ofLine line =
      (Rule.assign ("var".toList ++ (before ++ '=' :: behind))).getD (.ok .nothing) := by
    rw [Statement.ofLine, h]
    rfl
  rw [hfound, hrule, Option.getD_some]

theorem ofLine_terminal (h : Text.trim line = "terminal.".toList ++ rest) :
    Statement.ofLine line = terminalCommand (Text.trim rest) := by
  rw [Statement.ofLine, h]
  rfl

theorem ofLine_audio (h : Text.trim line = "audio.".toList ++ rest) :
    Statement.ofLine line = audioCommand (Text.trim rest) := by
  rw [Statement.ofLine, h]
  rfl

theorem terminalCommand_color (word : Text) :
    terminalCommand ("color".toList ++ word) =
      .ok (.color (Color.ofScriptWord (Text.trim word))) :=
  rfl

theorem audioCommand_play (resource : Text) :
    audioCommand ("play".toList ++ resource) = .ok (.play (Text.unquote (Text.trim resource))) :=
  rfl

/-- **A line is read as the statement that it writes.** -/
theorem Statement.IsWritten.ofLine_eq {s : Statement} (h : s.IsWritten line) :
    Statement.ofLine line = .ok s := by
  have haudio : Solid "audio.".toList := by decide
  have hterminal : Solid "terminal.".toList := by decide
  cases h with
  | print u v w t =>
    have hword : Solid "print".toList := by decide
    have hquotes := Text.solid_inQuotes t
    have hline := hword.trim_line hquotes u v w
    rw [ofLine_print hline, hquotes.trimmed.trim_append_eq, Text.unquote_inQuotes]
  | play u v w x resource =>
    have hword : Solid "play".toList := by decide
    have hquotes := Text.solid_inQuotes resource
    have hcommand := hword.append w hquotes
    have hline := haudio.trim_line hcommand u v x
    rw [ofLine_audio hline, hcommand.trimmed.trim_append_eq, List.append_assoc, audioCommand_play,
      hquotes.trimmed.trim_append_eq, Text.unquote_inQuotes]
  | beep u v w =>
    have hcommand : Solid "beep".toList := by decide
    have hline := haudio.trim_line hcommand u v w
    rw [ofLine_audio hline, hcommand.trimmed.trim_append_eq]
    rfl
  | clear u v w =>
    have hcommand : Solid "clear".toList := by decide
    have hline := hterminal.trim_line hcommand u v w
    rw [ofLine_terminal hline, hcommand.trimmed.trim_append_eq]
    rfl
  | @color u v w x c word hc =>
    have hword : Solid "color".toList := by decide
    have hcommand := hword.append w hc.solid
    have hline := hterminal.trim_line hcommand u v x
    rw [ofLine_terminal hline, hcommand.trimmed.trim_append_eq, List.append_assoc,
      terminalCommand_color, hc.solid.trimmed.trim_append_eq, hc.ofScriptWord_eq]
  | @assign u v w x y name literal value hname htrimmed hvalue =>
    have hword : Solid "var".toList := by decide
    have hline := hword.trim_line hvalue.solid u (v ++ name ++ w ++ "=".toList ++ x) y
    have hbefore : '=' ∉ v ++ name ++ w := by
      simp only [List.mem_append, not_or]
      exact ⟨⟨v.not_mem (by decide), hname⟩, w.not_mem (by decide)⟩
    have hcut : v ++ name ++ w ++ "=".toList ++ x ++ literal =
        (v ++ name ++ w) ++ '=' :: (x ++ literal) := by
      simp only [List.append_assoc]
      rfl
    rw [hcut] at hline
    rw [ofLine_assign hline hbefore, htrimmed.trim_pad_eq,
      hvalue.solid.trimmed.trim_append_eq, hvalue.ofLiteral_eq]

/-! ### Scripts -/

theorem map_ofLine_of_written {statements : List Statement} {source : List Text}
    (h : List.Forall₂ Statement.IsWritten statements source) :
    source.map Statement.ofLine = statements.map .ok := by
  induction h with
  | nil => rfl
  | cons hs _ ih => rw [List.map_cons, List.map_cons, hs.ofLine_eq, ih]

variable {σ : Type}

/-- **A script is read as the statements that it writes, line by line, and carries out just these.**
Each is noticed and makes its call, one after another, and nothing else happens before the notices
that close the run. Each name has the value of its last assignment, and the summary lists the
variables. Each statement is read as it stands, whatever the padding and whatever is between its
quotes. -/
theorem perform_of_written {statements : List Statement} {source : List Text}
    (h : List.Forall₂ Statement.IsWritten statements source) (store : Store σ) (files : σ) :
    source.map Statement.ofLine = statements.map .ok ∧
    ∃ (events : List Event) (env : Bindings) (summary : Text),
      Traces statements events ∧
      (perform source).perform store files =
        ⟨.ok env, files, events ++ [.notice (.scriptFinished source.length env.size),
          .notice (.scriptBindings summary)]⟩ ∧
      (∀ name value, env.find? name = some value ↔ LastAssigns name value statements) ∧
      env.size = (statements.filterMap Statement.name?).dedup.length ∧
      env.Lists env.entries ∧ env.SummarizedBy summary := by
  have hread := map_ofLine_of_written h
  have hdistinct := distinct_bindingsAfter statements
  refine ⟨hread, _, bindingsAfter statements, _, traces_flatMap_events statements, ?_,
    find?_bindingsAfter statements, size_bindingsAfter statements, hdistinct.lists,
    summarizedBy_summary hdistinct⟩
  rw [perform_run, run_of_statements hread]
  rfl

/-- Blanks around payloads are skipped and those within quotes are not; quotes stand within quotes,
and an equals sign within a literal. A number in quotes is a text. -/
theorem perform_of_written_payloads :
    let source := ["\u3000print\t\"say \"hi\" \" ".toList, "  var a b = \"1=2\"".toList,
      "var n=-42".toList, "var q = \"7\"".toList, "terminal. color\u00A0GReen ".toList,
      "audio.\tbeep".toList]
    let out := (perform source).perform Memory.store {}
    out.value = .ok ⟨[("a b".toList, .text "1=2".toList), ("n".toList, .integer (-42)),
      ("q".toList, .text "7".toList)]⟩ ∧
    out.events =
      [ .notice (.statementExecuted (.print "say \"hi\" ".toList)),
        .output (.line "say \"hi\" ".toList),
        .notice (.statementExecuted (.assign "a b".toList (.text "1=2".toList))),
        .notice (.statementExecuted (.assign "n".toList (.integer (-42)))),
        .notice (.statementExecuted (.assign "q".toList (.text "7".toList))),
        .notice (.statementExecuted (.color .green)), .output (.color .green),
        .notice (.statementExecuted .beep), .output .beep,
        .notice (.scriptFinished 6 3),
        .notice (.scriptBindings "a b: string = 1=2, n: int = -42, q: string = 7".toList) ] := by
  intro source out
  let space : Padding := ⟨[' '], by decide⟩
  let tab : Padding := ⟨['\t'], by decide⟩
  have hprint : Statement.IsWritten (.print "say \"hi\" ".toList) source[0] :=
    .print ⟨['\u3000'], by decide⟩ tab space _
  have htext : Statement.IsWritten (.assign "a b".toList (.text "1=2".toList)) source[1] :=
    .assign ⟨[' ', ' '], by decide⟩ space space space .none (by decide) (by decide) (.text _)
  have hinteger : Statement.IsWritten (.assign "n".toList (.integer (-42))) source[2] :=
    .assign .none space .none .none .none (by decide) (by decide) (.integer (by decide))
  have hquoted : Statement.IsWritten (.assign "q".toList (.text "7".toList)) source[3] :=
    .assign .none space space space .none (by decide) (by decide) (.text _)
  have hword : ColorIsWritten .green "GReen".toList := by decide
  have hcolor : Statement.IsWritten (.color .green) source[4] :=
    .color .none space ⟨['\u00A0'], by decide⟩ space hword
  have hbeep : Statement.IsWritten .beep source[5] := .beep .none tab .none
  have hwritten : List.Forall₂ Statement.IsWritten _ source :=
    .cons hprint <| .cons htext <| .cons hinteger <| .cons hquoted <| .cons hcolor <|
      .cons hbeep .nil
  obtain ⟨-, events, env, summary, htraces, hrun, -, -, hlists, hsummary⟩ :=
    perform_of_written hwritten Memory.store {}
  obtain rfl := htraces.unique (.cons (.print _) <| .cons (.assign _ _) <| .cons (.assign _ _) <|
    .cons (.assign _ _) <| .cons (.color _) <| .cons .beep .nil)
  have hvalue : out.value = .ok ⟨[("a b".toList, .text "1=2".toList),
    ("n".toList, .integer (-42)), ("q".toList, .text "7".toList)]⟩ := rfl
  obtain rfl := Except.ok.inj ((congrArg (·.value) hrun).symm.trans hvalue)
  obtain rfl := hsummary.eq_joinWith hlists
    (.cons (.text _) <| .cons (.integer _) <| .cons (.text _) .nil) (.refl _) (by decide)
  exact ⟨hvalue, congrArg (·.events) hrun⟩

end Script

end Scriptpad
