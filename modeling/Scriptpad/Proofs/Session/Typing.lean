import Scriptpad.Proofs.Document.Typing
import Scriptpad.Proofs.Session.Saving
import Scriptpad.Proofs.Storage.Keeping

/-!
# Typing a file

A user who wants a file with certain lines types them, saves, and quits. `run_of_typing` says that
this works: whatever the lines are, provided that they are made of printable ASCII and that none
begins with fewer spaces than the line above it, the file holds just these lines in the end, and
nothing has been asked on the way.

There are two inductions, and they do not meet. Key by key, the session does what `Document.strike`
says and goes on waiting for commands (`after_typing`); line by line, the keys of `typingKeys` make
the lines (`Document.EndsAt.strike_typingKeys`). What follows the lines are two single inputs.
-/

namespace Scriptpad

/-! ### Pressing keys -/

/-- The input presses a key, together with the control key or without it. Other modifiers may be
held down as well. -/
def Input.Presses (control : Bool) (code : KeyCode) (input : Input) : Prop :=
  ∃ modifiers : Modifiers, modifiers.control = control ∧ input = .key ⟨code, modifiers⟩

variable {code : KeyCode} {input : Input}

/-- Only a function key can be taken for a change of the terminal's size. -/
theorem Input.Presses.action_eq {control : Bool} (h : input.Presses control code)
    (hcode : ∀ n, code ≠ .function n) :
    input.toKey.action = if control then code.controlAction else code.plainAction := by
  obtain ⟨modifiers, hcontrol, rfl⟩ := h
  have hkey : (⟨code, modifiers⟩ : Key) ≠ .resized := fun heq ↦ hcode _ (congrArg Key.code heq)
  rw [Input.toKey, Key.action, if_neg hkey, hcontrol]

/-- Whether the key types something: a printable character, or a break. -/
def KeyCode.types : KeyCode → Bool
  | .char c => isTypeable c
  | .enter => true
  | _ => false

theorem types_of_mem_furtherKeys (line : Text) {more : List Text}
    (h : ∀ line ∈ more, ∀ c ∈ line, isTypeable c = true) :
    ∀ code ∈ furtherKeys line more, code.types = true := by
  induction more generalizing line with
  | nil => exact List.forall_mem_nil _
  | cons next more ih =>
    obtain ⟨hnext, hmore⟩ := List.forall_mem_cons.1 h
    rw [furtherKeys, List.cons_append, List.forall_mem_cons, List.forall_mem_append,
      List.forall_mem_map]
    exact ⟨rfl, fun c hc ↦ hnext c (List.mem_of_mem_drop hc), ih next hmore⟩

theorem types_of_mem_typingKeys {ls : List Text}
    (h : ∀ line ∈ ls, ∀ c ∈ line, isTypeable c = true) :
    ∀ code ∈ typingKeys ls, code.types = true := by
  cases ls with
  | nil => exact List.forall_mem_nil _
  | cons line more =>
    obtain ⟨hline, hmore⟩ := List.forall_mem_cons.1 h
    rw [typingKeys, List.forall_mem_append, List.forall_mem_map]
    exact ⟨hline, types_of_mem_furtherKeys line hmore⟩

namespace Dialogue

variable {σ : Type} {store : Store σ} {finished : Dialogue → Bool} {inputs : List Input}
  {state : Dialogue × σ}

/-- Through all the inputs, nothing is waited for but commands: no question is asked, and what is
shown is the document. -/
def AsksNothing (store : Store σ) (finished : Dialogue → Bool) (inputs : List Input)
    (state : Dialogue × σ) : Prop :=
  ∀ begun, begun <+: inputs → (after store finished begun state).1.waiting = .command

theorem asksNothing_nil (h : state.1.waiting = .command) :
    AsksNothing store finished [] state := by
  intro begun hbegun
  rw [List.prefix_nil.1 hbegun]
  exact h

theorem asksNothing_cons (h : state.1.waiting = .command)
    (hmore : AsksNothing store finished inputs (turn store finished state input)) :
    AsksNothing store finished (input :: inputs) state := by
  intro begun hbegun
  rcases List.prefix_cons_iff.1 hbegun with rfl | ⟨rest, rfl, hrest⟩
  · exact h
  · exact hmore rest hrest

end Dialogue

namespace Session

open Dialogue

variable {s : Session} {σ : Type} (store : Store σ) (files : σ) (size : Terminal.Size)

/-! ### One key -/

/-- A running session that waits for a command carries out the action of a key. -/
theorem turn_of_presses {control : Bool} (hkey : input.Presses control code)
    (hrunning : s.running = true) :
    turn store isOver (⟨s, .command, size⟩, files) input =
      let out := (s.withoutMessage.act size input.toKey.action).perform store files
      (⟨out.value.1, out.value.2, size⟩, out.files) := by
  obtain ⟨modifiers, -, rfl⟩ := hkey
  rw [turn_of_unfinished (isOver_of_running hrunning _ _)]
  rfl

/-- A key that types changes the document, takes the message away, and nothing else. -/
theorem turn_of_types (hkey : input.Presses false code) (htypes : code.types = true)
    (hrunning : s.running = true) :
    turn store isOver (⟨s, .command, size⟩, files) input =
      (⟨{ s.withoutMessage with document := s.document.strike code }, .command, size⟩, files) := by
  rw [turn_of_presses store files size hkey hrunning]
  cases code with
  | char c =>
    have haction : input.toKey.action = .insert c := by
      rw [hkey.action_eq (by simp)]
      exact if_pos htypes
    rw [haction]
    rfl
  | enter =>
    have haction : input.toKey.action = .split := hkey.action_eq (by simp)
    rw [haction]
    rfl
  | _ => exact absurd htypes Bool.false_ne_true

/-- Saving to a path asks nothing, and takes the mark off if the store accepts the write. -/
theorem turn_of_save (hkey : input.Presses true (.char 's')) (hrunning : s.running = true)
    {path : Path} (hpath : s.path = some path)
    (haccepted : (store.write path s.document.lines files).1 = .ok ()) :
    ∃ saved : Session, saved.document = { s.document with modified := false } ∧
      saved.running = true ∧
      turn store isOver (⟨s, .command, size⟩, files) input =
        (⟨saved, .command, size⟩, (store.write path s.document.lines files).2) := by
  have haction : input.toKey.action = .save := hkey.action_eq (by simp)
  have hnamed : s.withoutMessage.path = some path := hpath
  have hsave : s.withoutMessage.act size .save =
      (s.withoutMessage.saveTo path).bind fun next ↦ next.1.afterSave next.2 .save :=
    save_of_some hnamed .save
  have hvalue := value_saveTo store files s.withoutMessage path
  have hanswer : (store.write path s.withoutMessage.document.lines files).1 = .ok () := haccepted
  rw [hanswer] at hvalue
  refine ⟨((s.withoutMessage.saveTo path).perform store files).value.1, ?_, ?_, ?_⟩
  · rw [hvalue]
    rfl
  · rw [hvalue]
    exact hrunning
  · rw [turn_of_presses store files size hkey hrunning, haction, hsave]
    simp only [Effect.perform_bind, files_saveTo]
    rfl

/-- A session without unsaved changes ends without a question. -/
theorem turn_of_quit (hkey : input.Presses true (.char 'q')) (hrunning : s.running = true)
    (hmodified : s.document.modified = false) :
    turn store isOver (⟨s, .command, size⟩, files) input =
      (⟨{ s.withoutMessage with running := false }, .command, size⟩, files) := by
  have haction : input.toKey.action = .quit := hkey.action_eq (by simp)
  have hquit : s.withoutMessage.act size .quit =
      .done ({ s.withoutMessage with running := false }, .command) := by
    rw [act]
    exact if_neg (Bool.eq_false_iff.1 hmodified)
  rw [turn_of_presses store files size hkey hrunning, haction, hquit]
  rfl

/-! ### A whole file -/

/-- **Keys that type make the document**, and leave everything else to what comes behind them. -/
theorem after_typing {codes : List KeyCode} {keys : List Input}
    (hkeys : List.Forall₂ (Input.Presses false) codes keys)
    (htypes : ∀ code ∈ codes, code.types = true) (hrunning : s.running = true) :
    ∃ typed : Session, typed.document = codes.foldl Document.strike s.document ∧
      typed.path = s.path ∧ typed.running = true ∧
      after store isOver keys (⟨s, .command, size⟩, files) = (⟨typed, .command, size⟩, files) ∧
      ∀ more, AsksNothing store isOver more (⟨typed, .command, size⟩, files) →
        AsksNothing store isOver (keys ++ more) (⟨s, .command, size⟩, files) := by
  induction hkeys generalizing s with
  | nil => exact ⟨s, rfl, rfl, hrunning, rfl, fun _ hmore ↦ hmore⟩
  | @cons code key codes keys hkey _ ih =>
    obtain ⟨hcode, hcodes⟩ := List.forall_mem_cons.1 htypes
    have hturn := turn_of_types store files size hkey hcode hrunning
    obtain ⟨typed, hdocument, hpath, htyped, hafter, hasks⟩ :=
      ih hcodes (s := { s.withoutMessage with document := s.document.strike code }) hrunning
    refine ⟨typed, hdocument, hpath, htyped, ?_, fun more hmore ↦ ?_⟩
    · rw [after_cons, hturn, hafter]
    · exact asksNothing_cons rfl (hturn.symm ▸ hasks more hmore)

variable {store files}

/-- **Lines that are typed, saved and left** are in the file, if the session began with nothing. -/
theorem after_typing_file {path : Path} {ls : List Text} (hends : s.document.EndsAt [] [])
    (hpath : s.path = some path) (hrunning : s.running = true) (hne : ls ≠ [])
    (hascii : ∀ line ∈ ls, ∀ c ∈ line, isTypeable c = true) (hindented : KeepsIndentation ls)
    {keys : List Input} {save quit : Input}
    (hkeys : List.Forall₂ (Input.Presses false) (typingKeys ls) keys)
    (hsave : save.Presses true (.char 's')) (hquit : quit.Presses true (.char 'q'))
    (haccepted : (store.write path ls files).1 = .ok ()) :
    ∃ ended : Session, ended.document.lines = ls ∧
      ended.document.cursor = ⟨ls.length - 1, (ls.getLast hne).length⟩ ∧
      ended.document.modified = false ∧ ended.running = false ∧
      after store isOver (keys ++ [save, quit]) (⟨s, .command, size⟩, files) =
        (⟨ended, .command, size⟩, (store.write path ls files).2) ∧
      AsksNothing store isOver (keys ++ [save, quit]) (⟨s, .command, size⟩, files) := by
  obtain ⟨typed, hdocument, hkept, hstill, hafter, hasks⟩ :=
    after_typing store files size hkeys (types_of_mem_typingKeys hascii) hrunning
  obtain ⟨hlines, hcursor⟩ := hends.strike_typingKeys hne hindented
  rw [← hdocument] at hlines hcursor
  rw [← hlines] at haccepted
  obtain ⟨saved, hsaved, hopen, hsaves⟩ :=
    turn_of_save store files size hsave hstill (hkept.trans hpath) haccepted
  rw [hlines] at hsaves
  have hquits := turn_of_quit store (store.write path ls files).2 size hquit hopen
    (congrArg Document.modified hsaved)
  refine ⟨{ saved.withoutMessage with running := false }, ?_, ?_, ?_, rfl, ?_, ?_⟩
  · exact (congrArg Document.lines hsaved).trans hlines
  · exact (congrArg Document.cursor hsaved).trans hcursor
  · exact congrArg Document.modified hsaved
  · rw [after_append, hafter, after_cons, hsaves, after_cons, hquits, after_nil]
  · refine hasks _ (asksNothing_cons rfl ?_)
    rw [hsaves]
    refine asksNothing_cons rfl ?_
    rw [hquits]
    exact asksNothing_nil rfl

/-- A session on a file that cannot be read begins with one empty line and the cursor in it. -/
theorem openFile_of_error {path : Path} {cause : Failure}
    (hmissing : (store.read path files).1 = .error cause) (screen : Screen) (config : Config) :
    let out := (openFile screen config (some path)).perform store files
    out.value.document.EndsAt [] [] ∧ out.value.path = some path ∧ out.value.running = true ∧
      out.files = (store.read path files).2 := by
  rw [openFile, Effect.bind_eq, Effect.perform_bind]
  simp only [Document.value_load, Document.files_load, hmissing]
  exact ⟨⟨rfl, rfl⟩, rfl, rfl, rfl⟩

/-- **Typing lines makes a file of them.** The lines are made of printable ASCII, and each begins
with all the spaces that the line above it begins with. They are typed in a session on a file that
is not there, on a terminal of whatever size, and then saved and left. The session comes to its end
without a question. Its document has just these lines, all saved, with the cursor behind the last
one, and the file holds them too, if the store accepts the write. -/
theorem run_of_typing {holds : Path → List Text → σ → Prop} (hkeeps : store.Keeps holds)
    {path : Path} {files : σ} {cause : Failure}
    (hmissing : (store.read path files).1 = .error cause) {ls : List Text} (hne : ls ≠ [])
    (hascii : ∀ line ∈ ls, ∀ c ∈ line, isTypeable c = true) (hindented : KeepsIndentation ls)
    {keys : List Input} {save quit : Input}
    (hkeys : List.Forall₂ (Input.Presses false) (typingKeys ls) keys)
    (hsave : save.Presses true (.char 's')) (hquit : quit.Presses true (.char 'q'))
    (haccepted : (store.write path ls (store.read path files).2).1 = .ok ())
    (screen : Screen) (config : Config) (size : Terminal.Size) :
    let opened := (openFile screen config (some path)).perform store files
    let inputs := keys ++ [save, quit]
    let r := opened.value.run store { size } inputs opened.files
    r.result = .ok () ∧
      r.session.document.lines = ls ∧
      r.session.document.cursor = ⟨ls.length - 1, (ls.getLast hne).length⟩ ∧
      r.session.document.modified = false ∧
      holds path ls r.files ∧
      AsksNothing store isOver inputs (opened.value.opening { size }, opened.files) := by
  intro opened inputs r
  obtain ⟨hbegins, hpath, hrunning, hfiles⟩ := openFile_of_error hmissing screen config
  have hends : (opened.value.adoptSize size).document.EndsAt [] [] :=
    ⟨hbegins.lines, hbegins.cursor⟩
  rw [← hfiles] at haccepted
  obtain ⟨ended, hlines, hcursor, hmodified, hover, hafter, hasks⟩ :=
    after_typing_file size hends hpath hrunning hne hascii hindented hkeys hsave hquit haccepted
  have hresult : r.result = _ := opened.value.run_result store opened.files rfl rfl inputs
  have hstate : (r.session, r.files) = _ := opened.value.run_state store opened.files rfl inputs
  rw [opening, hafter] at hresult hstate
  obtain ⟨hsession, hwritten⟩ := Prod.mk.inj hstate
  refine ⟨?_, ?_, ?_, ?_, ?_, hasks⟩
  · rw [hresult, isOver, hover]
    rfl
  · rw [hsession, hlines]
  · rw [hsession, hcursor]
  · rw [hsession, hmodified]
  · rw [hwritten]
    exact hkeeps path ls opened.files haccepted

/-- Between two indented lines, a line of two spaces takes no key but the break. Of the three spaces
that the last line begins with only one is typed. -/
theorem run_of_typing_spaces :
    let ls := ["  a".toList, "  ".toList, "   b ".toList]
    let codes : List KeyCode :=
      [.char ' ', .char ' ', .char 'a', .enter, .enter, .char ' ', .char 'b', .char ' ']
    let keys : List Input := codes.map fun code ↦ .key { code }
    let save : Input := .key { code := .char 's', modifiers := { control := true } }
    let quit : Input := .key { code := .char 'q', modifiers := { control := true } }
    let size : Terminal.Size := ⟨2, 1⟩
    let config : Config :=
      { scriptExtension := [], highlightExtensions := [], logFile := [], keywords := ∅ }
    let opened := (openFile ⟨size, none⟩ config (some "a.ns".toList)).perform Memory.store {}
    let r := opened.value.run Memory.store { size } (keys ++ [save, quit]) opened.files
    r.result = .ok () ∧ r.session.document.lines = ls ∧
      r.files.lines? "a.ns".toList = some ls := by
  intro ls codes keys save quit size config
  have hmissing : (Memory.store.read "a.ns".toList {}).1 =
      .error ⟨.notFound, "no such file".toList⟩ := rfl
  have hcodes : typingKeys ls = codes := by decide
  have hkeys : List.Forall₂ (Input.Presses false) (typingKeys ls) keys := by
    rw [hcodes]
    exact List.forall₂_map_right_iff.2 (List.forall₂_same.2 fun code _ ↦ ⟨{}, rfl, rfl⟩)
  have hsave : save.Presses true (.char 's') := ⟨_, rfl, rfl⟩
  have hquit : quit.Presses true (.char 'q') := ⟨_, rfl, rfl⟩
  have hne : ls ≠ [] := by decide
  have htypeable : (ls.all fun line ↦ line.all isTypeable) = true := by decide
  have hascii : ∀ line ∈ ls, ∀ c ∈ line, isTypeable c = true := by
    simpa only [List.all_eq_true] using htypeable
  have hindented : KeepsIndentation ls := by decide
  have haccepted : (Memory.store.write "a.ns".toList ls (Memory.store.read "a.ns".toList {}).2).1 =
      .ok () := rfl
  have hrun := run_of_typing Memory.keeps hmissing hne hascii hindented hkeys hsave hquit haccepted
    ⟨size, none⟩ config size
  obtain ⟨hresult, hlines, -, -, hfile, -⟩ := hrun
  exact ⟨hresult, hlines, hfile⟩

end Session

end Scriptpad
