import Scriptpad.Proofs.Document.History
import Scriptpad.Proofs.Session.Conversation

/-!
# Saving in a session

What a save leaves, on every way through it. A session with a path writes at once; one without a
path asks for a name first, and the inputs decide whether there is one: `nameAnswer?` reads them up
to the key that ends the question, and `after_fileName` says that this is what the conversation
does. A blank name is as good as none.

A write changes the session in its document's mark and its message only (`value_saveTo`), and the
store's answer decides how. `savePath?` gathers the ways to a path in one question: which path
will be written to, if any, given what is going to be typed. So with the inputs that it asks for, a
save either waits for a name still, or has gone on to this path or been given up (`after_save`).
-/

namespace Scriptpad

/-! ### The answer to a question for a name -/

/-- What a key does to the name that is typed. -/
def Key.editName (k : Key) (typed : Text) : Text :=
  match k.code with
  | .backspace => typed.dropLast
  | .char c => if k.modifiers.control then typed else typed ++ [c]
  | _ => typed

/-- What is answered when a name is asked for and `typed` is there already: the name, or none if it
is given up, and the inputs behind the answer. There is no answer as long as neither Enter nor
Escape has come. -/
def nameAnswer? (typed : Text) : List Input → Option (Option Text × List Input)
  | [] => none
  | input :: inputs =>
    match input.toKey.code with
    | .enter => some (some typed, inputs)
    | .escape => some (none, inputs)
    | _ => nameAnswer? (input.toKey.editName typed) inputs

/-! ### The document after a write -/

namespace Document

/-- A document once a store has answered a write of it. -/
def written (doc : Document) (answer : Except Failure Unit) : Document :=
  match answer with
  | .ok () => { doc with modified := false }
  | .error _ => doc

/-- What a write of a document leaves of it and of the files, if there is a path to write to. -/
def writtenTo {σ : Type} (doc : Document) (store : Store σ) (files : σ) :
    Option Path → Document × σ
  | some path =>
    let out := store.write path doc.lines files
    (doc.written out.1, out.2)
  | none => (doc, files)

end Document

namespace Session

variable {s : Session} {σ : Type} (store : Store σ) (files : σ)

/-- Goes on with a save once its question for a name is answered. -/
def saveAnswered (s : Session) (answer : Option Text) (purpose : Purpose) :
    Effect (Session × Waiting) :=
  match answer with
  | some name => s.saveUnder name purpose
  | none => s.cancelSave purpose

/-- The path that an answer names. A blank name is none. -/
def answeredPath? : Option Text → Option Path
  | some name => if Text.trim name = [] then none else some (Text.trim name)
  | none => none

/-- The path that a save is going to write to, if the given inputs follow. -/
def savePath? (s : Session) (inputs : List Input) : Option Path :=
  match s.path with
  | some path => some path
  | none => (nameAnswer? [] inputs).bind fun answer ↦ answeredPath? answer.1

@[simp] theorem path_bindPath (s : Session) (path : Path) :
    (s.bindPath path).path = some path := rfl

/-! ### Writing -/

theorem value_saveTo (s : Session) (path : Path) :
    ((s.saveTo path).perform store files).value =
      match (store.write path s.document.lines files).1 with
      | .ok () =>
        ({ s with document := { s.document with modified := false } }.withMessage
          "File saved successfully!".toList, true)
      | .error cause => (s.withMessage (FileError.save path cause).message, false) := by
  rw [saveTo, Effect.bind_eq, Effect.perform_bind]
  simp only [Document.value_save]
  cases (store.write path s.document.lines files).1 <;> rfl

theorem files_saveTo (s : Session) (path : Path) :
    ((s.saveTo path).perform store files).files =
      (store.write path s.document.lines files).2 := by
  rw [saveTo, Effect.bind_eq, Effect.perform_bind]
  simp only [Document.value_save, Document.files_save]
  cases (store.write path s.document.lines files).1 <;> rfl

theorem document_saveTo (s : Session) (path : Path) :
    ((s.saveTo path).perform store files).value.1.document =
      s.document.written (store.write path s.document.lines files).1 := by
  rw [value_saveTo]
  cases (store.write path s.document.lines files).1 <;> rfl

theorem path_saveTo (s : Session) (path : Path) :
    ((s.saveTo path).perform store files).value.1.path = s.path := by
  rw [value_saveTo]
  cases (store.write path s.document.lines files).1 <;> rfl

/-- What a write tells the log and the terminal, once the store has answered. -/
def saveReport (doc : Document) (path : Path) : Except Failure Unit → List Event
  | .ok () => [.notice (.documentSaved path doc.size)]
  | .error cause => [.notice (.saveFailed (.save path cause)), .terminal .beep]

/-- **All that a write does**: the store is asked, and its answer decides about the document's mark,
the message and the report. -/
theorem exists_saveTo_eq (s : Session) (path : Path) :
    let out := store.write path s.document.lines files
    ∃ next : Session, next.document = s.document.written out.1 ∧ next.path = s.path ∧
      (s.saveTo path).perform store files =
        ⟨(next, out.1.isOk), out.2,
          .write path s.document.lines :: saveReport s.document path out.1⟩ := by
  intro out
  refine ⟨((s.saveTo path).perform store files).value.1, document_saveTo store files s path,
    path_saveTo store files s path, ?_⟩
  rw [saveTo, Effect.bind_eq, Effect.perform_bind]
  simp only [Document.value_save, Document.files_save, Document.events_save, out]
  cases (store.write path s.document.lines files).1 <;> rfl

theorem save_of_some {path : Path} (h : s.path = some path) (purpose : Purpose) :
    s.save purpose = (s.saveTo path).bind fun next ↦ next.1.afterSave next.2 purpose := by
  rw [save, h]
  rfl

theorem saveUnder_of_name {name : Text} (h : Text.trim name ≠ []) (purpose : Purpose) :
    s.saveUnder name purpose =
      ((s.bindPath (Text.trim name)).saveTo (Text.trim name)).bind fun next ↦
        next.1.afterSave next.2 purpose := by
  rw [saveUnder, if_neg h]
  rfl

theorem saveUnder_of_blank {name : Text} (h : Text.trim name = []) (purpose : Purpose) :
    s.saveUnder name purpose = s.cancelSave purpose := by
  rw [saveUnder, if_pos h]
  rfl

/-- A script is run only from a file that was written, and then a key is waited for. -/
theorem afterSave_of_saved {path : Path} (hpath : s.path = some path) :
    s.afterSave true .run = (runProgram path).bind fun _ ↦ .done (s, .anyKey) := by
  simp only [afterSave, hpath]
  rfl

/-! ### Asking for a name -/

theorem save_of_none (h : s.path = none) (purpose : Purpose) :
    s.save purpose = .done (s, .fileName [] purpose) := by
  rw [save, h]
  rfl

theorem receiveName_of_enter {typed : Text} {purpose : Purpose} {k : Key} (h : k.code = .enter) :
    s.receiveName typed purpose k = s.saveAnswered (some typed) purpose := by
  rw [receiveName, h]
  rfl

theorem receiveName_of_escape {typed : Text} {purpose : Purpose} {k : Key}
    (h : k.code = .escape) : s.receiveName typed purpose k = s.saveAnswered none purpose := by
  rw [receiveName, h]
  rfl

theorem receiveName_of_edit {typed : Text} {purpose : Purpose} {k : Key}
    (henter : k.code ≠ .enter) (hescape : k.code ≠ .escape) :
    s.receiveName typed purpose k = pure (s, .fileName (k.editName typed) purpose) := by
  obtain ⟨code, modifiers⟩ := k
  cases code with
  | enter => exact absurd rfl henter
  | escape => exact absurd rfl hescape
  | char c =>
    simp only [receiveName, Key.editName]
    split <;> rfl
  | _ => rfl

/-- The question for a name is where a single action goes on taking inputs. -/
theorem isAtRest_fileName (s : Session) (purpose : Purpose) (typed : Text) (size : Terminal.Size) :
    isAtRest ⟨s, .fileName typed purpose, size⟩ = false := rfl

/-- A question that is not answered leaves everything but the typed name as it was. -/
theorem after_fileName_of_none {finished : Dialogue → Bool} {purpose : Purpose}
    (hunfinished : ∀ typed size, finished ⟨s, .fileName typed purpose, size⟩ = false)
    {inputs : List Input} {typed : Text} (h : nameAnswer? typed inputs = none)
    (size : Terminal.Size) :
    ∃ typed' size', Dialogue.after store finished inputs
        (⟨s, .fileName typed purpose, size⟩, files) =
      (⟨s, .fileName typed' purpose, size'⟩, files) := by
  induction inputs generalizing typed size with
  | nil => exact ⟨typed, size, rfl⟩
  | cons input inputs ih =>
    unfold nameAnswer? at h
    split at h
    · exact absurd h (by simp)
    · exact absurd h (by simp)
    · -- any other input edits the name at most, so the question stands as before
      rename_i henter hescape
      rw [Dialogue.after_cons, Dialogue.turn_of_unfinished (hunfinished typed size),
        Dialogue.reaction_fileName, receiveName_of_edit henter hescape]
      exact ih h _

/-- **An answer is read up to the key that ends it**, and the save goes on with it. -/
theorem after_fileName_of_some {finished : Dialogue → Bool} {purpose : Purpose}
    (hunfinished : ∀ typed size, finished ⟨s, .fileName typed purpose, size⟩ = false)
    {inputs more : List Input} {typed : Text} {answer : Option Text}
    (h : nameAnswer? typed inputs = some (answer, more)) (size : Terminal.Size) :
    ∃ size', Dialogue.after store finished inputs (⟨s, .fileName typed purpose, size⟩, files) =
      let out := (s.saveAnswered answer purpose).perform store files
      Dialogue.after store finished more (⟨out.value.1, out.value.2, size'⟩, out.files) := by
  induction inputs generalizing typed size with
  | nil => exact absurd h (by simp [nameAnswer?])
  | cons input inputs ih =>
    rw [Dialogue.after_cons, Dialogue.turn_of_unfinished (hunfinished typed size),
      Dialogue.reaction_fileName]
    unfold nameAnswer? at h
    split at h
    · rename_i henter
      obtain ⟨rfl, rfl⟩ := Prod.mk.inj (Option.some.inj h)
      rw [receiveName_of_enter henter]
      exact ⟨_, rfl⟩
    · rename_i hescape
      obtain ⟨rfl, rfl⟩ := Prod.mk.inj (Option.some.inj h)
      rw [receiveName_of_escape hescape]
      exact ⟨_, rfl⟩
    · rename_i henter hescape
      rw [receiveName_of_edit henter hescape]
      exact ih h _

/-! ### The whole of a save -/

/-- The session once a path was found for a save: a session that has none gets bound. -/
def named (s : Session) (path? : Option Path) : Session :=
  match s.path, path? with
  | none, some path => s.bindPath path
  | _, _ => s

theorem named_of_some {path : Path} (h : s.path = some path) (path? : Option Path) :
    s.named path? = s := by
  simp only [named, h]

theorem named_of_none (h : s.path = none) (path : Path) :
    s.named (some path) = s.bindPath path := by
  simp only [named, h]

theorem named_none (s : Session) : s.named none = s := by
  unfold named
  split <;> trivial

theorem document_named (s : Session) (path? : Option Path) :
    (s.named path?).document = s.document := by
  unfold named
  split <;> rfl

theorem savePath?_of_some {path : Path} (h : s.path = some path) (inputs : List Input) :
    s.savePath? inputs = some path := by
  rw [savePath?, h]

/-- As long as a name is asked for there is no path to write to. -/
theorem savePath?_of_asked {inputs : List Input}
    (h : s.path = none ∧ nameAnswer? [] inputs = none) : s.savePath? inputs = none := by
  rw [savePath?, h.1, h.2]
  rfl

/-- Goes on with a save once it is clear where to, if to anywhere. -/
def saveNamed (s : Session) (path? : Option Path) (purpose : Purpose) :
    Effect (Session × Waiting) :=
  match path? with
  | some path =>
    ((s.named path?).saveTo path).bind fun next ↦ next.1.afterSave next.2 purpose
  | none => s.cancelSave purpose

theorem save_eq_saveNamed {path : Path} (h : s.path = some path) (purpose : Purpose) :
    s.save purpose = s.saveNamed (some path) purpose := by
  rw [save_of_some h, saveNamed, named_of_some h]

theorem saveAnswered_eq_saveNamed (h : s.path = none) (answer : Option Text)
    (purpose : Purpose) :
    s.saveAnswered answer purpose = s.saveNamed (answeredPath? answer) purpose := by
  cases answer with
  | none => rfl
  | some name =>
    rw [saveAnswered, answeredPath?]
    by_cases hname : Text.trim name = []
    · rw [saveUnder_of_blank hname, if_pos hname]
      rfl
    · rw [saveUnder_of_name hname, if_neg hname, saveNamed, named_of_none h]

/-- **A save with the inputs that it asks for.** It waits for a name as long as there is no path and
no answer, and otherwise goes on as the path or the answer says. -/
theorem after_save {finished : Dialogue → Bool} {purpose : Purpose}
    (hunfinished : ∀ typed size, finished ⟨s, .fileName typed purpose, size⟩ = false)
    (inputs : List Input) (size : Terminal.Size) :
    let out := (s.save purpose).perform store files
    let last := Dialogue.after store finished inputs (⟨out.value.1, out.value.2, size⟩, out.files)
    if s.path = none ∧ nameAnswer? [] inputs = none then
      ∃ typed size', last = (⟨s, .fileName typed purpose, size'⟩, files)
    else
      let out := (s.saveNamed (s.savePath? inputs) purpose).perform store files
      ∃ more size', last =
        Dialogue.after store finished more (⟨out.value.1, out.value.2, size'⟩, out.files) := by
  cases hpath : s.path with
  | some path =>
    rw [if_neg (by simp), save_eq_saveNamed hpath, savePath?_of_some hpath]
    exact ⟨inputs, size, rfl⟩
  | none =>
    rw [save_of_none hpath]
    cases hanswer : nameAnswer? [] inputs with
    | none =>
      rw [if_pos ⟨rfl, rfl⟩]
      exact after_fileName_of_none store files hunfinished hanswer size
    | some answer =>
      obtain ⟨answer, more⟩ := answer
      obtain ⟨size', hafter⟩ := after_fileName_of_some store files hunfinished hanswer size
      rw [saveAnswered_eq_saveNamed hpath] at hafter
      rw [if_neg (by simp), savePath?, hpath, hanswer]
      exact ⟨more, size', hafter⟩

end Session

end Scriptpad
