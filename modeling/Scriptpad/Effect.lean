import Scriptpad.Keyboard
import Scriptpad.Notice

/-!
# Effects

Whatever the library does to the world around it is an *event*: something shown by a script,
something asked of the terminal, a file read or written, a key waited for, a notice. Events are
data, and computing never depends on them, with one exception: what a store answers to a read or a
write.

An `Effect` is a computation that leaves those answers open. It is a finite tree that emits events
and branches over the answers of a store, and `Effect.perform` runs it against any `Store`, giving
the value, the store's new state and all events in order. So one definition of, say, saving serves
files in memory and files on a disk, and a property of the tree holds for every store.

Main statements: `perform_bind` (running one effect after another) and the monad laws.
-/

namespace Scriptpad

/-- Something that a script or a session shows through the script display. -/
inductive Output where
  | text (t : Text)
  | line (t : Text)
  | clear
  | color (c : Color)
  | beep
  | sound (resource : Text)
  deriving Repr, DecidableEq

/-- Something done to the surrounding world. -/
inductive Event where
  | output (o : Output)
  | read (path : Path)
  | write (path : Path) (lines : List Text)
  | enterTerminal
  | leaveTerminal
  | terminal (request : Terminal.Request)
  | awaitInput (input : Option Input)
  | notice (n : Notice)
  deriving Repr, DecidableEq

/-- A computation that emits events and waits for the answers of a store. -/
inductive Effect (α : Type) where
  | done (a : α)
  | emit (event : Event) (rest : Effect α)
  | read (path : Path) (next : Except Failure (List Text) → Effect α)
  | write (path : Path) (lines : List Text) (next : Except Failure Unit → Effect α)

namespace Effect

variable {α β γ σ : Type}

/-- The effect followed by one that depends on its value. -/
def bind : Effect α → (α → Effect β) → Effect β
  | done a, f => f a
  | emit event rest, f => emit event (rest.bind f)
  | read path next, f => read path fun answer ↦ (next answer).bind f
  | write path lines next, f => write path lines fun answer ↦ (next answer).bind f

instance : Monad Effect where
  pure := done
  bind := bind

/-- Emit one event. -/
def event (e : Event) : Effect Unit :=
  emit e (done ())

/-- Emit events in order. -/
def events : List Event → Effect Unit
  | [] => done ()
  | e :: rest => emit e (events rest)

/-- Report something to the log. -/
def notice (n : Notice) : Effect Unit :=
  event (.notice n)

/-- Show something on the script display. -/
def output (o : Output) : Effect Unit :=
  event (.output o)

/-- Ask the terminal for something. -/
def terminal (request : Terminal.Request) : Effect Unit :=
  event (.terminal request)

/-- Read the lines of a file. -/
def readLines (path : Path) : Effect (Except Failure (List Text)) :=
  read path done

/-- Write the lines of a file. -/
def writeLines (path : Path) (lines : List Text) : Effect (Except Failure Unit) :=
  write path lines done

/-! ### Running -/

/-- What running an effect leaves: its value, the state of the store, and the events in order. -/
structure Outcome (σ α : Type) where
  value : α
  files : σ
  events : List Event
  deriving Repr, DecidableEq

/-- Runs an effect against a store. Reads and writes are events too, before they are answered. -/
def perform (store : Store σ) : Effect α → σ → Outcome σ α
  | done a, files => ⟨a, files, []⟩
  | emit e rest, files =>
    let out := rest.perform store files
    { out with events := e :: out.events }
  | read path next, files =>
    let (answer, files) := store.read path files
    let out := (next answer).perform store files
    { out with events := .read path :: out.events }
  | write path lines next, files =>
    let (answer, files) := store.write path lines files
    let out := (next answer).perform store files
    { out with events := .write path lines :: out.events }

/-! ### Laws -/

theorem bind_done (x : Effect α) : x.bind done = x := by
  induction x with
  | done a => rfl
  | emit e rest ih => simp [bind, ih]
  | read path next ih => simp [bind, ih]
  | write path lines next ih => simp [bind, ih]

theorem bind_assoc (x : Effect α) (f : α → Effect β) (g : β → Effect γ) :
    (x.bind f).bind g = x.bind fun a ↦ (f a).bind g := by
  induction x with
  | done a => rfl
  | emit e rest ih => simp [bind, ih]
  | read path next ih => simp [bind, ih]
  | write path lines next ih => simp [bind, ih]

instance : LawfulMonad Effect :=
  LawfulMonad.mk' Effect bind_done (fun _ _ ↦ rfl) bind_assoc

/-- Running one effect after another runs the second from the files the first leaves, and joins
their events. -/
theorem perform_bind (store : Store σ) (x : Effect α) (f : α → Effect β) (files : σ) :
    (x.bind f).perform store files =
      let first := x.perform store files
      let second := (f first.value).perform store first.files
      ⟨second.value, second.files, first.events ++ second.events⟩ := by
  induction x generalizing files with
  | done a => rfl
  | emit e rest ih => simp [bind, perform, ih]
  | read path next ih => simp [bind, perform, ih]
  | write path lines next ih => simp [bind, perform, ih]

@[simp] theorem pure_eq (a : α) : (pure a : Effect α) = done a := rfl

@[simp] theorem bind_eq (x : Effect α) (f : α → Effect β) : x >>= f = x.bind f := rfl

@[simp] theorem perform_done (store : Store σ) (a : α) (files : σ) :
    (done a).perform store files = ⟨a, files, []⟩ := rfl

@[simp] theorem perform_event (store : Store σ) (e : Event) (files : σ) :
    (event e).perform store files = ⟨(), files, [e]⟩ := rfl

@[simp] theorem perform_readLines (store : Store σ) (path : Path) (files : σ) :
    (readLines path).perform store files =
      ⟨(store.read path files).1, (store.read path files).2, [.read path]⟩ := rfl

@[simp] theorem perform_writeLines (store : Store σ) (path : Path) (lines : List Text)
    (files : σ) :
    (writeLines path lines).perform store files =
      ⟨(store.write path lines files).1, (store.write path lines files).2, [.write path lines]⟩ :=
  rfl

@[simp] theorem perform_events (store : Store σ) (es : List Event) (files : σ) :
    (events es).perform store files = ⟨(), files, es⟩ := by
  induction es with
  | nil => rfl
  | cons e rest ih => simp [events, perform, ih]

end Effect

end Scriptpad
