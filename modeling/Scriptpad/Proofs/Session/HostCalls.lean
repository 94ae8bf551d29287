import Scriptpad.Proofs.Session.Naming

/-!
# What a session asks of its host

Most events of a session go to its terminal: it paints, asks and waits. What goes to the host are
the reads and writes of files and what a script shows. `hostCalls` takes these out of the events of
any part of a session, in their order.

Painting and waiting are no host calls, so a conversation calls the host only where an input makes
it do something. It does not while a name is typed (`converse_fileName_of_some`), and neither while
a key is waited for after a script (`converse_anyKey`).
-/

namespace Scriptpad

/-- An event is a call to the host: something that a script shows, or a file that is read or
written. -/
def Event.isHostCall : Event → Bool
  | .output _ | .read _ | .write .. => true
  | _ => false

/-- The calls to the host among events, in their order. -/
def hostCalls (events : List Event) : List Event :=
  events.filter Event.isHostCall

@[simp] theorem hostCalls_nil : hostCalls [] = [] := rfl

@[simp] theorem hostCalls_append (events more : List Event) :
    hostCalls (events ++ more) = hostCalls events ++ hostCalls more :=
  List.filter_append ..

namespace Dialogue

/-- Painting and waiting are no calls to the host. -/
@[simp] theorem hostCalls_turnEvents (d : Dialogue) (input : Option Input) :
    hostCalls (d.turnEvents input) = [] := by
  refine List.filter_eq_nil_iff.2 fun event hevent ↦ ?_
  rcases mem_turnEvents hevent with ⟨request, rfl⟩ | rfl
  · exact Bool.false_ne_true
  · exact Bool.false_ne_true

end Dialogue

namespace Session

open Dialogue

variable {s : Session} {σ : Type} (store : Store σ) (files : σ)

/-! ### Questions for a name -/

theorem hostCalls_askings (s : Session) (typed : Text) (inputs : List Input) :
    hostCalls (s.askings typed inputs) = [] := by
  induction inputs generalizing typed with
  | nil => rfl
  | cons input inputs ih =>
    rw [askings_cons, hostCalls_append, ih]
    rfl

/-- A name that is never answered with is typed without a call to the host. -/
theorem converse_fileName_of_none {finished : Dialogue → Bool} {purpose : Purpose}
    (hunfinished : ∀ typed size, finished ⟨s, .fileName typed purpose, size⟩ = false)
    {inputs : List Input} {typed : Text} (h : nameAnswer? typed inputs = none)
    (size : Terminal.Size) :
    ∃ last shown, hostCalls shown = [] ∧
      converse store finished inputs ⟨s, .fileName typed purpose, size⟩ files =
        ⟨last, files, shown, [], .error .inputExhausted⟩ := by
  obtain ⟨size', htalk⟩ :=
    converse_of_asked store files hunfinished (nameAnswer?_eq_none_iff.1 h) typed size
  refine ⟨_, _, ?_, htalk⟩
  rw [hostCalls_append, hostCalls_askings]
  rfl

/-- **An answer is typed without a call to the host**, and the conversation goes on from the save
that is made with it. -/
theorem converse_fileName_of_some {finished : Dialogue → Bool} {purpose : Purpose}
    (hunfinished : ∀ typed size, finished ⟨s, .fileName typed purpose, size⟩ = false)
    {inputs more : List Input} {typed : Text} {answer : Option Text}
    (h : nameAnswer? typed inputs = some (answer, more)) (size : Terminal.Size) :
    ∃ size' shown, hostCalls shown = [] ∧
      converse store finished inputs ⟨s, .fileName typed purpose, size⟩ files =
        let out := (s.saveAnswered answer purpose).perform store files
        let rest := converse store finished more ⟨out.value.1, out.value.2, size'⟩ out.files
        { rest with events := shown ++ out.events ++ rest.events } := by
  obtain ⟨asked, last, rfl, hasked, hlast, rfl⟩ := nameAnswer?_eq_some_iff.1 h
  obtain ⟨size', htalk⟩ :=
    converse_of_answered store files hunfinished hasked hlast more typed size
  refine ⟨size', _, ?_, htalk⟩
  rw [hostCalls_append, hostCalls_askings]
  rfl

/-! ### The wait for a key -/

/-- **Waiting for a key after a script calls the host no more**, and leaves the files. -/
theorem converse_anyKey (size : Terminal.Size) (inputs : List Input) :
    let talk := converse store isAtRest inputs ⟨s, .anyKey, size⟩ files
    hostCalls talk.events = [] ∧ talk.files = files := by
  have hwaiting : isAtRest ⟨s, .anyKey, size⟩ = false := rfl
  cases inputs with
  | nil => exact ⟨rfl, rfl⟩
  | cons input inputs =>
    intro talk
    have hrest (d : Dialogue) (h : isAtRest d = true) (files : σ) :
        converse store isAtRest inputs d files = ⟨d, files, [], inputs, .ok ()⟩ :=
      converse_of_finished store h inputs files
    simp only [talk, converse_cons hwaiting]
    rw [hrest _ rfl]
    exact ⟨rfl, rfl⟩

end Session

end Scriptpad
