import Scriptpad.Effect

/-!
# The console

How events become the bytes of a terminal: each event that shows something is a text of characters
and control sequences, and all others are nothing. Lines end with a carriage return and a line
feed, so that they line up whatever the state of the terminal.

The console cannot play sounds; it makes a notice of each instead.
-/

namespace Scriptpad

/-- The end of a line on the console. -/
def lineBreak : Text :=
  ['\r', '\n']

/-- What is sent to the terminal to show something. -/
def Output.bytes : Output → Text
  | .text t => t
  | .line t => t ++ lineBreak
  | .clear => Terminal.clearSequence ++ Terminal.moveSequence 0 0
  | .color c => Terminal.colorSequence c
  | .beep => Terminal.bell
  | .sound _ => []

namespace Event

/-- What is sent to the terminal for an event. -/
def bytes : Event → Text
  | output o => o.bytes
  | terminal request => request.bytes
  | enterTerminal => Terminal.enterSequence
  | leaveTerminal => Terminal.leaveSequence
  | read _ | write .. | awaitInput _ | notice _ => []

/-- The notices that an event leaves in the log. -/
def notices : Event → List Notice
  | notice n => [n]
  | output (.sound resource) => [.soundUnsupported resource]
  | _ => []

end Event

/-- All that is sent to the terminal for events, in order. -/
def consoleBytes (events : List Event) : Text :=
  events.flatMap Event.bytes

/-- All notices of events, in order. -/
def consoleNotices (events : List Event) : List Notice :=
  events.flatMap Event.notices

end Scriptpad
