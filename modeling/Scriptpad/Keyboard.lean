import Scriptpad.Terminal

/-!
# The keyboard

Keys as the terminal reports them, what reaches a session as input, and the action that each key
has while a text is edited.

A change of the terminal's size reaches the session as a key of its own, the function key 63, which
no keyboard has. Of the other keys only those that edit or move have an action, and of the
characters only the printable ones of ASCII.

Main statements: `Key.action_char` and `Input.action_toKey_resize`.
-/

namespace Scriptpad

/-- A key without its modifiers. -/
inductive KeyCode where
  | char (c : Char)
  | function (n : Nat)
  | backspace
  | enter
  | left
  | right
  | up
  | down
  | home
  | endKey
  | pageUp
  | pageDown
  | tab
  | backTab
  | delete
  | insert
  | null
  | escape
  | capsLock
  | menu
  | pause
  /-- A key that has no name here, such as one of media or of a modifier alone, by the number under
  which terminals report it. -/
  | numbered (n : Nat)
  deriving Repr, DecidableEq

/-- The modifiers held down with a key. -/
structure Modifiers where
  control : Bool := false
  shift : Bool := false
  alt : Bool := false
  super : Bool := false
  hyper : Bool := false
  metaKey : Bool := false
  deriving Repr, DecidableEq

/-- A key with its modifiers. -/
structure Key where
  code : KeyCode
  modifiers : Modifiers := {}
  deriving Repr, DecidableEq

/-- The key by which a change of the terminal's size is reported. -/
def Key.resized : Key :=
  { code := .function 63 }

/-- What reaches a session: a key, or a new size of the terminal. -/
inductive Input where
  | key (k : Key)
  | resize (size : Terminal.Size)
  deriving Repr, DecidableEq

/-- The key that an input is read as. -/
def Input.toKey : Input → Key
  | .key k => k
  | .resize _ => .resized

/-- A movement of the cursor. -/
inductive Movement where
  | left
  | right
  | up
  | down
  | lineStart
  | lineEnd
  deriving Repr, DecidableEq

/-- What a key does while a text is edited. -/
inductive Action where
  | insert (c : Char)
  | move (d : Movement)
  | split
  | delete
  | save
  | run
  | quit
  | resize
  | ignore
  deriving Repr, DecidableEq

/-- The printable characters of ASCII. -/
def isTypeable (c : Char) : Bool :=
  ' '.toNat ≤ c.toNat && c.toNat ≤ '~'.toNat

/-- The action of a key together with the control key. -/
def KeyCode.controlAction : KeyCode → Action
  | .char 's' => .save
  | .char 'r' => .run
  | .char 'q' => .quit
  | _ => .ignore

/-- The action of a key without the control key. -/
def KeyCode.plainAction : KeyCode → Action
  | .up => .move .up
  | .down => .move .down
  | .left => .move .left
  | .right => .move .right
  | .home => .move .lineStart
  | .endKey => .move .lineEnd
  | .enter => .split
  | .backspace => .delete
  | .char c => if isTypeable c then .insert c else .ignore
  | _ => .ignore

/-- The action of a key. Of the modifiers only the control key counts. -/
def Key.action (k : Key) : Action :=
  if k = .resized then .resize
  else if k.modifiers.control then k.code.controlAction
  else k.code.plainAction

/-- A printable character types itself. -/
theorem Key.action_char {c : Char} (h : isTypeable c = true) :
    Key.action { code := .char c } = .insert c := by
  simp [Key.action, Key.resized, KeyCode.plainAction, h]

/-- A change of size is a resize action. -/
theorem Input.action_toKey_resize (size : Terminal.Size) :
    (Input.resize size).toKey.action = .resize := by
  simp [Input.toKey, Key.action]

end Scriptpad
