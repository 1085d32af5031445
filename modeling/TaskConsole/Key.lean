/-!
# Keys

A `KeyPress` is what the terminal tells about a key, and a `KeyAction` is what the key
asks for.  `KeyPress.action` says which key asks for what; releases, repeats and keys
without a meaning are ignored.
-/

namespace TaskConsole

/-- A key of the keyboard, or the character that it types. -/
inductive KeyCode where
  | enter | escape | tab | backTab | pageUp | pageDown | up | down | left | right
  | home | toEnd | backspace | delete | insert | null | capsLock
  | function (number : Nat)
  | char (c : Char)
  /-- A key that types nothing, by its code: a lock, a modifier or a key for media. -/
  | silent (code : Nat)
deriving DecidableEq, Inhabited

/-- What happened to a key. -/
inductive KeyMotion where
  | press | release | repeated
deriving DecidableEq, Inhabited

/-- A key with what happened to it, and whether the control key was held. -/
structure KeyPress where
  code : KeyCode
  control : Bool := false
  motion : KeyMotion := .press
deriving DecidableEq, Inhabited

/-- What a key asks for. -/
inductive KeyAction where
  | clearOrQuit | submit | escape | nextAgent | help | pageUp | pageDown | moveUp | moveDown
  | home | toEnd | cursorLeft | cursorRight | backspace | delete
  | insert (c : Char)
  | ignored
deriving DecidableEq, Inhabited

/-- What a key asks for while the control key is held. -/
def KeyCode.controlAction : KeyCode → KeyAction
  | .char 'c' => .clearOrQuit
  | .char 'u' => .pageUp
  | .char 'd' => .pageDown
  | _ => .ignored

/-- What a key asks for on its own. -/
def KeyCode.action : KeyCode → KeyAction
  | .enter => .submit
  | .escape => .escape
  | .tab => .nextAgent
  | .function 1 => .help
  | .pageUp => .pageUp
  | .pageDown => .pageDown
  | .up => .moveUp
  | .down => .moveDown
  | .home => .home
  | .toEnd => .toEnd
  | .left => .cursorLeft
  | .right => .cursorRight
  | .backspace => .backspace
  | .delete => .delete
  | .char c => .insert c
  | .function _ => .ignored
  | .backTab => .ignored
  | .insert => .ignored
  | .null => .ignored
  | .capsLock => .ignored
  | .silent _ => .ignored

/-- What a key press asks for. -/
def KeyPress.action (k : KeyPress) : KeyAction :=
  if k.motion != .press then .ignored
  else if k.control then k.code.controlAction
  else k.code.action

end TaskConsole
