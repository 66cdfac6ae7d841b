/-! Keys of a terminal: a key with the modifiers held down. -/

namespace DeviceChannels

inductive MediaKey
  | play
  | pause
  | playPause
  | reverse
  | stop
  | fastForward
  | rewind
  | trackNext
  | trackPrevious
  | record
  | lowerVolume
  | raiseVolume
  | muteVolume
  deriving DecidableEq, Repr

inductive Side
  | left
  | right
  deriving DecidableEq, Repr

/-- A modifier pressed as a key of its own. -/
inductive ModifierKey
  | shift (side : Side)
  | control (side : Side)
  | alt (side : Side)
  | super (side : Side)
  | hyper (side : Side)
  | metaKey (side : Side)
  | isoLevel3Shift
  | isoLevel5Shift
  deriving DecidableEq, Repr

inductive KeyCode
  | char (c : Char)
  | function (number : Nat)
  | enter
  | esc
  | tab
  | backTab
  | up
  | down
  | left
  | right
  | delete
  | insert
  | backspace
  | home
  | endKey
  | pageUp
  | pageDown
  | null
  | capsLock
  | scrollLock
  | numLock
  | printScreen
  | pause
  | menu
  | keypadBegin
  | media (key : MediaKey)
  | modifier (key : ModifierKey)
  deriving DecidableEq, Repr

structure Modifiers where
  ctrl : Bool := false
  shift : Bool := false
  alt : Bool := false
  super : Bool := false
  hyper : Bool := false
  metaKey : Bool := false
  deriving DecidableEq, Repr

structure Key where
  code : KeyCode
  modifiers : Modifiers := {}
  deriving DecidableEq, Repr

def Key.ctrl (c : Char) : Key := { code := .char c, modifiers := { ctrl := true } }

/-- Terminals report a capital letter together with the shift key; the letter says it already. -/
def Key.normalized (key : Key) : Key :=
  match key.code with
  | .char c =>
    if c.isUpper then { key with modifiers := { key.modifiers with shift := false } } else key
  | _ => key

end DeviceChannels
