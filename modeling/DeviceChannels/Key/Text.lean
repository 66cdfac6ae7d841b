import DeviceChannels.Key.Basic
import DeviceChannels.Text.Characters

/-!
Texts of keys, as they are shown and as they stand in a configuration. A key is a character, the
name of a key in any case, a function key from `F1` to `F12`, or a character after `Ctrl+`.
-/

namespace DeviceChannels

/-- Lower case, as far as it gives an ASCII letter: of the other letters only the Kelvin sign has
one. -/
def lowerLetter (c : Char) : Char := if c.toNat == 0x212A then 'k' else c.toLower

/-- Digits, after a plus sign or none, of a number below 256. -/
def smallNumber? (cs : List Char) : Option Nat :=
  let ds := match cs with
    | '+' :: ds => ds
    | ds => ds
  if ds.isEmpty || !ds.all Char.isDigit then none
  else
    let n := ds.foldl (fun n d => n * 10 + (d.toNat - '0'.toNat)) 0
    if n < 256 then some n else none

def KeyCode.named? (name : String) : Option KeyCode :=
  if name = "enter" ∨ name = "return" then some .enter
  else if name = "esc" ∨ name = "escape" then some .esc
  else if name = "tab" then some .tab
  else if name = "up" then some .up
  else if name = "down" then some .down
  else if name = "delete" ∨ name = "del" then some .delete
  else if name = "backspace" then some .backspace
  else if name = "home" then some .home
  else if name = "end" then some .endKey
  else if name = "space" then some (.char ' ')
  else none

def onlyChar? : List Char → Option Char
  | [c] => some c
  | _ => none

/-- The number of a function key, if the text is a function key of any number below 256. -/
def functionNumber? : List Char → Option Nat
  | c :: cs => if c = 'F' ∨ c = 'f' then smallNumber? cs else none
  | [] => none

def ctrlPrefix : List Char := ['C', 't', 'r', 'l', '+']

namespace Key

/-- The key that a text without outer white space stands for. -/
def ofTrimmed? (cs : List Char) : Option Key :=
  if ctrlPrefix.isPrefixOf cs then
    (onlyChar? (Text.trim (cs.drop ctrlPrefix.length))).map Key.ctrl
  else
    match KeyCode.named? (String.ofList (cs.map lowerLetter)) with
    | some code => some { code }
    | none =>
      match functionNumber? cs with
      | some n => if 1 ≤ n ∧ n ≤ 12 then some { code := .function n } else none
      | none => (onlyChar? cs).map fun c => { code := .char c }

def ofText? (text : String) : Option Key := ofTrimmed? (Text.trim text.toList)

def codeText : KeyCode → String
  | .char c => if c = ' ' then "Space" else c.toString
  | .enter => "Enter"
  | .esc => "Esc"
  | .tab => "Tab"
  | .up => "Up"
  | .down => "Down"
  | .delete => "Delete"
  | .backspace => "Backspace"
  | .home => "Home"
  | .endKey => "End"
  | .function n => "F" ++ toString n
  | _ => "?"

def text (key : Key) : String :=
  (if key.modifiers.ctrl then "Ctrl+" else "") ++ codeText key.code

end Key

end DeviceChannels
