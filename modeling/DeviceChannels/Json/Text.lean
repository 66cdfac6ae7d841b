import DeviceChannels.Json.Number

/-! Quoted texts in JSON. A character beyond the basic plane is written as two hexadecimal escapes,
both halves of which have to be there. -/

namespace DeviceChannels.Json

inductive TextScan
  | plain
  | escape
  /-- Within the four digits of an escape, `high` being the first half of a pair. -/
  | hex (high : Option Nat) (count value : Nat)
  /-- After a first half, before the backslash of the second. -/
  | pairBackslash (high : Nat)
  | pairLetter (high : Nat)

def simpleEscape : Char → Option Char
  | '"' => some '"'
  | '\\' => some '\\'
  | '/' => some '/'
  | 'b' => some '\x08'
  | 'f' => some '\x0c'
  | 'n' => some '\n'
  | 'r' => some '\r'
  | 't' => some '\t'
  | _ => none

def hexDigit? (c : Char) : Option Nat :=
  if c.isDigit then some (digitValue c)
  else if 'a' ≤ c ∧ c ≤ 'f' then some (c.toNat - 'a'.toNat + 10)
  else if 'A' ≤ c ∧ c ≤ 'F' then some (c.toNat - 'A'.toNat + 10)
  else none

def isHighHalf (n : Nat) : Bool := 0xD800 ≤ n && n ≤ 0xDBFF

def isLowHalf (n : Nat) : Bool := 0xDC00 ≤ n && n ≤ 0xDFFF

def joinHalves (high low : Nat) : Nat := 0x10000 + (high - 0xD800) * 0x400 + (low - 0xDC00)

/-- After `count` digits there comes none. Four bytes are asked for at once: with fewer left the text
has ended, whatever they are. -/
def badHexFault (count : Nat) (cs : List Char) : Fault :=
  if 4 ≤ count + byteCount cs then ⟨.badEscape, count + byteCount cs - 4⟩ else .atEnd .endInText

/-- The rest of a quoted text; the characters read so far are kept last first. -/
def textFrom : TextScan → List Char → List Char → Read String
  | _, _, [] => .error (.atEnd .endInText)
  | .plain, acc, c :: cs =>
    if c = '"' then .ok (String.ofList acc.reverse, cs)
    else if c = '\\' then textFrom .escape acc cs
    else if c.toNat < 0x20 then .error (.within .controlCharacter (c :: cs))
    else textFrom .plain (c :: acc) cs
  | .escape, acc, c :: cs =>
    if c = 'u' then textFrom (.hex none 0 0) acc cs
    else
      match simpleEscape c with
      | some d => textFrom .plain (d :: acc) cs
      | none => .error (.within .badEscape (c :: cs))
  | .hex high count value, acc, c :: cs =>
    match hexDigit? c with
    | none => .error (badHexFault count (c :: cs))
    | some d =>
      let value := value * 16 + d
      if count < 3 then textFrom (.hex high (count + 1) value) acc cs
      else
        match high with
        | some h =>
          if isLowHalf value then textFrom .plain (Char.ofNat (joinHalves h value) :: acc) cs
          else .error (.before .loneHalf cs)
        | none =>
          if isLowHalf value then .error (.before .loneHalf cs)
          else if isHighHalf value then textFrom (.pairBackslash value) acc cs
          else textFrom .plain (Char.ofNat value :: acc) cs
  | .pairBackslash high, acc, c :: cs =>
    if c = '\\' then textFrom (.pairLetter high) acc cs
    else .error (.within .secondHalfDue (c :: cs))
  | .pairLetter high, acc, c :: cs =>
    if c = 'u' then textFrom (.hex (some high) 0 0) acc cs
    else .error (.within .secondHalfDue (c :: cs))

def quotedText (cs : List Char) : Read String := textFrom .plain [] cs

end DeviceChannels.Json
