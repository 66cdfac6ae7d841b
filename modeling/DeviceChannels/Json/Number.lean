import DeviceChannels.Number.Rounding

/-!
JSON values, the ways a text can fail to be one, and numbers in JSON text. Of numbers only the
naturals below 2^64 are told apart. The size of a number is judged by its first digits, as many as
fit 64 bits, times a power of ten; one that rounds to infinity is refused.
-/

namespace DeviceChannels

inductive Json
  | null
  | bool (value : Bool)
  | natural (value : UInt64)
  /-- Any other number: negative, with a fraction or an exponent, or too large. -/
  | otherNumber
  | string (value : String)
  | array (items : List Json)
  | object (fields : List (String × Json))

namespace Json

/-- Why a text is no JSON value, or is not over after one. -/
inductive Reason
  | endInList
  | endInObject
  | endInText
  | endInValue
  | colonDue
  | listCommaDue
  | objectCommaDue
  | wordDue
  | valueDue
  | keyDue
  | badEscape
  | badNumber
  | numberTooLarge
  | controlCharacter
  /-- A half of a pair where there is none to join it with. -/
  | loneHalf
  | secondHalfDue
  | commaBeforeEnd
  | textAfterEnd
  | tooDeep
  deriving DecidableEq, Repr

def Reason.message : Reason → String
  | .endInList => "EOF while parsing a list"
  | .endInObject => "EOF while parsing an object"
  | .endInText => "EOF while parsing a string"
  | .endInValue => "EOF while parsing a value"
  | .colonDue => "expected `:`"
  | .listCommaDue => "expected `,` or `]`"
  | .objectCommaDue => "expected `,` or `\x7d`"
  | .wordDue => "expected ident"
  | .valueDue => "expected value"
  | .keyDue => "key must be a string"
  | .badEscape => "invalid escape"
  | .badNumber => "invalid number"
  | .numberTooLarge => "number out of range"
  | .controlCharacter => "control character (\\u0000-\\u001F) found while parsing a string"
  | .loneHalf => "lone leading surrogate in hex escape"
  | .secondHalfDue => "unexpected end of hex escape"
  | .commaBeforeEnd => "trailing comma"
  | .textAfterEnd => "trailing characters"
  | .tooDeep => "recursion limit exceeded"

/-- The text stops within a value; with more to come it might have been one. -/
def Reason.isEnd : Reason → Bool
  | .endInList | .endInObject | .endInText | .endInValue => true
  | _ => false

/-- A reason with the place where the reader stopped, told by the bytes that come after it. -/
structure Fault where
  reason : Reason
  unread : Nat
  deriving DecidableEq, Repr

def byteCount : List Char → Nat
  | [] => 0
  | c :: cs => c.utf8Size + byteCount cs

def Fault.before (reason : Reason) (rest : List Char) : Fault := ⟨reason, byteCount rest⟩

/-- The first byte of what is left is at fault and counts as read. -/
def Fault.within (reason : Reason) (rest : List Char) : Fault := ⟨reason, byteCount rest - 1⟩

def Fault.atEnd (reason : Reason) : Fault := ⟨reason, 0⟩

/-- A value read and the text after it. -/
abbrev Read (α : Type) := Except Fault (α × List Char)

def digitValue (c : Char) : Nat := c.toNat - '0'.toNat

def digits (cs : List Char) : Read (List Char) :=
  match cs.span Char.isDigit with
  | ([], []) => .error (.atEnd .endInValue)
  | ([], rest) => .error (.within .badNumber rest)
  | (ds, rest) => .ok (ds, rest)

/-- Digits taken into a number while it stays below `limit`, and how many were left out. -/
def absorb (limit number : Nat) : List Char → Nat × Nat
  | [] => (number, 0)
  | d :: ds =>
    let next := number * 10 + digitValue d
    if next < limit then absorb limit next ds else (number, ds.length + 1)

/-- `significand · 10 ^ exponent` rounds to infinity, each factor first rounded itself. -/
def overflows (significand : Nat) (exponent : Int) : Bool :=
  if significand = 0 ∨ exponent < 0 then false
  else if 308 < exponent then true
  else overflowBound ≤ roundTo53Bits significand * roundTo53Bits (Nat.pow 10 exponent.toNat)

def integerPart (cs : List Char) : Read (List Char) :=
  match cs with
  | '0' :: rest =>
    match rest with
    | c :: _ => if c.isDigit then .error (.within .badNumber rest) else .ok (['0'], rest)
    | [] => .ok (['0'], [])
  | _ => digits cs

def fractionPart : List Char → Read (List Char)
  | '.' :: rest => digits rest
  | cs => .ok ([], cs)

structure Exponent where
  value : Int
  /-- Digits after the one that takes the exponent out of 32 bits, where reading may stop. -/
  surplus : Nat

def exponentPart : List Char → Read (Option Exponent)
  | c :: rest =>
    if c = 'e' ∨ c = 'E' then
      let (negative, rest) :=
        match rest with
        | '+' :: r => (false, r)
        | '-' :: r => (true, r)
        | r => (false, r)
      match digits rest with
      | .error fault => .error fault
      | .ok (ds, rest) =>
        let n : Nat := ds.foldl (fun n d => n * 10 + digitValue d) 0
        let surplus := (absorb (Nat.pow 2 31) 0 ds).2 - 1
        .ok (some ⟨if negative then -n else n, surplus⟩, rest)
    else .ok (none, c :: rest)
  | [] => .ok (none, [])

def number (cs : List Char) : Read Json :=
  let (negative, cs) :=
    match cs with
    | '-' :: r => (true, r)
    | r => (false, r)
  match integerPart cs with
  | .error fault => .error fault
  | .ok (whole, rest) =>
    match fractionPart rest with
    | .error fault => .error fault
    | .ok (fraction, rest) =>
      match exponentPart rest with
      | .error fault => .error fault
      | .ok (exponent, rest) =>
        let (significand, dropped) := absorb UInt64.size 0 whole
        let (significand, left) := absorb UInt64.size significand fraction
        let used := fraction.length - left
        let power := exponent.getD ⟨0, 0⟩
        let scale : Int := power.value + dropped - used
        if overflows significand scale then
          .error ⟨.numberTooLarge, byteCount rest + power.surplus⟩
        else if fraction = [] ∧ exponent.isNone ∧ dropped = 0 ∧ negative = false then
          .ok (.natural (UInt64.ofNat significand), rest)
        else .ok (.otherNumber, rest)

end Json

end DeviceChannels
