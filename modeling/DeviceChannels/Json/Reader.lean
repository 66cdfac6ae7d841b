import DeviceChannels.Json.Text

/-!
Reading of JSON text. Arrays and objects may be nested up to a limit; the reader of what is inside
one is handed down, so the nesting still allowed bounds the reading.
-/

namespace DeviceChannels.Json

def isSpace (c : Char) : Bool := c == ' ' || c == '\t' || c == '\n' || c == '\r'

def skipSpace (cs : List Char) : List Char := cs.dropWhile isSpace

/-- The letters of a word, one by one. -/
def word (value : Json) : List Char → List Char → Read Json
  | [], cs => .ok (value, cs)
  | _ :: _, [] => .error (.atEnd .endInValue)
  | w :: ws, c :: cs => if w = c then word value ws cs else .error (.within .wordDue (c :: cs))

/-- What items stand in: the brackets of an array or the braces of an object. -/
inductive Enclosure
  | brackets
  | braces

namespace Enclosure

def close : Enclosure → Char
  | .brackets => ']'
  | .braces => '}'

def endInside : Enclosure → Reason
  | .brackets => .endInList
  | .braces => .endInObject

def commaDue : Enclosure → Reason
  | .brackets => .listCommaDue
  | .braces => .objectCommaDue

end Enclosure

/-- Items up to the closing character, the first of which is due; no more than `bound` of them. -/
def sequence (e : Enclosure) (item : List Char → Read α) :
    (bound : Nat) → List α → List Char → Read (List α)
  | 0, _, cs => .error (.within .valueDue cs)
  | bound + 1, acc, cs =>
    match item cs with
    | .error fault => .error fault
    | .ok (value, rest) =>
      match skipSpace rest with
      | [] => .error (.atEnd e.endInside)
      | c :: rest =>
        if c = e.close then .ok ((value :: acc).reverse, rest)
        else if c = ',' then
          match skipSpace rest with
          | [] => .error (.atEnd .endInValue)
          | d :: ds =>
            if d = e.close then .error (.within .commaBeforeEnd (d :: ds))
            else sequence e item bound (value :: acc) (d :: ds)
        else .error (.within e.commaDue (c :: rest))

/-- What stands after an opening character, up to the closing one. -/
def enclosed (e : Enclosure) (item : List Char → Read α) (cs : List Char) : Read (List α) :=
  match skipSpace cs with
  | [] => .error (.atEnd e.endInside)
  | c :: rest =>
    if c = e.close then .ok ([], rest) else sequence e item (rest.length + 1) [] (c :: rest)

def field (item : List Char → Read Json) (cs : List Char) : Read (String × Json) :=
  match skipSpace cs with
  | [] => .error (.atEnd .endInObject)
  | '"' :: rest =>
    match quotedText rest with
    | .error fault => .error fault
    | .ok (key, rest) =>
      match skipSpace rest with
      | [] => .error (.atEnd .endInObject)
      | ':' :: rest =>
        match item rest with
        | .error fault => .error fault
        | .ok (value, rest) => .ok ((key, value), rest)
      | rest => .error (.within .colonDue rest)
  | rest => .error (.within .keyDue rest)

/-- A value, given the reader of what is nested in it, if nesting is still allowed. -/
def valueWith (item : Option (List Char → Read Json)) (cs : List Char) : Read Json :=
  match skipSpace cs with
  | [] => .error (.atEnd .endInValue)
  | '"' :: rest =>
    match quotedText rest with
    | .error fault => .error fault
    | .ok (text, rest) => .ok (.string text, rest)
  | '[' :: rest =>
    match item with
    | none => .error (.within .tooDeep ('[' :: rest))
    | some item =>
      match enclosed .brackets item rest with
      | .error fault => .error fault
      | .ok (items, rest) => .ok (.array items, rest)
  | '{' :: rest =>
    match item with
    | none => .error (.within .tooDeep ('{' :: rest))
    | some item =>
      match enclosed .braces (field item) rest with
      | .error fault => .error fault
      | .ok (fields, rest) => .ok (.object fields, rest)
  | 'n' :: rest => word .null ['u', 'l', 'l'] rest
  | 't' :: rest => word (.bool true) ['r', 'u', 'e'] rest
  | 'f' :: rest => word (.bool false) ['a', 'l', 's', 'e'] rest
  | c :: rest =>
    if c = '-' ∨ c.isDigit then number (c :: rest) else .error (.within .valueDue (c :: rest))

/-- A value with at most `depth` arrays and objects within one another. -/
def value : (depth : Nat) → List Char → Read Json
  | 0 => valueWith none
  | depth + 1 => valueWith (some (value depth))

def maxDepth : Nat := 127

/-- The line of a fault, and the bytes of the line up to it. -/
def Fault.place (text : String) (fault : Fault) : Nat × Nat :=
  let bytes := text.toUTF8.data.toList
  let read := bytes.take (bytes.length - fault.unread)
  (read.count 10 + 1, (read.reverse.takeWhile (· != 10)).length)

end DeviceChannels.Json
