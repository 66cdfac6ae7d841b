/-!
Texts from a catalog made safe for one line of a screen. Escape sequences and control characters
are dropped; tabs and line breaks become single spaces.
-/

namespace DeviceChannels.Text

def isControl (c : Char) : Bool := c.toNat < 0x20 || (0x7F ≤ c.toNat && c.toNat ≤ 0x9F)

def escapeChar : Char := '\x1b'

def isLineSpace (c : Char) : Bool := c == '\t' || c == '\n' || c == '\r'

/-- Ends a sequence that began with an escape and an opening bracket. -/
def isFinalByte (c : Char) : Bool := '@' ≤ c && c ≤ '~'

inductive LabelScan
  | text
  /-- Right after an escape. -/
  | escape
  /-- Within a control sequence, before its final character. -/
  | sequence
  /-- Within an operating system command. -/
  | command
  /-- Within an operating system command, right after an escape. -/
  | commandEscape
  deriving DecidableEq, Repr

/-- The character is read as text. An escape announces a sequence only before one of two
brackets. -/
def LabelScan.readsText : LabelScan → Char → Bool
  | .text, _ => true
  | .escape, c => c != '[' && c != ']'
  | _, _ => false

def LabelScan.next (scan : LabelScan) (c : Char) : LabelScan :=
  if scan.readsText c then (if c = escapeChar then .escape else .text)
  else
    match scan with
    | .sequence => if isFinalByte c then .text else .sequence
    | .escape => if c = '[' then .sequence else .command
    | _ =>
      if c = '\x07' || (scan = .commandEscape && c = '\\') then .text
      else if c = escapeChar then .commandEscape
      else .command

/-- What one character of text adds to a label that ends in a space or not. -/
def labelPiece (endsInSpace : Bool) (c : Char) : List Char :=
  if isLineSpace c then (if endsInSpace then [] else [' '])
  else if isControl c then []
  else [c]

def endsInSpaceAfter (endsInSpace : Bool) (piece : List Char) : Bool :=
  match piece.getLast? with
  | none => endsInSpace
  | some c => c == ' '

/-- The rest of a label, read from `cs`. -/
def labelFrom (scan : LabelScan) (endsInSpace : Bool) : List Char → List Char
  | [] => []
  | c :: cs =>
    let piece := if scan.readsText c then labelPiece endsInSpace c else []
    piece ++ labelFrom (scan.next c) (endsInSpaceAfter endsInSpace piece) cs

def isClean (s : String) : Bool := !s.any isControl

def sanitizeChars (cs : List Char) : List Char := labelFrom .text false cs

def sanitize (s : String) : String :=
  if isClean s then s else String.ofList (sanitizeChars s.toList)

end DeviceChannels.Text
