import DeviceChannels.Toml.Value

/-!
White space, comments, line ends and quoted texts in TOML. A reader gives nothing where the text
does not fit.
-/

namespace DeviceChannels.Toml

/-- Gives what it reads and the text after it. -/
abbrev Reader (α : Type) := List Char → Option (α × List Char)

def isSpace (c : Char) : Bool := c == ' ' || c == '\t'

def skipSpace (cs : List Char) : List Char := cs.dropWhile isSpace

/-- May stand in a comment and, quotes and backslash apart, in a text of one line. -/
def isPrintable (c : Char) : Bool := c == '\t' || (0x20 ≤ c.toNat && c.toNat != 0x7F)

def skipComment : List Char → List Char
  | '#' :: cs => cs.dropWhile isPrintable
  | cs => cs

def lineEnd? : List Char → Option (List Char)
  | '\n' :: cs => some cs
  | '\r' :: '\n' :: cs => some cs
  | _ => none

/-- White space, comments and line ends, as they may stand between the items of an array. -/
def skipLines : (bound : Nat) → List Char → Option (List Char)
  | 0, cs => some cs
  | bound + 1, cs =>
    let cs := skipSpace cs
    match lineEnd? cs with
    | some rest => skipLines bound rest
    | none =>
      match cs with
      | '#' :: rest => (lineEnd? (rest.dropWhile isPrintable)).bind (skipLines bound)
      | _ => some cs

def hexDigit? (c : Char) : Option Nat :=
  if c.isDigit then some (c.toNat - '0'.toNat)
  else if 'a' ≤ c ∧ c ≤ 'f' then some (c.toNat - 'a'.toNat + 10)
  else if 'A' ≤ c ∧ c ≤ 'F' then some (c.toNat - 'A'.toNat + 10)
  else none

/-- A character given by exactly `count` hexadecimal digits. -/
def hexChar (count : Nat) (cs : List Char) : Option (Char × List Char) := do
  let ds ← (cs.take count).mapM hexDigit?
  if ds.length < count then none
  else
    let n := ds.foldl (fun n d => n * 16 + d) 0
    if n < 0xD800 ∨ (0xDFFF < n ∧ n < 0x110000) then some (Char.ofNat n, cs.drop count)
    else none

def escaped : List Char → Option (Char × List Char)
  | 'b' :: cs => some ('\x08', cs)
  | 't' :: cs => some ('\t', cs)
  | 'n' :: cs => some ('\n', cs)
  | 'f' :: cs => some ('\x0c', cs)
  | 'r' :: cs => some ('\r', cs)
  | '"' :: cs => some ('"', cs)
  | '\\' :: cs => some ('\\', cs)
  | 'u' :: cs => hexChar 4 cs
  | 'U' :: cs => hexChar 8 cs
  | _ => none

/-- A text of one line up to its closing quote. Characters read so far are kept last first. -/
def lineText (quote : Char) (escapes : Bool) :
    (bound : Nat) → List Char → List Char → Option (String × List Char)
  | 0, _, _ => none
  | _, _, [] => none
  | bound + 1, acc, c :: cs =>
    if c = quote then some (String.ofList acc.reverse, cs)
    else if escapes ∧ c = '\\' then do
      let (d, rest) ← escaped cs
      lineText quote escapes bound (d :: acc) rest
    else if isPrintable c then lineText quote escapes bound (c :: acc) cs
    else none

def skipBlankLines : (bound : Nat) → List Char → List Char
  | 0, cs => cs
  | bound + 1, cs =>
    match lineEnd? (skipSpace cs) with
    | some rest => skipBlankLines bound rest
    | none => skipSpace cs

/-- A backslash at the end of a line swallows white space and line ends up to the next text. -/
def afterLineBackslash? (cs : List Char) : Option (List Char) :=
  (lineEnd? (skipSpace cs)).map fun rest => skipBlankLines rest.length rest

/-- A text of several lines up to its three closing quotes, before which two more may stand. -/
def longText (quote : Char) (escapes : Bool) :
    (bound : Nat) → List Char → List Char → Option (String × List Char)
  | 0, _, _ => none
  | _, _, [] => none
  | bound + 1, acc, c :: cs =>
    if c = quote then
      let run := 1 + (cs.takeWhile (· == quote)).length
      if run < 3 then longText quote escapes bound (c :: acc) cs
      else
        let kept := min (run - 3) 2
        some (String.ofList (List.replicate kept quote ++ acc).reverse, cs.drop (kept + 2))
    else if escapes ∧ c = '\\' then
      match escaped cs with
      | some (d, rest) => longText quote escapes bound (d :: acc) rest
      | none => do longText quote escapes bound acc (← afterLineBackslash? cs)
    else
      match lineEnd? (c :: cs) with
      | some rest => longText quote escapes bound ('\n' :: acc) rest
      | none => if isPrintable c then longText quote escapes bound (c :: acc) cs else none

def shortQuoted : List Char → Option (String × List Char)
  | '"' :: cs => lineText '"' true (cs.length + 1) [] cs
  | '\'' :: cs => lineText '\'' false (cs.length + 1) [] cs
  | _ => none

/-- A quoted text in any of its four forms. A line end right after three opening quotes is not
part of it. -/
def quoted : List Char → Option (String × List Char)
  | '"' :: '"' :: '"' :: cs => longText '"' true (cs.length + 1) [] ((lineEnd? cs).getD cs)
  | '\'' :: '\'' :: '\'' :: cs =>
    longText '\'' false (cs.length + 1) [] ((lineEnd? cs).getD cs)
  | cs => shortQuoted cs

end DeviceChannels.Toml
