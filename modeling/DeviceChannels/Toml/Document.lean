import DeviceChannels.Toml.Moment

/-!
TOML documents. Values are read with the nesting still allowed as a bound; a document is read line
by line into one table.
-/

namespace DeviceChannels.Toml

def isBareKeyChar (c : Char) : Bool := c.isAlphanum || c == '_' || c == '-'

def keyPart (cs : List Char) : Option (String × List Char) :=
  match shortQuoted cs with
  | some r => some r
  | none =>
    match cs.span isBareKeyChar with
    | ([], _) => none
    | (name, rest) => some (String.ofList name, rest)

def keyParts : (bound : Nat) → List String → List Char → Option (List String × List Char)
  | 0, _, _ => none
  | bound + 1, acc, cs => do
    let (part, rest) ← keyPart (skipSpace cs)
    match skipSpace rest with
    | '.' :: rest => keyParts bound (part :: acc) rest
    | rest => some ((part :: acc).reverse, rest)

def depthLimit : Nat := 80

/-- A key, dotted or not: all parts but the last, and the last. White space around it is read
with it. -/
def key (cs : List Char) : Option ((List String × String) × List Char) := do
  let (parts, rest) ← keyParts (cs.length + 1) [] cs
  if depthLimit ≤ parts.length then none
  else
    let last ← parts.getLast?
    some ((parts.dropLast, last), rest)

def keyValue (value : Reader Value) (cs : List Char) :
    Option (((List String × String) × Value) × List Char) := do
  let (k, rest) ← key cs
  let rest ← exactly '=' rest
  let (v, rest) ← value (skipSpace rest)
  some ((k, v), skipSpace rest)

/-- Items of an array up to its closing bracket; the last one may have a comma after it. -/
def arrayItems (value : Reader Value) :
    (bound : Nat) → List Value → List Char → Option (Value × List Char)
  | 0, _, _ => none
  | bound + 1, acc, cs => do
    let cs ← skipLines cs.length cs
    match cs with
    | ']' :: rest => some (.array acc.reverse, rest)
    | _ =>
      let (v, rest) ← value cs
      let rest ← skipLines rest.length rest
      match rest with
      | ',' :: rest => arrayItems value bound (v :: acc) rest
      | ']' :: rest => some (.array (v :: acc).reverse, rest)
      | _ => none

/-- Entries of an inline table, the first of which is due. -/
def inlineEntries (value : Reader Value) :
    (bound : Nat) → Entries → List Char → Option (Value × List Char)
  | 0, _, _ => none
  | bound + 1, acc, cs => do
    let ((k, v), rest) ← keyValue value cs
    let acc ← acc.addDotted k.1 k.2 v
    match rest with
    | ',' :: rest => inlineEntries value bound acc rest
    | '}' :: rest => some (.table .inlined acc, rest)
    | _ => none

def inlineTable (value : Reader Value) (cs : List Char) : Option (Value × List Char) :=
  match skipSpace cs with
  | '}' :: rest => some (.table .inlined [], rest)
  | rest => inlineEntries value rest.length [] rest

def scalar : List Char → Option (Value × List Char)
  | 't' :: 'r' :: 'u' :: 'e' :: rest => some (.boolean true, rest)
  | 'f' :: 'a' :: 'l' :: 's' :: 'e' :: rest => some (.boolean false, rest)
  | cs => ((moment cs).or (real cs)).or (integer cs)

/-- A value, given the reader of what is nested in it, if nesting is still allowed. -/
def valueWith (inner : Option (Reader Value)) (cs : List Char) : Option (Value × List Char) :=
  match cs with
  | '[' :: rest => inner.bind fun value => arrayItems value (rest.length + 1) [] rest
  | '{' :: rest => inner.bind fun value => inlineTable value rest
  | c :: _ =>
    if c = '"' ∨ c = '\'' then (quoted cs).map fun (s, rest) => (.string s, rest) else scalar cs
  | [] => none

/-- A value with at most `depth` arrays and inline tables within one another. -/
def value : (depth : Nat) → Reader Value
  | 0 => valueWith none
  | depth + 1 => valueWith (some (value depth))

def restOfLine (cs : List Char) : Option (List Char) :=
  let cs := skipComment (skipSpace cs)
  if cs.isEmpty then some [] else lineEnd? cs

/-- The document so far: all of it, and the header that lines now belong to. -/
structure Draft where
  root : Entries := []
  header : List String := []

def header (d : Draft) (cs : List Char) : Option (Draft × List Char) := do
  match cs with
  | '[' :: cs =>
    let ((path, last), rest) ← key cs
    let rest ← exactly ']' (← exactly ']' rest)
    let root ← d.root.openArrayTable path last
    some ({ root, header := path ++ [last] }, rest)
  | cs =>
    let ((path, last), rest) ← key cs
    let rest ← exactly ']' rest
    let root ← d.root.openTable path last
    some ({ root, header := path ++ [last] }, rest)

def line (d : Draft) (cs : List Char) : Option (Draft × List Char) :=
  match skipSpace cs with
  | [] => some (d, [])
  | '#' :: rest => some (d, '#' :: rest)
  | '[' :: rest => header d rest
  | rest =>
    if (lineEnd? rest).isSome then some (d, rest)
    else do
      let (((path, last), v), rest) ← keyValue (value (depthLimit - 1)) rest
      let root ← d.root.addUnder d.header path last v
      some ({ d with root }, rest)

def linesFrom : (bound : Nat) → Draft → List Char → Option Draft
  | 0, d, _ => some d
  | bound + 1, d, cs =>
    if cs.isEmpty then some d
    else do
      let (d, rest) ← line d cs
      linesFrom bound d (← restOfLine rest)

/-- The table of a document. A byte order mark may stand in front. -/
def ofText? (text : String) : Option Entries :=
  let cs := match text.toList with
    | '\uFEFF' :: cs => cs
    | cs => cs
  (linesFrom (cs.length + 1) {} cs).map (·.root)

end DeviceChannels.Toml
