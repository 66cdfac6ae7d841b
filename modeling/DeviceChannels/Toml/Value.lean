/-!
TOML values, and tables in the making. A table remembers how it came to be, since that settles who
may still add to it: a header may complete a table that another header merely passed through, and
dotted keys may add to tables made by dotted keys.
-/

namespace DeviceChannels.Toml

inductive Origin
  /-- Made by its own header, or the document itself. -/
  | header
  /-- Passed through by a header for a table within it. -/
  | passedThrough
  /-- Made by a dotted key. -/
  | dotted
  /-- Written as a value, and complete. -/
  | inlined
  deriving DecidableEq, Repr

inductive Value
  | boolean (value : Bool)
  | integer (value : Int)
  | real
  | string (value : String)
  /-- A date, a time or both, as its canonical text. -/
  | moment (text : String)
  | array (items : List Value)
  | table (origin : Origin) (entries : List (String × Value))
  /-- An array of tables made by headers; the last one is still open. -/
  | tables (closed : List (List (String × Value))) (last : List (String × Value))

abbrev Entries := List (String × Value)

namespace Entries

/-- Replaces the entry of a key, or adds one at the end. -/
def update (key : String) (change : Option Value → Option Value) : Entries → Option Entries
  | [] => (change none).map fun v => [(key, v)]
  | (k, v) :: es =>
    if k = key then (change (some v)).map fun v => (k, v) :: es
    else (update key change es).map fun es => (k, v) :: es

/-- Goes down to the table at a path and changes it there. Missing tables are made. With `dotted`
set the path is that of a dotted key, which may not enter a table that has its own header. -/
def changeAt (dotted : Bool) (change : Origin → Entries → Option Entries) :
    (path : List String) → Origin → Entries → Option Entries
  | [], origin, es => change origin es
  | key :: path, _, es =>
    es.update key fun
      | none =>
        let origin : Origin := if dotted then .dotted else .passedThrough
        (changeAt dotted change path origin []).map (.table origin ·)
      | some (.table origin inner) =>
        if origin = .inlined ∨ (dotted ∧ origin = .header) then none
        else (changeAt dotted change path origin inner).map (.table origin ·)
      | some (.tables closed last) =>
        (changeAt dotted change path .header last).map (.tables closed ·)
      | some _ => none

def addNew (key : String) (value : Value) (es : Entries) : Option Entries :=
  es.update key fun
    | none => some value
    | some _ => none

/-- Adds a value under a dotted key, `path` being all of it but the last part. The table so
reached has to be one made by dotted keys, if there is a path at all. -/
def addDotted (path : List String) (key : String) (value : Value) (es : Entries) :
    Option Entries :=
  changeAt true
    (fun origin es =>
      if decide (origin = .dotted) = path.isEmpty then none else addNew key value es)
    path .header es

def openTable (path : List String) (key : String) (es : Entries) : Option Entries :=
  changeAt false
    (fun _ es => es.update key fun
      | none => some (.table .header [])
      | some (.table .passedThrough inner) => some (.table .header inner)
      | some _ => none)
    path .header es

def openArrayTable (path : List String) (key : String) (es : Entries) : Option Entries :=
  changeAt false
    (fun _ es => es.update key fun
      | none => some (.tables [] [])
      | some (.tables closed last) => some (.tables (closed ++ [last]) [])
      | some _ => none)
    path .header es

/-- Adds a value under a dotted key to the table of the current header. -/
def addUnder (header : List String) (path : List String) (key : String) (value : Value)
    (es : Entries) : Option Entries :=
  changeAt false (fun _ es => es.addDotted path key value) header .header es

end Entries

end DeviceChannels.Toml
