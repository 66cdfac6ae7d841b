import DeviceChannels.Toml.Number

/-!
Dates and times in TOML and their canonical text: a capital `T` between date and time, at most nine
digits of a second without trailing zeros, and a capital `Z` or a signed offset at the end.
-/

namespace DeviceChannels.Toml

def exactDigits (count : Nat) (cs : List Char) : Option (Nat × List Char) :=
  let ds := cs.take count
  if ds.length = count ∧ ds.all Char.isDigit then some (decimalValue ds, cs.drop count) else none

def exactly (c : Char) : List Char → Option (List Char)
  | d :: cs => if d = c then some cs else none
  | [] => none

def isLeapYear (year : Nat) : Bool :=
  year % 4 == 0 && (year % 100 != 0 || year % 400 == 0)

def daysInMonth (year month : Nat) : Nat :=
  if month = 2 then (if isLeapYear year then 29 else 28)
  else if month = 4 ∨ month = 6 ∨ month = 9 ∨ month = 11 then 30
  else 31

def padded (count n : Nat) : String :=
  let ds := Nat.toDigits 10 n
  String.ofList (List.replicate (count - ds.length) '0' ++ ds)

def date (cs : List Char) : Option (String × List Char) := do
  let (year, cs) ← exactDigits 4 cs
  let (month, cs) ← exactDigits 2 (← exactly '-' cs)
  let (day, cs) ← exactDigits 2 (← exactly '-' cs)
  if 1 ≤ month ∧ month ≤ 12 ∧ 1 ≤ day ∧ day ≤ daysInMonth year month then
    some (padded 4 year ++ "-" ++ padded 2 month ++ "-" ++ padded 2 day, cs)
  else none

/-- The first nine digits of a second, trailing zeros left out. -/
def secondFraction (cs : List Char) : String × List Char :=
  match cs with
  | '.' :: rest =>
    let (ds, after) := rest.span Char.isDigit
    if ds.isEmpty then ("", cs)
    else
      let kept := ((ds.take 9).reverse.dropWhile (· == '0')).reverse
      (if kept.isEmpty then "" else "." ++ String.ofList kept, after)
  | _ => ("", cs)

def time (cs : List Char) : Option (String × List Char) := do
  let (hour, cs) ← exactDigits 2 cs
  let (minute, cs) ← exactDigits 2 (← exactly ':' cs)
  let (second, cs) ← exactDigits 2 (← exactly ':' cs)
  if hour ≤ 23 ∧ minute ≤ 59 ∧ second ≤ 60 then
    let (fraction, cs) := secondFraction cs
    some (padded 2 hour ++ ":" ++ padded 2 minute ++ ":" ++ padded 2 second ++ fraction, cs)
  else none

def offset : List Char → Option (String × List Char)
  | c :: cs =>
    if c = 'Z' ∨ c = 'z' then some ("Z", cs)
    else if c = '+' ∨ c = '-' then do
      let (hour, cs) ← exactDigits 2 cs
      let (minute, cs) ← exactDigits 2 (← exactly ':' cs)
      if hour ≤ 23 ∧ minute ≤ 59 then
        let mark := if c = '-' ∧ (hour ≠ 0 ∨ minute ≠ 0) then "-" else "+"
        some (mark ++ padded 2 hour ++ ":" ++ padded 2 minute, cs)
      else none
    else none
  | [] => none

/-- A time after a date, with its offset if one is written. -/
def timeOfDate : List Char → Option (String × List Char)
  | c :: cs =>
    if c = 'T' ∨ c = 't' ∨ c = ' ' then do
      let (t, cs) ← time cs
      let (o, cs) := (offset cs).getD ("", cs)
      some ("T" ++ t ++ o, cs)
    else none
  | [] => none

def moment (cs : List Char) : Option (Value × List Char) :=
  match date cs with
  | some (d, rest) =>
    let (t, rest) := (timeOfDate rest).getD ("", rest)
    some (.moment (d ++ t), rest)
  | none => (time cs).map fun (t, rest) => (.moment t, rest)

end DeviceChannels.Toml
