import DeviceChannels.Number.Rounding
import DeviceChannels.Toml.Text

/-!
Numbers in TOML. Integers have 64 bits; a number with a fraction or an exponent is refused where it
rounds to positive infinity. Underscores stand between two digits only.
-/

namespace DeviceChannels.Toml

def decimalValue (ds : List Char) : Nat :=
  ds.foldl (fun n d => n * 10 + (d.toNat - '0'.toNat)) 0

/-- Digits with single underscores between them; the digits alone are given. -/
def moreDigits (isDigit : Char → Bool) : List Char → List Char → List Char × List Char
  | acc, [] => (acc.reverse, [])
  | acc, '_' :: c :: cs =>
    if isDigit c then moreDigits isDigit (c :: acc) cs else (acc.reverse, '_' :: c :: cs)
  | acc, c :: cs =>
    if isDigit c then moreDigits isDigit (c :: acc) cs else (acc.reverse, c :: cs)

def digitRun (isDigit : Char → Bool) : List Char → Option (List Char × List Char)
  | c :: cs => if isDigit c then some (moreDigits isDigit [c] cs) else none
  | [] => none

def sign : List Char → Bool × List Char
  | '-' :: cs => (true, cs)
  | '+' :: cs => (false, cs)
  | cs => (false, cs)

def wholePart : List Char → Option (List Char × List Char)
  | '0' :: cs => some (['0'], cs)
  | cs => digitRun Char.isDigit cs

def decimalInteger (cs : List Char) : Option (Value × List Char) := do
  let (negative, cs) := sign cs
  let (ds, rest) ← wholePart cs
  let n := decimalValue ds
  if negative then (if n ≤ Nat.pow 2 63 then some (.integer (-n), rest) else none)
  else if n < Nat.pow 2 63 then some (.integer n, rest)
  else none

/-- An integer in another base, after its mark. -/
def basedInteger (base : Nat) (cs : List Char) : Option (Value × List Char) := do
  let isDigit c := match hexDigit? c with
    | some d => d < base
    | none => false
  let (ds, rest) ← digitRun isDigit cs
  let n := ds.foldl (fun n d => n * base + (hexDigit? d).getD 0) 0
  if n < Nat.pow 2 63 then some (.integer n, rest) else none

def integer : List Char → Option (Value × List Char)
  | '0' :: 'x' :: cs => basedInteger 16 cs
  | '0' :: 'o' :: cs => basedInteger 8 cs
  | '0' :: 'b' :: cs => basedInteger 2 cs
  | cs => decimalInteger cs

def fraction? : List Char → Option (List Char × List Char)
  | '.' :: cs => digitRun Char.isDigit cs
  | _ => none

def exponent? : List Char → Option (Int × List Char)
  | c :: cs =>
    if c = 'e' ∨ c = 'E' then do
      let (negative, cs) := sign cs
      let (ds, rest) ← digitRun Char.isDigit cs
      let n : Nat := decimalValue ds
      some (if negative then -n else n, rest)
    else none
  | [] => none

/-- `significand · 10 ^ exponent` rounds to infinity. -/
def overflows (significand : Nat) (exponent : Int) : Bool :=
  let magnitude : Int := (toString significand).length + exponent
  if significand = 0 ∨ magnitude < 300 then false
  else if 320 < magnitude then true
  else if 0 ≤ exponent then overflowBound ≤ significand * Nat.pow 10 exponent.toNat
  else overflowBound * Nat.pow 10 (-exponent).toNat ≤ significand

def decimalReal (cs : List Char) : Option (Value × List Char) := do
  let (negative, cs) := sign cs
  let (whole, rest) ← wholePart cs
  let (fraction, afterFraction) := (fraction? rest).getD ([], rest)
  let (exponent, afterExponent) :=
    match exponent? afterFraction with
    | some (e, rest) => (some e, rest)
    | none => (none, afterFraction)
  if fraction.isEmpty ∧ exponent.isNone then none
  else if !negative ∧
      overflows (decimalValue (whole ++ fraction)) (exponent.getD 0 - fraction.length) then none
  else some (.real, afterExponent)

def specialReal (cs : List Char) : Option (Value × List Char) :=
  match (sign cs).2 with
  | 'i' :: 'n' :: 'f' :: rest => some (.real, rest)
  | 'n' :: 'a' :: 'n' :: rest => some (.real, rest)
  | _ => none

def real (cs : List Char) : Option (Value × List Char) := (decimalReal cs).or (specialReal cs)

end DeviceChannels.Toml
