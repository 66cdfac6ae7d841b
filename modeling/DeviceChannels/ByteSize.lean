import DeviceChannels.Number.Rounding

/-! Texts of byte counts, with binary units and one decimal above bytes. The unit is chosen before
the value is rounded, so a size just below a unit reads as 1024.0 of the smaller one. -/

namespace DeviceChannels.ByteSize

/-- The value in the unit that it is shown in: as long as it is at least 1024 it is counted in the
next of the larger units. Dividing a binary number by 1024 keeps its digits, so nothing is rounded
on the way. -/
def climb (value : Rat) (unit : String) : List String → Rat × String
  | [] => (value, unit)
  | next :: larger => if 1024 ≤ value then climb (value / 1024) next larger else (value, unit)

/-- Tenths of a value that is not negative, a half going to the even tenth. -/
def tenths (value : Rat) : Nat := divNearest (value.num.toNat * 10) value.den

def decimalText (tenths : Nat) : String :=
  toString (tenths / 10) ++ "." ++ toString (tenths % 10)

def render (bytes : Nat) : String :=
  if bytes < 1024 then toString bytes ++ " B"
  else
    let shown := climb (roundTo53Bits bytes / 1024) "KB" ["MB", "GB", "TB"]
    decimalText (tenths shown.1) ++ " " ++ shown.2

end DeviceChannels.ByteSize
