/-!
Rounding of naturals. Sizes and decimal numbers are first rounded to 53 significant bits, the
precision of a binary floating point number; both roundings here send a half to the even
neighbour.
-/

namespace DeviceChannels

/-- The quotient rounded to the nearest natural, a half to the even one. -/
def divNearest (n d : Nat) : Nat :=
  let q := n / d
  let r := n % d
  if 2 * r < d then q
  else if d < 2 * r then q + 1
  else q + q % 2

/-- The nearest natural with at most 53 significant bits. -/
def roundTo53Bits (n : Nat) : Nat :=
  let shift := n.log2 - 52
  divNearest n (Nat.pow 2 shift) * Nat.pow 2 shift

/-- From here on a number rounds to infinity: half a unit beyond the largest finite one. -/
def overflowBound : Nat := Nat.pow 2 1024 - Nat.pow 2 970

end DeviceChannels
