/-!
# Reading decimals

The value of a number written with a point or an exponent. Digits are gathered into a whole number
of at most 64 bits, and digits that no longer fit are dropped; the whole number becomes a floating
point number and is then scaled by a power of ten, with one rounding for each step.
-/

namespace Brickwork.Decimal

/-- Gathers digits into a whole number while it stays below `2 ^ 64`. The rest of the digits, from
the first that does not fit, is left over. -/
def gather (value : Nat) : List Nat → Nat × List Nat
  | [] => (value, [])
  | d :: ds => if value * 10 + d < UInt64.size then gather (value * 10 + d) ds else (value, d :: ds)

/-- The largest power of ten that a floating point number can hold. -/
def maxPower : Nat := 308

/-- A power of ten. -/
def power (n : Nat) : Float :=
  Float.ofScientific 1 false n

/-- Divides by `10 ^ n`, at most `10 ^ 308` at a time, until nothing is left of the number. -/
def scaleDown (x : Float) (n : Nat) : Float :=
  if n ≤ maxPower then x / power n
  else if x == 0 then x
  else scaleDown (x / power maxPower) (n - maxPower)
termination_by n
decreasing_by simp [maxPower] at *; omega

/-- The value of `significand · 10 ^ exponent`, or nothing if it is too large. -/
def scale (significand : Nat) (exponent : Int) : Option Float :=
  let x := significand.toUInt64.toFloat
  if exponent < 0 then some (scaleDown x exponent.natAbs)
  else if exponent.natAbs ≤ maxPower then
    let y := x * power exponent.natAbs
    if y.isInf then none else some y
  else if x == 0 then some x
  else none

end Brickwork.Decimal
