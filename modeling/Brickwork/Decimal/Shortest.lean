/-!
# Shortest decimals

The decimal with the fewest digits that reads back as a given floating point number. The number is
taken apart into `m · 2 ^ q`, and the neighbours of its value on the grids of 1, 2, … 17 digits are
compared with the interval of reals that round to it, in exact arithmetic.
-/

namespace Brickwork.Decimal

/-- A decimal `digits · 10 ^ exponent`. -/
structure Scaled where
  digits : Nat
  exponent : Int
deriving DecidableEq, Inhabited

/-- Which of two equally near decimals is taken. -/
inductive Tie where
  | up
  | even
deriving DecidableEq, Inhabited

/-- A floating point number taken apart. A finite one is `m · 2 ^ q`; `narrow` tells that the gap
below it is half the gap above. -/
inductive Parts where
  | nan
  | infinite (negative : Bool)
  | finite (negative : Bool) (m : Nat) (q : Int) (narrow : Bool)
deriving DecidableEq, Inhabited

/-- Takes a floating point number apart. -/
def Parts.ofFloat (x : Float) : Parts :=
  let bits := x.toBits.toNat
  let negative := bits / Nat.pow 2 63 == 1
  let exponent : Nat := bits / Nat.pow 2 52 % Nat.pow 2 11
  let fraction := bits % Nat.pow 2 52
  if exponent = 2047 then
    if fraction = 0 then .infinite negative else .nan
  else if exponent = 0 then .finite negative fraction (-1074) false
  else
    .finite negative (Nat.pow 2 52 + fraction) ((exponent : Int) - 1075)
      (fraction == 0 && exponent != 1)

/-- The number of decimal digits of a natural number. -/
def digitCount (n : Nat) : Nat :=
  (Nat.toDigits 10 n).length

/-- The place of the point of `m · 2 ^ q`, for `m` not zero: the number is below `10 ^ p` and not
below `10 ^ (p - 1)`. No double is so small that 324 more places leave nothing. -/
def pointPlace (m : Nat) (q : Int) : Int :=
  digitCount (m * Nat.pow 10 324 * Nat.pow 2 q.toNat / Nat.pow 2 (-q).toNat) - 324

/-- The decimal on the grid `10 ^ k` that reads back as `m · 2 ^ q`, if one of the two neighbours of
the value does. The ends of the interval belong to it when `m` is even. All is counted in quarters
of `2 ^ q`, brought to whole numbers. -/
def onGrid (tie : Tie) (m : Nat) (q : Int) (narrow : Bool) (k : Int) : Option Scaled :=
  let scale := Nat.pow 2 (q - 2).toNat * Nat.pow 10 (-k).toNat
  let unit := Nat.pow 2 (2 - q).toNat * Nat.pow 10 k.toNat
  let value := 4 * m * scale
  let low := (4 * m - if narrow then 1 else 2) * scale
  let high := (4 * m + 2) * scale
  let inside := fun n =>
    if m % 2 = 0 then low ≤ n * unit ∧ n * unit ≤ high else low < n * unit ∧ n * unit < high
  let below := value / unit
  let above := below + 1
  let twice := 2 * (value - below * unit)
  let upper : Bool :=
    if inside below ∧ inside above then
      if twice = unit then
        match tie with
        | .up => true
        | .even => above % 2 = 0
      else unit < twice
    else inside above
  if inside below ∨ inside above then
    some ⟨if upper then above else below, k⟩
  else none

/-- Takes zeros off the end; `fuel` bounds how many. -/
def stripZeros : Nat → Scaled → Scaled
  | 0, d => d
  | fuel + 1, d =>
    if d.digits % 10 = 0 ∧ d.digits ≠ 0 then stripZeros fuel ⟨d.digits / 10, d.exponent + 1⟩ else d

/-- The digits that a double may need at most. -/
def maxDigits : Nat := 17

/-- The decimal with the fewest digits that reads back as `m · 2 ^ q`, and of those the nearest. -/
def shortest (tie : Tie) (m : Nat) (q : Int) (narrow : Bool) : Scaled :=
  if m = 0 then ⟨0, 0⟩
  else
    let place := pointPlace m q
    let found := (List.range maxDigits).findSome? fun n =>
      onGrid tie m q narrow (place - (n + 1 : Nat))
    stripZeros maxDigits (found.getD ⟨0, 0⟩)

end Brickwork.Decimal
