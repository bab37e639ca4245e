import Brickwork.Decimal.Shortest

/-!
# Layouts of decimals

How the digits of a number are set out as text: with the point in its place, or with an exponent.
-/

namespace Brickwork.Decimal

/-- The decisions of one form of number text. -/
structure Layout where
  /-- The places of the point for which no exponent is written, from first to last. -/
  positional : Option (Int × Int)
  /-- Whether a whole number ends in `.0`. -/
  marksWhole : Bool
  /-- Which of two equally near decimals is written. -/
  tie : Tie

namespace Layout

/-- Digits with the point so many places after the first of them. -/
def place (layout : Layout) (digits : List Char) (point : Int) : List Char :=
  if point ≤ 0 then
    '0' :: '.' :: List.replicate (-point).toNat '0' ++ digits
  else if digits.length ≤ point then
    digits ++ List.replicate (point.toNat - digits.length) '0'
      ++ if layout.marksWhole then ['.', '0'] else []
  else
    digits.take point.toNat ++ '.' :: digits.drop point.toNat

/-- Digits with the point after the first of them, and an exponent with its sign. -/
def scientific (digits : List Char) (point : Int) : List Char :=
  let exponent := point - 1
  digits.take 1 ++ (if digits.length ≤ 1 then [] else '.' :: digits.drop 1)
    ++ 'e' :: (if exponent < 0 then '-' else '+') :: Nat.toDigits 10 exponent.natAbs

/-- The text of a decimal. -/
def decimal (layout : Layout) (d : Scaled) : List Char :=
  let digits := Nat.toDigits 10 d.digits
  let point := d.exponent + digits.length
  match layout.positional with
  | none => layout.place digits point
  | some (first, last) =>
    if first ≤ point ∧ point ≤ last then layout.place digits point else scientific digits point

/-- The text of a floating point number. -/
def text (layout : Layout) (x : Float) : String :=
  let signed := fun negative body => String.ofList (if negative then '-' :: body else body)
  match Parts.ofFloat x with
  | .nan => "NaN"
  | .infinite negative => signed negative ['i', 'n', 'f']
  | .finite negative m q narrow => signed negative (layout.decimal (shortest layout.tie m q narrow))

end Layout

end Brickwork.Decimal
