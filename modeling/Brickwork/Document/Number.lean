import Brickwork.Decimal.Reading
import Brickwork.Document.Reader

/-!
# Numbers of a document

A number is a whole number, or a floating point number if it has a point, an exponent, more than 64
bits, or is a negative zero. A skipped number need only have the right outline.
-/

namespace Brickwork.Document

/-- A number of a document. -/
inductive Number where
  | integer (value : Int)
  | float (value : Float)
deriving DecidableEq, Inhabited

/-- The number as something found where another thing is wanted. -/
def Number.found : Number → Found
  | integer value => .integer value
  | float value => .float value

/-- A number as it is written, apart from its exponent: digits before and after the point. -/
structure Mantissa where
  negative : Bool
  whole : List Nat
  fraction : List Nat
deriving DecidableEq, Inhabited

namespace Mantissa

/-- The digits before the point that fit, and how many do not. -/
def head (m : Mantissa) : Nat × Nat :=
  let (value, left) := Decimal.gather 0 m.whole
  (value, left.length)

/-- The digits that fit as one whole number. -/
def significand (m : Mantissa) : Nat :=
  (Decimal.gather m.head.1 m.fraction).1

/-- The power of ten that belongs to the significand. -/
def exponent (m : Mantissa) : Int :=
  let kept := m.fraction.length - (Decimal.gather m.head.1 m.fraction).2.length
  (m.head.2 : Int) - kept

/-- The number with a further exponent, as a floating point number, if it is not too large. -/
def float? (m : Mantissa) (exponent : Int) : Option Float :=
  (Decimal.scale m.significand (m.exponent + exponent)).map fun x => if m.negative then -x else x

/-- The number without point and exponent, if it is not too large. -/
def integer? (m : Mantissa) : Option Number :=
  if m.head.2 ≠ 0 then (m.float? 0).map .float
  else if m.negative then
    if 0 < m.significand ∧ m.significand ≤ Nat.pow 2 63 then some (.integer (-m.significand))
    else (m.float? 0).map .float
  else some (.integer m.significand)

end Mantissa

namespace Reader

/-- The fault of a missing digit. -/
def missingDigit (care : Care) (found : Option Char) : FormatError :=
  match care, found with
  | .checked, none => .endInValue
  | _, _ => .invalidNumber

/-- The digits before the point: a single zero, or digits that do not start with one. -/
def wholeDigits (care : Care) : Reader (List Nat) := do
  match ← next with
  | none => badFormat (missingDigit care none)
  | some c =>
    if c = '0' then do
      match ← peek with
      | some d => if d.isDigit then badFormat .invalidNumber else return [0]
      | none => return [0]
    else if c.isDigit then do
      let digits ← digitRun
      return (c.toNat - '0'.toNat) :: digits
    else badFormat .invalidNumber

/-- The point and at least one digit after it. -/
def fractionDigits (care : Care) : Reader (List Nat) := do
  advance
  let digits ← digitRun
  if digits.isEmpty then badFormat (missingDigit care (← peek))
  else return digits

/-- The mark of an exponent, its sign, and its first digit. The result tells whether the exponent is
negative. -/
def exponentStart (care : Care) : Reader (Bool × Nat) := do
  advance
  let negative ← do
    match ← peek with
    | some '+' => do advance; pure false
    | some '-' => do advance; pure true
    | _ => pure false
  match ← next with
  | none => badFormat (missingDigit care none)
  | some c =>
    if c.isDigit then return (negative, c.toNat - '0'.toNat) else badFormat .invalidNumber

/-- The largest exponent that can be written. -/
def maxExponent : Nat := Nat.pow 2 31 - 1

/-- The further digits of an exponent. An exponent that grows too large is given up, at once if the
number with it would be too large. -/
def exponentDigits (first : Nat) (tooLarge : Bool) : Reader (Option Nat) :=
  iterate (fun exponent => do
    match ← peek with
    | some c =>
      if c.isDigit then do
        advance
        match exponent with
        | none => return .again none
        | some e =>
          let e := e * 10 + (c.toNat - '0'.toNat)
          if e ≤ maxExponent then return .again (some e)
          else if tooLarge then badFormat .numberOutOfRange
          else return .again none
      else return .done exponent
    | none => return .done exponent) (some first)

/-- The result of reading a number, which must not be too large. -/
def inRange (number : Option Number) : Reader Number :=
  match number with
  | some number => return number
  | none => badFormat .numberOutOfRange

/-- An exponent, and the number that ends with it. -/
def exponentEnd (m : Mantissa) : Reader Number := do
  let (negative, first) ← exponentStart .checked
  let exponent ← exponentDigits first (!negative && m.significand != 0)
  match exponent with
  | some e => inRange ((m.float? (if negative then -(e : Int) else e)).map .float)
  | none => return .float (if m.negative then -0.0 else 0.0)

/-- A number, from behind its sign. -/
def number (negative : Bool) : Reader Number := do
  let whole ← wholeDigits .checked
  match ← peek with
  | some '.' => do
    let fraction ← fractionDigits .checked
    let m : Mantissa := ⟨negative, whole, fraction⟩
    match ← peek with
    | some 'e' | some 'E' => exponentEnd m
    | _ => inRange ((m.float? 0).map .float)
  | some 'e' | some 'E' => exponentEnd ⟨negative, whole, []⟩
  | _ => inRange (Mantissa.integer? ⟨negative, whole, []⟩)

/-- Passes over an exponent. -/
def skipExponent : Reader Unit := do
  let _ ← exponentStart .skipped
  let _ ← digitRun
  return ()

/-- Passes over a number, from behind its sign. -/
def skipNumber : Reader Unit := do
  let _ ← wholeDigits .skipped
  match ← peek with
  | some '.' => do
    let _ ← fractionDigits .skipped
    match ← peek with
    | some 'e' | some 'E' => skipExponent
    | _ => return ()
  | some 'e' | some 'E' => skipExponent
  | _ => return ()

end Reader

end Brickwork.Document
