/-!
# Numerals

Whole numbers written with the ASCII digits, as they stand in pins, notes and command lines. Leading
zeros are allowed, and a sign is a single character in front.
-/

namespace Brickwork.Text

/-- The value of an ASCII digit. -/
def digit? (c : Char) : Option Nat :=
  if '0' ≤ c ∧ c ≤ '9' then some (c.toNat - '0'.toNat) else none

/-- Reads digits after a number that is already known; any other character is refused. -/
def digitsFrom (value : Nat) : List Char → Option Nat
  | [] => some value
  | c :: cs =>
    match digit? c with
    | some d => digitsFrom (value * 10 + d) cs
    | none => none

/-- The value of one or more digits. -/
def digits? : List Char → Option Nat
  | [] => none
  | cs => digitsFrom 0 cs

/-- The value of a numeral that may start with `+` and is at most `limit`. -/
def unsigned? (limit : Nat) (cs : List Char) : Option Nat :=
  let digits := match cs with
    | '+' :: rest => rest
    | _ => cs
  match digits? digits with
  | some n => if n ≤ limit then some n else none
  | none => none

/-- The value of a numeral that may start with `+` or `-`. -/
def signed? : List Char → Option Int
  | '+' :: rest => (digits? rest).map Int.ofNat
  | '-' :: rest => (digits? rest).map fun n => -Int.ofNat n
  | cs => (digits? cs).map Int.ofNat

/-- The decimal text of a natural number. -/
def decimal (n : Nat) : String :=
  String.ofList (Nat.toDigits 10 n)

end Brickwork.Text
