import Brickwork.Text.Blank
import Brickwork.Text.Numeral
import Brickwork.Text.Quoted

/-!
# Pins

A pin of a board is digital or analog and has a number. People write it with a letter (`D9`, `A0`);
generated code writes a digital pin as its bare number.
-/

namespace Brickwork

/-- A pin of a board. -/
inductive Pin where
  | digital (number : Nat)
  | analog (number : Nat)
deriving DecidableEq, Inhabited

/-- A text that names no pin. -/
structure BadPin where
  text : String
deriving DecidableEq

/-- What is wrong with the text, in words. -/
def BadPin.message (e : BadPin) : String :=
  "Bad pin " ++ Text.quoted e.text ++ ", expected `D<n>`, `A<n>` or a plain digital pin number"

namespace Pin

/-- The pin as people write it. -/
def label : Pin → String
  | digital n => "D" ++ Text.decimal n
  | analog n => "A" ++ Text.decimal n

/-- The pin as generated code writes it. -/
def code : Pin → String
  | digital n => Text.decimal n
  | analog n => "A" ++ Text.decimal n

/-- The largest pin number that can be written. -/
def maxNumber : Nat := 255

/-- Reads the characters of a pin, blanks already removed. -/
def ofChars? : List Char → Option Pin
  | [] => none
  | c :: cs =>
    if c = 'A' ∨ c = 'a' then (Text.unsigned? maxNumber cs).map analog
    else if c = 'D' ∨ c = 'd' then (Text.unsigned? maxNumber cs).map digital
    else (Text.unsigned? maxNumber (c :: cs)).map digital

/-- Reads a pin; blanks around it do not count. -/
def parse (text : String) : Except BadPin Pin :=
  match ofChars? (Text.trim text.toList) with
  | some pin => .ok pin
  | none => .error ⟨text⟩

/-- The order of pins: all digital ones first, then by number. -/
def le : Pin → Pin → Bool
  | digital a, digital b => a ≤ b
  | digital _, analog _ => true
  | analog _, digital _ => false
  | analog a, analog b => a ≤ b

/-- The pins in order. -/
def sort (pins : List Pin) : List Pin :=
  pins.mergeSort le

end Pin

end Brickwork
