import Brickwork.Decimal.Shortest
import Brickwork.Text.Blank
import Brickwork.Text.Numeral

/-!
# Notes

Names of notes such as `C4`, `F#5` or `Bb3`, and their frequencies in equal temperament with the `A`
of the fourth octave at 440 Hz. A frequency is computed with floating point numbers and rounded to
whole hertz.
-/

namespace Brickwork

/-- A note: semitones above the `C` of its octave, a shift by an accidental, and the octave. -/
structure Note where
  semitone : Nat
  shift : Int
  octave : Nat
deriving DecidableEq, Inhabited

namespace Note

/-- The semitones from `C` up to a letter, in either case. -/
def semitone? (c : Char) : Option Nat :=
  match c.toUpper with
  | 'C' => some 0
  | 'D' => some 2
  | 'E' => some 4
  | 'F' => some 5
  | 'G' => some 7
  | 'A' => some 9
  | 'B' => some 11
  | _ => none

/-- Splits an accidental off the front: a sharp raises and a flat lowers by one semitone. -/
def accidental : List Char → Int × List Char
  | '#' :: cs => (1, cs)
  | 's' :: cs => (1, cs)
  | 'S' :: cs => (1, cs)
  | 'b' :: cs => (-1, cs)
  | cs => (0, cs)

/-- The octaves that a note may be in, from zero. -/
def maxOctave : Nat := 8

/-- Reads an octave. -/
def octave? (cs : List Char) : Option Nat :=
  match Text.signed? cs with
  | some n => if 0 ≤ n ∧ n ≤ maxOctave then some n.toNat else none
  | none => none

/-- Reads the characters of a note, blanks already removed. -/
def ofChars? : List Char → Option Note
  | [] => none
  | c :: cs =>
    match semitone? c, octave? (accidental cs).2 with
    | some semitone, some octave => some ⟨semitone, (accidental cs).1, octave⟩
    | _, _ => none

/-- Reads a note; blanks around it do not count. -/
def ofText? (text : String) : Option Note :=
  ofChars? (Text.trim text.toList)

/-- The place of a note on the keyboard, where the `A` of the fourth octave is key 69. -/
def key (note : Note) : Nat :=
  (12 * (note.octave + 1) + note.semitone + note.shift : Int).toNat

/-- The whole number nearest to `m · 2 ^ q`; a half goes up. -/
def nearestWhole (m : Nat) (q : Int) : Nat :=
  (2 * m * Nat.pow 2 q.toNat + Nat.pow 2 (-q).toNat) / (2 * Nat.pow 2 (-q).toNat)

/-- A floating point number as a word: rounded to a whole number, a half away from zero, and cut to
what a word can hold. A negative number gives zero, and so does what is no number. -/
def nearestWord (x : Float) : UInt32 :=
  match Decimal.Parts.ofFloat x with
  | .finite false m q _ => .ofNatClamp (nearestWhole m q)
  | .infinite false => .ofNatClamp UInt32.size
  | _ => 0

/-- The frequency of a note in whole hertz. The power function is the platform's, and how accurate
it is differs between platforms. -/
def hertz (note : Note) (power : Float → Float → Float := Float.pow) : UInt32 :=
  nearestWord (440 * power 2 (Float.ofInt (note.key - 69) / 12))

/-- The frequency of a note by its name. -/
def frequency? (text : String) (power : Float → Float → Float := Float.pow) : Option Nat :=
  (ofText? text).map fun note => (note.hertz power).toNat

end Note

end Brickwork
