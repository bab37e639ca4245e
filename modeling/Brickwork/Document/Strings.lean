import Brickwork.Document.Reader
import Brickwork.Text.Utf8

/-!
# Strings of a document

A string is read byte by byte from behind its opening quote. Its escapes are replaced, and the whole
has to be UTF-8. A skipped string need only have well-formed escapes.
-/

namespace Brickwork.Document.Reader

/-- The next byte of a string. -/
def stringByte : Reader UInt8 := do
  match ← nextByte with
  | some b => return b
  | none => badFormat .endInString

/-- The value of a hexadecimal digit. -/
def hexDigit? (b : UInt8) : Option Nat :=
  let c := Char.ofUInt8 b
  if c.isDigit then some (c.toNat - '0'.toNat)
  else if 'a' ≤ c ∧ c ≤ 'f' then some (c.toNat - 'a'.toNat + 10)
  else if 'A' ≤ c ∧ c ≤ 'F' then some (c.toNat - 'A'.toNat + 10)
  else none

/-- Four hexadecimal digits. -/
def hexNumber : Reader Nat := do
  let a ← stringByte
  let b ← stringByte
  let c ← stringByte
  let d ← stringByte
  match hexDigit? a, hexDigit? b, hexDigit? c, hexDigit? d with
  | some a, some b, some c, some d => return ((a * 16 + b) * 16 + c) * 16 + d
  | _, _, _, _ => badFormat .invalidEscape

/-- Whether a number is the first half of a pair that stands for one character. -/
def isHighSurrogate (n : Nat) : Bool :=
  0xd800 ≤ n && n < 0xdc00

/-- Whether a number is the second half of such a pair. -/
def isLowSurrogate (n : Nat) : Bool :=
  0xdc00 ≤ n && n < 0xe000

/-- One byte that has to be the given one for a pair to go on. -/
def pairByte (wanted : UInt8) : Reader Unit := do
  match ← peekByte with
  | none => badFormat .endInString
  | some b => do
    advance
    if b = wanted then return () else badFormat .brokenPair

/-- The character of an escape by number, from behind its `u`. Two numbers may pair up. -/
def numberedCharacter : Reader Char := do
  let high ← hexNumber
  if isLowSurrogate high then badFormat .loneSurrogate
  else if isHighSurrogate high then do
    pairByte 0x5c
    pairByte 0x75
    let low ← hexNumber
    if isLowSurrogate low then
      return Char.ofNat ((high - 0xd800) * 0x400 + (low - 0xdc00) + 0x10000)
    else badFormat .loneSurrogate
  else return Char.ofNat high

/-- The character that an escape letter stands for. -/
def escapeLetter? (c : Char) : Option Char :=
  match c with
  | '"' => some '"'
  | '\\' => some '\\'
  | '/' => some '/'
  | 'b' => some '\x08'
  | 'f' => some '\x0c'
  | 'n' => some '\n'
  | 'r' => some '\r'
  | 't' => some '\t'
  | _ => none

/-- The bytes that an escape stands for, from behind its backslash. -/
def escape : Reader (List UInt8) := do
  let b ← stringByte
  let c := Char.ofUInt8 b
  if c = 'u' then return String.utf8EncodeChar (← numberedCharacter)
  else
    match escapeLetter? c with
    | some c => return String.utf8EncodeChar c
    | none => badFormat .invalidEscape

/-- Passes over an escape. -/
def skipEscape : Reader Unit := do
  let b ← stringByte
  let c := Char.ofUInt8 b
  if c = 'u' then do
    let _ ← hexNumber
    return ()
  else
    match escapeLetter? c with
    | some _ => return ()
    | none => badFormat .invalidEscape

/-- The bytes of a string, from behind its opening quote to its closing one, escapes replaced. -/
def stringBytes : Reader (List UInt8) :=
  iterate (fun content => do
    let b ← stringByte
    if b = 0x22 then return .done content.reverse
    else if b = 0x5c then return .again ((← escape).reverse ++ content)
    else if b < 0x20 then badFormat .controlCharacter
    else return .again (b :: content)) []

/-- Fails at a bad byte that stands so many bytes before the closing quote. -/
def badCodePoint (back : Nat) : Reader String := fun c =>
  let position := { c.position with column := c.position.column - back }
  .error (.malformed (.format .invalidCodePoint) (some position)) c

/-- The text of a string, from behind its opening quote. -/
def stringText : Reader String := do
  let bytes ← stringBytes
  match Text.decode bytes with
  | .ok text => return text
  | .error offset => badCodePoint (bytes.length - offset)

/-- Passes over a string, from behind its opening quote. -/
def skipString : Reader Unit :=
  iterate (fun _ => do
    let b ← stringByte
    if b = 0x22 then return .done ()
    else if b = 0x5c then do skipEscape; return .again ()
    else if b < 0x20 then badFormat .controlCharacter
    else return .again ()) ()

end Brickwork.Document.Reader
