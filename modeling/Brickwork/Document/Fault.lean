import Brickwork.Decimal.Layout
import Brickwork.Identifier
import Brickwork.Pin

/-!
# Faults of a document

Why a document could not be read: its input failed, its text is not well formed, or it does not hold
what is wanted. A fault of the text carries a position from the start; a fault of the content gets
one from the part of the document around it.
-/

namespace Brickwork.Document

/-- A place in a document: a line, and the bytes fetched of it. -/
structure Position where
  line : Nat
  column : Nat
deriving DecidableEq, Inhabited

/-- How a document may fail to be well-formed text. -/
inductive FormatError where
  | endInValue
  | endInList
  | endInObject
  | endInString
  | expectedValue
  | expectedWord
  | expectedColon
  | expectedListEnd
  | expectedObjectEnd
  | keyNotString
  | trailingComma
  | trailingCharacters
  | invalidNumber
  | numberOutOfRange
  | invalidEscape
  | loneSurrogate
  | brokenPair
  | controlCharacter
  | invalidCodePoint
  | tooDeep
deriving DecidableEq, Inhabited

/-- The fault in words. -/
def FormatError.message : FormatError → String
  | endInValue => "EOF while parsing a value"
  | endInList => "EOF while parsing a list"
  | endInObject => "EOF while parsing an object"
  | endInString => "EOF while parsing a string"
  | expectedValue => "expected value"
  | expectedWord => "expected ident"
  | expectedColon => "expected `:`"
  | expectedListEnd => "expected `,` or `]`"
  | expectedObjectEnd => "expected `,` or `\x7d`"
  | keyNotString => "key must be a string"
  | trailingComma => "trailing comma"
  | trailingCharacters => "trailing characters"
  | invalidNumber => "invalid number"
  | numberOutOfRange => "number out of range"
  | invalidEscape => "invalid escape"
  | loneSurrogate => "lone leading surrogate in hex escape"
  | brokenPair => "unexpected end of hex escape"
  | controlCharacter => "control character (\\u0000-\\u001F) found while parsing a string"
  | invalidCodePoint => "invalid unicode code point"
  | tooDeep => "recursion limit exceeded"

/-- What stands in a document where something else is wanted. -/
inductive Found where
  | null
  | boolean (value : Bool)
  | integer (value : Int)
  | float (value : Float)
  | string (value : String)
  | list
  | object
  | bareTag
deriving DecidableEq, Inhabited

/-- Floating point numbers in messages have a point, or an exponent from `1e+16` up and below
`1e-5`. -/
def floatLayout : Decimal.Layout :=
  ⟨some (-4, 16), true, .even⟩

/-- The text of a whole number. -/
def integerText (value : Int) : String :=
  if value < 0 then "-" ++ Text.decimal value.natAbs else Text.decimal value.natAbs

/-- What was found, in words. -/
def Found.message : Found → String
  | null => "null"
  | boolean value => if value then "boolean `true`" else "boolean `false`"
  | integer value => "integer `" ++ integerText value ++ "`"
  | float value => "floating point `" ++ floatLayout.text value ++ "`"
  | string value => "string " ++ Text.quoted value
  | list => "sequence"
  | object => "map"
  | bareTag => "unit variant"

/-- How a well-formed document may fail to hold what is wanted. -/
inductive ContentError where
  | missingField (key : String)
  | duplicateField (key : String)
  | unknownTag (tag : String) (known : List String)
  | invalidLength (length : Nat) (expected : String)
  | invalidType (found : Found) (expected : String)
  | invalidValue (found : Found) (expected : String)
  | badIdentifier (error : BadIdentifier)
  | badPin (error : BadPin)
deriving DecidableEq

/-- The choice between some tags, in words. -/
def oneOf : List String → String
  | [] => "there are no variants"
  | [tag] => "expected `" ++ tag ++ "`"
  | [first, second] => "expected `" ++ first ++ "` or `" ++ second ++ "`"
  | tags => "expected one of " ++ ", ".intercalate (tags.map fun tag => "`" ++ tag ++ "`")

/-- The fault in words. -/
def ContentError.message : ContentError → String
  | missingField key => "missing field `" ++ key ++ "`"
  | duplicateField key => "duplicate field `" ++ key ++ "`"
  | unknownTag tag known => "unknown variant `" ++ tag ++ "`, " ++ oneOf known
  | invalidLength length expected =>
    "invalid length " ++ Text.decimal length ++ ", expected " ++ expected
  | invalidType found expected => "invalid type: " ++ found.message ++ ", expected " ++ expected
  | invalidValue found expected => "invalid value: " ++ found.message ++ ", expected " ++ expected
  | badIdentifier error => error.message
  | badPin error => error.message

/-- What is wrong with a document. -/
inductive Reason where
  | format (error : FormatError)
  | content (error : ContentError)
deriving DecidableEq

/-- The reason in words. -/
def Reason.message : Reason → String
  | format error => error.message
  | content error => error.message

/-- Why a document could not be read. -/
inductive Fault where
  | unreadable (cause : String)
  | malformed (reason : Reason) (position : Option Position)
deriving DecidableEq

namespace Fault

/-- Gives a fault a position, unless it has one. -/
def locate (position : Position) : Fault → Fault
  | malformed reason none => malformed reason (some position)
  | fault => fault

/-- The fault in words, with its position if it has one. -/
def message : Fault → String
  | unreadable cause => cause
  | malformed reason none => reason.message
  | malformed reason (some position) =>
    reason.message ++ " at line " ++ Text.decimal position.line
      ++ " column " ++ Text.decimal position.column

end Fault

end Brickwork.Document
