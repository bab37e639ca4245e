/-!
# Literals of generated code

How a text stands in generated code: between double quotes, with escapes for quotes, backslashes and
control characters. A number in an escape always has three octal digits, so that it cannot run into
what follows.
-/

namespace Brickwork.Code

/-- The octal digit of a number below eight. -/
def octalDigit (n : Nat) : Char :=
  Char.ofNat ('0'.toNat + n % 8)

/-- Whether a character is an ASCII control character. -/
def isControl (c : Char) : Bool :=
  c.toNat < 0x20 || c.toNat = 0x7f

/-- How one character stands in a literal. -/
def literalChar (c : Char) : List Char :=
  if c = '"' then ['\\', '"']
  else if c = '\\' then ['\\', '\\']
  else if c = '\n' then ['\\', 'n']
  else if c = '\r' then ['\\', 'r']
  else if c = '\t' then ['\\', 't']
  else if isControl c then
    ['\\', octalDigit (c.toNat / 64), octalDigit (c.toNat / 8), octalDigit c.toNat]
  else [c]

/-- The characters of a string literal. -/
def literalChars (content : List Char) : List Char :=
  '"' :: content.flatMap literalChar ++ ['"']

/-- A string literal. -/
def literal (content : String) : String :=
  String.ofList (literalChars content.toList)

end Brickwork.Code
