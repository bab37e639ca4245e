import Brickwork.Text.Combining
import Brickwork.Text.Ignorable
import Brickwork.Text.Unprintable

/-!
# Quoted text

How a message shows a text that someone else wrote: between double quotes, on one line, with nothing
in it that cannot be seen.
-/

namespace Brickwork.Text

/-- A character by its number, in lower-case hexadecimal. -/
def numbered (c : Char) : List Char :=
  '\\' :: 'u' :: '\x7b' :: Nat.toDigits 16 c.toNat ++ ['\x7d']

/-- Whether a character is shown by its number: it joins another, or nothing is shown for it, or it
cannot be printed. -/
def isHidden (c : Char) : Bool :=
  isCombining c.toNat || isIgnorable c.toNat || isUnprintable c.toNat

/-- How one character stands between the quotes. -/
def quotedChar (c : Char) : List Char :=
  if c = '"' then ['\\', '"']
  else if c = '\\' then ['\\', '\\']
  else if c = '\n' then ['\\', 'n']
  else if c = '\r' then ['\\', 'r']
  else if c = '\t' then ['\\', 't']
  else if c = '\x00' then ['\\', '0']
  else if isHidden c then numbered c
  else [c]

/-- A text between double quotes. -/
def quoted (text : String) : String :=
  String.ofList ('"' :: text.toList.flatMap quotedChar ++ ['"'])

end Brickwork.Text
