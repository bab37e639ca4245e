import Brickwork.Document.Container

/-!
# Buffered values

A value whose meaning only later parts of the document decide is read as it is, fully checked, and
looked at afterwards.
-/

namespace Brickwork.Document

/-- Any value of a document. -/
inductive Value where
  | null
  | boolean (value : Bool)
  | number (value : Number)
  | string (value : String)
  | list (elements : List Value)
  | object (members : List (String × Value))
deriving Inhabited

/-- The value as something found where another thing is wanted. -/
def Value.found : Value → Found
  | null => .null
  | boolean value => .boolean value
  | number value => value.found
  | string value => .string value
  | list _ => .list
  | object _ => .object

namespace Reader

/-- Any value. -/
def value (room : Nat) : Reader Value := do
  match ← skipGaps with
  | none => badFormat .endInValue
  | some c =>
    if c = 'n' then do advance; word ['u', 'l', 'l']; return .null
    else if c = 't' then do advance; word ['r', 'u', 'e']; return .boolean true
    else if c = 'f' then do advance; word ['a', 'l', 's', 'e']; return .boolean false
    else if c = '-' then do advance; return .number (← number true)
    else if c.isDigit then return .number (← number false)
    else if c = '"' then do advance; return .string (← stringText)
    else if c = '[' then
      match room with
      | 0 => badFormat .tooDeep
      | room + 1 => do
        advance
        return .list (← closedBy (elements true (value room)) closeList)
    else if c = '\x7b' then
      match room with
      | 0 => badFormat .tooDeep
      | room + 1 => do
        advance
        let found ← closedBy (members (fun key found => do
          colon
          return (key, ← value room) :: found) []) closeObject
        return .object found.reverse
    else badFormat .expectedValue

end Reader

/-- The one member of a key, judged. A second member is refused, but only if the first one
passes. -/
def uniqueMember {α : Type} (key : String) (judge : Value → Except ContentError α)
    (members : List (String × Value)) : Except ContentError (Option α) :=
  match members.filter fun member => member.1 = key with
  | [] => .ok none
  | [(_, value)] => (judge value).map some
  | (_, value) :: _ :: _ =>
    match judge value with
    | .ok _ => .error (.duplicateField key)
    | .error error => .error error

/-- Whether a buffered value is a whole number of 32 bits. -/
def Value.word32 : Value → Except ContentError UInt32
  | number n => (Reader.boundedBy (UInt32.size - 1) "u32" n).map Nat.toUInt32
  | value => .error (.invalidType value.found "u32")

end Brickwork.Document
