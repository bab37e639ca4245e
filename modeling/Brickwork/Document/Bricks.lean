import Brickwork.Document.Value
import Brickwork.Model

/-!
# Bricks in documents

A brick is an object that holds its name, its pin, and the fields of its category next to each
other. Only the field `type` tells which category it is, so all other fields are buffered until the
object ends.
-/

namespace Brickwork.Document

namespace Reader

/-- An identifier. -/
def identifier : Reader Identifier :=
  checkedString fun text => (Identifier.parse text).mapError .badIdentifier

/-- A pin. -/
def pin : Reader Pin :=
  checkedString fun text => (Pin.parse text).mapError .badPin

end Reader

/-- The tags of all categories. -/
def categoryTags : List String :=
  Category.all.map Category.tag

/-- The category of a tag, a serial line at its default speed. -/
def categoryOfTag (tag : String) : Except ContentError Category :=
  match Category.ofTag? tag Category.defaultBaud with
  | some category => .ok category
  | none => .error (.unknownTag tag categoryTags)

/-- The category that a buffered value names: by its tag, or by its place among all categories. -/
def categoryOfValue : Value → Except ContentError Category
  | .string tag => categoryOfTag tag
  | .number (.integer n) =>
    if n < 0 then .error (.invalidType (.integer n) "variant identifier")
    else
      match Category.all[n.toNat]? with
      | some category => .ok category
      | none => .error (.invalidValue (.integer n) "variant index 0 <= i < 8")
  | value => .error (.invalidType value.found "variant identifier")

/-- Completes a category from the fields around it: a serial line takes its speed. -/
def withMembers (category : Category) (members : List (String × Value)) :
    Except ContentError Category :=
  match category with
  | .serialLine default =>
    (uniqueMember "baud" Value.word32 members).map fun baud => .serialLine (baud.getD default)
  | category => .ok category

/-- Completes a category from the values behind it in a list. -/
def withElements (category : Category) (elements : List Value) : Except ContentError Category :=
  match category, elements with
  | .serialLine default, [] => .ok (.serialLine default)
  | .serialLine _, [value] => value.word32.map .serialLine
  | .serialLine _, value :: more => do
    let _ ← value.word32
    throw (.invalidLength (more.length + 1) "1 element in sequence")
  | category, [] => .ok category
  | _, elements => .error (.invalidLength elements.length "0 elements in sequence")

/-- The category that the buffered fields of a brick describe. -/
def categoryOfMembers (members : List (String × Value)) : Except ContentError Category := do
  match ← uniqueMember "type" categoryOfValue members with
  | some category => withMembers category members
  | none => throw (.missingField "type")

namespace Reader

/-- The result of a check of the content. -/
def ofExcept {α : Type} : Except ContentError α → Reader α
  | .ok a => return a
  | .error error => badContent error

/-- Buffers a member. -/
def bufferMember (room : Nat) : String → List (String × Value) → Reader (List (String × Value)) :=
  fun key found => do
    colon
    return found ++ [(key, ← value room)]

/-- A brick. -/
def brick (room : Nat) : Reader Brick := located do
  match ← skipGaps with
  | none => badFormat .endInValue
  | some '\x7b' => do
    openBracket room
    closedBy (do
      let fields := Fields.cons { key := "name", read := identifier }
        (.cons { key := "pin", default := some none, read := optional pin } .nil)
      let (slots, members) ← slots fields (bufferMember (room - 1)) []
      let (name, pin, _) ← completed fields slots
      let category ← ofExcept (categoryOfMembers members)
      return { name, pin, category }) closeObject
  | some _ => mismatch "struct Brick"

/-- The tag of a category, which has to be a string. -/
def categoryTag : Reader Category := located do
  match ← skipGaps with
  | none => badFormat .endInValue
  | some '"' => do
    advance
    ofExcept (categoryOfTag (← stringText))
  | some _ => mismatch "variant identifier"

/-- A category by itself: an object with the field `type` among its fields, or a list that starts
with the tag. -/
def category (room : Nat) : Reader Category := do
  let complete ← located do
    match ← skipGaps with
    | none => badFormat .endInValue
    | some '\x7b' => do
      openBracket room
      closedBy (do
        let fields := Fields.cons { key := "type", read := categoryTag } .nil
        let (slots, members) ← slots fields (bufferMember (room - 1)) []
        let (category, _) ← completed fields slots
        return withMembers category members) closeObject
    | some '[' => do
      openBracket room
      closedBy (do
        if ← nextElement true then do
          let category ← categoryTag
          let elements ← elements false (value (room - 1))
          return withElements category elements
        else badContent (.missingField "type")) closeList
    | some _ => mismatch "internally tagged enum BrickKind"
  ofExcept complete

end Reader

end Brickwork.Document
