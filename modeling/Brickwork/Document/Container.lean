import Brickwork.Document.Skip

/-!
# Values by what is wanted

A document is read in one pass, by what is wanted at each place: a string, a number, a list, a
record whose fields are known, or one of several tagged variants. A record is an object or the list
of its fields in order. Every bracket of a wanted value counts against a limit on nesting: `room` is
how many may still be opened.
-/

namespace Brickwork.Document

namespace Reader

variable {α β σ : Type} {αs : List Type}

/-- Fails because what comes next is not what is wanted. -/
def mismatch (expected : String) : Reader α := located do
  let found ← match ← peek with
    | some 'n' => do advance; word ['u', 'l', 'l']; pure Found.null
    | some 't' => do advance; word ['r', 'u', 'e']; pure (Found.boolean true)
    | some 'f' => do advance; word ['a', 'l', 's', 'e']; pure (Found.boolean false)
    | some '-' => do advance; pure (← number true).found
    | some '"' => do advance; pure (Found.string (← stringText))
    | some '[' => pure Found.list
    | some '\x7b' => pure Found.object
    | some c => if c.isDigit then pure (← number false).found else badFormat .expectedValue
    | none => badFormat .expectedValue
  badContent (.invalidType found expected)

/-! ## Plain values -/

/-- A string. -/
def string : Reader String := do
  match ← skipGaps with
  | none => badFormat .endInValue
  | some '"' => do advance; stringText
  | some _ => mismatch "a string"

/-- A string that passes a check. -/
def checkedString (check : String → Except ContentError α) : Reader α := do
  match check (← string) with
  | .ok a => return a
  | .error error => badContent error

/-- A number that passes a check. -/
def checkedNumber (expected : String) (check : Number → Except ContentError α) : Reader α :=
  located do
    let judge := fun n => match check n with
      | .ok a => pure a
      | .error error => badContent error
    match ← skipGaps with
    | none => badFormat .endInValue
    | some '-' => do advance; judge (← number true)
    | some c => if c.isDigit then do judge (← number false) else mismatch expected

/-- Whether a number is a whole number from zero up to `limit`. -/
def boundedBy (limit : Nat) (expected : String) : Number → Except ContentError Nat
  | .integer n =>
    if 0 ≤ n ∧ n ≤ limit then .ok n.toNat else .error (.invalidValue (.integer n) expected)
  | .float x => .error (.invalidType (.float x) expected)

/-- A whole number of eight bits. -/
def byte : Reader UInt8 := do
  return (← checkedNumber "u8" (boundedBy (UInt8.size - 1) "u8")).toUInt8

/-- A whole number of 32 bits. -/
def word32 : Reader UInt32 := do
  return (← checkedNumber "u32" (boundedBy (UInt32.size - 1) "u32")).toUInt32

/-- A number of any form as a floating point number. -/
def float : Reader Float :=
  checkedNumber "f64" fun
    | .integer n =>
      let x := n.natAbs.toUInt64.toFloat
      .ok (if n < 0 then -x else x)
    | .float x => .ok x

/-- A value, or nothing where `null` stands. -/
def optional (read : Reader α) : Reader (Option α) := do
  match ← skipGaps with
  | some 'n' => do advance; word ['u', 'l', 'l']; return none
  | _ => return some (← read)

/-- Only `null`. -/
def null : Reader Unit := do
  match ← skipGaps with
  | none => badFormat .endInValue
  | some 'n' => do advance; word ['u', 'l', 'l']
  | some _ => mismatch "unit"

/-! ## Lists and objects -/

/-- Opens a bracket, if there is room for it. -/
def openBracket (room : Nat) : Reader Unit :=
  if room = 0 then badFormat .tooDeep else advance

/-- Whether a list goes on with another element. -/
def nextElement (first : Bool) : Reader Bool := do
  match ← skipGaps with
  | none => badFormat .endInList
  | some ']' => return false
  | some c =>
    if first then return true
    else if c = ',' then do
      advance
      match ← skipGaps with
      | none => badFormat .endInValue
      | some ']' => badFormat .trailingComma
      | some _ => return true
    else badFormat .expectedListEnd

/-- Whether a character comes next behind gaps; a failing input counts as no. -/
def comesNext (wanted : Char) : Reader Bool := fun c =>
  match skipGaps c with
  | .ok found c => .ok (found = some wanted) c
  | .error _ c => .ok false c

/-- Closes a list. -/
def closeList : Reader Unit := do
  match ← skipGaps with
  | none => badFormat .endInList
  | some ']' => advance
  | some ',' => do
    advance
    if ← comesNext ']' then badFormat .trailingComma else badFormat .trailingCharacters
  | some _ => badFormat .trailingCharacters

/-- Whether an object goes on with another key, whose quote then comes next. -/
def nextKey (first : Bool) : Reader Bool := do
  match ← skipGaps with
  | none => badFormat .endInObject
  | some '\x7d' => return false
  | some c =>
    if first then
      if c = '"' then return true else badFormat .keyNotString
    else if c = ',' then do
      advance
      match ← skipGaps with
      | none => badFormat .endInValue
      | some '"' => return true
      | some '\x7d' => badFormat .trailingComma
      | some _ => badFormat .keyNotString
    else badFormat .expectedObjectEnd

/-- The key that comes next. -/
def key : Reader String := do
  advance
  stringText

/-- The colon between a key and its value. -/
def colon : Reader Unit := do
  match ← skipGaps with
  | none => badFormat .endInObject
  | some ':' => advance
  | some _ => badFormat .expectedColon

/-- Closes an object. -/
def closeObject : Reader Unit := do
  match ← skipGaps with
  | none => badFormat .endInObject
  | some '\x7d' => advance
  | some ',' => badFormat .trailingComma
  | some _ => badFormat .trailingCharacters

/-- The elements of a list, from behind its bracket or, if not `first`, from behind an element. -/
def elements (first : Bool) (read : Reader α) : Reader (List α) :=
  iterate (fun (first, found) => do
    if ← nextElement first then return .again (false, (← read) :: found)
    else return .done found.reverse) (first, [])

/-- The members of an object, from behind its bracket. Each is handed to `read` by its key, with the
colon still to come. -/
def members (read : String → σ → Reader σ) (state : σ) : Reader σ :=
  iterate (fun (first, state) => do
    if ← nextKey first then do
      let key ← key
      return .again (false, ← read key state)
    else return .done state) (true, state)

/-- A list of values. -/
def list (room : Nat) (read : Reader α) : Reader (List α) := located do
  match ← skipGaps with
  | none => badFormat .endInValue
  | some '[' => do
    openBracket room
    closedBy (elements true read) closeList
  | some _ => mismatch "a sequence"

end Reader

/-! ## Records -/

/-- A field of a record: its key, what stands for it if it is missing, and how it is read. -/
structure Field (α : Type) where
  key : String
  default : Option α := none
  read : Reader α

/-- The fields of a record, in order. -/
inductive Fields : List Type → Type 1 where
  | nil : Fields []
  | cons {α : Type} {αs : List Type} (field : Field α) (rest : Fields αs) : Fields (α :: αs)

/-- What has been read of each field. -/
@[reducible] def Slots : List Type → Type
  | [] => Unit
  | α :: αs => Option α × Slots αs

/-- The values of all fields. -/
@[reducible] def Values : List Type → Type
  | [] => Unit
  | α :: αs => α × Values αs

namespace Fields

variable {αs : List Type}

/-- The number of fields. -/
def count {αs : List Type} : Fields αs → Nat
  | nil => 0
  | cons _ rest => rest.count + 1

/-- Nothing read yet. -/
def blank {αs : List Type} : Fields αs → Slots αs
  | nil => ()
  | cons _ rest => (none, rest.blank)

/-- How the field of a key is read, from before the colon; nothing if there is no such field. A
field that has been read already is refused. -/
def accept {αs : List Type} (key : String) : Fields αs → Slots αs → Option (Reader (Slots αs))
  | nil, _ => none
  | cons field rest, (slot, slots) =>
    if field.key = key then
      some do
        if slot.isSome then Reader.badContent (.duplicateField key)
        else do
          Reader.colon
          return (some (← field.read), slots)
    else (rest.accept key slots).map fun read => do return (slot, ← read)

/-- Reads as many fields, in order, as a list holds. The result tells how many. -/
def readList {αs : List Type} (first : Bool) : Fields αs → Reader (Nat × Slots αs)
  | nil => return (0, ())
  | cons field rest => do
    if ← Reader.nextElement first then do
      let a ← field.read
      let (n, slots) ← rest.readList false
      return (n + 1, (some a, slots))
    else return (0, (cons field rest).blank)

/-- The values of all fields, or the key of the first one that is missing. -/
def complete {αs : List Type} : Fields αs → Slots αs → Except String (Values αs)
  | nil, _ => .ok ()
  | cons field rest, (slot, slots) =>
    match slot.or field.default with
    | some a => (rest.complete slots).map (a, ·)
    | none => .error field.key

end Fields

namespace Reader

variable {α β σ : Type} {αs : List Type}

/-- The members of a record; those of unknown keys are handed to `other`. -/
def slots (fields : Fields αs) (other : String → σ → Reader σ) (state : σ) :
    Reader (Slots αs × σ) :=
  members (fun key (slots, state) =>
    match fields.accept key slots with
    | some read => do return (← read, state)
    | none => do return (slots, ← other key state)) (fields.blank, state)

/-- Passes over a member that nobody asked for. -/
def skipMember : String → Unit → Reader Unit := fun _ _ => do
  colon
  skipValue

/-- The values of a record's fields. -/
def completed (fields : Fields αs) (slots : Slots αs) : Reader (Values αs) :=
  match fields.complete slots with
  | .ok values => return values
  | .error key => badContent (.missingField key)

/-- The values of the fields of a record that was given as a list of `length` elements. -/
def completedList (expected : String) (fields : Fields αs) (length : Nat) (slots : Slots αs) :
    Reader (Values αs) :=
  match fields.complete slots with
  | .ok values => return values
  | .error _ =>
    let elements := if fields.count = 1 then " element" else " elements"
    badContent (.invalidLength length
      (expected ++ " with " ++ Text.decimal fields.count ++ elements))

/-- A record: an object, or the list of its fields in order. -/
def record (expected : String) (room : Nat) (fields : Fields αs) : Reader (Values αs) := located do
  match ← skipGaps with
  | none => badFormat .endInValue
  | some '[' => do
    openBracket room
    closedBy (do
      let (length, slots) ← fields.readList true
      completedList expected fields length slots) closeList
  | some '\x7b' => do
    openBracket room
    closedBy (do
      let (slots, _) ← slots fields skipMember ()
      completed fields slots) closeObject
  | some _ => mismatch expected

/-! ## Variants -/

/-- What belongs to a tag: nothing, one value, or the fields of a record. -/
inductive Payload (α : Type) where
  | unit (value : α)
  | single (read : Reader α)
  | fields (read : Reader α)

/-- Reads what belongs to a tag, from behind its colon. -/
def Payload.read : Payload α → Reader α
  | unit value => do null; return value
  | single read => read
  | fields read => read

/-- A tag that stands alone. -/
def Payload.bare : Payload α → Reader α
  | unit value => return value
  | single _ => badContent (.invalidType .bareTag "newtype variant")
  | fields _ => badContent (.invalidType .bareTag "struct variant")

/-- The tag whose quote comes next, and what belongs to it. -/
def tag (variants : List (String × Payload α)) : Reader (Payload α) := located do
  let tag ← key
  match variants.lookup tag with
  | some payload => return payload
  | none => badContent (.unknownTag tag (variants.map Prod.fst))

/-- One of several variants: an object with the tag as its only key, or the tag alone. -/
def tagged (room : Nat) (variants : List (String × Payload α)) : Reader α := do
  match ← skipGaps with
  | none => badFormat .endInValue
  | some '"' => do (← tag variants).bare
  | some '\x7b' => do
    openBracket room
    if ← nextKey true then do
      let payload ← tag variants
      colon
      let value ← payload.read
      match ← skipGaps with
      | none => badFormat .endInObject
      | some '\x7d' => do advance; return value
      | some _ => badFormat .expectedValue
    else badFormat .expectedValue
  | some _ => badFormat .expectedValue

end Reader

/-- The brackets that may be open at once. -/
def maxRoom : Nat := 127

/-- Reads a whole input as one value, behind which only gaps may follow. -/
def Reader.run {α : Type} (read : Reader α) (input : Input) : Except Fault α :=
  let whole : Reader α := do
    let a ← read
    match ← Reader.skipGaps with
    | none => return a
    | some _ => Reader.badFormat .trailingCharacters
  match whole (Cursor.start input) with
  | .ok a _ => .ok a
  | .error fault _ => .error fault

end Brickwork.Document
