import Brickwork.Document.Fault

/-!
# Readers

A reader takes bytes off the front of an input, one by one and with a lookahead of one byte, and
gives a result or a fault. The position always names the byte fetched last, the lookahead included.
The input may end or may fail after its last byte.
-/

namespace Brickwork.Document

/-- What comes after the last byte of an input. -/
inductive Ending where
  | complete
  | failing (cause : String)
deriving DecidableEq, Inhabited

/-- An input: its bytes, and what comes after them. -/
structure Input where
  bytes : List UInt8
  ending : Ending := .complete
deriving DecidableEq, Inhabited

/-- The input that fails, for the given cause, where byte number `n` or the end would be read. -/
def Input.failingAt (bytes : List UInt8) (n : Nat) (cause : String) : Input :=
  if n ≤ bytes.length then ⟨bytes.take n, .failing cause⟩ else ⟨bytes, .complete⟩

/-- Where a reader stands. -/
structure Cursor where
  /-- The bytes not yet consumed. -/
  rest : List UInt8
  ending : Ending
  /-- Whether the first of these bytes has been fetched as lookahead. -/
  ahead : Bool := false
  /-- The position of the byte fetched last. -/
  position : Position := ⟨1, 0⟩
deriving DecidableEq, Inhabited

/-- The position once one more byte is fetched. -/
def Position.after (position : Position) (b : UInt8) : Position :=
  if b = 0x0a then ⟨position.line + 1, 0⟩ else ⟨position.line, position.column + 1⟩

namespace Cursor

/-- The start of an input. -/
def start (input : Input) : Cursor :=
  ⟨input.bytes, input.ending, false, ⟨1, 0⟩⟩

/-- Fetches the lookahead. -/
def fetch (c : Cursor) : Cursor :=
  match c.rest with
  | [] => c
  | b :: _ => if c.ahead then c else { c with ahead := true, position := c.position.after b }

/-- Consumes one byte. -/
def advance (c : Cursor) : Cursor :=
  { c.fetch with rest := c.rest.tail, ahead := false }

end Cursor

/-- A reader of a value of type `α`. A fault leaves the cursor where it arose. -/
abbrev Reader (α : Type) := EStateM Fault Cursor α

namespace Reader

variable {α β σ : Type}

/-- Fails with a fault of the text, at the position of the byte fetched last. -/
def badFormat (error : FormatError) : Reader α := fun c =>
  .error (.malformed (.format error) (some c.position)) c

/-- Fails with a fault of the content, whose position is still to come. -/
def badContent (error : ContentError) : Reader α := fun c =>
  .error (.malformed (.content error) none) c

/-- The next byte, which is fetched and not consumed; nothing at the end of the input. -/
def peekByte : Reader (Option UInt8) := fun c =>
  match c.rest, c.ending with
  | b :: _, _ => .ok (some b) c.fetch
  | [], .complete => .ok none c
  | [], .failing cause => .error (.unreadable cause) c

/-- Consumes one byte. -/
def advance : Reader Unit := fun c =>
  .ok () c.advance

/-- The next byte, consumed. -/
def nextByte : Reader (Option UInt8) := do
  let b ← peekByte
  advance
  return b

/-- The next byte as the character of its number, not consumed. -/
def peek : Reader (Option Char) := do
  return (← peekByte).map Char.ofUInt8

/-- The next byte as the character of its number, consumed. -/
def next : Reader (Option Char) := do
  return (← nextByte).map Char.ofUInt8

/-- Gives a fault of the content the position that the reader has come to. -/
def located (read : Reader α) : Reader α := fun c =>
  match read c with
  | .ok a c => .ok a c
  | .error fault c => .error (fault.locate c.position) c

/-- Reads a body and what closes it. A fault of the body wins, but only after the closing part has
been tried, so that its position is the one behind the body. -/
def closedBy (body : Reader α) (close : Reader Unit) : Reader α := fun c =>
  match body c with
  | .ok a c =>
    match close c with
    | .ok () c => .ok a c
    | .error fault c => .error fault c
  | .error fault c =>
    match close c with
    | .ok () c => .error fault c
    | .error _ c => .error fault c

/-- Whether a loop goes on or is done. -/
inductive Step (σ α : Type) where
  | again (state : σ)
  | done (value : α)

/-- Repeats a step until it is done, at most once for each of some bytes and once more. -/
def repeatOver (step : σ → Reader (Step σ α)) : List UInt8 → σ → Reader α
  | [], state => do
    match ← step state with
    | .again _ => badFormat .endInValue
    | .done value => return value
  | _ :: bytes, state => do
    match ← step state with
    | .again state => repeatOver step bytes state
    | .done value => return value

/-- Repeats a step until it is done. A step that goes on consumes a byte, so that there are never
more rounds than bytes and one. -/
def iterate (step : σ → Reader (Step σ α)) (state : σ) : Reader α := fun c =>
  repeatOver step c.rest state c

/-- Whether a character may stand between the parts of a document. -/
def isGap (c : Char) : Bool :=
  c = ' ' || c = '\n' || c = '\t' || c = '\r'

/-- Skips gaps; the result is the next byte after them, not consumed. -/
def skipGaps : Reader (Option Char) :=
  iterate (fun _ => do
    match ← peek with
    | some c => if isGap c then do advance; return .again () else return .done (some c)
    | none => return .done none) ()

/-- Consumes digits, as far as they go. -/
def digitRun : Reader (List Nat) :=
  iterate (fun digits => do
    match ← peek with
    | some c =>
      if c.isDigit then do advance; return .again ((c.toNat - '0'.toNat) :: digits)
      else return .done digits.reverse
    | none => return .done digits.reverse) []

/-- Consumes the letters of a word. -/
def word : List Char → Reader Unit
  | [] => return ()
  | letter :: letters => do
    match ← next with
    | none => badFormat .endInValue
    | some c => if c = letter then word letters else badFormat .expectedWord

end Reader

/-- How closely a part of a document is looked at: a part that is skipped need only have the outline
of a value. -/
inductive Care where
  | checked
  | skipped
deriving DecidableEq, Inhabited

end Brickwork.Document
