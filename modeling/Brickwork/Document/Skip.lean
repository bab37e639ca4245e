import Brickwork.Document.Number
import Brickwork.Document.Strings

/-!
# Skipped values

A value that nobody asked for is passed over. It may be nested to any depth, so the brackets that
are open are kept in a list.
-/

namespace Brickwork.Document.Reader

/-- A bracket that is open. -/
inductive Frame where
  | list
  | object
deriving DecidableEq, Inhabited

/-- The fault of an input that ends inside a bracket. -/
def Frame.unclosed : Frame → FormatError
  | list => .endInList
  | object => .endInObject

/-- The fault of a bracket that neither goes on nor closes. -/
def Frame.unseparated : Frame → FormatError
  | list => .expectedListEnd
  | object => .expectedObjectEnd

/-- Whether a character closes the bracket. -/
def Frame.isClosedBy : Frame → Char → Bool
  | list, c => c = ']'
  | object, c => c = '\x7d'

/-- Passes over a value that is no bracket, or over an opening bracket, which is the result. -/
def skipScalar : Reader (Option Frame) := do
  match ← skipGaps with
  | none => badFormat .endInValue
  | some c =>
    if c = 'n' then do advance; word ['u', 'l', 'l']; return none
    else if c = 't' then do advance; word ['r', 'u', 'e']; return none
    else if c = 'f' then do advance; word ['a', 'l', 's', 'e']; return none
    else if c = '-' then do advance; skipNumber; return none
    else if c.isDigit then do skipNumber; return none
    else if c = '"' then do advance; skipString; return none
    else if c = '[' then do advance; return some .list
    else if c = '\x7b' then do advance; return some .object
    else badFormat .expectedValue

/-- Passes over the key of a member and the colon behind it. -/
def skipKey : Reader Unit := do
  match ← skipGaps with
  | some '"' => advance
  | some _ => badFormat .keyNotString
  | none => badFormat .endInObject
  skipString
  match ← skipGaps with
  | some ':' => advance
  | some _ => badFormat .expectedColon
  | none => badFormat .endInObject

/-- Passes over closing brackets and a comma behind a value, or behind an opening bracket if
`fresh`. The result is the brackets that stay open and want another value; none if all are
closed. -/
def skipClosings (fresh : Bool) (frames : List Frame) : Reader (List Frame) :=
  iterate (fun (fresh, frames) => do
    match frames with
    | [] => return .done []
    | frame :: outer =>
      match ← skipGaps with
      | none => badFormat frame.unclosed
      | some c =>
        if c = ',' && !fresh then do advance; return .done frames
        else if frame.isClosedBy c then do advance; return .again (false, outer)
        else if fresh then return .done frames
        else badFormat frame.unseparated) (fresh, frames)

/-- Passes over a value. -/
def skipValue : Reader Unit :=
  iterate (fun frames => do
    let opened ← skipScalar
    let frames ← match opened with
      | some frame => skipClosings true (frame :: frames)
      | none => skipClosings false frames
    match frames with
    | [] => return .done ()
    | .object :: _ => do skipKey; return .again frames
    | .list :: _ => return .again frames) ([] : List Frame)

end Brickwork.Document.Reader
