import Brickwork.CommandLine.Run

/-!
# The program

The outer layer of the command line: sends the requests of a script to the operating system. What is
read, printed and written is decided by the script alone.
-/

namespace Brickwork.CommandLine

open Document (Input)

/-- What the operating system says of an error. -/
def systemCause : IO.Error → String
  | .noFileOrDirectory _ code details => described code details
  | .inappropriateType _ code details => described code details
  | .permissionDenied _ code details => described code details
  | .resourceExhausted _ code details => described code details
  | .resourceBusy code details => described code details
  | .hardwareFault code details => described code details
  | .invalidArgument _ code details => described code details
  | .otherError code details => described code details
  | error => toString error
where
  /-- A description with its number. -/
  described (code : UInt32) (details : String) : String :=
    details ++ " (os error " ++ Text.decimal code.toNat ++ ")"

/-- What an action gives, or why it fails. -/
def attempt {α : Type} (action : IO α) : IO (Except String α) := do
  try
    return .ok (← action)
  catch error => return .error (systemCause error)

/-- Reads block after block until there is no more, or until reading fails. -/
partial def readAll (block : IO ByteArray) (bytes : ByteArray) : IO Input := do
  match ← attempt block with
  | .ok more =>
    if more.isEmpty then return ⟨bytes.toList, .complete⟩ else readAll block (bytes ++ more)
  | .error cause => return ⟨bytes.toList, .failing cause⟩

/-- The bytes that are read at a time. -/
def blockSize : USize := 65536

/-- Carries out a script. -/
def Script.execute : Script → IO UInt32
  | exit code => return code
  | print text next => do
    let answer ← attempt do
      let stdout ← IO.getStdout
      stdout.putStr text
      stdout.flush
    (next answer).execute
  | tell text next => do
    IO.eprint text
    next.execute
  | readStandard next => do
    let stdin ← IO.getStdin
    (next (← readAll (stdin.read blockSize) .empty)).execute
  | readFile path next => do
    match ← attempt (IO.FS.Handle.mk path .read) with
    | .ok handle => (next (.ok (← readAll (handle.read blockSize) .empty))).execute
    | .error cause => (next (.error cause)).execute
  | writeFile path text next => do
    let answer ← attempt (IO.FS.writeFile path text)
    (next answer).execute

end Brickwork.CommandLine

open Brickwork.CommandLine

/-- Runs the program. -/
def main (words : List String) : IO UInt32 :=
  (script words).execute
