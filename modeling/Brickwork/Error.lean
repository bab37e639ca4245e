import Brickwork.Model

/-!
# Errors of generation

Why no firmware can be made for a model, and the report of such errors.
-/

namespace Brickwork

/-- A reason why no firmware can be made. -/
inductive GenerationError where
  /-- The pool of a brick has no pin left. -/
  | exhausted (brick : Identifier) (pool : Pool)
  /-- The app has states of its own and machines too. -/
  | mixedModes
  /-- The app has neither states of its own nor machines. -/
  | noMode
  | missingPeriod (machine : Identifier)
  | unknownBrick (brick : Identifier)
  | unknownState (state : Identifier) (machine : Option Identifier)
  | noInitialState
  | unallocated (brick : Identifier)
  | duplicateName (name : Identifier)
  | wrongCategory (brick : Identifier) (expected : String) (found : Category)
  | pinConflict (pin : Pin) (first second : Identifier)
  | invalidPin (brick : Identifier) (pin : Pin)
  | incompatiblePin (brick : Identifier) (pin : Pin) (pool : Pool)
  | fixedWiring (brick : Identifier)
  | duplicatePeripheral (peripheral : String) (first second : Identifier)
  | unknownNote (note : String)
  /-- The finished text could not be written. -/
  | unwritable
deriving DecidableEq, Inhabited

/-- The error in words. -/
def GenerationError.message : GenerationError → String
  | exhausted brick pool => "No " ++ pool.name ++ " pin left for brick `" ++ brick.text ++ "`"
  | mixedModes => "Cannot mix `states` and `machines` in the same app"
  | noMode => "App must have either `states` or `machines`"
  | missingPeriod machine => "Machine `" ++ machine.text ++ "` has no scheduling period"
  | unknownBrick brick => "Brick `" ++ brick.text ++ "` is undefined"
  | unknownState state none => "State `" ++ state.text ++ "` is undefined"
  | unknownState state (some machine) =>
    "State `" ++ state.text ++ "` is undefined in machine `" ++ machine.text ++ "`"
  | noInitialState => "No initial state was declared"
  | unallocated brick => "Brick `" ++ brick.text ++ "` has no allocated pin"
  | duplicateName name => "Name `" ++ name.text ++ "` is defined more than once"
  | wrongCategory brick expected found =>
    "Brick `" ++ brick.text ++ "` is a " ++ found.name ++ ", expected " ++ expected
  | pinConflict pin first second =>
    "Pin " ++ pin.label ++ " is claimed by both `" ++ first.text ++ "` and `" ++ second.text ++ "`"
  | invalidPin brick pin =>
    "Pin " ++ pin.label ++ " of brick `" ++ brick.text ++ "` does not exist on this board"
  | incompatiblePin brick pin pool =>
    "Pin " ++ pin.label ++ " cannot serve brick `" ++ brick.text ++ "`, a " ++ pool.name
      ++ " pin is required"
  | fixedWiring brick =>
    "Brick `" ++ brick.text ++ "` has fixed wiring and cannot take a manual pin"
  | duplicatePeripheral peripheral first second =>
    "Only one " ++ peripheral ++ " is supported, found `" ++ first.text ++ "` and `"
      ++ second.text ++ "`"
  | unknownNote note =>
    "Unknown note `" ++ note ++ "`, expected something like `C4`, `F#5` or `Bb3`"
  | unwritable => "I/O error"

/-- Errors to report together, under one label. -/
structure Diagnostics where
  label : String := "error"
  errors : List GenerationError := []
deriving DecidableEq, Inhabited

/-- The report: a line for each error, and their number. -/
def Diagnostics.message (d : Diagnostics) : String :=
  match d.errors with
  | [] => "No errors were reported\n"
  | errors =>
    String.join (errors.map fun error => d.label ++ ": " ++ error.message ++ "\n")
      ++ "Build failed with " ++ Text.decimal errors.length
      ++ if errors.length = 1 then " error" else " errors"

end Brickwork
