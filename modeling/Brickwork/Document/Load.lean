import Brickwork.Document.Models
import Brickwork.Log

/-!
# Loading a model

Reading a whole document as an app, with errors that name where the document came from.
-/

namespace Brickwork

open Document

/-- Why a model could not be loaded. -/
inductive LoadError where
  | unreadable (source cause : String)
  | malformed (source : String) (reason : Reason) (position : Position)
deriving DecidableEq

/-- A position in short. -/
def Document.Position.text (position : Position) : String :=
  Text.decimal position.line ++ ":" ++ Text.decimal position.column

namespace LoadError

/-- What lies behind the error, in words. -/
def cause : LoadError → String
  | unreadable _ cause => cause
  | malformed _ reason position => (Fault.malformed reason (some position)).message

/-- The error in words. -/
def message : LoadError → String
  | unreadable source _ => source ++ ": failed to read model"
  | malformed source reason position =>
    source ++ ":" ++ position.text ++ ": " ++ (malformed source reason position).cause

/-- The error for a fault of the document. -/
def ofFault (source : String) : Fault → LoadError
  | .unreadable cause => unreadable source cause
  | .malformed reason position => malformed source reason (position.getD ⟨0, 0⟩)

end LoadError

/-- Loads an app from an input that has a name. -/
def App.load (source : String) (input : Input) : Except LoadError App :=
  ((Reader.app maxRoom).run input).mapError (LoadError.ofFault source)

/-- What is logged of an app that was loaded. -/
def App.loadLog (app : App) (source : String) : LogLine where
  level := .debug
  message := "Loaded `" ++ app.name ++ "` from " ++ source ++ ": "
    ++ Text.decimal app.bricks.length ++ " brick(s), "
    ++ Text.decimal app.states.length ++ " state(s), "
    ++ Text.decimal app.machines.length ++ " machine(s)"

end Brickwork
