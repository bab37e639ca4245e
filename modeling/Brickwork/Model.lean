import Brickwork.Brick
import Brickwork.Decimal.Layout

/-!
# Models

An app: its bricks, and either one anonymous state machine or several named machines that run side
by side. A state has actions to run on entry and guarded transitions to other states.
-/

namespace Brickwork

/-- The level of a digital pin. -/
inductive Level where
  | high
  | low
deriving DecidableEq, Inhabited

/-- The constant for a level in documents and generated code. -/
def Level.name : Level → String
  | .high => "HIGH"
  | .low => "LOW"

/-- How a reading is compared with a threshold. -/
inductive Comparison where
  | less
  | lessEqual
  | greater
  | greaterEqual
  | equal
  | notEqual
deriving DecidableEq, Inhabited

/-- The operator for a comparison in documents and generated code. -/
def Comparison.symbol : Comparison → String
  | .less => "<"
  | .lessEqual => "<="
  | .greater => ">"
  | .greaterEqual => ">="
  | .equal => "=="
  | .notEqual => "!="

/-- Thresholds are written without an exponent, and whole ones without a point. -/
def thresholdLayout : Decimal.Layout :=
  ⟨none, false, .up⟩

/-- How two guards are joined. -/
inductive Connective where
  | and
  | or
deriving DecidableEq, Inhabited

/-- The operator for a connective in generated code. -/
def Connective.symbol : Connective → String
  | .and => "&&"
  | .or => "||"

/-- One test of a guard. -/
inductive Condition where
  | digital (brick : Identifier) (level : Level)
  | analog (brick : Identifier) (comparison : Comparison) (threshold : Float)
  | serial (brick : Identifier) (message : String)
deriving DecidableEq, Inhabited

/-- The brick that a condition reads. -/
def Condition.brick : Condition → Identifier
  | digital brick _ | analog brick _ _ | serial brick _ => brick

/-- When a transition may fire: conditions joined by connectives. -/
inductive Guard where
  | condition (condition : Condition)
  | binary (left : Guard) (connective : Connective) (right : Guard)
deriving DecidableEq, Inhabited

/-- The conditions of a guard, from left to right. -/
def Guard.conditions : Guard → List Condition
  | condition c => [c]
  | binary left _ right => left.conditions ++ right.conditions

/-- What an analog actuator is set to. -/
inductive AnalogValue where
  | literal (value : UInt8)
  | sensor (brick : Identifier)
deriving DecidableEq, Inhabited

/-- A piece of what a display shows. -/
inductive Segment where
  | text (content : String)
  | status (brick : Identifier)
deriving DecidableEq, Inhabited

/-- How high a buzzer sounds. -/
inductive Pitch where
  | frequency (hertz : UInt32)
  | note (name : String)
deriving DecidableEq, Inhabited

/-- Something that is done when a state is entered. -/
inductive Action where
  | digitalWrite (actuator : Identifier) (level : Level)
  | analogWrite (actuator : Identifier) (value : AnalogValue)
  | serialPrint (serial : Identifier) (message : String)
  | lcdUpdate (display : Identifier) (segments : List Segment)
  | tone (buzzer : Identifier) (pitch : Pitch) (duration : Option UInt32)
  | silence (buzzer : Identifier)
deriving DecidableEq, Inhabited

/-- A way out of a state. -/
structure Transition where
  guard : Guard
  next : Identifier
deriving DecidableEq, Inhabited

/-- A state of a machine. -/
structure State where
  name : Identifier
  actions : List Action := []
  transitions : List Transition := []
deriving DecidableEq, Inhabited

/-- A named machine; its period says how often it runs, in milliseconds. -/
structure Machine where
  name : Identifier
  initial : Identifier
  states : List State
  period : Option UInt32 := none
deriving DecidableEq, Inhabited

/-- A whole model. -/
structure App where
  name : String
  bricks : List Brick := []
  initial : Option Identifier := none
  states : List State := []
  machines : List Machine := []
deriving DecidableEq, Inhabited

end Brickwork
