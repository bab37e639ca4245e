import Brickwork.Allocation
import Brickwork.Code.Statement
import Brickwork.Program

/-!
# Plans

What a sketch is made from: a resolved program, the pins of its bricks, and the options. From here
come the expressions and steps for single bricks, conditions and actions.
-/

namespace Brickwork

/-- What is chosen besides the model. -/
structure Options where
  board : Board := .uno
  /-- The least time between transitions that the same digital sensor takes part in, in
  milliseconds. -/
  debounce : UInt32 := 200
deriving DecidableEq, Inhabited

/-- What a sketch is made from. -/
structure Plan where
  program : Program
  pins : Allocation
  options : Options

namespace Plan

open Code

/-- The category of a brick that is referred to. -/
def category (plan : Plan) (name : Identifier) : Except GenerationError Category :=
  (plan.program.app.brick name).map Brick.category

/-- The reading of a digital pin, compared with a level. -/
def digitalTest (pin : Pin) (level : Level) : Expr :=
  .compare .equal (.apply "digitalRead" (.pin pin)) (.name level.name)

/-- The test of a condition. -/
def condition (plan : Plan) : Condition → Except GenerationError Expr
  | .digital brick level => do
    match ← plan.category brick with
    | .digitalSensor | .digitalActuator | .buzzer =>
      return digitalTest (← plan.pins.pin brick) level
    | found => throw (.wrongCategory brick Role.digitalInput.expected found)
  | .analog brick comparison threshold => do
    let limit := Expr.number (thresholdLayout.text threshold)
    match ← plan.category brick with
    | .analogSensor =>
      return .compare comparison (.apply "analogRead" (.pin (← plan.pins.pin brick))) limit
    | .temperatureSensor =>
      return .compare comparison (.apply "readTemperature" (.pin (← plan.pins.pin brick))) limit
    | found => throw (.wrongCategory brick Role.analogInput.expected found)
  | .serial brick message => do
    match ← plan.category brick with
    | .serialLine _ => return .compare .equal (.name "serialInput") (.text message)
    | found => throw (.wrongCategory brick Role.serialLine.expected found)

/-- The expression that shows the status of a brick. -/
def status (plan : Plan) (brick : Identifier) : Except GenerationError Expr := do
  match ← plan.category brick with
  | .digitalSensor =>
    return .choice (digitalTest (← plan.pins.pin brick) .high) (.text "HIGH") (.text "LOW")
  | .digitalActuator | .buzzer =>
    return .choice (digitalTest (← plan.pins.pin brick) .high) (.text "ON") (.text "OFF")
  | .analogSensor => return .apply "analogRead" (.pin (← plan.pins.pin brick))
  | .temperatureSensor => return .apply "readTemperature" (.pin (← plan.pins.pin brick))
  | found => throw (.wrongCategory brick Role.status.expected found)

/-- The expression for the value of an analog actuator. -/
def analogValue (plan : Plan) : AnalogValue → Except GenerationError Expr
  | .literal value => return .natural value.toNat
  | .sensor brick => return .apply "analogRead" (.pin (← plan.pins.pin brick))

/-- The expression for a piece of a display's text. -/
def segment (plan : Plan) : Segment → Except GenerationError Expr
  | .text content => return .text content
  | .status brick => plan.status brick

/-- The frequency of a pitch in hertz. -/
def hertz (pitch : Pitch) (power : Float → Float → Float := Float.pow) :
    Except GenerationError Nat :=
  match pitch with
  | .frequency hertz => return hertz.toNat
  | .note name =>
    match Note.frequency? name power with
    | some hertz => return hertz
    | none => throw (.unknownNote name)

/-- The steps of an action. -/
def action (plan : Plan) : Action → Except GenerationError (List Step)
  | .digitalWrite actuator level => do
    return [.run (.apply "digitalWrite"
      (.both (.pin (← plan.pins.pin actuator)) (.name level.name)))]
  | .analogWrite actuator value => do
    let pin ← plan.pins.pin actuator
    return [.run (.apply "analogWrite" (.both (.pin pin) (← plan.analogValue value)))]
  | .serialPrint _ message => return [.run (.apply "Serial.println" (.text message))]
  | .lcdUpdate _ segments => do
    let pieces ← segments.mapM plan.segment
    return [.run (.call "lcd.clear"),
      .run (.apply "lcd.setCursor" (.both (.natural 0) (.natural 0)))]
      ++ pieces.map fun piece => .run (.apply "lcd.print" piece)
  | .tone buzzer pitch duration => do
    let pin ← plan.pins.pin buzzer
    let hertz ← hertz pitch
    let arguments := match duration with
      | none => Expr.natural hertz
      | some duration => .both (.natural hertz) (.natural duration.toNat)
    return [.run (.apply "tone" (.both (.pin pin) arguments))]
  | .silence buzzer => return [.run (.apply "noTone" (.pin (← plan.pins.pin buzzer)))]

/-- Whether a brick is read, rather than driven, through its pin. -/
def isInput : Category → Bool
  | .digitalSensor | .analogSensor | .temperatureSensor => true
  | _ => false

/-- The step that sets a brick up. -/
def setup (plan : Plan) (brick : Brick) : Except GenerationError Step := do
  let remark := brick.name.text ++ " [" ++ brick.category.name ++ "]"
  match brick.category with
  | .serialLine baud => return .remarked (.apply "Serial.begin" (.natural baud.toNat)) remark
  | .lcdDisplay =>
    let (columns, rows) := plan.options.board.lcdGeometry
    return .remarked (.apply "lcd.begin" (.both (.natural columns) (.natural rows))) remark
  | category =>
    let direction := if isInput category then "INPUT" else "OUTPUT"
    let pin ← plan.pins.pin brick.name
    return .remarked (.apply "pinMode" (.both (.pin pin) (.name direction))) remark

end Plan

end Brickwork
