import Brickwork.Document.Bricks

/-!
# Models in documents

How each part of a model is written in a document, from the leaves up to the whole app.
-/

namespace Brickwork.Document.Reader

/-- The level of a digital pin. -/
def level (room : Nat) : Reader Level :=
  tagged room ([Level.high, .low].map fun level => (level.name, .unit level))

/-- The connective of two guards. -/
def connective (room : Nat) : Reader Connective :=
  tagged room [("and", .unit .and), ("or", .unit .or)]

/-- A comparison with a threshold. -/
def comparison (room : Nat) : Reader Comparison :=
  tagged room ([Comparison.less, .lessEqual, .greater, .greaterEqual, .equal, .notEqual].map
    fun comparison => (comparison.symbol, .unit comparison))

/-- A condition. -/
def condition (room : Nat) : Reader Condition :=
  tagged room
    [("digital", .fields do
      let (brick, level, _) ← record "struct variant Condition::Digital" (room - 1)
        (.cons { key := "brick", read := identifier }
        (.cons { key := "level", read := level (room - 2) } .nil))
      return .digital brick level),
     ("analog", .fields do
      let (brick, comparison, threshold, _) ← record "struct variant Condition::Analog" (room - 1)
        (.cons { key := "brick", read := identifier }
        (.cons { key := "operator", read := comparison (room - 2) }
        (.cons { key := "threshold", read := float } .nil)))
      return .analog brick comparison threshold),
     ("serial", .fields do
      let (brick, message, _) ← record "struct variant Condition::Serial" (room - 1)
        (.cons { key := "brick", read := identifier }
        (.cons { key := "message", read := string } .nil))
      return .serial brick message)]

/-- A guard whose sides are read by `side`, if it has any. -/
def guardNode (room : Nat) (side : Reader Guard) : Reader Guard :=
  tagged room
    [("condition", .single do return .condition (← condition (room - 1))),
     ("binary", .fields do
      let (left, connective, right, _) ← record "struct variant Expression::Binary" (room - 1)
        (.cons { key := "left", read := side }
        (.cons { key := "operator", read := connective (room - 2) }
        (.cons { key := "right", read := side } .nil)))
      return .binary left connective right)]

/-- A guard. A binary node opens two brackets around each of its sides. -/
def guard : Nat → Reader Guard
  | 0 => guardNode 0 (badFormat .tooDeep)
  | 1 => guardNode 1 (badFormat .tooDeep)
  | room + 2 => guardNode (room + 2) (guard room)

/-- The value for an analog actuator. -/
def analogValue (room : Nat) : Reader AnalogValue :=
  tagged room
    [("literal", .single do return .literal (← byte)),
     ("sensor", .single do return .sensor (← identifier))]

/-- A piece of what a display shows. -/
def segment (room : Nat) : Reader Segment :=
  tagged room
    [("text", .single do return .text (← string)),
     ("status", .single do return .status (← identifier))]

/-- The pitch of a tone. -/
def pitch (room : Nat) : Reader Pitch :=
  tagged room
    [("frequency", .single do return .frequency (← word32)),
     ("note", .single do return .note (← string))]

/-- An action. -/
def action (room : Nat) : Reader Action :=
  tagged room
    [("digital_write", .fields do
      let (actuator, level, _) ← record "struct variant Action::DigitalWrite" (room - 1)
        (.cons { key := "actuator", read := identifier }
        (.cons { key := "level", read := level (room - 2) } .nil))
      return .digitalWrite actuator level),
     ("analog_write", .fields do
      let (actuator, value, _) ← record "struct variant Action::AnalogWrite" (room - 1)
        (.cons { key := "actuator", read := identifier }
        (.cons { key := "value", read := analogValue (room - 2) } .nil))
      return .analogWrite actuator value),
     ("serial_print", .fields do
      let (serial, message, _) ← record "struct variant Action::SerialPrint" (room - 1)
        (.cons { key := "serial", read := identifier }
        (.cons { key := "message", read := string } .nil))
      return .serialPrint serial message),
     ("lcd_update", .fields do
      let (display, segments, _) ← record "struct variant Action::LcdUpdate" (room - 1)
        (.cons { key := "display", read := identifier }
        (.cons { key := "segments", read := list (room - 2) (segment (room - 3)) } .nil))
      return .lcdUpdate display segments),
     ("tone", .fields do
      let (buzzer, pitch, duration, _) ← record "struct variant Action::Tone" (room - 1)
        (.cons { key := "buzzer", read := identifier }
        (.cons { key := "pitch", read := pitch (room - 2) }
        (.cons { key := "duration", default := some none, read := optional word32 } .nil)))
      return .tone buzzer pitch duration),
     ("silence", .fields do
      let (buzzer, _) ← record "struct variant Action::Silence" (room - 1)
        (.cons { key := "buzzer", read := identifier } .nil)
      return .silence buzzer)]

/-- A transition. -/
def transition (room : Nat) : Reader Transition := do
  let (guard, next, _) ← record "struct Transition" room
    (.cons { key := "guard", read := guard (room - 1) }
    (.cons { key := "next", read := identifier } .nil))
  return { guard, next }

/-- A state. -/
def state (room : Nat) : Reader State := do
  let (name, actions, transitions, _) ← record "struct State" room
    (.cons { key := "name", read := identifier }
    (.cons { key := "actions", default := some [], read := list (room - 1) (action (room - 2)) }
    (.cons { key := "transitions", default := some []
             read := list (room - 1) (transition (room - 2)) } .nil)))
  return { name, actions, transitions }

/-- A machine. -/
def machine (room : Nat) : Reader Machine := do
  let (name, initial, states, period, _) ← record "struct Machine" room
    (.cons { key := "name", read := identifier }
    (.cons { key := "initial", read := identifier }
    (.cons { key := "states", read := list (room - 1) (state (room - 2)) }
    (.cons { key := "period", default := some none, read := optional word32 } .nil))))
  return { name, initial, states, period }

/-- An app. -/
def app (room : Nat) : Reader App := do
  let (name, bricks, initial, states, machines, _) ← record "struct App" room
    (.cons { key := "name", read := string }
    (.cons { key := "bricks", default := some [], read := list (room - 1) (brick (room - 2)) }
    (.cons { key := "initial", default := some none, read := optional identifier }
    (.cons { key := "states", default := some [], read := list (room - 1) (state (room - 2)) }
    (.cons { key := "machines", default := some []
             read := list (room - 1) (machine (room - 2)) } .nil)))))
  return { name, bricks, initial, states, machines }

end Brickwork.Document.Reader
