import Brickwork.Sketch.Dispatching

/-!
# Sketches

The parts of a sketch in their fixed order: header, pin summary, declarations, helpers, `setup` and
`loop`.
-/

namespace Brickwork

open Code

namespace Plan

/-- The header, with the name of the app as it is. -/
def header (plan : Plan) : List Item :=
  [.comment "Wiring code generated from an ArduinoML model",
   .comment ("Application name: " ++ plan.program.app.name), .blank]

/-- A connection in words. -/
def wiringText : Wiring → String
  | .pin pin => "Pin " ++ pin.label
  | .serial => "Pins D0/D1 (hardware serial)"
  | .lcd pins => "Pins " ++ ", ".intercalate (pins.map Pin.label) ++ " (fixed wiring)"

/-- The line of the summary for one brick. -/
def summaryLine (entry : Entry) : Item :=
  .comment ("  " ++ entry.brick.text ++ " (" ++ entry.category.name ++ "): "
    ++ wiringText entry.wiring)

/-- The pin summary. -/
def summary (plan : Plan) : List Item :=
  .comment "Pin Allocation Summary:" :: plan.pins.entries.map summaryLine ++ [.blank]

/-- The declaration of the display. -/
def displayItems (plan : Plan) : List Item :=
  [.library "LiquidCrystal.h", .blank,
   .object "LiquidCrystal" "lcd" plan.options.board.lcdWiring, .blank]

/-- The declarations of a machine. -/
def automatonItems (plan : Plan) (automaton : Automaton) : List Item :=
  [.enumeration automaton.stateType automaton.constants,
   .global automaton.stateType automaton.current (.name (automaton.constant automaton.initial)),
   .global "bool" automaton.changed (.name "true")]
    ++ (match plan.program.mode with
      | .single => []
      | .multi => [.global "unsigned long" automaton.lastRun (.natural 0)])
    ++ [.blank]

/-- The variables of the digital sensors. -/
def debounceItems (plan : Plan) : List Item :=
  let sensors := plan.program.app.bricks.filter fun brick => brick.category = .digitalSensor
  let declarations := sensors.map fun brick =>
    Item.global "unsigned long" (debounceVariable brick.name) (.natural 0)
  if declarations.isEmpty then [] else declarations ++ [.blank]

/-- The helper that turns the reading of a temperature sensor into degrees. -/
def temperatureItems : List Item :=
  [.comment "TMP36: 10 mV per degree C with a 500 mV offset, 10-bit ADC at 5 V",
   .function "float" "readTemperature" "int pin" (List.map Block.step
     [.declare "int" "reading" (.apply "analogRead" (.name "pin")),
      .declare "float" "voltage"
        (.binary .divide (.binary .times (.name "reading") (.number "5.0")) (.number "1024.0")),
      .give (.binary .times
        (.group (.binary .minus (.name "voltage") (.number "0.5"))) (.number "100.0"))]),
   .blank]

/-- The declarations and helpers. -/
def globals (plan : Plan) : List Item :=
  let needs := plan.program.peripherals
  (if needs.lcd then plan.displayItems else [])
    ++ [.constant "unsigned long" "debounce" (.natural plan.options.debounce.toNat), .blank]
    ++ plan.program.automata.flatMap plan.automatonItems
    ++ plan.debounceItems
    ++ (if needs.serialInput then [.global "String" "serialInput" (.text ""), .blank] else [])
    ++ (if needs.temperature then temperatureItems else [])

/-- All parts of the sketch. -/
def items (plan : Plan) : Except GenerationError (List Item) := do
  let setup ← plan.program.app.bricks.mapM plan.setup
  let loop ← plan.loop
  return plan.header ++ plan.summary ++ plan.globals
    ++ [.function "void" "setup" "" (setup.map Block.step), .blank,
        .function "void" "loop" "" loop]

end Plan

end Brickwork
