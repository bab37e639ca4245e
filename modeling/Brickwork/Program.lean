import Brickwork.Error
import Brickwork.Log
import Brickwork.Note

/-!
# Resolved programs

An app is resolved before anything is made of it: it has one mode, its names are unique, and every
reference leads to a part that can be used in its place. All errors are collected, but an app
without a clear mode is refused at once.
-/

namespace Brickwork

/-- Whether an app has one machine of its own or several named ones. -/
inductive Mode where
  | single
  | multi
deriving DecidableEq, Inhabited

/-- The name of a mode. -/
def Mode.name : Mode → String
  | single => "Single"
  | multi => "Multi"

/-- A state machine, whichever mode it comes from: the app's own machine has no name and no
period. -/
structure Automaton where
  name : Option Identifier
  initial : Identifier
  states : List State
  period : Option UInt32
deriving DecidableEq, Inhabited

namespace Automaton

/-- What is appended to names in generated code to tell machines apart. -/
def suffix (automaton : Automaton) : String :=
  match automaton.name with
  | none => ""
  | some name => "_" ++ name.text

/-- The type of the machine's states. -/
def stateType (automaton : Automaton) : String :=
  "STATE" ++ automaton.suffix

/-- The constant of a state. -/
def constant (automaton : Automaton) (state : Identifier) : String :=
  state.text ++ automaton.suffix

/-- The variable that holds the current state. -/
def current (automaton : Automaton) : String :=
  "currentState" ++ automaton.suffix

/-- The variable that tells that a state was just entered. -/
def changed (automaton : Automaton) : String :=
  "stateChanged" ++ automaton.suffix

/-- The variable that holds when the machine last ran. -/
def lastRun (automaton : Automaton) : String :=
  "lastRun" ++ automaton.suffix

/-- The state of a name. -/
def state? (automaton : Automaton) (name : Identifier) : Option State :=
  automaton.states.find? fun state => state.name = name

/-- The constants of all states. -/
def constants (automaton : Automaton) : List String :=
  automaton.states.map fun state => automaton.constant state.name

end Automaton

/-! ## Mode and machines -/

/-- The mode of an app. An initial state alone also belongs to the app's own machine. -/
def App.mode (app : App) : Except GenerationError Mode :=
  match !app.states.isEmpty || app.initial.isSome, !app.machines.isEmpty with
  | true, false => .ok .single
  | false, true => .ok .multi
  | true, true => .error .mixedModes
  | false, false => .error .noMode

/-- A named machine as an automaton; it needs a period. -/
def Machine.automaton (machine : Machine) : Except GenerationError Automaton :=
  match machine.period with
  | some period => .ok ⟨some machine.name, machine.initial, machine.states, some period⟩
  | none => .error (.missingPeriod machine.name)

/-- The automata of an app. -/
def App.automata (app : App) : Mode → Except GenerationError (List Automaton)
  | .single =>
    match app.initial with
    | some initial => .ok [⟨none, initial, app.states, none⟩]
    | none => .error .noInitialState
  | .multi => app.machines.mapM Machine.automaton

/-! ## References -/

/-- What a brick is used for at a place that names it. -/
inductive Role where
  | digitalOutput
  | analogOutput
  | digitalInput
  | analogInput
  | serialLine
  | display
  | status
  | buzzer
deriving DecidableEq, Inhabited

namespace Role

/-- What is expected at such a place, in words. -/
def expected : Role → String
  | digitalOutput => "a digital actuator"
  | analogOutput => "an analog actuator"
  | digitalInput => "a digital brick"
  | analogInput => "an analog sensor"
  | serialLine => "a serial line"
  | display => "an LCD"
  | status => "a brick with a readable status"
  | buzzer => "a buzzer"

/-- Whether a brick of a category can be used so. -/
def admits : Role → Category → Bool
  | digitalOutput, .digitalActuator | digitalOutput, .buzzer => true
  | analogOutput, .analogActuator => true
  | digitalInput, .digitalSensor | digitalInput, .digitalActuator | digitalInput, .buzzer => true
  | analogInput, .analogSensor | analogInput, .temperatureSensor => true
  | serialLine, .serialLine _ => true
  | display, .lcdDisplay => true
  | status, .digitalSensor | status, .digitalActuator | status, .buzzer => true
  | status, .analogSensor | status, .temperatureSensor => true
  | buzzer, .buzzer => true
  | _, _ => false

end Role

/-- Something that a part of a model relies on. -/
inductive Demand where
  | brick (name : Identifier) (role : Role)
  | note (name : String)
  | state (name : Identifier)
deriving DecidableEq, Inhabited

/-- What a value for an analog actuator relies on. -/
def AnalogValue.demands : AnalogValue → List Demand
  | literal _ => []
  | sensor brick => [.brick brick .analogInput]

/-- What a piece of a display's text relies on. -/
def Segment.demands : Segment → List Demand
  | text _ => []
  | status brick => [.brick brick .status]

/-- What a pitch relies on. -/
def Pitch.demands : Pitch → List Demand
  | frequency _ => []
  | note name => [.note name]

/-- What an action relies on, in order. -/
def Action.demands : Action → List Demand
  | digitalWrite actuator _ => [.brick actuator .digitalOutput]
  | analogWrite actuator value => .brick actuator .analogOutput :: value.demands
  | serialPrint serial _ => [.brick serial .serialLine]
  | lcdUpdate display segments => .brick display .display :: segments.flatMap Segment.demands
  | tone buzzer pitch _ => .brick buzzer .buzzer :: pitch.demands
  | silence buzzer => [.brick buzzer .buzzer]

/-- What a condition relies on. -/
def Condition.demand : Condition → Demand
  | digital brick _ => .brick brick .digitalInput
  | analog brick _ _ => .brick brick .analogInput
  | serial brick _ => .brick brick .serialLine

/-- Whether a condition reads the serial line. -/
def Condition.readsSerial : Condition → Bool
  | serial _ _ => true
  | _ => false

/-- What a transition relies on: its guard from left to right, then its target. -/
def Transition.demands (transition : Transition) : List Demand :=
  transition.guard.conditions.map Condition.demand ++ [.state transition.next]

/-- What a state relies on: its actions, then its transitions. -/
def State.demands (state : State) : List Demand :=
  state.actions.flatMap Action.demands ++ state.transitions.flatMap Transition.demands

/-- What a machine relies on: its initial state, then all of its states. -/
def Automaton.demands (automaton : Automaton) : List Demand :=
  .state automaton.initial :: automaton.states.flatMap State.demands

/-- Whether a transition of the machine reads the serial line. -/
def Automaton.readsSerial (automaton : Automaton) : Bool :=
  automaton.states.any fun state => state.transitions.any fun transition =>
    transition.guard.conditions.any Condition.readsSerial

/-- The brick of a name; of several, the one declared last. -/
def App.brick (app : App) (name : Identifier) : Except GenerationError Brick :=
  match app.bricks.reverse.find? fun brick => brick.name = name with
  | some brick => .ok brick
  | none => .error (.unknownBrick name)

/-- Why a demand of a machine is not met, if it is not. -/
def App.unmet (app : App) (automaton : Automaton) : Demand → Option GenerationError
  | .brick name role =>
    match app.brick name with
    | .ok brick =>
      if role.admits brick.category then none
      else some (.wrongCategory name role.expected brick.category)
    | .error error => some error
  | .note name => if (Note.ofText? name).isSome then none else some (.unknownNote name)
  | .state name =>
    if (automaton.state? name).isSome then none else some (.unknownState name automaton.name)

/-! ## Names -/

/-- The entries of a list that occur before, in it or among those seen already. -/
def repeats {α : Type} [DecidableEq α] (seen : List α) : List α → List α
  | [] => []
  | a :: rest => if a ∈ seen then a :: repeats seen rest else repeats (a :: seen) rest

/-- The errors of state names: a repeated name, or a constant that another machine has too. Machines
without a name have no constants to share. -/
def Automaton.nameErrors (automaton : Automaton) (seen : List Identifier)
    (constants : List String) : List State → List GenerationError
  | [] => []
  | state :: rest =>
    if state.name ∈ seen then
      .duplicateName state.name :: automaton.nameErrors seen constants rest
    else if automaton.name.isNone then
      automaton.nameErrors (state.name :: seen) constants rest
    else
      let constant := automaton.constant state.name
      if constant ∈ constants then
        .duplicateName ⟨constant⟩ :: automaton.nameErrors (state.name :: seen) constants rest
      else automaton.nameErrors (state.name :: seen) (constant :: constants) rest

/-- The error of a machine name that was seen before. -/
def Automaton.ownNameErrors (automaton : Automaton) (seen : List Identifier) :
    List GenerationError :=
  match automaton.name with
  | some name => if name ∈ seen then [.duplicateName name] else []
  | none => []

/-- The errors of machines, in order, given the machine names and constants seen before. -/
def App.automataErrors (app : App) (names : List Identifier) (constants : List String) :
    List Automaton → List GenerationError
  | [] => []
  | automaton :: rest =>
    automaton.ownNameErrors names
      ++ automaton.nameErrors [] constants automaton.states
      ++ automaton.demands.filterMap (app.unmet automaton)
      ++ app.automataErrors (automaton.name.toList ++ names) (automaton.constants ++ constants) rest

/-! ## Peripherals -/

/-- The support that generated code needs. -/
structure Peripherals where
  lcd : Bool
  serial : Bool
  temperature : Bool
  serialInput : Bool
deriving DecidableEq, Inhabited

namespace Peripherals

/-- The names of what is needed. -/
def names (p : Peripherals) : List String :=
  [(p.lcd, "LCD"), (p.serial, "SERIAL"), (p.temperature, "TEMPERATURE"),
   (p.serialInput, "SERIAL_INPUT")].filterMap fun (needed, name) =>
     if needed then some name else none

/-- What is needed as a number, one bit for each. -/
def bits (p : Peripherals) : Nat :=
  p.lcd.toNat + 2 * p.serial.toNat + 4 * p.temperature.toNat + 8 * p.serialInput.toNat

end Peripherals

/-- The errors of further serial lines and displays behind the first of each. -/
def peripheralErrors (serial lcd : Option Identifier) : List Brick → List GenerationError
  | [] => []
  | brick :: rest =>
    match brick.category with
    | .serialLine _ =>
      match serial with
      | some first =>
        .duplicatePeripheral "serial line" first brick.name :: peripheralErrors serial lcd rest
      | none => peripheralErrors (some brick.name) lcd rest
    | .lcdDisplay =>
      match lcd with
      | some first =>
        .duplicatePeripheral "LCD" first brick.name :: peripheralErrors serial lcd rest
      | none => peripheralErrors serial (some brick.name) rest
    | _ => peripheralErrors serial lcd rest

/-- The support that an app with the given machines needs. -/
def App.peripherals (app : App) (automata : List Automaton) : Peripherals where
  lcd := app.bricks.any fun brick => brick.category = .lcdDisplay
  serial := app.bricks.any fun brick => brick.category.isSerialLine
  temperature := app.bricks.any fun brick => brick.category = .temperatureSensor
  serialInput := automata.any Automaton.readsSerial

/-! ## Resolution -/

/-- An app that firmware can be made for. -/
structure Program where
  app : App
  mode : Mode
  automata : List Automaton
  peripherals : Peripherals
deriving DecidableEq, Inhabited

/-- The errors of an app whose machines are known. -/
def App.errors (app : App) (automata : List Automaton) : List GenerationError :=
  (repeats [] (app.bricks.map Brick.name)).map .duplicateName
    ++ peripheralErrors none none app.bricks
    ++ app.automataErrors [] [] automata

/-- Resolves an app. -/
def App.resolve (app : App) : Except (List GenerationError) Program :=
  match app.mode with
  | .error error => .error [error]
  | .ok mode =>
    match app.automata mode with
    | .error error => .error [error]
    | .ok automata =>
      match app.errors automata with
      | [] => .ok ⟨app, mode, automata, app.peripherals automata⟩
      | errors => .error errors

/-- What is logged of a resolved app. -/
def Program.log (program : Program) : LogLine where
  level := .debug
  message :=
    let flags := match program.peripherals.names with
      | [] => "(empty)"
      | names => " | ".intercalate names
    "Resolved `" ++ program.app.name ++ "`: " ++ program.mode.name ++ " mode, "
      ++ Text.decimal program.automata.length ++ " machine(s), " ++ flags

end Brickwork
