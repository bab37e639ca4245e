import Brickwork.Proofs.Declarations
import Brickwork.Proofs.Footprint

/-!
# Support that sketches declare

Beside its machines a sketch declares support: a variable for each digital sensor, one for the line
that was read, a function for temperatures, an object for the display. What it declares follows from
the kinds of the bricks and from the guards; what it uses follows from what was emitted for each
action and guard. Here the two are shown to agree, and that the variable of a sensor is declared
just once unless a machine has the same name for something of its own.
-/

namespace Brickwork

open Code

/-! ## What loops use -/

/-- Functions for bricks that an app has. -/
structure App.Serves (app : App) (function : String) : Prop where
  temperature : function = "readTemperature" →
    ∃ brick ∈ app.bricks, brick.category = .temperatureSensor
  display : "lcd.".toList <+: function.toList → ∃ brick ∈ app.bricks, brick.category = .lcdDisplay
  serial : "Serial.".toList <+: function.toList →
    ∃ brick ∈ app.bricks, ∃ baud, brick.category = .serialLine baud

/-- What a loop of an app may call: the bricks that it is for are there, and it sets up none. -/
structure App.Calls (app : App) (function : String) : Prop extends app.Serves function where
  running : function ∉ ["Serial.begin", "lcd.begin", "pinMode"]

namespace App.Calls

variable {app : App} {function : String}

lemma of_plain
    (mem : function ∈ ["millis", "digitalRead", "analogRead", "digitalWrite", "analogWrite",
    "tone", "noTone", "serialInput.trim"]) : app.Calls function := by
  have apart : ∀ function ∈ ["millis", "digitalRead", "analogRead", "digitalWrite", "analogWrite",
      "tone", "noTone", "serialInput.trim"],
      function ≠ "readTemperature" ∧ ¬"lcd.".toList <+: function.toList ∧
        ¬"Serial.".toList <+: function.toList ∧
        function ∉ ["Serial.begin", "lcd.begin", "pinMode"] := by decide
  obtain ⟨temperature, display, serial, running⟩ := apart function mem
  exact ⟨⟨fun eq => (temperature eq).elim, fun front => (display front).elim,
    fun front => (serial front).elim⟩, running⟩

lemma of_temperature (has : ∃ brick ∈ app.bricks, brick.category = .temperatureSensor) :
    app.Calls "readTemperature" where
  temperature _ := has
  display front := absurd front (by decide)
  serial front := absurd front (by decide)
  running := by decide

lemma of_display (mem : function ∈ ["lcd.clear", "lcd.setCursor", "lcd.print"])
    (has : ∃ brick ∈ app.bricks, brick.category = .lcdDisplay) : app.Calls function := by
  have apart : ∀ function ∈ ["lcd.clear", "lcd.setCursor", "lcd.print"],
      function ≠ "readTemperature" ∧ ¬"Serial.".toList <+: function.toList ∧
        function ∉ ["Serial.begin", "lcd.begin", "pinMode"] := by decide
  obtain ⟨temperature, serial, running⟩ := apart function mem
  exact ⟨⟨fun eq => (temperature eq).elim, fun _ => has, fun front => (serial front).elim⟩, running⟩

lemma of_serial (mem : function ∈ ["Serial.println", "Serial.available", "Serial.readStringUntil"])
    (has : ∃ brick ∈ app.bricks, ∃ baud, brick.category = .serialLine baud) :
    app.Calls function := by
  have apart : ∀ function ∈ ["Serial.println", "Serial.available", "Serial.readStringUntil"],
      function ≠ "readTemperature" ∧ ¬"lcd.".toList <+: function.toList ∧
        function ∉ ["Serial.begin", "lcd.begin", "pinMode"] := by decide
  obtain ⟨temperature, display, running⟩ := apart function mem
  exact ⟨⟨fun eq => (temperature eq).elim, fun front => (display front).elim, fun _ => has⟩,
    running⟩

end App.Calls

/-- What a loop reads or writes, the constants of states apart. -/
inductive Program.Reads (program : Program) : String → Prop
  | word {name} (mem : name ∈ ["HIGH", "LOW", "true", "false", "debounce", "currentMillis"]) :
    Reads program name
  | line (reads : program.peripherals.serialInput = true) : Reads program "serialInput"
  | stamp {sensor} (known : program.app.isDigitalSensor sensor = true) :
    Reads program (debounceVariable sensor)
  | machine {name} (mem : name ∈ program.machineNames) : Reads program name

namespace Program.Reads

variable {program : Program} {name : String} (reads : program.Reads name)

include reads

lemma line_of_eq (eq : name = "serialInput") : program.peripherals.serialInput = true := by
  cases reads with
  | word mem =>
    rw [eq] at mem
    exact absurd mem (by decide)
  | line reads => exact reads
  | stamp => exact (debounceVariable_ne _ (by decide) eq).elim
  | machine mem =>
    rw [eq] at mem
    exact (not_mem_machineNames (by decide) mem).elim

/-- The variable of a sensor is read for a sensor, unless a machine has the same name. -/
lemma sensor_of_eq {sensor : Identifier} (eq : name = debounceVariable sensor) :
    program.app.isDigitalSensor sensor = true ∨ debounceVariable sensor ∈ program.machineNames := by
  cases reads with
  | word mem =>
    have short : ∀ name ∈ ["HIGH", "LOW", "true", "false", "debounce", "currentMillis"],
        name.length < 16 := by decide
    exact (debounceVariable_ne sensor (short name mem) eq.symm).elim
  | line => exact (debounceVariable_ne sensor (by decide) eq.symm).elim
  | stamp known =>
    cases debounceVariable_inj eq
    exact .inl known
  | machine mem =>
    rw [eq] at mem
    exact .inr mem

end Program.Reads

namespace Program

variable {program : Program} {automaton : Automaton} (mem : automaton ∈ program.automata)

include mem

lemma mem_machineNames {front : String} (own : front ∈ fronts program.mode) :
    front ++ automaton.suffix ∈ program.machineNames := by
  rw [machineNames_eq]
  exact List.mem_flatMap.mpr ⟨automaton, mem, List.mem_map_of_mem own⟩

lemma current_mem : automaton.current ∈ program.machineNames :=
  mem_machineNames mem (by cases program.mode <;> decide)

lemma changed_mem : automaton.changed ∈ program.machineNames :=
  mem_machineNames mem (by cases program.mode <;> decide)

lemma lastRun_mem (multi : program.mode = .multi) : automaton.lastRun ∈ program.machineNames :=
  mem_machineNames mem (by rw [multi]; decide)

lemma constant_mem {name : Identifier} (known : name ∈ automaton.states.map State.name) :
    automaton.constant name ∈ program.constants := by
  obtain ⟨state, within, rfl⟩ := List.mem_map.mp known
  exact List.mem_flatMap.mpr ⟨automaton, mem, List.mem_map.mpr ⟨state, within, rfl⟩⟩

end Program

namespace Plan

variable {plan : Plan} {automaton : Automaton}

/-- Expressions of a loop. -/
def Uses (plan : Plan) (expr : Expr) : Prop :=
  expr.Uses plan.program.app.Calls plan.program.Reads

lemma uses_analogRead (pin : Pin) : plan.Uses (.apply "analogRead" (.pin pin)) :=
  ⟨.of_plain (by decide), trivial⟩

lemma uses_readTemperature {brick} (found : plan.category brick = .ok .temperatureSensor)
    (pin : Pin) :
    plan.Uses (.apply "readTemperature" (.pin pin)) :=
  have ⟨sensor, mem, _, category⟩ := brick_of_category found
  ⟨.of_temperature ⟨sensor, mem, category⟩, trivial⟩

lemma uses_level (level : Level) : plan.Uses (.name level.name) :=
  .word (by cases level <;> decide)

lemma uses_digitalTest (pin : Pin) (level : Level) : plan.Uses (digitalTest pin level) :=
  ⟨⟨.of_plain (by decide), trivial⟩, uses_level level⟩

/-- A condition reads the line only if it is one on the serial line. -/
lemma uses_condition {condition test}
    (line : condition.readsSerial = true → plan.program.peripherals.serialInput = true)
    (h : plan.condition condition = .ok test) : plan.Uses test := by
  cases condition with
  | digital brick level =>
    obtain ⟨category, _, h⟩ := bind_eq_ok.mp h
    cases category
    case digitalSensor | digitalActuator | buzzer =>
      obtain ⟨pin, _, h⟩ := bind_eq_ok.mp h
      cases h
      exact uses_digitalTest pin level
    all_goals cases h
  | analog brick comparison threshold =>
    obtain ⟨category, found, h⟩ := bind_eq_ok.mp h
    cases category
    case analogSensor =>
      obtain ⟨pin, _, h⟩ := bind_eq_ok.mp h
      cases h
      exact ⟨uses_analogRead pin, trivial⟩
    case temperatureSensor =>
      obtain ⟨pin, _, h⟩ := bind_eq_ok.mp h
      cases h
      exact ⟨uses_readTemperature found pin, trivial⟩
    all_goals cases h
  | serial brick message =>
    obtain ⟨category, _, h⟩ := bind_eq_ok.mp h
    cases category
    case serialLine =>
      cases h
      exact ⟨.line (line rfl), trivial⟩
    all_goals cases h

lemma uses_lower {guard : Guard} {test}
    (line : guard.conditions.any Condition.readsSerial = true →
      plan.program.peripherals.serialInput = true)
    (h : plan.lower guard = .ok test) : plan.Uses test := by
  induction guard generalizing test with
  | condition condition =>
    apply uses_condition _ h
    intro reads
    exact line (List.any_eq_true.mpr ⟨condition, List.mem_singleton_self _, reads⟩)
  | binary left connective right ihl ihr =>
    simp only [Guard.conditions, List.any_append, Bool.or_eq_true] at line
    obtain ⟨testl, lowered, h⟩ := bind_eq_ok.mp h
    obtain ⟨testr, lowered', h⟩ := bind_eq_ok.mp h
    cases h
    exact ⟨ihl (fun reads => line (.inl reads)) lowered,
      ihr (fun reads => line (.inr reads)) lowered'⟩

/-- The clauses of sensors read the time and the variables of the sensors. -/
lemma uses_clauses {sensors : List Identifier}
    (known : ∀ sensor ∈ sensors, plan.program.app.isDigitalSensor sensor = true) {test : Expr}
    (uses : plan.Uses test) :
    plan.Uses
      (sensors.foldl (fun test sensor => .conjoin test (.group (debounceTest sensor))) test) := by
  induction sensors generalizing test with
  | nil => exact uses
  | cons sensor sensors ih =>
    apply ih fun other mem => known other (List.mem_cons_of_mem sensor mem)
    have stamp := Program.Reads.stamp (known sensor List.mem_cons_self)
    exact ⟨uses, ⟨.of_plain (by decide), stamp⟩, .word (by decide)⟩

lemma uses_status {brick value} (h : plan.status brick = .ok value) : plan.Uses value := by
  obtain ⟨category, found, h⟩ := bind_eq_ok.mp h
  cases category
  case digitalSensor | digitalActuator | buzzer =>
    obtain ⟨pin, _, h⟩ := bind_eq_ok.mp h
    cases h
    exact ⟨uses_digitalTest pin .high, trivial, trivial⟩
  case analogSensor =>
    obtain ⟨pin, _, h⟩ := bind_eq_ok.mp h
    cases h
    exact uses_analogRead pin
  case temperatureSensor =>
    obtain ⟨pin, _, h⟩ := bind_eq_ok.mp h
    cases h
    exact uses_readTemperature found pin
  all_goals cases h

lemma uses_segment {segment value} (h : plan.segment segment = .ok value) : plan.Uses value := by
  cases segment with
  | text content =>
    cases h
    trivial
  | status brick => exact uses_status h

lemma uses_analogValue {value expr} (h : plan.analogValue value = .ok expr) : plan.Uses expr := by
  cases value with
  | literal value =>
    cases h
    trivial
  | sensor brick =>
    obtain ⟨pin, _, h⟩ := bind_eq_ok.mp h
    cases h
    exact uses_analogRead pin

/-- An action is done by calls, of what the bricks that it names are there for. -/
lemma uses_action {action steps} (sound : action.Sound plan.program.app)
    (h : plan.action action = .ok steps) :
    ∀ step ∈ steps, ∃ call, step = .run call ∧ plan.Uses call := by
  cases action with
  | digitalWrite actuator level =>
    obtain ⟨pin, _, h⟩ := bind_eq_ok.mp h
    cases h
    exact List.forall_mem_singleton.mpr ⟨_, rfl, .of_plain (by decide), trivial, uses_level level⟩
  | analogWrite actuator value =>
    obtain ⟨pin, _, h⟩ := bind_eq_ok.mp h
    obtain ⟨expr, valued, h⟩ := bind_eq_ok.mp h
    cases h
    exact List.forall_mem_singleton.mpr ⟨_, rfl, .of_plain (by decide), trivial,
      uses_analogValue valued⟩
  | serialPrint serial message =>
    cases h
    obtain ⟨brick, mem, _, allowed⟩ := sound
    exact List.forall_mem_singleton.mpr
      ⟨_, rfl, .of_serial (by decide) ⟨brick, mem, allowed⟩, trivial⟩
  | lcdUpdate display segments =>
    obtain ⟨pieces, read, h⟩ := bind_eq_ok.mp h
    cases h
    obtain ⟨⟨brick, mem, _, allowed⟩, _⟩ := sound
    have has : ∃ brick ∈ plan.program.app.bricks, brick.category = .lcdDisplay :=
      ⟨brick, mem, allowed⟩
    simp only [List.forall_mem_append, List.forall_mem_cons, List.forall_mem_map]
    refine ⟨⟨⟨_, rfl, .of_display (by decide) has⟩,
      ⟨_, rfl, .of_display (by decide) has, trivial, trivial⟩, nofun⟩, ?_⟩
    intro piece among
    obtain ⟨segment, _, made⟩ := mem_of_mapM read among
    exact ⟨_, rfl, .of_display (by decide) has, uses_segment made⟩
  | tone buzzer pitch duration =>
    obtain ⟨pin, _, h⟩ := bind_eq_ok.mp h
    obtain ⟨hertz, _, h⟩ := bind_eq_ok.mp h
    cases h
    refine List.forall_mem_singleton.mpr ⟨_, rfl, .of_plain (by decide), trivial, ?_⟩
    cases duration with
    | none => trivial
    | some duration => exact ⟨trivial, trivial⟩
  | silence buzzer =>
    obtain ⟨pin, _, h⟩ := bind_eq_ok.mp h
    cases h
    exact List.forall_mem_singleton.mpr ⟨_, rfl, .of_plain (by decide), trivial⟩

/-- A machine is chosen for by its variable, between the constants of its states. -/
lemma machine_names {statement} (mem : automaton ∈ plan.program.automata)
    (runs : plan.StatementOf automaton statement) :
    ∀ dispatch ∈ statement.inner, ∀ name ∈ dispatch.names,
      name ∈ plan.program.constants ∨ plan.program.Reads name := by
  obtain ⟨dispatch, made, rfl⟩ := runs
  have choice : ∀ name ∈ dispatch.names,
      name ∈ plan.program.constants ∨ plan.program.Reads name := by
    obtain ⟨cases, listed, rfl⟩ := switch_ok made
    rw [Dispatch.names, List.forall_mem_cons, List.forall_mem_map]
    refine ⟨.inr (.machine (Program.current_mem mem)), ?_⟩
    intro case among
    obtain ⟨state, within, made⟩ := mem_of_mapM listed among
    obtain ⟨_, _, _, _, rfl⟩ := state_ok made
    exact .inl (Program.constant_mem mem (List.mem_map_of_mem within))
  cases plan.program.mode with
  | single => exact List.forall_mem_singleton.mpr choice
  | multi => exact List.forall_mem_cons.mpr ⟨nofun, List.forall_mem_singleton.mpr choice⟩

section Resolved

variable (resolved : plan.program.app.resolve = .ok plan.program)

include resolved

/-- A guard that reads the serial line makes the program need the line. -/
lemma serialInput_of_guard {state transition} (mem : automaton ∈ plan.program.automata)
    (within : state ∈ automaton.states) (leads : transition ∈ state.transitions)
    (reads : transition.guard.conditions.any Condition.readsSerial = true) :
    plan.program.peripherals.serialInput = true := by
  obtain ⟨condition, asked, reads⟩ := List.any_eq_true.mp reads
  obtain ⟨brick, message, rfl⟩ := Condition.readsSerial_iff.mp reads
  exact (App.shows_of_resolve resolved).serialInput.mpr
    ⟨automaton, mem, state, within, transition, leads, brick, message, asked⟩

/-- A program that needs the line has a serial line. -/
lemma exists_serialLine (reads : plan.program.peripherals.serialInput = true) :
    ∃ brick ∈ plan.program.app.bricks, ∃ baud, brick.category = .serialLine baud := by
  obtain ⟨automaton, mem, state, within, transition, leads, name, message, asked⟩ :=
    (App.shows_of_resolve resolved).serialInput.mp reads
  have runs := App.runs_of_resolve resolved automaton mem
  obtain ⟨brick, declared, _, allowed⟩ := runs.guards state within transition leads _ asked
  exact ⟨brick, declared, allowed⟩

lemma uses_test {test} (tests : plan.Tests test) : plan.Uses test := by
  cases tests with
  | line reads => exact .of_serial (by decide) (exists_serialLine resolved reads)
  | due mem multi =>
    exact ⟨⟨.word (by decide), .machine (Program.lastRun_mem mem multi)⟩, trivial⟩
  | entered mem => exact .machine (Program.changed_mem mem)
  | guard mem within leads lowered =>
    apply uses_clauses known_of_debounced
    exact uses_lower (serialInput_of_guard resolved mem within leads) lowered

/-- Steps write what is read elsewhere, and move to constants. -/
lemma uses_step {step} (takes : plan.Takes step) :
    (∀ target ∈ step.targets, plan.program.Reads target) ∧
      ∀ value ∈ step.values, plan.Uses value ∨ ∃ name ∈ plan.program.constants,
        value = .name name := by
  cases takes with
  | clock multi => exact ⟨nofun, List.forall_mem_singleton.mpr (.inl (.of_plain (by decide)))⟩
  | line reads =>
    have serial := exists_serialLine resolved reads
    exact ⟨List.forall_mem_singleton.mpr (.line reads),
      List.forall_mem_singleton.mpr (.inl ⟨.of_serial (by decide) serial, trivial⟩)⟩
  | trim reads => exact ⟨nofun, List.forall_mem_singleton.mpr (.inl (.of_plain (by decide)))⟩
  | due mem multi =>
    exact ⟨List.forall_mem_singleton.mpr (.machine (Program.lastRun_mem mem multi)),
      List.forall_mem_singleton.mpr (.inl (.word (by decide)))⟩
  | entered mem | change mem =>
    exact ⟨List.forall_mem_singleton.mpr (.machine (Program.changed_mem mem)),
      List.forall_mem_singleton.mpr (.inl (.word (by decide)))⟩
  | act mem within acts made among =>
    have sound := (App.runs_of_resolve resolved _ mem).actions _ within _ acts
    obtain ⟨call, rfl, uses⟩ := uses_action sound made _ among
    exact ⟨nofun, List.forall_mem_singleton.mpr (.inl uses)⟩
  | stamp mem within leads known =>
    exact ⟨List.forall_mem_singleton.mpr (.stamp (known_of_debounced _ known)),
      List.forall_mem_singleton.mpr (.inl (.of_plain (by decide)))⟩
  | empty mem within leads reads =>
    have line := serialInput_of_guard resolved mem within leads reads
    exact ⟨List.forall_mem_singleton.mpr (.line line), List.forall_mem_singleton.mpr (.inl trivial)⟩
  | enter mem within leads =>
    have target := (App.runs_of_resolve resolved _ mem).targets _ within _ leads
    exact ⟨List.forall_mem_singleton.mpr (.machine (Program.current_mem mem)),
      List.forall_mem_singleton.mpr (.inr ⟨_, Program.constant_mem mem target, rfl⟩)⟩
  | leave => exact ⟨nofun, nofun⟩

lemma loop_functions {block} (h : plan.loop = .ok block) :
    ∀ function ∈ block.functions, plan.program.app.Calls function := by
  obtain ⟨tests, steps⟩ := allows_loop h
  simp only [Block.functions, List.forall_mem_append, List.forall_mem_flatMap]
  constructor
  · exact fun test mem => (uses_test resolved (tests test mem)).of_mem.1
  · intro step mem value among
    rcases (uses_step resolved (steps step mem)).2 value among with uses | ⟨name, _, rfl⟩
    · exact uses.of_mem.1
    · nofun

lemma loop_names {block} (h : plan.loop = .ok block) :
    ∀ name ∈ block.names, name ∈ plan.program.constants ∨ plan.program.Reads name := by
  obtain ⟨tests, steps⟩ := allows_loop h
  simp only [Block.names, List.forall_mem_append, List.forall_mem_flatMap]
  refine ⟨⟨?_, ?_⟩, ?_⟩
  · exact fun test mem name read => .inr ((uses_test resolved (tests test mem)).of_mem.2 name read)
  · intro step mem
    obtain ⟨targets, values⟩ := uses_step resolved (steps step mem)
    refine ⟨fun target written => .inr (targets target written), ?_⟩
    intro value among name read
    rcases values value among with uses | ⟨constant, known, rfl⟩
    · exact .inr (uses.of_mem.2 name read)
    · cases List.mem_singleton.mp read
      exact .inl known
  · obtain ⟨machines, rfl, runs⟩ := loop_ok h
    rw [List.forall_mem_append]
    constructor
    · -- there is no choice before the machines
      have nameless : ∀ statement ∈ preamble plan.program,
          statement.inner.flatMap Dispatch.names = [] := by
        rw [preamble]
        cases plan.program.mode <;> cases plan.program.peripherals.serialInput <;> decide
      intro statement mem dispatch within name read
      have absent := List.flatMap_eq_nil_iff.mp (nameless statement mem) dispatch within
      rw [absent] at read
      cases read
    · intro statement mem
      obtain ⟨automaton, mem, runs⟩ := exists_statementOf runs mem
      exact machine_names mem runs

end Resolved

end Plan

/-! ## What is declared and set up -/

/-- Whether an item declares support of that name: an object, a function, or a variable for a
text. -/
def Code.Item.supports (name : String) : Item → Bool
  | object _ own _ | function _ own _ _ => own = name
  | global type own _ => type = "String" && own = name
  | _ => false

/-- The functions that an item calls. -/
def Code.Item.functions : Item → List String
  | constant _ _ value | global _ _ value => value.functions
  | function _ _ _ body => body.functions
  | _ => []

/-- The function that sets up a brick of a category. -/
def Category.opening : Category → String
  | .serialLine _ => "Serial.begin"
  | .lcdDisplay => "lcd.begin"
  | _ => "pinMode"

lemma Category.opening_eq_display (category : Category) :
    category.opening = "lcd.begin" ↔ category = .lcdDisplay := by
  cases category with
  | serialLine baud =>
    have other : "Serial.begin" ≠ "lcd.begin" := by decide
    exact iff_of_false other nofun
  | lcdDisplay => exact iff_of_true rfl rfl
  | _ => exact iff_of_false (by decide) nofun

lemma Category.opening_eq_serial (category : Category) :
    category.opening = "Serial.begin" ↔ category.isSerialLine = true := by
  cases category with
  | serialLine baud => exact iff_of_true rfl rfl
  | _ => exact iff_of_false (by decide) nofun

lemma App.serves_opening {app : App} {brick : Brick} (mem : brick ∈ app.bricks) :
    app.Serves brick.category.opening := by
  cases category : brick.category with
  | serialLine baud =>
    have serves : app.Serves "Serial.begin" := {
      temperature := fun eq => absurd eq (by decide)
      display := fun front => absurd front (by decide)
      serial := fun _ => ⟨brick, mem, baud, category⟩ }
    exact serves
  | lcdDisplay =>
    exact {
      temperature := fun eq => absurd eq (by decide)
      display := fun _ => ⟨brick, mem, category⟩
      serial := fun front => absurd front (by decide) }
  | _ =>
    exact {
      temperature := fun eq => absurd eq (by decide)
      display := fun front => absurd front (by decide)
      serial := fun front => absurd front (by decide) }

namespace Plan

variable (plan : Plan)

/-- What stands before `setup`. -/
def before : List Item :=
  plan.header ++ plan.summary ++ plan.globals

lemma supports_automaton (automaton : Automaton) (name : String) :
    ∀ item ∈ plan.automatonItems automaton, ¬item.supports name = true := by
  have type : automaton.stateType ≠ "String" := by
    intro eq
    have long : 2 ≤ "STATE".toList.length ∧ 2 ≤ "String".toList.length := by decide
    exact append_ne_append long (by decide) (eq.trans String.append_empty.symm)
  rw [automatonItems]
  cases plan.program.mode <;> simp [Item.supports, type]

/-- Before `setup` there are just the declarations of support that the program needs. -/
lemma countP_supports (name : String) :
    plan.before.countP (Item.supports name) =
      (if plan.program.peripherals.lcd then ["lcd"].count name else 0)
        + (if plan.program.peripherals.serialInput then ["serialInput"].count name else 0)
        + (if plan.program.peripherals.temperature then ["readTemperature"].count name else 0) := by
  have header : plan.header.countP (Item.supports name) = 0 := rfl
  have summary : plan.summary.countP (Item.supports name) = 0 := by
    simp [summary, summaryLine, Item.supports]
  have machines :
      (plan.program.automata.flatMap plan.automatonItems).countP (Item.supports name) = 0 := by
    rw [List.countP_eq_zero, List.forall_mem_flatMap]
    exact fun automaton _ => plan.supports_automaton automaton name
  have sensors : plan.debounceItems.countP (Item.supports name) = 0 := by
    rw [debounceItems]
    split <;> simp [Item.supports]
  have display : plan.displayItems.countP (Item.supports name) = ["lcd"].count name := rfl
  have line : [Item.global "String" "serialInput" (.text ""), .blank].countP (Item.supports name) =
      ["serialInput"].count name := rfl
  have temperature : temperatureItems.countP (Item.supports name) =
      ["readTemperature"].count name := rfl
  have debounce : [Item.constant "unsigned long" "debounce" (.natural plan.options.debounce.toNat),
      .blank].countP (Item.supports name) = 0 := rfl
  simp only [before, globals, List.countP_append, header, summary, machines, sensors, debounce]
  cases plan.program.peripherals.lcd <;> cases plan.program.peripherals.serialInput <;>
    cases plan.program.peripherals.temperature <;>
    simp only [Bool.false_eq_true, if_false, if_true, List.countP_nil, display, line, temperature,
      Nat.zero_add, Nat.add_zero]

/-- Declarations call nothing, but for the body of the function that reads temperatures. -/
lemma functions_before : plan.before.flatMap Item.functions =
    if plan.program.peripherals.temperature then ["analogRead"] else [] := by
  have header : plan.header.flatMap Item.functions = [] := rfl
  have summary : plan.summary.flatMap Item.functions = [] := by
    simp [summary, summaryLine, Item.functions, List.flatMap_map]
  have machines :
      (plan.program.automata.flatMap plan.automatonItems).flatMap Item.functions = [] := by
    rw [List.flatMap_assoc, List.flatMap_eq_nil_iff]
    intro automaton _
    rw [automatonItems]
    cases plan.program.mode <;> rfl
  have sensors : plan.debounceItems.flatMap Item.functions = [] := by
    rw [debounceItems]
    split
    · rfl
    · rw [List.flatMap_append, List.flatMap_map]
      exact List.append_eq_nil_iff.mpr ⟨List.flatMap_eq_nil_iff.mpr fun _ _ => rfl, rfl⟩
  simp only [before, globals, List.flatMap_append, header, summary, machines, sensors]
  cases plan.program.peripherals.lcd <;> cases plan.program.peripherals.serialInput <;>
    cases plan.program.peripherals.temperature <;> rfl

variable {plan}

lemma functions_of_setup {brick step} (h : plan.setup brick = .ok step) :
    step.values.flatMap Expr.functions = [brick.category.opening] := by
  rw [setup] at h
  cases category : brick.category with
  | serialLine baud | lcdDisplay =>
    rw [category] at h
    cases h
    rfl
  | _ =>
    rw [category] at h
    obtain ⟨pin, _, h⟩ := bind_eq_ok.mp h
    cases h
    rfl

lemma functions_setup {bricks steps} (h : List.mapM plan.setup bricks = .ok steps) :
    Block.functions (steps.map Block.step) = bricks.map fun brick => brick.category.opening := by
  have plain (steps : List Step) : Block.functions (steps.map Block.step) =
      steps.flatMap fun step => step.values.flatMap Expr.functions := by
    simp [Block.functions, Block.tests, Block.steps, Block.step, Nest.tests, Nest.inner,
      Dispatch.step, Dispatch.nests, List.flatMap_map]
  rw [plain]
  induction bricks generalizing steps with
  | nil =>
    cases h
    rfl
  | cons brick bricks ih =>
    obtain ⟨step, rest, first, later, rfl⟩ := mapM_cons_ok.mp h
    rw [List.flatMap_cons, functions_of_setup first, List.map_cons, ← ih later]
    rfl

/-- The functions that are called in a whole sketch. -/
def functions (plan : Plan) (setup : List Step) (block : Block) : List String :=
  plan.before.flatMap Item.functions ++ Block.functions (setup.map Block.step) ++ block.functions

section Sketch

variable {setup : List Step} {block : Block}
  (resolved : plan.program.app.resolve = .ok plan.program)
  (opened : plan.program.app.bricks.mapM plan.setup = .ok setup) (h : plan.loop = .ok block)

include resolved opened h

/-- All that a sketch calls is for bricks that the app has. -/
lemma serves_functions :
    ∀ function ∈ plan.functions setup block, plan.program.app.Serves function := by
  rw [functions, functions_before, functions_setup opened]
  simp only [List.forall_mem_append, List.forall_mem_map]
  refine ⟨⟨?_, fun brick mem => App.serves_opening mem⟩, ?_⟩
  · intro function mem
    split at mem
    · cases List.mem_singleton.mp mem
      exact (App.Calls.of_plain (by decide)).toServes
    · cases mem
  · exact fun function mem => (loop_functions resolved h function mem).toServes

/-- A function that sets bricks up is called once for each brick that it sets up. -/
lemma count_opening {opening : String} (own : opening ∈ ["Serial.begin", "lcd.begin", "pinMode"]) :
    (plan.functions setup block).count opening =
      plan.program.app.bricks.countP fun brick => brick.category.opening = opening := by
  have before : (plan.before.flatMap Item.functions).count opening = 0 := by
    rw [functions_before, List.count_eq_zero]
    intro mem
    split at mem
    · cases List.mem_singleton.mp mem
      revert own
      decide
    · cases mem
  have loop : block.functions.count opening = 0 := by
    rw [List.count_eq_zero]
    exact fun mem => (loop_functions resolved h opening mem).running own
  rw [functions, List.count_append, List.count_append, before, loop, functions_setup opened,
    List.count_eq_countP, List.countP_map, Nat.zero_add, Nat.add_zero]
  rfl

end Sketch

end Plan

/-! ## Uses and declarations -/

/-- What is there once if it is needed, and else not at all. -/
def OnceIff (needed : Prop) (count : Nat) : Prop :=
  count ≤ 1 ∧ (count = 1 ↔ needed)

lemma onceIff_ite {flag : Bool} {needed : Prop} (known : flag = true ↔ needed) :
    OnceIff needed (if flag then 1 else 0) := by
  cases flag with
  | false => exact ⟨Nat.zero_le 1, iff_of_false nofun fun need => nomatch known.mpr need⟩
  | true => exact ⟨le_refl 1, iff_of_true rfl (known.mp rfl)⟩

lemma onceIff_countP {α : Type} {l : List α} {p : α → Bool} {needed : Prop} (few : l.countP p ≤ 1)
    (known : (∃ a ∈ l, p a = true) ↔ needed) : OnceIff needed (l.countP p) := by
  refine ⟨few, ?_⟩
  rw [← known, ← List.countP_pos_iff]
  omega

/-- Whether some guard of a program reads the serial line. -/
def Program.ReadsSerial (program : Program) : Prop :=
  ∃ automaton ∈ program.automata, ∃ state ∈ automaton.states, ∃ transition ∈ state.transitions,
    ∃ brick message, .serial brick message ∈ transition.guard.conditions

/-- A sketch that declares the support that it uses, and no other: what stands before `setup`, the
body of `loop`, and the functions called in the whole sketch. -/
structure Program.Supported (program : Program) (before : List Item) (loop : Block)
    (calls : List String) : Prop where
  /-- The variable for the line that was read. -/
  line : OnceIff program.ReadsSerial (before.countP (Item.supports "serialInput"))
  reading : OnceIff program.ReadsSerial (loop.count Plan.readLine)
  start : program.ReadsSerial → ∃ machines,
    loop = Plan.clock program.mode ++ Plan.readLine :: machines
  tested : "serialInput" ∈ loop.tests.flatMap Expr.names → program.ReadsSerial
  emptied : .set "serialInput" (.text "") ∈ loop.steps → program.ReadsSerial
  /-- The function for temperatures. -/
  temperature : OnceIff (∃ brick ∈ program.app.bricks, brick.category = .temperatureSensor)
    (before.countP (Item.supports "readTemperature"))
  measured : "readTemperature" ∈ calls →
    ∃ brick ∈ program.app.bricks, brick.category = .temperatureSensor
  /-- The object for the display. -/
  display : OnceIff (∃ brick ∈ program.app.bricks, brick.category = .lcdDisplay)
    (before.countP (Item.supports "lcd"))
  begun :
    OnceIff (∃ brick ∈ program.app.bricks, brick.category = .lcdDisplay) (calls.count "lcd.begin")
  shown : ∀ function ∈ calls, "lcd.".toList <+: function.toList →
    ∃ brick ∈ program.app.bricks, brick.category = .lcdDisplay
  /-- The serial line is set up before it is used. -/
  spoken : "Serial.println" ∈ calls ∨ "Serial.available" ∈ calls → calls.count "Serial.begin" = 1

namespace Plan

variable {plan : Plan} {setup : List Step} {block : Block}

/-- The line is read once, before the machines. -/
lemma count_readLine (h : plan.loop = .ok block) :
    block.count readLine = if plan.program.peripherals.serialInput then 1 else 0 := by
  obtain ⟨machines, rfl, runs⟩ := loop_ok h
  have machines : machines.count readLine = 0 := by
    rw [List.count_eq_zero]
    intro mem
    obtain ⟨automaton, _, dispatch, _, eq⟩ := exists_statementOf runs mem
    cases mode : plan.program.mode <;> rw [mode] at eq <;> cases eq
  rw [List.count_append, machines, preamble]
  cases plan.program.mode <;> cases plan.program.peripherals.serialInput <;> decide

/-- The sketch of a plan declares the support that it uses, and no other. -/
lemma supported (resolved : plan.program.app.resolve = .ok plan.program)
    (opened : plan.program.app.bricks.mapM plan.setup = .ok setup) (h : plan.loop = .ok block) :
    plan.program.Supported plan.before block (plan.functions setup block) := by
  have shown := App.shows_of_resolve resolved
  have wellFormed := App.resolve_isOk_iff.mp ⟨_, resolved⟩
  obtain ⟨tests, steps⟩ := allows_loop h
  have serves := serves_functions resolved opened h
  exact {
    line := by
      have declared : plan.before.countP (Item.supports "serialInput") =
          if plan.program.peripherals.serialInput then 1 else 0 := by simp [countP_supports]
      rw [declared]
      exact onceIff_ite shown.serialInput
    reading := by
      rw [count_readLine h]
      exact onceIff_ite shown.serialInput
    start := by
      intro reads
      obtain ⟨machines, rfl, _⟩ := loop_ok h
      refine ⟨machines, ?_⟩
      rw [preamble, shown.serialInput.mpr reads]
      exact List.append_assoc _ _ _
    tested := by
      intro mem
      obtain ⟨test, among, read⟩ := List.mem_flatMap.mp mem
      have reads := (uses_test resolved (tests test among)).of_mem.2 _ read
      exact shown.serialInput.mp (reads.line_of_eq rfl)
    emptied := by
      intro mem
      have reads := (uses_step resolved (steps _ mem)).1 _ (List.mem_singleton_self _)
      exact shown.serialInput.mp (reads.line_of_eq rfl)
    temperature := by
      have declared : plan.before.countP (Item.supports "readTemperature") =
          if plan.program.peripherals.temperature then 1 else 0 := by simp [countP_supports]
      rw [declared]
      exact onceIff_ite shown.temperature
    measured := fun mem => (serves _ mem).temperature rfl
    display := by
      have declared : plan.before.countP (Item.supports "lcd") =
          if plan.program.peripherals.lcd then 1 else 0 := by simp [countP_supports]
      rw [declared]
      exact onceIff_ite shown.lcd
    begun := by
      rw [count_opening resolved opened h (by decide)]
      simp only [Category.opening_eq_display]
      exact onceIff_countP wellFormed.displays (by simp only [decide_eq_true_eq])
    shown := fun function mem => (serves function mem).display
    spoken := by
      intro mem
      have has : ∃ brick ∈ plan.program.app.bricks, ∃ baud, brick.category = .serialLine baud := by
        rcases mem with mem | mem
        · exact (serves _ mem).serial (by decide)
        · exact (serves _ mem).serial (by decide)
      rw [count_opening resolved opened h (by decide)]
      simp only [Category.opening_eq_serial, Bool.decide_eq_true]
      refine (onceIff_countP wellFormed.serialLines ?_).2.mpr has
      simp only [Category.isSerialLine_iff] }

end Plan

namespace Plan

variable {plan : Plan} {sensor : Identifier}

lemma stamp_mem (known : plan.program.app.isDigitalSensor sensor = true) :
    debounceVariable sensor ∈ plan.program.stamps := by
  obtain ⟨brick, mem, rfl, category⟩ := App.isDigitalSensor_iff.mp known
  exact List.mem_map_of_mem (List.mem_filter.mpr ⟨mem, decide_eq_true category⟩)

lemma stamp_before (known : plan.program.app.isDigitalSensor sensor = true) :
    debounceVariable sensor ∈ plan.before.flatMap Item.declared := by
  have mem := stamp_mem known
  simp only [before, globals, List.flatMap_append, List.mem_append, declared_debounceItems]
  tauto

/-- The variable of a sensor is declared once, beside whatever else has its name. -/
lemma count_stamp {items} (resolved : plan.program.app.resolve = .ok plan.program)
    (made : plan.items = .ok items) (known : plan.program.app.isDigitalSensor sensor = true) :
    (items.flatMap Item.declared).count (debounceVariable sensor) =
      plan.program.constants.count (debounceVariable sensor)
        + plan.program.machineNames.count (debounceVariable sensor) + 1 := by
  have mem := stamp_mem known
  have support : plan.program.supportNames.count (debounceVariable sensor) = 0 :=
    List.count_eq_zero.mpr (Program.disjoint_stamps_supportNames mem)
  have stamp := List.count_eq_one_of_mem (Program.nodup_stamps resolved) mem
  rw [(declared_items made).count_eq, List.count_append, List.count_append,
    List.count_append, support, stamp]

/-- The names that a loop uses for sensors are just those of sensors, declared once, if machines and
states have no such names. -/
lemma stamps_once_iff {items block} (resolved : plan.program.app.resolve = .ok plan.program)
    (made : plan.items = .ok items) (h : plan.loop = .ok block) :
    (∀ sensor, debounceVariable sensor ∈ block.names →
        plan.program.app.isDigitalSensor sensor = true ∧
          debounceVariable sensor ∈ plan.before.flatMap Item.declared ∧
          (items.flatMap Item.declared).count (debounceVariable sensor) = 1) ↔
      ∀ sensor, debounceVariable sensor ∈ block.names →
        debounceVariable sensor ∉ plan.program.constants ∧
          debounceVariable sensor ∉ plan.program.machineNames := by
  apply forall_congr'
  intro sensor
  apply imp_congr_right
  intro used
  constructor
  · rintro ⟨known, _, once⟩
    rw [count_stamp resolved made known] at once
    rw [← List.count_eq_zero, ← List.count_eq_zero]
    omega
  · rintro ⟨constants, machines⟩
    have known : plan.program.app.isDigitalSensor sensor = true := by
      rcases loop_names resolved h _ used with constant | reads
      · exact (constants constant).elim
      · exact (reads.sensor_of_eq rfl).resolve_right machines
    refine ⟨known, stamp_before known, ?_⟩
    rw [count_stamp resolved made known, List.count_eq_zero.mpr constants,
      List.count_eq_zero.mpr machines]

end Plan

/-- A sketch declares the support that it uses once, before `setup`, and no other. The variable of a
sensor that the loop uses is that of a digital sensor and declared once, exactly if the names of
machines and constants of states are none of those that the loop uses for sensors. -/
theorem support_declared_once {app : App} {options : Options} {sketch : String}
    (generated : generate app options = .ok sketch) :
    ∃ program pins before setup loop,
      let items :=
        before ++ [.function "void" "setup" "" setup, .blank, .function "void" "loop" "" loop]
      app.resolve = .ok program ∧ allocate app.bricks options.board = .ok pins ∧
      Plan.items ⟨program, pins, options⟩ = .ok items ∧ sketch = Code.render items ∧
      program.Supported before loop (items.flatMap Item.functions) ∧
      ((∀ sensor, debounceVariable sensor ∈ loop.names →
          app.isDigitalSensor sensor = true ∧
            debounceVariable sensor ∈ before.flatMap Item.declared ∧
            (items.flatMap Item.declared).count (debounceVariable sensor) = 1) ↔
        ∀ sensor, debounceVariable sensor ∈ loop.names →
          debounceVariable sensor ∉ program.constants ∧
            debounceVariable sensor ∉ program.machineNames) := by
  obtain ⟨program, pins, items, resolved, allocated, made, rfl⟩ := generate_eq_ok.mp generated
  obtain ⟨setup, loop, opened, looped, rfl⟩ := Plan.items_ok made
  obtain rfl := (App.shows_of_resolve resolved).app_eq
  refine ⟨program, pins, Plan.before ⟨program, pins, options⟩, setup.map Block.step, loop, resolved,
    allocated, made, rfl, ?_, Plan.stamps_once_iff resolved made looped⟩
  have supported := Plan.supported resolved opened looped
  simpa [Plan.functions, Item.functions] using supported

/-- The greenhouse needs all kinds of support, and nothing in it is named like the variable of a
sensor. -/
theorem support_declared_once_greenhouse :
    ∃ program before setup loop,
      let items :=
        before ++ [.function "void" "setup" "" setup, .blank, .function "void" "loop" "" loop]
      (greenhouse none ⟨"closed"⟩).resolve = .ok program ∧
      generate (greenhouse none ⟨"closed"⟩) ⟨.uno, 200⟩ = .ok (Code.render items) ∧
      program.Supported before loop (items.flatMap Item.functions) ∧
      ∀ sensor, debounceVariable sensor ∈ loop.names →
        (greenhouse none ⟨"closed"⟩).isDigitalSensor sensor = true ∧
          (items.flatMap Item.declared).count (debounceVariable sensor) = 1 := by
  obtain ⟨items, made⟩ :=
    (@Plan.ready_of_resolve (greenhouse none ⟨"closed"⟩) ⟨.uno, 200⟩ _ _ rfl rfl).items
  have generated : generate (greenhouse none ⟨"closed"⟩) ⟨.uno, 200⟩ = .ok (Code.render items) :=
    generate_eq_ok.mpr ⟨_, _, items, rfl, rfl, made, rfl⟩
  obtain ⟨program, pins, before, setup, loop, resolved, _, _, eq, supported, once⟩ :=
    support_declared_once generated
  have apart : ∀ sensor, debounceVariable sensor ∉ program.constants ∧
      debounceVariable sensor ∉ program.machineNames := by
    intro sensor
    cases resolved
    have short : ∀ name ∈ ["closed", "STATE", "currentState", "stateChanged"],
        name.length < 16 := by
      decide
    constructor
    · exact fun mem => debounceVariable_ne sensor (short _ (List.mem_append_left _ mem)) rfl
    · exact fun mem => debounceVariable_ne sensor (short _ (List.mem_cons_of_mem _ mem)) rfl
  rw [eq] at generated
  refine ⟨program, before, setup, loop, resolved, generated, supported, ?_⟩
  intro sensor used
  obtain ⟨known, _, count⟩ := once.mpr (fun sensor _ => apart sensor) sensor used
  exact ⟨known, count⟩

/-- A machine and a sensor whose names make up the name of one variable. -/
def shadowed : App where
  name := "shadowed"
  bricks := [⟨⟨"lastRun_x"⟩, none, .digitalSensor⟩]
  machines := [⟨⟨"xLastDebounceTime"⟩, ⟨"idle"⟩,
    [⟨⟨"idle"⟩, [], [⟨.condition (.digital ⟨"lastRun_x"⟩ .high), ⟨"idle"⟩⟩]⟩], some 100⟩]

/-- Names can be valid and distinct and the model in order, and still the variable of a sensor is
declared twice. -/
theorem stamp_twice_shadowed :
    let names := shadowed.bricks.map Brick.name ++ shadowed.machines.map Machine.name
      ++ shadowed.machines.flatMap fun machine => machine.states.map State.name
    names.Nodup ∧ (∀ name ∈ names, name.IsValid) ∧ shadowed.WellFormed ∧
      ∃ program pins items loop, shadowed.resolve = .ok program ∧
        allocate shadowed.bricks .uno = .ok pins ∧
        Plan.items ⟨program, pins, ⟨.uno, 200⟩⟩ = .ok items ∧
        Plan.loop ⟨program, pins, ⟨.uno, 200⟩⟩ = .ok loop ∧
        generate shadowed ⟨.uno, 200⟩ = .ok (Code.render items) ∧
        debounceVariable ⟨"lastRun_x"⟩ ∈ loop.names ∧
        (items.flatMap Item.declared).count (debounceVariable ⟨"lastRun_x"⟩) = 2 := by
  refine ⟨by decide, by decide, App.resolve_isOk_iff.mp ⟨_, rfl⟩, _, _, _, _, rfl, rfl,
    rfl, rfl, ?_, by decide, by decide⟩
  exact generate_eq_ok.mpr ⟨_, _, _, rfl, rfl, rfl, rfl⟩

end Brickwork
