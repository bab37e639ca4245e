import Brickwork.Proofs.Declarations
import Brickwork.Proofs.Footprint
import Brickwork.Proofs.Stepping

/-!
# Constants of states in sketches

Each machine declares its constants in an enumeration, starts its variable with one of them, and has
a `switch` with one case for each. The constants of all machines are distinct. What a sketch gives
to the variable of a machine, first and later, is read off it value by value: these are the
constants of the initial state and of the targets of transitions. Only a sensor whose own variable
is named like that of the machine adds to them.
-/

namespace Brickwork

open Code

/-! ## Parts of code -/

namespace Code

/-- The enumerations that an item declares, with their members. -/
def Item.enumerations : Item → List (String × List String)
  | enumeration name members => [(name, members)]
  | _ => []

/-- The values that an item declares a variable with. -/
def Item.initials (target : String) : Item → List Expr
  | global _ name value => if name = target then [value] else []
  | _ => []

/-- The values that a step gives to a variable. -/
def Step.given (target : String) : Step → List Expr
  | set name value => if name = target then [value] else []
  | _ => []

namespace Dispatch

/-- The values that a statement gives to a variable, in order. -/
def given (target : String) (dispatch : Dispatch) : List Expr :=
  (dispatch.nests.flatMap Nest.inner).flatMap (Step.given target)

/-- Whether a statement is a choice. -/
def isSwitch : Dispatch → Bool
  | plain _ => false
  | switch _ _ => true

end Dispatch

/-- The choices in a body, in order. -/
def Block.switches (block : Block) : List Dispatch :=
  block.flatMap fun statement => statement.inner.filter Dispatch.isSwitch

end Code

/-- The states of all machines, each with its machine. -/
def Program.states (program : Program) : List (Automaton × State) :=
  program.automata.flatMap fun automaton => automaton.states.map (automaton, ·)

/-- Whether one of some sensors has a variable of that name. -/
def stamped (name : String) (sensors : List Identifier) : Bool :=
  sensors.any fun sensor => debounceVariable sensor = name

namespace Automaton

variable (app : App) (automaton : Automaton)

/-- What a transition gives to the variable of its machine: the constant of its target, and before
that the time if a sensor of its guard has a variable of the same name. -/
def entered (transition : Transition) : List Expr :=
  (if stamped automaton.current (transition.guard.sensors app.isDigitalSensor) then
      [.call "millis"] else [])
    ++ [.name (automaton.constant transition.next)]

/-- What the variable of a machine is declared with: the constant of the initial state, and behind
that zero if a sensor has a variable of the same name. -/
def started : List Expr :=
  .name (automaton.constant automaton.initial)
    :: if stamped automaton.current app.sensors then [.natural 0] else []

/-- Values that are constants of a machine's own states. -/
def Owns (values : List Expr) : Prop :=
  ∀ value ∈ values, ∃ member ∈ automaton.constants, value = .name member

/-- A `switch` of a machine: it chooses by the machine's variable, has one case for each constant in
the order of the enumeration, and gives to the variable what the transitions do, in order. -/
structure SwitchedBy (dispatch : Dispatch) : Prop where
  names : dispatch.names = automaton.current :: automaton.constants
  given : dispatch.given automaton.current =
    automaton.states.flatMap fun state => state.transitions.flatMap (automaton.entered app)
  owns : automaton.Owns (dispatch.given automaton.current) ↔
    ∀ state ∈ automaton.states, ∀ transition ∈ state.transitions,
      ∀ sensor ∈ transition.guard.sensors app.isDigitalSensor,
        debounceVariable sensor ≠ automaton.current

end Automaton

/-! ## Names that differ -/

namespace Automaton

variable {automaton : Automaton}

lemma constant_mem {name : Identifier} (known : name ∈ automaton.states.map State.name) :
    automaton.constant name ∈ automaton.constants := by
  obtain ⟨state, within, rfl⟩ := List.mem_map.mp known
  exact List.mem_map_of_mem within

/-- The variables of a machine that do not hold its state are named unlike any that does. -/
lemma ne_current {front back : String}
    (among : front ∈ ["stateChanged", "lastRun", "serialInput"]) :
    front ++ back ≠ automaton.current := by
  have differ : ∀ front ∈ ["stateChanged", "lastRun", "serialInput"],
      (2 ≤ front.toList.length ∧ 2 ≤ "currentState".toList.length) ∧
        front.toList.take 2 ≠ "currentState".toList.take 2 := by decide
  obtain ⟨long, differ⟩ := differ front among
  exact append_ne_append long differ

lemma changed_ne_current (other : Automaton) : other.changed ≠ automaton.current :=
  ne_current (by decide)

lemma lastRun_ne_current (other : Automaton) : other.lastRun ≠ automaton.current :=
  ne_current (by decide)

lemma serialInput_ne_current : "serialInput" ≠ automaton.current := by
  rw [← @String.append_empty "serialInput"]
  exact ne_current (by decide)

end Automaton

namespace Program

variable {app : App} {program : Program}

lemma nodup_currents (resolved : app.resolve = .ok program) :
    (program.automata.map Automaton.current).Nodup := by
  have currents : program.automata.map Automaton.current =
      (program.automata.map Automaton.suffix).map ("currentState" ++ ·) := by
    rw [List.map_map]
    rfl
  rw [currents, List.nodup_map_iff fun _ _ => (String.append_right_inj _).mp]
  exact nodup_suffixes resolved

lemma constants_eq :
    program.constants = program.states.map fun place => place.1.constant place.2.name := by
  rw [constants, states, List.map_flatMap]
  simp only [List.map_map]
  rfl

end Program

lemma stamped_eq_true {name : String} {sensors : List Identifier} :
    stamped name sensors = true ↔ ∃ sensor ∈ sensors, debounceVariable sensor = name := by
  simp [stamped]

/-- A transition gives nothing but a constant of the machine exactly if no sensor of its guard has a
variable named like that of the machine. -/
lemma Automaton.owns_entered {app : App} {automaton : Automaton} {transition : Transition}
    (known : transition.next ∈ automaton.states.map State.name) :
    automaton.Owns (automaton.entered app transition) ↔
      ∀ sensor ∈ transition.guard.sensors app.isDigitalSensor,
        debounceVariable sensor ≠ automaton.current := by
  rw [entered]
  cases among : stamped automaton.current (transition.guard.sensors app.isDigitalSensor) with
  | true =>
    obtain ⟨sensor, mem, same⟩ := stamped_eq_true.mp among
    constructor
    · intro owns
      obtain ⟨member, _, eq⟩ := owns (.call "millis") List.mem_cons_self
      cases eq
    · intro apart
      exact (apart sensor mem same).elim
  | false =>
    have apart : ∀ sensor ∈ transition.guard.sensors app.isDigitalSensor,
        debounceVariable sensor ≠ automaton.current := by
      intro sensor mem same
      rw [stamped_eq_true.mpr ⟨sensor, mem, same⟩] at among
      cases among
    have owns : automaton.Owns [.name (automaton.constant transition.next)] :=
      List.forall_mem_singleton.mpr ⟨_, constant_mem known, rfl⟩
    exact iff_of_true owns apart

/-- Where sensors have distinct variables, at most one has a variable of a given name. -/
lemma flatMap_stamped {sensors : List Identifier} (nodup : (sensors.map debounceVariable).Nodup)
    (name : String) (value : Expr) :
    (sensors.flatMap fun sensor => if debounceVariable sensor = name then [value] else []) =
      if stamped name sensors then [value] else [] := by
  rw [flatMap_key nodup name fun _ => value]
  cases found : sensors.find? fun sensor => debounceVariable sensor = name with
  | none =>
    have unmarked : stamped name sensors = false := by simpa [stamped] using found
    rw [unmarked]
    rfl
  | some sensor =>
    have marked : stamped name sensors = true :=
      stamped_eq_true.mpr ⟨sensor, List.mem_of_find?_eq_some found,
      by simpa using List.find?_some found⟩
    rw [marked]
    rfl

/-! ## What is given to a variable -/

namespace Plan

variable {plan : Plan} {automaton : Automaton}

lemma stamped_debounced (ready : plan.Ready) (name : String) (guard : Guard) :
    stamped name (plan.debounced guard) =
      stamped name (guard.sensors plan.program.app.isDigitalSensor) := by
  rw [Bool.eq_iff_iff, stamped_eq_true, stamped_eq_true]
  simp only [mem_debounced ready.resolved.bricks]

/-- The steps of a transition give to the machine's variable what the transition does. -/
lemma given_transition (ready : plan.Ready) {transition branch}
    (h : plan.transition automaton transition = .ok branch) :
    branch.2.flatMap (Step.given automaton.current) =
      automaton.entered plan.program.app transition := by
  obtain ⟨test, _, rfl⟩ := transition_ok h
  -- of the steps before the machine's own, only the time of a sensor can go to a variable of that
  -- name
  have nodup : ((plan.debounced transition.guard).map debounceVariable).Nodup :=
    (List.nodup_map_iff fun _ _ => debounceVariable_inj).mpr (nodup_debounced transition.guard)
  have stamps : ((plan.debounced transition.guard).map fun sensor =>
      Step.set (debounceVariable sensor) (.call "millis")).flatMap (Step.given automaton.current) =
        if stamped automaton.current
          (transition.guard.sensors plan.program.app.isDigitalSensor) then
          [.call "millis"] else [] := by
    rw [List.flatMap_map, ← stamped_debounced ready]
    exact flatMap_stamped nodup automaton.current (.call "millis")
  have line : (if transition.guard.conditions.any Condition.readsSerial then
      [Step.set "serialInput" (.text "")] else []).flatMap (Step.given automaton.current) = [] := by
    split
    · simp [Step.given, Automaton.serialInput_ne_current]
    · rfl
  rw [List.flatMap_append, List.flatMap_append, stamps, line, Automaton.entered, List.append_nil]
  simp [Step.given, Automaton.changed_ne_current]

lemma given_actions {actions : List Action} {steps} (acts : actions.mapM plan.action = .ok steps)
    (target : String) : steps.flatten.flatMap (Step.given target) = [] := by
  rw [List.flatMap_eq_nil_iff]
  intro step among
  obtain ⟨made, mem, among⟩ := List.mem_flatten.mp among
  obtain ⟨action, _, made⟩ := mem_of_mapM acts mem
  obtain ⟨call, rfl, _⟩ := legible_action made step among
  rfl

/-- The case of a state gives to the machine's variable what the transitions of the state do. -/
lemma given_state (ready : plan.Ready) {state case} (h : plan.state automaton state = .ok case) :
    (case.2.flatMap Nest.inner).flatMap (Step.given automaton.current) =
      state.transitions.flatMap (automaton.entered plan.program.app) := by
  obtain ⟨actions, branches, acts, leads, rfl⟩ := state_ok h
  have fired : (branches.flatMap Prod.snd).flatMap (Step.given automaton.current) =
      state.transitions.flatMap (automaton.entered plan.program.app) := by
    rw [List.flatMap_assoc]
    exact flatMap_of_mapM leads fun _ _ => given_transition ready
  simp [Nest.inner, Step.given, Automaton.changed_ne_current, given_actions acts, fired]

/-- The `switch` of a machine has a case for each state and enters the targets of transitions. -/
lemma switchedBy (ready : plan.Ready) {dispatch}
    (targets : ∀ state ∈ automaton.states, ∀ transition ∈ state.transitions,
      transition.next ∈ automaton.states.map State.name)
    (h : plan.switch automaton = .ok dispatch) :
    automaton.SwitchedBy plan.program.app dispatch := by
  obtain ⟨cases, made, rfl⟩ := switch_ok h
  have names : cases.map Prod.fst = automaton.constants := by
    apply map_of_mapM made
    intro state case made
    obtain ⟨_, _, _, _, rfl⟩ := state_ok made
    rfl
  have given : (Dispatch.switch automaton.current cases).given automaton.current =
      automaton.states.flatMap fun state =>
        state.transitions.flatMap (automaton.entered plan.program.app) := by
    rw [← flatMap_of_mapM made fun _ _ => given_state ready]
    simp only [Dispatch.given, Dispatch.nests, List.flatMap_assoc]
  refine ⟨congrArg (automaton.current :: ·) names, given, ?_⟩
  -- all values are constants of the machine exactly if those of each transition are
  rw [given, Automaton.Owns, List.forall_mem_flatMap]
  refine forall₂_congr fun state within => ?_
  rw [List.forall_mem_flatMap]
  exact forall₂_congr fun transition leads =>
    Automaton.owns_entered (targets state within transition leads)

/-! ## Where choices and declarations stand -/

lemma switches_preamble (program : Program) : (preamble program).switches = [] := by
  rw [preamble]
  cases program.mode <;> cases program.peripherals.serialInput <;> rfl

lemma switches_machines {automata : List Automaton} {machines : Block}
    (runs : List.Forall₂ plan.StatementOf automata machines) :
    List.Forall₂ (fun automaton dispatch => plan.switch automaton = .ok dispatch) automata
      machines.switches := by
  induction runs with
  | nil => exact .nil
  | @cons automaton statement automata machines first _ ih =>
    obtain ⟨dispatch, made, rfl⟩ := first
    obtain ⟨cases, _, rfl⟩ := switch_ok made
    cases plan.program.mode with
    | single => exact .cons made ih
    | multi => exact .cons made ih

/-- The choices in a loop are the `switch`es of the machines, in order. -/
lemma switches_loop {loop} (h : plan.loop = .ok loop) :
    List.Forall₂ (fun automaton dispatch => plan.switch automaton = .ok dispatch)
      plan.program.automata loop.switches := by
  obtain ⟨machines, rfl, runs⟩ := loop_ok h
  have only : (preamble plan.program ++ machines).switches = Block.switches machines := by
    rw [Block.switches, List.flatMap_append]
    exact congrArg (· ++ _) (switches_preamble plan.program)
  rw [only]
  exact switches_machines runs

/-- What is seen of enumerations and variables alone is seen of those of machines and sensors, and
of the variable for lines. -/
lemma flatMap_items {γ : Type} {view : Item → List γ} {items} (h : plan.items = .ok items)
    (hidden : ∀ item : Item, item.enumerations = [] → (∀ name, item.initials name = []) →
      view item = []) :
    items.flatMap view = (plan.program.automata.flatMap fun automaton =>
        (plan.automatonItems automaton).flatMap view)
      ++ (plan.program.app.sensors.flatMap fun sensor =>
        view (.global "unsigned long" (debounceVariable sensor) (.natural 0)))
      ++ if plan.program.peripherals.serialInput then
          view (.global "String" "serialInput" (.text ""))
        else [] := by
  obtain ⟨setup, loop, _, _, rfl⟩ := items_ok h
  have comment (text) : view (.comment text) = [] := hidden _ rfl fun _ => rfl
  have blank : view .blank = [] := hidden _ rfl fun _ => rfl
  have function (type name parameters body) : view (.function type name parameters body) = [] :=
    hidden _ rfl fun _ => rfl
  have constant (type name value) : view (.constant type name value) = [] :=
    hidden _ rfl fun _ => rfl
  have display : plan.displayItems.flatMap view = [] := by
    simp [displayItems, hidden (.library _) rfl fun _ => rfl,
      hidden (.object _ _ _) rfl fun _ => rfl, blank]
  have temperature : temperatureItems.flatMap view = [] := by
    simp [temperatureItems, comment, blank, function]
  have summary : plan.summary.flatMap view = [] := by
    simp [summary, summaryLine, List.flatMap_map, comment, blank]
  simp only [header, globals, List.flatMap_append, summary, flatMap_debounceItems blank,
    List.flatMap_assoc]
  cases plan.program.peripherals.lcd <;> cases plan.program.peripherals.serialInput <;>
    cases plan.program.peripherals.temperature <;>
    simp [comment, blank, function, constant, display, temperature]

/-- Only machines declare enumerations. -/
lemma enumerations_items {items} (h : plan.items = .ok items) :
    items.flatMap Item.enumerations =
      plan.program.automata.map fun automaton => (automaton.stateType, automaton.constants) := by
  have machine (automaton) : (plan.automatonItems automaton).flatMap Item.enumerations =
      [(automaton.stateType, automaton.constants)] := by
    rw [automatonItems]
    cases plan.program.mode <;> rfl
  rw [flatMap_items h fun _ absent _ => absent]
  simp [machine, Item.enumerations, List.map_eq_flatMap]

/-- The variable of a machine is declared with the constant of its initial state, and once more if a
sensor has a variable of the same name. -/
lemma initials_items {app : App} {items} (resolved : app.resolve = .ok plan.program)
    (h : plan.items = .ok items) (mem : automaton ∈ plan.program.automata) :
    items.flatMap (Item.initials automaton.current) = automaton.started plan.program.app := by
  have machine (other) : (plan.automatonItems other).flatMap (Item.initials automaton.current) =
      if other.current = automaton.current then [.name (other.constant other.initial)] else [] := by
    rw [automatonItems]
    cases plan.program.mode <;>
      simp [Item.initials, Automaton.changed_ne_current, Automaton.lastRun_ne_current]
  have machines : (plan.program.automata.flatMap fun other =>
      (plan.automatonItems other).flatMap (Item.initials automaton.current)) =
        [.name (automaton.constant automaton.initial)] := by
    have nodup := Program.nodup_currents resolved
    simp only [machine]
    rw [flatMap_key nodup automaton.current fun other => Expr.name (other.constant other.initial),
      find?_key nodup mem]
    rfl
  have sensors : (plan.program.app.sensors.flatMap fun sensor => Item.initials automaton.current
      (.global "unsigned long" (debounceVariable sensor) (.natural 0))) =
        if stamped automaton.current plan.program.app.sensors then [.natural 0] else [] := by
    have nodup := Program.nodup_stamps resolved
    rw [Program.stamps_eq] at nodup
    exact flatMap_stamped nodup automaton.current (.natural 0)
  rw [flatMap_items h fun _ _ absent => absent _, machines, sensors]
  simp [Item.initials, Automaton.serialInput_ne_current, Automaton.started]

end Plan

/-- An app that is one machine itself has no sensor with a variable named like that of the
machine. -/
lemma Program.stamp_ne_current {app : App} {program : Program}
    (resolved : app.resolve = .ok program) (single : app.machines = []) :
    ∀ automaton ∈ program.automata, ∀ sensor, debounceVariable sensor ≠ automaton.current := by
  obtain ⟨initial, _, listed⟩ := (App.shows_of_resolve resolved).single single
  rw [listed, List.forall_mem_singleton]
  intro sensor
  exact debounceVariable_ne sensor (by decide : "currentState".length < 16)

/-- The constants of states are distinct over all machines, and the enumerations of a sketch hold
just these. The choices in its loop are those of the machines: each has one case for each state, in
the order of the enumeration. A machine's variable is declared with the constant of the initial
state, and its `switch` gives to it the constants of the targets of transitions, which are constants
of the same machine. Nothing else is given to it, unless a sensor has a variable of the same name;
in an app without named machines none has. -/
theorem switches_keep_to_constants {app : App} {program : Program}
    (resolved : app.resolve = .ok program) :
    (program.states.map fun place => place.1.constant place.2.name).Nodup ∧
      (∀ automaton ∈ program.automata, automaton.constants.Nodup ∧
        automaton.constant automaton.initial ∈ automaton.constants ∧
        ∀ state ∈ automaton.states, ∀ transition ∈ state.transitions,
          automaton.constant transition.next ∈ automaton.constants) ∧
      (app.machines = [] →
        ∀ automaton ∈ program.automata, ∀ sensor, debounceVariable sensor ≠ automaton.current) ∧
      ∀ options pins, allocate app.bricks options.board = .ok pins →
        ∃ items loop, Plan.items ⟨program, pins, options⟩ = .ok items ∧
          generate app options = .ok (Code.render items) ∧ .function "void" "loop" "" loop ∈ items ∧
          (items.flatMap Item.enumerations = program.automata.map fun automaton =>
            (automaton.stateType, automaton.constants)) ∧
          ((items.flatMap Item.enumerations).flatMap Prod.snd =
            program.states.map fun place => place.1.constant place.2.name) ∧
          List.Forall₂ (Automaton.SwitchedBy app) program.automata loop.switches ∧
          ∀ automaton ∈ program.automata,
            items.flatMap (Item.initials automaton.current) = automaton.started app := by
  have runs := App.runs_of_resolve resolved
  have nodup := Program.nodup_constants resolved
  refine ⟨Program.constants_eq ▸ nodup, ?_, Program.stamp_ne_current resolved, ?_⟩
  · intro automaton mem
    refine ⟨Automaton.nodup_constants.mpr (runs automaton mem).names,
      Automaton.constant_mem (runs automaton mem).initial, ?_⟩
    intro state within transition leads
    exact Automaton.constant_mem ((runs automaton mem).targets state within transition leads)
  · intro options pins allocated
    have ready := Plan.ready_of_resolve resolved allocated
    obtain ⟨items, made⟩ := ready.items
    obtain ⟨setup, loop, _, looped, eq⟩ := Plan.items_ok made
    obtain rfl := (App.shows_of_resolve resolved).app_eq
    have enumerations := Plan.enumerations_items made
    refine ⟨items, loop, made, generate_eq_ok.mpr ⟨_, _, _, resolved, allocated, made, rfl⟩, ?_,
      enumerations, ?_, ?_, fun automaton mem => Plan.initials_items resolved made mem⟩
    · simp [eq]
    · rw [enumerations, List.flatMap_map, ← Program.constants_eq]
      rfl
    · have switched := (List.forall₂_and_left _ _).mpr
        ⟨fun automaton mem => (runs automaton mem).targets, Plan.switches_loop looped⟩
      exact switched.imp fun automaton dispatch ⟨targets, made⟩ =>
        Plan.switchedBy ready targets made

/-- The beacons share the names of their states, but not the constants: each switches between its
own. -/
theorem switches_keep_to_constants_beacons :
    ∃ items loop fast slow, generate beacons ⟨.uno, 200⟩ = .ok (Code.render items) ∧
      .function "void" "loop" "" loop ∈ items ∧ loop.switches = [fast, slow] ∧
      fast.names = ["currentState_fast", "off_fast", "on_fast"] ∧
      fast.given "currentState_fast" = [.name "on_fast"] ∧
      slow.names = ["currentState_slow", "off_slow", "on_slow"] ∧
      slow.given "currentState_slow" = [.name "on_slow"] ∧
      items.flatMap (Item.initials "currentState_fast") = [.name "off_fast"] ∧
      items.flatMap (Item.initials "currentState_slow") = [.name "off_slow"] := by
  obtain ⟨_, _, _, sketch⟩ := @switches_keep_to_constants beacons _ rfl
  obtain ⟨items, loop, _, generated, within, _, _, switched, started⟩ := sketch ⟨.uno, 200⟩ _ rfl
  generalize choices : loop.switches = switches at switched
  obtain _ | ⟨fast, _ | ⟨slow, _ | _⟩⟩ := switched
  refine ⟨items, loop, _, _, generated, within, choices, fast.names,
    fast.given.trans ?_, slow.names,
    slow.given.trans ?_, (started _ (.head _)).trans ?_, (started _ (.tail _ (.head _))).trans ?_⟩
  all_goals decide

/-- A machine and a sensor whose names make up the name of the variable for the machine's state. -/
def overlaid : App where
  name := "overlaid"
  bricks := [⟨⟨"currentState_x"⟩, none, .digitalSensor⟩]
  machines := [⟨⟨"xLastDebounceTime"⟩, ⟨"idle"⟩,
    [⟨⟨"idle"⟩, [], [⟨.condition (.digital ⟨"currentState_x"⟩ .high), ⟨"idle"⟩⟩]⟩], some 100⟩]

/-- Names can be valid and distinct and the model in order, and still a machine's variable gets the
time in the machine's own `switch`, and is declared with zero besides its constant. -/
theorem state_stamped_overlaid :
    let names := overlaid.bricks.map Brick.name ++ overlaid.machines.map Machine.name
      ++ overlaid.machines.flatMap fun machine => machine.states.map State.name
    names.Nodup ∧ (∀ name ∈ names, name.IsValid) ∧ overlaid.WellFormed ∧
      ∃ program pins items loop automaton dispatch, overlaid.resolve = .ok program ∧
        allocate overlaid.bricks .uno = .ok pins ∧
        Plan.items ⟨program, pins, ⟨.uno, 200⟩⟩ = .ok items ∧
        generate overlaid ⟨.uno, 200⟩ = .ok (Code.render items) ∧
        .function "void" "loop" "" loop ∈ items ∧ program.automata = [automaton] ∧
        loop.switches = [dispatch] ∧ dispatch.names = automaton.current :: automaton.constants ∧
        .call "millis" ∈ dispatch.given automaton.current ∧
        .natural 0 ∈ items.flatMap (Item.initials automaton.current) := by
  refine ⟨by decide, by decide, App.resolve_isOk_iff.mp ⟨_, rfl⟩, _, _, _, _, _, _, rfl,
    rfl, rfl, ?_,
    List.mem_append_right _ (.tail _ (.tail _ (.head _))), rfl, rfl, rfl, by decide, by decide⟩
  exact generate_eq_ok.mpr ⟨_, _, _, rfl, rfl, rfl, rfl⟩

end Brickwork
