import Brickwork.Proofs.Resolution

/-!
# Well-formed apps

What an app has to keep to, said of the model alone: it is in one of the two modes, its names are
distinct, and every place that names a brick, a state or a note names one that suits. These are the
apps that are resolved, and the program that an app is resolved to shows the app as it was declared.
-/

namespace Brickwork

/-! ## What an app has to keep to -/

/-- Whether the app declares a brick of that name, with a category that is allowed. -/
def App.Has (app : App) (name : Identifier) (allowed : Category → Prop) : Prop :=
  ∃ brick ∈ app.bricks, brick.name = name ∧ allowed brick.category

/-- Whether a condition reads a brick that can be read so. -/
def Condition.Sound (app : App) : Condition → Prop
  | digital brick _ => app.Has brick (· ∈ [.digitalSensor, .digitalActuator, .buzzer])
  | analog brick _ _ => app.Has brick (· ∈ [.analogSensor, .temperatureSensor])
  | serial brick _ => app.Has brick fun category => ∃ baud, category = .serialLine baud

/-- Whether the bricks that an action names can be used so, and a note is known. -/
def Action.Sound (app : App) : Action → Prop
  | digitalWrite actuator _ => app.Has actuator (· ∈ [.digitalActuator, .buzzer])
  | analogWrite actuator value =>
    app.Has actuator (· = .analogActuator) ∧
      ∀ sensor, value = .sensor sensor → app.Has sensor (· ∈ [.analogSensor, .temperatureSensor])
  | serialPrint serial _ => app.Has serial fun category => ∃ baud, category = .serialLine baud
  | lcdUpdate display segments =>
    app.Has display (· = .lcdDisplay) ∧
      ∀ brick, .status brick ∈ segments → app.Has brick
        (· ∈ [.digitalSensor, .digitalActuator, .buzzer, .analogSensor, .temperatureSensor])
  | tone buzzer pitch _ =>
    app.Has buzzer (· = .buzzer) ∧ ∀ name, pitch = .note name → Note.frequency? name ≠ none
  | silence buzzer => app.Has buzzer (· = .buzzer)

/-- An initial state and states that make up a machine of an app. -/
structure App.Runs (app : App) (initial : Identifier) (states : List State) : Prop where
  names : (states.map State.name).Nodup
  initial : initial ∈ states.map State.name
  actions : ∀ state ∈ states, ∀ action ∈ state.actions, action.Sound app
  guards : ∀ state ∈ states, ∀ transition ∈ state.transitions,
    ∀ condition ∈ transition.guard.conditions, condition.Sound app
  targets : ∀ state ∈ states, ∀ transition ∈ state.transitions,
    transition.next ∈ states.map State.name

/-- An app that is in order. -/
structure App.WellFormed (app : App) : Prop where
  mode : Xor (app.states ≠ [] ∨ app.initial ≠ none) (app.machines ≠ [])
  bricks : (app.bricks.map Brick.name).Nodup
  serialLines : app.bricks.countP (fun brick => brick.category.isSerialLine) ≤ 1
  displays : app.bricks.countP (fun brick => brick.category = .lcdDisplay) ≤ 1
  /-- An app without machines is one itself. -/
  single : app.machines = [] → ∃ initial, app.initial = some initial ∧ app.Runs initial app.states
  periods : ∀ machine ∈ app.machines, machine.period ≠ none
  machines : (app.machines.map Machine.name).Nodup
  constants : (app.machines.flatMap fun machine =>
    machine.states.map fun state => state.name.text ++ "_" ++ machine.name.text).Nodup
  multi : ∀ machine ∈ app.machines, app.Runs machine.initial machine.states

/-! ## Demands -/

lemma Role.admits_iff (role : Role) (category : Category) :
    role.admits category = true ↔
      match role with
      | digitalOutput => category ∈ [.digitalActuator, .buzzer]
      | analogOutput => category = .analogActuator
      | digitalInput => category ∈ [.digitalSensor, .digitalActuator, .buzzer]
      | analogInput => category ∈ [.analogSensor, .temperatureSensor]
      | serialLine => ∃ baud, category = .serialLine baud
      | display => category = .lcdDisplay
      | status =>
        category ∈ [.digitalSensor, .digitalActuator, .buzzer, .analogSensor, .temperatureSensor]
      | buzzer => category = .buzzer := by
  cases role <;> cases category <;>
    first | exact iff_of_true rfl (by simp) | exact iff_of_false nofun (by simp)

section Demands

variable {app : App} {automaton : Automaton}

/-- A demand for a brick is met by a brick that the role admits. -/
lemma Demand.met_brick {name : Identifier} {role : Role} {allowed : Category → Prop}
    (table : ∀ category, role.admits category = true ↔ allowed category) :
    (Demand.brick name role).Met app automaton ↔ app.Has name allowed := by
  simp only [Demand.Met, App.Has, table]

lemma Demand.met_note {name : String} :
    (Demand.note name).Met app automaton ↔ Note.frequency? name ≠ none :=
  Option.ne_none_iff_exists'.symm

lemma Demand.met_state {name : Identifier} :
    (Demand.state name).Met app automaton ↔ name ∈ automaton.states.map State.name :=
  List.mem_map.symm

lemma Condition.met_demand (condition : Condition) :
    condition.demand.Met app automaton ↔ condition.Sound app := by
  cases condition with
  | digital brick level => exact Demand.met_brick (Role.admits_iff .digitalInput)
  | analog brick comparison threshold => exact Demand.met_brick (Role.admits_iff .analogInput)
  | serial brick message => exact Demand.met_brick (Role.admits_iff .serialLine)

lemma Action.met_demands (action : Action) :
    (∀ demand ∈ action.demands, demand.Met app automaton) ↔ action.Sound app := by
  cases action with
  | digitalWrite actuator level =>
    rw [demands, List.forall_mem_singleton]
    exact Demand.met_brick (Role.admits_iff .digitalOutput)
  | analogWrite actuator value =>
    rw [demands, List.forall_mem_cons]
    apply and_congr (Demand.met_brick (Role.admits_iff .analogOutput))
    cases value with
    | literal value => exact iff_of_true nofun nofun
    | sensor brick =>
      rw [AnalogValue.demands, List.forall_mem_singleton]
      simp only [AnalogValue.sensor.injEq, forall_eq']
      exact Demand.met_brick (Role.admits_iff .analogInput)
  | serialPrint serial message =>
    rw [demands, List.forall_mem_singleton]
    exact Demand.met_brick (Role.admits_iff .serialLine)
  | lcdUpdate display segments =>
    rw [demands, List.forall_mem_cons, List.forall_mem_flatMap]
    apply and_congr (Demand.met_brick (Role.admits_iff .display))
    constructor
    · intro met brick mem
      exact (Demand.met_brick (Role.admits_iff .status)).mp
        (met _ mem _ (List.mem_singleton_self _))
    · intro sound segment mem
      cases segment with
      | text content => nofun
      | status brick =>
        rw [Segment.demands, List.forall_mem_singleton]
        exact (Demand.met_brick (Role.admits_iff .status)).mpr (sound brick mem)
  | tone buzzer pitch duration =>
    rw [demands, List.forall_mem_cons]
    apply and_congr (Demand.met_brick (Role.admits_iff .buzzer))
    cases pitch with
    | frequency hertz => exact iff_of_true nofun nofun
    | note name =>
      rw [Pitch.demands, List.forall_mem_singleton]
      simp only [Pitch.note.injEq, forall_eq']
      exact Demand.met_note
  | silence buzzer =>
    rw [demands, List.forall_mem_singleton]
    exact Demand.met_brick (Role.admits_iff .buzzer)

/-- A machine with distinct state names whose demands are met is one that an app can run. -/
lemma App.runs_iff :
    app.Runs automaton.initial automaton.states ↔
      (automaton.states.map State.name).Nodup ∧
        ∀ demand ∈ automaton.demands, demand.Met app automaton := by
  simp only [Automaton.demands, State.demands, Transition.demands, List.forall_mem_cons,
    List.forall_mem_flatMap, List.forall_mem_append, List.forall_mem_map, List.not_mem_nil,
    false_implies, implies_true, and_true, Demand.met_state, Condition.met_demand,
    Action.met_demands]
  constructor
  · rintro ⟨names, initial, actions, guards, targets⟩
    refine ⟨names, initial, ?_⟩
    intro state mem
    exact ⟨actions state mem, fun transition leads =>
      ⟨guards state mem transition leads, targets state mem transition leads⟩⟩
  · rintro ⟨names, initial, states⟩
    exact {
      names
      initial
      actions := fun state mem => (states state mem).1
      guards := fun state mem transition leads => ((states state mem).2 transition leads).1
      targets := fun state mem transition leads => ((states state mem).2 transition leads).2 }

/-- Where brick names are distinct, it does not matter that the brick declared last is the one that
is looked up. -/
lemma App.unmet_eq_none (nodup : (app.bricks.map Brick.name).Nodup) (demand : Demand) :
    app.unmet automaton demand = none ↔ demand.Met app automaton := by
  refine ⟨met_of_unmet_eq_none, ?_⟩
  cases demand with
  | brick name role =>
    rintro ⟨brick, mem, rfl, admitted⟩
    simp only [unmet, brick_name nodup mem, admitted, if_true]
  | note name =>
    rintro ⟨hertz, known⟩
    have known : (Note.ofText? name).isSome = true := by
      obtain ⟨note, named, _⟩ := Option.map_eq_some_iff.mp known
      rw [named, Option.isSome_some]
    simp only [unmet, known, if_true]
  | state name =>
    rintro ⟨state, mem, rfl⟩
    have known : (automaton.state? state.name).isSome = true :=
      List.find?_isSome.mpr ⟨state, mem, decide_eq_true rfl⟩
    simp only [unmet, known, if_true]

end Demands

/-! ## Names -/

/-- Names that are checked one list after the other. -/
lemma nodup_disjoint_append {α : Type} {l m seen : List α} :
    ((l ++ m).Nodup ∧ (l ++ m).Disjoint seen) ↔
      (l.Nodup ∧ l.Disjoint seen) ∧ m.Nodup ∧ m.Disjoint (l ++ seen) := by
  have comm : l.Disjoint m ↔ m.Disjoint l := List.disjoint_comm
  rw [List.nodup_append', List.disjoint_append_left, List.disjoint_append_right, comm]
  tauto

namespace Automaton

variable {automaton : Automaton} {seen : List Identifier} {constants : List String}

lemma ownNameErrors_eq_nil :
    automaton.ownNameErrors seen = [] ↔ automaton.name.toList.Disjoint seen := by
  cases named : automaton.name with
  | none => simp [ownNameErrors, named]
  | some name => simp [ownNameErrors, named]

lemma nodup_constants : automaton.constants.Nodup ↔ (automaton.states.map State.name).Nodup := by
  have eq : automaton.constants = (automaton.states.map State.name).map automaton.constant := by
    rw [List.map_map]
    rfl
  rw [eq, List.nodup_map_iff fun _ _ => constant_inj.mp]

/-- The constants of a machine with a name have no errors exactly if they are distinct and new. -/
lemma nameErrors_eq_nil_of_named (named : automaton.name ≠ none) :
    automaton.nameErrors [] constants automaton.states = [] ↔
      automaton.constants.Nodup ∧ automaton.constants.Disjoint constants := by
  rw [nameErrors_eq_nil, nodup_constants]
  apply and_congr Iff.rfl
  simp only [List.Disjoint, Automaton.constants, List.mem_map, forall_exists_index, and_imp,
    forall_apply_eq_imp_iff₂]
  constructor
  · exact fun fresh => fresh.2 named
  · exact fun fresh => ⟨fun _ _ => List.not_mem_nil, fun _ => fresh⟩

end Automaton

/-- Machines with names have no errors exactly if their names and constants are distinct and new,
and nothing that they demand is missing. -/
lemma App.automataErrors_eq_nil {app : App} {names constants automata}
    (named : ∀ automaton ∈ automata, automaton.name ≠ none) :
    app.automataErrors names constants automata = [] ↔
      ((automata.flatMap fun automaton => automaton.name.toList).Nodup ∧
        (automata.flatMap fun automaton => automaton.name.toList).Disjoint names) ∧
      ((automata.flatMap Automaton.constants).Nodup ∧
        (automata.flatMap Automaton.constants).Disjoint constants) ∧
      ∀ automaton ∈ automata, ∀ demand ∈ automaton.demands, app.unmet automaton demand = none := by
  induction automata generalizing names constants with
  | nil => simp [automataErrors]
  | cons automaton automata ih =>
    have later := fun other mem => named other (List.mem_cons_of_mem automaton mem)
    have alone : automaton.name.toList.Nodup := by cases automaton.name <;> simp
    rw [automataErrors_cons, ih later, Automaton.ownNameErrors_eq_nil,
      Automaton.nameErrors_eq_nil_of_named (named automaton List.mem_cons_self), List.flatMap_cons,
      List.flatMap_cons, nodup_disjoint_append, nodup_disjoint_append, List.forall_mem_cons]
    tauto

section Peripherals

variable {serial lcd : Option Identifier} {bricks : List Brick}

/-- There is one error for each serial line and each display behind the first, those seen before
included. -/
lemma length_peripheralErrors :
    (peripheralErrors serial lcd bricks).length =
      (serial.toList.length + bricks.countP (fun brick => brick.category.isSerialLine) - 1)
      + (lcd.toList.length + bricks.countP (fun brick => brick.category = .lcdDisplay) - 1) := by
  induction bricks generalizing serial lcd with
  | nil => cases serial <;> cases lcd <;> rfl
  | cons brick bricks ih =>
    obtain ⟨name, place, category⟩ := brick
    rw [List.countP_cons, List.countP_cons]
    cases category with
    | serialLine baud =>
      cases serial with
      | none =>
        show (peripheralErrors (some name) lcd bricks).length = 0 + (_ + 1) - 1 + (_ + (_ + 0) - 1)
        rw [ih]
        show 1 + _ - 1 + _ = _
        omega
      | some first =>
        show (peripheralErrors (some first) lcd bricks).length + 1 =
            1 + (_ + 1) - 1 + (_ + (_ + 0) - 1)
        rw [ih]
        show 1 + _ - 1 + _ + 1 = _
        omega
    | lcdDisplay =>
      cases lcd with
      | none =>
        show (peripheralErrors serial (some name) bricks).length =
            _ + (_ + 0) - 1 + (0 + (_ + 1) - 1)
        rw [ih]
        show _ + (1 + _ - 1) = _
        omega
      | some first =>
        show (peripheralErrors serial (some first) bricks).length + 1 =
            _ + (_ + 0) - 1 + (1 + (_ + 1) - 1)
        rw [ih]
        show _ + (1 + _ - 1) + 1 = _
        omega
    | _ => exact ih

lemma mem_peripheralErrors {error} (mem : error ∈ peripheralErrors serial lcd bricks) :
    ∃ peripheral first second, error = .duplicatePeripheral peripheral first second := by
  induction bricks generalizing serial lcd with
  | nil => cases mem
  | cons brick bricks ih =>
    obtain ⟨name, place, category⟩ := brick
    cases category with
    | serialLine baud =>
      cases serial with
      | none => exact ih mem
      | some first =>
        rcases List.mem_cons.mp mem with rfl | mem
        · exact ⟨_, _, _, rfl⟩
        · exact ih mem
    | lcdDisplay =>
      cases lcd with
      | none => exact ih mem
      | some first =>
        rcases List.mem_cons.mp mem with rfl | mem
        · exact ⟨_, _, _, rfl⟩
        · exact ih mem
    | _ => exact ih mem

/-- There are no further serial lines and displays exactly if there is at most one of each, those
seen before included. -/
lemma peripheralErrors_eq_nil :
    peripheralErrors serial lcd bricks = [] ↔
      serial.toList.length + bricks.countP (fun brick => brick.category.isSerialLine) ≤ 1 ∧
        lcd.toList.length + bricks.countP (fun brick => brick.category = .lcdDisplay) ≤ 1 := by
  rw [← List.length_eq_zero_iff, length_peripheralErrors]
  omega

end Peripherals

/-! ## Modes -/

/-- A machine as an automaton, with its period if it has one. -/
def Machine.view (machine : Machine) : Automaton :=
  ⟨some machine.name, machine.initial, machine.states, machine.period⟩

lemma Machine.automaton_eq_ok {machine : Machine} {automaton} :
    machine.automaton = .ok automaton ↔ machine.period ≠ none ∧ automaton = machine.view := by
  rw [Machine.automaton, view]
  cases machine.period with
  | none => simp
  | some period => simp [eq_comm]

lemma App.automata_multi {app : App} {automata} :
    app.automata .multi = .ok automata ↔
      (∀ machine ∈ app.machines, machine.period ≠ none) ∧
      automata = app.machines.map Machine.view := by
  rw [App.automata]
  induction app.machines generalizing automata with
  | nil => simp [pure, Except.pure, eq_comm]
  | cons machine machines ih =>
    rw [mapM_cons_ok, List.forall_mem_cons, List.map_cons]
    simp only [Machine.automaton_eq_ok, ih]
    constructor
    · rintro ⟨_, _, ⟨period, rfl⟩, ⟨periods, rfl⟩, rfl⟩
      exact ⟨⟨period, periods⟩, rfl⟩
    · rintro ⟨⟨period, periods⟩, rfl⟩
      exact ⟨_, _, ⟨period, rfl⟩, ⟨periods, rfl⟩, rfl⟩

lemma App.automata_single {app : App} {automata} :
    app.automata .single = .ok automata ↔
      ∃ initial, app.initial = some initial ∧ automata = [⟨none, initial, app.states, none⟩] := by
  rw [App.automata]
  cases app.initial with
  | none => simp
  | some initial => simp [eq_comm]

lemma App.mode_eq_ok {app : App} {mode : Mode} :
    app.mode = .ok mode ↔
      Xor (app.states ≠ [] ∨ app.initial ≠ none) (app.machines ≠ []) ∧
        (mode = .multi ↔ app.machines ≠ []) := by
  have single : (!app.states.isEmpty || app.initial.isSome) = true ↔
      app.states ≠ [] ∨ app.initial ≠ none := by
    simp [Option.isSome_iff_ne_none]
  have multi : (!app.machines.isEmpty) = true ↔ app.machines ≠ [] := by simp
  rw [App.mode, ← single, ← multi]
  cases !app.states.isEmpty || app.initial.isSome <;> cases !app.machines.isEmpty <;> cases mode <;>
    simp [Xor]

lemma App.errors_eq_nil {app : App} {automata} :
    app.errors automata = [] ↔ (app.bricks.map Brick.name).Nodup ∧
      (app.bricks.countP (fun brick => brick.category.isSerialLine) ≤ 1 ∧
        app.bricks.countP (fun brick => brick.category = .lcdDisplay) ≤ 1) ∧
      app.automataErrors [] [] automata = [] := by
  rw [App.errors, List.append_eq_nil_iff, List.append_eq_nil_iff, List.map_eq_nil_iff,
    repeats_eq_nil, peripheralErrors_eq_nil, and_assoc]
  simp only [Option.toList_none, List.length_nil, Nat.zero_add, List.not_mem_nil, not_false_eq_true,
    implies_true, and_true]

/-! ## Resolution -/

namespace App

variable {app : App}

/-- The machine of an app without machines has no errors exactly if the app can run it. -/
lemma automataErrors_anonymous (bricks : (app.bricks.map Brick.name).Nodup) (initial : Identifier) :
    app.automataErrors [] [] [⟨none, initial, app.states, none⟩] = [] ↔
    app.Runs initial app.states := by
  rw [automataErrors_cons, Automaton.nameErrors_eq_nil]
  simp only [unmet_eq_none bricks]
  refine Iff.trans ?_ (@runs_iff app ⟨none, initial, app.states, none⟩).symm
  simp [Automaton.ownNameErrors, automataErrors]

lemma constants_view : (app.machines.map Machine.view).flatMap Automaton.constants =
    app.machines.flatMap fun machine =>
      machine.states.map fun state => state.name.text ++ "_" ++ machine.name.text := by
  rw [List.flatMap_map]
  simp only [Automaton.constants, Automaton.constant, Automaton.suffix, Machine.view,
    String.append_assoc]

/-- The machines of an app have no errors exactly if their names and constants are distinct and the
app can run them. -/
lemma automataErrors_machines (bricks : (app.bricks.map Brick.name).Nodup) :
    app.automataErrors [] [] (app.machines.map Machine.view) = [] ↔
      (app.machines.map Machine.name).Nodup ∧
      (app.machines.flatMap fun machine =>
        machine.states.map fun state => state.name.text ++ "_" ++ machine.name.text).Nodup ∧
      ∀ machine ∈ app.machines, app.Runs machine.initial machine.states := by
  have named : ∀ automaton ∈ app.machines.map Machine.view, automaton.name ≠ none := by
    rw [List.forall_mem_map]
    exact fun _ _ => nofun
  have names : (app.machines.map Machine.view).flatMap (fun automaton => automaton.name.toList) =
      app.machines.map Machine.name := by
    rw [List.flatMap_map]
    exact List.map_eq_flatMap.symm
  rw [automataErrors_eq_nil named, names, constants_view, List.forall_mem_map]
  simp only [unmet_eq_none bricks, List.disjoint_nil_right, and_true]
  apply and_congr Iff.rfl
  apply and_congr_right
  intro distinct
  -- distinct constants within a machine come from distinct names
  have states : ∀ machine ∈ app.machines, (machine.states.map State.name).Nodup := by
    intro machine mem
    apply List.Nodup.of_map fun name : Identifier => name.text ++ "_" ++ machine.name.text
    rw [List.map_map]
    exact (List.nodup_flatMap.mp distinct).1 machine mem
  constructor
  · intro met machine mem
    exact (@runs_iff app machine.view).mpr ⟨states machine mem, met machine mem⟩
  · intro runs machine mem
    exact ((@runs_iff app machine.view).mp (runs machine mem)).2

/-- Without machines, an app is well formed exactly if it has an initial state and no errors. -/
lemma wellFormed_single (machineless : app.machines = []) :
    app.WellFormed ↔ ∃ initial, app.initial = some initial ∧
      app.errors [⟨none, initial, app.states, none⟩] = [] := by
  constructor
  · intro wellFormed
    obtain ⟨initial, eq, runs⟩ := wellFormed.single machineless
    have bricks := wellFormed.bricks
    refine
      ⟨initial, eq, errors_eq_nil.mpr ⟨bricks, ⟨wellFormed.serialLines, wellFormed.displays⟩, ?_⟩⟩
    exact (automataErrors_anonymous bricks initial).mpr runs
  · rintro ⟨initial, eq, clean⟩
    obtain ⟨bricks, ⟨serialLines, displays⟩, clean⟩ := errors_eq_nil.mp clean
    exact {
      mode := .inl ⟨.inr (by rw [eq]; nofun), fun nonempty => nonempty machineless⟩
      bricks
      serialLines
      displays
      single := fun _ => ⟨initial, eq, (automataErrors_anonymous bricks initial).mp clean⟩
      periods := by rw [machineless]; nofun
      machines := by rw [machineless]; exact List.nodup_nil
      constants := by rw [machineless]; exact List.nodup_nil
      multi := by rw [machineless]; nofun }

/-- With machines, an app is well formed exactly if it has no machine of its own, every machine has
a period, and there are no errors. -/
lemma wellFormed_multi (machined : app.machines ≠ []) :
    app.WellFormed ↔ ¬(app.states ≠ [] ∨ app.initial ≠ none) ∧
      (∀ machine ∈ app.machines, machine.period ≠ none) ∧
        app.errors (app.machines.map Machine.view) = [] := by
  constructor
  · intro wellFormed
    have bricks := wellFormed.bricks
    refine ⟨?_, wellFormed.periods,
      errors_eq_nil.mpr ⟨bricks, ⟨wellFormed.serialLines, wellFormed.displays⟩, ?_⟩⟩
    · obtain ⟨_, machineless⟩ | ⟨_, own⟩ := wellFormed.mode
      · exact (machineless machined).elim
      · exact own
    · exact (automataErrors_machines bricks).mpr
        ⟨wellFormed.machines, wellFormed.constants, wellFormed.multi⟩
  · rintro ⟨own, periods, clean⟩
    obtain ⟨bricks, ⟨serialLines, displays⟩, clean⟩ := errors_eq_nil.mp clean
    obtain ⟨machines, constants, multi⟩ := (automataErrors_machines bricks).mp clean
    exact {
      mode := .inr ⟨machined, own⟩
      bricks
      serialLines
      displays
      single := fun machineless => (machined machineless).elim
      periods
      machines
      constants
      multi }

end App

/-- What a program shows of the app that it was made from. -/
structure Program.Shows (program : Program) (app : App) : Prop where
  app_eq : program.app = app
  mode : program.mode = .multi ↔ app.machines ≠ []
  single : app.machines = [] → ∃ initial, app.initial = some initial ∧
    program.automata = [⟨none, initial, app.states, none⟩]
  multi : app.machines ≠ [] → program.automata = app.machines.map Machine.view
  brick : ∀ name brick,
    program.app.brick name = .ok brick ↔ brick ∈ app.bricks ∧ brick.name = name
  unknown : ∀ name, name ∉ app.bricks.map Brick.name →
    program.app.brick name = .error (.unknownBrick name)
  lcd : program.peripherals.lcd = true ↔ ∃ brick ∈ app.bricks, brick.category = .lcdDisplay
  serial : program.peripherals.serial = true ↔
    ∃ brick ∈ app.bricks, ∃ baud, brick.category = .serialLine baud
  temperature : program.peripherals.temperature = true ↔
    ∃ brick ∈ app.bricks, brick.category = .temperatureSensor
  serialInput : program.peripherals.serialInput = true ↔
    ∃ automaton ∈ program.automata, ∃ state ∈ automaton.states, ∃ transition ∈ state.transitions,
      ∃ brick message, .serial brick message ∈ transition.guard.conditions

lemma Category.isSerialLine_iff {category : Category} :
    category.isSerialLine = true ↔ ∃ baud, category = .serialLine baud := by
  cases category <;> simp [isSerialLine]

lemma Condition.readsSerial_iff {condition : Condition} :
    condition.readsSerial = true ↔ ∃ brick message, condition = .serial brick message := by
  cases condition <;> simp [readsSerial]

lemma Automaton.readsSerial_iff {automaton : Automaton} :
    automaton.readsSerial = true ↔ ∃ state ∈ automaton.states, ∃ transition ∈ state.transitions,
      ∃ brick message, .serial brick message ∈ transition.guard.conditions := by
  simp only [readsSerial, List.any_eq_true, Condition.readsSerial_iff]
  constructor
  · rintro ⟨state, within, transition, leads, _, mem, brick, message, rfl⟩
    exact ⟨state, within, transition, leads, brick, message, mem⟩
  · rintro ⟨state, within, transition, leads, brick, message, mem⟩
    exact ⟨state, within, transition, leads, _, mem, brick, message, rfl⟩

namespace App

variable {app : App}

/-- Exactly the well-formed apps are resolved. -/
lemma resolve_isOk_iff : (∃ program, app.resolve = .ok program) ↔ app.WellFormed := by
  simp only [resolve_eq_ok, mode_eq_ok]
  by_cases machines : app.machines = []
  · rw [wellFormed_single machines]
    constructor
    · rintro ⟨_, mode, automata, ⟨_, moded⟩, listed, clean, _⟩
      cases mode with
      | multi => exact (moded.mp rfl machines).elim
      | single =>
        obtain ⟨initial, eq, rfl⟩ := automata_single.mp listed
        exact ⟨initial, eq, clean⟩
    · rintro ⟨initial, eq, clean⟩
      have listed := automata_single.mpr ⟨initial, eq, rfl⟩
      refine
        ⟨_, .single, _, ⟨.inl ⟨.inr (by rw [eq]; nofun), fun nonempty => nonempty machines⟩, ?_⟩,
        listed, clean, rfl⟩
      exact iff_of_false nofun fun nonempty => nonempty machines
  · rw [wellFormed_multi machines]
    constructor
    · rintro ⟨_, mode, automata, ⟨xor, moded⟩, listed, clean, _⟩
      cases mode with
      | single => cases moded.mpr machines
      | multi =>
        obtain ⟨periods, rfl⟩ := automata_multi.mp listed
        obtain ⟨_, machineless⟩ | ⟨_, own⟩ := xor
        · exact (machineless machines).elim
        · exact ⟨own, periods, clean⟩
    · rintro ⟨own, periods, clean⟩
      have listed := automata_multi.mpr ⟨periods, rfl⟩
      exact ⟨_, .multi, _, ⟨.inr ⟨machines, own⟩, iff_of_true rfl machines⟩, listed, clean, rfl⟩

lemma runs_of_resolve {program} (h : app.resolve = .ok program) :
    ∀ automaton ∈ program.automata, app.Runs automaton.initial automaton.states := by
  have sound := resolved_of_resolve h
  intro automaton mem
  exact runs_iff.mpr ⟨sound.states automaton mem, sound.demands automaton mem⟩

/-- The program that an app is resolved to shows it. -/
lemma shows_of_resolve {program} (h : app.resolve = .ok program) : program.Shows app := by
  have bricks := (resolved_of_resolve h).bricks
  obtain ⟨mode, automata, moded, listed, _, rfl⟩ := resolve_eq_ok.mp h
  have moded := (mode_eq_ok.mp moded).2
  exact {
    app_eq := rfl
    mode := moded
    single := by
      intro machineless
      cases mode with
      | multi => exact (moded.mp rfl machineless).elim
      | single => exact automata_single.mp listed
    multi := by
      intro machined
      cases mode with
      | single => cases moded.mpr machined
      | multi => exact (automata_multi.mp listed).2
    brick := by
      intro name brick
      constructor
      · exact mem_of_brick
      · rintro ⟨mem, rfl⟩
        exact brick_name bricks mem
    unknown := by
      intro name missing
      cases found : app.brick name with
      | ok brick =>
        obtain ⟨mem, rfl⟩ := mem_of_brick found
        exact (missing (List.mem_map_of_mem mem)).elim
      | error error =>
        rw [App.brick] at found
        split at found
        · cases found
        · cases found
          rfl
    lcd := by simp [peripherals]
    serial := by simp [peripherals, Category.isSerialLine_iff]
    temperature := by simp [peripherals]
    serialInput := by simp [peripherals, Automaton.readsSerial_iff] }

end App

/-- Exactly the well-formed apps are resolved, and the program that an app is resolved to shows its
machines in the order of declaration, finds its bricks and no others, and knows just what support
the app needs. -/
theorem resolve_ok_iff_wellFormed (app : App) :
    ((∃ program, app.resolve = .ok program) ↔ app.WellFormed) ∧
      ∀ program, app.resolve = .ok program → program.Shows app :=
  ⟨App.resolve_isOk_iff, fun _ => App.shows_of_resolve⟩

/-- Two lamps with a machine each: a key turns the first on, and a message on the line the
second. -/
def beacons : App where
  name := "beacons"
  bricks := [⟨⟨"key"⟩, none, .digitalSensor⟩, ⟨⟨"red"⟩, none, .digitalActuator⟩,
    ⟨⟨"green"⟩, some (.digital 8), .digitalActuator⟩, ⟨⟨"line"⟩, none, .serialLine 9600⟩]
  machines :=
    [⟨⟨"fast"⟩, ⟨"off"⟩, [⟨⟨"off"⟩, [.digitalWrite ⟨"red"⟩ .low],
        [⟨.condition (.digital ⟨"key"⟩ .high), ⟨"on"⟩⟩]⟩,
      ⟨⟨"on"⟩, [.digitalWrite ⟨"red"⟩ .high], []⟩], some 100⟩,
     ⟨⟨"slow"⟩, ⟨"off"⟩, [⟨⟨"off"⟩, [.digitalWrite ⟨"green"⟩ .low],
        [⟨.condition (.serial ⟨"line"⟩ "on"), ⟨"on"⟩⟩]⟩,
      ⟨⟨"on"⟩, [.digitalWrite ⟨"green"⟩ .high], []⟩], some 250⟩]

theorem resolve_ok_iff_wellFormed_beacons :
    beacons.WellFormed ∧ ∃ program, beacons.resolve = .ok program ∧
      program.automata = beacons.machines.map Machine.view ∧
      (∀ name brick, program.app.brick name = .ok brick ↔
      brick ∈ beacons.bricks ∧ brick.name = name) ∧ program.peripherals.serialInput = true := by
  have resolved : ∃ program, beacons.resolve = .ok program := ⟨_, rfl⟩
  refine ⟨(resolve_ok_iff_wellFormed beacons).1.mp resolved, ?_⟩
  obtain ⟨program, resolved⟩ := resolved
  have shown := (resolve_ok_iff_wellFormed beacons).2 program resolved
  have listed := shown.multi nofun
  refine ⟨program, resolved, listed, shown.brick, shown.serialInput.mpr ?_⟩
  rw [listed]
  exact ⟨_, .tail _ (.head _), _, .head _, _, .head _, ⟨"line"⟩, "on", .head _⟩

end Brickwork
