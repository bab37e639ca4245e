import Brickwork.Proofs.Completeness
import Brickwork.Proofs.Moments
import Brickwork.Proofs.WellFormed
import Mathlib.Data.List.Perm.Basic

/-!
# Names that sketches declare

A sketch declares the constants of all states, a type and variables for each machine, a variable for
each digital sensor, and names that come with every sketch or with the support it needs. Within each
of these families names are distinct. States and sensors are named freely, though, and so a constant
can meet any name of the other families, and the variable of a sensor can meet those of a machine;
nothing else can meet.
-/

namespace Brickwork

open Code

/-- The names that an item declares for the whole sketch. -/
def Code.Item.declared : Item → List String
  | object _ name _ => [name]
  | constant _ name _ => [name]
  | enumeration name members => name :: members
  | global _ name _ => [name]
  | function _ name _ _ => [name]
  | comment _ | blank | library _ => []

/-- The digital sensors of an app. -/
def App.sensors (app : App) : List Identifier :=
  (app.bricks.filter fun brick => brick.category = .digitalSensor).map Brick.name

namespace Program

variable (program : Program)

/-- The constants of all states. -/
def constants : List String :=
  program.automata.flatMap Automaton.constants

/-- The types and variables of the machines. -/
def machineNames : List String :=
  program.automata.flatMap fun automaton =>
    [automaton.stateType, automaton.current, automaton.changed] ++
      match program.mode with
      | .single => []
      | .multi => [automaton.lastRun]

/-- The variables of the digital sensors. -/
def stamps : List String :=
  (program.app.bricks.filter fun brick => brick.category = .digitalSensor).map fun brick =>
    debounceVariable brick.name

lemma stamps_eq : program.stamps = program.app.sensors.map debounceVariable := by
  rw [stamps, App.sensors, List.map_map]
  rfl

/-- The names that come with every sketch, or with the support that it needs. -/
def supportNames : List String :=
  ["debounce", "setup", "loop"]
    ++ (if program.peripherals.lcd then ["lcd"] else [])
    ++ (if program.peripherals.serialInput then ["serialInput"] else [])
    ++ (if program.peripherals.temperature then ["readTemperature"] else [])

end Program

/-! ## What is declared -/

/-- A sketch is made from a program, its pins and its items. -/
lemma generate_eq_ok {app : App} {options : Options} {sketch} :
    generate app options = .ok sketch ↔ ∃ program pins items, app.resolve = .ok program ∧
      allocate app.bricks options.board = .ok pins ∧
      Plan.items ⟨program, pins, options⟩ = .ok items ∧ sketch = Code.render items := by
  unfold generate
  constructor
  · intro h
    split at h
    case h_1 => cases h
    case h_2 program resolved =>
      split at h
      case h_1 => cases h
      case h_2 pins allocated =>
        split at h
        case h_1 => cases h
        case h_2 items made =>
          cases h
          exact ⟨program, pins, items, resolved, allocated, made, rfl⟩
  · rintro ⟨program, pins, items, resolved, allocated, made, rfl⟩
    simp only [resolved, allocated, made]

namespace Plan

variable {plan : Plan}

lemma items_ok {items} (h : plan.items = .ok items) :
    ∃ setup loop, plan.program.app.bricks.mapM plan.setup = .ok setup ∧ plan.loop = .ok loop ∧
      items = plan.header ++ plan.summary ++ plan.globals
        ++ [.function "void" "setup" "" (setup.map Block.step), .blank,
            .function "void" "loop" "" loop] := by
  obtain ⟨setup, eqs, h⟩ := bind_eq_ok.mp h
  obtain ⟨loop, eql, h⟩ := bind_eq_ok.mp h
  cases h
  exact ⟨setup, loop, eqs, eql, rfl⟩

/-- Comments declare nothing. -/
lemma declared_summary : plan.summary.flatMap Item.declared = [] := by
  simp [summary, summaryLine, Item.declared, List.flatMap_map]

/-- The constants of a machine are declared with its type, and its variables behind them. -/
lemma declared_automata :
    ((plan.program.automata.flatMap plan.automatonItems).flatMap Item.declared).Perm
      (plan.program.constants ++ plan.program.machineNames) := by
  refine List.Perm.trans ?_ (List.flatMap_append_perm _ _ _).symm
  rw [List.flatMap_assoc]
  apply List.Perm.flatMap_left
  intro automaton _
  rw [automatonItems]
  cases plan.program.mode with
  | single => exact List.perm_middle.symm
  | multi => exact List.perm_middle.symm

/-- What is seen of the declarations for sensors, apart from the blank line behind them, is seen of
their variables. -/
lemma flatMap_debounceItems {γ : Type} {view : Item → List γ} (blank : view .blank = []) :
    plan.debounceItems.flatMap view = plan.program.app.sensors.flatMap fun sensor =>
      view (.global "unsigned long" (debounceVariable sensor) (.natural 0)) := by
  rw [debounceItems, App.sensors]
  generalize plan.program.app.bricks.filter (fun brick => brick.category = .digitalSensor) = sensors
  cases sensors with
  | nil => rfl
  | cons brick sensors =>
    show List.flatMap _ (_ ++ [Item.blank]) = _
    rw [List.flatMap_append, List.flatMap_singleton, blank, List.append_nil, List.flatMap_map,
      List.flatMap_map]

lemma declared_debounceItems : plan.debounceItems.flatMap Item.declared = plan.program.stamps := by
  rw [flatMap_debounceItems rfl, Program.stamps_eq]
  exact List.map_eq_flatMap.symm

/-- The names that a sketch declares, family by family. -/
lemma declared_items {items} (h : plan.items = .ok items) :
    (items.flatMap Item.declared).Perm
      (plan.program.constants ++ plan.program.machineNames ++ plan.program.stamps
        ++ plan.program.supportNames) := by
  obtain ⟨setup, loop, _, _, rfl⟩ := items_ok h
  -- the families stand in another order in the sketch, so names are counted
  apply List.perm_iff_count.mpr
  intro name
  have machines := plan.declared_automata.count_eq name
  simp only [List.flatMap_append, declared_summary, globals, declared_debounceItems,
    List.count_append, machines, Program.supportNames]
  cases plan.program.peripherals.lcd <;> cases plan.program.peripherals.serialInput <;>
    cases plan.program.peripherals.temperature <;>
    simp [header, displayItems, temperatureItems, Item.declared, List.count_cons] <;> omega

end Plan

/-! ## Families of names -/

/-- Texts with fronts that differ in their first two characters differ. -/
lemma append_ne_append {front front' back back' : String}
    (long : 2 ≤ front.toList.length ∧ 2 ≤ front'.toList.length)
    (differ : front.toList.take 2 ≠ front'.toList.take 2) : front ++ back ≠ front' ++ back' := by
  intro eq
  apply differ
  have same := congrArg (fun text : String => text.toList.take 2) eq
  simpa only [String.toList_append, List.take_append_of_le_length long.1,
    List.take_append_of_le_length long.2] using same

namespace Program

variable {app : App} {program : Program}

/-- What the types and variables of machines start with. -/
def fronts : Mode → List String
  | .single => ["STATE", "currentState", "stateChanged"]
  | .multi => ["STATE", "currentState", "stateChanged", "lastRun"]

lemma machineNames_eq : program.machineNames =
    program.automata.flatMap fun automaton =>
      (fronts program.mode).map (· ++ automaton.suffix) := by
  rw [machineNames]
  cases program.mode <;> rfl

/-- A type or variable of a machine shows what it is and whose it is. -/
lemma fronts_inj {mode : Mode} {front front' back back' : String} (mem : front ∈ fronts mode)
    (mem' : front' ∈ fronts mode) (eq : front ++ back = front' ++ back') :
    front = front' ∧ back = back' := by
  have differ : ∀ a ∈ fronts mode, ∀ b ∈ fronts mode,
      (2 ≤ a.toList.length ∧ 2 ≤ b.toList.length) ∧
      (a ≠ b → a.toList.take 2 ≠ b.toList.take 2) := by
    cases mode <;> decide
  obtain ⟨long, differ⟩ := differ front mem front' mem'
  by_cases same : front = front'
  · cases same
    exact ⟨rfl, (String.append_right_inj _).mp eq⟩
  · exact (append_ne_append long (differ same) eq).elim

lemma nodup_suffixes (resolved : app.resolve = .ok program) :
    (program.automata.map Automaton.suffix).Nodup := by
  have shown := App.shows_of_resolve resolved
  by_cases machines : app.machines = []
  · obtain ⟨initial, _, listed⟩ := shown.single machines
    rw [listed]
    exact List.nodup_singleton _
  · have wellFormed := App.resolve_isOk_iff.mp ⟨program, resolved⟩
    have suffixes : (app.machines.map Machine.view).map Automaton.suffix =
        (app.machines.map Machine.name).map fun name => "_" ++ name.text := by
      rw [List.map_map, List.map_map]
      rfl
    rw [shown.multi machines, suffixes, List.nodup_map_iff]
    · exact wellFormed.machines
    · intro a b eq
      exact Identifier.eq_of_text ((String.append_right_inj _).mp eq)

lemma nodup_machineNames (resolved : app.resolve = .ok program) : program.machineNames.Nodup := by
  have fronts_nodup : (fronts program.mode).Nodup := by cases program.mode <;> decide
  rw [machineNames_eq, List.nodup_flatMap]
  constructor
  · intro automaton _
    exact (List.nodup_map_iff fun _ _ => (String.append_left_inj _).mp).mpr fronts_nodup
  · -- names of two machines end differently
    apply (List.pairwise_map.mp (nodup_suffixes resolved)).imp
    intro a b differ name mem mem'
    obtain ⟨front, among, rfl⟩ := List.mem_map.mp mem
    obtain ⟨front', among', eq⟩ := List.mem_map.mp mem'
    exact differ (fronts_inj among' among eq).2.symm

lemma nodup_constants (resolved : app.resolve = .ok program) : program.constants.Nodup := by
  have shown := App.shows_of_resolve resolved
  have wellFormed := App.resolve_isOk_iff.mp ⟨program, resolved⟩
  by_cases machines : app.machines = []
  · obtain ⟨initial, eq, listed⟩ := shown.single machines
    obtain ⟨_, _, runs⟩ := wellFormed.single machines
    rw [constants, listed, List.flatMap_singleton]
    exact Automaton.nodup_constants.mpr runs.names
  · rw [constants, shown.multi machines, App.constants_view]
    exact wellFormed.constants

lemma nodup_stamps (resolved : app.resolve = .ok program) : program.stamps.Nodup := by
  have sound := App.resolved_of_resolve resolved
  rw [stamps_eq, List.nodup_map_iff fun _ _ => debounceVariable_inj, sound.app_eq]
  exact sound.bricks.sublist (List.filter_sublist.map _)

/-- Support has no other names than these. -/
lemma mem_supportNames {name : String} (mem : name ∈ program.supportNames) :
    name ∈ ["debounce", "setup", "loop", "lcd", "serialInput", "readTemperature"] := by
  unfold supportNames at mem
  cases program.peripherals.lcd <;> cases program.peripherals.serialInput <;>
    cases program.peripherals.temperature <;> simp at mem ⊢ <;> tauto

lemma nodup_supportNames : program.supportNames.Nodup := by
  unfold supportNames
  cases program.peripherals.lcd <;> cases program.peripherals.serialInput <;>
    cases program.peripherals.temperature <;> decide

/-- No type or variable of a machine is named like support. -/
lemma not_mem_machineNames {name : String}
    (among : name ∈ ["debounce", "setup", "loop", "lcd", "serialInput", "readTemperature"]) :
    name ∉ program.machineNames := by
  intro mem
  rw [machineNames_eq] at mem
  obtain ⟨automaton, _, mem⟩ := List.mem_flatMap.mp mem
  obtain ⟨front, own, eq⟩ := List.mem_map.mp mem
  have differ : ∀ front ∈ fronts program.mode,
      ∀ name ∈ ["debounce", "setup", "loop", "lcd", "serialInput", "readTemperature"],
        (2 ≤ front.toList.length ∧ 2 ≤ name.toList.length) ∧
          front.toList.take 2 ≠ name.toList.take 2 := by
    cases program.mode <;> decide
  obtain ⟨long, differ⟩ := differ front own name among
  exact append_ne_append long differ (eq.trans String.append_empty.symm)

lemma disjoint_machineNames_supportNames : program.machineNames.Disjoint program.supportNames :=
  fun _ mem mem' => not_mem_machineNames (mem_supportNames mem') mem

lemma disjoint_stamps_supportNames : program.stamps.Disjoint program.supportNames := by
  intro name mem mem'
  obtain ⟨brick, _, rfl⟩ := List.mem_map.mp mem
  have short : ∀ name ∈ ["debounce", "setup", "loop", "lcd", "serialInput", "readTemperature"],
      name.length < 16 := by decide
  exact debounceVariable_ne brick.name (short _ (mem_supportNames mem')) rfl

end Program

/-- The names that a sketch declares for its whole text are the constants of all states, the types
and variables of machines, the variables of digital sensors, and the names of support. They are
distinct exactly if no constant is also a name of another family, and no variable of a sensor is
also a type or variable of a machine. -/
theorem declared_nodup_iff {app : App} {options : Options} {sketch : String}
    (generated : generate app options = .ok sketch) :
    ∃ program pins items, app.resolve = .ok program ∧ allocate app.bricks options.board = .ok pins ∧
      Plan.items ⟨program, pins, options⟩ = .ok items ∧ sketch = Code.render items ∧
      (items.flatMap Item.declared).Perm
        (program.constants ++ program.machineNames ++ program.stamps ++ program.supportNames) ∧
      ((items.flatMap Item.declared).Nodup ↔
        (∀ name ∈ program.constants,
          name ∉ program.machineNames ∧ name ∉ program.stamps ∧ name ∉ program.supportNames) ∧
        ∀ name ∈ program.stamps, name ∉ program.machineNames) := by
  obtain ⟨program, pins, items, resolved, allocated, made, rfl⟩ := generate_eq_ok.mp generated
  have declared := Plan.declared_items made
  refine ⟨program, pins, items, resolved, allocated, made, rfl, declared, ?_⟩
  rw [declared.nodup_iff, List.nodup_append', List.nodup_append', List.nodup_append',
    List.disjoint_append_left, List.disjoint_append_left, List.disjoint_append_left]
  constructor
  · rintro ⟨⟨⟨_, _, machines⟩, _, stamps, sensors⟩, _, ⟨support, _⟩, _⟩
    refine ⟨?_, fun name mem mem' => sensors mem' mem⟩
    exact fun name mem => ⟨machines mem, stamps mem, support mem⟩
  · rintro ⟨free, apart⟩
    have constants := Program.nodup_constants resolved
    have machines := Program.nodup_machineNames resolved
    have stamps := Program.nodup_stamps resolved
    refine ⟨⟨⟨constants, machines, ?_⟩, stamps, ?_, ?_⟩, Program.nodup_supportNames, ⟨?_, ?_⟩, ?_⟩
    · exact fun name mem => (free name mem).1
    · exact fun name mem => (free name mem).2.1
    · exact fun name mem mem' => apart name mem' mem
    · exact fun name mem => (free name mem).2.2
    · exact Program.disjoint_machineNames_supportNames
    · exact Program.disjoint_stamps_supportNames

/-- The beacons have no clash, so their sketch declares every name once. -/
theorem declared_nodup_iff_beacons :
    ∃ sketch program pins items, generate beacons ⟨.uno, 200⟩ = .ok sketch ∧
      Plan.items ⟨program, pins, ⟨.uno, 200⟩⟩ = .ok items ∧ sketch = Code.render items ∧
      (items.flatMap Item.declared).Nodup := by
  obtain ⟨items, made⟩ := (@Plan.ready_of_resolve beacons ⟨.uno, 200⟩ _ _ rfl rfl).items
  have generated : generate beacons ⟨.uno, 200⟩ = .ok (Code.render items) :=
    generate_eq_ok.mpr ⟨_, _, items, rfl, rfl, made, rfl⟩
  obtain ⟨program, pins, items, resolved, _, made, eq, _, nodup⟩ := declared_nodup_iff generated
  refine ⟨_, program, pins, items, generated, made, eq, nodup.mpr ?_⟩
  cases resolved
  decide

/-- A model with one state, which is named like a function that every sketch has. -/
def endless : App where
  name := "endless"
  initial := some ⟨"loop"⟩
  states := [⟨⟨"loop"⟩, [], []⟩]

/-- Names can be valid and the model in order, and still a name is declared twice. -/
theorem declared_twice_endless :
    (∀ state ∈ endless.states, state.name.IsValid) ∧ endless.WellFormed ∧
      ∃ program pins items, endless.resolve = .ok program ∧
        allocate endless.bricks .uno = .ok pins ∧
        Plan.items ⟨program, pins, ⟨.uno, 200⟩⟩ = .ok items ∧
        generate endless ⟨.uno, 200⟩ = .ok (Code.render items) ∧
        (items.flatMap Item.declared).count "loop" = 2 := by
  refine ⟨by decide, App.resolve_isOk_iff.mp ⟨_, rfl⟩, _, _, _, rfl, rfl, rfl, ?_, rfl⟩
  exact generate_eq_ok.mpr ⟨_, _, _, rfl, rfl, rfl, rfl⟩

end Brickwork
