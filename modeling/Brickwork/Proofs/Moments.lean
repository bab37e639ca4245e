import Brickwork.Proofs.Firmware.Execution
import Brickwork.Proofs.Legibility

/-!
# Steps of machines, and the memories they are kept in

One step of a machine, said of the model alone: a state that was just entered runs its actions, and
then the first transition that is enabled fires, if there is one. What a machine remembers from step
to step is kept in the variables of its sketch, and changing one of these variables changes just one
thing that is remembered.
-/

namespace Brickwork

open Code Firmware

/-! ## Steps of the model -/

/-- What a machine remembers from step to step. -/
structure Moment where
  current : Identifier
  /-- Whether the current state was just entered. -/
  changed : Bool
  /-- When each sensor last took part in a transition. -/
  stamps : Identifier → UInt32
  /-- The line that was read last and not yet used. -/
  line : String

/-- What a step depends on besides. -/
structure Surroundings where
  now : UInt32
  debounce : UInt32
  isSensor : Identifier → Bool
  holds : Condition → Bool

/-- Whether a guard holds, given its conditions. -/
def Guard.holds (truth : Condition → Bool) : Guard → Bool
  | .condition c => truth c
  | .binary left .and right => left.holds truth && right.holds truth
  | .binary left .or right => left.holds truth || right.holds truth

/-- The digital sensor that a condition reads, if it does. -/
def Condition.sensor? (isSensor : Identifier → Bool) : Condition → Option Identifier
  | .digital brick _ => if isSensor brick then some brick else none
  | _ => none

/-- The digital sensors that a guard reads. -/
def Guard.sensors (isSensor : Identifier → Bool) (guard : Guard) : List Identifier :=
  guard.conditions.filterMap (Condition.sensor? isSensor)

namespace Moment

variable (moment : Moment) (around : Surroundings) (transition : Transition)

/-- Whether a transition may fire: its guard holds, and the last transition of each of its digital
sensors is long enough ago. -/
def enables : Bool :=
  transition.guard.holds around.holds &&
    (transition.guard.sensors around.isSensor).all fun sensor =>
      around.debounce < around.now - moment.stamps sensor

/-- What is remembered once a transition has fired. -/
def fire : Moment where
  current := transition.next
  changed := true
  stamps sensor :=
    if sensor ∈ transition.guard.sensors around.isSensor then around.now else moment.stamps sensor
  line := if transition.guard.conditions.any Condition.readsSerial then "" else moment.line

end Moment

/-- A step from a state: the first transition that may fire does so. -/
def State.step (state : State) (around : Surroundings) (moment : Moment) : Moment :=
  match state.transitions.find? (moment.enables around) with
  | some transition => moment.fire around transition
  | none => { moment with changed := false }

/-- The actions that a step from a state starts with. -/
def State.entry (state : State) (moment : Moment) : List Action :=
  if moment.changed then state.actions else []

/-! ## Memories of moments -/

/-- Whether a name is that of a digital sensor of an app. -/
def App.isDigitalSensor (app : App) (name : Identifier) : Bool :=
  app.bricks.any fun brick => brick.name = name && brick.category = .digitalSensor

namespace Plan

variable (plan : Plan) (automaton : Automaton)

/-- The term that the test of a condition is read as. -/
def asked? (condition : Condition) : Option Term :=
  match plan.condition condition with
  | .ok test => readTerm test.render
  | .error _ => none

/-- What a step depends on, where the firmware runs in a given world. -/
def surroundings (world : World) : Surroundings where
  now := world.now
  debounce := plan.options.debounce
  isSensor := plan.program.app.isDigitalSensor
  holds condition := (plan.asked? condition).any world.oracle

/-- The variables of a sketch at a given moment. Those that do not belong to it may hold
anything. -/
def store (moment : Moment) (others : String → Value) (name : String) : Value :=
  if name = automaton.current then .state (automaton.constant moment.current)
  else if name = automaton.changed then .flag moment.changed
  else if name = "debounce" then .time plan.options.debounce
  else if name = "serialInput" then .text moment.line
  else
    match plan.program.app.bricks.find? fun brick =>
      brick.category = .digitalSensor && debounceVariable brick.name = name with
    | some brick => .time (moment.stamps brick.name)
    | none => others name

/-- The memory of a sketch at a given moment. -/
def memory (moment : Moment) (others : String → Value) (calls : List Term) : Memory :=
  ⟨plan.store automaton moment others, calls⟩

/-- The calls that actions consist of, as their lines are read. -/
def Performs (actions : List Action) (terms : List Term) : Prop :=
  ∃ steps, actions.mapM plan.action = .ok steps ∧ ∀ depth,
    read (String.join ((steps.flatten.flatMap (Step.lines depth)).map Line.render)) =
      some (.block (terms.map .run))

end Plan

/-! ### Variables -/

/-- The variable of a sensor is none of the shorter names. -/
lemma debounceVariable_ne (sensor : Identifier) {name : String} (short : name.length < 16) :
    debounceVariable sensor ≠ name := by
  rintro rfl
  rw [debounceVariable, String.length_append] at short
  exact Nat.not_lt.mpr (Nat.le_add_left _ _) short

lemma debounceVariable_inj {a b : Identifier} (h : debounceVariable a = debounceVariable b) :
    a = b :=
  Identifier.eq_of_text ((String.append_left_inj _).mp h)

lemma App.isDigitalSensor_iff {app : App} {name : Identifier} :
    app.isDigitalSensor name = true ↔
      ∃ brick ∈ app.bricks, brick.name = name ∧ brick.category = .digitalSensor := by
  simp [isDigitalSensor]

/-- The sensors of a guard are digital sensors of the app. -/
lemma Plan.known_of_debounced {plan : Plan} {guard : Guard} :
    ∀ sensor ∈ plan.debounced guard, plan.program.app.isDigitalSensor sensor = true :=
  fun _ mem =>
    App.isDigitalSensor_iff.mpr (brick_of_isDigitalSensor (isDigitalSensor_of_debounced mem))

namespace Plan

variable {plan : Plan} {automaton : Automaton} {moment : Moment} {others : String → Value}
  {calls : List Term}

/-- A memory in which one variable shows another moment, and all others show it too, is that of the
other moment. -/
lemma memory_write {next : Moment} {target : String} {value : Value}
    (written : plan.store automaton next others target = value)
    (kept : ∀ name, name ≠ target →
      plan.store automaton next others name = plan.store automaton moment others name) :
    (plan.memory automaton moment others calls).write target value =
      plan.memory automaton next others calls := by
  rw [Memory.write, memory, memory]
  congr
  funext name
  by_cases eq : name = target
  · rw [if_pos eq, eq, written]
  · rw [if_neg eq, kept name eq]

lemma write_current (next : Identifier) :
    (plan.memory automaton moment others calls).write automaton.current
        (.state (automaton.constant next)) =
      plan.memory automaton { moment with current := next } others calls := by
  apply memory_write
  · rw [store, if_pos rfl]
  · intro name other
    simp only [store, other, if_false]

section Anonymous

variable (anonymous : automaton.name = none)

include anonymous

lemma current_eq : automaton.current = "currentState" := by
  rw [Automaton.current, Automaton.suffix, anonymous]
  rfl

lemma changed_eq : automaton.changed = "stateChanged" := by
  rw [Automaton.changed, Automaton.suffix, anonymous]
  rfl

lemma store_changed :
    plan.store automaton moment others automaton.changed = .flag moment.changed := by
  have other : automaton.changed ≠ automaton.current := by
    rw [changed_eq anonymous, current_eq anonymous]
    decide
  rw [store, if_neg other, if_pos rfl]

lemma store_debounce :
    plan.store automaton moment others "debounce" = .time plan.options.debounce := by
  rw [store, current_eq anonymous, changed_eq anonymous]
  rfl

lemma store_line : plan.store automaton moment others "serialInput" = .text moment.line := by
  rw [store, current_eq anonymous, changed_eq anonymous]
  rfl

/-- The time of a digital sensor is found in its variable; other bricks have none. -/
lemma store_stamp (sensor : Identifier) :
    plan.store automaton moment others (debounceVariable sensor) =
      if plan.program.app.isDigitalSensor sensor then .time (moment.stamps sensor)
      else others (debounceVariable sensor) := by
  have short {name : String} (short : name.length < 16) := debounceVariable_ne sensor short
  rw [store, current_eq anonymous, changed_eq anonymous, if_neg (short (by decide)),
    if_neg (short (by decide)), if_neg (short (by decide)), if_neg (short (by decide))]
  split
  case h_1 brick found =>
    have fits := List.find?_some found
    simp only [Bool.and_eq_true, decide_eq_true_eq] at fits
    obtain ⟨category, same⟩ := fits
    obtain rfl := debounceVariable_inj same
    have known :=
      App.isDigitalSensor_iff.mpr ⟨brick, List.mem_of_find?_eq_some found, rfl, category⟩
    rw [if_pos known]
  case h_2 missing =>
    have unknown : ¬plan.program.app.isDigitalSensor sensor = true := by
      intro known
      obtain ⟨brick, mem, rfl, category⟩ := App.isDigitalSensor_iff.mp known
      exact List.find?_eq_none.mp missing brick mem (by simp [category])
    rw [if_neg unknown]

lemma write_changed (value : Bool) :
    (plan.memory automaton moment others calls).write automaton.changed (.flag value) =
      plan.memory automaton { moment with changed := value } others calls := by
  apply memory_write
  · exact store_changed anonymous
  · intro name other
    simp only [store, other, if_false]

lemma write_line (content : String) :
    (plan.memory automaton moment others calls).write "serialInput" (.text content) =
      plan.memory automaton { moment with line := content } others calls := by
  apply memory_write
  · exact store_line anonymous
  · intro name other
    simp only [store, other, if_false]

lemma write_stamp {sensor : Identifier} (known : plan.program.app.isDigitalSensor sensor = true)
    (now : UInt32) :
    (plan.memory automaton moment others calls).write (debounceVariable sensor) (.time now) =
      plan.memory automaton
        { moment with stamps := fun name => if name = sensor then now else moment.stamps name }
        others calls := by
  apply memory_write
  · rw [store_stamp anonymous, if_pos known]
    exact congrArg Value.time (if_pos rfl)
  · intro name other
    unfold store
    -- another variable belongs to another sensor, if it belongs to one
    cases found : plan.program.app.bricks.find? fun brick =>
      brick.category = .digitalSensor && debounceVariable brick.name = name with
    | none => rfl
    | some brick =>
      have fits := List.find?_some found
      simp only [Bool.and_eq_true, decide_eq_true_eq] at fits
      have ne : brick.name ≠ sensor := by
        rintro rfl
        exact other fits.2.symm
      simp only [if_neg ne]

end Anonymous

end Plan

end Brickwork
