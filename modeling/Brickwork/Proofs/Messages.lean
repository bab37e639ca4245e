import Brickwork.Proofs.Resolution

/-!
# Texts of a model

Beside names a model holds texts that can say anything: the name of the app, the messages of a
serial line and what a display shows. Resolution does not look at them: a model without its texts is
resolved to the same program without its texts, or has the same errors.
-/

namespace Brickwork

/-! ## Messages

The messages of each part of a model, in the order in which a sketch has them. -/

def Condition.texts : Condition → List String
  | digital _ _ | analog _ _ _ => []
  | serial _ message => [message]

def Guard.texts (guard : Guard) : List String :=
  guard.conditions.flatMap Condition.texts

def Segment.texts : Segment → List String
  | text content => [content]
  | status _ => []

def Action.texts : Action → List String
  | serialPrint _ message => [message]
  | lcdUpdate _ segments => segments.flatMap Segment.texts
  | digitalWrite _ _ | analogWrite _ _ | tone _ _ _ | silence _ => []

def State.texts (state : State) : List String :=
  -- The actions stand in front of the guards.
  state.actions.flatMap Action.texts
    ++ state.transitions.flatMap fun transition => transition.guard.texts

def Automaton.texts (automaton : Automaton) : List String :=
  automaton.states.flatMap State.texts

/-- The messages of an app, in order; its name is not one of them. -/
def App.texts (app : App) : List String :=
  app.states.flatMap State.texts
    ++ app.machines.flatMap fun machine => machine.states.flatMap State.texts

/-! ## Models without texts

A model is muted if each of its texts is made empty: two models that are the same once they are
muted differ only in their texts. -/

def Condition.muted : Condition → Condition
  | serial brick _ => serial brick ""
  | condition => condition

def Guard.muted : Guard → Guard
  | condition c => condition c.muted
  | binary left connective right => binary left.muted connective right.muted

def Segment.muted : Segment → Segment
  | text _ => text ""
  | status brick => status brick

def Action.muted : Action → Action
  | serialPrint serial _ => serialPrint serial ""
  | lcdUpdate display segments => lcdUpdate display (segments.map Segment.muted)
  | action => action

def Transition.muted (transition : Transition) : Transition :=
  { transition with guard := transition.guard.muted }

def State.muted (state : State) : State :=
  ⟨state.name, state.actions.map Action.muted, state.transitions.map Transition.muted⟩

def Machine.muted (machine : Machine) : Machine :=
  { machine with states := machine.states.map State.muted }

def Automaton.muted (automaton : Automaton) : Automaton :=
  { automaton with states := automaton.states.map State.muted }

/-- The app without its texts: its name and all messages. -/
def App.muted (app : App) : App :=
  ⟨"", app.bricks, app.initial, app.states.map State.muted, app.machines.map Machine.muted⟩

def Program.muted (program : Program) : Program :=
  { program with app := program.app.muted, automata := program.automata.map Automaton.muted }

/-! ## Demands -/

@[simp] lemma Condition.demand_muted (condition : Condition) :
    condition.muted.demand = condition.demand := by
  cases condition <;> rfl

@[simp] lemma Condition.readsSerial_muted (condition : Condition) :
    condition.muted.readsSerial = condition.readsSerial := by
  cases condition <;> rfl

lemma Guard.conditions_muted (guard : Guard) :
    guard.muted.conditions = guard.conditions.map Condition.muted := by
  induction guard with
  | condition condition => rfl
  | binary left connective right ihl ihr =>
    rw [muted, conditions, conditions, ihl, ihr, List.map_append]

lemma Guard.readsSerial_muted (guard : Guard) :
    guard.muted.conditions.any Condition.readsSerial =
      guard.conditions.any Condition.readsSerial := by
  rw [conditions_muted, List.any_map]
  exact congrArg guard.conditions.any (funext Condition.readsSerial_muted)

lemma Segment.demands_muted (segment : Segment) : segment.muted.demands = segment.demands := by
  cases segment <;> rfl

lemma Action.demands_muted (action : Action) : action.muted.demands = action.demands := by
  cases action with
  | lcdUpdate display segments =>
    simp only [muted, demands, List.flatMap_map, Segment.demands_muted]
  | _ => rfl

lemma Transition.demands_muted (transition : Transition) :
    transition.muted.demands = transition.demands := by
  simp only [muted, demands, Guard.conditions_muted, List.map_map, Function.comp_def,
    Condition.demand_muted]

lemma State.demands_muted (state : State) : state.muted.demands = state.demands := by
  simp only [muted, demands, List.flatMap_map, Action.demands_muted, Transition.demands_muted]

namespace Automaton

variable (automaton : Automaton)

lemma demands_muted : automaton.muted.demands = automaton.demands := by
  simp only [muted, demands, List.flatMap_map, State.demands_muted]

lemma constants_muted : automaton.muted.constants = automaton.constants := by
  rw [constants, muted, List.map_map]
  rfl

lemma readsSerial_muted : automaton.muted.readsSerial = automaton.readsSerial := by
  simp only [readsSerial, muted, State.muted, List.any_map, Function.comp_def, Transition.muted,
    Guard.readsSerial_muted]

lemma state?_muted (name : Identifier) :
    (automaton.muted.state? name).isSome = (automaton.state? name).isSome := by
  rw [state?, muted, List.find?_map, Option.isSome_map]
  rfl

/-! ## Errors -/

lemma nameErrors_muted (seen : List Identifier) (constants : List String) (states : List State) :
    automaton.muted.nameErrors seen constants (states.map State.muted) =
      automaton.nameErrors seen constants states := by
  induction states generalizing seen constants with
  | nil => rfl
  | cons state states ih =>
    simp only [List.map_cons, nameErrors, ih]
    rfl

end Automaton

namespace App

variable (app : App)

lemma unmet_muted (automaton : Automaton) (demand : Demand) :
    app.muted.unmet automaton.muted demand = app.unmet automaton demand := by
  cases demand with
  | brick name role => rfl
  | note name => rfl
  | state name =>
    rw [unmet, unmet, Automaton.state?_muted]
    rfl

lemma automataErrors_muted (names : List Identifier) (constants : List String)
    (automata : List Automaton) :
    app.muted.automataErrors names constants (automata.map Automaton.muted) =
      app.automataErrors names constants automata := by
  induction automata generalizing names constants with
  | nil => rfl
  | cons automaton automata ih =>
    have unmet : app.muted.unmet automaton.muted = app.unmet automaton :=
      funext (app.unmet_muted automaton)
    have named := automaton.nameErrors_muted [] constants automaton.states
    rw [List.map_cons, automataErrors, automataErrors, ih, unmet, automaton.demands_muted,
      automaton.constants_muted]
    exact congrArg (_ ++ · ++ _ ++ _) named

lemma errors_muted (automata : List Automaton) :
    app.muted.errors (automata.map Automaton.muted) = app.errors automata := by
  rw [errors, errors, automataErrors_muted]
  rfl

lemma peripherals_muted (automata : List Automaton) :
    app.muted.peripherals (automata.map Automaton.muted) = app.peripherals automata := by
  rw [peripherals, peripherals, List.any_map]
  simp only [Function.comp_def, Automaton.readsSerial_muted]
  rfl

/-! ## Resolution -/

lemma mode_muted : app.muted.mode = app.mode := by
  rw [mode, mode, muted, List.isEmpty_map, List.isEmpty_map]

end App

lemma Machine.automaton_muted (machine : Machine) :
    machine.muted.automaton = machine.automaton.map Automaton.muted := by
  rw [automaton, automaton, muted]
  cases machine.period <;> rfl

namespace App

variable (app : App)

lemma automata_muted (mode : Mode) :
    app.muted.automata mode = (app.automata mode).map (List.map Automaton.muted) := by
  cases mode with
  | single =>
    rw [automata, automata, muted]
    cases app.initial <;> rfl
  | multi => exact mapM_map Machine.automaton_muted

/-- A model without its texts is resolved to the program without its texts, or has the same
errors. -/
lemma resolve_muted : app.muted.resolve = app.resolve.map Program.muted := by
  rw [resolve, resolve, mode_muted]
  cases app.mode with
  | error error => rfl
  | ok mode =>
    dsimp only
    rw [automata_muted]
    cases app.automata mode with
    | error error => rfl
    | ok automata =>
      dsimp only [Except.map]
      rw [errors_muted, peripherals_muted]
      cases app.errors automata <;> rfl

end App

end Brickwork
