import Brickwork.Proofs.WellFormed
import Mathlib.Data.List.Perm.Basic

/-!
# Reports

Resolution reports every error of an app that has a mode and machines, and none that is not there.
What is wrong with a place of the model depends on that place alone: on the brick declared last
under a name, on the states of the machine, on the spelling of a note. The errors of all places are
reported, in the order of the model, whatever else is wrong.
-/

namespace Brickwork

/-! ## Places of a model -/

/-- A place that names a brick. -/
structure Mention where
  brick : Identifier
  /-- The categories that the brick may have there. -/
  allowed : Category → Bool
  /-- These categories in words. -/
  expected : String

/-- A place that names a brick in a role. -/
def Mention.of : Role → Identifier → Mention
  | .digitalOutput, brick => ⟨brick, (· ∈ [.digitalActuator, .buzzer]), "a digital actuator"⟩
  | .analogOutput, brick => ⟨brick, (· = .analogActuator), "an analog actuator"⟩
  | .digitalInput, brick =>
    ⟨brick, (· ∈ [.digitalSensor, .digitalActuator, .buzzer]), "a digital brick"⟩
  | .analogInput, brick => ⟨brick, (· ∈ [.analogSensor, .temperatureSensor]), "an analog sensor"⟩
  | .serialLine, brick => ⟨brick, Category.isSerialLine, "a serial line"⟩
  | .display, brick => ⟨brick, (· = .lcdDisplay), "an LCD"⟩
  | .status, brick =>
    ⟨brick, (· ∈ [.digitalSensor, .digitalActuator, .buzzer, .analogSensor, .temperatureSensor]),
      "a brick with a readable status"⟩
  | .buzzer, brick => ⟨brick, (· = .buzzer), "a buzzer"⟩

def Condition.mention : Condition → Mention
  | digital brick _ => .of .digitalInput brick
  | analog brick _ _ => .of .analogInput brick
  | serial brick _ => .of .serialLine brick

def AnalogValue.mentions : AnalogValue → List Mention
  | literal _ => []
  | sensor brick => [.of .analogInput brick]

def Segment.mentions : Segment → List Mention
  | text _ => []
  | status brick => [.of .status brick]

def Action.mentions : Action → List Mention
  | digitalWrite actuator _ => [.of .digitalOutput actuator]
  | analogWrite actuator value => .of .analogOutput actuator :: value.mentions
  | serialPrint serial _ => [.of .serialLine serial]
  | lcdUpdate display segments => .of .display display :: segments.flatMap Segment.mentions
  | tone buzzer _ _ => [.of .buzzer buzzer]
  | silence buzzer => [.of .buzzer buzzer]

def Transition.mentions (transition : Transition) : List Mention :=
  transition.guard.conditions.map Condition.mention

/-- The actions of all states. -/
def Automaton.actions (automaton : Automaton) : List Action :=
  automaton.states.flatMap State.actions

/-- The transitions of all states. -/
def Automaton.transitions (automaton : Automaton) : List Transition :=
  automaton.states.flatMap State.transitions

/-- All places of a machine that name a brick. -/
def Automaton.mentions (automaton : Automaton) : List Mention :=
  automaton.actions.flatMap Action.mentions ++ automaton.transitions.flatMap Transition.mentions

/-! ## Errors of places -/

/-- The brick that was declared last under a name. -/
def App.lastBrick? (app : App) (name : Identifier) : Option Brick :=
  (app.bricks.filter fun brick => brick.name = name).getLast?

/-- What is wrong with a brick that is named. -/
def Mention.error? (app : App) (mention : Mention) : Option GenerationError :=
  match app.lastBrick? mention.brick with
  | none => some (.unknownBrick mention.brick)
  | some brick =>
    if mention.allowed brick.category then none
    else some (.wrongCategory mention.brick mention.expected brick.category)

/-- The note of a tone, if it is not known. -/
def Action.unknownNote? : Action → Option String
  | tone _ (.note name) _ => if Note.frequency? name = none then some name else none
  | _ => none

/-- What is wrong with a state that is named in a machine. -/
def Automaton.stateError? (automaton : Automaton) (name : Identifier) : Option GenerationError :=
  if name ∈ automaton.states.map State.name then none else some (.unknownState name automaton.name)

/-- What is wrong with an action: the bricks that it names, in order, and then its note. -/
def Action.errors (app : App) (action : Action) : List GenerationError :=
  action.mentions.filterMap (Mention.error? app) ++ (action.unknownNote?.map .unknownNote).toList

/-- What is wrong with a transition: its guard from left to right, and then its target. -/
def Transition.errors (app : App) (automaton : Automaton) (transition : Transition) :
    List GenerationError :=
  transition.mentions.filterMap (Mention.error? app) ++
    (automaton.stateError? transition.next).toList

/-- What is wrong with the references of a machine: its initial state, and then state by state the
actions and the transitions. -/
def Automaton.errors (app : App) (automaton : Automaton) : List GenerationError :=
  (automaton.stateError? automaton.initial).toList ++ automaton.states.flatMap fun state =>
    state.actions.flatMap (Action.errors app) ++ state.transitions.flatMap
      (Transition.errors app automaton)

/-! ## What is found missing -/

/-- A value that there may be stands in front of those of the rest. -/
lemma filterMap_cons_toList {α β : Type} (f : α → Option β) (a : α) (l : List α) :
    (a :: l).filterMap f = (f a).toList ++ l.filterMap f := by
  rw [List.filterMap_eq_flatMap_toList, List.flatMap_cons, ← List.filterMap_eq_flatMap_toList]

section Places

variable {app : App} {automaton : Automaton}

/-- The brick that a name leads to is the one declared last. -/
lemma App.brick_eq_lastBrick? (name : Identifier) :
    app.brick name = match app.lastBrick? name with
      | some brick => .ok brick
      | none => .error (.unknownBrick name) := by
  rw [lastBrick?, List.getLast?_filter]
  rfl

lemma Mention.unmet_of (role : Role) (brick : Identifier) :
    app.unmet automaton (.brick brick role) = (Mention.of role brick).error? app := by
  have table : ∀ category, role.admits category = (Mention.of role brick).allowed category := by
    intro category
    cases role <;> cases category <;> rfl
  have same : (Mention.of role brick).brick = brick ∧
      (Mention.of role brick).expected = role.expected := by
    cases role <;> exact ⟨rfl, rfl⟩
  rw [App.unmet, App.brick_eq_lastBrick?, error?, same.1, same.2]
  cases app.lastBrick? brick with
  | none => rfl
  | some found => simp only [table]

lemma Action.unmet_note (name : String) :
    app.unmet automaton (.note name) =
      (if Note.frequency? name = none then some name else none).map .unknownNote := by
  rw [App.unmet, Note.frequency?]
  cases Note.ofText? name <;> rfl

lemma Automaton.unmet_state (name : Identifier) :
    app.unmet automaton (.state name) = automaton.stateError? name := by
  have known : (automaton.state? name).isSome = true ↔ name ∈ automaton.states.map State.name := by
    rw [state?, List.find?_isSome, List.mem_map]
    simp only [decide_eq_true_eq]
  simp only [App.unmet, stateError?, known]

lemma Segment.unmet_demands (segment : Segment) :
    segment.demands.filterMap (app.unmet automaton) =
      segment.mentions.filterMap (Mention.error? app) := by
  cases segment with
  | text content => rfl
  | status brick =>
    rw [demands, mentions, filterMap_cons_toList, filterMap_cons_toList, Mention.unmet_of]
    rfl

lemma AnalogValue.unmet_demands (value : AnalogValue) :
    value.demands.filterMap (app.unmet automaton) =
      value.mentions.filterMap (Mention.error? app) := by
  cases value with
  | literal value => rfl
  | sensor brick =>
    rw [demands, mentions, filterMap_cons_toList, filterMap_cons_toList, Mention.unmet_of]
    rfl

lemma Action.unmet_demands (action : Action) :
    action.demands.filterMap (app.unmet automaton) = action.errors app := by
  rw [errors]
  cases action with
  | tone buzzer pitch duration =>
    cases pitch with
    | _ =>
      simp only [demands, Pitch.demands, mentions, unknownNote?, filterMap_cons_toList,
        Mention.unmet_of,
        unmet_note, List.filterMap_nil, Option.map_none, Option.toList_none, List.append_nil]
  | _ =>
    simp only [demands, mentions, unknownNote?, filterMap_cons_toList, List.filterMap_flatMap,
      Mention.unmet_of, AnalogValue.unmet_demands, Segment.unmet_demands, List.filterMap_nil,
      Option.map_none, Option.toList_none, List.append_nil]

lemma Transition.unmet_demands (transition : Transition) :
    transition.demands.filterMap (app.unmet automaton) = transition.errors app automaton := by
  have conditions :
      (transition.guard.conditions.map Condition.demand).filterMap (app.unmet automaton) =
      transition.mentions.filterMap (Mention.error? app) := by
    rw [mentions, List.filterMap_map, List.filterMap_map]
    apply List.filterMap_congr
    intro condition _
    cases condition <;> exact Mention.unmet_of _ _
  rw [demands, List.filterMap_append, conditions, filterMap_cons_toList, Automaton.unmet_state,
    List.filterMap_nil, List.append_nil, errors]

lemma Automaton.unmet_demands :
    automaton.demands.filterMap (app.unmet automaton) = automaton.errors app := by
  rw [demands, filterMap_cons_toList, unmet_state, List.filterMap_flatMap, errors]
  simp only [State.demands, List.filterMap_append, List.filterMap_flatMap, Action.unmet_demands,
    Transition.unmet_demands]

end Places

/-! ## Kinds of errors -/

namespace GenerationError

/-- Whether something that a machine refers to is missing or cannot be used so. -/
def isReference : GenerationError → Bool
  | unknownBrick _ | unknownState _ _ | wrongCategory _ _ _ | unknownNote _ => true
  | _ => false

def isUnknownState : GenerationError → Bool
  | unknownState _ _ => true
  | _ => false

def isWrongCategory : GenerationError → Bool
  | wrongCategory _ _ _ => true
  | _ => false

def isUnknownNote : GenerationError → Bool
  | unknownNote _ => true
  | _ => false

def isDuplicatePeripheral : GenerationError → Bool
  | duplicatePeripheral _ _ _ => true
  | _ => false

end GenerationError

/-! ## Errors counted -/

/-- The elements of two lists for each place can be counted one list after the other. -/
lemma countP_flatMap_append {α β : Type} (p : β → Bool) (l : List α) (f g : α → List β) :
    (l.flatMap fun a => f a ++ g a).countP p = (l.flatMap f).countP p + (l.flatMap g).countP p := by
  rw [← (List.flatMap_append_perm l f g).countP_eq p, List.countP_append]

lemma countP_filterMap_any {α β : Type} (p : β → Bool) (l : List α) (f : α → Option β) :
    (l.filterMap f).countP p = l.countP fun a => (f a).any p := by
  rw [List.countP_filterMap]
  congr 1
  funext a
  cases f a <;> rfl

section Counts

variable {app : App} {automaton : Automaton} {p : GenerationError → Bool}

lemma Action.countP_errors (actions : List Action) :
    (actions.flatMap (Action.errors app)).countP p =
      (actions.flatMap Action.mentions).countP (fun mention => (mention.error? app).any p)
        + actions.countP
          (fun action => action.unknownNote?.any fun name => p (.unknownNote name)) := by
  have notes :
      (actions.flatMap fun action => (action.unknownNote?.map .unknownNote).toList).countP p =
      actions.countP fun action => action.unknownNote?.any fun name => p (.unknownNote name) := by
    rw [← List.filterMap_eq_flatMap_toList, countP_filterMap_any]
    simp only [Option.any_map]
  unfold errors
  rw [countP_flatMap_append, notes, ← List.filterMap_flatMap, countP_filterMap_any]

lemma Transition.countP_errors (transitions : List Transition) :
    (transitions.flatMap (Transition.errors app automaton)).countP p =
      (transitions.flatMap Transition.mentions).countP (fun mention => (mention.error? app).any p)
        + transitions.countP (fun transition => (automaton.stateError? transition.next).any p) := by
  unfold errors
  rw [countP_flatMap_append, ← List.filterMap_eq_flatMap_toList, ← List.filterMap_flatMap,
    countP_filterMap_any, countP_filterMap_any]

/-- The errors of a machine are those of the states, the bricks and the notes that it refers to. -/
lemma Automaton.countP_errors :
    (automaton.errors app).countP p =
      [automaton.initial].countP (fun name => (automaton.stateError? name).any p)
      + automaton.transitions.countP
        (fun transition => (automaton.stateError? transition.next).any p)
      + automaton.mentions.countP (fun mention => (mention.error? app).any p)
      + automaton.actions.countP
        (fun action => action.unknownNote?.any fun name => p (.unknownNote name)) := by
  have initial : (automaton.stateError? automaton.initial).toList =
      [automaton.initial].filterMap automaton.stateError? := by
    rw [filterMap_cons_toList, List.filterMap_nil, List.append_nil]
  rw [errors, List.countP_append, initial, countP_filterMap_any, countP_flatMap_append,
    ← List.flatMap_assoc, ← List.flatMap_assoc, Action.countP_errors,
    Transition.countP_errors, mentions, List.countP_append, actions, transitions]
  omega

lemma Automaton.any_stateError? (name : Identifier) :
    (automaton.stateError? name).any p =
      (decide (name ∉ automaton.states.map State.name) &&
        p (.unknownState name automaton.name)) := by
  rw [stateError?]
  by_cases known : name ∈ automaton.states.map State.name
  · rw [if_pos known, decide_eq_false (not_not.mpr known)]
    rfl
  · rw [if_neg known, decide_eq_true known]
    rfl

lemma Mention.any_error? (mention : Mention) :
    (mention.error? app).any p = match app.lastBrick? mention.brick with
      | none => p (.unknownBrick mention.brick)
      | some brick => !mention.allowed brick.category
          && p (.wrongCategory mention.brick mention.expected brick.category) := by
  rw [error?]
  cases app.lastBrick? mention.brick with
  | none => rfl
  | some brick =>
    dsimp only
    cases mention.allowed brick.category <;> rfl

lemma Mention.any_error?_of_other (unknown : ∀ brick, p (.unknownBrick brick) = false)
    (wrong : ∀ brick expected found, p (.wrongCategory brick expected found) = false)
    (mention : Mention) :
    (mention.error? app).any p = false := by
  rw [any_error?]
  cases app.lastBrick? mention.brick with
  | none => exact unknown mention.brick
  | some brick =>
    show (!mention.allowed brick.category && _) = false
    rw [wrong, Bool.and_false]

/-- Errors of bricks are counted by the places that name them. -/
lemma Automaton.countP_errors_of_bricks
    (states : ∀ state machine, p (.unknownState state machine) = false)
    (notes : ∀ note, p (.unknownNote note) = false) :
    (automaton.errors app).countP p =
      automaton.mentions.countP fun mention => (mention.error? app).any p := by
  rw [countP_errors]
  simp only [any_stateError?, states, notes, Bool.and_false, Option.any_false, List.countP_false,
    Function.const_apply, Nat.zero_add, Nat.add_zero]

lemma Automaton.countP_unknownState :
    (automaton.errors app).countP GenerationError.isUnknownState =
      [automaton.initial].countP (fun name => name ∉ automaton.states.map State.name)
      + automaton.transitions.countP fun transition =>
        transition.next ∉ automaton.states.map State.name := by
  have bricks := @Mention.any_error?_of_other app GenerationError.isUnknownState (fun _ => rfl)
    (fun _ _ _ => rfl)
  rw [countP_errors]
  simp only [any_stateError?, bricks, GenerationError.isUnknownState, Bool.and_true,
    Option.any_false, List.countP_false, Function.const_apply, Nat.add_zero]

lemma Automaton.countP_unknownNote :
    (automaton.errors app).countP GenerationError.isUnknownNote =
      automaton.actions.countP fun action => action.unknownNote?.isSome := by
  have bricks := @Mention.any_error?_of_other app GenerationError.isUnknownNote (fun _ => rfl)
    (fun _ _ _ => rfl)
  have note (action : Action) :
      (action.unknownNote?.any fun name => (GenerationError.unknownNote name).isUnknownNote) =
        action.unknownNote?.isSome := by
    cases action.unknownNote? <;> rfl
  rw [countP_errors]
  simp only [any_stateError?, bricks, note]
  simp only [GenerationError.isUnknownNote, Bool.and_false, List.countP_false, Function.const_apply,
    Nat.zero_add]

/-- All errors of a machine's places are about references. -/
lemma Automaton.isReference_of_mem_errors {error} (mem : error ∈ automaton.errors app) :
    error.isReference = true := by
  have bricks := @Mention.any_error?_of_other app (fun error => !error.isReference) (fun _ => rfl)
    (fun _ _ _ => rfl)
  have absent : (automaton.errors app).countP (fun error => !error.isReference) = 0 := by
    rw [countP_errors_of_bricks (fun _ _ => rfl) (fun _ => rfl)]
    simp only [bricks, List.countP_false, Function.const_apply]
  simpa using List.countP_eq_zero.mp absent error mem

end Counts

/-! ## All errors of an app -/

section Errors

variable {app : App} {automaton : Automaton} {p : GenerationError → Bool}

lemma Automaton.mem_nameErrors {seen constants} {states : List State} {error}
    (mem : error ∈ automaton.nameErrors seen constants states) :
    ∃ name, error = .duplicateName name := by
  induction states generalizing seen constants with
  | nil => cases mem
  | cons state states ih =>
    rw [nameErrors] at mem
    dsimp only at mem
    split at mem
    · rcases List.mem_cons.mp mem with rfl | mem
      · exact ⟨_, rfl⟩
      · exact ih mem
    · split at mem
      · exact ih mem
      · split at mem
        · rcases List.mem_cons.mp mem with rfl | mem
          · exact ⟨_, rfl⟩
          · exact ih mem
        · exact ih mem

lemma Automaton.mem_ownNameErrors {seen error} (mem : error ∈ automaton.ownNameErrors seen) :
    ∃ name, error = .duplicateName name := by
  rw [ownNameErrors] at mem
  split at mem
  · split at mem
    · exact ⟨_, List.mem_singleton.mp mem⟩
    · cases mem
  · cases mem

lemma filter_duplicateNames (names : ∀ name, p (.duplicateName name) = false)
    {errors : List GenerationError}
    (named : ∀ error ∈ errors, ∃ name, error = .duplicateName name) :
    errors.filter p = [] := by
  rw [List.filter_eq_nil_iff]
  intro error mem
  obtain ⟨name, rfl⟩ := named error mem
  rw [names]
  exact Bool.false_ne_true

/-- Apart from repeated names, the errors of machines are those of their references, machine by
machine. -/
lemma App.filter_automataErrors (names : ∀ name, p (.duplicateName name) = false)
    {seen constants automata} :
    (app.automataErrors seen constants automata).filter p =
      (automata.flatMap (Automaton.errors app)).filter p := by
  induction automata generalizing seen constants with
  | nil => rfl
  | cons automaton automata ih =>
    rw [automataErrors, List.filter_append, List.filter_append, List.filter_append,
      filter_duplicateNames names fun _ => Automaton.mem_ownNameErrors,
      filter_duplicateNames names fun _ => Automaton.mem_nameErrors, ih, Automaton.unmet_demands,
      List.flatMap_cons, List.filter_append]
    rfl

/-- Apart from repeated names, the errors of an app are those of its peripherals and then those of
the references of its machines. -/
lemma App.filter_errors (names : ∀ name, p (.duplicateName name) = false) {automata} :
    (app.errors automata).filter p = (peripheralErrors none none app.bricks).filter p
      ++ (automata.flatMap (Automaton.errors app)).filter p := by
  have repeated :
      ((repeats [] (app.bricks.map Brick.name)).map GenerationError.duplicateName).filter p =
        [] := by
    apply filter_duplicateNames names
    rw [List.forall_mem_map]
    intro name _
    exact ⟨name, rfl⟩
  rw [errors, List.filter_append, List.filter_append, repeated, filter_automataErrors names,
    List.nil_append]

/-- Apart from those of names and of peripherals, the errors of an app are those of the references
of its machines. -/
lemma App.filter_errors_of_references (names : ∀ name, p (.duplicateName name) = false)
    (peripherals : ∀ peripheral first second,
      p (.duplicatePeripheral peripheral first second) = false)
    {automata} :
    (app.errors automata).filter p = (automata.flatMap (Automaton.errors app)).filter p := by
  have absent : (peripheralErrors none none app.bricks).filter p = [] := by
    rw [List.filter_eq_nil_iff]
    intro error mem
    obtain ⟨peripheral, first, second, rfl⟩ := mem_peripheralErrors mem
    rw [peripherals]
    exact Bool.false_ne_true
  rw [filter_errors names, absent, List.nil_append]

lemma App.isReference_of_mem {automata : List Automaton} {error : GenerationError}
    (mem : error ∈ automata.flatMap (Automaton.errors app)) : error.isReference = true := by
  obtain ⟨automaton, _, mem⟩ := List.mem_flatMap.mp mem
  exact Automaton.isReference_of_mem_errors mem

lemma App.filter_isReference {automata} :
    (app.errors automata).filter GenerationError.isReference = automata.flatMap
    (Automaton.errors app) := by
  rw [filter_errors_of_references (fun _ => rfl) (fun _ _ _ => rfl), List.filter_eq_self]
  intro error mem
  exact isReference_of_mem mem

lemma App.filter_isDuplicatePeripheral {automata} :
    (app.errors automata).filter GenerationError.isDuplicatePeripheral =
      peripheralErrors none none app.bricks := by
  have references :
      (automata.flatMap (Automaton.errors app)).filter GenerationError.isDuplicatePeripheral =
        [] := by
    rw [List.filter_eq_nil_iff]
    intro error mem peripheral
    have reference := isReference_of_mem mem
    cases error with
    | duplicatePeripheral => cases reference
    | _ => cases peripheral
  rw [filter_errors (fun _ => rfl), references, List.append_nil, List.filter_eq_self]
  intro error mem
  obtain ⟨peripheral, first, second, rfl⟩ := mem_peripheralErrors mem
  rfl

lemma App.countP_errors (names : ∀ name, p (.duplicateName name) = false)
    (peripherals : ∀ peripheral first second,
      p (.duplicatePeripheral peripheral first second) = false)
    {automata} :
    (app.errors automata).countP p = (automata.flatMap (Automaton.errors app)).countP p := by
  rw [List.countP_eq_length_filter, filter_errors_of_references names peripherals,
    ← List.countP_eq_length_filter]

/-- Errors of bricks are counted by the places of all machines that name them. -/
lemma App.countP_errors_of_bricks (names : ∀ name, p (.duplicateName name) = false)
    (peripherals : ∀ peripheral first second,
      p (.duplicatePeripheral peripheral first second) = false)
    (states : ∀ state machine, p (.unknownState state machine) = false)
    (notes : ∀ note, p (.unknownNote note) = false) {automata} :
    (app.errors automata).countP p =
      (automata.flatMap Automaton.mentions).countP fun mention => (mention.error? app).any p := by
  rw [countP_errors names peripherals, List.countP_flatMap, List.countP_flatMap]
  congr 2
  funext automaton
  exact Automaton.countP_errors_of_bricks states notes

lemma App.lastBrick?_eq_none {name} :
    app.lastBrick? name = none ↔ name ∉ app.bricks.map Brick.name := by
  rw [lastBrick?, List.getLast?_eq_none_iff, List.filter_eq_nil_iff, List.mem_map]
  simp only [decide_eq_true_eq, not_exists, not_and]

lemma Mention.any_unknownBrick (name : Identifier) (mention : Mention) :
    (mention.error? app).any (· == .unknownBrick name) =
      decide (mention.brick = name ∧ name ∉ app.bricks.map Brick.name) := by
  rw [any_error?, Bool.eq_iff_iff, decide_eq_true_eq, ← App.lastBrick?_eq_none]
  by_cases same : mention.brick = name
  · rw [same]
    cases app.lastBrick? name <;> simp
  · cases app.lastBrick? mention.brick <;> simp [same]

lemma Mention.any_wrongCategory (mention : Mention) :
    (mention.error? app).any GenerationError.isWrongCategory =
      (app.lastBrick? mention.brick).any fun brick => !mention.allowed brick.category := by
  rw [any_error?]
  cases app.lastBrick? mention.brick with
  | none => rfl
  | some brick => exact Bool.and_true _

/-- An error that is not about a repeated name is about a peripheral or about a reference. -/
lemma App.kind_of_mem_errors {automata error} (mem : error ∈ app.errors automata) :
    (∃ name, error = .duplicateName name) ∨ error.isDuplicatePeripheral = true ∨
      error.isReference = true := by
  by_cases named : ∃ name, error = .duplicateName name
  · exact Or.inl named
  · have other : ∀ name, (GenerationError.duplicateName name == error) = false := by
      intro name
      exact beq_eq_false_iff_ne.mpr fun eq => named ⟨name, eq.symm⟩
    have kept : error ∈ (app.errors automata).filter (· == error) :=
      List.mem_filter.mpr ⟨mem, beq_self_eq_true error⟩
    rw [filter_errors other, List.mem_append, List.mem_filter, List.mem_filter] at kept
    rcases kept with ⟨mem, _⟩ | ⟨mem, _⟩
    · obtain ⟨peripheral, first, second, rfl⟩ := mem_peripheralErrors mem
      exact Or.inr (Or.inl rfl)
    · exact Or.inr (Or.inr (isReference_of_mem mem))

end Errors

/-! ## What resolution reports -/

/-- The transitions to states that the machine does not have. -/
def Automaton.strays (automaton : Automaton) : List Transition :=
  automaton.transitions.filter fun transition => transition.next ∉ automaton.states.map State.name

lemma App.countP_unknownState {app : App} {automata} :
    (app.errors automata).countP GenerationError.isUnknownState =
      (automata.flatMap Automaton.strays).length
        + automata.countP fun automaton => automaton.initial ∉ automaton.states.map State.name := by
  rw [countP_errors (fun _ => rfl) (fun _ _ _ => rfl)]
  induction automata with
  | nil => rfl
  | cons automaton automata ih =>
    rw [List.flatMap_cons, List.countP_append, ih, Automaton.countP_unknownState, List.flatMap_cons,
      List.length_append, Automaton.strays, ← List.countP_eq_length_filter, List.countP_cons,
      List.countP_cons, List.countP_nil]
    omega

lemma App.countP_unknownNote {app : App} {automata} :
    (app.errors automata).countP GenerationError.isUnknownNote =
      (automata.flatMap Automaton.actions).countP fun action => action.unknownNote?.isSome := by
  rw [countP_errors (fun _ => rfl) (fun _ _ _ => rfl), List.countP_flatMap, List.countP_flatMap]
  congr 2
  funext automaton
  exact Automaton.countP_unknownNote

/-- What resolution says of an app: its errors, of which there are none if the app is resolved. -/
def App.reported (app : App) : List GenerationError :=
  match app.resolve with
  | .ok _ => []
  | .error errors => errors

lemma App.reported_eq {app : App} {mode automata} (moded : app.mode = .ok mode)
    (listed : app.automata mode = .ok automata) : app.reported = app.errors automata := by
  simp only [reported, resolve, moded, listed]
  cases app.errors automata <;> rfl

/-- The errors of an app with the given machines: as many of each kind as there are places where it
is so, and in the order of these places. -/
structure App.Reports (app : App) (automata : List Automaton) (errors : List GenerationError) :
    Prop where
  /-- A name that no brick has is reported wherever it stands. -/
  unknown : ∀ name, name ∉ app.bricks.map Brick.name → errors.count (.unknownBrick name) =
    (automata.flatMap Automaton.mentions).countP fun mention => mention.brick = name
  declared : ∀ name, name ∈ app.bricks.map Brick.name → errors.count (.unknownBrick name) = 0
  states : errors.countP GenerationError.isUnknownState = (automata.flatMap Automaton.strays).length
    + automata.countP fun automaton => automaton.initial ∉ automaton.states.map State.name
  categories : errors.countP GenerationError.isWrongCategory =
    (automata.flatMap Automaton.mentions).countP fun mention =>
      (app.lastBrick? mention.brick).any fun brick => !mention.allowed brick.category
  notes : errors.countP GenerationError.isUnknownNote =
    (automata.flatMap Automaton.actions).countP fun action => action.unknownNote?.isSome
  peripherals : errors.countP GenerationError.isDuplicatePeripheral =
    (app.bricks.countP (fun brick => brick.category.isSerialLine) - 1)
      + (app.bricks.countP (fun brick => brick.category = .lcdDisplay) - 1)
  kinds : ∀ error ∈ errors, (∃ name, error = .duplicateName name) ∨
    error.isDuplicatePeripheral = true ∨ error.isReference = true
  /-- Machine by machine, the errors of the references stand as they are read. -/
  order : errors.filter GenerationError.isReference = automata.flatMap (Automaton.errors app)

/-- Resolution reports every error of an app once for each place, and no others. -/
theorem resolve_reports {app : App} {mode automata} (moded : app.mode = .ok mode)
    (listed : app.automata mode = .ok automata) : app.Reports automata app.reported := by
  rw [App.reported_eq moded listed]
  have bricks (name : Identifier) : (app.errors automata).count (.unknownBrick name) =
      (automata.flatMap Automaton.mentions).countP fun mention =>
        mention.brick = name ∧ name ∉ app.bricks.map Brick.name := by
    rw [List.count, App.countP_errors_of_bricks (p := (· == GenerationError.unknownBrick name))
      (fun _ => rfl) (fun _ _ _ => rfl) (fun _ _ => rfl) (fun _ => rfl)]
    simp only [Mention.any_unknownBrick]
  exact {
    unknown := by
      intro name missing
      simp only [bricks, missing, not_false_eq_true, and_true]
    declared := by
      intro name known
      simp only [bricks, known, not_true_eq_false, and_false, decide_false, List.countP_false,
        Function.const_apply]
    states := App.countP_unknownState
    categories := by
      rw [App.countP_errors_of_bricks (fun _ => rfl) (fun _ _ _ => rfl) (fun _ _ => rfl)
        (fun _ => rfl)]
      simp only [Mention.any_wrongCategory]
    notes := App.countP_unknownNote
    peripherals := by
      rw [List.countP_eq_length_filter, App.filter_isDuplicatePeripheral, length_peripheralErrors]
      simp only [Option.toList_none, List.length_nil, Nat.zero_add]
    kinds := fun _ => App.kind_of_mem_errors
    order := App.filter_isReference
  }

/-- An app with everything wrong at once: a lamp declared twice, two serial lines, states that are
not there, a ghost among the bricks, a lamp and a panel out of their roles and a note beyond the
scale. -/
def attic : App where
  name := "attic"
  bricks := [⟨⟨"lamp"⟩, none, .digitalActuator⟩, ⟨⟨"lamp"⟩, none, .analogActuator⟩,
    ⟨⟨"wire"⟩, none, .serialLine 9600⟩, ⟨⟨"panel"⟩, none, .lcdDisplay⟩,
    ⟨⟨"cable"⟩, none, .serialLine 9600⟩, ⟨⟨"horn"⟩, none, .buzzer⟩]
  machines := [
    ⟨⟨"light"⟩, ⟨"dark"⟩, [⟨⟨"lit"⟩,
      [.digitalWrite ⟨"lamp"⟩ .high, .analogWrite ⟨"lamp"⟩ (.sensor ⟨"ghost"⟩)],
      [⟨.binary
        (.binary (.condition (.digital ⟨"ghost"⟩ .high)) .and (.condition (.digital ⟨"lamp"⟩ .low)))
        .or (.condition (.digital ⟨"ghost"⟩ .low)), ⟨"gone"⟩⟩]⟩], some 20⟩,
    ⟨⟨"alarm"⟩, ⟨"calm"⟩, [⟨⟨"calm"⟩,
      [.lcdUpdate ⟨"panel"⟩ [.text "all is", .status ⟨"ghost"⟩, .status ⟨"panel"⟩],
        .tone ⟨"horn"⟩ (.note "H9") none], []⟩], some 50⟩]

/-- No error of the attic hides another. -/
theorem resolve_reports_attic :
    attic.reported.count (.unknownBrick ⟨"ghost"⟩) = 4 ∧
    attic.reported.count (.unknownBrick ⟨"lamp"⟩) = 0 ∧
    attic.reported.countP GenerationError.isUnknownState = 2 ∧
    attic.reported.countP GenerationError.isWrongCategory = 3 ∧
    attic.reported.countP GenerationError.isUnknownNote = 1 ∧
    attic.reported.countP GenerationError.isDuplicatePeripheral = 1 ∧
    attic.reported.filter GenerationError.isReference =
      [.unknownState ⟨"dark"⟩ (some ⟨"light"⟩),
      .wrongCategory ⟨"lamp"⟩ "a digital actuator" .analogActuator,
        .unknownBrick ⟨"ghost"⟩, .unknownBrick ⟨"ghost"⟩,
        .wrongCategory ⟨"lamp"⟩ "a digital brick" .analogActuator, .unknownBrick ⟨"ghost"⟩,
        .unknownState ⟨"gone"⟩ (some ⟨"light"⟩), .unknownBrick ⟨"ghost"⟩,
        .wrongCategory ⟨"panel"⟩ "a brick with a readable status" .lcdDisplay,
        .unknownNote "H9"] := by
  have reports := @resolve_reports attic .multi _ rfl rfl
  exact ⟨(reports.unknown ⟨"ghost"⟩ (by decide)).trans (by decide),
    reports.declared ⟨"lamp"⟩ (by decide),
    reports.states.trans (by decide), reports.categories.trans (by decide),
    reports.notes.trans (by decide), reports.peripherals.trans (by decide),
    reports.order.trans (by decide)⟩

end Brickwork
