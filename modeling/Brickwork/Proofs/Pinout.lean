import Brickwork.Proofs.Header

/-!
# Pins in sketches

A sketch shows the pin of a brick in three places: in the summary at its head, in `setup`, and
wherever `loop` reads or drives the brick. The summary goes through the entries of the allocation,
`setup` through the bricks, and `loop` looks up a name at each reference. All of them come to the
same pin.

What a model has to say about pins is the list of its contacts (`Program.contacts`): each use of a
brick in an action or a guard, with the function that it is used through. The calls of a loop that
have a pin (`Block.touches`) are these contacts, one by one and in order.
-/

namespace Brickwork

open Code Firmware

/-! ## Calls with a pin -/

namespace Code

/-- The pin that the arguments of a call start with. -/
def Expr.leading : Expr → Option Pin
  | pin p => some p
  | both first _ => first.leading
  | _ => none

/-- The calls in an expression whose first argument is a pin, in order. -/
def Expr.touches : Expr → List (String × Pin)
  | apply function argument => argument.leading.toList.map (function, ·) ++ argument.touches
  | both first rest => first.touches ++ rest.touches
  | binary _ left right => left.touches ++ right.touches
  | group inner => inner.touches
  | choice test yes no => test.touches ++ yes.touches ++ no.touches
  | name _ | number _ | pin _ | text _ | letter _ | call _ => []

/-- The calls with a pin in a step. -/
def Step.touches (step : Step) : List (String × Pin) :=
  step.values.flatMap Expr.touches

/-- The calls with a pin in a statement, given those of the statements inside. -/
def Nest.touches {α : Type} (inner : α → List (String × Pin)) : Nest α → List (String × Pin)
  | one statement => inner statement
  | chain branches => branches.flatMap fun branch => branch.1.touches ++ branch.2.flatMap inner

/-- The calls with a pin in a statement or a choice. -/
def Dispatch.touches : Dispatch → List (String × Pin)
  | plain statement => statement.touches Step.touches
  | switch _ cases => cases.flatMap fun case => case.2.flatMap (Nest.touches Step.touches)

/-- The calls with a pin in a body, in the order of its text. -/
def Block.touches (block : Block) : List (String × Pin) :=
  block.flatMap (Nest.touches Dispatch.touches)

end Code

/-! ## Contacts of bricks -/

/-- The function that the brick of a name is read through. -/
def App.reader (app : App) (name : Identifier) : String :=
  match app.brick name with
  | .ok ⟨_, _, .analogSensor⟩ => "analogRead"
  | .ok ⟨_, _, .temperatureSensor⟩ => "readTemperature"
  | _ => "digitalRead"

section Contacts

variable (app : App)

/-- The uses of bricks in a condition, each with the function for it. Only the serial line has no
pin. -/
def Condition.contacts : Condition → List (String × Identifier)
  | digital brick _ => [("digitalRead", brick)]
  | analog brick _ _ => [(app.reader brick, brick)]
  | serial _ _ => []

/-- The uses of bricks in a value for an actuator: whatever the sensor is, its raw reading is
meant. -/
def AnalogValue.contacts : AnalogValue → List (String × Identifier)
  | literal _ => []
  | sensor brick => [("analogRead", brick)]

/-- The uses of bricks in a piece of a display's text. -/
def Segment.contacts : Segment → List (String × Identifier)
  | text _ => []
  | status brick => [(app.reader brick, brick)]

/-- The uses of bricks in an action. -/
def Action.contacts : Action → List (String × Identifier)
  | digitalWrite actuator _ => [("digitalWrite", actuator)]
  | analogWrite actuator value => ("analogWrite", actuator) :: value.contacts
  | serialPrint _ _ => []
  | lcdUpdate _ segments => segments.flatMap (Segment.contacts app)
  | tone buzzer _ _ => [("tone", buzzer)]
  | silence buzzer => [("noTone", buzzer)]

/-- The uses of bricks in a state: those of its actions, then those of its guards. -/
def State.contacts (state : State) : List (String × Identifier) :=
  state.actions.flatMap (Action.contacts app) ++
    state.transitions.flatMap fun transition =>
      transition.guard.conditions.flatMap (Condition.contacts app)

end Contacts

/-- The uses of bricks in a program, in order. -/
def Program.contacts (program : Program) : List (String × Identifier) :=
  program.automata.flatMap fun automaton => automaton.states.flatMap (State.contacts program.app)

/-! ## Loops -/

namespace Plan

variable (plan : Plan)

/-- The calls are the given uses of bricks, in order, each with the pin of its brick. -/
def Places (calls : List (String × Pin)) (contacts : List (String × Identifier)) : Prop :=
  calls.map (fun call => (call.1, .ok call.2)) = contacts.map fun contact =>
    (contact.1, plan.pins.pin contact.2)

variable {plan} {automaton : Automaton}

lemma places_nil : plan.Places [] [] := rfl

lemma places_singleton {name pin} (function : String) (found : plan.pins.pin name = .ok pin) :
    plan.Places [(function, pin)] [(function, name)] := by
  rw [Places, List.map_singleton, List.map_singleton, found]

lemma Places.append {calls more contacts others} (first : plan.Places calls contacts)
    (later : plan.Places more others) : plan.Places (calls ++ more) (contacts ++ others) := by
  rw [Places, List.map_append, List.map_append, first, later]

/-- Parts that are made one by one have the calls that are mentioned one by one. -/
lemma places_flatMap {α β : Type} {f : α → Except GenerationError β} {l : List α} {bs : List β}
    {touches : β → List (String × Pin)} {contacts : α → List (String × Identifier)}
    (made : l.mapM f = .ok bs) (each : ∀ a b, f a = .ok b → plan.Places (touches b) (contacts a)) :
    plan.Places (bs.flatMap touches) (l.flatMap contacts) := by
  rw [Places, List.map_flatMap, List.map_flatMap]
  exact flatMap_of_mapM made each

lemma reader_of_category {name category} (h : plan.category name = .ok category) :
    plan.program.app.reader name = match category with
      | .analogSensor => "analogRead"
      | .temperatureSensor => "readTemperature"
      | _ => "digitalRead" := by
  rw [Plan.category] at h
  rw [App.reader]
  cases found : plan.program.app.brick name with
  | error error =>
    rw [found] at h
    cases h
  | ok brick =>
    rw [found] at h
    cases h
    obtain ⟨_, _, category⟩ := brick
    cases category <;> rfl

lemma places_condition {condition test} (h : plan.condition condition = .ok test) :
    plan.Places test.touches (condition.contacts plan.program.app) := by
  cases condition with
  | digital brick level =>
    obtain ⟨category, _, h⟩ := bind_eq_ok.mp h
    cases category
    case digitalSensor | digitalActuator | buzzer =>
      obtain ⟨pin, found, h⟩ := bind_eq_ok.mp h
      cases h
      exact places_singleton _ found
    all_goals cases h
  | analog brick comparison threshold =>
    obtain ⟨category, known, h⟩ := bind_eq_ok.mp h
    rw [Condition.contacts, reader_of_category known]
    cases category
    case analogSensor | temperatureSensor =>
      obtain ⟨pin, found, h⟩ := bind_eq_ok.mp h
      cases h
      exact places_singleton _ found
    all_goals cases h
  | serial brick message =>
    obtain ⟨category, _, h⟩ := bind_eq_ok.mp h
    cases category
    case serialLine =>
      cases h
      exact places_nil
    all_goals cases h

lemma places_lower {guard test} (h : plan.lower guard = .ok test) :
    plan.Places test.touches (guard.conditions.flatMap (Condition.contacts plan.program.app)) := by
  induction guard generalizing test with
  | condition condition =>
    rw [Guard.conditions, List.flatMap_singleton]
    exact places_condition h
  | binary left connective right ihl ihr =>
    obtain ⟨testl, lowered, h⟩ := bind_eq_ok.mp h
    obtain ⟨testr, lowered', h⟩ := bind_eq_ok.mp h
    cases h
    rw [Guard.conditions, List.flatMap_append]
    exact (ihl lowered).append (ihr lowered')

/-- The clauses of sensors read the clock, and no pins. -/
lemma touches_clauses (sensors : List Identifier) (test : Expr) :
    (sensors.foldl (fun test sensor => .conjoin test (.group (debounceTest sensor))) test).touches =
      test.touches := by
  induction sensors generalizing test with
  | nil => rfl
  | cons sensor sensors ih =>
    have clause : (Expr.conjoin test (.group (debounceTest sensor))).touches = test.touches ++ [] :=
      rfl
    rw [List.foldl_cons, ih, clause, List.append_nil]

/-- The status of a brick is printed by a call that has no pin itself. -/
lemma places_status {brick value} (h : plan.status brick = .ok value) :
    plan.Places (Expr.apply "lcd.print" value).touches
      [(plan.program.app.reader brick, brick)] := by
  obtain ⟨category, known, h⟩ := bind_eq_ok.mp h
  rw [reader_of_category known]
  cases category
  case serialLine | lcdDisplay | analogActuator => cases h
  all_goals
    obtain ⟨pin, found, h⟩ := bind_eq_ok.mp h
    cases h
    exact places_singleton _ found

lemma places_segment {segment value} (h : plan.segment segment = .ok value) :
    plan.Places (Expr.apply "lcd.print" value).touches (segment.contacts plan.program.app) := by
  cases segment with
  | text content =>
    cases h
    exact places_nil
  | status brick => exact places_status h

lemma places_analogValue {value expr} (h : plan.analogValue value = .ok expr) :
    plan.Places expr.touches value.contacts := by
  cases value with
  | literal value =>
    cases h
    exact places_nil
  | sensor brick =>
    obtain ⟨pin, found, h⟩ := bind_eq_ok.mp h
    cases h
    exact places_singleton _ found

lemma places_action {action steps} (h : plan.action action = .ok steps) :
    plan.Places (steps.flatMap Step.touches) (action.contacts plan.program.app) := by
  cases action with
  | digitalWrite actuator level =>
    obtain ⟨pin, found, h⟩ := bind_eq_ok.mp h
    cases h
    exact places_singleton _ found
  | analogWrite actuator value =>
    obtain ⟨pin, found, h⟩ := bind_eq_ok.mp h
    obtain ⟨expr, valued, h⟩ := bind_eq_ok.mp h
    cases h
    have touches : [Step.run (.apply "analogWrite" (.both (.pin pin) expr))].flatMap Step.touches =
        [("analogWrite", pin)] ++ expr.touches := by
      simp [Step.touches, Step.values, Expr.touches, Expr.leading]
    rw [touches]
    exact (places_singleton _ found).append (places_analogValue valued)
  | serialPrint serial message =>
    cases h
    exact places_nil
  | lcdUpdate display segments =>
    obtain ⟨pieces, read, h⟩ := bind_eq_ok.mp h
    cases h
    -- the two calls in front have no pin
    have touches : (Step.run (.call "lcd.clear")
        :: .run (.apply "lcd.setCursor" (.both (.natural 0) (.natural 0)))
        :: pieces.map fun piece => .run (.apply "lcd.print" piece)).flatMap Step.touches =
        pieces.flatMap fun piece => (Expr.apply "lcd.print" piece).touches := by
      rw [List.flatMap_cons, List.flatMap_cons, List.flatMap_map]
      simp only [Step.touches, Step.values, List.flatMap_singleton]
      rfl
    rw [List.cons_append, List.singleton_append, touches]
    exact places_flatMap read fun _ _ => places_segment
  | tone buzzer pitch duration =>
    obtain ⟨pin, found, h⟩ := bind_eq_ok.mp h
    obtain ⟨hertz, _, h⟩ := bind_eq_ok.mp h
    cases h
    cases duration <;> exact places_singleton _ found
  | silence buzzer =>
    obtain ⟨pin, found, h⟩ := bind_eq_ok.mp h
    cases h
    exact places_singleton _ found

lemma places_transition {transition branch}
    (h : plan.transition automaton transition = .ok branch) :
    plan.Places (branch.1.touches ++ branch.2.flatMap Step.touches)
      (transition.guard.conditions.flatMap (Condition.contacts plan.program.app)) := by
  obtain ⟨test, lowered, rfl⟩ := transition_ok h
  dsimp only
  rw [touches_clauses, List.flatMap_eq_nil_iff.mpr ?_, List.append_nil]
  · exact places_lower lowered
  · -- what a transition does has no pin
    simp only [List.forall_mem_append, List.forall_mem_map, List.forall_mem_cons]
    refine ⟨⟨fun _ _ => rfl, ?_⟩, rfl, rfl, nofun⟩
    split
    · exact List.forall_mem_singleton.mpr rfl
    · exact nofun

lemma places_state {state case} (h : plan.state automaton state = .ok case) :
    plan.Places (case.2.flatMap (Nest.touches Step.touches)) (state.contacts plan.program.app) := by
  obtain ⟨actions, branches, acts, leads, rfl⟩ := state_ok h
  have entry : Nest.touches Step.touches (.chain [(.name automaton.changed,
      .set automaton.changed (.name "false") :: actions.flatten)]) =
      actions.flatMap fun steps => steps.flatMap Step.touches := by
    rw [Nest.touches, List.flatMap_singleton, List.flatMap_cons, List.flatten_eq_flatMap,
      List.flatMap_assoc]
    rfl
  have leave : Nest.touches Step.touches (.one .leave) = [] := rfl
  rw [List.flatMap_cons, List.flatMap_cons, List.flatMap_singleton, entry, leave, List.append_nil]
  refine Places.append ?_ ?_
  · exact places_flatMap acts fun _ _ => places_action
  · exact places_flatMap leads fun _ _ => places_transition

lemma places_switch {dispatch} (h : plan.switch automaton = .ok dispatch) :
    plan.Places dispatch.touches (automaton.states.flatMap (State.contacts plan.program.app)) := by
  obtain ⟨cases, made, rfl⟩ := switch_ok h
  exact places_flatMap made fun _ _ => places_state

lemma places_statement {statement} (h : plan.StatementOf automaton statement) :
    plan.Places (statement.touches Dispatch.touches)
      (automaton.states.flatMap (State.contacts plan.program.app)) := by
  obtain ⟨dispatch, made, rfl⟩ := h
  cases plan.program.mode with
  | single => exact places_switch made
  | multi =>
    have gated : Nest.touches Dispatch.touches (.chain [(gate automaton,
        [.step (.set automaton.lastRun (.name "currentMillis")), dispatch])]) =
          dispatch.touches := by
      rw [Nest.touches, List.flatMap_singleton, List.flatMap_cons, List.flatMap_singleton]
      rfl
    exact gated ▸ places_switch made

/-- Before its machines run, a loop touches no pin. -/
lemma touches_preamble (program : Program) : Block.touches (preamble program) = [] := by
  rw [preamble, Block.touches, List.flatMap_append]
  cases program.mode <;> cases program.peripherals.serialInput <;> rfl

/-- The calls with a pin in a loop are the uses of bricks in the program, each with the pin of its
brick. -/
lemma places_loop {loop} (h : plan.loop = .ok loop) :
    plan.Places loop.touches plan.program.contacts := by
  obtain ⟨machines, rfl, runs⟩ := loop_ok h
  have preamble := touches_preamble plan.program
  rw [Block.touches] at preamble ⊢
  rw [List.flatMap_append, preamble, List.nil_append, Program.contacts]
  clear h
  generalize plan.program.automata = automata at runs
  induction runs with
  | nil => exact places_nil
  | cons first _ ih => exact (places_statement first).append ih

/-! ## Summary and setup -/

/-- The line of the summary for a brick that is connected at a place. -/
def summaryText (brick : Brick) (place : String) : String :=
  "//   " ++ brick.name.text ++ " (" ++ brick.category.name ++ "): " ++ place

/-- The line of `setup` for a brick that is set up by a call. -/
def setupText (brick : Brick) (call : String) : String :=
  call ++ "; // " ++ brick.name.text ++ " [" ++ brick.category.name ++ "]"

/-- The lines of a brick in the summary and in `setup`. Where it has a pin, both show the same one,
and the pin is an input exactly for a sensor. -/
inductive Listed (pins : Allocation) (brick : Brick) : String → String → Prop
  | pin {pin : Pin} (pooled : brick.category.pool ≠ none) (found : pins.pin brick.name = .ok pin) :
    Listed pins brick (summaryText brick ("Pin " ++ pin.label))
      (setupText brick ("pinMode(" ++ pin.code ++ ", " ++
        (if brick.category ∈ [.digitalSensor, .analogSensor, .temperatureSensor] then "INPUT"
          else "OUTPUT") ++ ")"))
  | serial {baud : UInt32} (line : brick.category = .serialLine baud) :
    Listed pins brick (summaryText brick "Pins D0/D1 (hardware serial)")
      (setupText brick ("Serial.begin(" ++ Text.decimal baud.toNat ++ ")"))
  | display (screen : brick.category = .lcdDisplay) :
    Listed pins brick (summaryText brick "Pins D12, D11, D5, D4, D3, D2 (fixed wiring)")
      (setupText brick "lcd.begin(16, 2)")

lemma lines_summaryLine (entry : Entry) {brick : Brick} {board : Board}
    (connected : entry.Connects board brick) :
    (summaryLine entry).lines = [⟨0, summaryText brick (wiringText entry.wiring)⟩] := by
  have front : "// " ++ "  " = "//   " := rfl
  rw [summaryLine, Item.lines, summaryText, connected.name, connected.category]
  simp only [← String.append_assoc, front]

lemma render_remarked (call : Expr) (brick : Brick) :
    (Step.remarked call (brick.name.text ++ " [" ++ brick.category.name ++ "]")).render =
      setupText brick call.render := by
  simp only [Step.render, setupText, String.append_assoc]

/-- A brick with a pool has its pin set to its direction. -/
lemma setup_pooled {brick : Brick} {step : Step} (pooled : brick.category.pool ≠ none)
    (made : plan.setup brick = .ok step) :
    ∃ pin, plan.pins.pin brick.name = .ok pin ∧
      step.render = setupText brick ("pinMode(" ++ pin.code ++ ", " ++
        (if brick.category ∈ [.digitalSensor, .analogSensor, .temperatureSensor] then "INPUT"
          else "OUTPUT") ++ ")") := by
  have opening (pin : Pin) (direction : String) :
      (Expr.apply "pinMode" (.both (.pin pin) (.name direction))).render =
        "pinMode(" ++ pin.code ++ ", " ++ direction ++ ")" := by
    have front : "pinMode" ++ "(" = "pinMode(" := rfl
    simp only [Expr.render, ← String.append_assoc, front]
  cases category : brick.category
  case serialLine | lcdDisplay =>
    rw [category] at pooled
    exact absurd rfl pooled
  all_goals
    simp only [setup, category] at made
    obtain ⟨pin, found, made⟩ := bind_eq_ok.mp made
    cases made
    rw [← category, render_remarked, opening, category]
    exact ⟨pin, found, rfl⟩

/-- The summary and `setup` agree on a brick. -/
lemma listed {board : Board} {brick : Brick} {entry : Entry} {step : Step}
    (connected : entry.Connects board brick)
    (found : plan.pins.wiring? brick.name = some entry.wiring)
    (made : plan.setup brick = .ok step) :
    Listed plan.pins brick (summaryText brick (wiringText entry.wiring)) step.render := by
  by_cases pooled : brick.category.pool = none
  · cases category : brick.category
    case serialLine baud =>
      rw [connected.serial (by rw [category]; rfl)]
      simp only [setup, category] at made
      cases made
      rw [← category, render_remarked]
      exact .serial category
    case lcdDisplay =>
      rw [connected.display category]
      simp only [setup, category] at made
      cases made
      have place :
          wiringText (.lcd board.lcdWiring) = "Pins D12, D11, D5, D4, D3, D2 (fixed wiring)" := by
        cases board <;> decide
      have opening : (Expr.apply "lcd.begin" (.both (.natural 16) (.natural 2))).render =
          "lcd.begin(16, 2)" := by decide
      rw [← category, render_remarked, place]
      exact opening ▸ .display category
    all_goals
      rw [category] at pooled
      cases pooled
  · obtain ⟨pin, shown, eq⟩ := setup_pooled pooled made
    obtain ⟨other, wired⟩ := connected.pooled pooled
    rw [Allocation.pin, found, wired] at shown
    cases shown
    rw [eq, wired]
    exact .pin pooled (by rw [Allocation.pin, found, wired])

/-- Line by line, the summary and `setup` agree on all bricks. -/
lemma listed_all {board : Board} {bricks : List Brick} {entries : List Entry} {steps : List Step}
    (connects : List.Forall₂ (Entry.Connects board) bricks entries)
    (found : ∀ entry ∈ entries, plan.pins.wiring? entry.brick = some entry.wiring)
    (made : bricks.mapM plan.setup = .ok steps) :
    ∃ lines : List (String × String),
      List.Forall₂ (fun brick line => Listed plan.pins brick line.1 line.2) bricks lines ∧
      (entries.map summaryLine).flatMap Item.lines = lines.map (fun line => ⟨0, line.1⟩) ∧
      Block.lines 1 (steps.map Block.step) = lines.map fun line => ⟨1, line.2⟩ := by
  induction connects generalizing steps with
  | nil =>
    cases made
    exact ⟨[], .nil, rfl, rfl⟩
  | @cons brick entry bricks entries connected _ ih =>
    obtain ⟨step, later, first, others, rfl⟩ := mapM_cons_ok.mp made
    obtain ⟨known, found⟩ := List.forall_mem_cons.mp found
    obtain ⟨lines, each, summary, setup⟩ := ih found others
    rw [connected.name] at known
    refine ⟨(summaryText brick (wiringText entry.wiring), step.render) :: lines,
      .cons (listed connected known first) each, ?_, ?_⟩
    · rw [List.map_cons, List.flatMap_cons, lines_summaryLine entry connected, summary]
      rfl
    · rw [Block.lines] at setup ⊢
      rw [List.map_cons, List.flatMap_cons, setup]
      rfl

/-- The line of a brick is one line of text, if the name of the brick is. -/
lemma Listed.unbroken {pins : Allocation} {brick : Brick} {summary setup : String}
    (listed : Listed pins brick summary setup) (unbroken : '\n' ∉ brick.name.text.toList) :
    '\n' ∉ summary.toList ∧ '\n' ∉ setup.toList := by
  have of_word {spelling : String} (word : IsWord spelling) : '\n' ∉ spelling.toList :=
    fun mem => absurd (word.2 _ mem) (by decide)
  have category : '\n' ∉ brick.category.name.toList := by
    cases brick.category <;> simp [Category.name]
  have shown {place call : String} (placed : '\n' ∉ place.toList) (called : '\n' ∉ call.toList) :
      '\n' ∉ (summaryText brick place).toList ∧ '\n' ∉ (setupText brick call).toList := by
    simp only [summaryText, setupText, String.toList_append, List.mem_append, not_or]
    refine ⟨⟨⟨⟨⟨⟨?_, unbroken⟩, ?_⟩, category⟩, ?_⟩, placed⟩,
      ⟨⟨⟨⟨⟨called, ?_⟩, unbroken⟩, ?_⟩, category⟩, ?_⟩⟩
    all_goals decide
  cases listed with
  | @pin pin _ _ =>
    have label : IsWord pin.label := by
      cases pin <;> exact isWord_append (by decide) (isWord_decimal _).2
    apply shown <;> simp only [String.toList_append, List.mem_append, not_or]
    · exact ⟨by decide, of_word label⟩
    · refine ⟨⟨⟨⟨by decide, of_word (isWord_pin pin)⟩, by decide⟩, ?_⟩, by decide⟩
      split <;> decide
  | @serial baud _ =>
    apply shown
    · decide
    · simp only [String.toList_append, List.mem_append, not_or]
      exact ⟨⟨by decide, of_word (isWord_decimal _)⟩, by decide⟩
  | display => exact shown (by decide) (by decide)

end Plan

/-- Where names are distinct, the wiring that is found for the name of an entry is that of the
entry. -/
lemma wiring?_of_mem {bricks : List Brick} {board : Board} {pins : Allocation}
    (allocated : allocate bricks board = .ok pins) (nodup : (bricks.map Brick.name).Nodup) :
    ∀ entry ∈ pins.entries, pins.wiring? entry.brick = some entry.wiring := by
  intro entry mem
  rw [← Entry.Connects.names (allocate_connects allocated)] at nodup
  rw [Allocation.wiring?, find?_key nodup mem, Option.map_some]

/-- The summary and `setup` have one line for each brick, in order; where the brick has a pin, both
show it, and the pin is an input exactly for a sensor. The calls of the loop that have a pin are the
uses of bricks in the program, in order, each with the pin of its brick. -/
theorem summary_agrees_with_setup {app : App} {options : Options} {sketch : String}
    (generated : generate app options = .ok sketch) :
    ∃ (program : Program) (pins : Allocation) (lines : List (String × String)) (loop : Block),
      app.resolve = .ok program ∧ allocate app.bricks options.board = .ok pins ∧
      Plan.loop ⟨program, pins, options⟩ = .ok loop ∧
      sketch = Plan.heading app.name ++ text
        (.blank :: ⟨0, "// Pin Allocation Summary:"⟩ :: lines.map (fun line => ⟨0, line.1⟩)
          ++ .blank :: (Plan.globals ⟨program, pins, options⟩).flatMap Item.lines
          ++ ⟨0, "void setup() \x7b"⟩ :: lines.map (fun line => ⟨1, line.2⟩)
          ++ ⟨0, "\x7d"⟩ :: .blank :: ⟨0, "void loop() \x7b"⟩ :: loop.lines 1 ++ [⟨0, "\x7d"⟩]) ∧
      List.Forall₂ (fun brick line => Plan.Listed pins brick line.1 line.2) app.bricks lines ∧
      ((∀ brick ∈ app.bricks, '\n' ∉ brick.name.text.toList) →
        ∀ line ∈ lines, '\n' ∉ line.1.toList ∧ '\n' ∉ line.2.toList) ∧
      loop.touches.map (fun call => (call.1, .ok call.2)) =
        program.contacts.map fun contact => (contact.1, pins.pin contact.2) := by
  obtain ⟨program, pins, items, resolved, allocated, made, rfl⟩ := generate_eq_ok.mp generated
  obtain ⟨setup, loop, opened, looped, eq⟩ := Plan.render_items made
  have ready := Plan.ready_of_resolve resolved allocated
  obtain rfl := (App.shows_of_resolve resolved).app_eq
  obtain ⟨lines, listed, summary, opening⟩ := Plan.listed_all (allocate_connects allocated)
    (wiring?_of_mem allocated ready.resolved.bricks) opened
  refine ⟨program, pins, lines, loop, resolved, allocated, looped, ?_, listed, ?_,
    Plan.places_loop looped⟩
  · rw [eq, Code.render, ← Code.text, ← text_append]
    simp [Plan.interior, Plan.summary, Item.lines, summary, opening]
  · intro unbroken line mem
    obtain ⟨brick, within, shown⟩ : ∃ brick ∈ program.app.bricks,
      Plan.Listed pins brick line.1 line.2 := by
      obtain ⟨i, inside, rfl⟩ := List.getElem_of_mem mem
      have length := listed.length_eq
      exact ⟨_, List.getElem_mem _, listed.get (by omega) inside⟩
    exact shown.unbroken (unbroken brick within)

/-- The door of the greenhouse is on the pin behind those of the horn and the display, in the
summary, in `setup` and wherever it is read. -/
theorem summary_agrees_with_setup_greenhouse :
    ∃ sketch pins lines loop, generate (greenhouse none ⟨"closed"⟩) ⟨.uno, 200⟩ = .ok sketch ∧
      List.Forall₂ (fun brick line => Plan.Listed pins brick line.1 line.2)
        (greenhouse none ⟨"closed"⟩).bricks lines ∧
      lines.head? =
        some ("//   door (DigitalSensor): Pin D7", "pinMode(7, INPUT); // door [DigitalSensor]") ∧
      (∀ line ∈ lines, '\n' ∉ line.1.toList ∧ '\n' ∉ line.2.toList) ∧
      (∃ program, Plan.loop ⟨program, pins, ⟨.uno, 200⟩⟩ = .ok loop) ∧
      loop.touches.map (fun call => (call.1, (.ok call.2 : Except GenerationError Pin))) =
        [("digitalRead", .ok (.digital 7)), ("analogWrite", .ok (.digital 9)),
          ("analogRead", .ok (.analog 0)), ("tone", .ok (.digital 6)),
          ("digitalRead", .ok (.digital 7)), ("readTemperature", .ok (.analog 0))] := by
  obtain ⟨items, made⟩ :=
    (@Plan.ready_of_resolve (greenhouse none ⟨"closed"⟩) ⟨.uno, 200⟩ _ _ rfl rfl).items
  have generated : generate (greenhouse none ⟨"closed"⟩) ⟨.uno, 200⟩ = .ok (Code.render items) :=
    generate_eq_ok.mpr ⟨_, _, items, rfl, rfl, made, rfl⟩
  obtain ⟨program, pins, lines, loop, resolved, allocated, looped, _, listed, unbroken, touched⟩ :=
    summary_agrees_with_setup generated
  cases resolved
  cases allocated
  refine ⟨_, _, lines, loop, generated, listed, ?_, unbroken (by decide), ⟨_, looped⟩, touched⟩
  cases listed with
  | @cons _ line _ _ first _ =>
    obtain ⟨summary, setup⟩ := line
    cases first with
    | pin _ found =>
      cases found
      rfl
    | serial line => cases line
    | display screen => cases screen

end Brickwork
