import Brickwork.Proofs.Firmware.Margins
import Brickwork.Proofs.Rounds

/-!
# Layout of sketches

Behind its heading, a sketch is well bracketed, and its lines are set in by the blocks that they
stand in, provided that the names in the model are words. What an app calls itself is left out: the
heading has it as it is.
-/

namespace Brickwork

open Code Firmware

/-- The names of the bricks, states and machines of an app. -/
def App.declaredNames (app : App) : List Identifier :=
  app.bricks.map Brick.name ++ app.states.map State.name
    ++ app.machines.flatMap fun machine => machine.name :: machine.states.map State.name

namespace Plan

/-- A plan for bricks and machines with valid names. -/
structure Named (plan : Plan) : Prop where
  bricks : ∀ brick ∈ plan.program.app.bricks, brick.name.IsValid
  automata : ∀ automaton ∈ plan.program.automata, automaton.Named
  initials : ∀ automaton ∈ plan.program.automata, automaton.initial.IsValid
  targets : ∀ automaton ∈ plan.program.automata, ∀ state ∈ automaton.states,
    ∀ transition ∈ state.transitions, transition.next.IsValid

lemma named_automata {app : App} {program : Program} (resolved : app.Resolved program)
    (names : ∀ name ∈ app.declaredNames, name.IsValid) :
    ∀ automaton ∈ program.automata, automaton.Named := by
  simp only [App.declaredNames, List.forall_mem_append, List.forall_mem_map,
    List.forall_mem_flatMap, List.forall_mem_cons] at names
  obtain ⟨⟨_, states⟩, machines⟩ := names
  have listed := resolved.automata
  cases mode : program.mode with
  | single =>
    rw [mode] at listed
    obtain ⟨automaton, eq, anonymous, own⟩ := App.automaton_of_single listed
    rw [eq, List.forall_mem_singleton]
    refine ⟨?_, own ▸ states⟩
    rw [anonymous]
    nofun
  | multi =>
    rw [mode, App.automata_multi] at listed
    rw [listed.2, List.forall_mem_map]
    intro machine mem
    refine ⟨?_, (machines machine mem).2⟩
    rintro _ ⟨⟩
    exact (machines machine mem).1

/-- All names that are used are declared, and so they are valid if those are. -/
lemma named_of_resolve {app : App} {program : Program} (resolved : app.resolve = .ok program)
    (names : ∀ name ∈ app.declaredNames, name.IsValid) (pins : Allocation) (options : Options) :
    Named ⟨program, pins, options⟩ := by
  have sound := App.resolved_of_resolve resolved
  have automata := named_automata sound names
  -- a state that is demanded is one of the machine's
  have demanded {automaton name} (mem : automaton ∈ program.automata)
      (own : Demand.state name ∈ automaton.demands) : name.IsValid := by
    obtain ⟨state, within, rfl⟩ := sound.demands automaton mem _ own
    exact (automata automaton mem).states state within
  refine ⟨?_, automata, ?_, ?_⟩
  · simp only [App.declaredNames, List.forall_mem_append, List.forall_mem_map] at names
    exact sound.app_eq ▸ names.1.1
  · exact fun automaton mem => demanded mem List.mem_cons_self
  · intro automaton mem state within transition leads
    have own : .state transition.next ∈ transition.demands :=
      List.mem_append_right _ (List.mem_singleton_self _)
    exact demanded mem (Automaton.mem_demands within leads own)

lemma turns_category {opened : List Bracket} (category : Category) :
    Turns category.name opened opened := by
  apply turns_words
  cases category <;> (rw [Category.name]; decide)

/-- A connection in words closes its brackets, and so it stays on one line. -/
lemma turns_wiringText {opened : List Bracket} (wiring : Wiring) :
    Turns (wiringText wiring) opened opened := by
  have label (pin : Pin) : IsWord pin.label := by
    cases pin <;> exact isWord_append (by decide) (isWord_decimal _).2
  cases wiring with
  | pin pin =>
    have front : Turns "Pin " opened opened := rfl
    exact front.append (turns_word (label pin))
  | serial => rfl
  | lcd pins =>
    have front : Turns "Pins " opened opened := rfl
    refine (front.append (turns_list ?_)).append rfl
    rw [List.forall_mem_map]
    exact fun pin _ => label pin

/-- A body without tests and choices is spelled if its steps are. -/
lemma spelled_steps {steps : List Step} (spelled : ∀ step ∈ steps, step.Spelled) :
    Block.Spelled (steps.map Block.step) := by
  constructor
  · simp [Block.tests, Block.step, Dispatch.step, Nest.tests, Nest.inner, Dispatch.nests]
  · simpa [Block.steps, Block.step, Dispatch.step, Nest.inner, Dispatch.nests] using spelled
  · simp [Block.step, Dispatch.step, Nest.inner, Dispatch.names]

lemma spelled_temperatureItems : ∀ item ∈ temperatureItems, item.Spelled := by
  have remark :
      '\n' ∉ "TMP36: 10 mV per degree C with a 500 mV offset, 10-bit ADC at 5 V".toList := by decide
  have word (spelling : String) (word : IsWord spelling) : (Expr.name spelling).Spelled := word
  simp only [temperatureItems, List.forall_mem_cons]
  refine ⟨remark, ⟨by decide, by decide, by decide, spelled_steps ?_⟩, trivial,
    List.forall_mem_nil _⟩
  simp only [List.forall_mem_cons]
  have read : IsWord "analogRead" := by decide
  have number {digits : String} (word : IsWord digits) : (Expr.number digits).Spelled := .inl word
  exact ⟨⟨by decide, by decide, read, word "pin" (by decide)⟩,
    ⟨by decide, by decide, ⟨word "reading" (by decide), number (by decide)⟩, number (by decide)⟩,
    ⟨⟨word "voltage" (by decide), number (by decide)⟩, number (by decide)⟩, List.forall_mem_nil _⟩

section Named

variable {plan : Plan} (named : plan.Named)

include named

lemma valid_of_debounced {guard sensor} (mem : sensor ∈ plan.debounced guard) : sensor.IsValid := by
  obtain ⟨brick, known, rfl, _⟩ := brick_of_isDigitalSensor (isDigitalSensor_of_debounced mem)
  exact named.bricks brick known

lemma spelled_test {test} (tests : plan.Tests test) : test.Spelled := by
  have word : IsWord "Serial.available" := by decide
  cases tests with
  | line => exact word
  | due mem => exact (legible_gate (named.automata _ mem)).spelled
  | entered mem => exact (named.automata _ mem).isWord (by decide)
  | guard mem within leads lowered =>
    obtain ⟨spelled, fits⟩ := legible_lower lowered
    exact (legible_clauses (fun sensor known => valid_of_debounced named known) spelled
      (fits.mono (by decide) (by decide))).spelled

lemma spelled_step {step} (takes : plan.Takes step) : step.Spelled := by
  have millis : IsWord "millis" := by decide
  have currentMillis : IsWord "currentMillis" := by decide
  cases takes with
  | clock => exact ⟨by decide, currentMillis, millis⟩
  | line =>
    have word : IsWord "Serial.readStringUntil" := by decide
    have newline : '\n' ≠ '\'' := by decide
    exact ⟨by decide, by decide, word, newline⟩
  | trim =>
    have word : IsWord "serialInput.trim" := by decide
    have free : "serialInput.trim" ∉ keywords := by decide
    exact ⟨word, free⟩
  | due mem =>
    exact ⟨(named.automata _ mem).isWord (by decide), append_ne_keyword (.inl (by decide)),
      currentMillis⟩
  | entered mem =>
    have value : IsWord "false" := by decide
    exact ⟨(named.automata _ mem).isWord (by decide), append_ne_keyword (.inl (by decide)), value⟩
  | act mem within acts made among =>
    obtain ⟨call, rfl, readable, invokes⟩ := legible_action made _ among
    exact ⟨readable.spelled, invokes⟩
  | stamp mem within leads known =>
    exact ⟨isWord_debounceVariable (valid_of_debounced named known),
      append_ne_keyword (.inr (by decide)), millis⟩
  | empty => exact ⟨by decide, by decide, trivial⟩
  | @enter automaton state transition mem within leads =>
    have next := named.targets automaton mem state within transition leads
    exact ⟨(named.automata _ mem).isWord (by decide), append_ne_keyword (.inl (by decide)),
      (named.automata _ mem).isWord (isWord_identifier next)⟩
  | change mem =>
    have value : IsWord "true" := by decide
    exact ⟨(named.automata _ mem).isWord (by decide), append_ne_keyword (.inl (by decide)), value⟩
  | leave => trivial

lemma words_switch {automaton dispatch} (mem : automaton ∈ plan.program.automata)
    (h : plan.switch automaton = .ok dispatch) : ∀ name ∈ dispatch.names, IsWord name := by
  have own := named.automata automaton mem
  obtain ⟨cases, made, rfl⟩ := switch_ok h
  rw [Dispatch.names, List.forall_mem_cons, List.forall_mem_map]
  refine ⟨own.isWord (by decide), fun case among => ?_⟩
  obtain ⟨state, within, made⟩ := mem_of_mapM made among
  obtain ⟨_, _, _, _, rfl⟩ := state_ok made
  exact own.isWord (isWord_identifier (own.states state within))

lemma spelled_loop {loop} (h : plan.loop = .ok loop) : loop.Spelled := by
  obtain ⟨tests, steps⟩ := allows_loop h
  refine ⟨fun test mem => spelled_test named (tests test mem),
    fun step mem => spelled_step named (steps step mem), ?_⟩
  obtain ⟨machines, rfl, runs⟩ := loop_ok h
  rw [List.forall_mem_append]
  constructor
  · have nameless : ∀ statement ∈ preamble plan.program, ∀ dispatch ∈ statement.inner,
        dispatch.names = [] := by
      rw [preamble]
      cases plan.program.mode <;> cases plan.program.peripherals.serialInput <;> decide
    intro statement mem dispatch within
    rw [nameless statement mem dispatch within]
    exact List.forall_mem_nil _
  · intro statement among
    obtain ⟨automaton, mem, dispatch, made, rfl⟩ := exists_statementOf runs among
    have words := words_switch named mem made
    cases plan.program.mode with
    | single => exact List.forall_mem_singleton.mpr words
    | multi =>
      have noted : ∀ name ∈ (Dispatch.step (.set automaton.lastRun (.name "currentMillis"))).names,
          IsWord name := List.forall_mem_nil _
      exact List.forall_mem_cons.mpr ⟨noted, List.forall_mem_singleton.mpr words⟩

lemma spelled_setup {brick step} (mem : brick ∈ plan.program.app.bricks)
    (h : plan.setup brick = .ok step) :
    step.Spelled := by
  have unbroken : '\n' ∉ (brick.name.text ++ " [" ++ brick.category.name ++ "]").toList := by
    have name : Turns brick.name.text [] [] :=
      turns_word (isWord_identifier (named.bricks brick mem))
    have opening : Turns " [" [] [] := rfl
    have closing : Turns "]" [] [] := rfl
    exact (((name.append opening).append (turns_category _)).append closing).unbroken
  have number (n : Nat) : (Expr.natural n).Spelled := .inl (isWord_decimal n)
  cases category : brick.category
  all_goals
    rw [category] at unbroken
    simp only [setup, category] at h
  case serialLine baud =>
    cases h
    have word : IsWord "Serial.begin" := by decide
    have free : "Serial.begin" ∉ keywords := by decide
    exact ⟨⟨word, number _⟩, free, unbroken⟩
  case lcdDisplay =>
    cases h
    have word : IsWord "lcd.begin" := by decide
    have free : "lcd.begin" ∉ keywords := by decide
    exact ⟨⟨word, number _, number _⟩, free, unbroken⟩
  all_goals
    obtain ⟨pin, _, h⟩ := bind_eq_ok.mp h
    cases h
    have word : IsWord "pinMode" := by decide
    have free : "pinMode" ∉ keywords := by decide
    have direction (input : Bool) : IsWord (if input then "INPUT" else "OUTPUT") := by
      cases input <;> decide
    exact ⟨⟨word, isWord_pin pin, direction _⟩, free, unbroken⟩

lemma spelled_automatonItems {automaton} (mem : automaton ∈ plan.program.automata) :
    ∀ item ∈ plan.automatonItems automaton, item.Spelled := by
  have own := named.automata automaton mem
  have true' : IsWord "true" := by decide
  have type : IsType automaton.stateType :=
    isType_word (own.isWord (by decide)) (append_ne_keyword (.inl (by decide)))
  simp only [automatonItems, List.forall_mem_append, List.forall_mem_cons]
  refine ⟨⟨⟨⟨own.isWord (by decide), ?_⟩, ⟨type, own.isWord (by decide), ?_⟩,
    ⟨by decide, own.isWord (by decide), true'⟩, List.forall_mem_nil _⟩, ?_⟩, trivial,
    List.forall_mem_nil _⟩
  · rw [Automaton.constants, List.forall_mem_map]
    exact fun state within => own.isWord (isWord_identifier (own.states state within))
  · exact own.isWord (isWord_identifier (named.initials automaton mem))
  · cases plan.program.mode with
    | single => exact List.forall_mem_nil _
    | multi =>
      rw [List.forall_mem_singleton]
      exact ⟨by decide, own.isWord (by decide), .inl (isWord_decimal 0)⟩

lemma spelled_debounceItems : ∀ item ∈ plan.debounceItems, item.Spelled := by
  simp only [debounceItems]
  split
  · exact List.forall_mem_nil _
  · simp only [List.forall_mem_append, List.forall_mem_map, List.forall_mem_singleton]
    refine ⟨fun brick mem => ⟨by decide, ?_, .inl (isWord_decimal 0)⟩, trivial⟩
    exact isWord_debounceVariable (named.bricks brick (List.mem_of_mem_filter mem))

lemma spelled_globals : ∀ item ∈ plan.globals, item.Spelled := by
  simp only [globals, List.forall_mem_append]
  refine ⟨⟨⟨⟨⟨?_, ?_⟩, ?_⟩, spelled_debounceItems named⟩, ?_⟩, ?_⟩
  · split
    · have header : IsWord "LiquidCrystal.h" := by decide
      simp only [displayItems, List.forall_mem_cons]
      exact ⟨header, trivial, ⟨by decide, by decide⟩, trivial, List.forall_mem_nil _⟩
    · exact List.forall_mem_nil _
  · simp only [List.forall_mem_cons]
    exact ⟨⟨by decide, by decide, .inl (isWord_decimal _)⟩, trivial, List.forall_mem_nil _⟩
  · rw [List.forall_mem_flatMap]
    exact fun automaton mem => spelled_automatonItems named mem
  · split
    · simp only [List.forall_mem_cons]
      exact ⟨⟨by decide, by decide, trivial⟩, trivial, List.forall_mem_nil _⟩
    · exact List.forall_mem_nil _
  · split
    · exact spelled_temperatureItems
    · exact List.forall_mem_nil _

lemma spelled_summary
    (connected : allocate plan.program.app.bricks plan.options.board = .ok plan.pins) :
    ∀ item ∈ plan.summary, item.Spelled := by
  have title : '\n' ∉ "Pin Allocation Summary:".toList := by decide
  simp only [summary, List.forall_mem_append, List.forall_mem_cons, List.forall_mem_map]
  refine ⟨⟨title, fun entry mem => ?_⟩, trivial, List.forall_mem_nil _⟩
  have own : entry.brick ∈ plan.program.app.bricks.map Brick.name := by
    rw [← Entry.Connects.names (allocate_connects connected)]
    exact List.mem_map_of_mem mem
  obtain ⟨brick, within, eq⟩ := List.mem_map.mp own
  have name : Turns entry.brick.text [] [] :=
    turns_word (isWord_identifier (eq ▸ named.bricks brick within))
  have margin : Turns "  " [] [] := rfl
  have opening : Turns " (" [] [.paren] := rfl
  have closing : Turns "): " [.paren] [] := rfl
  exact (((((margin.append name).append opening).append (turns_category _)).append closing).append
    (turns_wiringText _)).unbroken

/-- What stands behind the header of a sketch leads from no brackets to none. -/
lemma passes_sketch
    (connected : allocate plan.program.app.bricks plan.options.board = .ok plan.pins)
    {items} (made : plan.items = .ok items) :
    ∃ rest, items = plan.header ++ rest ∧ Passes [] (rest.flatMap Item.lines) [] := by
  obtain ⟨setup, loop, setups, loops, rfl⟩ := items_ok made
  simp only [List.append_assoc]
  refine ⟨_, rfl, passes_items ?_⟩
  simp only [List.forall_mem_append, List.forall_mem_cons]
  refine ⟨spelled_summary named connected, spelled_globals named,
    ⟨by decide, by decide, by decide, spelled_steps fun step mem => ?_⟩, trivial,
    ⟨by decide, by decide, by decide, spelled_loop named loops⟩, List.forall_mem_nil _⟩
  obtain ⟨brick, within, made⟩ := mem_of_mapM setups mem
  exact spelled_setup named within made

end Named

end Plan

/-- Behind its heading, the sketch of an app with valid names is well bracketed: each closing
bracket closes the last that was opened, and none is left open at the end; literals and comments do
not count. Each line that is not empty is set in by the braces that are open before it, less the one
that it closes, and once more behind a label. -/
theorem sketch_well_laid_out {app : App} {options : Options} {sketch : String}
    (names : ∀ name ∈ app.declaredNames, name.IsValid)
    (generated : generate app options = .ok sketch) :
    ∃ body, sketch = Plan.heading app.name ++ "\n" ++ body ∧ opened? (Text.lines body) = some [] ∧
      ∀ front line back, Text.lines body = front ++ line :: back →
        ∃ opened, opened? front = some opened ∧ SetIn opened line := by
  obtain ⟨program, pins, items, resolved, connected, made, rfl⟩ := generate_eq_ok.mp generated
  have named := Plan.named_of_resolve resolved names pins options
  obtain rfl := (App.resolved_of_resolve resolved).app_eq
  obtain ⟨rest, rfl, passes⟩ := Plan.passes_sketch named connected made
  have lines :
      Text.lines (Code.render rest) = (rest.flatMap Item.lines ++ [Line.blank]).map Line.chars := by
    rw [List.map_append]
    exact lines_text passes.unbroken
  have passes := passes.append (.single leads_blank)
  refine ⟨Code.render rest, ?_, ?_, ?_⟩
  · rw [render_append]
    rfl
  · rw [lines]
    exact passes.foldlM_behind?
  · intro front line back split
    exact passes.setIn (lines ▸ split)

/-- A model with brackets, quotes and comments in its texts, a state that is called as the labels
start, and a name that goes on with a brace on a second line. -/
def lopsided : App where
  name := "lopsided\n\x7d"
  bricks := [⟨⟨"case"⟩, none, .digitalSensor⟩, ⟨⟨"line"⟩, none, .serialLine 9600⟩]
  initial := some ⟨"case"⟩
  states := [⟨⟨"case"⟩, [.serialPrint ⟨"line"⟩ "\x7d) // \"(' \\"],
    [⟨.condition (.serial ⟨"line"⟩ "'\x7b"), ⟨"case"⟩⟩,
      ⟨.condition (.digital ⟨"case"⟩ .high), ⟨"case"⟩⟩]⟩]

/-- Only the heading of its sketch closes what was not opened. -/
theorem sketch_well_laid_out_lopsided :
    opened? (Text.lines (Plan.heading lopsided.name)) = none ∧
    ∃ sketch body, generate lopsided {} = .ok sketch ∧
      sketch = Plan.heading lopsided.name ++ "\n" ++ body ∧ opened? (Text.lines body) = some [] ∧
      ∀ front line back, Text.lines body = front ++ line :: back →
        ∃ opened, opened? front = some opened ∧ SetIn opened line := by
  have valid : ∀ name ∈ lopsided.declaredNames, name.IsValid := by decide
  obtain ⟨sketch, generated⟩ : ∃ sketch, generate lopsided {} = .ok sketch := ⟨_, rfl⟩
  obtain ⟨body, eq, closed, setIn⟩ := sketch_well_laid_out valid generated
  exact ⟨by decide, sketch, body, generated, eq, closed, setIn⟩

end Brickwork
