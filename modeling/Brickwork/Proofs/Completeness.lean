import Brickwork.Generate
import Brickwork.Proofs.Resolution
import Brickwork.Proofs.Wiring

/-!
# Sketches are complete

Once an app is resolved and its bricks are connected, nothing can go wrong in making its sketch:
what the resolver demands of a brick at a place is what the sketch needs there, and every pin that
is looked up is there. So resolution and allocation are the only reasons why there may be no sketch.
-/

namespace Brickwork

open Code

/-- Only serial lines and displays are asked for without needing a pin of a pool. -/
lemma Role.pool_of_admits {role : Role} {category : Category}
    (admitted : role.admits category = true)
    (line : role ≠ .serialLine) (display : role ≠ .display) : category.pool ≠ none := by
  intro fixed
  cases category with
  | serialLine =>
    cases role with
    | serialLine => exact line rfl
    | _ => cases admitted
  | lcdDisplay =>
    cases role with
    | display => exact display rfl
    | _ => cases admitted
  | _ => cases fixed

/-- A plan of a resolved program whose bricks are connected. -/
structure Plan.Ready (plan : Plan) : Prop where
  resolved : plan.program.app.Resolved plan.program
  allocated : allocate plan.program.app.bricks plan.options.board = .ok plan.pins

namespace Plan.Ready

variable {plan : Plan} {automaton : Automaton}

lemma category (ready : plan.Ready) {brick} (mem : brick ∈ plan.program.app.bricks) :
    plan.category brick.name = .ok brick.category := by
  rw [Plan.category, App.brick_name ready.resolved.bricks mem]
  rfl

/-- A brick that meets a demand has a category that suits, and a pin if the category has a pool. -/
lemma brick (ready : plan.Ready) {name role}
    (met : (Demand.brick name role).Met plan.program.app automaton) :
    ∃ category, plan.category name = .ok category ∧ role.admits category = true ∧
      (category.pool ≠ none → ∃ pin, plan.pins.pin name = .ok pin) := by
  obtain ⟨brick, mem, rfl, admitted⟩ := met
  refine ⟨brick.category, ready.category mem, admitted, ?_⟩
  exact allocate_pin ready.allocated ready.resolved.bricks mem

lemma pin (ready : plan.Ready) {name role}
    (met : (Demand.brick name role).Met plan.program.app automaton)
    (line : role ≠ .serialLine) (display : role ≠ .display) :
    ∃ pin, plan.pins.pin name = .ok pin := by
  obtain ⟨category, _, admitted, pin⟩ := ready.brick met
  exact pin (Role.pool_of_admits admitted line display)

lemma condition (ready : plan.Ready) {condition}
    (met : condition.demand.Met plan.program.app automaton) :
    ∃ test, plan.condition condition = .ok test := by
  cases condition with
  | digital brick level =>
    obtain ⟨category, eq, admitted, pin⟩ := ready.brick met
    -- the role leaves just the categories that the plan has a test for
    cases category
    case digitalSensor | digitalActuator | buzzer =>
      obtain ⟨pin, found⟩ := pin nofun
      exact ⟨digitalTest pin level, by rw [Plan.condition, eq, found]; rfl⟩
    all_goals cases admitted
  | analog brick comparison threshold =>
    obtain ⟨category, eq, admitted, pin⟩ := ready.brick met
    cases category
    case analogSensor | temperatureSensor =>
      obtain ⟨pin, found⟩ := pin nofun
      exact ⟨_, by rw [Plan.condition, eq, found]; rfl⟩
    all_goals cases admitted
  | serial brick message =>
    obtain ⟨category, eq, admitted, _⟩ := ready.brick met
    cases category
    case serialLine => exact ⟨_, by rw [Plan.condition, eq]; rfl⟩
    all_goals cases admitted

lemma status (ready : plan.Ready) {brick}
    (met : (Demand.brick brick .status).Met plan.program.app automaton) :
    ∃ value, plan.status brick = .ok value := by
  obtain ⟨category, eq, admitted, pin⟩ := ready.brick met
  cases category
  case serialLine | lcdDisplay | analogActuator => cases admitted
  all_goals
    obtain ⟨pin, found⟩ := pin nofun
    exact ⟨_, by rw [Plan.status, eq, found]; rfl⟩

lemma segment (ready : plan.Ready) {segment}
    (met : ∀ demand ∈ segment.demands, demand.Met plan.program.app automaton) :
    ∃ value, plan.segment segment = .ok value := by
  cases segment with
  | text content => exact ⟨.text content, rfl⟩
  | status brick => exact ready.status (met _ (List.mem_singleton_self _))

lemma analogValue (ready : plan.Ready) {value}
    (met : ∀ demand ∈ value.demands, demand.Met plan.program.app automaton) :
    ∃ expr, plan.analogValue value = .ok expr := by
  cases value with
  | literal value => exact ⟨_, rfl⟩
  | sensor brick =>
    obtain ⟨pin, found⟩ := ready.pin (met _ (List.mem_singleton_self _)) nofun nofun
    exact ⟨_, by rw [Plan.analogValue, found]; rfl⟩

lemma hertz {app : App} {pitch : Pitch} (met : ∀ demand ∈ pitch.demands, demand.Met app automaton) :
    ∃ hertz, Plan.hertz pitch = .ok hertz := by
  cases pitch with
  | frequency hertz => exact ⟨_, rfl⟩
  | note name =>
    obtain ⟨hertz, found⟩ := met _ (List.mem_singleton_self _)
    exact ⟨hertz, by rw [Plan.hertz, found]; rfl⟩

lemma action (ready : plan.Ready) {action}
    (met : ∀ demand ∈ action.demands, demand.Met plan.program.app automaton) :
    ∃ steps, plan.action action = .ok steps := by
  cases action with
  | digitalWrite actuator level =>
    obtain ⟨pin, found⟩ := ready.pin (met _ List.mem_cons_self) nofun nofun
    exact ⟨_, by rw [Plan.action, found]; rfl⟩
  | analogWrite actuator value =>
    obtain ⟨pin, found⟩ := ready.pin (met _ List.mem_cons_self) nofun nofun
    obtain ⟨expr, eq⟩ := ready.analogValue fun demand mem => met demand (List.mem_cons_of_mem _ mem)
    exact ⟨_, by rw [Plan.action, found]; simp only [bind, Except.bind, eq]; rfl⟩
  -- a message is written without looking the line up
  | serialPrint serial message => exact ⟨_, rfl⟩
  | lcdUpdate display segments =>
    have pieces : ∃ pieces, segments.mapM plan.segment = .ok pieces := by
      apply mapM_total
      intro segment mem
      apply ready.segment
      intro demand demanded
      exact met demand (List.mem_cons_of_mem _ (List.mem_flatMap.mpr ⟨segment, mem, demanded⟩))
    obtain ⟨pieces, eq⟩ := pieces
    exact ⟨_, by rw [Plan.action, eq]; rfl⟩
  | tone buzzer pitch duration =>
    obtain ⟨pin, found⟩ := ready.pin (met _ List.mem_cons_self) nofun nofun
    obtain ⟨hertz, eq⟩ := hertz fun demand mem => met demand (List.mem_cons_of_mem _ mem)
    exact ⟨_, by rw [Plan.action, found]; simp only [bind, Except.bind, eq]; rfl⟩
  | silence buzzer =>
    obtain ⟨pin, found⟩ := ready.pin (met _ List.mem_cons_self) nofun nofun
    exact ⟨_, by rw [Plan.action, found]; rfl⟩

lemma lower (ready : plan.Ready) {guard}
    (met : ∀ condition ∈ guard.conditions, condition.demand.Met plan.program.app automaton) :
    ∃ test, plan.lower guard = .ok test := by
  induction guard with
  | condition condition => exact ready.condition (met condition (List.mem_singleton_self _))
  | binary left connective right ihl ihr =>
    obtain ⟨testl, eql⟩ := ihl fun condition mem => met condition (List.mem_append_left _ mem)
    obtain ⟨testr, eqr⟩ := ihr fun condition mem => met condition (List.mem_append_right _ mem)
    exact ⟨_, by rw [Plan.lower, eql, eqr]; rfl⟩

lemma transition (ready : plan.Ready) {transition}
    (met : ∀ demand ∈ transition.demands, demand.Met plan.program.app automaton) :
    ∃ branch, plan.transition automaton transition = .ok branch := by
  have guarded : ∃ test, plan.lower transition.guard = .ok test := by
    apply ready.lower
    intro condition mem
    exact met _ (List.mem_append_left _ (List.mem_map_of_mem mem))
  obtain ⟨test, eq⟩ := guarded
  exact ⟨_, by rw [Plan.transition, Plan.guardTest, eq]; rfl⟩

lemma state (ready : plan.Ready) {state}
    (met : ∀ demand ∈ state.demands, demand.Met plan.program.app automaton) :
    ∃ case, plan.state automaton state = .ok case := by
  have acts : ∃ actions, state.actions.mapM plan.action = .ok actions := by
    apply mapM_total
    intro action mem
    apply ready.action
    intro demand demanded
    exact met demand (List.mem_append_left _ (List.mem_flatMap.mpr ⟨action, mem, demanded⟩))
  have leads : ∃ branches, state.transitions.mapM (plan.transition automaton) = .ok branches := by
    apply mapM_total
    intro transition mem
    apply ready.transition
    intro demand demanded
    exact met demand (List.mem_append_right _ (List.mem_flatMap.mpr ⟨transition, mem, demanded⟩))
  obtain ⟨actions, acts⟩ := acts
  obtain ⟨branches, leads⟩ := leads
  exact ⟨_, by rw [Plan.state, acts]; simp only [bind, Except.bind, leads]; rfl⟩

/-- Every machine of the program has a `switch`. -/
lemma switch (ready : plan.Ready) (mem : automaton ∈ plan.program.automata) :
    ∃ dispatch, plan.switch automaton = .ok dispatch := by
  have cases : ∃ cases, automaton.states.mapM (plan.state automaton) = .ok cases := by
    apply mapM_total
    intro state within
    apply ready.state
    intro demand demanded
    apply ready.resolved.demands automaton mem demand
    exact List.mem_cons_of_mem _ (List.mem_flatMap.mpr ⟨state, within, demanded⟩)
  obtain ⟨cases, eq⟩ := cases
  exact ⟨_, by rw [Plan.switch, eq]; rfl⟩

lemma loop (ready : plan.Ready) : ∃ block, plan.loop = .ok block := by
  cases mode : plan.program.mode with
  | single =>
    obtain ⟨switches, eq⟩ := mapM_total fun _ mem => ready.switch mem
    exact ⟨_, by rw [Plan.loop]; simp only [mode, eq]; rfl⟩
  | multi =>
    have machines : ∃ machines, plan.program.automata.mapM plan.scheduled = .ok machines := by
      apply mapM_total
      intro automaton mem
      obtain ⟨dispatch, eq⟩ := ready.switch mem
      exact ⟨_, by rw [Plan.scheduled, eq]; rfl⟩
    obtain ⟨machines, eq⟩ := machines
    exact ⟨_, by rw [Plan.loop]; simp only [mode, eq]; rfl⟩

lemma setup (ready : plan.Ready) {brick} (mem : brick ∈ plan.program.app.bricks) :
    ∃ step, plan.setup brick = .ok step := by
  have pin := allocate_pin ready.allocated ready.resolved.bricks mem
  rw [Plan.setup]
  cases category : brick.category with
  | serialLine baud => exact ⟨_, rfl⟩
  | lcdDisplay => exact ⟨_, rfl⟩
  | _ =>
    rw [category] at pin
    obtain ⟨pin, found⟩ := pin nofun
    exact ⟨_, by simp only [found]; rfl⟩

/-- The plan has all parts of a sketch. -/
lemma items (ready : plan.Ready) : ∃ items, plan.items = .ok items := by
  obtain ⟨setup, eqs⟩ := mapM_total fun _ mem => ready.setup mem
  obtain ⟨loop, eql⟩ := ready.loop
  exact ⟨_, by rw [Plan.items, eqs]; simp only [bind, Except.bind, eql]; rfl⟩

end Plan.Ready

/-- The plan of a resolved app whose bricks are connected is ready. -/
lemma Plan.ready_of_resolve {app : App} {options program pins}
    (resolved : app.resolve = .ok program)
    (allocated : allocate app.bricks options.board = .ok pins) :
    Plan.Ready ⟨program, pins, options⟩ := by
  have sound := App.resolved_of_resolve resolved
  obtain rfl := sound.app_eq
  exact ⟨sound, allocated⟩

/-- An app without a sketch has errors in the model, or else an error in the allocation of pins, and
they are reported as they are; an app that is resolved and whose bricks are connected has a sketch,
since the plan has all parts of it. -/
theorem generate_complete (app : App) (options : Options) :
    (∀ errors, app.resolve = .error errors →
      generate app options = .error ⟨"Model error", errors⟩) ∧
    (∀ program error, app.resolve = .ok program → allocate app.bricks options.board = .error error →
      generate app options = .error ⟨"Allocation error", [error]⟩) ∧
    (∀ program pins, app.resolve = .ok program → allocate app.bricks options.board = .ok pins →
      ∃ items, Plan.items ⟨program, pins, options⟩ = .ok items ∧
        generate app options = .ok (Code.render items)) := by
  refine ⟨?_, ?_, ?_⟩
  · intro errors resolved
    rw [generate, resolved]
  · intro program error resolved allocated
    rw [generate, resolved]
    simp only [allocated]
  · intro program pins resolved allocated
    obtain ⟨items, eq⟩ := (Plan.ready_of_resolve resolved allocated).items
    refine ⟨items, eq, ?_⟩
    rw [generate, resolved]
    simp only [allocated, eq]

/-- A model with all kinds of references; the pin of the lamp and the target of its transition can
be chosen. -/
def greenhouse (pin : Option Pin) (target : Identifier) : App where
  name := "greenhouse"
  bricks := [⟨⟨"door"⟩, none, .digitalSensor⟩, ⟨⟨"air"⟩, none, .temperatureSensor⟩,
    ⟨⟨"lamp"⟩, pin, .analogActuator⟩, ⟨⟨"horn"⟩, some (.digital 6), .buzzer⟩,
    ⟨⟨"screen"⟩, none, .lcdDisplay⟩, ⟨⟨"line"⟩, none, .serialLine 9600⟩]
  initial := some ⟨"closed"⟩
  states := [⟨⟨"closed"⟩,
    [.lcdUpdate ⟨"screen"⟩ [.text "door ", .status ⟨"door"⟩],
    .analogWrite ⟨"lamp"⟩ (.sensor ⟨"air"⟩),
     .tone ⟨"horn"⟩ (.note "Bb3") (some 250), .serialPrint ⟨"line"⟩ "closed"],
    [⟨.binary (.condition (.digital ⟨"door"⟩ .high)) .or
        (.binary (.condition (.analog ⟨"air"⟩ .greater 30.5)) .and
          (.condition (.serial ⟨"line"⟩ "open"))), target⟩]⟩]

/-- The model has a sketch; it has an error of its own with a wrong target, and an error of the
allocation where two bricks ask for one pin. -/
theorem generate_complete_greenhouse :
    (∃ sketch, generate (greenhouse none ⟨"closed"⟩) ⟨.uno, 200⟩ = .ok sketch) ∧
    generate (greenhouse none ⟨"open"⟩) ⟨.uno, 200⟩ =
      .error ⟨"Model error", [.unknownState ⟨"open"⟩ none]⟩ ∧
    generate (greenhouse (some (.digital 6)) ⟨"closed"⟩) ⟨.uno, 200⟩ =
      .error ⟨"Allocation error", [.pinConflict (.digital 6) ⟨"lamp"⟩ ⟨"horn"⟩]⟩ := by
  refine ⟨?_, ?_, ?_⟩
  · obtain ⟨items, _, eq⟩ :=
      (generate_complete (greenhouse none ⟨"closed"⟩) ⟨.uno, 200⟩).2.2 _ _ rfl rfl
    exact ⟨_, eq⟩
  · exact (generate_complete (greenhouse none ⟨"open"⟩) ⟨.uno, 200⟩).1 _ rfl
  · have complete := generate_complete (greenhouse (some (.digital 6)) ⟨"closed"⟩) ⟨.uno, 200⟩
    exact complete.2.1 _ _ rfl rfl

end Brickwork
