import Brickwork.Proofs.Completeness
import Brickwork.Proofs.Legibility
import Brickwork.Proofs.Moments
import Brickwork.Proofs.Sensors
import Brickwork.Proofs.Truth

/-!
# Firmware steps like its model

The `switch` made for a machine, read as a program and run, does what a step of the machine does.
Tests hold exactly if guards do, steps of branches make transitions fire, and the case that is
looked for is the one of the current state.
-/

namespace Brickwork

open Code Firmware

namespace Plan

variable {plan : Plan} {automaton : Automaton} {moment : Moment} {others : String → Value}
  {calls : List Term}

/-! ## Tests -/

section Anonymous

variable (anonymous : automaton.name = none) (world : World)

include anonymous

/-- The memory of a moment holds the times of the digital sensors. -/
lemma timed_memory {sensors : List Identifier}
    (known : ∀ sensor ∈ sensors, plan.program.app.isDigitalSensor sensor = true) :
    (plan.memory automaton moment others calls).Timed plan.options.debounce moment.stamps
      sensors := by
  refine ⟨⟨moment.line, ?_⟩, ?_, ?_⟩
  · simp only [memory, store_line anonymous]
  · simp only [memory, store_debounce anonymous]
  · intro sensor mem
    simp only [memory, store_stamp anonymous, if_pos (known sensor mem)]

/-- The test of a transition holds exactly if the transition may fire. -/
lemma truth_transition (ready : plan.Ready) {transition branch}
    (h : plan.transition automaton transition = .ok branch) :
    world.truth (plan.memory automaton moment others calls) branch.1.term =
      moment.enables (plan.surroundings world) transition := by
  obtain ⟨test, lowered, rfl⟩ := transition_ok h
  have known := @known_of_debounced plan transition.guard
  have settled (p : Identifier → Bool) : (plan.debounced transition.guard).all p =
      (transition.guard.sensors plan.program.app.isDigitalSensor).all p := by
    rw [Bool.eq_iff_iff, List.all_eq_true, List.all_eq_true]
    simp only [mem_debounced ready.resolved.bricks]
  have timed :
      (plan.memory automaton moment others calls).Timed plan.options.debounce moment.stamps _ :=
    timed_memory anonymous known
  rw [truth_clauses timed, truth_lower timed lowered, settled]
  rfl

/-- Setting the variables of sensors notes the time for each of them. -/
lemma run_stamps {sensors : List Identifier}
    (known : ∀ sensor ∈ sensors, plan.program.app.isDigitalSensor sensor = true) :
    world.run (.block (sensors.map fun sensor => .set (debounceVariable sensor) (.call "millis")))
        (.running, plan.memory automaton moment others calls) =
      some (.running, plan.memory automaton
        { moment with
          stamps := fun name => if name ∈ sensors then world.now else moment.stamps name }
        others calls) := by
  -- each assignment leads to the memory of a moment again
  induction sensors generalizing moment with
  | nil => rfl
  | cons sensor sensors ih =>
    have here := known sensor List.mem_cons_self
    have value : world.value? (plan.memory automaton moment others calls) (debounceVariable sensor)
        (.call "millis") = some (.time world.now) := by
      simp only [World.value?, memory, store_stamp anonymous, if_pos here]
      rfl
    have set := world.run_set value
    rw [write_stamp anonymous here] at set
    rw [List.map_cons, World.run_block_cons, set, Option.bind_some,
      ih fun other mem => known other (List.mem_cons_of_mem sensor mem)]
    have stamps : (fun name => if name ∈ sensors then world.now
        else if name = sensor then world.now else moment.stamps name) =
          fun name => if name ∈ sensor :: sensors then world.now else moment.stamps name := by
      funext name
      by_cases mem : name ∈ sensors
      · rw [if_pos mem, if_pos (List.mem_cons_of_mem sensor mem)]
      · simp only [List.mem_cons, mem, or_false, if_false]
    simp only [stamps]

/-- The line is emptied where the guard has read it. -/
lemma run_line (reads : Bool) :
    world.run (.block (if reads then [.set "serialInput" (.text "")] else []))
        (.running, plan.memory automaton moment others calls) =
      some (.running, plan.memory automaton
        { moment with line := if reads then "" else moment.line } others calls) := by
  cases reads with
  | false => rfl
  | true =>
    have value : world.value? (plan.memory automaton moment others calls) "serialInput" (.text "") =
        some (.text "") := by
      simp only [World.value?, memory, store_line anonymous]
    have set := world.run_set value
    rw [write_line anonymous] at set
    show world.run (.block [.set "serialInput" (.text "")]) _ = _
    rw [World.run_block_cons, set]
    rfl

lemma run_changed (spelling : String) (value : Bool)
    (spelled : spelling = if value then "true" else "false") :
    world.run (.set automaton.changed (.word spelling))
        (.running, plan.memory automaton moment others calls) =
      some (.running, plan.memory automaton { moment with changed := value } others calls) := by
  have value : world.value? (plan.memory automaton moment others calls) automaton.changed
      (.word spelling) = some (.flag value) := by
    simp only [World.value?, memory, store_changed anonymous, spelled]
    cases value <;> rfl
  rw [world.run_set value, write_changed anonymous]

omit anonymous in
lemma run_current (next : Identifier) :
    world.run (.set automaton.current (.word (automaton.constant next)))
        (.running, plan.memory automaton moment others calls) =
      some (.running, plan.memory automaton { moment with current := next } others calls) := by
  have value : world.value? (plan.memory automaton moment others calls) automaton.current
      (.word (automaton.constant next)) = some (.state (automaton.constant next)) := by
    simp only [World.value?, memory, store, if_true]
  rw [world.run_set value, write_current]

/-- The steps of a transition make it fire. -/
lemma run_transition (ready : plan.Ready) {transition branch}
    (h : plan.transition automaton transition = .ok branch) :
    world.run (.block (branch.2.map stepStatement))
        (.running, plan.memory automaton moment others calls) =
      some (.running, plan.memory automaton (moment.fire (plan.surroundings world) transition)
        others calls) := by
  obtain ⟨test, _, rfl⟩ := transition_ok h
  have known := @known_of_debounced plan transition.guard
  have fired : moment.fire (plan.surroundings world) transition =
      { current := transition.next
        changed := true
        stamps := fun name =>
          if name ∈ plan.debounced transition.guard then world.now else moment.stamps name
        line := if transition.guard.conditions.any Condition.readsSerial then ""
          else moment.line } := by
    simp only [mem_debounced ready.resolved.bricks]
    rfl
  -- what the guard reads is the same for the steps and for the moment
  generalize transition.guard.conditions.any Condition.readsSerial = reads at fired
  have steps : ((plan.debounced transition.guard).map
        (fun sensor => Step.set (debounceVariable sensor) (.call "millis"))
      ++ (if reads then [Step.set "serialInput" (.text "")] else [])
      ++ [Step.set automaton.current (.name (automaton.constant transition.next)),
          Step.set automaton.changed (.name "true")]).map stepStatement =
      (plan.debounced transition.guard).map
        (fun sensor => .set (debounceVariable sensor) (.call "millis"))
      ++ ((if reads then [.set "serialInput" (.text "")] else [])
      ++ [.set automaton.current (.word (automaton.constant transition.next)),
          .set automaton.changed (.word "true")]) := by
    rw [List.map_append, List.map_append, List.map_map, List.append_assoc]
    cases reads <;> rfl
  rw [steps, World.run_block_append, run_stamps anonymous world known, Option.bind_some,
    World.run_block_append, run_line anonymous world, Option.bind_some, World.run_block_cons,
    run_current world, Option.bind_some, World.run_block_cons,
    run_changed anonymous world "true" true rfl, fired]
  rfl

/-! ## States -/

omit anonymous in
lemma exists_calls {steps : List Step} (legible : ∀ step ∈ steps, IsCall step) :
    ∃ terms : List Term, steps.map stepStatement = terms.map .run := by
  induction steps with
  | nil => exact ⟨[], rfl⟩
  | cons step steps ih =>
    obtain ⟨call, rfl, _⟩ := legible step List.mem_cons_self
    obtain ⟨terms, eq⟩ := ih fun other mem => legible other (List.mem_cons_of_mem _ mem)
    exact ⟨call.term :: terms, by rw [List.map_cons, eq]; rfl⟩

omit anonymous in
/-- The steps of actions are read as calls. -/
lemma performs_of_mapM {actions steps} (acts : actions.mapM plan.action = .ok steps) :
    ∃ terms, plan.Performs actions terms ∧ steps.flatten.map stepStatement = terms.map .run := by
  have legible : ∀ step ∈ steps.flatten, IsCall step := by
    intro step mem
    obtain ⟨part, among, mem⟩ := List.mem_flatten.mp mem
    obtain ⟨action, _, eq⟩ := mem_of_mapM acts among
    exact legible_action eq step mem
  have readable : ∀ step ∈ steps.flatten, ReadableStep step := by
    intro step mem
    obtain ⟨call, rfl, readable⟩ := legible step mem
    exact readable
  obtain ⟨terms, eq⟩ := exists_calls legible
  refine ⟨terms, ⟨steps, acts, ?_⟩, eq⟩
  intro depth
  rw [read_steps readable, eq]

/-- The actions of a state are run if it was just entered, and the flag is cleared. -/
lemma run_entry {state : State} {steps} (acts : state.actions.mapM plan.action = .ok steps) :
    ∃ terms, plan.Performs (state.entry moment) terms ∧
      world.run (.block (chained [(.word automaton.changed,
          .set automaton.changed (.word "false") :: steps.flatten.map stepStatement)]))
          (.running, plan.memory automaton moment others calls) =
        some (.running, plan.memory automaton { moment with changed := false } others
          (calls ++ terms)) := by
  have flag : world.truth (plan.memory automaton moment others calls) (.word automaton.changed) =
      moment.changed := by
    simp only [World.truth, memory, store_changed anonymous]
  rw [World.run_chained, List.find?_cons, flag]
  cases changed : moment.changed with
  | true =>
    obtain ⟨terms, performs, eq⟩ := performs_of_mapM acts
    refine ⟨terms, ?_, ?_⟩
    · rw [State.entry, if_pos changed]
      exact performs
    · show world.run (.block (.set automaton.changed (.word "false") :: _)) _ = _
      rw [World.run_block_cons, run_changed anonymous world "false" false rfl, Option.bind_some, eq,
        World.run_calls]
      rfl
  | false =>
    refine ⟨[], ?_, ?_⟩
    · rw [State.entry, changed]
      exact ⟨[], rfl, fun depth => read_steps (List.forall_mem_nil _) depth⟩
    · have same : { moment with changed := false } = moment := by rw [← changed]
      rw [List.append_nil, same]
      rfl

/-- Of the branches of a state, the one of the first transition that may fire is run. -/
lemma run_branches (ready : plan.Ready) {state : State} {branches}
    (leads : state.transitions.mapM (plan.transition automaton) = .ok branches) :
    world.run (.block (chained (branches.map branchStatements)))
        (.running, plan.memory automaton { moment with changed := false } others calls) =
      some (.running, plan.memory automaton (state.step (plan.surroundings world) moment) others
        calls) := by
  -- the flag is no part of any test, so the branches agree with the transitions at the old moment
  have agree (transition branch) (h : plan.transition automaton transition = .ok branch) :
      world.truth (plan.memory automaton { moment with changed := false } others calls)
        (branchStatements branch).1 = moment.enables (plan.surroundings world) transition :=
    truth_transition anonymous world ready h
  rw [World.run_chained, List.find?_map, Function.comp_def, State.step]
  obtain ⟨missing, missing'⟩ | ⟨transition, branch, h, found, found'⟩ :=
    find?_forall₂ agree (mapM_forall₂ leads)
  · rw [missing, missing']
    rfl
  · rw [found, found']
    exact run_transition anonymous world ready h

/-- The case of a state does what a step from the state does. -/
lemma run_state (ready : plan.Ready) {state case} (h : plan.state automaton state = .ok case) :
    ∃ terms, plan.Performs (state.entry moment) terms ∧
      world.run (.block (case.2.flatMap nestStatements))
          (.running, plan.memory automaton moment others calls) =
        some (.left, plan.memory automaton (state.step (plan.surroundings world) moment) others
          (calls ++ terms)) := by
  obtain ⟨steps, branches, acts, leads, rfl⟩ := state_ok h
  obtain ⟨terms, performs, entry⟩ : ∃ terms, plan.Performs (state.entry moment) terms ∧ _ =
      some (_, plan.memory automaton { moment with changed := false } others (calls ++ terms)) :=
    run_entry anonymous world acts
  refine ⟨terms, performs, ?_⟩
  have body : [Nest.chain [(.name automaton.changed,
        .set automaton.changed (.name "false") :: steps.flatten)],
      .chain branches, .one .leave].flatMap nestStatements =
      chained [(.word automaton.changed,
        .set automaton.changed (.word "false") :: steps.flatten.map stepStatement)] ++
      (chained (branches.map branchStatements) ++ [.leave]) := rfl
  rw [body, World.run_block_append, entry, Option.bind_some, World.run_block_append,
    run_branches anonymous world ready leads]
  rfl

/-! ## Machines -/

omit anonymous in
/-- The statements of a case are passed over while a label is sought. -/
lemma inert_nestStatements (statement : Nest Step) :
    ∀ s ∈ nestStatements statement, world.Inert s := by
  cases statement with
  | one step =>
    rw [nestStatements, List.forall_mem_singleton]
    cases step <;> exact fun _ _ => rfl
  | chain branches =>
    cases branches with
    | nil => exact List.forall_mem_nil _
    | cons branch branches =>
      show ∀ s ∈ [Statement.chain _], world.Inert s
      rw [List.forall_mem_singleton]
      exact fun _ _ => rfl

omit anonymous in
/-- The case of the label that is sought is run, and no other. -/
lemma run_chosen {cases : List (String × List (Nest Step))} {case label memory after}
    (chosen : cases.find? (fun case => case.1 = label) = some case)
    (run : world.run (.block (case.2.flatMap nestStatements)) (.running, memory) =
      some (.left, after)) :
    world.run (.block (cases.flatMap caseStatements)) (.seeking label, memory) =
      some (.left, after) := by
  have body : cases.flatMap caseStatements =
      (cases.map fun case => (case.1, case.2.flatMap nestStatements)).flatMap
        fun case => .label case.1 :: case.2 := by
    rw [List.flatMap_map]
    rfl
  have chosen : (cases.map fun case => (case.1, case.2.flatMap nestStatements)).find?
      (fun case => case.1 = label) = some (case.1, case.2.flatMap nestStatements) := by
    rw [List.find?_map, Function.comp_def, chosen, Option.map_some]
  rw [body]
  refine World.run_cases ?_ chosen run
  intro case mem s among
  obtain ⟨case, _, rfl⟩ := List.mem_map.mp mem
  obtain ⟨statement, _, among⟩ := List.mem_flatMap.mp among
  exact inert_nestStatements world statement s among

/-- The `switch` of a machine does what a step from the current state does. -/
lemma run_switch (ready : plan.Ready) {cases state}
    (h : automaton.states.mapM (plan.state automaton) = .ok cases)
    (found : automaton.state? moment.current = some state) :
    ∃ terms, plan.Performs (state.entry moment) terms ∧
      world.run (.block [.switch (.word automaton.current) (.block (cases.flatMap caseStatements))])
          (.running, plan.memory automaton moment others calls) =
        some (.running, plan.memory automaton (state.step (plan.surroundings world) moment) others
          (calls ++ terms)) := by
  have agree (state case) (h : plan.state automaton state = .ok case) :
      decide (case.1 = automaton.constant moment.current) =
        decide (state.name = moment.current) := by
    obtain ⟨_, _, _, _, rfl⟩ := state_ok h
    simp only [Automaton.constant_inj]
  obtain ⟨missing, _⟩ | ⟨same, case, h, found', chosen⟩ := find?_forall₂ agree (mapM_forall₂ h)
  · rw [Automaton.state?, missing] at found
    cases found
  · rw [Automaton.state?, found'] at found
    cases found
    obtain ⟨terms, performs, run⟩ : ∃ terms, plan.Performs (state.entry moment) terms ∧ _ =
        some (_, plan.memory automaton (state.step (plan.surroundings world) moment) others
          (calls ++ terms)) := run_state anonymous world ready h
    have subject : (plan.memory automaton moment others calls).store automaton.current =
        .state (automaton.constant moment.current) := if_pos rfl
    refine ⟨terms, performs, ?_⟩
    rw [World.run_block_cons, World.run]
    simp only [subject, run_chosen world chosen run]
    rfl

end Anonymous

end Plan

/-- The text of a machine's `switch`, read as a program, does one step of the machine, whatever the
variables hold and whatever the world answers. If the current state was just entered, the flag is
cleared and the calls that the state's actions are written as are made, in order, and otherwise no
call is made. Then the first transition fires whose guard holds and whose digital sensors have all
been quiet for long enough: the time is noted for just these sensors, the line is emptied if and
only if the guard reads it, and the target is entered. All other variables keep what they hold.
Whether a condition holds is asked of the world, and every condition has a test that can be read and
asked. -/
theorem switch_simulates_step {app : App} {options : Options} {program pins}
    (resolved : app.resolve = .ok program) (single : program.mode = .single)
    (bricks : ∀ brick ∈ app.bricks, brick.name.IsValid)
    (states : ∀ state ∈ app.states, state.name.IsValid)
    (allocated : allocate app.bricks options.board = .ok pins) :
    let plan : Plan := ⟨program, pins, options⟩
    ∃ automaton dispatch statement, program.automata = [automaton] ∧
      plan.switch automaton = .ok dispatch ∧
      (∀ depth, read (String.join ((dispatch.lines depth).map Line.render)) = some statement) ∧
      ∀ state ∈ app.states,
        (∀ transition ∈ state.transitions, ∀ condition ∈ transition.guard.conditions,
          ∃ term, plan.asked? condition = some term) ∧
        ∀ (world : World) (moment : Moment) (others : String → Value) (calls : List Term),
          moment.current = state.name →
          ∃ terms, plan.Performs (state.entry moment) terms ∧
            world.run statement (.running, plan.memory automaton moment others calls) =
              some (.running, plan.memory automaton
                (state.step (plan.surroundings world) moment) others (calls ++ terms)) := by
  intro plan
  have ready : plan.Ready := Plan.ready_of_resolve resolved allocated
  have sound := App.resolved_of_resolve resolved
  obtain rfl := sound.app_eq
  obtain ⟨automaton, listed, anonymous, own⟩ := App.automaton_of_single (single ▸ sound.automata)
  have mem : automaton ∈ program.automata := listed ▸ List.mem_singleton_self automaton
  have named : automaton.Named := by
    refine ⟨?_, own ▸ states⟩
    rw [anonymous]
    nofun
  obtain ⟨dispatch, eq⟩ := ready.switch mem
  obtain ⟨cases, made, h⟩ := bind_eq_ok.mp eq
  cases h
  have word : IsWord automaton.current := named.isWord (by decide)
  have readable := Plan.legible_cases named bricks (sound.demands automaton mem) made
  refine ⟨automaton, _, _, listed, eq, read_switch word readable, ?_⟩
  intro state within
  rw [← own] at within
  constructor
  · intro transition leads condition mem'
    have demanded := Automaton.mem_demands within leads
      (List.mem_append_left _ (List.mem_map_of_mem mem'))
    obtain ⟨test, eq⟩ := ready.condition (sound.demands automaton mem _ demanded)
    exact ⟨_, Plan.asked?_eq eq⟩
  · intro world moment others calls current
    have found : automaton.state? moment.current = some state := by
      rw [current]
      exact find?_key (sound.states automaton mem) within
    exact Plan.run_switch anonymous world ready made found

/-- The greenhouse steps like its only state, whatever the world and whatever is remembered. -/
theorem switch_simulates_step_greenhouse :
    ∃ program pins automaton dispatch statement,
      (greenhouse none ⟨"closed"⟩).resolve = .ok program ∧
      allocate (greenhouse none ⟨"closed"⟩).bricks .uno = .ok pins ∧
      Plan.switch ⟨program, pins, ⟨.uno, 200⟩⟩ automaton = .ok dispatch ∧
      read (String.join ((dispatch.lines 1).map Line.render)) = some statement ∧
      ∃ state ∈ (greenhouse none ⟨"closed"⟩).states, ∀ (world : World) stamps line,
        ∃ terms, Plan.Performs ⟨program, pins, ⟨.uno, 200⟩⟩ state.actions terms ∧
          world.run statement (.running, Plan.memory ⟨program, pins, ⟨.uno, 200⟩⟩ automaton
            ⟨⟨"closed"⟩, true, stamps, line⟩ (fun _ => .flag false) []) =
              some (.running, Plan.memory ⟨program, pins, ⟨.uno, 200⟩⟩ automaton
                (state.step (Plan.surroundings ⟨program, pins, ⟨.uno, 200⟩⟩ world)
                  ⟨⟨"closed"⟩, true, stamps, line⟩) (fun _ => .flag false) terms) := by
  have resolved : ∃ program, (greenhouse none ⟨"closed"⟩).resolve = .ok program ∧
      program.mode = .single := ⟨_, rfl, rfl⟩
  have allocated : ∃ pins, allocate (greenhouse none ⟨"closed"⟩).bricks .uno = .ok pins := ⟨_, rfl⟩
  obtain ⟨program, resolved, single⟩ := resolved
  obtain ⟨pins, allocated⟩ := allocated
  obtain ⟨automaton, dispatch, statement, _, eq, text, steps⟩ :=
    @switch_simulates_step _ ⟨.uno, 200⟩ _ _ resolved single (by decide) (by decide) allocated
  refine ⟨program, pins, automaton, dispatch, statement, resolved, allocated, eq, text 1, _,
    List.mem_singleton_self _, ?_⟩
  intro world stamps line
  exact (steps _ (List.mem_singleton_self _)).2 world
    ⟨⟨"closed"⟩, true, stamps, line⟩ _ [] rfl

end Brickwork
