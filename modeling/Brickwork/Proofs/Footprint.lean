import Brickwork.Proofs.Legibility

/-!
# What a loop tests and does

A loop is made by nested emitters. Here all that it can test and all steps that it can take are
listed once, each with the part of the program that it comes from, so that a statement about the
whole loop is one about these tests and steps.
-/

namespace Brickwork

open Code

/-! ## Parts of code -/

namespace Code

/-- The names that an expression reads. -/
def Expr.names : Expr → List String
  | name spelling => [spelling]
  | apply _ argument => argument.names
  | both first rest => first.names ++ rest.names
  | binary _ left right => left.names ++ right.names
  | group inner => inner.names
  | choice test yes no => test.names ++ yes.names ++ no.names
  | number _ | pin _ | text _ | letter _ | call _ => []

/-- The functions that an expression calls. -/
def Expr.functions : Expr → List String
  | call function => [function]
  | apply function argument => function :: argument.functions
  | both first rest => first.functions ++ rest.functions
  | binary _ left right => left.functions ++ right.functions
  | group inner => inner.functions
  | choice test yes no => test.functions ++ yes.functions ++ no.functions
  | name _ | number _ | pin _ | text _ | letter _ => []

/-- Expressions that call only functions of one kind and read only names of one kind. -/
def Expr.Uses (calls reads : String → Prop) : Expr → Prop
  | name spelling => reads spelling
  | call function => calls function
  | apply function argument => calls function ∧ argument.Uses calls reads
  | both first rest => first.Uses calls reads ∧ rest.Uses calls reads
  | binary _ left right => left.Uses calls reads ∧ right.Uses calls reads
  | group inner => inner.Uses calls reads
  | choice test yes no => test.Uses calls reads ∧ yes.Uses calls reads ∧ no.Uses calls reads
  | number _ | pin _ | text _ | letter _ => True

lemma Expr.Uses.of_mem {calls reads : String → Prop} {expr : Expr} (uses : expr.Uses calls reads) :
    (∀ function ∈ expr.functions, calls function) ∧ ∀ name ∈ expr.names, reads name := by
  induction expr with
  | name spelling => exact ⟨nofun, List.forall_mem_singleton.mpr uses⟩
  | call function => exact ⟨List.forall_mem_singleton.mpr uses, nofun⟩
  | apply function argument ih =>
    exact ⟨List.forall_mem_cons.mpr ⟨uses.1, (ih uses.2).1⟩, (ih uses.2).2⟩
  | both first rest ihf ihr | binary operator first rest ihf ihr =>
    exact ⟨List.forall_mem_append.mpr ⟨(ihf uses.1).1, (ihr uses.2).1⟩,
      List.forall_mem_append.mpr ⟨(ihf uses.1).2, (ihr uses.2).2⟩⟩
  | group inner ih => exact ih uses
  | choice test yes no iht ihy ihn =>
    simp only [functions, names, List.forall_mem_append]
    obtain ⟨test, yes, no⟩ := uses
    exact ⟨⟨⟨(iht test).1, (ihy yes).1⟩, (ihn no).1⟩, ⟨(iht test).2, (ihy yes).2⟩, (ihn no).2⟩
  | number | pin | text | letter => exact ⟨nofun, nofun⟩

/-- The expressions that a step evaluates. -/
def Step.values : Step → List Expr
  | set _ value | declare _ _ value | give value => [value]
  | run call | remarked call _ => [call]
  | leave => []

/-- The variables that a step writes, other than those it declares. -/
def Step.targets : Step → List String
  | set target _ => [target]
  | _ => []

namespace Nest

variable {α : Type}

/-- The tests of a statement, without those of the statements inside. -/
def tests : Nest α → List Expr
  | one _ => []
  | chain branches => branches.map Prod.fst

/-- The statements inside a statement. -/
def inner : Nest α → List α
  | one statement => [statement]
  | chain branches => branches.flatMap Prod.snd

end Nest

namespace Dispatch

/-- The statements inside a statement. -/
def nests : Dispatch → List (Nest Step)
  | plain statement => [statement]
  | switch _ cases => cases.flatMap Prod.snd

/-- The names that a choice is made by: its variable and its labels. -/
def names : Dispatch → List String
  | plain _ => []
  | switch subject cases => subject :: cases.map Prod.fst

end Dispatch

namespace Block

variable (block : Block)

/-- All tests in a body. -/
def tests : List Expr :=
  block.flatMap fun statement =>
    statement.tests ++ (statement.inner.flatMap Dispatch.nests).flatMap Nest.tests

/-- All steps in a body. -/
def steps : List Step :=
  block.flatMap fun statement => (statement.inner.flatMap Dispatch.nests).flatMap Nest.inner

/-- The names that a body reads or writes. -/
def names : List String :=
  block.tests.flatMap Expr.names
    ++ block.steps.flatMap (fun step => step.targets ++ step.values.flatMap Expr.names)
    ++ block.flatMap fun statement => statement.inner.flatMap Dispatch.names

/-- The functions that a body calls, as often as it does. -/
def functions : List String :=
  block.tests.flatMap Expr.functions
    ++ block.steps.flatMap fun step => step.values.flatMap Expr.functions

end Block

end Code

/-! ## Parts of loops -/

namespace Plan

variable (plan : Plan)

/-- What a loop can test. -/
inductive Tests : Expr → Prop
  | line (reads : plan.program.peripherals.serialInput = true) : Tests (.call "Serial.available")
  | due {automaton} (mem : automaton ∈ plan.program.automata) (multi : plan.program.mode = .multi) :
    Tests (gate automaton)
  | entered {automaton} (mem : automaton ∈ plan.program.automata) : Tests (.name automaton.changed)
  | guard {automaton state transition test} (mem : automaton ∈ plan.program.automata)
    (within : state ∈ automaton.states) (leads : transition ∈ state.transitions)
    (lowered : plan.lower transition.guard = .ok test) :
    Tests ((plan.debounced transition.guard).foldl
      (fun test sensor => .conjoin test (.group (debounceTest sensor))) test)

/-- What a loop can do in one step. -/
inductive Takes : Step → Prop
  | clock (multi : plan.program.mode = .multi) :
    Takes (.declare "unsigned long" "currentMillis" (.call "millis"))
  | line (reads : plan.program.peripherals.serialInput = true) :
    Takes (.set "serialInput" (.apply "Serial.readStringUntil" (.letter '\n')))
  | trim (reads : plan.program.peripherals.serialInput = true) :
    Takes (.run (.call "serialInput.trim"))
  | due {automaton} (mem : automaton ∈ plan.program.automata) (multi : plan.program.mode = .multi) :
    Takes (.set automaton.lastRun (.name "currentMillis"))
  | entered {automaton} (mem : automaton ∈ plan.program.automata) :
    Takes (.set automaton.changed (.name "false"))
  | act {automaton state action steps step} (mem : automaton ∈ plan.program.automata)
    (within : state ∈ automaton.states) (acts : action ∈ state.actions)
    (made : plan.action action = .ok steps) (among : step ∈ steps) : Takes step
  | stamp {automaton state transition sensor} (mem : automaton ∈ plan.program.automata)
    (within : state ∈ automaton.states) (leads : transition ∈ state.transitions)
    (known : sensor ∈ plan.debounced transition.guard) :
    Takes (.set (debounceVariable sensor) (.call "millis"))
  | empty {automaton state transition} (mem : automaton ∈ plan.program.automata)
    (within : state ∈ automaton.states) (leads : transition ∈ state.transitions)
    (reads : transition.guard.conditions.any Condition.readsSerial = true) :
    Takes (.set "serialInput" (.text ""))
  | enter {automaton state transition} (mem : automaton ∈ plan.program.automata)
    (within : state ∈ automaton.states) (leads : transition ∈ state.transitions) :
    Takes (.set automaton.current (.name (automaton.constant transition.next)))
  | change {automaton} (mem : automaton ∈ plan.program.automata) :
    Takes (.set automaton.changed (.name "true"))
  | leave : Takes .leave

/-- Statements with no other tests, given what the statements inside are like. -/
def Allows {α : Type} (allowed : α → Prop) (statement : Nest α) : Prop :=
  (∀ test ∈ statement.tests, plan.Tests test) ∧ ∀ inner ∈ statement.inner, allowed inner

/-- A statement, or a choice, whose statements take no other steps. -/
def Dispatches (dispatch : Dispatch) : Prop :=
  ∀ statement ∈ dispatch.nests, plan.Allows plan.Takes statement

variable {plan} {automaton : Automaton}

section Allows

variable {α : Type} {allowed : α → Prop}

lemma allows_one {inner} (first : allowed inner) : plan.Allows allowed (.one inner) :=
  ⟨nofun, List.forall_mem_singleton.mpr first⟩

lemma allows_chain {branches : List (Expr × List α)}
    (each : ∀ branch ∈ branches, plan.Tests branch.1 ∧ ∀ inner ∈ branch.2, allowed inner) :
    plan.Allows allowed (.chain branches) := by
  constructor
  · rw [Nest.tests, List.forall_mem_map]
    exact fun branch mem => (each branch mem).1
  · rw [Nest.inner, List.forall_mem_flatMap]
    exact fun branch mem => (each branch mem).2

lemma dispatches_step {step} (takes : plan.Takes step) : plan.Dispatches (.step step) :=
  List.forall_mem_singleton.mpr (allows_one takes)

end Allows

section Machines

variable (mem : automaton ∈ plan.program.automata)

include mem

lemma takes_transition {state transition branch} (within : state ∈ automaton.states)
    (leads : transition ∈ state.transitions)
    (h : plan.transition automaton transition = .ok branch) :
    plan.Tests branch.1 ∧ ∀ step ∈ branch.2, plan.Takes step := by
  obtain ⟨test, lowered, rfl⟩ := transition_ok h
  refine ⟨.guard mem within leads lowered, ?_⟩
  simp only [List.forall_mem_append, List.forall_mem_map, List.forall_mem_cons]
  refine ⟨⟨fun sensor known => .stamp mem within leads known, ?_⟩, .enter mem within leads,
    .change mem, nofun⟩
  intro step among
  split at among
  case isTrue reads =>
    cases List.mem_singleton.mp among
    exact .empty mem within leads reads
  case isFalse => cases among

lemma allows_state {state case} (within : state ∈ automaton.states)
    (h : plan.state automaton state = .ok case) :
    ∀ statement ∈ case.2, plan.Allows plan.Takes statement := by
  obtain ⟨actions, branches, acts, leads, rfl⟩ := state_ok h
  simp only [List.forall_mem_cons]
  refine ⟨?_, ?_, allows_one .leave, nofun⟩
  · apply allows_chain
    rw [List.forall_mem_singleton, List.forall_mem_cons]
    refine ⟨.entered mem, .entered mem, ?_⟩
    intro step among
    obtain ⟨steps, made, among⟩ := List.mem_flatten.mp among
    obtain ⟨action, acts, made⟩ := mem_of_mapM acts made
    exact .act mem within acts made among
  · apply allows_chain
    intro branch made
    obtain ⟨transition, leads, made⟩ := mem_of_mapM leads made
    exact takes_transition mem within leads made

end Machines

/-- The `switch` of a machine has a case for each state, in order. -/
lemma switch_ok {dispatch} (h : plan.switch automaton = .ok dispatch) :
    ∃ cases, automaton.states.mapM (plan.state automaton) = .ok cases ∧
      dispatch = .switch automaton.current cases := by
  obtain ⟨cases, made, h⟩ := bind_eq_ok.mp h
  cases h
  exact ⟨cases, made, rfl⟩

lemma scheduled_ok {block} (h : plan.scheduled automaton = .ok block) :
    ∃ dispatch, plan.switch automaton = .ok dispatch ∧ block = .chain
      [(gate automaton, [.step (.set automaton.lastRun (.name "currentMillis")), dispatch])] := by
  obtain ⟨dispatch, made, h⟩ := bind_eq_ok.mp h
  cases h
  exact ⟨dispatch, made, rfl⟩

lemma dispatches_switch {dispatch} (mem : automaton ∈ plan.program.automata)
    (h : plan.switch automaton = .ok dispatch) : plan.Dispatches dispatch := by
  obtain ⟨cases, made, rfl⟩ := switch_ok h
  rw [Dispatches, Dispatch.nests, List.forall_mem_flatMap]
  intro case among
  obtain ⟨state, within, made⟩ := mem_of_mapM made among
  exact allows_state mem within made

/-- The time that a loop with periods notes first. -/
def clock : Mode → Block
  | .single => []
  | .multi => [Block.step (.declare "unsigned long" "currentMillis" (.call "millis"))]

/-- What stands in a loop before its machines: the time, and the reading of a line if some guard
needs one. -/
def preamble (program : Program) : Block :=
  clock program.mode ++ if program.peripherals.serialInput then [readLine] else []

/-- A machine in a loop: its `switch`, behind a test where machines have periods. -/
def StatementOf (plan : Plan) (automaton : Automaton) (statement : Nest Dispatch) : Prop :=
  ∃ dispatch, plan.switch automaton = .ok dispatch ∧
    statement = match plan.program.mode with
      | .single => .one dispatch
      | .multi => .chain [(gate automaton,
          [.step (.set automaton.lastRun (.name "currentMillis")), dispatch])]

/-- A loop has a statement for each machine, in order. -/
lemma loop_ok {block} (h : plan.loop = .ok block) :
    ∃ machines, block = preamble plan.program ++ machines ∧
      List.Forall₂ plan.StatementOf plan.program.automata machines := by
  unfold StatementOf
  rw [loop] at h
  rw [preamble]
  cases mode : plan.program.mode with
  | single =>
    simp only [mode] at h
    obtain ⟨switches, made, h⟩ := bind_eq_ok.mp h
    cases h
    refine ⟨switches.map .one, rfl, ?_⟩
    rw [List.forall₂_map_right_iff]
    exact (mapM_forall₂ made).imp fun automaton dispatch made => ⟨dispatch, made, rfl⟩
  | multi =>
    simp only [mode] at h
    obtain ⟨blocks, made, h⟩ := bind_eq_ok.mp h
    cases h
    exact ⟨blocks, rfl, (mapM_forall₂ made).imp fun automaton block => scheduled_ok⟩

/-- What is said of a machine is said of each statement for one. -/
lemma exists_statementOf {machines}
    (runs : List.Forall₂ plan.StatementOf plan.program.automata machines)
    {statement} (mem : statement ∈ machines) :
    ∃ automaton ∈ plan.program.automata, plan.StatementOf automaton statement := by
  obtain ⟨i, inside, rfl⟩ := List.getElem_of_mem mem
  have length := runs.length_eq
  exact ⟨_, List.getElem_mem _, runs.get (by omega) inside⟩

lemma allows_preamble :
    ∀ statement ∈ preamble plan.program, plan.Allows plan.Dispatches statement := by
  intro statement mem
  rcases List.mem_append.mp mem with mem | mem
  · cases mode : plan.program.mode with
    | single =>
      rw [mode] at mem
      cases mem
    | multi =>
      rw [mode] at mem
      cases List.mem_singleton.mp mem
      exact allows_one (dispatches_step (.clock mode))
  · split at mem
    case isTrue reads =>
      cases List.mem_singleton.mp mem
      apply allows_chain
      simp only [List.forall_mem_cons]
      exact ⟨⟨.line reads, dispatches_step (.line reads), dispatches_step (.trim reads), nofun⟩,
        nofun⟩
    case isFalse => cases mem

lemma allows_machine {statement} (mem : automaton ∈ plan.program.automata)
    (runs : plan.StatementOf automaton statement) : plan.Allows plan.Dispatches statement := by
  obtain ⟨dispatch, made, rfl⟩ := runs
  cases mode : plan.program.mode with
  | single => exact allows_one (dispatches_switch mem made)
  | multi =>
    apply allows_chain
    simp only [List.forall_mem_cons]
    exact ⟨⟨.due mem mode, dispatches_step (.due mem mode), dispatches_switch mem made, nofun⟩,
      nofun⟩

/-- A loop tests nothing and does nothing but what was listed. -/
lemma allows_loop {block} (h : plan.loop = .ok block) :
    (∀ test ∈ block.tests, plan.Tests test) ∧ ∀ step ∈ block.steps, plan.Takes step := by
  obtain ⟨machines, eq, runs⟩ := loop_ok h
  have allowed : ∀ statement ∈ block, plan.Allows plan.Dispatches statement := by
    rw [eq, List.forall_mem_append]
    refine ⟨allows_preamble, fun statement mem => ?_⟩
    obtain ⟨automaton, mem, runs⟩ := exists_statementOf runs mem
    exact allows_machine mem runs
  simp only [Block.tests, Block.steps, List.forall_mem_flatMap, List.forall_mem_append]
  constructor
  · intro statement mem
    refine ⟨(allowed statement mem).1, fun dispatch within inner among => ?_⟩
    exact ((allowed statement mem).2 dispatch within inner among).1
  · intro statement mem dispatch within inner among
    exact ((allowed statement mem).2 dispatch within inner among).2

/-! ## What a loop depends on -/

/-- Plans for the same bricks with the same pins. -/
structure Wires (plan other : Plan) : Prop where
  bricks : other.program.app.bricks = plan.program.app.bricks
  pins : other.pins = plan.pins

namespace Wires

variable {other : Plan} (wires : plan.Wires other)

include wires

lemma category : other.category = plan.category := by
  funext name
  rw [Plan.category, Plan.category, App.brick, App.brick, wires.bricks]

lemma condition : other.condition = plan.condition := by
  funext condition
  cases condition <;> simp only [Plan.condition, wires.category, wires.pins]

lemma lower (guard : Guard) : other.lower guard = plan.lower guard := by
  induction guard with
  | condition condition => exact congrFun wires.condition condition
  | binary left connective right ihl ihr => rw [Plan.lower, Plan.lower, ihl, ihr]

lemma debounced (guard : Guard) : other.debounced guard = plan.debounced guard := by
  induction guard with
  | condition condition =>
    cases condition with
    | digital brick level =>
      rw [Plan.debounced, Plan.debounced, isDigitalSensor, isDigitalSensor, wires.category]
    | _ => rfl
  | binary left connective right ihl ihr => rw [Plan.debounced, Plan.debounced, ihl, ihr]

lemma segment : other.segment = plan.segment := by
  funext segment
  cases segment <;> simp only [Plan.segment, Plan.status, wires.category, wires.pins]

lemma action : other.action = plan.action := by
  funext action
  cases action with
  | analogWrite actuator value =>
    cases value <;> simp only [Plan.action, Plan.analogValue, wires.pins]
  | lcdUpdate display segments => rw [Plan.action, Plan.action, wires.segment]
  | _ => simp only [Plan.action, wires.pins]

lemma transition : other.transition = plan.transition := by
  funext automaton transition
  rw [Plan.transition, Plan.transition, guardTest, guardTest, wires.lower, wires.debounced]

/-- The `switch` of a machine depends on nothing else of a plan. -/
lemma switch : other.switch = plan.switch := by
  have state : other.state = plan.state := by
    funext automaton state
    rw [Plan.state, Plan.state, wires.action, wires.transition]
  funext automaton
  rw [Plan.switch, Plan.switch, state]

end Wires

end Plan

end Brickwork
