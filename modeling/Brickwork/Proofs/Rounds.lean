import Brickwork.Proofs.Declarations
import Brickwork.Proofs.Firmware.Gates
import Brickwork.Proofs.Footprint

/-!
# Rounds of machines with periods

The loop of a program with machines notes the time, reads a line if some guard needs one, and then
has a gate for each machine. One round of it runs the machines that are due by the clock and no
others, whatever the variables held before and however the clock wrapped around.
-/

namespace Brickwork

open Code Firmware

namespace Machine

variable (machine : Machine)

/-- Whether a machine is due, by its own period. -/
def due (times : String → UInt32) (now : UInt32) : Bool :=
  machine.period.any fun period => isDue (times machine.view.lastRun) now period

variable (cases : List (String × List (Nest Step)))

/-- The test of a machine with the cases of its `switch`, and what is done if it holds. -/
def gated : Expr × List Dispatch :=
  (Plan.gate machine.view,
    [.step (.set machine.view.lastRun (.name "currentMillis")), .switch machine.view.current cases])

/-- A machine with the cases of its `switch` as a gate. -/
def asGate : Gate where
  lastRun := machine.view.lastRun
  period := machine.period.getD 0
  subject := .word machine.view.current
  body := .block (cases.flatMap caseStatements)

variable {machine}

lemma named_asGate : (machine.asGate cases).Named where
  word := by
    have text : machine.view.lastRun.toList = 'l' :: ("astRun" ++ machine.view.suffix).toList := by
      rw [String.toList_append]
      exact String.toList_append
    show Text.digits? machine.view.lastRun.toList = none
    rw [text]
    rfl
  other := by
    have long : 2 ≤ "lastRun".toList.length ∧ 2 ≤ "currentMillis".toList.length := by decide
    intro eq
    exact append_ne_append long (by decide) (eq.trans String.append_empty.symm)

/-- The gate of a machine is due when the machine is, if the machine has a period. -/
lemma due_asGate (period : machine.period ≠ none) (times : String → UInt32) (now : UInt32) :
    (machine.asGate cases).due times now = machine.due times now := by
  obtain ⟨period, eq⟩ := Option.ne_none_iff_exists'.mp period
  rw [Gate.due, due, asGate, eq]
  rfl

/-- The statements of a machine are its gate. -/
lemma guardedStatement_gated :
    guardedStatement (machine.gated cases) = (machine.asGate cases).statement := by
  rw [guardedStatement, gated, Plan.gate, Expr.compare]
  simp only [Expr.term, term_natural]
  rfl

/-- Machines with distinct names have variables of their own. -/
lemma nodup_lastRun {machines : List Machine} (names : (machines.map Machine.name).Nodup) :
    (machines.map fun machine => machine.view.lastRun).Nodup := by
  have eq : (machines.map fun machine => machine.view.lastRun) =
      (machines.map Machine.name).map fun name => "lastRun" ++ ("_" ++ name.text) := by
    rw [List.map_map]
    rfl
  rw [eq, List.nodup_map_iff]
  · exact names
  · intro a b eq
    have suffix := (String.append_right_inj _).mp eq
    exact Identifier.eq_of_text ((String.append_right_inj _).mp suffix)

end Machine

namespace Plan

variable {plan : Plan}

/-- Machines whose cases are there are scheduled one after the other. -/
lemma scheduled_machines {machines : List Machine} {cases}
    (h : machines.mapM (fun machine => machine.states.mapM (plan.state machine.view)) = .ok cases) :
    (machines.map Machine.view).mapM plan.scheduled =
      .ok ((machines.zip cases).map fun (machine, cases) => .chain [machine.gated cases]) := by
  induction machines generalizing cases with
  | nil =>
    cases h
    rfl
  | cons machine machines ih =>
    obtain ⟨own, rest, made, later, rfl⟩ := mapM_cons_ok.mp h
    have switch : plan.switch machine.view = .ok (.switch machine.view.current own) :=
      bind_eq_ok.mpr ⟨own, made, rfl⟩
    exact mapM_cons_ok.mpr ⟨_, _, bind_eq_ok.mpr ⟨_, switch, rfl⟩, ih later, rfl⟩

lemma legible_gate {automaton : Automaton} (named : automaton.Named) :
    (gate automaton).Readable := by
  have clock : IsWord "currentMillis" := by decide
  have lastRun : IsWord automaton.lastRun := named.isWord (by decide)
  refine ⟨⟨⟨clock, lastRun⟩, .inl (isWord_decimal _)⟩, ?_⟩
  exact ⟨Nat.zero_le _, Nat.zero_le _, ⟨Nat.zero_le _, by decide, trivial, trivial⟩, trivial⟩

/-- The test of a machine with valid names is legible, and so is what is done if it holds. -/
lemma legible_gated {machine : Machine} {cases} (named : machine.view.Named)
    (bricks : ∀ brick ∈ plan.program.app.bricks, brick.name.IsValid)
    (met : ∀ demand ∈ machine.view.demands, demand.Met plan.program.app machine.view)
    (made : machine.states.mapM (plan.state machine.view) = .ok cases) :
    (machine.gated cases).1.Readable ∧
      ∀ dispatch ∈ (machine.gated cases).2, ReadableDispatch dispatch := by
  refine ⟨legible_gate named, ?_⟩
  have clock : IsWord "currentMillis" := by decide
  rw [Machine.gated, List.forall_mem_cons, List.forall_mem_singleton]
  constructor
  · exact ⟨named.isWord (by decide), append_ne_keyword (.inl (by decide)), clock, trivial⟩
  · exact ⟨named.isWord (by decide), legible_cases named bricks met made⟩

lemma loop_machines {machines : List Machine} {cases} (multi : plan.program.mode = .multi)
    (listed : plan.program.automata = machines.map Machine.view)
    (made : machines.mapM (fun machine => machine.states.mapM (plan.state machine.view)) =
      .ok cases) :
    plan.loop = .ok (Block.step (.declare "unsigned long" "currentMillis" (.call "millis"))
      :: (if plan.program.peripherals.serialInput then [readLine] else [])
      ++ (machines.zip cases).map fun (machine, cases) => .chain [machine.gated cases]) := by
  rw [loop]
  simp only [multi]
  rw [listed]
  exact bind_eq_ok.mpr ⟨_, scheduled_machines made, rfl⟩

end Plan

namespace Machine

variable {machines : List Machine} {cases : List (List (String × List (Nest Step)))}

/-- Machines with distinct names and with periods run when they are due. -/
lemma run_gated (names : (machines.map Machine.name).Nodup)
    (periods : ∀ machine ∈ machines, machine.period ≠ none)
    (length : machines.length = cases.length)
    {σ : Type} {step : Statement → (String → UInt32) → σ → (String → UInt32) × σ}
    (keeps : ∀ statement times others, ∀ machine ∈ machines,
      (step statement times others).1 machine.view.lastRun = times machine.view.lastRun)
    (now : UInt32) (round : Round σ) :
    ∃ after, round.run now step (.block ((machines.zip cases).map
        fun (machine, cases) => guardedStatement (machine.gated cases))) = some after ∧
      after.ran = round.ran ++ ((machines.zip cases).filter fun (machine, _) =>
        machine.due round.times now).map (fun (machine, cases) => (machine.asGate cases).switch) ∧
      ∀ machine ∈ machines, after.times machine.view.lastRun =
        if machine.due round.times now then now else round.times machine.view.lastRun := by
  let gates := (machines.zip cases).map fun (machine, cases) => machine.asGate cases
  have firsts : (machines.zip cases).map Prod.fst = machines :=
    List.map_fst_zip (Nat.le_of_eq length)
  have variables' : gates.map Gate.lastRun = machines.map fun machine => machine.view.lastRun := by
    calc gates.map Gate.lastRun
        = ((machines.zip cases).map Prod.fst).map fun machine => machine.view.lastRun := by
          rw [List.map_map, List.map_map]
          rfl
      _ = machines.map fun machine => machine.view.lastRun := by rw [firsts]
  have distinct : (gates.map Gate.lastRun).Nodup := by
    rw [variables']
    exact nodup_lastRun names
  have named : ∀ gate ∈ gates, gate.Named := by
    rw [List.forall_mem_map]
    exact fun pair _ => named_asGate pair.2
  have own : ∀ gate ∈ gates, gate.lastRun ∈ machines.map fun machine => machine.view.lastRun :=
    fun gate mem => variables' ▸ List.mem_map_of_mem mem
  have due : ∀ pair ∈ machines.zip cases,
      (pair.1.asGate pair.2).due round.times now = pair.1.due round.times now :=
    fun pair mem => due_asGate pair.2 (periods pair.1 (List.of_mem_zip mem).1) round.times now
  obtain ⟨after, ran, executed, noted, _⟩ := Round.run_gates named distinct own
    (fun statement times others => List.forall_mem_map.mpr (keeps statement times others)) round
  refine ⟨after, ?_, ?_, ?_⟩
  · have statements : ((machines.zip cases).map fun (machine, cases) =>
        guardedStatement (machine.gated cases)) = gates.map Gate.statement := by
      rw [List.map_map]
      exact List.map_congr_left fun pair _ => guardedStatement_gated pair.2
    rw [statements, ran]
  · rw [executed, List.filter_map, List.map_map]
    exact congrArg (fun pairs => round.ran ++ pairs.map fun pair => (pair.1.asGate pair.2).switch)
      (List.filter_congr due)
  · intro machine mem
    rw [← firsts] at mem
    obtain ⟨pair, among, rfl⟩ := List.mem_map.mp mem
    rw [← due pair among]
    exact noted _ (List.mem_map_of_mem among)

end Machine

/-- The loop of a program with machines notes the time, reads a line if some guard needs one, and
then has one block for each machine, in the order of declaration; where names are valid, the text of
these blocks is read as their statements. Whatever the time is and whatever the variables of the
machines hold, the `switch`es that are run are those of the machines that are due by their own
periods, once and in order, and afterwards the time is noted for just these machines, if no `switch`
writes these variables. -/
theorem round_runs_due_machines {app : App} {options : Options} {program pins}
    (resolved : app.resolve = .ok program) (multi : program.mode = .multi)
    (allocated : allocate app.bricks options.board = .ok pins) :
    let plan : Plan := ⟨program, pins, options⟩
    ∃ cases,
      app.machines.mapM (fun machine => machine.states.mapM (plan.state machine.view)) = .ok cases ∧
      let machines := app.machines.zip cases
      let branches := machines.map fun (machine, cases) => machine.gated cases
      plan.loop = .ok (Block.step (.declare "unsigned long" "currentMillis" (.call "millis"))
        :: (if program.peripherals.serialInput then [Plan.readLine] else [])
        ++ branches.map fun branch => .chain [branch]) ∧
      (∀ machine ∈ app.machines, machine.period ≠ none) ∧
      ((∀ brick ∈ app.bricks, brick.name.IsValid) → (∀ machine ∈ app.machines,
          machine.name.IsValid ∧ ∀ state ∈ machine.states, state.name.IsValid) →
        ∀ depth, read (String.join ((Block.lines depth
          (branches.map fun branch => .chain [branch])).map Line.render)) =
            some (.block (branches.map guardedStatement))) ∧
      ∀ {σ : Type} (step : Statement → (String → UInt32) → σ → (String → UInt32) × σ)
        (now : UInt32) (times : String → UInt32) (others : σ),
        (∀ statement times others, ∀ machine ∈ app.machines,
          (step statement times others).1 machine.view.lastRun = times machine.view.lastRun) →
        ∃ after, Round.run now step (.block (branches.map guardedStatement)) ⟨times, others, []⟩ =
            some after ∧
          after.ran = (machines.filter fun (machine, _) => machine.due times now).map
            (fun (machine, cases) =>
              .switch (.word machine.view.current) (.block (cases.flatMap caseStatements))) ∧
          ∀ machine ∈ app.machines, after.times machine.view.lastRun =
            if machine.due times now then now else times machine.view.lastRun := by
  intro plan
  have ready : plan.Ready := Plan.ready_of_resolve resolved allocated
  have wellFormed := App.resolve_isOk_iff.mp ⟨program, resolved⟩
  have shown := App.shows_of_resolve resolved
  have listed := shown.multi (shown.mode.mp multi)
  obtain rfl := shown.app_eq
  have own : ∀ machine ∈ program.app.machines, machine.view ∈ program.automata := by
    rw [listed]
    exact fun machine mem => List.mem_map_of_mem mem
  have total : ∃ cases, program.app.machines.mapM
      (fun machine => machine.states.mapM (plan.state machine.view)) = .ok cases := by
    apply mapM_total
    intro machine mem
    obtain ⟨dispatch, made⟩ := ready.switch (own machine mem)
    obtain ⟨cases, made, _⟩ := Plan.switch_ok made
    exact ⟨cases, made⟩
  obtain ⟨cases, made⟩ := total
  have pairs := List.forall₂_iff_zip.mp (mapM_forall₂ made)
  refine ⟨cases, made, ?_⟩
  intro machines branches
  refine ⟨?_, wellFormed.periods, ?_, ?_⟩
  · have loop := @Plan.loop_machines plan _ _ multi listed made
    rw [loop, List.map_map]
    rfl
  · intro bricks names
    apply read_guarded
    rw [List.forall_mem_map]
    intro pair mem
    have among := (List.of_mem_zip mem).1
    have named : pair.1.view.Named := by
      refine ⟨?_, (names pair.1 among).2⟩
      rintro _ ⟨⟩
      exact (names pair.1 among).1
    exact Plan.legible_gated named bricks (ready.resolved.demands _ (own pair.1 among))
      (pairs.2 mem)
  · intro σ step now times others keeps
    obtain ⟨after, ran, executed, noted⟩ := Machine.run_gated wellFormed.machines wellFormed.periods
      pairs.1 keeps now ⟨times, others, []⟩
    refine ⟨after, ?_, executed, noted⟩
    rw [List.map_map]
    exact ran

/-- The beacons just after the clock wrapped around, 200 milliseconds after both machines ran: one
is due and the other is not. -/
theorem round_runs_due_machines_beacons :
    ∃ program pins cases, beacons.resolve = .ok program ∧ allocate beacons.bricks .uno = .ok pins ∧
      beacons.machines.mapM (fun machine =>
        machine.states.mapM (Plan.state ⟨program, pins, ⟨.uno, 200⟩⟩ machine.view)) = .ok cases ∧
      ∃ statement, read (String.join ((Block.lines 1 ((beacons.machines.zip cases).map
          fun (machine, cases) => .chain [machine.gated cases])).map Line.render)) =
            some statement ∧
        ∃ after, Round.run 104 (fun _ times others => (times, others)) statement
            ⟨fun _ => 4294967200, (), []⟩ = some after ∧
          (∃ body, after.ran = [.switch (.word "currentState_fast") body]) ∧
          after.times "lastRun_fast" = 104 ∧ after.times "lastRun_slow" = 4294967200 := by
  have resolved : ∃ program, beacons.resolve = .ok program ∧ program.mode = .multi := ⟨_, rfl, rfl⟩
  have allocated : ∃ pins, allocate beacons.bricks .uno = .ok pins := ⟨_, rfl⟩
  obtain ⟨program, resolved, multi⟩ := resolved
  obtain ⟨pins, allocated⟩ := allocated
  obtain ⟨cases, made, _, _, text, round⟩ :=
    @round_runs_due_machines _ ⟨.uno, 200⟩ _ _ resolved multi allocated
  have text := text (by decide) (by decide) 1
  obtain ⟨after, ran, executed, noted⟩ := round (fun _ times others => (times, others)) 104
    (fun _ => 4294967200) () fun _ _ _ _ _ => rfl
  rw [List.map_map] at text
  refine ⟨program, pins, cases, resolved, allocated, made, _, text, after, ran, ?_, ?_, ?_⟩
  · obtain ⟨_, _, _, later, rfl⟩ := mapM_cons_ok.mp made
    obtain ⟨_, _, _, last, rfl⟩ := mapM_cons_ok.mp later
    cases last
    exact ⟨_, executed⟩
  · exact noted _ (.head _)
  · exact noted _ (.tail _ (.head _))

end Brickwork
