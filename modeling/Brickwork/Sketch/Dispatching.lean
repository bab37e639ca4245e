import Brickwork.Sketch.Guarding

/-!
# Machines in sketches

A machine becomes a `switch` over its current state. The actions of a state run only right after the
state was entered; its transitions are tried every time, in order, and the first whose guard holds
fires.
-/

namespace Brickwork

open Code

namespace Plan

/-- The branch of a transition. -/
def transition (plan : Plan) (automaton : Automaton) (transition : Transition) :
    Except GenerationError (Expr × List Step) := do
  let guard ← plan.guardTest transition.guard
  return (guard.test,
    guard.debounced.map (fun sensor => .set (debounceVariable sensor) (.call "millis"))
      ++ (if guard.readsSerial then [.set "serialInput" (.text "")] else [])
      ++ [.set automaton.current (.name (automaton.constant transition.next)),
          .set automaton.changed (.name "true")])

/-- The case of a state. -/
def state (plan : Plan) (automaton : Automaton) (state : State) :
    Except GenerationError (String × List (Nest Step)) := do
  let actions ← state.actions.mapM plan.action
  let branches ← state.transitions.mapM (plan.transition automaton)
  let entry := .set automaton.changed (.name "false") :: actions.flatten
  return (automaton.constant state.name,
    [.chain [(.name automaton.changed, entry)], .chain branches, .one .leave])

/-- The `switch` of a machine. -/
def switch (plan : Plan) (automaton : Automaton) : Except GenerationError Dispatch := do
  return .switch automaton.current (← automaton.states.mapM (plan.state automaton))

/-- The test that a machine is due. -/
def gate (automaton : Automaton) : Expr :=
  .compare .greaterEqual (.binary .minus (.name "currentMillis") (.name automaton.lastRun))
    (.natural (automaton.period.getD 0).toNat)

/-- A machine that runs once in its period. -/
def scheduled (plan : Plan) (automaton : Automaton) : Except GenerationError (Nest Dispatch) := do
  let switch ← plan.switch automaton
  return .chain [(gate automaton, [.step (.set automaton.lastRun (.name "currentMillis")), switch])]

/-- The statement that reads a line from the serial line, when there is one. -/
def readLine : Nest Dispatch :=
  .chain [(.call "Serial.available",
    [.step (.set "serialInput" (.apply "Serial.readStringUntil" (.letter '\n'))),
     .step (.run (.call "serialInput.trim"))])]

/-- The body of `loop`. -/
def loop (plan : Plan) : Except GenerationError Block := do
  let reading := if plan.program.peripherals.serialInput then [readLine] else []
  match plan.program.mode with
  | .single => return reading ++ (← plan.program.automata.mapM plan.switch).map .one
  | .multi =>
    let clock := Block.step (.declare "unsigned long" "currentMillis" (.call "millis"))
    return clock :: reading ++ (← plan.program.automata.mapM plan.scheduled)

end Plan

/-- What is logged of a machine's `switch`. -/
def Automaton.log (automaton : Automaton) : List LogLine :=
  ⟨.debug, "Emitting machine `" ++ automaton.stateType ++ "` with "
      ++ Text.decimal automaton.states.length ++ " state(s)"⟩
    :: automaton.states.map fun state =>
      ⟨.trace, "State `" ++ state.name.text ++ "`: " ++ Text.decimal state.actions.length
        ++ " action(s), " ++ Text.decimal state.transitions.length ++ " transition(s)"⟩

/-- What is logged of a program's `loop`. -/
def Program.loopLog (program : Program) : List LogLine :=
  program.automata.flatMap fun automaton =>
    match program.mode with
    | .single => automaton.log
    | .multi =>
      ⟨.trace, "Scheduling machine `" ++ automaton.stateType ++ "` every "
          ++ Text.decimal (automaton.period.getD 0).toNat ++ " ms"⟩ :: automaton.log

end Brickwork
