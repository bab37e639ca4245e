import Brickwork.Sketch.Plan

/-!
# Guards in sketches

A guard becomes one test. Every binary node is put in parentheses, so the tree can be read off the
text. Each digital sensor in the guard adds a clause that holds only when the sensor's last
transition is long enough ago.
-/

namespace Brickwork

open Code

/-- The variable that holds when a sensor last took part in a transition. -/
def debounceVariable (sensor : Identifier) : String :=
  sensor.text ++ "LastDebounceTime"

/-- The test that a sensor's last transition is long enough ago. -/
def debounceTest (sensor : Identifier) : Expr :=
  .compare .greater (.binary .minus (.call "millis") (.name (debounceVariable sensor)))
    (.name "debounce")

/-- A guard, ready to stand in a sketch. -/
structure GuardTest where
  test : Expr
  /-- The sensors whose time is noted when the transition fires. -/
  debounced : List Identifier
  /-- Whether the guard reads the serial line. -/
  readsSerial : Bool
deriving DecidableEq, Inhabited

namespace Plan

/-- The test of a guard, without the clauses for its sensors. -/
def lower (plan : Plan) : Guard → Except GenerationError Expr
  | .condition condition => plan.condition condition
  | .binary left connective right => do
    let left ← plan.lower left
    let right ← plan.lower right
    return .group (.binary (.connective connective) left right)

/-- Whether a name is that of a digital sensor. -/
def isDigitalSensor (plan : Plan) (name : Identifier) : Bool :=
  match plan.category name with
  | .ok category => category = .digitalSensor
  | .error _ => false

/-- The distinct digital sensors of a guard, in order of appearance. -/
def debounced (plan : Plan) : Guard → List Identifier
  | .condition (.digital brick _) => if plan.isDigitalSensor brick then [brick] else []
  | .condition _ => []
  | .binary left _ right =>
    let sensors := plan.debounced left
    sensors ++ (plan.debounced right).filter fun sensor => sensor ∉ sensors

/-- The whole test of a guard. -/
def guardTest (plan : Plan) (guard : Guard) : Except GenerationError GuardTest := do
  let test ← plan.lower guard
  let debounced := plan.debounced guard
  return {
    test := debounced.foldl (fun test sensor => .conjoin test (.group (debounceTest sensor))) test
    debounced
    readsSerial := guard.conditions.any Condition.readsSerial }

end Plan

end Brickwork
