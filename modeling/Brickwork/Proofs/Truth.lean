import Brickwork.Proofs.Document.Spelling
import Brickwork.Proofs.Moments

/-!
# What tests of guards mean

The test made for a guard, read back from its text, holds exactly if the guard does and the last
transition of each of its digital sensors is long enough ago. This is so for any answers to the
conditions and for any times in the variables; the memory only has to hold times and texts where the
sketch declares them.

By the precedence of operators the tokens of a test are always read as meant. That its text has
these tokens takes names that are words; programs have such names, as their models are loaded from
documents.
-/

namespace Brickwork

open Code Firmware

/-- A memory that holds a text for the line, the least time between transitions, and for each of
some sensors when it last took part in one. -/
structure Firmware.Memory.Timed (memory : Memory) (debounce : UInt32) (stamps : Identifier → UInt32)
    (sensors : List Identifier) : Prop where
  line : ∃ content, memory.store "serialInput" = .text content
  debounce : memory.store "debounce" = .time debounce
  stamps : ∀ sensor ∈ sensors, memory.store (debounceVariable sensor) = .time (stamps sensor)

namespace Plan

variable {plan : Plan} {world : World} {memory : Memory} {debounce : UInt32}
  {stamps : Identifier → UInt32} {sensors : List Identifier}

/-- What is asked of the world for a condition is the term of its test. -/
lemma asked?_eq {condition test} (h : plan.condition condition = .ok test) :
    plan.asked? condition = some test.term := by
  obtain ⟨spelled, fits⟩ := legible_condition h
  have readable : test.Readable := ⟨spelled, fits.mono (by decide) (by decide)⟩
  simp only [asked?, h, readable.readTerm]

/-- The test of a condition is left to the world. -/
lemma truth_condition (timed : memory.Timed debounce stamps sensors) {condition test}
    (h : plan.condition condition = .ok test) :
    world.truth memory test.term = (plan.asked? condition).any world.oracle := by
  rw [asked?_eq h, Option.any_some]
  obtain ⟨comparison, function, pin, limit, rfl, _⟩ | ⟨message, rfl⟩ := condition_cases h
  · rfl
  · obtain ⟨content, line⟩ := timed.line
    have unknown : world.time? memory (.word "serialInput") = none := by
      simp only [World.time?, line]
    show world.truth _ (.binary (.comparison .equal) (.word "serialInput") (.text message)) = _
    rw [World.truth, unknown]
    rfl

/-- The test of a guard holds exactly if the guard does. -/
lemma truth_lower (timed : memory.Timed debounce stamps sensors) {guard test}
    (h : plan.lower guard = .ok test) :
    world.truth memory test.term =
      guard.holds fun condition => (plan.asked? condition).any world.oracle := by
  induction guard generalizing test with
  | condition condition => exact truth_condition timed h
  | binary left connective right ihl ihr =>
    obtain ⟨testl, lowered, h⟩ := bind_eq_ok.mp h
    have left := ihl lowered
    obtain ⟨testr, lowered, h⟩ := bind_eq_ok.mp h
    have right := ihr lowered
    cases h
    cases connective with
    | and => exact congrArg₂ and left right
    | or => exact congrArg₂ or left right

/-- The clause of a sensor holds exactly if its last transition is long enough ago. -/
lemma truth_debounceTest (timed : memory.Timed debounce stamps sensors) {sensor : Identifier}
    (mem : sensor ∈ sensors) :
    world.truth memory (debounceTest sensor).term =
      decide (debounce < world.now - stamps sensor) := by
  have stamp : world.time? memory (.word (debounceVariable sensor)) = some (stamps sensor) := by
    simp only [World.time?, timed.stamps sensor mem]
  have limit : world.time? memory (.word "debounce") = some debounce := by
    simp only [World.time?, timed.debounce]
  have passed : world.time? memory
      (.binary .minus (.call "millis") (.word (debounceVariable sensor))) =
        some (world.now - stamps sensor) := by
    rw [World.time?, stamp]
    rfl
  show world.truth _ (.binary (.comparison .greater)
    (.binary .minus (.call "millis") (.word (debounceVariable sensor))) (.word "debounce")) = _
  rw [World.truth, passed, limit]
  rfl

/-- A test with the clauses of sensors behind it holds exactly if it holds and the last transitions
of all sensors are long enough ago. -/
lemma truth_clauses (timed : memory.Timed debounce stamps sensors) (test : Expr) :
    world.truth memory
        (sensors.foldl
          (fun test sensor => .conjoin test (.group (debounceTest sensor))) test).term =
      (world.truth memory test.term &&
        sensors.all fun sensor => debounce < world.now - stamps sensor) := by
  -- the clauses come one by one behind the test, which grows meanwhile
  induction sensors generalizing test with
  | nil => rw [List.foldl_nil, List.all_nil, Bool.and_true]
  | cons sensor sensors ih =>
    have first : world.truth memory (debounceTest sensor).term =
        decide (debounce < world.now - stamps sensor) :=
      truth_debounceTest timed List.mem_cons_self
    have later := ih ⟨timed.line, timed.debounce,
      fun other mem => timed.stamps other (List.mem_cons_of_mem sensor mem)⟩
    rw [List.foldl_cons, later, List.all_cons, ← Bool.and_assoc, ← first]
    rfl

end Plan

end Brickwork
