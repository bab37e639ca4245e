import Brickwork.Proofs.Firmware.Statement

/-!
# Running firmware

What statements do. Variables hold names of states, flags, times and texts; times are counted modulo
`2 ^ 32`. Tests of times and flags are computed, and every other test is answered by an oracle. A
`switch` passes over its body until it finds the label it looks for, then runs on, past further
labels, until it is left.
-/

namespace Brickwork.Firmware

open Code

/-- What a variable holds. The names of states are apart from all other names. -/
inductive Value where
  | state (name : String)
  | flag (value : Bool)
  | time (value : UInt32)
  | text (content : String)
deriving DecidableEq

/-- The variables, and the calls that were made so far. -/
structure Memory where
  store : String → Value
  calls : List Term

/-- Changes a variable. -/
def Memory.write (memory : Memory) (target : String) (value : Value) : Memory :=
  { memory with store := fun name => if name = target then value else memory.store name }

/-- What a run depends on besides the memory: the time, which stands still meanwhile, and the
answers to tests of the outer world. -/
structure World where
  now : UInt32
  oracle : Term → Bool

namespace World

variable (world : World)

/-- The time that a term stands for, if it does. -/
def time? (memory : Memory) : Term → Option UInt32
  | .call function => if function = "millis" then some world.now else none
  | .word name =>
    match memory.store name with
    | .time value => some value
    | _ => none
  | .binary .minus left right =>
    match time? memory left, time? memory right with
    | some left, some right => some (left - right)
    | _, _ => none
  | _ => none

end World

/-- Whether a comparison holds between two times. -/
def compareTimes (comparison : Comparison) (left right : UInt32) : Bool :=
  match comparison with
  | .less => left < right
  | .lessEqual => left ≤ right
  | .greater => right < left
  | .greaterEqual => right ≤ left
  | .equal => left = right
  | .notEqual => left ≠ right

namespace World

variable (world : World)

/-- Whether a test holds. -/
def truth (memory : Memory) : Term → Bool
  | .binary (.connective .and) left right => truth memory left && truth memory right
  | .binary (.connective .or) left right => truth memory left || truth memory right
  | .binary (.comparison comparison) left right =>
    match world.time? memory left, world.time? memory right with
    | some left, some right => compareTimes comparison left right
    | _, _ => world.oracle (.binary (.comparison comparison) left right)
  | .word name =>
    match memory.store name with
    | .flag value => value
    | _ => world.oracle (.word name)
  | term => world.oracle term

/-- The value that a term gives to a variable, of the kind that the variable has. -/
def value? (memory : Memory) (target : String) (term : Term) : Option Value :=
  match memory.store target, term with
  | .state _, .word name => some (.state name)
  | .flag _, .word name =>
    if name = "true" then some (.flag true) else if name = "false" then some (.flag false) else none
  | .time _, term => (world.time? memory term).map .time
  | .text _, .text content => some (.text content)
  | _, _ => none

end World

/-- How a run goes on: it looks for a label, or runs, or has left its `switch`. -/
inductive Control where
  | seeking (label : String)
  | running
  | left
deriving DecidableEq

/-- Runs a statement. There is no result where a variable would get a value of another kind, or a
`switch` has no name of a state to look for. -/
def World.run (world : World) : Statement → Control × Memory → Option (Control × Memory)
  | .skip, place => some place
  | .seq first rest, place => (world.run first place).bind fun next => world.run rest next
  | .label name, (.seeking label, memory) =>
    some (if name = label then .running else .seeking label, memory)
  | .set target value, (.running, memory) =>
    (world.value? memory target value).map fun value => (.running, memory.write target value)
  | .run term,
      (.running, memory) => some (.running, { memory with calls := memory.calls ++ [term] })
  | .leave, (.running, memory) => some (.left, memory)
  | .branch test yes no, (.running, memory) =>
    if world.truth memory test then world.run yes (.running, memory)
    else world.run no (.running, memory)
  | .switch subject body, (.running, memory) =>
    match subject with
    | .word name =>
      match memory.store name with
      | .state label => (world.run body (.seeking label, memory)).map fun (_, memory) =>
        (.running, memory)
      | _ => none
    | _ => none
  -- nothing is done while a label is sought, nor once the `switch` is left
  | _, place => some place

namespace World

variable {world : World} {memory : Memory}

lemma run_block_cons (statement : Statement) (statements : List Statement)
    (place : Control × Memory) :
    world.run (.block (statement :: statements)) place =
      (world.run statement place).bind fun next => world.run (.block statements) next :=
  rfl

/-- Statements in a row are run one part after the other. -/
lemma run_block_append (first rest : List Statement) (place : Control × Memory) :
    world.run (.block (first ++ rest)) place =
      (world.run (.block first) place).bind fun next => world.run (.block rest) next := by
  induction first generalizing place with
  | nil => rfl
  | cons statement first ih =>
    rw [List.cons_append, run_block_cons, run_block_cons, Option.bind_assoc]
    congr
    funext next
    exact ih next

lemma run_set (world : World) {target : String} {term : Term} {value : Value}
    (computed : world.value? memory target term = some value) :
    world.run (.set target term) (.running, memory) =
      some (.running, memory.write target value) := by
  rw [World.run, computed, Option.map_some]

lemma run_left (statement : Statement) :
    world.run statement (.left, memory) = some (.left, memory) := by
  induction statement with
  | seq first rest ihf ihr => rw [World.run, ihf, Option.bind_some, ihr]
  | _ => rfl

/-- Calls in a row are made in order. -/
lemma run_calls (terms : List Term) :
    world.run (.block (terms.map .run)) (.running, memory) =
      some (.running, { memory with calls := memory.calls ++ terms }) := by
  induction terms generalizing memory with
  | nil => rw [List.append_nil]; rfl
  | cons term terms ih =>
    show world.run (.block (terms.map .run))
      (.running, { memory with calls := memory.calls ++ [term] }) = _
    rw [ih, List.append_assoc, List.singleton_append]

/-- The first branch whose test holds is run. -/
lemma run_chained (branches : List (Term × List Statement)) :
    world.run (.block (chained branches)) (.running, memory) =
      match branches.find? fun branch => world.truth memory branch.1 with
      | some branch => world.run (.block branch.2) (.running, memory)
      | none => some (.running, memory) := by
  cases branches with
  | nil => rfl
  | cons branch branches =>
    show (world.run (.chain _) _).bind some = _
    rw [Option.bind_fun_some]
    -- the induction ends at the chain without branches
    generalize branch :: branches = branches
    induction branches with
    | nil => rfl
    | cons branch branches ih =>
      show (if world.truth memory branch.1 then world.run (.block branch.2) (.running, memory)
        else world.run (.chain (branches.map fun branch => (branch.1, .block branch.2)))
          (.running, memory)) = _
      rw [List.find?_cons, ih]
      cases world.truth memory branch.1 <;> rfl

/-! ## Labels -/

/-- A statement that is passed over while a label is sought. -/
def Inert (world : World) (statement : Statement) : Prop :=
  ∀ label memory, world.run statement (.seeking label, memory) = some (.seeking label, memory)

lemma run_inert {statements : List Statement} (inert : ∀ s ∈ statements, world.Inert s)
    (label : String) :
    world.run (.block statements) (.seeking label, memory) = some (.seeking label, memory) := by
  induction statements with
  | nil => rfl
  | cons statement statements ih =>
    have first := inert statement List.mem_cons_self label memory
    have later := ih fun other mem => inert other (List.mem_cons_of_mem statement mem)
    rw [run_block_cons, first, Option.bind_some, later]

/-- Where the case of the label that is sought is left at its end, that case and no other is run. -/
lemma run_cases {cases : List (String × List Statement)} {label name : String}
    {body : List Statement} {after : Memory}
    (inert : ∀ case ∈ cases, ∀ s ∈ case.2, world.Inert s)
    (found : cases.find? (fun case => case.1 = label) = some (name, body))
    (run : world.run (.block body) (.running, memory) = some (.left, after)) :
    world.run (.block (cases.flatMap fun case => .label case.1 :: case.2))
      (.seeking label, memory) = some (.left, after) := by
  induction cases with
  | nil => cases found
  | cons other cases ih =>
    rw [List.find?_cons] at found
    rw [List.flatMap_cons, run_block_append, run_block_cons, World.run, Option.bind_some]
    by_cases same : other.1 = label
    -- the case is left at its end, so those behind it are passed over
    · simp only [same, decide_true] at found
      cases found
      rw [if_pos same, run, Option.bind_some, run_left]
    · simp only [same, decide_false] at found
      rw [if_neg same, run_inert (inert other List.mem_cons_self), Option.bind_some]
      exact ih (fun case mem => inert case (List.mem_cons_of_mem other mem)) found

end World

end Brickwork.Firmware
