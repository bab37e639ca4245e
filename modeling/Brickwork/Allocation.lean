import Brickwork.Error
import Brickwork.Log

/-!
# Allocation of pins

Every brick gets its pin in three rounds. Pins that were asked for are claimed first. Then the pins
of a display are withheld. Last, each brick that has no pin yet takes the first free one of its
pool. A pin that is taken leaves every pool.
-/

namespace Brickwork

/-- How a brick is connected. -/
inductive Wiring where
  | pin (pin : Pin)
  | serial
  | lcd (pins : List Pin)
deriving DecidableEq, Inhabited

/-- The connection of one brick. -/
structure Entry where
  brick : Identifier
  category : Category
  wiring : Wiring
deriving DecidableEq, Inhabited

/-- The connections of all bricks, in order of declaration. -/
structure Allocation where
  entries : List Entry
deriving DecidableEq, Inhabited

namespace Allocation

/-- The connection of a brick. -/
def wiring? (allocation : Allocation) (brick : Identifier) : Option Wiring :=
  (allocation.entries.find? fun entry => entry.brick = brick).map Entry.wiring

/-- The pin of a brick. -/
def pin (allocation : Allocation) (brick : Identifier) : Except GenerationError Pin :=
  match allocation.wiring? brick with
  | some (.pin pin) => .ok pin
  | _ => .error (.unallocated brick)

end Allocation

/-- A pin that a brick has taken, from its pool unless it asked for it. -/
structure Claim where
  brick : Identifier
  pin : Pin
  pool : Option Pool
deriving DecidableEq, Inhabited

/-- The pins that are free, and those taken, latest first. -/
structure Bench where
  free : Pool → List Pin
  claims : List Claim

namespace Bench

/-- All pins of a board. -/
def full (board : Board) : Bench :=
  ⟨board.pool, []⟩

/-- Takes a pin out of every pool. -/
def withhold (bench : Bench) (pin : Pin) : Bench :=
  { bench with free := fun pool => (bench.free pool).filter fun other => other ≠ pin }

/-- Gives a pin to a brick. -/
def claim (bench : Bench) (claim : Claim) : Bench :=
  { bench.withhold claim.pin with claims := claim :: bench.claims }

/-- The pin that a brick has taken last. -/
def assigned? (bench : Bench) (brick : Identifier) : Option Pin :=
  (bench.claims.find? fun claim => claim.brick = brick).map Claim.pin

/-- The brick that has taken a pin. -/
def holder? (bench : Bench) (pin : Pin) : Option Identifier :=
  (bench.claims.find? fun claim => claim.pin = pin).map Claim.brick

/-- Why a brick cannot have the pin that it asks for, if it cannot. -/
def refusal (bench : Bench) (board : Board) (brick : Brick) (pin : Pin) : Option GenerationError :=
  match brick.category.pool with
  | none => some (.fixedWiring brick.name)
  | some pool =>
    if !board.hasPin pin then some (.invalidPin brick.name pin)
    else if !board.inPool pool pin then some (.incompatiblePin brick.name pin pool)
    else (bench.holder? pin).map fun first => .pinConflict pin first brick.name

/-- Claims the pins that bricks ask for, up to the first that is refused. -/
def claimManual (board : Board) : List Brick → Bench → Bench × Option GenerationError
  | [], bench => (bench, none)
  | brick :: rest, bench =>
    match brick.pin with
    | none => claimManual board rest bench
    | some pin =>
      match bench.refusal board brick pin with
      | some error => (bench, some error)
      | none => claimManual board rest (bench.claim ⟨brick.name, pin, none⟩)

/-- Gives each brick without a pin the first free one of its pool, up to the first that finds
none. -/
def claimAutomatic : List Brick → Bench → Bench × Option GenerationError
  | [], bench => (bench, none)
  | brick :: rest, bench =>
    match bench.assigned? brick.name, brick.category.pool with
    | none, some pool =>
      match bench.free pool with
      | [] => (bench, some (.exhausted brick.name pool))
      | pin :: _ => claimAutomatic rest (bench.claim ⟨brick.name, pin, some pool⟩)
    | _, _ => claimAutomatic rest bench

/-- The connection of a brick once all pins are given out. -/
def entry? (bench : Bench) (board : Board) (brick : Brick) : Option Entry :=
  match brick.category with
  | .serialLine _ => some ⟨brick.name, brick.category, .serial⟩
  | .lcdDisplay => some ⟨brick.name, brick.category, .lcd board.lcdWiring⟩
  | category => (bench.assigned? brick.name).map fun pin => ⟨brick.name, category, .pin pin⟩

end Bench

/-- How far the allocation of pins has come: what was taken, what was withheld for a display, and
why it stopped, if it did. -/
structure AllocationRun where
  bench : Bench
  withheld : List Pin
  error : Option GenerationError

namespace AllocationRun

/-- Runs the three rounds. -/
def ofBricks (bricks : List Brick) (board : Board) : AllocationRun :=
  match Bench.claimManual board bricks (Bench.full board) with
  | (bench, some error) => ⟨bench, [], some error⟩
  | (bench, none) =>
    let withheld :=
      if bricks.any fun brick => brick.category = .lcdDisplay then board.lcdWiring else []
    let (bench, error) := Bench.claimAutomatic bricks (withheld.foldl Bench.withhold bench)
    ⟨bench, withheld, error⟩

/-- What is logged of a claim. -/
def claimLog (claim : Claim) : LogLine where
  level := .debug
  message :=
    let source := match claim.pool with
      | some pool => pool.name ++ " pool"
      | none => "manual"
    claim.brick.text ++ " <- " ++ claim.pin.label ++ " (" ++ source ++ ")"

/-- What is logged of the run. -/
def log (run : AllocationRun) : List LogLine :=
  let claims := run.bench.claims.reverse
  (claims.filter fun claim => claim.pool.isNone).map claimLog
    ++ run.withheld.map (fun pin => ⟨.trace, pin.label ++ " reserved for LCD"⟩)
    ++ (claims.filter fun claim => claim.pool.isSome).map claimLog

end AllocationRun

/-- Connects every brick to the board. -/
def allocate (bricks : List Brick) (board : Board) : Except GenerationError Allocation :=
  let run := AllocationRun.ofBricks bricks board
  match run.error with
  | some error => .error error
  | none => .ok ⟨bricks.filterMap (run.bench.entry? board)⟩

end Brickwork
