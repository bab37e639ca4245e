import Brickwork.Proofs.Handout
import Brickwork.Proofs.Upgrade

/-!
# Extension

Bricks that are declared behind others, ask for no pin and are no displays leave the others where
they are. The first two rounds do not see them, and the last round comes to them when the others are
done: what it gives out to them was left over.
-/

namespace Brickwork

namespace Bench

variable {board : Board} {bricks more : List Brick} {bench : Bench}

/-! ## Rounds -/

lemma claimManual_plain (plain : ∀ brick ∈ more, brick.pin = none) :
    claimManual board more bench = (bench, none) := by
  induction more with
  | nil => rfl
  | cons brick more ih =>
    obtain ⟨first, rest⟩ := List.forall_mem_cons.mp plain
    rw [claimManual, first]
    exact ih rest

/-- Bricks that ask for nothing do not show in the first round. -/
lemma claimManual_append (plain : ∀ brick ∈ more, brick.pin = none) :
    claimManual board (bricks ++ more) bench = claimManual board bricks bench := by
  induction bricks generalizing bench with
  | nil => exact claimManual_plain plain
  | cons brick bricks ih =>
    rw [List.cons_append, claimManual, claimManual]
    cases brick.pin with
    | none => exact ih
    | some pin =>
      dsimp only
      cases bench.refusal board brick pin with
      | none => exact ih
      | some error => rfl

/-- The last round stops among the first bricks or goes on with the others. -/
lemma claimAutomatic_append :
    claimAutomatic (bricks ++ more) bench = match (claimAutomatic bricks bench).2 with
      | none => claimAutomatic more (claimAutomatic bricks bench).1
      | some _ => claimAutomatic bricks bench := by
  induction bricks generalizing bench with
  | nil => rfl
  | cons brick bricks ih =>
    rw [List.cons_append, claimAutomatic, claimAutomatic]
    split
    · split
      · rfl
      · exact ih
    · exact ih

/-- Without further requests and displays, the last round starts from the same bench. -/
lemma ofRequests_append (plain : ∀ brick ∈ more, brick.pin = none ∧ brick.category ≠ .lcdDisplay) :
    ofRequests (bricks ++ more) board = ofRequests bricks board := by
  have displayless : (more.any fun brick => brick.category = .lcdDisplay) = false := by
    rw [List.any_eq_false]
    intro brick mem
    rw [decide_eq_true_eq]
    exact (plain brick mem).2
  have withheld : withheldPins (bricks ++ more) board = withheldPins bricks board := by
    rw [withheldPins, withheldPins, List.any_append, displayless, Bool.or_false]
  rw [ofRequests, ofRequests, withheld, claimManual_append fun brick mem => (plain brick mem).1]

/-- A brick that is connected stays so in what comes after. -/
lemma entry?_claimAutomatic (done : (claimAutomatic bricks bench).2 = none) {brick}
    (mem : brick ∈ bricks) :
    entry? (claimAutomatic more (claimAutomatic bricks bench).1).1 board brick =
      entry? (claimAutomatic bricks bench).1 board brick := by
  cases pooled : brick.category.pool with
  | none =>
    -- the name of such a brick may be claimed later, but its wiring does not depend on that
    rw [entry?_eq_fixedWiring _ board pooled, entry?_eq_fixedWiring _ board pooled]
  | some pool =>
    obtain ⟨pin, assigned⟩ := claimAutomatic_total done mem pooled
    rw [entry?_assigned board pooled assigned,
      entry?_assigned board pooled (claimAutomatic_keeps assigned more)]

end Bench

/-! ## Allocations -/

section Allocations

variable {board : Board} {bricks more : List Brick}

/-- Bricks cannot be connected exactly if the first round fails, or the last one after it. -/
lemma allocate_eq_error {error : GenerationError} :
    allocate bricks board = .error error ↔
      (Bench.claimManual board bricks (Bench.full board)).2 = some error ∨
      ((Bench.claimManual board bricks (Bench.full board)).2 = none ∧
        (Bench.claimAutomatic bricks (Bench.ofRequests bricks board)).2 = some error) := by
  rw [Bench.ofRequests]
  obtain ⟨bench, other, manual, eq⟩ | ⟨bench, final, other, manual, automatic, eq⟩ |
    ⟨bench, final, manual, automatic, eq⟩ := allocate_cases bricks board
  · simp [manual, eq]
  · simp [manual, automatic, eq]
  · simp [manual, automatic, eq]

/-- Bricks that are added behind others, without pins of their own and without displays, do not
change what the others get: neither their entries nor the error, if they cannot be connected. -/
theorem allocate_append (plain : ∀ brick ∈ more, brick.pin = none ∧ brick.category ≠ .lcdDisplay) :
    (∀ allocation, allocate (bricks ++ more) board = .ok allocation →
      allocate bricks board = .ok ⟨allocation.entries.take bricks.length⟩) ∧
    ∀ error, allocate bricks board = .error error →
      allocate (bricks ++ more) board = .error error := by
  have manual : Bench.claimManual board (bricks ++ more) (Bench.full board) =
      Bench.claimManual board bricks (Bench.full board) :=
    Bench.claimManual_append fun brick mem => (plain brick mem).1
  constructor
  · intro allocation h
    rw [allocate_eq_ok, Bench.ofRequests_append plain, manual, Bench.claimAutomatic_append] at h
    cases stopped : (Bench.claimAutomatic bricks (Bench.ofRequests bricks board)).2 with
    | some error =>
      rw [stopped] at h
      cases stopped.symm.trans h.2.1
    | none =>
      rw [stopped] at h
      obtain ⟨granted, _, rfl⟩ := h
      have first := allocate_eq_ok.mpr ⟨granted, stopped, rfl⟩
      have length := (allocate_connects first).length_eq
      rw [first, List.filterMap_append,
        List.filterMap_congr fun brick mem => Bench.entry?_claimAutomatic stopped mem,
        List.take_left' length.symm]
  · intro error h
    rw [allocate_eq_error, Bench.ofRequests_append plain, manual, Bench.claimAutomatic_append]
    rcases allocate_eq_error.mp h with refused | ⟨granted, exhausted⟩
    · exact Or.inl refused
    · refine Or.inr ⟨granted, ?_⟩
      rw [exhausted]
      exact exhausted

end Allocations

/-- Bricks for a doorway, among them a lamp that is declared twice and asks for a pin the second
time. -/
def doorway : List Brick :=
  [⟨⟨"lamp"⟩, none, .digitalActuator⟩, ⟨⟨"lamp"⟩, some (.digital 9), .analogActuator⟩,
    ⟨⟨"screen"⟩, none, .lcdDisplay⟩, ⟨⟨"wire"⟩, none, .serialLine 9600⟩, ⟨⟨"bell"⟩, none, .buzzer⟩]

/-- More sensors than the smallest board has analog pins. -/
def station : List Brick :=
  ["soil", "light", "wind", "rain", "water", "roof", "door"].map fun name =>
    ⟨⟨name⟩, none, .analogSensor⟩

/-- Bricks to be added, two of them under names of the doorway. -/
def additions : List Brick :=
  ["wire", "lamp", "gate"].map fun name => ⟨⟨name⟩, none, .digitalSensor⟩

/-- The doorway stays as it was when the bricks are added, and the station does not fit either
way. -/
theorem allocate_append_doorway :
    (∃ allocation, allocate (doorway ++ additions) .uno = .ok allocation ∧
      allocation.wiring? ⟨"gate"⟩ = some (.pin (.digital 8)) ∧
      allocate doorway .uno = .ok ⟨allocation.entries.take 5⟩) ∧
    allocate station .uno = .error (.exhausted ⟨"door"⟩ .analog) ∧
    allocate (station ++ additions) .uno = .error (.exhausted ⟨"door"⟩ .analog) := by
  have plain : ∀ brick ∈ additions, brick.pin = none ∧ brick.category ≠ .lcdDisplay := by decide
  have full : allocate station .uno = .error (.exhausted ⟨"door"⟩ .analog) := by decide
  refine ⟨⟨_, rfl, by decide, ?_⟩, full, (allocate_append plain).2 _ full⟩
  exact (allocate_append plain).1 _ rfl

end Brickwork
