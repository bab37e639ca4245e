import Brickwork.Allocation
import Mathlib.Data.List.Nodup
import Mathlib.Tactic.Common

/-!
# The bench

What the rounds of the allocation keep true of the bench. The pools always hold the pins of the
board, in the board's order, less those withheld and those claimed, and no pin is claimed twice. A
brick that has a pin keeps it through the last round, and after that round every brick with a pool
has one.

`Sound` is that invariant. Each operation on the bench preserves it (`Sound.full`, `Sound.withhold`,
`Sound.claim`), and so do the rounds (`Sound.withholdAll`, `Sound.claimManual`,
`Sound.claimAutomatic`).
-/

namespace Brickwork

namespace Bench

/-- The pins that are taken, latest first. -/
def pins (bench : Bench) : List Pin :=
  bench.claims.map Claim.pin

/-- The pools are those of the board less the pins withheld or claimed, and no pin is claimed
twice. -/
structure Sound (board : Board) (withheld : List Pin) (bench : Bench) : Prop where
  free : ∀ pool, bench.free pool =
    (board.pool pool).filter fun pin => pin ∉ withheld ∧ pin ∉ bench.pins
  nodup : bench.pins.Nodup

/-! ## Claims -/

@[simp] lemma pins_full (board : Board) : (full board).pins = [] := rfl

@[simp] lemma pins_withhold (bench : Bench) (pin : Pin) :
    (bench.withhold pin).pins = bench.pins := rfl

@[simp] lemma pins_claim (bench : Bench) (c : Claim) :
    (bench.claim c).pins = c.pin :: bench.pins := rfl

lemma assigned?_claim (bench : Bench) (c : Claim) (name : Identifier) :
    (bench.claim c).assigned? name =
      if c.brick = name then some c.pin else bench.assigned? name := by
  unfold assigned?
  by_cases same : c.brick = name
  · simp [claim, same]
  · simp [claim, withhold, same]

@[simp] lemma assigned?_withholdAll (bench : Bench) (pins : List Pin) (name : Identifier) :
    (pins.foldl withhold bench).assigned? name = bench.assigned? name := by
  induction pins generalizing bench with
  | nil => rfl
  | cons pin rest ih => exact ih (bench.withhold pin)

@[simp] lemma pins_withholdAll (bench : Bench) (withheld : List Pin) :
    (withheld.foldl withhold bench).pins = bench.pins := by
  induction withheld generalizing bench with
  | nil => rfl
  | cons pin rest ih => exact ih (bench.withhold pin)

lemma claim_of_assigned? {bench : Bench} {name pin} (h : bench.assigned? name = some pin) :
    ∃ c ∈ bench.claims, c.brick = name ∧ c.pin = pin := by
  obtain ⟨c, found, rfl⟩ := Option.map_eq_some_iff.mp h
  exact ⟨c, List.mem_of_find?_eq_some found, by simpa using List.find?_some found, rfl⟩

/-- A pin is claimed exactly if some brick holds it. -/
lemma holder?_eq_none {bench : Bench} {pin} : bench.holder? pin = none ↔ pin ∉ bench.pins := by
  simp only [holder?, Option.map_eq_none_iff, List.find?_eq_none, decide_eq_true_eq, pins,
    List.mem_map, not_exists, not_and]

/-! ## Single operations -/

lemma Sound.full (board : Board) : Sound board [] (Bench.full board) where
  free pool := by
    symm
    exact List.filter_eq_self.mpr (by simp)
  nodup := List.nodup_nil

lemma Sound.withhold {board withheld bench} (sound : Sound board withheld bench) (pin : Pin) :
    Sound board (withheld ++ [pin]) (bench.withhold pin) where
  free pool := by
    show (bench.free pool).filter _ = _
    rw [sound.free pool, List.filter_filter]
    apply List.filter_congr
    intro other _
    by_cases same : other = pin <;> simp [same]
  nodup := sound.nodup

/-- Claiming a pin that is not taken removes it from every pool. -/
lemma Sound.claim {board withheld bench} (sound : Sound board withheld bench) {c : Claim}
    (fresh : c.pin ∉ bench.pins) : Sound board withheld (bench.claim c) where
  free pool := by
    show (bench.free pool).filter _ = _
    rw [sound.free pool, List.filter_filter]
    apply List.filter_congr
    intro other _
    by_cases same : other = c.pin <;> simp [same]
  nodup := List.nodup_cons.mpr ⟨fresh, sound.nodup⟩

/-- A free pin belongs to its pool on the board, and is neither withheld nor taken. -/
lemma Sound.of_free {board withheld bench pool pin} (sound : Sound board withheld bench)
    (h : pin ∈ bench.free pool) : pin ∈ board.pool pool ∧ pin ∉ withheld ∧ pin ∉ bench.pins := by
  rw [sound.free pool, List.mem_filter] at h
  exact ⟨h.1, of_decide_eq_true h.2⟩

/-- The next pin of a pool is the first of the board's that is neither withheld nor taken. -/
lemma Sound.head?_free {board withheld bench} (sound : Sound board withheld bench) (pool : Pool) :
    (bench.free pool).head? =
      (board.pool pool).find? fun pin => pin ∉ withheld ∧ pin ∉ bench.pins := by
  rw [sound.free pool, List.head?_filter]

/-- Two bricks that have taken the same pin have the same name. -/
lemma Sound.name_of_pin {board withheld bench} (sound : Sound board withheld bench) {a b pin}
    (ha : bench.assigned? a = some pin) (hb : bench.assigned? b = some pin) : a = b := by
  -- both have a claim for the pin, and no two claims are for one pin
  obtain ⟨c, memc, rfl, pinc⟩ := claim_of_assigned? ha
  obtain ⟨d, memd, rfl, pind⟩ := claim_of_assigned? hb
  have same : c = d := List.inj_on_of_nodup_map sound.nodup memc memd (pinc.trans pind.symm)
  rw [same]

/-! ## What a brick does in a round -/

/-- In the first round a brick asks for nothing, is refused, or gets the pin that it asks for. -/
lemma claimManual_cons (board : Board) (brick : Brick) (rest : List Brick) (bench : Bench) :
    (brick.pin = none ∧
      claimManual board (brick :: rest) bench = claimManual board rest bench) ∨
    (∃ pin error, brick.pin = some pin ∧ bench.refusal board brick pin = some error ∧
      claimManual board (brick :: rest) bench = (bench, some error)) ∨
    (∃ pin, brick.pin = some pin ∧ bench.refusal board brick pin = none ∧
      claimManual board (brick :: rest) bench =
        claimManual board rest (bench.claim ⟨brick.name, pin, none⟩)) := by
  cases asked : brick.pin with
  | none =>
    refine .inl ⟨rfl, ?_⟩
    simp only [claimManual, asked]
  | some pin =>
    cases refused : bench.refusal board brick pin with
    | some error =>
      refine .inr (.inl ⟨pin, error, rfl, refused, ?_⟩)
      simp only [claimManual, asked, refused]
    | none =>
      refine .inr (.inr ⟨pin, rfl, refused, ?_⟩)
      simp only [claimManual, asked, refused]

/-- In the last round a brick is passed over, finds its pool empty, or takes the next pin of it. -/
lemma claimAutomatic_cons (brick : Brick) (rest : List Brick) (bench : Bench) :
    ((∀ pool, brick.category.pool = some pool → ∃ pin, bench.assigned? brick.name = some pin) ∧
      claimAutomatic (brick :: rest) bench = claimAutomatic rest bench) ∨
    (∃ pool, brick.category.pool = some pool ∧ bench.assigned? brick.name = none ∧
      bench.free pool = [] ∧
      claimAutomatic (brick :: rest) bench = (bench, some (.exhausted brick.name pool))) ∨
    (∃ pool pin others, brick.category.pool = some pool ∧ bench.assigned? brick.name = none ∧
      bench.free pool = pin :: others ∧
      claimAutomatic (brick :: rest) bench =
        claimAutomatic rest (bench.claim ⟨brick.name, pin, some pool⟩)) := by
  cases assigned : bench.assigned? brick.name with
  | some pin =>
    refine .inl ⟨fun _ _ => ⟨pin, rfl⟩, ?_⟩
    simp only [claimAutomatic, assigned]
  | none =>
    cases pooled : brick.category.pool with
    | none =>
      refine .inl ⟨nofun, ?_⟩
      simp only [claimAutomatic, assigned, pooled]
    | some pool =>
      cases left : bench.free pool with
      | nil =>
        refine .inr (.inl ⟨pool, rfl, rfl, left, ?_⟩)
        simp only [claimAutomatic, assigned, pooled, left]
      | cons pin others =>
        refine .inr (.inr ⟨pool, pin, others, rfl, rfl, left, ?_⟩)
        simp only [claimAutomatic, assigned, pooled, left]

lemma fresh_of_refusal {bench : Bench} {board brick pin}
    (h : bench.refusal board brick pin = none) : pin ∉ bench.pins := by
  unfold refusal at h
  split at h
  · cases h
  · split at h
    · cases h
    · split at h
      · cases h
      · exact holder?_eq_none.mp (Option.map_eq_none_iff.mp h)

/-! ## Rounds -/

lemma Sound.withholdAll {board withheld bench} (sound : Sound board withheld bench)
    (pins : List Pin) : Sound board (withheld ++ pins) (pins.foldl Bench.withhold bench) := by
  induction pins generalizing withheld bench with
  | nil => simpa using sound
  | cons pin rest ih =>
    have next := ih (sound.withhold pin)
    rwa [List.append_assoc] at next

lemma Sound.claimManual {board withheld bench} (sound : Sound board withheld bench)
    (bricks : List Brick) : Sound board withheld (Bench.claimManual board bricks bench).1 := by
  induction bricks generalizing bench with
  | nil => exact sound
  | cons brick rest ih =>
    obtain ⟨_, eq⟩ | ⟨_, _, _, _, eq⟩ | ⟨pin, _, accepted, eq⟩ :=
      claimManual_cons board brick rest bench
    · rw [eq]; exact ih sound
    · rw [eq]; exact sound
    · rw [eq]; exact ih (sound.claim (fresh_of_refusal accepted))

lemma Sound.claimAutomatic {board withheld bench} (sound : Sound board withheld bench)
    (bricks : List Brick) : Sound board withheld (Bench.claimAutomatic bricks bench).1 := by
  induction bricks generalizing bench with
  | nil => exact sound
  | cons brick rest ih =>
    obtain ⟨_, eq⟩ | ⟨_, _, _, _, eq⟩ | ⟨pool, pin, _, _, _, next, eq⟩ :=
      claimAutomatic_cons brick rest bench
    · rw [eq]; exact ih sound
    · rw [eq]; exact sound
    · have free : pin ∈ bench.free pool := by rw [next]; exact List.mem_cons_self
      rw [eq]; exact ih (sound.claim (sound.of_free free).2.2)

/-- A brick that has a pin keeps it through the last round. -/
lemma claimAutomatic_keeps {bench name pin} (h : bench.assigned? name = some pin)
    (bricks : List Brick) : (claimAutomatic bricks bench).1.assigned? name = some pin := by
  induction bricks generalizing bench with
  | nil => exact h
  | cons brick rest ih =>
    obtain ⟨_, eq⟩ | ⟨_, _, _, _, eq⟩ | ⟨pool, taken, _, _, unassigned, _, eq⟩ :=
      claimAutomatic_cons brick rest bench
    · rw [eq]; exact ih h
    · rw [eq]; exact h
    · -- the claim is for a brick without a pin, so not for this one
      have other : brick.name ≠ name := by
        rintro rfl
        rw [h] at unassigned
        cases unassigned
      rw [eq]
      apply ih
      rw [assigned?_claim, if_neg other, h]

/-- When the last round is through, every brick with a pool has a pin. -/
lemma claimAutomatic_total {bricks bench} (done : (claimAutomatic bricks bench).2 = none)
    {brick} (mem : brick ∈ bricks) {pool} (pooled : brick.category.pool = some pool) :
    ∃ pin, (claimAutomatic bricks bench).1.assigned? brick.name = some pin := by
  induction bricks generalizing bench with
  | nil => cases mem
  | cons first rest ih =>
    obtain ⟨passed, eq⟩ | ⟨_, _, _, _, eq⟩ | ⟨_, pin, _, _, _, _, eq⟩ :=
      claimAutomatic_cons first rest bench
    · rw [eq] at done ⊢
      cases mem with
      | head =>
        obtain ⟨pin, assigned⟩ := passed pool pooled
        exact ⟨pin, claimAutomatic_keeps assigned rest⟩
      | tail _ mem => exact ih done mem
    · rw [eq] at done
      cases done
    · rw [eq] at done ⊢
      cases mem with
      | head => exact ⟨pin, claimAutomatic_keeps (by rw [assigned?_claim, if_pos rfl]) rest⟩
      | tail _ mem => exact ih done mem

end Bench

/-! ## The three rounds together -/

/-- The pins that are withheld from automatic claims: those of a display, if there is one. -/
def withheldPins (bricks : List Brick) (board : Board) : List Pin :=
  if bricks.any fun brick => brick.category = .lcdDisplay then board.lcdWiring else []

/-- An allocation fails in the first round, fails in the last, or is read off the bench. -/
lemma allocate_cases (bricks : List Brick) (board : Board) :
    (∃ bench error, Bench.claimManual board bricks (Bench.full board) = (bench, some error) ∧
      allocate bricks board = .error error) ∨
    (∃ bench final error, Bench.claimManual board bricks (Bench.full board) = (bench, none) ∧
      Bench.claimAutomatic bricks ((withheldPins bricks board).foldl Bench.withhold bench) =
        (final, some error) ∧
      allocate bricks board = .error error) ∨
    (∃ bench final, Bench.claimManual board bricks (Bench.full board) = (bench, none) ∧
      Bench.claimAutomatic bricks ((withheldPins bricks board).foldl Bench.withhold bench) =
        (final, none) ∧
      allocate bricks board = .ok ⟨bricks.filterMap (final.entry? board)⟩) := by
  obtain ⟨bench, error, manual⟩ : ∃ bench error,
      Bench.claimManual board bricks (Bench.full board) = (bench, error) := ⟨_, _, rfl⟩
  cases error with
  | some error =>
    refine .inl ⟨bench, error, manual, ?_⟩
    simp only [allocate, AllocationRun.ofBricks, manual]
  | none =>
    obtain ⟨final, error, automatic⟩ : ∃ final error,
        Bench.claimAutomatic bricks ((withheldPins bricks board).foldl Bench.withhold bench) =
          (final, error) := ⟨_, _, rfl⟩
    -- with the first round through, the outcome is that of the last
    have run : AllocationRun.ofBricks bricks board =
        ⟨final, withheldPins bricks board, error⟩ := by
      unfold withheldPins at automatic ⊢
      simp only [AllocationRun.ofBricks, manual, automatic]
    cases error with
    | some error =>
      refine .inr (.inl ⟨bench, final, error, manual, automatic, ?_⟩)
      simp only [allocate, run]
    | none =>
      refine .inr (.inr ⟨bench, final, manual, automatic, ?_⟩)
      simp only [allocate, run]

end Brickwork
