import Brickwork.Proofs.Wiring

/-!
# Handing out pins without pools

The allocation in two plain steps, with no pool that changes. First the bricks that ask for a pin
are looked at in order, and the first that cannot have its pin is reported. Then every brick is
wired in order: to the pin that it asks for, or else to the first pin of its pool on the board that
no brick asks for, that no display occupies and that no earlier brick was given.

Where names are distinct this is what `allocate` computes. The two are compared round by round:
`claimManual_eq` for the pins that are asked for, `claimAutomatic_eq` for the rest.
-/

namespace Brickwork

namespace Handout

/-- Why a brick cannot have the pin that it asks for, given the bricks before it. -/
def fault (board : Board) (earlier : List Brick) (brick : Brick) : Option GenerationError :=
  match brick.pin with
  | none => none
  | some pin =>
    match brick.category.pool with
    | none => some (.fixedWiring brick.name)
    | some pool =>
      if ∀ other ∈ Pool.all, pin ∉ board.pool other then some (.invalidPin brick.name pin)
      else if pin ∉ board.pool pool then some (.incompatiblePin brick.name pin pool)
      else (earlier.find? fun other => other.pin = some pin).map fun first =>
        .pinConflict pin first.name brick.name

/-- The first fault of bricks that follow others. -/
def firstFault (board : Board) (earlier : List Brick) : List Brick → Option GenerationError
  | [] => none
  | brick :: rest =>
    match fault board earlier brick with
    | some error => some error
    | none => firstFault board (earlier ++ [brick]) rest

/-- The wiring of a category that has no pool. -/
def fixedWiring (board : Board) : Category → Wiring
  | .lcdDisplay => .lcd board.lcdWiring
  | _ => .serial

/-- Wires bricks in order; a brick that asks for no pin gets the first of its pool that is not
barred, and that pin is barred from then on. -/
def wire (board : Board) (barred : List Pin) : List Brick → Except GenerationError (List Entry)
  | [] => .ok []
  | brick :: rest =>
    match brick.category.pool, brick.pin with
    | none, _ =>
      (wire board barred rest).map
        (⟨brick.name, brick.category, fixedWiring board brick.category⟩ :: ·)
    | some _, some pin =>
      (wire board barred rest).map (⟨brick.name, brick.category, .pin pin⟩ :: ·)
    | some pool, none =>
      match (board.pool pool).find? fun pin => pin ∉ barred with
      | none => .error (.exhausted brick.name pool)
      | some pin =>
        (wire board (pin :: barred) rest).map (⟨brick.name, brick.category, .pin pin⟩ :: ·)

/-- The allocation by plain steps. -/
def allocate (bricks : List Brick) (board : Board) : Except GenerationError Allocation :=
  match firstFault board [] bricks with
  | some error => .error error
  | none =>
    (wire board (bricks.filterMap Brick.pin ++ withheldPins bricks board) bricks).map Allocation.mk

end Handout

/-- The claim of a brick for the pin that it asks for. -/
def Brick.request (brick : Brick) : Option Claim :=
  brick.pin.map fun pin => ⟨brick.name, pin, none⟩

/-! ## Pins that are asked for -/

namespace Bench

/-- The bench after the requests of some bricks were met: their claims, latest first. -/
def Met (bricks : List Brick) (bench : Bench) : Prop :=
  bench.claims = (bricks.filterMap Brick.request).reverse

lemma Met.pins {bricks bench} (met : Met bricks bench) :
    bench.pins = (bricks.filterMap Brick.pin).reverse := by
  have same : ∀ brick : Brick, brick.request.map Claim.pin = brick.pin := by
    intro brick
    unfold Brick.request
    rw [Option.map_map]
    exact Option.map_id_apply
  rw [Bench.pins, met, List.map_reverse, List.map_filterMap]
  simp only [same]

/-- The holder of a pin is the brick that asked for it. -/
lemma Met.holder? {bricks bench} (met : Met bricks bench) (nodup : bench.pins.Nodup) (pin : Pin) :
    bench.holder? pin = (bricks.find? fun brick => brick.pin = some pin).map Brick.name := by
  have nodup' : ((bricks.filterMap Brick.request).map Claim.pin).Nodup := by
    rw [Bench.pins, met, List.map_reverse] at nodup
    exact List.nodup_reverse.mp nodup
  have asks : ∀ brick : Brick,
      (brick.request.any fun c => c.pin = pin) = decide (brick.pin = some pin) := by
    intro brick
    unfold Brick.request
    cases brick.pin <;> simp
  rw [Bench.holder?, met, find?_key_reverse nodup', List.find?_filterMap]
  simp only [asks]
  cases found : bricks.find? (fun brick => brick.pin = some pin) with
  | none => rfl
  | some brick =>
    have asked : brick.pin = some pin := by simpa using List.find?_some found
    simp only [Option.bind_some, Brick.request, asked, Option.map_some]

/-- A brick whose request was met, or who asked for nothing, has just what it asked for. -/
lemma Met.assigned? {bricks bench} (met : Met bricks bench) (nodup : (bricks.map Brick.name).Nodup)
    {brick} (mem : brick ∈ bricks) : bench.assigned? brick.name = brick.pin := by
  -- the claims have the names of bricks, and so each name at most once
  have claimed : ∀ c ∈ bench.claims, ∃ other ∈ bricks, other.request = some c := by
    intro c mem
    rw [met, List.mem_reverse, List.mem_filterMap] at mem
    exact mem
  cases found : bench.assigned? brick.name with
  | some pin =>
    obtain ⟨c, mem', name, rfl⟩ := claim_of_assigned? found
    obtain ⟨other, memo, requested⟩ := claimed c mem'
    obtain ⟨pin, asked, rfl⟩ := Option.map_eq_some_iff.mp requested
    obtain rfl := List.inj_on_of_nodup_map nodup memo mem name
    exact asked.symm
  | none =>
    cases asked : brick.pin with
    | none => rfl
    | some pin =>
      have mem' : (⟨brick.name, pin, none⟩ : Claim) ∈ bench.claims := by
        rw [met, List.mem_reverse, List.mem_filterMap]
        exact ⟨brick, mem, by rw [Brick.request, asked]; rfl⟩
      have absent := List.find?_eq_none.mp (Option.map_eq_none_iff.mp found) _ mem'
      simp at absent

/-- A request is refused for the fault that the bricks before it leave it with. -/
lemma refusal_eq_fault {earlier bench} (met : Met earlier bench) (nodup : bench.pins.Nodup)
    (board : Board) {brick : Brick} {pin} (asked : brick.pin = some pin) :
    bench.refusal board brick pin = Handout.fault board earlier brick := by
  have offered : (!board.hasPin pin) = decide (∀ other ∈ Pool.all, pin ∉ board.pool other) := by
    simp [Board.hasPin, Board.inPool, Pool.all]
  unfold refusal Handout.fault
  rw [asked]
  cases brick.category.pool with
  | none => rfl
  | some pool =>
    have compatible : (!board.inPool pool pin) = decide (pin ∉ board.pool pool) := by
      simp [Board.inPool]
    simp only [offered, compatible, decide_eq_true_eq, met.holder? nodup, Option.map_map]
    rfl

/-- The first round stops at the first fault; without one it meets every request. -/
lemma claimManual_eq {earlier bench} (met : Met earlier bench) {board withheld}
    (sound : Sound board withheld bench) (bricks : List Brick) :
    (claimManual board bricks bench).2 = Handout.firstFault board earlier bricks ∧
    ((claimManual board bricks bench).2 = none →
      Met (earlier ++ bricks) (claimManual board bricks bench).1) := by
  induction bricks generalizing earlier bench with
  | nil =>
    refine ⟨rfl, fun _ => ?_⟩
    rw [List.append_nil]
    exact met
  | cons brick rest ih =>
    have after : earlier ++ brick :: rest = earlier ++ [brick] ++ rest := by simp
    obtain ⟨asked, eq⟩ | ⟨pin, error, asked, refused, eq⟩ | ⟨pin, asked, accepted, eq⟩ :=
      claimManual_cons board brick rest bench
    · have met' : Met (earlier ++ [brick]) bench := by
        rw [Met, List.filterMap_append, met]
        simp [Brick.request, asked]
      have fine : Handout.fault board earlier brick = none := by simp only [Handout.fault, asked]
      obtain ⟨same, later⟩ := ih met' sound
      rw [eq, after]
      refine ⟨?_, later⟩
      rw [same, Handout.firstFault, fine]
    · have faulty := refused
      rw [refusal_eq_fault met sound.nodup board asked] at faulty
      rw [eq]
      refine ⟨?_, nofun⟩
      rw [Handout.firstFault, faulty]
    · have fine := accepted
      rw [refusal_eq_fault met sound.nodup board asked] at fine
      have met' : Met (earlier ++ [brick]) (bench.claim ⟨brick.name, pin, none⟩) := by
        rw [Met, List.filterMap_append, List.reverse_append, ← met]
        simp [Brick.request, asked, claim]
      obtain ⟨same, later⟩ := ih met' (sound.claim (fresh_of_refusal accepted))
      rw [eq, after]
      refine ⟨?_, later⟩
      rw [same, Handout.firstFault, fine]

/-! ## Pins from the pools -/

lemma entry?_eq_fixedWiring (bench : Bench) (board : Board) {brick : Brick}
    (fixed : brick.category.pool = none) :
    bench.entry? board brick =
      some ⟨brick.name, brick.category, Handout.fixedWiring board brick.category⟩ := by
  cases category : brick.category with
  | serialLine baud => simp only [category, entry?, Handout.fixedWiring]
  | lcdDisplay => simp only [category, entry?, Handout.fixedWiring]
  | _ => rw [category] at fixed; cases fixed

/-- What a round comes to: the error that stopped it, or the entries of the bricks. -/
def outcome (board : Board) (bricks : List Brick) :
    Bench × Option GenerationError → Except GenerationError (List Entry)
  | (_, some error) => .error error
  | (final, none) => .ok (bricks.filterMap (Bench.entry? final board))

/-- A brick that is connected adds its entry in front of those of the bricks after it. -/
lemma outcome_cons {board run brick entry} (rest : List Brick)
    (connected : Bench.entry? run.1 board brick = some entry) :
    outcome board (brick :: rest) run = (outcome board rest run).map (entry :: ·) := by
  obtain ⟨final, error⟩ := run
  cases error with
  | some error => rfl
  | none => simp only [outcome, List.filterMap_cons_some connected, Except.map]

/-- What holds before the last round gets to the bricks that are left: just the pins that are barred
are gone from the pools, and the bricks have what they ask for. -/
structure Ahead (board : Board) (withheld barred : List Pin) (bricks : List Brick) (bench : Bench) :
    Prop where
  sound : Sound board withheld bench
  bars : ∀ pin, pin ∈ barred ↔ pin ∈ withheld ∨ pin ∈ bench.pins
  nodup : (bricks.map Brick.name).Nodup
  asked : ∀ brick ∈ bricks, bench.assigned? brick.name = brick.pin

section Ahead

variable {board : Board} {withheld barred : List Pin} {brick : Brick} {rest : List Brick}
  {bench : Bench}

/-- The next pin of a pool is the first that is not barred. -/
lemma Ahead.next {bricks} (ahead : Ahead board withheld barred bricks bench) (pool : Pool) :
    ((board.pool pool).find? fun pin => pin ∉ barred) = (bench.free pool).head? := by
  rw [ahead.sound.head?_free]
  congr 1
  funext pin
  simp only [ahead.bars, not_or]

lemma Ahead.pass (ahead : Ahead board withheld barred (brick :: rest) bench) :
    Ahead board withheld barred rest bench where
  sound := ahead.sound
  bars := ahead.bars
  nodup := (List.nodup_cons.mp ahead.nodup).2
  asked other mem := ahead.asked other (List.mem_cons_of_mem brick mem)

/-- A pin that is claimed is barred from then on. -/
lemma Ahead.claim (ahead : Ahead board withheld barred (brick :: rest) bench) {pool pin others}
    (left : bench.free pool = pin :: others) :
    Ahead board withheld (pin :: barred) rest (bench.claim ⟨brick.name, pin, some pool⟩) where
  sound := by
    have free : pin ∈ bench.free pool := left ▸ List.mem_cons_self
    exact ahead.sound.claim (ahead.sound.of_free free).2.2
  bars other := by
    rw [List.mem_cons, ahead.bars, pins_claim, List.mem_cons]
    exact or_left_comm
  nodup := ahead.pass.nodup
  asked other mem := by
    -- the claim is made for a brick of another name
    have distinct : brick.name ≠ other.name := by
      intro same
      exact (List.nodup_cons.mp ahead.nodup).1 (same ▸ List.mem_map_of_mem mem)
    rw [assigned?_claim, if_neg distinct, ahead.pass.asked other mem]

end Ahead

/-- The last round wires the bricks in order, each brick that asks for no pin to the first pin of
its pool that is not barred. -/
lemma claimAutomatic_eq {board withheld bench barred bricks}
    (ahead : Ahead board withheld barred bricks bench) :
    Handout.wire board barred bricks = outcome board bricks (claimAutomatic bricks bench) := by
  induction bricks generalizing bench barred with
  | nil => rfl
  | cons brick rest ih =>
    have asked := ahead.asked brick List.mem_cons_self
    obtain ⟨passed, eq⟩ | ⟨pool, pooled, unassigned, left, eq⟩ |
      ⟨pool, pin, others, pooled, unassigned, left, eq⟩ := claimAutomatic_cons brick rest bench
    · have later := ih ahead.pass
      rw [eq]
      cases pooled : brick.category.pool with
      | none =>
        rw [outcome_cons rest (entry?_eq_fixedWiring _ board pooled), ← later]
        simp only [Handout.wire, pooled]
      | some pool =>
        obtain ⟨pin, assigned⟩ := passed pool pooled
        have connected := entry?_assigned board pooled (claimAutomatic_keeps assigned rest)
        rw [assigned] at asked
        rw [outcome_cons rest connected, ← later]
        simp only [Handout.wire, pooled, ← asked]
    · rw [unassigned] at asked
      rw [eq, outcome]
      simp only [Handout.wire, pooled, ← asked, ahead.next pool, left, List.head?_nil]
    · have assigned : (bench.claim ⟨brick.name, pin, some pool⟩).assigned? brick.name =
          some pin := by
        rw [assigned?_claim, if_pos rfl]
      have later := ih (ahead.claim left)
      have connected := entry?_assigned board pooled (claimAutomatic_keeps assigned rest)
      rw [unassigned] at asked
      rw [eq, outcome_cons rest connected, ← later]
      simp only [Handout.wire, pooled, ← asked, ahead.next pool, left, List.head?_cons]

end Bench

/-- Where names are distinct, the three rounds on shrinking pools come to the same as handing out
the pins by plain steps: the first fault among the pins asked for, in order, or else every brick
wired to the pin that it asks for or to the first pin of its pool that nobody asks for, no display
occupies and no earlier brick was given. -/
theorem allocate_eq_handout {bricks : List Brick} (board : Board)
    (nodup : (bricks.map Brick.name).Nodup) :
    allocate bricks board = Handout.allocate bricks board := by
  have start : Bench.Met [] (Bench.full board) := rfl
  obtain ⟨fault, requests⟩ := Bench.claimManual_eq start (Bench.Sound.full board) bricks
  have claimed := (Bench.Sound.full board).claimManual bricks
  -- what the last round comes to, once the first one is through
  have automatic : ∀ bench,
      Bench.claimManual board bricks (Bench.full board) = (bench, none) →
      Handout.wire board (bricks.filterMap Brick.pin ++ withheldPins bricks board) bricks =
        Bench.outcome board bricks (Bench.claimAutomatic bricks
          ((withheldPins bricks board).foldl Bench.withhold bench)) := by
    intro bench manual
    rw [manual] at requests claimed
    have met := requests rfl
    have bars : ∀ pin, pin ∈ bricks.filterMap Brick.pin ++ withheldPins bricks board ↔
        pin ∈ [] ++ withheldPins bricks board ∨
          pin ∈ ((withheldPins bricks board).foldl Bench.withhold bench).pins := by
      intro pin
      rw [Bench.pins_withholdAll, met.pins, List.mem_reverse, List.mem_append, List.nil_append]
      exact or_comm
    have asked : ∀ brick ∈ bricks,
        ((withheldPins bricks board).foldl Bench.withhold bench).assigned?
        brick.name = brick.pin := by
      intro brick mem
      rw [Bench.assigned?_withholdAll, met.assigned? nodup mem]
    exact Bench.claimAutomatic_eq ⟨claimed.withholdAll (withheldPins bricks board), bars,
      nodup, asked⟩
  unfold Handout.allocate
  obtain ⟨bench, error, manual, eq⟩ | ⟨bench, final, error, manual, run, eq⟩ |
    ⟨bench, final, manual, run, eq⟩ := allocate_cases bricks board
  · rw [manual] at fault
    rw [eq, ← fault]
  · have wired := automatic bench manual
    rw [run] at wired
    rw [manual] at fault
    rw [eq, ← fault, wired]
    rfl
  · have wired := automatic bench manual
    rw [run] at wired
    rw [manual] at fault
    rw [eq, ← fault, wired]
    rfl

/-- A pin asked for later is left to the brick that asks for it, and a display's pins to the
display. -/
theorem allocate_eq_handout_panel :
    allocate [⟨⟨"button"⟩, none, .digitalSensor⟩, ⟨⟨"screen"⟩, none, .lcdDisplay⟩,
        ⟨⟨"lamp"⟩, some (.digital 6), .digitalActuator⟩] .uno =
      .ok ⟨[⟨⟨"button"⟩, .digitalSensor, .pin (.digital 7)⟩,
        ⟨⟨"screen"⟩, .lcdDisplay, .lcd (Board.lcdWiring .uno)⟩,
        ⟨⟨"lamp"⟩, .digitalActuator, .pin (.digital 6)⟩]⟩ := by
  rw [allocate_eq_handout .uno (by decide)]
  decide

end Brickwork
