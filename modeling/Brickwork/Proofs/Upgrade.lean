import Brickwork.Proofs.Declarations
import Brickwork.Proofs.Footprint

/-!
# Moving to another board

A model that fits on one board fits on a larger one. Two runs of the allocation are compared step by
step.

Where the pools of the larger board only go on where those of the smaller one end, both runs hand
out the same pins. Where the pools are in another order the pins differ. But if each pool of the
larger board has all pins of its kind that the smaller board has, then after every step it has at
least as many left as the smaller board has of the whole kind, so no brick that finds a pin there is
left without one.
-/

namespace Brickwork

/-! ## Kinds of pins -/

/-- The pool of all pins of a kind: a pin with PWM is a digital pin. -/
def Pool.whole : Pool → Pool
  | digital | pwm => digital
  | analog => analog

/-- The pool of all pins of a pin's kind. -/
def Pin.whole : Pin → Pool
  | digital _ => .digital
  | analog _ => .analog

namespace Board

lemma nodup_pool (board : Board) (pool : Pool) : (board.pool pool).Nodup := by
  cases board <;> cases pool <;> decide

lemma pool_subset_whole (board : Board) (pool : Pool) :
    board.pool pool ⊆ board.pool pool.whole := by
  cases pool with
  | pwm => cases board <;> decide
  | digital => exact List.Subset.refl _
  | analog => exact List.Subset.refl _

lemma whole_of_mem (board : Board) (pool : Pool) :
    ∀ pin ∈ board.pool pool, pin.whole = pool.whole := by
  cases board <;> cases pool <;> decide

/-- Pools that share a pin are of one kind. -/
lemma whole_eq_of_mem {board : Board} {pool other : Pool} {pin : Pin} (mem : pin ∈ board.pool pool)
    (mem' : pin ∈ board.pool other) : pool.whole = other.whole := by
  rw [← board.whole_of_mem pool pin mem, board.whole_of_mem other pin mem']

end Board

namespace Bench

variable {small large : Board} {withheld withheld' : List Pin} {bench other : Bench}

/-! ## Pins that are asked for -/

/-- A brick gets the pin that it asks for exactly if the pin is in its pool and not taken. -/
lemma refusal_eq_none {board brick pin} :
    bench.refusal board brick pin = none ↔
      ∃ pool, brick.category.pool = some pool ∧ pin ∈ board.pool pool ∧ pin ∉ bench.pins := by
  rw [refusal, ← holder?_eq_none]
  cases brick.category.pool with
  | none => exact iff_of_false nofun nofun
  | some pool =>
    have known : pin ∈ board.pool pool → board.hasPin pin = true := by
      intro mem
      cases pool <;> simp [Board.hasPin, Board.inPool, Pool.all, mem]
    by_cases mem : pin ∈ board.pool pool
    · simp [known mem, Board.inPool, mem]
    · simp only [Board.inPool, List.contains_eq_mem, mem, decide_false, Bool.not_false, if_true]
      refine iff_of_false ?_ ?_
      · split <;> exact nofun
      · rintro ⟨_, ⟨⟩, mem', _⟩
        exact mem mem'

/-- A board with more pins in each pool grants all that bricks ask for, and in the same way. -/
lemma claimManual_of_more (more : ∀ pool, small.pool pool ⊆ large.pool pool) {bricks : List Brick}
    (same : other.claims = bench.claims) (done : (claimManual small bricks bench).2 = none) :
    (claimManual large bricks other).2 = none ∧
      (claimManual large bricks other).1.claims = (claimManual small bricks bench).1.claims := by
  induction bricks generalizing bench other with
  | nil => exact ⟨rfl, same⟩
  | cons brick rest ih =>
    obtain ⟨silent, eq⟩ | ⟨_, _, _, _, eq⟩ | ⟨pin, asked, accepted, eq⟩ :=
      claimManual_cons small brick rest bench
    · rw [eq] at done ⊢
      have eq' : claimManual large (brick :: rest) other = claimManual large rest other := by
        simp only [claimManual, silent]
      rw [eq']
      exact ih same done
    · rw [eq] at done
      cases done
    · rw [eq] at done ⊢
      have accepted' : other.refusal large brick pin = none := by
        obtain ⟨pool, pooled, mem, fresh⟩ := refusal_eq_none.mp accepted
        rw [pins, ← same] at fresh
        exact refusal_eq_none.mpr ⟨pool, pooled, more pool mem, fresh⟩
      have eq' : claimManual large (brick :: rest) other =
          claimManual large rest (other.claim ⟨brick.name, pin, none⟩) := by
        simp only [claimManual, asked, accepted']
      rw [eq']
      exact ih (congrArg (_ :: ·) same) done

/-! ## Pools that go on -/

/-- In the last round a brick is passed over if it needs no pin or has one. -/
lemma claimAutomatic_pass {brick : Brick} (rest : List Brick)
    (passed : ∀ pool, brick.category.pool = some pool → ∃ pin,
      bench.assigned? brick.name = some pin) :
    claimAutomatic (brick :: rest) bench = claimAutomatic rest bench := by
  obtain ⟨_, eq⟩ | ⟨pool, pooled, unassigned, _⟩ | ⟨pool, _, _, pooled, unassigned, _⟩ :=
    claimAutomatic_cons brick rest bench
  · exact eq
  all_goals
    obtain ⟨pin, assigned⟩ := passed pool pooled
    rw [unassigned] at assigned
    cases assigned

lemma assigned?_congr (same : other.claims = bench.claims) (name : Identifier) :
    other.assigned? name = bench.assigned? name := by
  rw [assigned?, assigned?, same]

/-- Where pools only go on, the next pin is the same as long as there is one. -/
lemma Sound.free_cons (longer : ∀ pool, small.pool pool <+: large.pool pool)
    (sound : Sound small withheld bench) (sound' : Sound large withheld other)
    (same : other.claims = bench.claims) {pool pin pins} (next : bench.free pool = pin :: pins) :
    ∃ pins', other.free pool = pin :: pins' := by
  have front : bench.free pool <+: other.free pool := by
    rw [sound.free, sound'.free, Bench.pins, Bench.pins, same]
    exact (longer pool).filter _
  rw [next] at front
  obtain ⟨more, eq⟩ := front
  exact ⟨pins ++ more, eq.symm⟩

/-- Where pools only go on, the last round gives out the same pins. -/
lemma Sound.claimAutomatic_of_longer (longer : ∀ pool, small.pool pool <+: large.pool pool)
    {bricks : List Brick} (sound : Sound small withheld bench) (sound' : Sound large withheld other)
    (same : other.claims = bench.claims) (done : (Bench.claimAutomatic bricks bench).2 = none) :
    (Bench.claimAutomatic bricks other).2 = none ∧
      (Bench.claimAutomatic bricks other).1.claims =
        (Bench.claimAutomatic bricks bench).1.claims := by
  induction bricks generalizing bench other with
  | nil => exact ⟨rfl, same⟩
  | cons brick rest ih =>
    have assigned := assigned?_congr same brick.name
    obtain ⟨passed, eq⟩ | ⟨_, _, _, _, eq⟩ | ⟨pool, pin, pins, pooled, unassigned, next, eq⟩ :=
      claimAutomatic_cons brick rest bench
    · rw [eq] at done ⊢
      rw [claimAutomatic_pass rest fun pool pooled => assigned ▸ passed pool pooled]
      exact ih sound sound' same done
    · rw [eq] at done
      cases done
    · obtain ⟨pins', next'⟩ := Sound.free_cons longer sound sound' same next
      have eq' : Bench.claimAutomatic (brick :: rest) other =
          Bench.claimAutomatic rest (other.claim ⟨brick.name, pin, some pool⟩) := by
        simp only [Bench.claimAutomatic, assigned, unassigned, pooled, next']
      have free : pin ∈ bench.free pool := next ▸ List.mem_cons_self
      have free' : pin ∈ other.free pool := next' ▸ List.mem_cons_self
      rw [eq] at done ⊢
      rw [eq']
      exact ih (sound.claim (sound.of_free free).2.2) (sound'.claim (sound'.of_free free').2.2)
        (congrArg (_ :: ·) same) done

/-! ## Pools with more room -/

/-- Two benches of which the second has given pins to the same bricks, and has at least as many left
in each pool as the first has of the kind. -/
structure Roomier (bench other : Bench) : Prop where
  same : ∀ name, other.assigned? name = none ↔ bench.assigned? name = none
  room : ∀ pool, (bench.free pool.whole).length ≤ (other.free pool).length

lemma Sound.nodup_free {board} (sound : Sound board withheld bench) (pool : Pool) :
    (bench.free pool).Nodup := by
  rw [sound.free]
  exact (board.nodup_pool pool).filter _

/-- A claim takes one pin from each pool that has it, and none from others. -/
lemma length_free_claim {c : Claim} {pool} (nodup : (bench.free pool).Nodup) :
    ((bench.claim c).free pool).length =
      if c.pin ∈ bench.free pool then (bench.free pool).length - 1
      else (bench.free pool).length := by
  have erased : (bench.claim c).free pool = (bench.free pool).erase c.pin := by
    rw [nodup.erase_eq_filter]
    exact List.filter_congr fun pin _ => by rw [Bool.eq_iff_iff]; simp
  rw [erased, List.length_erase]

/-- A free pin of a pool is free in the pool of the whole kind. -/
lemma Sound.free_whole {board pool pin} (sound : Sound board withheld bench)
    (free : pin ∈ bench.free pool) : pin ∈ bench.free pool.whole := by
  obtain ⟨mem, open'⟩ := sound.of_free free
  rw [sound.free, List.mem_filter]
  exact ⟨board.pool_subset_whole pool mem, decide_eq_true open'⟩

/-- When a brick takes a pin on each bench, the second still has more room: on the first a pin of
the kind is gone, and on the second at most one of each pool of the kind. -/
lemma Roomier.claim (roomier : Roomier bench other) (sound : Sound small withheld bench)
    (sound' : Sound large withheld' other) (name : Identifier) {pool pin pin'}
    (free : pin ∈ bench.free pool) (free' : pin' ∈ other.free pool) :
    Roomier (bench.claim ⟨name, pin, some pool⟩) (other.claim ⟨name, pin', some pool⟩) where
  same brick := by
    rw [assigned?_claim, assigned?_claim]
    split
    · exact iff_of_false nofun nofun
    · exact roomier.same brick
  room kind := by
    have room := roomier.room kind
    have left := length_free_claim (c := ⟨name, pin, some pool⟩) (sound.nodup_free kind.whole)
    have left' := length_free_claim (c := ⟨name, pin', some pool⟩) (sound'.nodup_free kind)
    by_cases own : pool.whole = kind.whole
    · have gone : pin ∈ bench.free kind.whole := own ▸ sound.free_whole free
      rw [if_pos gone] at left
      split at left' <;> omega
    · -- the pin of another kind is in none of these pools
      have kept : pin' ∉ other.free kind :=
        fun mem => own (Board.whole_eq_of_mem (sound'.of_free free').1 (sound'.of_free mem).1)
      rw [if_neg kept] at left'
      split at left <;> omega

/-- A bench with more room gets through the last round if the other does. -/
lemma Roomier.claimAutomatic (roomier : Roomier bench other) (sound : Sound small withheld bench)
    (sound' : Sound large withheld' other) {bricks : List Brick}
    (done : (Bench.claimAutomatic bricks bench).2 = none) :
    (Bench.claimAutomatic bricks other).2 = none := by
  induction bricks generalizing bench other with
  | nil => rfl
  | cons brick rest ih =>
    have same := roomier.same brick.name
    obtain ⟨passed, eq⟩ | ⟨_, _, _, _, eq⟩ | ⟨pool, pin, pins, pooled, unassigned, next, eq⟩ :=
      claimAutomatic_cons brick rest bench
    · rw [eq] at done
      have passed' : ∀ pool, brick.category.pool = some pool →
          ∃ pin, other.assigned? brick.name = some pin := by
        intro pool pooled
        obtain ⟨pin, known⟩ := passed pool pooled
        apply Option.ne_none_iff_exists'.mp
        rw [ne_eq, same, known]
        nofun
      rw [claimAutomatic_pass rest passed']
      exact ih roomier sound sound' done
    · rw [eq] at done
      cases done
    · rw [eq] at done
      have free : pin ∈ bench.free pool := next ▸ List.mem_cons_self
      have nonempty : other.free pool ≠ [] := by
        apply List.ne_nil_of_length_pos
        exact (List.length_pos_of_mem (sound.free_whole free)).trans_le (roomier.room pool)
      obtain ⟨pin', pins', next'⟩ := List.exists_cons_of_ne_nil nonempty
      have free' : pin' ∈ other.free pool := next' ▸ List.mem_cons_self
      have eq' : Bench.claimAutomatic (brick :: rest) other =
          Bench.claimAutomatic rest (other.claim ⟨brick.name, pin', Option.some pool⟩) := by
        simp only [Bench.claimAutomatic, same.mpr unassigned, pooled, next']
      rw [eq']
      exact ih (roomier.claim sound sound' brick.name free free')
        (sound.claim (sound.of_free free).2.2) (sound'.claim (sound'.of_free free').2.2) done

/-- With the same pins taken and withheld, a board whose pools have all pins of their kinds has more
room. -/
lemma Sound.roomier (covers : ∀ pool, small.pool pool.whole ⊆ large.pool pool)
    (sound : Sound small withheld bench) (sound' : Sound large withheld other)
    (same : other.claims = bench.claims) : Roomier bench other where
  same name := by rw [assigned?_congr same]
  room pool := by
    apply (List.subperm_of_subset (sound.nodup_free pool.whole) ?_).length_le
    rw [sound.free, sound'.free, Bench.pins, Bench.pins, same]
    exact List.filter_subset _ (covers pool)

end Bench

/-! ## Allocations -/

/-- The bench before the last round: what bricks ask for is claimed, and the pins of a display are
withheld. -/
def Bench.ofRequests (bricks : List Brick) (board : Board) : Bench :=
  (withheldPins bricks board).foldl Bench.withhold
    (Bench.claimManual board bricks (Bench.full board)).1

section Allocations

variable {small large : Board} {bricks : List Brick} {allocation : Allocation}

/-- Bricks are connected exactly if the first and the last round get through. -/
lemma allocate_eq_ok {board : Board} :
    allocate bricks board = .ok allocation ↔
      (Bench.claimManual board bricks (Bench.full board)).2 = none ∧
      (Bench.claimAutomatic bricks (Bench.ofRequests bricks board)).2 = none ∧
      allocation = ⟨bricks.filterMap
        (Bench.entry? (Bench.claimAutomatic bricks (Bench.ofRequests bricks board)).1 board)⟩ := by
  rw [Bench.ofRequests]
  obtain ⟨bench, error, manual, eq⟩ | ⟨bench, final, error, manual, automatic, eq⟩ |
    ⟨bench, final, manual, automatic, eq⟩ := allocate_cases bricks board
  · simp [manual, eq]
  · simp [manual, automatic, eq]
  · simp [manual, automatic, eq, eq_comm]

namespace Bench

lemma sound_ofRequests (bricks : List Brick) (board : Board) :
    Sound board (withheldPins bricks board) (ofRequests bricks board) := by
  have sound := ((Sound.full board).claimManual bricks).withholdAll (withheldPins bricks board)
  rwa [List.nil_append] at sound

lemma claims_withholdAll (bench : Bench) (withheld : List Pin) :
    (withheld.foldl withhold bench).claims = bench.claims := by
  induction withheld generalizing bench with
  | nil => rfl
  | cons pin rest ih => exact ih (bench.withhold pin)

/-- On a board with more pins in each pool the same requests are met. -/
lemma ofRequests_of_more (more : ∀ pool, small.pool pool ⊆ large.pool pool)
    (granted : (claimManual small bricks (full small)).2 = none) :
    (claimManual large bricks (full large)).2 = none ∧
      (ofRequests bricks large).claims = (ofRequests bricks small).claims := by
  have start : (full large).claims = (full small).claims := rfl
  rw [ofRequests, ofRequests, claims_withholdAll, claims_withholdAll]
  exact claimManual_of_more more start granted

lemma entry?_congr {bench other : Bench} (same : other.claims = bench.claims) :
    other.entry? large = bench.entry? small := by
  funext brick
  unfold entry?
  rw [assigned?_congr same]
  rfl

end Bench

/-- On a board whose pools go on where those of another end, bricks are connected as on the
other. -/
lemma allocate_of_longer (longer : ∀ pool, small.pool pool <+: large.pool pool)
    (h : allocate bricks small = .ok allocation) : allocate bricks large = .ok allocation := by
  obtain ⟨granted, done, rfl⟩ := allocate_eq_ok.mp h
  obtain ⟨granted', same⟩ := Bench.ofRequests_of_more (fun pool => (longer pool).subset) granted
  have sound := Bench.sound_ofRequests bricks small
  have sound' := Bench.sound_ofRequests bricks large
  obtain ⟨done', same'⟩ := sound.claimAutomatic_of_longer longer sound' same done
  refine allocate_eq_ok.mpr ⟨granted', done', ?_⟩
  rw [Bench.entry?_congr same']

/-- On a board each of whose pools has all pins of its kind that another board has, all bricks can
be connected that can be connected on the other. -/
lemma allocate_of_covers (covers : ∀ pool : Pool, small.pool pool.whole ⊆ large.pool pool)
    (h : allocate bricks small = .ok allocation) : ∃ other, allocate bricks large = .ok other := by
  obtain ⟨granted, done, _⟩ := allocate_eq_ok.mp h
  have more : ∀ pool, small.pool pool ⊆ large.pool pool :=
    fun pool => List.Subset.trans (small.pool_subset_whole pool) (covers pool)
  obtain ⟨granted', same⟩ := Bench.ofRequests_of_more more granted
  have sound := Bench.sound_ofRequests bricks small
  have sound' := Bench.sound_ofRequests bricks large
  have done' := (sound.roomier covers sound' same).claimAutomatic sound sound' done
  exact ⟨_, allocate_eq_ok.mpr ⟨granted', done', rfl⟩⟩

end Allocations

/-! ## Sketches -/

namespace Plan

/-- The plan for another board, with the same pins. -/
def on (plan : Plan) (board : Board) : Plan :=
  { plan with options := { plan.options with board } }

variable {plan : Plan} {board : Board}

/-- A sketch depends on the board only through its pins: all boards have the same wiring for a
display. -/
lemma items_on : (plan.on board).items = plan.items := by
  have wires : plan.Wires (plan.on board) := ⟨rfl, rfl⟩
  have switch := wires.switch
  have scheduled : (plan.on board).scheduled = plan.scheduled := by
    funext automaton
    rw [Plan.scheduled, Plan.scheduled, switch]
  have loop : (plan.on board).loop = plan.loop := by
    rw [Plan.loop, Plan.loop, switch, scheduled]
    rfl
  rw [items, items, loop]
  rfl

end Plan

/-- A model that fits on the smallest board has the same sketch on the next, and a model that fits
on any board has a sketch for the largest. -/
theorem generate_upgrade (app : App) (debounce : UInt32) :
    (∀ sketch, generate app ⟨.uno, debounce⟩ = .ok sketch →
      generate app ⟨.nano, debounce⟩ = .ok sketch) ∧
    ∀ board sketch, generate app ⟨board, debounce⟩ = .ok sketch →
      ∃ larger, generate app ⟨.mega, debounce⟩ = .ok larger := by
  have longer : ∀ pool, Board.uno.pool pool <+: Board.nano.pool pool := by
    intro pool
    cases pool <;> decide
  have covers : ∀ pool : Pool, Board.nano.pool pool.whole ⊆ Board.mega.pool pool := by
    intro pool
    cases pool <;> decide
  constructor
  · intro sketch generated
    obtain ⟨program, pins, items, resolved, allocated, made, rfl⟩ := generate_eq_ok.mp generated
    rw [← Plan.items_on] at made
    exact generate_eq_ok.mpr
      ⟨program, pins, items, resolved, allocate_of_longer longer allocated, made, rfl⟩
  · intro board sketch generated
    obtain ⟨program, pins, _, resolved, allocated, _⟩ := generate_eq_ok.mp generated
    have allocated' : ∃ pins, allocate app.bricks .mega = .ok pins := by
      cases board with
      | uno => exact allocate_of_covers covers (allocate_of_longer longer allocated)
      | nano => exact allocate_of_covers covers allocated
      | mega => exact ⟨pins, allocated⟩
    obtain ⟨pins', allocated'⟩ := allocated'
    obtain ⟨items, made⟩ :=
      (@Plan.ready_of_resolve _ ⟨.mega, debounce⟩ _ _ resolved allocated').items
    exact ⟨_, generate_eq_ok.mpr ⟨program, pins', items, resolved, allocated', made, rfl⟩⟩

/-- A model that leaves no digital pin of the smallest board free: a display, a lamp that asks for
one of the display's pins, and six parts on the pins that are left. -/
def crowded : App where
  name := "crowded"
  bricks := [⟨⟨"screen"⟩, none, .lcdDisplay⟩, ⟨⟨"lamp"⟩, some (.digital 3), .analogActuator⟩,
    ⟨⟨"button"⟩, none, .digitalSensor⟩, ⟨⟨"red"⟩, none, .analogActuator⟩,
    ⟨⟨"green"⟩, none, .analogActuator⟩, ⟨⟨"horn"⟩, none, .buzzer⟩, ⟨⟨"door"⟩, none, .digitalSensor⟩,
    ⟨⟨"lock"⟩, none, .digitalActuator⟩, ⟨⟨"air"⟩, some (.analog 5), .temperatureSensor⟩]
  initial := some ⟨"idle"⟩
  states := [⟨⟨"idle"⟩, [.analogWrite ⟨"red"⟩ (.sensor ⟨"air"⟩)], []⟩]

/-- The crowded model fits on all boards, with the same sketch on the first two; on the largest,
parts get other pins. -/
theorem generate_upgrade_crowded :
    (∃ sketch larger, generate crowded ⟨.uno, 200⟩ = .ok sketch ∧
      generate crowded ⟨.nano, 200⟩ = .ok sketch ∧ generate crowded ⟨.mega, 200⟩ = .ok larger) ∧
    (allocate crowded.bricks .nano).bind (·.pin ⟨"red"⟩) = .ok (.digital 9) ∧
    (allocate crowded.bricks .mega).bind (·.pin ⟨"red"⟩) = .ok (.digital 7) := by
  obtain ⟨items, made⟩ := (@Plan.ready_of_resolve crowded ⟨.uno, 200⟩ _ _ rfl rfl).items
  have generated : generate crowded ⟨.uno, 200⟩ = .ok (Code.render items) :=
    generate_eq_ok.mpr ⟨_, _, items, rfl, rfl, made, rfl⟩
  obtain ⟨same, fits⟩ := generate_upgrade crowded 200
  obtain ⟨larger, fits⟩ := fits _ _ generated
  exact ⟨⟨_, larger, generated, same _ generated, fits⟩, by decide, by decide⟩

end Brickwork
