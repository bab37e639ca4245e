import Brickwork.Proofs.Extension

/-!
# The two sides of a board

A pin is digital or analog, and so is every pool. The bricks on analog pins and all the others
therefore never get in each other's way: they can be connected together exactly if each group can be
connected by itself, and each brick gets what it gets in its own group.

The allocation of all bricks is followed next to one for each side. `Mirrors` says that the bench of
all bricks, seen from one side, looks like the bench of that side. A round goes through the bricks
one by one, so it is enough to know what the turn of one brick does: on its own side it does the
same on both benches, and seen from the other side nothing happens (`Local`). That a whole round
splits follows once for both rounds (`Local.splits`).
-/

namespace Brickwork

/-- The kind of pins that a brick goes with; parts with fixed wiring go with the digital ones. -/
def Brick.side (brick : Brick) : Pool :=
  (brick.category.pool.map Pool.whole).getD .digital

/-- The bricks of one side. -/
def onSide (side : Pool) (bricks : List Brick) : List Brick :=
  bricks.filter fun brick => brick.side = side

lemma Brick.side_of_pool {brick : Brick} {pool : Pool} (pooled : brick.category.pool = some pool) :
    brick.side = pool.whole := by
  rw [side, pooled, Option.map_some, Option.getD_some]

lemma Brick.side_of_display {brick : Brick} (display : brick.category = .lcdDisplay) :
    brick.side = .digital := by
  rw [side, display]
  rfl

lemma onSide_cons_of_eq {side : Pool} {brick : Brick} {rest : List Brick}
    (own : brick.side = side) :
    onSide side (brick :: rest) = brick :: onSide side rest :=
  List.filter_cons_of_pos (decide_eq_true own)

lemma onSide_cons_of_ne {side : Pool} {brick : Brick} {rest : List Brick}
    (apart : brick.side ≠ side) :
    onSide side (brick :: rest) = onSide side rest :=
  List.filter_cons_of_neg (by rwa [decide_eq_true_eq])

namespace Bench

/-! ## One side of a bench -/

/-- Seen from one side, the bench of all bricks looks like that of the side: the same pins are free
and taken, and the bricks of the side have the same pins. -/
structure Mirrors (bricks : List Brick) (side : Pool) (whole part : Bench) : Prop where
  offers : ∀ pool, ∀ pin ∈ whole.free pool, pin.whole = pool.whole
  free : ∀ pool, pool.whole = side → part.free pool = whole.free pool
  pins : ∀ pin, pin.whole = side → (pin ∈ part.pins ↔ pin ∈ whole.pins)
  assigned : ∀ brick ∈ bricks, brick.side = side →
    part.assigned? brick.name = whole.assigned? brick.name

namespace Mirrors

variable {bricks : List Brick} {side : Pool} {whole part : Bench}

lemma full (board : Board) : Mirrors bricks side (Bench.full board) (Bench.full board) where
  offers pool pin mem := board.whole_of_mem pool pin mem
  free _ _ := rfl
  pins _ _ := Iff.rfl
  assigned _ _ _ := rfl

lemma withhold (mirrors : Mirrors bricks side whole part) (pin : Pin) :
    Mirrors bricks side (whole.withhold pin) (part.withhold pin) where
  offers pool other mem := mirrors.offers pool other (List.mem_filter.mp mem).1
  free pool own := congrArg (List.filter _) (mirrors.free pool own)
  pins := mirrors.pins
  assigned := mirrors.assigned

/-- A pin of the other side is in no pool of this one. -/
lemma free_withhold (mirrors : Mirrors bricks side whole part) {pin : Pin}
    (apart : pin.whole ≠ side)
    {pool : Pool} (own : pool.whole = side) : (whole.withhold pin).free pool = whole.free pool := by
  refine List.filter_eq_self.mpr fun other mem => decide_eq_true ?_
  rintro rfl
  exact apart ((mirrors.offers pool other mem).trans own)

lemma withhold_apart (mirrors : Mirrors bricks side whole part) {pin : Pin}
    (apart : pin.whole ≠ side) :
    Mirrors bricks side (whole.withhold pin) part where
  offers pool other mem := mirrors.offers pool other (List.mem_filter.mp mem).1
  free pool own := (mirrors.free pool own).trans (mirrors.free_withhold apart own).symm
  pins := mirrors.pins
  assigned := mirrors.assigned

lemma withholdAll (mirrors : Mirrors bricks side whole part) (pins : List Pin) :
    Mirrors bricks side (pins.foldl Bench.withhold whole) (pins.foldl Bench.withhold part) := by
  induction pins generalizing whole part with
  | nil => exact mirrors
  | cons pin rest ih => exact ih (mirrors.withhold pin)

lemma withholdAll_apart (mirrors : Mirrors bricks side whole part) {pins : List Pin}
    (apart : ∀ pin ∈ pins, pin.whole ≠ side) :
    Mirrors bricks side (pins.foldl Bench.withhold whole) part := by
  induction pins generalizing whole with
  | nil => exact mirrors
  | cons pin rest ih =>
    obtain ⟨first, later⟩ := List.forall_mem_cons.mp apart
    exact ih (mirrors.withhold_apart first) later

lemma claim (mirrors : Mirrors bricks side whole part) (c : Claim) :
    Mirrors bricks side (whole.claim c) (part.claim c) where
  offers := (mirrors.withhold c.pin).offers
  free := (mirrors.withhold c.pin).free
  pins pin own := by
    rw [pins_claim, pins_claim, List.mem_cons, List.mem_cons, mirrors.pins pin own]
  assigned brick mem own := by
    rw [assigned?_claim, assigned?_claim, mirrors.assigned brick mem own]

/-- A claim of a brick of the other side does not show. -/
lemma claim_apart (mirrors : Mirrors bricks side whole part) {c : Claim}
    (apart : c.pin.whole ≠ side)
    (stranger : ∀ brick ∈ bricks, brick.side = side → c.brick ≠ brick.name) :
    Mirrors bricks side (whole.claim c) part where
  offers := (mirrors.withhold c.pin).offers
  free := (mirrors.withhold_apart apart).free
  pins pin own := by
    have other : pin ≠ c.pin := fun same => apart (same ▸ own)
    rw [pins_claim, List.mem_cons, or_iff_right other, mirrors.pins pin own]
  assigned brick mem own := by
    rw [assigned?_claim, if_neg (stranger brick mem own), mirrors.assigned brick mem own]

end Mirrors

/-! ## Rounds -/

/-- A round in which each brick in its turn only touches its own side. -/
structure Local (bricks : List Brick)
    (round : List Brick → Bench → Bench × Option GenerationError) :
    Prop where
  nil : ∀ bench, round [] bench = (bench, none)
  cons : ∀ brick rest bench, round (brick :: rest) bench =
    match (round [brick] bench).2 with
    | none => round rest (round [brick] bench).1
    | some _ => round [brick] bench
  own : ∀ brick ∈ bricks, ∀ whole part, Mirrors bricks brick.side whole part →
    ((round [brick] whole).2 = none ↔ (round [brick] part).2 = none) ∧
    ((round [brick] whole).2 = none →
      Mirrors bricks brick.side (round [brick] whole).1 (round [brick] part).1)
  apart : ∀ brick ∈ bricks, ∀ side, brick.side ≠ side → ∀ whole part,
    Mirrors bricks side whole part →
    (round [brick] whole).2 = none → Mirrors bricks side (round [brick] whole).1 part

namespace Local

variable {bricks : List Brick} {round : List Brick → Bench → Bench × Option GenerationError}

lemma cons_of_done (turns : Local bricks round) {brick : Brick} (rest : List Brick) {bench : Bench}
    (done : (round [brick] bench).2 = none) :
    round (brick :: rest) bench = round rest (round [brick] bench).1 := by
  rw [turns.cons, done]

lemma cons_of_failed (turns : Local bricks round) {brick : Brick} (rest : List Brick)
    {bench : Bench}
    (failed : (round [brick] bench).2 ≠ none) : (round (brick :: rest) bench).2 ≠ none := by
  rw [turns.cons]
  split
  · exact absurd (by assumption) failed
  · exact failed

/-- A round gets through all bricks exactly if it gets through those of each side, and then each
side ends as it does by itself. -/
lemma splits (turns : Local bricks round) {rest : List Brick} (among : rest ⊆ bricks)
    {whole : Bench}
    {part : Pool → Bench} (mirrors : ∀ side, Mirrors bricks side whole (part side)) :
    ((round rest whole).2 = none ↔ ∀ side, (round (onSide side rest) (part side)).2 = none) ∧
    ((round rest whole).2 = none → ∀ side,
      Mirrors bricks side (round rest whole).1 (round (onSide side rest) (part side)).1) := by
  induction rest generalizing whole part with
  | nil =>
    simp only [onSide, List.filter_nil, turns.nil]
    exact ⟨iff_of_true trivial fun _ => trivial, fun _ => mirrors⟩
  | cons brick rest ih =>
    obtain ⟨mem, among⟩ := List.cons_subset.mp among
    obtain ⟨same, next⟩ := turns.own brick mem whole (part brick.side) (mirrors brick.side)
    by_cases done : (round [brick] whole).2 = none
    · -- the bench of the brick's own side takes the turn, the other stays as it is
      have mirrors' : ∀ side, Mirrors bricks side (round [brick] whole).1
          (if brick.side = side then (round [brick] (part side)).1 else part side) := by
        intro side
        split
        · next own =>
          subst own
          exact next done
        · next apart => exact turns.apart brick mem side apart whole (part side) (mirrors side) done
      have parts : ∀ side, round (onSide side (brick :: rest)) (part side) =
          round (onSide side rest)
            (if brick.side = side then (round [brick] (part side)).1 else part side) := by
        intro side
        split
        · next own =>
          subst own
          rw [onSide_cons_of_eq rfl, turns.cons_of_done _ (same.mp done)]
        · next apart => rw [onSide_cons_of_ne apart]
      rw [turns.cons_of_done rest done]
      simp only [parts]
      exact ih among mirrors'
    · have failed := turns.cons_of_failed rest done
      refine ⟨iff_of_false failed ?_, fun done => absurd done failed⟩
      intro each
      refine turns.cons_of_failed (onSide brick.side rest) (mt same.mpr done) ?_
      rw [← onSide_cons_of_eq rfl]
      exact each brick.side

end Local

/-! ## The rounds of the allocation -/

section Rounds

variable {bricks : List Brick}

/-- Where names are distinct, a brick of one side has the name of no brick of the other. -/
lemma name_ne_of_side (nodup : (bricks.map Brick.name).Nodup) {brick : Brick} (mem : brick ∈ bricks)
    {side : Pool} (apart : brick.side ≠ side) :
    ∀ other ∈ bricks, other.side = side → brick.name ≠ other.name := by
  intro other mem' own same
  obtain rfl := List.inj_on_of_nodup_map nodup mem mem' same
  exact apart own

lemma local_claimManual (board : Board) (nodup : (bricks.map Brick.name).Nodup) :
    Local bricks (claimManual board) where
  nil _ := rfl
  cons brick rest bench := by
    rw [claimManual, claimManual]
    cases brick.pin with
    | none => rfl
    | some pin =>
      dsimp only
      cases bench.refusal board brick pin <;> rfl
  own brick mem whole part mirrors := by
    cases asked : brick.pin with
    | none =>
      simp only [claimManual, asked, true_and]
      exact fun _ => mirrors
    | some pin =>
      -- a pin that the brick can have is one of its side
      have same : whole.refusal board brick pin = none ↔ part.refusal board brick pin = none := by
        rw [refusal_eq_none, refusal_eq_none]
        refine exists_congr fun pool => and_congr_right fun pooled =>
          and_congr_right fun offered => ?_
        have own : pin.whole = brick.side :=
          (board.whole_of_mem pool pin offered).trans (Brick.side_of_pool pooled).symm
        rw [mirrors.pins pin own]
      cases refused : whole.refusal board brick pin with
      | none =>
        simp only [claimManual, asked, refused, same.mp refused, true_and]
        exact fun _ => mirrors.claim _
      | some error =>
        obtain ⟨error', refused'⟩ : ∃ error', part.refusal board brick pin = some error' := by
          apply Option.ne_none_iff_exists'.mp
          rw [ne_eq, ← same, refused]
          exact Option.some_ne_none error
        simp only [claimManual, asked, refused, refused', reduceCtorEq, true_and]
        exact False.elim
  apart brick mem side apart whole part mirrors done := by
    obtain ⟨_, eq⟩ | ⟨_, _, _, _, eq⟩ | ⟨pin, _, accepted, eq⟩ :=
      claimManual_cons board brick [] whole
    · rw [eq]
      exact mirrors
    · rw [eq] at done
      cases done
    · rw [eq]
      obtain ⟨pool, pooled, offered, _⟩ := refusal_eq_none.mp accepted
      refine mirrors.claim_apart (fun own => apart ?_) (name_ne_of_side nodup mem apart)
      rw [Brick.side_of_pool pooled, ← board.whole_of_mem pool pin offered]
      exact own

lemma local_claimAutomatic (nodup : (bricks.map Brick.name).Nodup) :
    Local bricks claimAutomatic where
  nil _ := rfl
  cons brick _ _ := @claimAutomatic_append [brick] _ _
  own brick mem whole part mirrors := by
    have assigned := mirrors.assigned brick mem rfl
    obtain ⟨passed, eq⟩ | ⟨pool, pooled, unassigned, left, eq⟩ |
      ⟨pool, pin, others, pooled, unassigned, left, eq⟩ := claimAutomatic_cons brick [] whole
    · rw [eq, claimAutomatic_pass [] fun pool pooled => assigned ▸ passed pool pooled]
      exact ⟨Iff.rfl, fun _ => mirrors⟩
    all_goals
      rw [← assigned] at unassigned
      rw [← mirrors.free pool (Brick.side_of_pool pooled).symm] at left
      rw [eq]
    · have eq' : claimAutomatic [brick] part = (part, some (.exhausted brick.name pool)) := by
        simp only [claimAutomatic, unassigned, pooled, left]
      rw [eq']
      exact ⟨Iff.rfl, fun done => (Option.some_ne_none _ done).elim⟩
    · have eq' : claimAutomatic [brick] part = (part.claim ⟨brick.name, pin, some pool⟩, none) := by
        simp only [claimAutomatic, unassigned, pooled, left]
      rw [eq']
      exact ⟨Iff.rfl, fun _ => mirrors.claim _⟩
  apart brick mem side apart whole part mirrors done := by
    obtain ⟨_, eq⟩ | ⟨_, _, _, _, eq⟩ | ⟨pool, pin, others, pooled, _, left, eq⟩ :=
      claimAutomatic_cons brick [] whole
    · rw [eq]
      exact mirrors
    · rw [eq] at done
      cases done
    · rw [eq]
      have free : pin ∈ whole.free pool := left ▸ List.mem_cons_self
      refine mirrors.claim_apart (fun own => apart ?_) (name_ne_of_side nodup mem apart)
      rw [Brick.side_of_pool pooled, ← mirrors.offers pool pin free]
      exact own

/-- The pins of a display are withheld from the digital side, where the display is, and the other
side has no use for them. -/
lemma mirrors_withheldPins {side : Pool} {whole part : Bench}
    (mirrors : Mirrors bricks side whole part) (board : Board) :
    Mirrors bricks side ((withheldPins bricks board).foldl withhold whole)
      ((withheldPins (onSide side bricks) board).foldl withhold part) := by
  have wiring : ∀ pin ∈ withheldPins bricks board, pin.whole = .digital := by
    intro pin mem
    rw [withheldPins] at mem
    split at mem
    · rw [Board.lcdWiring, List.mem_map] at mem
      obtain ⟨_, _, rfl⟩ := mem
      rfl
    · cases mem
  by_cases own : side = .digital
  · have same : withheldPins (onSide side bricks) board = withheldPins bricks board := by
      have any : ((onSide side bricks).any fun brick => brick.category = .lcdDisplay) =
          bricks.any fun brick => brick.category = .lcdDisplay := by
        rw [Bool.eq_iff_iff, List.any_eq_true, List.any_eq_true]
        refine exists_congr fun brick => and_congr_left fun display => ?_
        rw [onSide, List.mem_filter, and_iff_left]
        rw [own, Brick.side_of_display (of_decide_eq_true display)]
        rfl
      rw [withheldPins, any]
      rfl
    rw [same]
    exact mirrors.withholdAll _
  · have unwithheld : withheldPins (onSide side bricks) board = [] := by
      apply if_neg
      rw [List.any_eq_true]
      rintro ⟨brick, mem, display⟩
      have there : brick.side = side := of_decide_eq_true (List.mem_filter.mp mem).2
      rw [Brick.side_of_display (of_decide_eq_true display)] at there
      exact own there.symm
    rw [unwithheld]
    exact mirrors.withholdAll_apart fun pin mem => (wiring pin mem).symm ▸ Ne.symm own

end Rounds

end Bench

/-! ## Allocations -/

section Allocations

variable {board : Board} {bricks : List Brick}

/-- The entries of one side, from the bench of all bricks or from that of the side. -/
lemma filterMap_onSide {side : Pool} {whole part : Bench}
    (mirrors : Bench.Mirrors bricks side whole part) :
    (onSide side bricks).filterMap (part.entry? board) =
      (onSide side bricks).filterMap (whole.entry? board) := by
  refine List.filterMap_congr fun brick mem => ?_
  obtain ⟨mem, own⟩ := List.mem_filter.mp mem
  unfold Bench.entry?
  rw [mirrors.assigned brick mem (of_decide_eq_true own)]

/-- Where names are distinct, bricks can be connected exactly if those of each side can, and then
the entries of a side are those that its bricks have among all. -/
lemma allocate_onSide (nodup : (bricks.map Brick.name).Nodup) :
    ((∃ whole, allocate bricks board = .ok whole) ↔
      ∀ side, ∃ part, allocate (onSide side bricks) board = .ok part) ∧
    ∀ whole side part, allocate bricks board = .ok whole →
      allocate (onSide side bricks) board = .ok part →
      ∃ bench : Bench, whole.entries = bricks.filterMap (bench.entry? board) ∧
        part.entries = (onSide side bricks).filterMap (bench.entry? board) := by
  have start : ∀ side, Bench.Mirrors bricks side (Bench.full board) (Bench.full board) :=
    fun side => .full board
  obtain ⟨manual, requests⟩ :=
    (Bench.local_claimManual board nodup).splits (List.Subset.refl bricks) start
  -- the last round splits once the first one is through
  have automatic (granted : (Bench.claimManual board bricks (Bench.full board)).2 = none) :=
    (Bench.local_claimAutomatic nodup).splits (List.Subset.refl bricks) fun side =>
      Bench.mirrors_withheldPins (requests granted side) board
  simp only [allocate_eq_ok, exists_and_left, exists_eq, and_true]
  constructor
  · constructor
    · rintro ⟨granted, done⟩ side
      exact ⟨manual.mp granted side, (automatic granted).1.mp done side⟩
    · intro parts
      have granted := manual.mpr fun side => (parts side).1
      exact ⟨granted, (automatic granted).1.mpr fun side => (parts side).2⟩
  · rintro whole side part ⟨granted, done, rfl⟩ ⟨_, _, rfl⟩
    exact ⟨_, rfl, filterMap_onSide ((automatic granted).2 done side)⟩

lemma Brick.side_eq_analog {brick : Brick} :
    brick.side = .analog ↔ brick.category.pool = some .analog := by
  cases pooled : brick.category.pool with
  | none =>
    rw [side, pooled]
    exact iff_of_false nofun nofun
  | some pool =>
    rw [side_of_pool pooled]
    cases pool <;> decide

lemma Brick.side_cases (brick : Brick) : brick.side = .analog ∨ brick.side = .digital := by
  cases pooled : brick.category.pool with
  | none =>
    rw [side, pooled]
    exact Or.inr rfl
  | some pool =>
    rw [side_of_pool pooled]
    cases pool <;> decide

lemma onSide_analog :
    onSide .analog bricks = bricks.filter fun brick => brick.category.pool = some .analog := by
  refine List.filter_congr fun brick _ => ?_
  rw [decide_eq_decide, Brick.side_eq_analog]

lemma onSide_digital :
    onSide .digital bricks = bricks.filter fun brick => brick.category.pool ≠ some .analog := by
  refine List.filter_congr fun brick _ => ?_
  rw [decide_eq_decide, ne_eq, ← Brick.side_eq_analog]
  rcases brick.side_cases with side | side <;> rw [side] <;> decide

/-- No brick is on the side of the PWM pins alone. -/
lemma onSide_pwm : onSide .pwm bricks = [] := by
  refine List.filter_eq_nil_iff.mpr fun brick _ => ?_
  rcases brick.side_cases with side | side <;> rw [side] <;> decide

/-- A brick that is connected together with others and on its side has the same wiring in both. -/
lemma wiring?_onSide (nodup : (bricks.map Brick.name).Nodup) {whole part : Allocation} {side : Pool}
    (joint : allocate bricks board = .ok whole)
    (own : allocate (onSide side bricks) board = .ok part)
    {brick : Brick} (mem : brick ∈ bricks) (there : brick.side = side) :
    ∃ wiring, whole.wiring? brick.name = some wiring ∧ part.wiring? brick.name = some wiring := by
  obtain ⟨bench, entries, entries'⟩ := (allocate_onSide nodup).2 whole side part joint own
  have connects := allocate_connects joint
  have connects' := allocate_connects own
  have nodup' : ((onSide side bricks).map Brick.name).Nodup :=
    nodup.sublist (List.filter_sublist.map _)
  have mem' : brick ∈ onSide side bricks := List.mem_filter.mpr ⟨mem, decide_eq_true there⟩
  obtain ⟨entry, listed, connected⟩ := Entry.Connects.entry connects' mem'
  -- the entry of the side is one of all entries
  have listed' : entry ∈ whole.entries := by
    rw [entries'] at listed
    rw [entries]
    exact (List.filter_sublist.filterMap _).subset listed
  rw [← Entry.Connects.names connects] at nodup
  rw [← Entry.Connects.names connects'] at nodup'
  refine ⟨entry.wiring, ?_, ?_⟩
  · rw [Allocation.wiring?, ← connected.name, find?_key nodup listed', Option.map_some]
  · rw [Allocation.wiring?, ← connected.name, find?_key nodup' listed, Option.map_some]

/-- Where names are distinct, bricks can be connected exactly if both those on analog pins and all
others can, each group by itself; and then every brick is connected as it is in its own group. -/
theorem allocate_splits (board : Board) {bricks : List Brick}
    (nodup : (bricks.map Brick.name).Nodup) :
    ((∃ whole, allocate bricks board = .ok whole) ↔
      (∃ analog, allocate (bricks.filter fun brick => brick.category.pool = some .analog) board =
        .ok analog) ∧
      ∃ other, allocate (bricks.filter fun brick => brick.category.pool ≠ some .analog) board =
        .ok other) ∧
    ∀ whole analog other, allocate bricks board = .ok whole →
      allocate (bricks.filter fun brick => brick.category.pool = some .analog) board = .ok analog →
      allocate (bricks.filter fun brick => brick.category.pool ≠ some .analog) board = .ok other →
      ∀ brick ∈ bricks, ∃ wiring, whole.wiring? brick.name = some wiring ∧
        (if brick.category.pool = some .analog then analog else other).wiring? brick.name =
          some wiring := by
  rw [← onSide_analog, ← onSide_digital]
  constructor
  · rw [(allocate_onSide nodup).1]
    constructor
    · exact fun parts => ⟨parts .analog, parts .digital⟩
    · rintro ⟨analog, other⟩ side
      cases side with
      | analog => exact analog
      | digital => exact other
      | pwm =>
        rw [onSide_pwm]
        exact ⟨⟨[]⟩, rfl⟩
  · intro whole analog other joint own own' brick mem
    rcases brick.side_cases with there | there
    · rw [if_pos (Brick.side_eq_analog.mp there)]
      exact wiring?_onSide nodup joint own mem there
    · have apart : brick.category.pool ≠ some .analog := by
        rw [ne_eq, ← Brick.side_eq_analog, there]
        decide
      rw [if_neg apart]
      exact wiring?_onSide nodup joint own' mem there

end Allocations

/-- Bricks of both sides in turn, with requests on both, a display and a serial line. -/
def workbench : List Brick :=
  [⟨⟨"knob"⟩, none, .analogSensor⟩, ⟨⟨"button"⟩, none, .digitalSensor⟩,
    ⟨⟨"air"⟩, some (.analog 0), .temperatureSensor⟩, ⟨⟨"screen"⟩, none, .lcdDisplay⟩,
    ⟨⟨"lamp"⟩, some (.digital 3), .analogActuator⟩, ⟨⟨"wire"⟩, none, .serialLine 9600⟩,
    ⟨⟨"light"⟩, none, .analogSensor⟩, ⟨⟨"fan"⟩, none, .analogActuator⟩]

/-- The knob and the light of the workbench go around the pin that the other sensor asks for, on the
analog side, and the button and the fan around the display, on the digital one. -/
theorem allocate_splits_workbench :
    (workbench.map Brick.name).Nodup ∧
    ∃ whole analog other, allocate workbench .uno = .ok whole ∧
      allocate (workbench.filter fun brick => brick.category.pool = some .analog) .uno =
        .ok analog ∧
      allocate (workbench.filter fun brick => brick.category.pool ≠ some .analog) .uno = .ok other ∧
      whole.wiring? ⟨"light"⟩ = some (.pin (.analog 2)) ∧
      whole.wiring? ⟨"fan"⟩ = some (.pin (.digital 9)) ∧
      ∀ brick ∈ workbench, ∃ wiring, whole.wiring? brick.name = some wiring ∧
        (if brick.category.pool = some .analog then analog else other).wiring? brick.name =
          some wiring := by
  have nodup : (workbench.map Brick.name).Nodup := by decide
  obtain ⟨fits, same⟩ := allocate_splits .uno nodup
  obtain ⟨⟨analog, own⟩, other, own'⟩ := fits.mp ⟨_, rfl⟩
  exact ⟨nodup, _, analog, other, rfl, own, own', by decide, by decide, same _ _ _ rfl own own'⟩

end Brickwork
