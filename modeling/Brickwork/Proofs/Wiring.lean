import Brickwork.Proofs.Bench
import Brickwork.Proofs.Lists

/-!
# Wirings

What an allocation gives to the bricks. Every brick has one entry, in the order of declaration, and
the wiring of its entry is of the form that its category calls for. Names and pins determine one
another, even where a name was declared several times: the entries of one name all show the pin that
the name has in the end, and no other name has that pin.
-/

namespace Brickwork

/-- An entry that stands for a brick: it has the brick's name and category, and a wiring that suits
the category. -/
structure Entry.Connects (board : Board) (brick : Brick) (entry : Entry) : Prop where
  name : entry.brick = brick.name
  category : entry.category = brick.category
  pooled : brick.category.pool ≠ none → ∃ pin, entry.wiring = .pin pin
  serial : brick.category.isSerialLine → entry.wiring = .serial
  display : brick.category = .lcdDisplay → entry.wiring = .lcd board.lcdWiring

namespace Bench

lemma entry?_fixed (bench : Bench) (board : Board) {brick : Brick}
    (fixed : brick.category.pool = none) :
    ∃ entry, bench.entry? board brick = some entry ∧ entry.Connects board brick ∧
      ∀ pin, entry.wiring ≠ .pin pin := by
  cases category : brick.category with
  | serialLine baud =>
    refine ⟨⟨brick.name, .serialLine baud, .serial⟩, by simp only [category, entry?], ?_, nofun⟩
    exact ⟨rfl, category.symm, fun h => (h fixed).elim, fun _ => rfl, by rw [category]; nofun⟩
  | lcdDisplay =>
    refine ⟨⟨brick.name, .lcdDisplay, .lcd board.lcdWiring⟩,
      by simp only [category, entry?], ?_, nofun⟩
    exact ⟨rfl, category.symm, fun h => (h fixed).elim, by rw [category]; nofun, fun _ => rfl⟩
  | _ => rw [category] at fixed; cases fixed

lemma entry?_pooled (bench : Bench) (board : Board) {brick : Brick}
    (pooled : brick.category.pool ≠ none) :
    bench.entry? board brick =
      (bench.assigned? brick.name).map fun pin => ⟨brick.name, brick.category, .pin pin⟩ := by
  cases category : brick.category with
  | serialLine baud => rw [category] at pooled; exact (pooled rfl).elim
  | lcdDisplay => rw [category] at pooled; exact (pooled rfl).elim
  | _ => simp only [category, entry?]

lemma entry?_assigned {bench : Bench} (board : Board) {brick : Brick} {pool pin}
    (pooled : brick.category.pool = some pool) (assigned : bench.assigned? brick.name = some pin) :
    bench.entry? board brick = some ⟨brick.name, brick.category, .pin pin⟩ := by
  have hasPool : brick.category.pool ≠ none := by rw [pooled]; nofun
  rw [entry?_pooled bench board hasPool, assigned, Option.map_some]

/-- A brick that has a pin, if it needs one, is connected. -/
lemma connects {bench : Bench} {board : Board} {brick : Brick}
    (assigned : brick.category.pool ≠ none → ∃ pin, bench.assigned? brick.name = some pin) :
    ∃ entry, bench.entry? board brick = some entry ∧ entry.Connects board brick := by
  cases pooled : brick.category.pool with
  | none =>
    obtain ⟨entry, eq, connects, _⟩ := bench.entry?_fixed board pooled
    exact ⟨entry, eq, connects⟩
  | some pool =>
    obtain ⟨pin, eq⟩ := assigned (by rw [pooled]; nofun)
    refine ⟨_, entry?_assigned board pooled eq, rfl, rfl, fun _ => ⟨pin, rfl⟩, ?_, ?_⟩
    · intro serial
      cases category : brick.category <;> rw [category] at serial pooled
      case serialLine => cases pooled
      all_goals cases serial
    · intro display
      rw [display] at pooled
      cases pooled

/-- The pin that an entry shows is the one that its name has in the end. -/
lemma assigned?_of_entry? {bench : Bench} {board : Board} {brick : Brick}
    {entry : Entry} {pin : Pin}
    (h : bench.entry? board brick = some entry) (wired : entry.wiring = .pin pin) :
    bench.assigned? entry.brick = some pin := by
  by_cases fixed : brick.category.pool = none
  · obtain ⟨other, eq, _, unwired⟩ := bench.entry?_fixed board fixed
    rw [h] at eq
    cases eq
    exact (unwired pin wired).elim
  · rw [entry?_pooled bench board fixed] at h
    obtain ⟨taken, eq, rfl⟩ := Option.map_eq_some_iff.mp h
    cases wired
    exact eq

end Bench

/-- If every element of a list has an image under a partial function, the images stand in the same
order as the elements. -/
lemma forall₂_filterMap {α β : Type} {f : α → Option β} {R : α → β → Prop} {l : List α}
    (total : ∀ a ∈ l, ∃ b, f a = some b ∧ R a b) : List.Forall₂ R l (l.filterMap f) := by
  induction l with
  | nil => exact .nil
  | cons a l ih =>
    obtain ⟨b, eq, related⟩ := total a List.mem_cons_self
    rw [List.filterMap_cons_some eq]
    exact .cons related (ih fun x mem => total x (List.mem_cons_of_mem a mem))

/-- A successful allocation is read off a sound bench on which every brick with a pool has a pin. -/
lemma allocate_ok {bricks board allocation} (h : allocate bricks board = .ok allocation) :
    ∃ withheld bench, Bench.Sound board withheld bench ∧
      (∀ brick ∈ bricks, brick.category.pool ≠ none →
        ∃ pin, bench.assigned? brick.name = some pin) ∧
      allocation.entries = bricks.filterMap (bench.entry? board) := by
  obtain ⟨_, _, _, eq⟩ | ⟨_, _, _, _, _, eq⟩ | ⟨bench, final, manual, automatic, eq⟩ :=
    allocate_cases bricks board
  · rw [eq] at h; cases h
  · rw [eq] at h; cases h
  · rw [eq] at h
    cases h
    have claimed := (Bench.Sound.full board).claimManual bricks
    rw [manual] at claimed
    have sound := (claimed.withholdAll (withheldPins bricks board)).claimAutomatic bricks
    rw [automatic] at sound
    refine ⟨_, final, sound, ?_, rfl⟩
    intro brick mem pooled
    obtain ⟨pool, pooled⟩ := Option.ne_none_iff_exists'.mp pooled
    have assigned := Bench.claimAutomatic_total (by rw [automatic]) mem pooled
    rwa [automatic] at assigned

/-- Every brick has an entry that stands for it, in order. -/
lemma allocate_connects {bricks board allocation} (h : allocate bricks board = .ok allocation) :
    List.Forall₂ (Entry.Connects board) bricks allocation.entries := by
  obtain ⟨_, bench, _, total, eq⟩ := allocate_ok h
  rw [eq]
  exact forall₂_filterMap fun brick mem => Bench.connects (total brick mem)

lemma Entry.Connects.names {board bricks entries}
    (connects : List.Forall₂ (Entry.Connects board) bricks entries) :
    entries.map Entry.brick = bricks.map Brick.name := by
  induction connects with
  | nil => rfl
  | cons first _ ih => rw [List.map_cons, List.map_cons, first.name, ih]

lemma Entry.Connects.entry {board bricks entries}
    (connects : List.Forall₂ (Entry.Connects board) bricks entries) {brick} (mem : brick ∈ bricks) :
    ∃ entry ∈ entries, entry.Connects board brick := by
  induction connects with
  | nil => cases mem
  | cons first _ ih =>
    cases mem with
    | head => exact ⟨_, List.mem_cons_self, first⟩
    | tail _ mem =>
      obtain ⟨entry, mem, connects⟩ := ih mem
      exact ⟨entry, List.mem_cons_of_mem _ mem, connects⟩

/-- Of two entries with pins, the pins are the same exactly if the names are. -/
lemma allocate_pin_iff_name {bricks board allocation} (h : allocate bricks board = .ok allocation)
    {a b p q} (ma : a ∈ allocation.entries) (mb : b ∈ allocation.entries)
    (wa : a.wiring = .pin p) (wb : b.wiring = .pin q) : p = q ↔ a.brick = b.brick := by
  obtain ⟨_, bench, sound, _, eq⟩ := allocate_ok h
  rw [eq, List.mem_filterMap] at ma mb
  obtain ⟨_, _, ea⟩ := ma
  obtain ⟨_, _, eb⟩ := mb
  have assignedA := Bench.assigned?_of_entry? ea wa
  have assignedB := Bench.assigned?_of_entry? eb wb
  constructor
  · rintro rfl
    exact sound.name_of_pin assignedA assignedB
  · intro same
    rw [same, assignedB] at assignedA
    exact (Option.some.inj assignedA).symm

/-- A pin that is found for a name stands in an entry of that name. -/
lemma Allocation.entry_of_pin {allocation : Allocation} {name pin}
    (h : allocation.pin name = .ok pin) :
    ∃ entry ∈ allocation.entries, entry.brick = name ∧ entry.wiring = .pin pin := by
  unfold Allocation.pin Allocation.wiring? at h
  split at h
  · rename_i found
    obtain ⟨entry, first, wired⟩ := Option.map_eq_some_iff.mp found
    cases h
    exact ⟨entry, List.mem_of_find?_eq_some first, by simpa using List.find?_some first, wired⟩
  · cases h

/-- Where names are distinct, every brick with a pool is found to have a pin. -/
lemma allocate_pin {bricks board allocation} (h : allocate bricks board = .ok allocation)
    (nodup : (bricks.map Brick.name).Nodup) {brick} (mem : brick ∈ bricks)
    (pooled : brick.category.pool ≠ none) : ∃ pin, allocation.pin brick.name = .ok pin := by
  have connects := allocate_connects h
  obtain ⟨entry, mem, connected⟩ := Entry.Connects.entry connects mem
  obtain ⟨pin, wired⟩ := connected.pooled pooled
  rw [← Entry.Connects.names connects] at nodup
  refine ⟨pin, ?_⟩
  unfold Allocation.pin Allocation.wiring?
  rw [← connected.name, find?_key nodup mem, Option.map_some, wired]

/-- An allocation connects every brick, in order and as its category calls for; of any two entries
with pins, the pins are the same exactly if the names are. So where names are distinct, every brick
with a pool has a pin, and no two bricks have the same. -/
theorem allocate_total_injective {bricks board allocation}
    (h : allocate bricks board = .ok allocation) :
    List.Forall₂ (Entry.Connects board) bricks allocation.entries ∧
    (∀ a ∈ allocation.entries, ∀ b ∈ allocation.entries, ∀ p q,
      a.wiring = .pin p → b.wiring = .pin q → (p = q ↔ a.brick = b.brick)) ∧
    ((bricks.map Brick.name).Nodup →
      (∀ brick ∈ bricks, brick.category.pool ≠ none → ∃ pin, allocation.pin brick.name = .ok pin) ∧
      (∀ a ∈ bricks, ∀ b ∈ bricks, ∀ pin,
        allocation.pin a.name = .ok pin → allocation.pin b.name = .ok pin → a = b)) := by
  refine ⟨allocate_connects h, ?_, ?_⟩
  · intro a ma b mb p q wa wb
    exact allocate_pin_iff_name h ma mb wa wb
  · intro nodup
    refine ⟨fun brick mem pooled => allocate_pin h nodup mem pooled, ?_⟩
    intro a ma b mb pin pa pb
    obtain ⟨ea, mea, na, wa⟩ := Allocation.entry_of_pin pa
    obtain ⟨eb, meb, nb, wb⟩ := Allocation.entry_of_pin pb
    have same := (allocate_pin_iff_name h mea meb wa wb).mp rfl
    rw [na, nb] at same
    exact List.inj_on_of_nodup_map nodup ma mb same

/-- Bricks of which two have the same name. -/
def twoLamps : List Brick :=
  [⟨⟨"button"⟩, none, .digitalSensor⟩, ⟨⟨"screen"⟩, none, .lcdDisplay⟩,
   ⟨⟨"lamp"⟩, none, .analogActuator⟩, ⟨⟨"lamp"⟩, some (.digital 6), .digitalActuator⟩]

/-- Two bricks of one name share the pin that one of them asks for; a brick of another name has
another. -/
theorem allocate_total_injective_twoLamps :
    ∃ allocation, allocate twoLamps .uno = .ok allocation ∧
      List.Forall₂ (Entry.Connects .uno) twoLamps allocation.entries ∧
      (∀ a ∈ allocation.entries, ∀ b ∈ allocation.entries, ∀ p q,
        a.wiring = .pin p → b.wiring = .pin q → (p = q ↔ a.brick = b.brick)) ∧
      allocation.pin ⟨"lamp"⟩ = .ok (.digital 6) ∧
      allocation.pin ⟨"button"⟩ = .ok (.digital 7) := by
  have wired : allocate twoLamps .uno =
      .ok ⟨[⟨⟨"button"⟩, .digitalSensor, .pin (.digital 7)⟩,
        ⟨⟨"screen"⟩, .lcdDisplay, .lcd (Board.lcdWiring .uno)⟩,
        ⟨⟨"lamp"⟩, .analogActuator, .pin (.digital 6)⟩,
        ⟨⟨"lamp"⟩, .digitalActuator, .pin (.digital 6)⟩]⟩ := by decide
  have result := allocate_total_injective wired
  exact ⟨_, wired, result.1, result.2.1, by decide, by decide⟩

end Brickwork
