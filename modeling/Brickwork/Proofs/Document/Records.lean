import Brickwork.Proofs.Document.Skipping

/-!
# Records and variants

The members of a record that have a field fill its slot, and those that have none are kept apart or
passed over. Both can be done in any order. A variant has one member only, so that there is nothing
to be reordered but its inside.
-/

namespace Brickwork.Document

universe u

/-! ## Slots -/

/-- A value for one of the slots of a record. -/
inductive Entry : List Type → Type 1
  | here {α : Type} {αs : List Type} (a : α) : Entry (α :: αs)
  | there {α : Type} {αs : List Type} (later : Entry αs) : Entry (α :: αs)

/-- Fills the slot, which has to be empty. -/
def Entry.put {αs : List Type} : Entry αs → Slots αs → Option (Slots αs)
  | here a, (slot, slots) => if slot.isSome then none else some (some a, slots)
  | there later, (slot, slots) => (later.put slots).map (slot, ·)

lemma Entry.put_swap {αs : List Type} {entry entry' : Entry αs} {slots slots₁ slots₂ : Slots αs}
    (first : entry.put slots = some slots₁) (second : entry'.put slots₁ = some slots₂) :
    ∃ slots₁', entry'.put slots = some slots₁' ∧ entry.put slots₁' = some slots₂ := by
  induction entry with
  | here a =>
    obtain ⟨slot, slots⟩ := slots
    rw [put] at first
    split at first
    · cases first
    case isFalse empty =>
      cases first
      cases entry' with
      | here a' => cases second
      | there later =>
        obtain ⟨later', put', rfl⟩ := Option.map_eq_some_iff.mp second
        refine ⟨(slot, later'), ?_, ?_⟩
        · rw [put, put']
          rfl
        · rw [put, if_neg empty]
  | there later ih =>
    obtain ⟨slot, slots⟩ := slots
    obtain ⟨slots₁, put', rfl⟩ := Option.map_eq_some_iff.mp first
    cases entry' with
    | here a' =>
      rw [put] at second
      split at second
      · cases second
      case isFalse empty =>
        cases second
        refine ⟨(some a', slots), ?_, ?_⟩
        · rw [put, if_neg empty]
        · rw [put, put']
          rfl
    | there later' =>
      obtain ⟨slots₂, put'', rfl⟩ := Option.map_eq_some_iff.mp second
      obtain ⟨slots₁', first', second'⟩ := ih put' put''
      refine ⟨(slot, slots₁'), ?_, ?_⟩
      · rw [put, first']
        rfl
      · rw [put, second']
        rfl

/-- Every field is read without regard to the order of members. -/
def Fields.Orderless {αs : List Type} : Fields αs → Prop
  | nil => True
  | cons field rest => Reader.Orderless field.read ∧ rest.Orderless

namespace Reader

variable {α β γ σ : Type} {αs : List Type} {ε : Type u} {c c' : Cursor} {s : List UInt8}

section Slots

variable {act : σ → ε → Option σ} {same : ε → ε → Prop} {alike : σ → σ → Prop}

/-- What an entry does to the slots, or another one to what is kept beside them. -/
def actSlots (αs : List Type) (act : σ → ε → Option σ) :
    Slots αs × σ → Entry αs ⊕ ε → Option (Slots αs × σ)
  | (slots, state), .inl entry => (entry.put slots).map (·, state)
  | (slots, state), .inr entry => (act state entry).map (slots, ·)

/-- The entries for slots are equal, and the others the same. -/
inductive SameSlots (same : ε → ε → Prop) : Entry αs ⊕ ε → Entry αs ⊕ ε → Prop
  | slot {entry : Entry αs} : SameSlots same (.inl entry) (.inl entry)
  | other {entry entry' : ε} (others : same entry entry') : SameSlots same (.inr entry)
      (.inr entry')

/-- The slots are equal, and what is kept beside them is alike. -/
def AlikeSlots (alike : σ → σ → Prop) (both both' : Slots αs × σ) : Prop :=
  both.1 = both'.1 ∧ alike both.2 both'.2

lemma Unordered.slots (unordered : Unordered act same alike) :
    Unordered (actSlots αs act) (SameSlots same) (AlikeSlots alike) where
  refl both := ⟨rfl, unordered.refl both.2⟩
  trans h h' := ⟨h.1.trans h'.1, unordered.trans h.2 h'.2⟩
  same_refl entry := by
    cases entry with
    | inl entry => exact .slot
    | inr entry => exact .other (unordered.same_refl entry)
  step := by
    rintro entry entry' ⟨slots, state⟩ ⟨_, state₁⟩ both' same' ⟨rfl, states⟩ acts
    cases same' with
    | @slot entry =>
      obtain ⟨slots', put, rfl⟩ := Option.map_eq_some_iff.mp acts
      exact ⟨(slots', state₁), Option.map_eq_some_iff.mpr ⟨slots', put, rfl⟩, rfl, states⟩
    | other others =>
      obtain ⟨state', acts', rfl⟩ := Option.map_eq_some_iff.mp acts
      obtain ⟨state₁', acts₁, states'⟩ := unordered.step others states acts'
      exact ⟨(slots, state₁'), Option.map_eq_some_iff.mpr ⟨state₁', acts₁, rfl⟩, rfl, states'⟩
  swap := by
    rintro entry entry' ⟨slots, state⟩ both₁ both₂ first second
    cases entry with
    | inl entry =>
      obtain ⟨slots₁, put, rfl⟩ := Option.map_eq_some_iff.mp first
      cases entry' with
      | inl entry' =>
        obtain ⟨slots₂, put', rfl⟩ := Option.map_eq_some_iff.mp second
        obtain ⟨slots₁', put, put'⟩ := Entry.put_swap put put'
        exact ⟨(slots₁', state), (slots₂, state), Option.map_eq_some_iff.mpr ⟨slots₁', put, rfl⟩,
          Option.map_eq_some_iff.mpr ⟨slots₂, put', rfl⟩, rfl, unordered.refl state⟩
      | inr entry' =>
        obtain ⟨state₁, acts, rfl⟩ := Option.map_eq_some_iff.mp second
        exact ⟨(slots, state₁), (slots₁, state₁), Option.map_eq_some_iff.mpr ⟨state₁, acts, rfl⟩,
          Option.map_eq_some_iff.mpr ⟨slots₁, put, rfl⟩, rfl, unordered.refl state₁⟩
    | inr entry =>
      obtain ⟨state₁, acts, rfl⟩ := Option.map_eq_some_iff.mp first
      cases entry' with
      | inl entry' =>
        obtain ⟨slots₁, put, rfl⟩ := Option.map_eq_some_iff.mp second
        exact ⟨(slots₁, state), (slots₁, state₁), Option.map_eq_some_iff.mpr ⟨slots₁, put, rfl⟩,
          Option.map_eq_some_iff.mpr ⟨state₁, acts, rfl⟩, rfl, unordered.refl state₁⟩
      | inr entry' =>
        obtain ⟨state₂, acts', rfl⟩ := Option.map_eq_some_iff.mp second
        obtain ⟨state₁', state₂', acts, acts', states⟩ := unordered.swap acts acts'
        exact ⟨(slots, state₁'), (slots, state₂'), Option.map_eq_some_iff.mpr ⟨state₁', acts, rfl⟩,
          Option.map_eq_some_iff.mpr ⟨state₂', acts', rfl⟩, rfl, states⟩

end Slots

/-! ## Members of a record -/

lemma Means.binds {read : Reader α} {tree : Tree} {a : α} (means : Means read tree a) (f : α → σ) :
    Binds (do colon; return f (← read)) tree (f a) := by
  intro gap gap' text rest gaps gaps' spelled apart
  exact (marks_colon.gives _ gaps).bind ((means gaps' spelled apart).bind gives_pure)

/-- Adds the value of a member, with its key, to what has been read. -/
def actAdd (add : σ → String → α → σ) (state : σ) (entry : String × α) : Option σ :=
  some (add state entry.1 entry.2)

/-- The keys are equal, and the values have the same view. -/
def SameView (view : α → β) (entry entry' : String × α) : Prop :=
  entry'.1 = entry.1 ∧ view entry'.2 = view entry.2

lemma files_add {payload : Reader α} {view : α → β} (h : OrderlessBy view payload)
    (add : σ → String → α → σ) :
    Files (actAdd add) (SameView view) fun key state =>
      do colon; return add state key (← payload) := by
  intro key state c s state' c' at' took
  obtain ⟨_, c₁, colon, took⟩ := took_bind took
  obtain ⟨a, c₂, took, last⟩ := took_bind took
  cases last
  obtain ⟨gap, s₁, rfl, gaps, at₁⟩ := marks_colon.took at' colon
  obtain ⟨gap', tree, text, s', rfl, gaps', spelled, at'', settles⟩ := h at₁ took
  refine ⟨gap, gap', text, s', tree, (key, a), rfl, gaps, gaps', spelled, at'', rfl,
    fun tree' reordered => ?_⟩
  obtain ⟨a', seen, means⟩ := settles reordered
  refine ⟨(key, a'), ⟨rfl, seen⟩, ?_⟩
  rintro state₁ _ ⟨⟩
  exact means.binds (add state₁ key)

/-- Nothing shows of what has been added if nothing of it is looked at. -/
lemma unordered_add (view : α → β) (add : σ → String → α → σ) :
    Unordered (actAdd add) (SameView view) fun _ _ => True where
  refl _ := trivial
  trans _ _ := trivial
  same_refl _ := ⟨rfl, rfl⟩
  step _ _ _ := ⟨_, rfl, trivial⟩
  swap _ _ := ⟨_, _, rfl, rfl, trivial⟩

section Members

variable {fields : Fields αs} {key : String} {slots slots' : Slots αs}

/-- A member for a field fills its slot, whatever the other slots hold. -/
lemma took_accept {read : Reader (Slots αs)} (h : fields.Orderless)
    (accepted : fields.accept key slots = some read) (at' : c.At s)
    (took : read c = .ok slots' c') :
    ∃ (gap gap' text s' : List UInt8) (tree : Tree) (entry : Entry αs),
      s = gap ++ 0x3a :: (gap' ++ (text ++ s')) ∧ Gaps gap ∧ Gaps gap' ∧
      tree.Spelled text ∧ c'.At s' ∧
      entry.put slots = some slots' ∧ ∀ tree', tree.Reordered tree' → ∀ slots₁ slots₁',
        entry.put slots₁ = some slots₁' →
          ∃ read₁, fields.accept key slots₁ = some read₁ ∧ Binds read₁ tree' slots₁' := by
  induction fields with
  | nil => cases accepted
  | cons field rest ih =>
    obtain ⟨slot, slots⟩ := slots
    rw [Fields.accept] at accepted
    split at accepted
    case isTrue known =>
      cases accepted
      split at took
      · cases took
      case isFalse empty =>
        obtain ⟨_, c₁, colon, took⟩ := took_bind took
        obtain ⟨a, c₂, took, last⟩ := took_bind took
        cases last
        obtain ⟨gap, s₁, rfl, gaps, at₁⟩ := marks_colon.took at' colon
        obtain ⟨gap', tree, text, s', rfl, gaps', spelled, at'', settles⟩ := h.1 at₁ took
        refine ⟨gap, gap', text, s', tree, .here a, rfl, gaps, gaps', spelled, at'',
          if_neg empty, ?_⟩
        -- in another order, other slots are filled before, but not this one
        rintro tree' reordered ⟨slot₁, slots₁⟩ slots₁' put
        rw [Entry.put] at put
        split at put
        · cases put
        case isFalse empty₁ =>
          cases put
          refine ⟨_, if_pos known, ?_⟩
          obtain ⟨a', (rfl : a' = a), means⟩ := settles reordered
          rw [if_neg empty₁]
          exact means.binds fun a => (some a, slots₁)
    case isFalse unknown =>
      obtain ⟨later, found, rfl⟩ := Option.map_eq_some_iff.mp accepted
      obtain ⟨slots', c₁, took, last⟩ := took_bind took
      cases last
      obtain ⟨gap, gap', text, s', tree, entry, rfl, gaps, gaps', spelled, at'', put, settles⟩ :=
        ih h.2 found took
      refine ⟨gap, gap', text, s', tree, .there entry, rfl, gaps, gaps', spelled, at'', ?_, ?_⟩
      · rw [Entry.put, put]
        rfl
      · rintro tree' reordered ⟨slot₁, slots₁⟩ _ filled
        obtain ⟨slots₁', put₁, rfl⟩ := Option.map_eq_some_iff.mp filled
        obtain ⟨read₁, found₁, binds⟩ := settles tree' reordered slots₁ slots₁' put₁
        refine ⟨do return (slot₁, ← read₁), ?_, fun _ _ _ _ gaps gaps' spelled apart => ?_⟩
        · rw [Fields.accept, if_neg unknown, found₁]
          rfl
        · exact (binds gaps gaps' spelled apart).bind gives_pure

/-- Whether there is a field for a key does not depend on the slots. -/
lemma accept_eq_none (unknown : fields.accept key slots = none) (slots₁ : Slots αs) :
    fields.accept key slots₁ = none := by
  induction fields with
  | nil => rfl
  | cons field rest ih =>
    obtain ⟨slot, slots⟩ := slots
    obtain ⟨slot₁, slots₁⟩ := slots₁
    rw [Fields.accept] at unknown ⊢
    split at unknown
    · cases unknown
    case isFalse other =>
      rw [if_neg other, ih (Option.map_eq_none_iff.mp unknown)]
      rfl

lemma files_slots {other : String → σ → Reader σ} {act : σ → ε → Option σ} {same : ε → ε → Prop}
    (h : fields.Orderless) (files : Files act same other) :
    Files (actSlots αs act) (SameSlots same) (fun key (slots, state) =>
      match fields.accept key slots with
      | some read => do return (← read, state)
      | none => do return (slots, ← other key state)) := by
  rintro key ⟨slots, state⟩ c s both' c' at' took
  cases accepted : fields.accept key slots with
  | some read =>
    dsimp only at took
    rw [accepted] at took
    obtain ⟨slots', c₁, took, last⟩ := took_bind took
    cases last
    obtain ⟨gap, gap', text, s', tree, entry, rfl, gaps, gaps', spelled, at'', put, settles⟩ :=
      took_accept h accepted at' took
    refine ⟨gap, gap', text, s', tree, .inl entry, rfl, gaps, gaps', spelled, at'', ?_,
      fun tree' reordered => ⟨.inl entry, .slot, ?_⟩⟩
    · exact Option.map_eq_some_iff.mpr ⟨slots', put, rfl⟩
    · rintro ⟨slots₁, state₁⟩ _ acts
      obtain ⟨slots₁', put₁, rfl⟩ := Option.map_eq_some_iff.mp acts
      obtain ⟨read₁, accepted₁, binds⟩ := settles tree' reordered slots₁ slots₁' put₁
      intro gap gap' text rest gaps gaps' spelled apart
      dsimp only
      rw [accepted₁]
      exact (binds gaps gaps' spelled apart).bind gives_pure
  | none =>
    dsimp only at took
    rw [accepted] at took
    obtain ⟨state', c₁, took, last⟩ := took_bind took
    cases last
    obtain ⟨gap, gap', text, s', tree, entry, rfl, gaps, gaps', spelled, at'', acts, settles⟩ :=
      files at' took
    refine ⟨gap, gap', text, s', tree, .inr entry, rfl, gaps, gaps', spelled, at'', ?_,
      fun tree' reordered => ?_⟩
    · exact Option.map_eq_some_iff.mpr ⟨state', acts, rfl⟩
    · obtain ⟨entry', same', binds⟩ := settles tree' reordered
      refine ⟨.inr entry', .other same', ?_⟩
      rintro ⟨slots₁, state₁⟩ _ acts
      obtain ⟨state₁', acts₁, rfl⟩ := Option.map_eq_some_iff.mp acts
      intro gap gap' text rest gaps gaps' spelled apart
      dsimp only
      rw [accept_eq_none accepted slots₁]
      exact (binds state₁ state₁' acts₁ gaps gaps' spelled apart).bind gives_pure

end Members

/-! ## Records -/

lemma instant_completed {fields : Fields αs} {slots : Slots αs} :
    Instant (completed fields slots) := by
  rw [completed]
  split
  · exact instant_pure
  · exact instant_badContent

lemma instant_completedList {expected : String} {fields : Fields αs} {length : Nat}
    {slots : Slots αs} :
    Instant (completedList expected fields length slots) := by
  rw [completedList]
  split
  · exact instant_pure
  · exact instant_badContent

lemma orderlessAt_openBracket {d : UInt8} {view : α → β} {room : Nat} {f : Unit → Reader α}
    (h : OrderlessAt d view (advance >>= f)) : OrderlessAt d view (openBracket room >>= f) := by
  rw [openBracket]
  split
  · refine orderlessAt_of_never fun _ given => ?_
    obtain ⟨_, refused, _⟩ := yields_bind given
    exact not_yields_badFormat refused
  · exact h

/-- The fields of a record that is given as a list. -/
lemma took_readList {fields : Fields αs} (h : fields.Orderless) {first : Bool}
    {both : Nat × Slots αs} (at' : c.At s) (took : fields.readList first c = .ok both c') :
    ∃ trees inner gap s', s = inner ++ (gap ++ s') ∧
      Separated Tree.Spelled first trees inner ∧ Gaps gap ∧ c'.At s' ∧
      ∀ trees' inner' gap' rest, List.Forall₂ Tree.Reordered trees trees' →
        Separated Tree.Spelled first trees' inner' → Gaps gap' →
        ∃ gap'', Gaps gap'' ∧
          Gives (fields.readList first) (inner' ++ (gap' ++ 0x5d :: rest)) both
            (gap'' ++ 0x5d :: rest) := by
  induction fields generalizing first c s with
  | nil =>
    cases took
    refine ⟨[], [], [], s, rfl, .nil, List.forall_mem_nil _, at', ?_⟩
    rintro _ inner' gap' rest ⟨⟩ separated gaps
    cases separated
    exact ⟨gap', gaps, gives_pure⟩
  | cons field fields ih =>
    obtain ⟨more, c₁, told, took⟩ := took_bind took
    obtain ⟨s₁, front, at₁⟩ := punctuates_nextElement.took at' told
    cases more with
    | false =>
      -- the list may end early, and what is missing is judged later
      cases took
      cases front with
      | close gaps =>
        refine ⟨[], [], _, _, rfl, .nil, gaps, at₁, ?_⟩
        rintro _ inner' gap' rest ⟨⟩ separated gaps
        cases separated
        exact ⟨[], List.forall_mem_nil _,
          (punctuates_nextElement.gives (.close gaps)).bind gives_pure⟩
    | true =>
      obtain ⟨a, c₂, first', took⟩ := took_bind took
      obtain ⟨⟨n, slots⟩, c₃, later, took⟩ := took_bind took
      cases took
      obtain ⟨before, d, s₂, rfl, rfl, start, separate⟩ := separated_of_front Tree.Spelled front
      obtain ⟨tree, text, s₃, eq, spelled, at₂, settles⟩ := h.1.took start.1 at₁ first'
      obtain ⟨trees, inner, gap, s', rfl, separated, gaps, at₃, gives⟩ := ih h.2 at₂ later
      refine ⟨tree :: trees, _, gap, s', ?_, separate spelled separated, gaps, at₃, ?_⟩
      · rw [eq, List.append_assoc, List.append_assoc]
      · intro _ inner' gap' rest reordered separated' gaps'
        cases reordered with
        | cons reordered others =>
          obtain ⟨a', (rfl : a' = a), means⟩ := settles reordered
          obtain ⟨before', text', inner₁, rfl, spelled', _, later', front'⟩ :=
            front_of_separated 0x5d (fun _ _ spelled => spelled.exists_head) separated'
          obtain ⟨gap'', gaps'', gives'⟩ := gives _ inner₁ gap' rest others later' gaps'
          refine ⟨gap'', gaps'', ?_⟩
          rw [List.append_assoc, List.append_assoc]
          refine (punctuates_nextElement.gives (front' _)).bind ?_
          refine (means (List.forall_mem_nil _) spelled' (later'.apart rfl gaps')).bind ?_
          exact gives'.bind gives_pure

lemma orderlessAt_fields {fields : Fields αs} (h : fields.Orderless)
    {after : Nat × Slots αs → Reader α} (instant : ∀ both, Instant (after both)) :
    OrderlessAt 0x5b id
      (advance >>= fun _ => closedBy (fields.readList true >>= after) closeList) := by
  intro c s a c' at' took
  obtain ⟨c₁, at₁, took⟩ := gives_advance.took_bind at' took
  obtain ⟨c₂, took, closed⟩ := took_closedBy took
  obtain ⟨both, c₃, took, last⟩ := took_bind took
  obtain ⟨now, rfl⟩ := instant both last
  obtain ⟨trees, inner, gap, s₁, (rfl : s = _), separated, gaps, at₂, gives⟩ :=
    took_readList h at₁ took
  obtain ⟨gap', rest, rfl, gaps', at₃⟩ := marks_closeList.took at₂ closed
  refine ⟨.list trees, _, rest, ?_, .list separated (gaps.append gaps'), at₃,
    fun tree' reordered => ?_⟩
  · simp only [List.cons_append, List.append_assoc, List.nil_append]
  · cases reordered with
    | list pairs =>
      refine ⟨a, rfl, fun text' rest' spelled' _ => ?_⟩
      cases spelled' with
      | @list _ inner' gap₁ separated' gaps₁ =>
        obtain ⟨gap'', gaps'', gives'⟩ := gives _ inner' gap₁ rest' pairs separated' gaps₁
        simp only [List.cons_append, List.append_assoc, List.nil_append]
        refine gives_advance.bind
          (Gives.closedBy (gives'.bind ?_) (marks_closeList.gives rest' gaps''))
        rw [now]
        exact gives_pure

lemma files_skipMember : Files (actAdd fun _ _ passed => passed) (SameView id) skipMember := by
  have files := files_add orderless_skipValue fun (_ : Unit) _ passed => passed
  simp only [bind_pure] at files
  exact files

lemma orderless_record {expected : String} {room : Nat} {fields : Fields αs}
    (h : fields.Orderless) :
    Orderless (record expected room fields) := by
  refine (orderlessBy_skipGaps starved_badFormat fun d _ => ?_).located
  split
  · contradiction
  case h_2 seen =>
    obtain rfl := eq_toUInt8 seen
    exact orderlessAt_openBracket (orderlessAt_fields h fun both => instant_completedList)
  case h_3 seen =>
    obtain rfl := eq_toUInt8 seen
    refine orderlessAt_openBracket
      (orderlessAt_object (files_slots h files_skipMember) (unordered_add id _).slots
      (fun both => instant_completed) ?_)
    rintro ⟨slots, _⟩ ⟨slots', _⟩ values ⟨rfl, _⟩ now
    exact ⟨values, now, rfl⟩
  · exact orderlessAt_mismatch

/-! ## Variants -/

/-- What belongs to the tag is read without regard to the order of members. -/
def Payload.Orderless : Payload α → Prop
  | unit _ => True
  | single read => Reader.Orderless read
  | fields read => Reader.Orderless read

lemma Payload.Orderless.read {payload : Payload α} (h : payload.Orderless) :
    Reader.Orderless payload.read := by
  cases payload with
  | unit value => exact orderless_null.bind fun _ => instant_pure
  | single read => exact h
  | fields read => exact h

lemma instant_bare {payload : Payload α} : Instant payload.bare := by
  cases payload with
  | unit value => exact instant_pure
  | single read => exact instant_badContent
  | fields read => exact instant_badContent

lemma eager_tag {variants : List (String × Payload α)} :
    Eager 0x22 (fun _ v => ∃ w, Quoted w ∧ v = 0x22 :: w) (tag variants) := by
  have keyed : Eager 0x22 (fun _ v => ∃ w, Quoted w ∧ v = 0x22 :: w) key :=
    eager_advance (local_stringText.mono fun _ v quoted => ⟨v, quoted, rfl⟩)
  refine (keyed.andThen fun name => ?_).located
  split
  · exact instant_pure
  · exact instant_badContent

/-- A variant that is given as an object: a key, a colon, and what belongs to the tag. -/
def variant (variants : List (String × Payload α)) : Reader α := do
  advance
  if ← nextKey true then do
    let payload ← tag variants
    colon
    let value ← payload.read
    match ← skipGaps with
    | none => badFormat .endInObject
    | some '\x7d' => do advance; return value
    | some _ => badFormat .expectedValue
  else badFormat .expectedValue

section Variants

variable {variants : List (String × Payload α)}

lemma gives_variant {payload : Payload α} {body text rest : List UInt8} {tree : Tree} {value : α}
    (tagged : ∀ rest, Apart rest →
      Gives (tag variants) (0x22 :: (body ++ 0x22 :: rest)) payload rest)
    (means : Means payload.read tree value) (spelled : (Tree.object [(body, tree)]).Spelled text) :
    Gives (variant variants) (text ++ rest) value rest := by
  cases spelled with
  | object inside close =>
    cases inside with
    | first front written later =>
      cases later
      cases written with
      | mk body colon front' spelled =>
        simp only [List.cons_append, List.append_assoc, List.nil_append, List.append_nil]
        refine gives_advance.bind ((punctuates_nextKey.gives (.first front rfl)).bind ?_)
        refine (tagged _ (apart_mark colon rfl)).bind ((marks_colon.gives _ colon).bind ?_)
        refine (means front' spelled (apart_mark close rfl)).bind ?_
        exact (gives_skipGaps_cons close rfl).bind (gives_advance.bind gives_pure)

lemma orderlessAt_variant (h : ∀ payload ∈ variants.map Prod.snd, payload.Orderless) :
    OrderlessAt 0x7b id (variant variants) := by
  intro c s a c' at' took
  obtain ⟨c₁, at₁, took⟩ := gives_advance.took_bind at' took
  obtain ⟨more, c₂, told, took⟩ := took_bind took
  obtain ⟨s₁, front, at₂⟩ := punctuates_nextKey.took at₁ told
  cases front with
  | close gaps => cases took
  | @first gap rest _ gaps start =>
    cases start
    obtain ⟨payload, c₃, tagged, took⟩ := took_bind took
    obtain ⟨v, s₂, rfl, at₃, ⟨_, ⟨body, body', rfl⟩, quoted⟩, gives⟩ := eager_tag at₂ tagged
    cases quoted
    obtain ⟨_, c₄, colon, took⟩ := took_bind took
    obtain ⟨gap₁, s₃, rfl, gaps₁, at₄⟩ := marks_colon.took at₃ colon
    obtain ⟨value, c₅, took, last⟩ := took_bind took
    have orderless := h payload (mem_of_tag ⟨c₂, c₃, tagged⟩)
    obtain ⟨gap₂, tree, text, s₄, rfl, gaps₂, spelled, at₅, settles⟩ := orderless.read at₄ took
    obtain ⟨gap₃, s₅, c₆, o, rfl, gaps₃, _, at₆, seen, last⟩ := took_skipGaps at₅ last
    split at last
    · cases last
    · obtain ⟨s', rfl⟩ := exists_eq_cons seen
      obtain ⟨c₇, at₇, last⟩ := gives_advance.took_bind at₆ last
      cases last
      refine ⟨.object [(body, tree)], _, s', ?_,
        .object (.first gaps (.mk body' gaps₁ gaps₂ spelled) .nil) gaps₃, at₇,
        fun tree' reordered => ?_⟩
      · simp only [List.cons_append, List.append_assoc, List.nil_append, List.append_nil]
        rfl
      · obtain ⟨tree₁, rfl, inside⟩ := reordered.of_single
        obtain ⟨a', (rfl : a' = a), means⟩ := settles inside
        refine ⟨a', rfl, fun text' rest' spelled' _ => ?_⟩
        refine gives_variant (fun rest apart => ?_) means spelled'
        have tagged' := gives rest (.inr apart)
        simp only [List.cons_append, List.append_assoc, List.nil_append] at tagged'
        exact tagged'
    · cases last

end Variants

lemma orderless_tagged {room : Nat} {variants : List (String × Payload α)}
    (h : ∀ payload ∈ variants.map Prod.snd, payload.Orderless) :
    Orderless (tagged room variants) := by
  refine orderlessBy_skipGaps starved_badFormat fun d _ => ?_
  split
  · contradiction
  case h_2 seen =>
    obtain rfl := eq_toUInt8 seen
    exact ((eager_tag.andThen fun _ => instant_bare).mono fun _ _ quoted => .inr quoted).orderlessAt
  case h_3 seen =>
    obtain rfl := eq_toUInt8 seen
    exact orderlessAt_openBracket (orderlessAt_variant h)
  · exact orderlessAt_badFormat

end Reader

end Brickwork.Document
