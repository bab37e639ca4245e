import Brickwork.Proofs.Document.Tokens

/-!
# Readers that do not look at the order of members

What such a reader takes is the text of a tree, and it gives the same for every text of the tree and
of every reordering of it. Some readers keep more of the document than what is looked at later: then
what they give is the same only as far as it is looked at, which is its view.
-/

namespace Brickwork.Document

namespace Reader

variable {α β γ σ : Type} {c c' : Cursor} {s s₁ gap rest : List UInt8} {a : α} {b : β}

/-! ## Gaps -/

lemma ofUInt8_eq_iff {b : UInt8} {ch : Char} (small : Char.ofUInt8 ch.toUInt8 = ch) :
    Char.ofUInt8 b = ch ↔ b = ch.toUInt8 :=
  ⟨fun eq => (toUInt8_of_ofUInt8 eq).symm, fun eq => eq ▸ small⟩

lemma isGap_ofUInt8 (b : UInt8) : isGap (Char.ofUInt8 b) = isBlank b := by
  have char {ch : Char} (small : Char.ofUInt8 ch.toUInt8 = ch) :
      decide (Char.ofUInt8 b = ch) = decide (b = ch.toUInt8) :=
    decide_eq_decide.mpr (ofUInt8_eq_iff small)
  rw [isGap, isBlank, char rfl, char rfl, char rfl, char rfl]
  rfl

lemma gives_skipGaps (gaps : Gaps gap) (solid : Solid s) :
    Gives skipGaps (gap ++ s) (s.head?.map Char.ofUInt8) s := by
  refine Goes.gives ?_
  induction gap with
  | nil =>
    refine .done (gives_peek.bind ?_)
    cases s with
    | nil => exact gives_pure
    | cons b s =>
      dsimp only [List.nil_append, List.head?, Option.map]
      rw [isGap_ofUInt8, solid b rfl]
      exact gives_pure
  | cons b gap ih =>
    obtain ⟨blank, gaps⟩ := List.forall_mem_cons.mp gaps
    refine .again (gives_peek.bind ?_) (Nat.lt_succ_self _) (ih gaps)
    dsimp only [List.cons_append, List.head?, Option.map]
    rw [isGap_ofUInt8, blank]
    exact gives_advance.bind gives_pure

lemma took_skipGaps {f : Option Char → Reader β} (at' : c.At s)
    (took : (skipGaps >>= f) c = .ok b c') :
    ∃ gap s₁ c₁ next, s = gap ++ s₁ ∧ Gaps gap ∧ Solid s₁ ∧ c₁.At s₁ ∧
      s₁.head?.map Char.ofUInt8 = next ∧ f next c₁ = .ok b c' := by
  obtain ⟨gap, s₁, rfl, gaps, solid⟩ := exists_gap s
  obtain ⟨c₁, at₁, took⟩ := (gives_skipGaps gaps solid).took_bind at' took
  exact ⟨gap, s₁, c₁, _, rfl, gaps, solid, at₁, rfl, took⟩

lemma exists_cons {ch : Char} (seen : s.head?.map Char.ofUInt8 = some ch) :
    ∃ d rest, s = d :: rest ∧ Char.ofUInt8 d = ch := by
  cases s with
  | nil => cases seen
  | cons d rest => exact ⟨d, rest, rfl, Option.some.inj seen⟩

lemma exists_eq_cons {ch : Char} (seen : s.head?.map Char.ofUInt8 = some ch) :
    ∃ rest, s = ch.toUInt8 :: rest := by
  obtain ⟨d, rest, rfl, eq⟩ := exists_cons seen
  rw [toUInt8_of_ofUInt8 eq]
  exact ⟨rest, rfl⟩

/-- A byte that comes next behind gaps. -/
lemma gives_skipGaps_cons {d : UInt8} (gaps : Gaps gap) (solid : isBlank d = false) :
    Gives skipGaps (gap ++ d :: s) (some (Char.ofUInt8 d)) (d :: s) := by
  refine gives_skipGaps gaps ?_
  rintro _ ⟨⟩
  exact solid

/-- What a reader takes that passes over gaps first. -/
lemma took_eager {f : Option Char → Reader α} {P : α → List UInt8 → Prop}
    (ended : ∀ a, ¬(f none).Yields a)
    (given : ∀ d, isBlank d = false → Eager d P (f (some (Char.ofUInt8 d)))) (at' : c.At s)
    (took : (skipGaps >>= f) c = .ok a c') :
    ∃ gap v s', s = gap ++ (v ++ s') ∧ Gaps gap ∧ c'.At s' ∧ P a v ∧
      ∀ gap' rest, Gaps gap' → Follows rest s' →
        Gives (skipGaps >>= f) (gap' ++ (v ++ rest)) a rest := by
  obtain ⟨gap, s₁, c₁, _, rfl, gaps, solid, at₁, rfl, took⟩ := took_skipGaps at' took
  cases s₁ with
  | nil => exact absurd ⟨c₁, c', took⟩ (ended a)
  | cons d s₁ =>
    obtain ⟨v, s', rfl, at'', shape, gives⟩ := given d (solid d rfl) at₁ took
    refine ⟨gap, d :: v, s', rfl, gaps, at'', shape, fun gap' rest gaps' follows => ?_⟩
    exact (gives_skipGaps_cons gaps' (solid d rfl)).bind (gives rest follows)

/-! ## Meanings -/

/-- The reader gives the value for every text of the tree. -/
def Means (read : Reader α) (tree : Tree) (a : α) : Prop :=
  ∀ ⦃gap text rest⦄, Gaps gap → tree.Spelled text → Apart rest →
    Gives read (gap ++ (text ++ rest)) a rest

/-- The value has the same view as one for every reordering of the tree. -/
def Settles (view : α → β) (read : Reader α) (tree : Tree) (a : α) : Prop :=
  ∀ ⦃tree'⦄, tree.Reordered tree' → ∃ a', view a' = view a ∧ Means read tree' a'

/-- What the reader takes is the text of a tree, and the order of members does not show in the
view. -/
def OrderlessBy (view : α → β) (read : Reader α) : Prop :=
  ∀ ⦃c s a c'⦄, c.At s → read c = .ok a c' →
    ∃ gap tree text s', s = gap ++ (text ++ s') ∧ Gaps gap ∧ tree.Spelled text ∧ c'.At s' ∧
      Settles view read tree a

/-- The order of members does not show at all. -/
abbrev Orderless (read : Reader α) : Prop :=
  OrderlessBy id read

/-- The same of a reader that stands before the first byte of the text. -/
def OrderlessAt (d : UInt8) (view : α → β) (read : Reader α) : Prop :=
  ∀ ⦃c s a c'⦄, c.At (d :: s) → read c = .ok a c' →
    ∃ (tree : Tree) (text s' : List UInt8), d :: s = text ++ s' ∧ tree.Spelled text ∧ c'.At s' ∧
      ∀ tree', tree.Reordered tree' → ∃ a', view a' = view a ∧
        ∀ text' rest, tree'.Spelled text' → Apart rest → Gives read (text' ++ rest) a' rest

/-- The reader gives nothing at the end of the input. -/
def Starved (read : Reader α) : Prop :=
  ∀ ⦃c a c'⦄, c.At [] → read c ≠ .ok a c'

section Orderless

variable {view : α → β} {read : Reader α} {d : UInt8}

lemma orderlessBy_of_never (never : ∀ a, ¬read.Yields a) : OrderlessBy view read :=
  fun c _ a c' _ took => absurd ⟨c, c', took⟩ (never a)

lemma orderlessAt_of_never (never : ∀ a, ¬read.Yields a) : OrderlessAt d view read :=
  fun c _ a c' _ took => absurd ⟨c, c', took⟩ (never a)

lemma starved_of_never (never : ∀ a, ¬read.Yields a) : Starved read :=
  fun c a c' _ took => never a ⟨c, c', took⟩

lemma orderlessAt_badFormat {error : FormatError} : OrderlessAt d view (badFormat error) :=
  orderlessAt_of_never fun _ => not_yields_badFormat

lemma orderlessAt_mismatch {expected : String} : OrderlessAt d view (mismatch expected) :=
  orderlessAt_of_never fun _ => not_yields_mismatch

lemma starved_badFormat {error : FormatError} : Starved (badFormat error : Reader α) :=
  starved_of_never fun _ => not_yields_badFormat

lemma OrderlessBy.starved (h : OrderlessBy view read) : Starved read := by
  intro c a c' at' took
  obtain ⟨gap, tree, text, s', eq, _, spelled, _⟩ := h at' took
  obtain ⟨b, rest, rfl, _⟩ := spelled.exists_head
  exact List.append_ne_nil_of_right_ne_nil gap (List.cons_ne_nil b _) eq.symm

/-- A reader that passes over gaps first. -/
lemma orderlessBy_skipGaps {f : Option Char → Reader α} (ended : Starved (f none))
    (given : ∀ d, isBlank d = false → OrderlessAt d view (f (some (Char.ofUInt8 d)))) :
    OrderlessBy view (skipGaps >>= f) := by
  intro c s a c' at' took
  obtain ⟨gap, s₁, c₁, _, rfl, gaps, solid, at₁, rfl, took⟩ := took_skipGaps at' took
  cases s₁ with
  | nil => exact absurd took (ended at₁)
  | cons d s₁ =>
    obtain ⟨tree, text, s', eq, spelled, at'', settles⟩ := given d (solid d rfl) at₁ took
    refine ⟨gap, tree, text, s', by rw [eq], gaps, spelled, at'', fun tree' reordered => ?_⟩
    obtain ⟨a', same, gives⟩ := settles tree' reordered
    refine ⟨a', same, fun gap' text' rest gaps' spelled' apart => ?_⟩
    -- the texts of both trees start with the byte that has been seen
    have head := reordered.head?_eq spelled spelled'
    obtain ⟨e, text, rfl, _⟩ := spelled.exists_head
    obtain ⟨e', text', rfl, solid', _⟩ := spelled'.exists_head
    cases head
    cases eq
    exact (gives_skipGaps_cons gaps' solid').bind (gives _ rest spelled' apart)

/-- A reader that may pass over gaps need not find any. -/
lemma OrderlessBy.took (h : OrderlessBy view read) (solid : isBlank d = false) (at' : c.At (d :: s))
    (took : read c = .ok a c') :
    ∃ tree text s', d :: s = text ++ s' ∧ tree.Spelled text ∧ c'.At s' ∧
      Settles view read tree a := by
  obtain ⟨gap, tree, text, s', eq, gaps, rest⟩ := h at' took
  cases gap with
  | nil => exact ⟨tree, text, s', eq, rest⟩
  | cons b gap =>
    cases eq
    rw [gaps d List.mem_cons_self] at solid
    cases solid

lemma OrderlessBy.ahead (h : OrderlessBy view read) (solid : isBlank d = false) :
    OrderlessAt d view read := by
  intro c s a c' at' took
  obtain ⟨tree, text, s', eq, spelled, at'', settles⟩ := h.took solid at' took
  refine ⟨tree, text, s', eq, spelled, at'', fun tree' reordered => ?_⟩
  obtain ⟨a', same, means⟩ := settles reordered
  exact ⟨a', same, fun text' rest spelled' apart => means (List.forall_mem_nil _) spelled' apart⟩

lemma OrderlessBy.located (h : OrderlessBy view read) : OrderlessBy view (located read) := by
  intro c s a c' at' took
  obtain ⟨gap, tree, text, s', eq, gaps, spelled, at'', settles⟩ := h at' (took_located took)
  refine ⟨gap, tree, text, s', eq, gaps, spelled, at'', fun tree' reordered => ?_⟩
  obtain ⟨a', same, means⟩ := settles reordered
  exact ⟨a', same, fun _ _ _ gaps' spelled' apart => (means gaps' spelled' apart).located⟩

/-- The reader gives a value at once, or none. -/
def Instant (read : Reader α) : Prop :=
  ∀ ⦃c a c'⦄, read c = .ok a c' → read = pure a ∧ c' = c

lemma instant_pure : Instant (pure a) := by
  intro c a' c' took
  cases took
  exact ⟨rfl, rfl⟩

lemma Instant.bind {f : α → Reader β} (h : Instant read) (next : ∀ a, Instant (f a)) :
    Instant (read >>= f) := by
  intro c b c' took
  obtain ⟨a, c₁, first, took⟩ := took_bind took
  obtain ⟨rfl, rfl⟩ := h first
  obtain ⟨now, rfl⟩ := next a took
  refine ⟨?_, rfl⟩
  rw [pure_bind, now]

lemma instant_of_never (never : ∀ a, ¬read.Yields a) : Instant read :=
  fun c a c' took => absurd ⟨c, c', took⟩ (never a)

lemma instant_badContent {error : ContentError} : Instant (badContent error : Reader α) :=
  instant_of_never fun _ => not_yields_badContent

lemma Orderless.bind {f : α → Reader β} (h : Orderless read) (instant : ∀ a, Instant (f a)) :
    Orderless (read >>= f) := by
  intro c s b c' at' took
  obtain ⟨a, c₁, first, took⟩ := took_bind took
  obtain ⟨now, rfl⟩ := instant a took
  obtain ⟨gap, tree, text, s', eq, gaps, spelled, at'', settles⟩ := h at' first
  refine ⟨gap, tree, text, s', eq, gaps, spelled, at'', fun tree' reordered => ⟨b, rfl, ?_⟩⟩
  obtain ⟨a', (rfl : a' = a), means⟩ := settles reordered
  intro gap' text' rest gaps' spelled' apart
  refine (means gaps' spelled' apart).bind ?_
  rw [now]
  exact gives_pure

/-! ## Plain values -/

/-- A text with nothing inside that could be reordered. -/
def Scalar (text : List UInt8) : Prop :=
  IsWord text ∨ ∃ v, Quoted v ∧ text = 0x22 :: v

lemma Scalar.spelled {text : List UInt8} (h : Scalar text) :
    ∃ tree : Tree, tree.Spelled text ∧
      ∀ tree' text', tree.Reordered tree' → tree'.Spelled text' → text' = text := by
  obtain isWord | ⟨_, ⟨body, body', rfl⟩, rfl⟩ := h
  · refine ⟨.word text, .word isWord, ?_⟩
    rintro _ text' ⟨⟩ ⟨⟩
    rfl
  · refine ⟨.string body, .string body', ?_⟩
    rintro _ text' ⟨⟩ ⟨⟩
    rfl

lemma Eager.orderlessAt (h : Eager d (fun _ v => Scalar v) read) : OrderlessAt d view read := by
  intro c s a c' at' took
  obtain ⟨v, s', rfl, at'', scalar, gives⟩ := h at' took
  obtain ⟨tree, spelled, same⟩ := scalar.spelled
  refine ⟨tree, d :: v, s', rfl, spelled, at'', fun tree' reordered => ⟨a, rfl, ?_⟩⟩
  intro text' rest spelled' apart
  rw [same tree' text' reordered spelled']
  exact gives rest (.inr apart)

lemma Eager.located {P : α → List UInt8 → Prop} (h : Eager d P read) :
    Eager d P (located read) := by
  intro c s a c' at' took
  obtain ⟨v, s', eq, at'', shape, gives⟩ := h at' (took_located took)
  exact ⟨v, s', eq, at'', shape, fun rest follows => (gives rest follows).located⟩

lemma Local.eager {P : α → List UInt8 → Prop} (h : Local P read)
    (nonempty : ∀ a v, P a v → v ≠ []) :
    Eager d P read := by
  intro c s a c' at' took
  obtain ⟨v, s', eq, at'', shape, gives⟩ := h at' took
  obtain ⟨b, v, rfl⟩ := List.exists_cons_of_ne_nil (nonempty a v shape)
  cases eq
  exact ⟨v, s', rfl, at'', shape, gives⟩

lemma Instant.local {P : α → List UInt8 → Prop} (h : Instant read) (shape : ∀ a, P a []) :
    Local P read := by
  intro c s a c' at' took
  obtain ⟨now, rfl⟩ := h took
  refine ⟨[], s, rfl, at', shape a, fun rest _ => ?_⟩
  rw [now]
  exact gives_pure

section

variable {R : List UInt8 → Prop} {f : α → Reader β}

lemma Local.andThen (h : Local (fun _ v => R v) read) (instant : ∀ a, Instant (f a)) :
    Local (fun _ v => R v) (read >>= f) := by
  refine h.bind fun a v shape => (instant a).local fun _ => ?_
  rw [List.append_nil]
  exact shape

lemma Eager.andThen (h : Eager d (fun _ v => R v) read) (instant : ∀ a, Instant (f a)) :
    Eager d (fun _ v => R v) (read >>= f) := by
  refine h.bind fun a v shape => (instant a).local fun _ => ?_
  rw [List.append_nil]
  exact shape

end

/-- The rest of a word whose first byte has been seen. -/
lemma local_word_tail {first : Char} {letters : List Char} (head : Char.ofUInt8 d = first)
    (inside : Letters ((first :: letters).map Char.toUInt8)) :
    Local (fun _ v => Scalar (d :: v)) (word letters) := by
  obtain ⟨front, inside⟩ := List.forall_mem_cons.mp inside
  rw [toUInt8_of_ofUInt8 head] at front
  exact (local_word inside).mono fun _ v tail => .inl ⟨List.cons_ne_nil d v, tail.cons front⟩

lemma Local.number_tail (h : Local (fun _ v => IsWord v) read) (head : Char.ofUInt8 d = '-') :
    Local (fun _ v => Scalar (d :: v)) read := by
  obtain rfl := toUInt8_of_ofUInt8 head
  exact h.mono fun _ v isWord => .inl ⟨List.cons_ne_nil _ v, isWord.2.cons rfl⟩

lemma eager_number {negative : Bool} : Eager d (fun _ v => Scalar v) (number negative) :=
  (local_number.eager fun _ _ isWord => isWord.1).mono fun _ _ isWord => .inl isWord

lemma Local.string_tail (h : Local (fun _ v => Quoted v) read) (head : Char.ofUInt8 d = '"') :
    Local (fun _ v => Scalar (d :: v)) read := by
  obtain rfl := toUInt8_of_ofUInt8 head
  exact h.mono fun _ v quoted => .inr ⟨v, quoted, rfl⟩

lemma orderless_string : Orderless string := by
  refine orderlessBy_skipGaps starved_badFormat fun d _ => ?_
  split
  · contradiction
  case h_2 head =>
    exact (eager_advance (local_stringText.string_tail (Option.some.inj head))).orderlessAt
  · exact orderlessAt_mismatch

lemma instant_ofExcept {result : Except ContentError α} : Instant (ofExcept result) := by
  cases result with
  | ok a => exact instant_pure
  | error error => exact instant_badContent

lemma orderless_checkedString {check : String → Except ContentError α} :
    Orderless (checkedString check) :=
  orderless_string.bind fun _ => instant_ofExcept

lemma orderless_checkedNumber {expected : String} {check : Number → Except ContentError α} :
    Orderless (checkedNumber expected check) := by
  have judged (n : Number) : Instant (ofExcept (check n)) := instant_ofExcept
  refine (orderlessBy_skipGaps starved_badFormat fun d _ => ?_).located
  dsimp only
  split
  · contradiction
  case h_2 head =>
    exact
      (eager_advance ((local_number.number_tail (Option.some.inj head)).andThen judged)).orderlessAt
  case h_3 =>
    split
    · exact (eager_number.andThen judged).orderlessAt
    · exact orderlessAt_mismatch

lemma orderless_optional (h : Orderless read) : Orderless (optional read) := by
  refine orderlessBy_skipGaps (h.bind fun _ => instant_pure).starved fun d solid => ?_
  split
  case h_1 head =>
    exact (eager_advance ((local_word_tail (Option.some.inj head) (by decide)).andThen fun _ =>
      instant_pure)).orderlessAt
  · exact (h.bind fun _ => instant_pure).ahead solid

lemma orderless_null : Orderless null := by
  refine orderlessBy_skipGaps starved_badFormat fun d _ => ?_
  split
  · contradiction
  case h_2 head =>
    exact (eager_advance (local_word_tail (Option.some.inj head) (by decide))).orderlessAt
  · exact orderlessAt_mismatch

end Orderless

end Reader

end Brickwork.Document
