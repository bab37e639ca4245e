import Brickwork.Proofs.Document.Tree
import Brickwork.Proofs.Document.Yields

/-!
# What readers take

On an input that does not fail, what a reader gives depends only on the bytes ahead, and so the
position of the cursor can be left out of account. A reader of a word or a string needs no more than
the bytes that it takes, and one byte behind them, which only has to end the word.
-/

namespace Brickwork.Document

/-- The cursor stands before the given bytes, and the input ends well behind them. -/
def Cursor.At (c : Cursor) (s : List UInt8) : Prop :=
  c.rest = s ∧ c.ending = .complete

namespace Reader

variable {α β σ : Type} {s s₁ s₂ : List UInt8} {a : α} {b : β}

/-- From the first bytes, wherever they stand, the reader gives the value and leaves the second. -/
def Gives (read : Reader α) (s : List UInt8) (a : α) (s' : List UInt8) : Prop :=
  ∀ c : Cursor, c.At s → ∃ c' : Cursor, read c = .ok a c' ∧ c'.At s'

/-! ## Steps -/

lemma gives_pure : Gives (pure a) s a s :=
  fun c at' => ⟨c, rfl, at'⟩

lemma Gives.bind {read : Reader α} {f : α → Reader β} (first : Gives read s a s₁)
    (next : Gives (f a) s₁ b s₂) : Gives (read >>= f) s b s₂ := by
  intro c at'
  obtain ⟨c₁, took, at₁⟩ := first c at'
  obtain ⟨c₂, took', at₂⟩ := next c₁ at₁
  refine ⟨c₂, ?_, at₂⟩
  change EStateM.bind read f c = _
  rw [EStateM.bind, took]
  exact took'

lemma Gives.located {read : Reader α} (h : Gives read s a s₁) : Gives (located read) s a s₁ := by
  intro c at'
  obtain ⟨c₁, took, at₁⟩ := h c at'
  exact ⟨c₁, by rw [Reader.located, took], at₁⟩

lemma Gives.closedBy {body : Reader α} {close : Reader Unit} (h : Gives body s a s₁)
    (closes : Gives close s₁ () s₂) : Gives (closedBy body close) s a s₂ := by
  intro c at'
  obtain ⟨c₁, took, at₁⟩ := h c at'
  obtain ⟨c₂, took', at₂⟩ := closes c₁ at₁
  refine ⟨c₂, ?_, at₂⟩
  rw [Reader.closedBy, took]
  simp only [took']

lemma gives_peekByte : Gives peekByte s s.head? s := by
  rintro ⟨rest, ending, ahead, position⟩ ⟨rfl, rfl⟩
  cases rest with
  | nil => exact ⟨_, rfl, rfl, rfl⟩
  | cons b rest => cases ahead <;> exact ⟨_, rfl, rfl, rfl⟩

lemma gives_advance : Gives advance s () s.tail := by
  rintro ⟨rest, ending, ahead, position⟩ ⟨rfl, rfl⟩
  refine ⟨_, rfl, rfl, ?_⟩
  cases rest with
  | nil => rfl
  | cons b rest => cases ahead <;> rfl

lemma gives_nextByte : Gives nextByte s s.head? s.tail :=
  gives_peekByte.bind (gives_advance.bind gives_pure)

lemma gives_peek : Gives peek s (s.head?.map Char.ofUInt8) s :=
  gives_peekByte.bind gives_pure

lemma gives_next : Gives next s (s.head?.map Char.ofUInt8) s.tail :=
  gives_nextByte.bind gives_pure

/-! ## Steps back -/

section Took

variable {c c' : Cursor}

/-- A reader takes from a place what it gives from there. -/
lemma Gives.took {read : Reader α} {a' : α} (h : Gives read s a s₁) (at' : c.At s)
    (took : read c = .ok a' c') : a' = a ∧ c'.At s₁ := by
  obtain ⟨c₁, took₁, at₁⟩ := h c at'
  rw [took] at took₁
  cases took₁
  exact ⟨rfl, at₁⟩

lemma took_bind {read : Reader α} {f : α → Reader β} (took : (read >>= f) c = .ok b c') :
    ∃ a c₁, read c = .ok a c₁ ∧ f a c₁ = .ok b c' := by
  change EStateM.bind read f c = _ at took
  rw [EStateM.bind] at took
  cases first : read c with
  | ok a c₁ =>
    rw [first] at took
    exact ⟨a, c₁, rfl, took⟩
  | error fault c₁ =>
    rw [first] at took
    cases took

lemma Gives.took_bind {read : Reader α} {f : α → Reader β} (h : Gives read s a s₁) (at' : c.At s)
    (took : (read >>= f) c = .ok b c') : ∃ c₁ : Cursor, c₁.At s₁ ∧ f a c₁ = .ok b c' := by
  obtain ⟨a, c₁, first, next⟩ := Reader.took_bind took
  obtain ⟨rfl, at₁⟩ := h.took at' first
  exact ⟨c₁, at₁, next⟩

lemma took_located {read : Reader α} (took : located read c = .ok a c') : read c = .ok a c' := by
  rw [located] at took
  split at took
  · cases took
    assumption
  · cases took

lemma took_closedBy {body : Reader α} {close : Reader Unit}
    (took : closedBy body close c = .ok a c') :
    ∃ c₁, body c = .ok a c₁ ∧ close c₁ = .ok () c' := by
  rw [closedBy] at took
  split at took
  case h_1 b c₁ first =>
    split at took
    · cases took
      exact ⟨c₁, first, by assumption⟩
    · cases took
  case h_2 => split at took <;> cases took

end Took

/-! ## Loops -/

section Loops

variable {step : σ → Reader (Step σ α)} {state : σ}

/-- The rounds of a loop that ends. -/
inductive Rounds (step : σ → Reader (Step σ α)) : σ → Cursor → α → Cursor → Prop
  | done {state : σ} {a : α} {c c' : Cursor}
      (last : step state c = .ok (.done a) c') : Rounds step state c a c'
  | again {state state' : σ} {a : α} {c c₁ c' : Cursor}
      (first : step state c = .ok (.again state') c₁)
    (later : Rounds step state' c₁ a c') : Rounds step state c a c'

lemma rounds_of_iterate {c c' : Cursor} (took : iterate step state c = .ok a c') :
    Rounds step state c a c' := by
  rw [iterate] at took
  generalize c.rest = fuel at took
  induction fuel generalizing state c with
  | nil =>
    obtain ⟨next, c₁, first, took⟩ := took_bind took
    cases next with
    | again state' => cases took
    | done a =>
      cases took
      exact .done first
  | cons _ fuel ih =>
    obtain ⟨next, c₁, first, took⟩ := took_bind took
    cases next with
    | again state' => exact .again first (ih took)
    | done a =>
      cases took
      exact .done first

/-- The rounds that a loop makes from given bytes. Each leaves fewer bytes than the one before. -/
inductive Goes (step : σ → Reader (Step σ α)) : σ → List UInt8 → α → List UInt8 → Prop
  | done {state : σ} {a : α} {s s' : List UInt8} (last : Gives (step state) s (.done a) s') :
    Goes step state s a s'
  | again {state state' : σ} {a : α} {s s₁ s' : List UInt8}
      (first : Gives (step state) s (.again state') s₁)
    (fewer : s₁.length < s.length) (later : Goes step state' s₁ a s') : Goes step state s a s'

lemma Goes.gives (goes : Goes step state s a s₁) : Gives (iterate step state) s a s₁ := by
  -- the fuel is as long as the bytes, or longer
  have enough {fuel : List UInt8} (more : s.length ≤ fuel.length) :
      Gives (repeatOver step fuel state) s a s₁ := by
    induction goes generalizing fuel with
    | done last => cases fuel <;> exact last.bind gives_pure
    | again first fewer later ih =>
      cases fuel with
      | nil => exact absurd (Nat.lt_of_lt_of_le fewer more) (Nat.not_lt_zero _)
      | cons b fuel => exact first.bind (ih (Nat.le_of_lt_succ (Nat.lt_of_lt_of_le fewer more)))
  intro c at'
  exact enough (Nat.le_of_eq (congrArg List.length at'.1.symm)) c at'

end Loops

/-! ## Characters -/

lemma toUInt8_of_ofUInt8 {b : UInt8} {ch : Char} (h : Char.ofUInt8 b = ch) : ch.toUInt8 = b := by
  rw [← h]
  exact UInt8.toUInt8_toUInt32 b

/-- The byte of a character that has been seen. -/
lemma eq_toUInt8 {b : UInt8} {ch : Char} (seen : some (Char.ofUInt8 b) = some ch) :
    b = ch.toUInt8 :=
  (toUInt8_of_ofUInt8 (Option.some.inj seen)).symm

lemma isWordByte_of_isDigit {b : UInt8} (digit : (Char.ofUInt8 b).isDigit = true) :
    isWordByte b = true := by
  have bounds : 48 ≤ b.toNat ∧ b.toNat ≤ 57 := by
    rw [Char.isDigit, Bool.and_eq_true, decide_eq_true_eq, decide_eq_true_eq] at digit
    exact ⟨UInt32.le_iff_toNat_le.mp digit.1, UInt32.le_iff_toNat_le.mp digit.2⟩
  simp only [isWordByte, isBlank, isMark, ← UInt8.toNat_inj]
  simp
  omega

/-! ## Tokens -/

/-- The first bytes start like the second, or they do not go on with a word. -/
def Follows (rest s : List UInt8) : Prop :=
  rest.head? = s.head? ∨ Apart rest

lemma Follows.append {rest s : List UInt8} (h : Follows rest s) (v : List UInt8) :
    Follows (v ++ rest) (v ++ s) := by
  cases v with
  | nil => exact h
  | cons b v => exact .inl rfl

/-- What the reader takes is of the given shape, and the reader takes it and gives the same wherever
it stands with a byte behind it that follows it as well. -/
def Local (shape : α → List UInt8 → Prop) (read : Reader α) : Prop :=
  ∀ ⦃c s a c'⦄, c.At s → read c = .ok a c' →
    ∃ v s', s = v ++ s' ∧ c'.At s' ∧ shape a v ∧ ∀ rest, Follows rest s' →
      Gives read (v ++ rest) a rest

/-- The same of a reader that stands before the given byte and takes it. -/
def Eager (b : UInt8) (shape : α → List UInt8 → Prop) (read : Reader α) : Prop :=
  ∀ ⦃c s a c'⦄, c.At (b :: s) → read c = .ok a c' →
    ∃ v s', s = v ++ s' ∧ c'.At s' ∧ shape a (b :: v) ∧
      ∀ rest, Follows rest s' → Gives read (b :: (v ++ rest)) a rest

section Tokens

variable {P : α → List UInt8 → Prop} {Q : β → List UInt8 → Prop} {read : Reader α}
  {f : α → Reader β}

lemma local_of_never (never : ∀ a, ¬read.Yields a) : Local P read :=
  fun c _ a c' _ took => absurd ⟨c, c', took⟩ (never a)

lemma eager_of_never {d : UInt8} (never : ∀ a, ¬read.Yields a) : Eager d P read :=
  fun c _ a c' _ took => absurd ⟨c, c', took⟩ (never a)

lemma local_badFormat {error : FormatError} : Local P (badFormat error) :=
  local_of_never fun _ => not_yields_badFormat

lemma eager_badFormat {d : UInt8} {error : FormatError} : Eager d P (badFormat error) :=
  eager_of_never fun _ => not_yields_badFormat

lemma local_pure (shape : P a []) : Local P (pure a) := by
  intro c s a' c' at' took
  cases took
  exact ⟨[], s, rfl, at', shape, fun _ _ => gives_pure⟩

lemma Local.mono {P' : α → List UInt8 → Prop} (h : Local P read) (imp : ∀ a v, P a v → P' a v) :
    Local P' read := by
  intro c s a c' at' took
  obtain ⟨v, s', eq, at'', shape, gives⟩ := h at' took
  exact ⟨v, s', eq, at'', imp a v shape, gives⟩

lemma Eager.mono {P' : α → List UInt8 → Prop} {d : UInt8} (h : Eager d P read)
    (imp : ∀ a v, P a v → P' a v) :
    Eager d P' read := by
  intro c s a c' at' took
  obtain ⟨v, s', eq, at'', shape, gives⟩ := h at' took
  exact ⟨v, s', eq, at'', imp a (d :: v) shape, gives⟩

/-- The shape of what comes behind is to be shown for what has been taken in front of it. -/
lemma Local.bind (h : Local P read)
    (next : ∀ a v, P a v → Local (fun b v' => Q b (v ++ v')) (f a)) :
    Local Q (read >>= f) := by
  intro c s b c' at' took
  obtain ⟨a, c₁, first, took⟩ := Reader.took_bind took
  obtain ⟨v, s₁, rfl, at₁, shape, gives⟩ := h at' first
  obtain ⟨v', s', rfl, at'', shape', gives'⟩ := next a v shape at₁ took
  refine ⟨v ++ v', s', (List.append_assoc v v' s').symm, at'', shape', fun rest follows => ?_⟩
  rw [List.append_assoc]
  exact (gives _ (follows.append v')).bind (gives' rest follows)

lemma Eager.bind {d : UInt8} (h : Eager d P read)
    (next : ∀ a v, P a (d :: v) → Local (fun b v' => Q b (d :: (v ++ v'))) (f a)) :
    Eager d Q (read >>= f) := by
  intro c s b c' at' took
  obtain ⟨a, c₁, first, took⟩ := Reader.took_bind took
  obtain ⟨v, s₁, rfl, at₁, shape, gives⟩ := h at' first
  obtain ⟨v', s', rfl, at'', shape', gives'⟩ := next a v shape at₁ took
  refine ⟨v ++ v', s', (List.append_assoc v v' s').symm, at'', shape', fun rest follows => ?_⟩
  rw [List.append_assoc]
  exact (gives _ (follows.append v')).bind (gives' rest follows)

lemma eager_advance {d : UInt8} {next : Unit → Reader β}
    (h : Local (fun b v => Q b (d :: v)) (next ())) :
    Eager d Q (advance >>= next) := by
  intro c s b c' at' took
  obtain ⟨c₁, at₁, took⟩ := gives_advance.took_bind at' took
  obtain ⟨v, s', rfl, at'', shape, gives⟩ := h at₁ took
  exact ⟨v, s', rfl, at'', shape, fun rest follows => gives_advance.bind (gives rest follows)⟩

lemma local_nextByte {f : Option UInt8 → Reader β} (ended : ∀ b, ¬(f none).Yields b)
    (given : ∀ d, Local (fun b v => Q b (d :: v)) (f (some d))) : Local Q (nextByte >>= f) := by
  intro c s b c' at' took
  obtain ⟨c₁, at₁, took⟩ := gives_nextByte.took_bind at' took
  cases s with
  | nil => exact absurd ⟨c₁, c', took⟩ (ended b)
  | cons d s =>
    obtain ⟨v, s', rfl, at'', shape, gives⟩ := given d at₁ took
    exact ⟨d :: v, s', rfl, at'', shape,
      fun rest follows => gives_nextByte.bind (gives rest follows)⟩

lemma local_next {f : Option Char → Reader β} (ended : ∀ b, ¬(f none).Yields b)
    (given : ∀ d, Local (fun b v => Q b (d :: v)) (f (some (Char.ofUInt8 d)))) :
    Local Q (next >>= f) := by
  intro c s b c' at' took
  obtain ⟨c₁, at₁, took⟩ := gives_next.took_bind at' took
  cases s with
  | nil => exact absurd ⟨c₁, c', took⟩ (ended b)
  | cons d s =>
    obtain ⟨v, s', rfl, at'', shape, gives⟩ := given d at₁ took
    exact ⟨d :: v, s', rfl, at'', shape, fun rest follows => gives_next.bind (gives rest follows)⟩

lemma local_peekByte {f : Option UInt8 → Reader β} (ended : ∀ b, ¬(f none).Yields b)
    (given : ∀ d, Eager d Q (f (some d))) : Local Q (peekByte >>= f) := by
  intro c s b c' at' took
  obtain ⟨c₁, at₁, took⟩ := gives_peekByte.took_bind at' took
  cases s with
  | nil => exact absurd ⟨c₁, c', took⟩ (ended b)
  | cons d s =>
    obtain ⟨v, s', rfl, at'', shape, gives⟩ := given d at₁ took
    exact ⟨d :: v, s', rfl, at'', shape,
      fun rest follows => gives_peekByte.bind (gives rest follows)⟩

/-- A reader that looks at the next byte takes it, or does what it does at the end of the input. The
latter is so for all bytes that end a word. -/
lemma local_peek {f : Option Char → Reader β}
    (each : ∀ d, Eager d Q (f (some (Char.ofUInt8 d))) ∨ f (some (Char.ofUInt8 d)) = f none)
    (last : Local Q (f none))
    (ends : ∀ d, isWordByte d = false → f (some (Char.ofUInt8 d)) = f none) :
    Local Q (peek >>= f) := by
  have idle {s : List UInt8} {b : β} {c c' : Cursor} (at' : c.At s) (took : f none c = .ok b c')
      (same : f (s.head?.map Char.ofUInt8) = f none) : ∃ v s', s = v ++ s' ∧ c'.At s' ∧ Q b v ∧
        ∀ rest, Follows rest s' → Gives (peek >>= f) (v ++ rest) b rest := by
    obtain ⟨v, s', rfl, at'', shape, gives⟩ := last at' took
    refine ⟨v, s', rfl, at'', shape, fun rest follows => ?_⟩
    refine gives_peek.bind ?_
    suffices same' : f ((v ++ rest).head?.map Char.ofUInt8) = f none by
      rw [same']
      exact gives rest follows
    obtain head | apart := follows.append v
    · rw [head]
      exact same
    · cases ahead : v ++ rest with
      | nil => rfl
      | cons d rest' => exact ends d (apart d (by rw [ahead]; rfl))
  intro c s b c' at' took
  obtain ⟨c₁, at₁, took⟩ := gives_peek.took_bind at' took
  cases s with
  | nil => exact idle at₁ took rfl
  | cons d s =>
    obtain eager | same := each d
    · obtain ⟨v, s', rfl, at'', shape, gives⟩ := eager at₁ took
      exact ⟨d :: v, s', rfl, at'', shape, fun rest follows => gives_peek.bind (gives rest follows)⟩
    · exact idle at₁ (same ▸ took) same

/-- A loop whose rounds each take something, except for the last. The shape of the whole is to be
shown from the end, where each round puts something in front. -/
lemma local_iterate {step : σ → Reader (Step σ α)} {R : List UInt8 → Prop}
    (each : ∀ state, Local (fun next v => match next with
      | .again _ => v ≠ [] ∧ R v
      | .done a => P a v) (step state))
    (join : ∀ a v v', R v → P a v' → P a (v ++ v')) (state : σ) : Local P (iterate step state) := by
  intro c s a c' at' took
  suffices goes : ∃ v s', s = v ++ s' ∧ c'.At s' ∧ P a v ∧
      ∀ rest, Follows rest s' → Goes step state (v ++ rest) a rest by
    obtain ⟨v, s', eq, at'', shape, goes⟩ := goes
    exact ⟨v, s', eq, at'', shape, fun rest follows => (goes rest follows).gives⟩
  have rounds := rounds_of_iterate took
  clear took
  induction rounds generalizing s with
  | done last =>
    obtain ⟨v, s', rfl, at'', shape, gives⟩ := each _ at' last
    exact ⟨v, s', rfl, at'', shape, fun rest follows => .done (gives rest follows)⟩
  | again first later ih =>
    obtain ⟨v, s₁, rfl, at₁, ⟨nonempty, shape⟩, gives⟩ := each _ at' first
    obtain ⟨v', s', rfl, at'', shape', goes⟩ := ih at₁
    refine ⟨v ++ v', s', (List.append_assoc v v' s').symm, at'', join _ _ _ shape shape',
      fun rest follows => ?_⟩
    rw [List.append_assoc]
    refine .again (gives _ (follows.append v')) ?_ (goes rest follows)
    have pos := List.length_pos_of_ne_nil nonempty
    simp only [List.length_append]
    omega

end Tokens

end Reader

end Brickwork.Document
