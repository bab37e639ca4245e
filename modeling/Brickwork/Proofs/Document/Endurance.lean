import Brickwork.Document.Models
import Mathlib.Tactic.Common

/-!
# Two readings of one input

A reader is run twice: on an input that fails after its last byte, and on a whole input that has
further bytes where the first one fails. The runs do the same up to the failure. If the first run
ends before the failure, so does the second, at the same byte; if not, the failure is what the first
run ends with.

The rules below are those of a program logic, with conditions on the number of bytes that are left.
A loop needs such conditions, since the bytes that are left bound its rounds.
-/

namespace Brickwork.Document

/-- The cursor at the same byte of the whole input. -/
def Cursor.whole (tail : List UInt8) (c : Cursor) : Cursor :=
  { c with rest := c.rest ++ tail, ending := .complete }

namespace Reader

variable {α β σ : Type} {p m : Nat} {P P' : Nat → Prop} {Q Q' : α → Nat → Prop}

/-- The results of the two readings agree. A value comes with the number of bytes left behind it; a
fault of the document may be another one in the whole input, but it is one there, too. -/
inductive Agree (cause : String) (tail : List UInt8) (Q : α → Nat → Prop) :
    EStateM.Result Fault Cursor α → EStateM.Result Fault Cursor α → Prop
  | ok {a : α} {c : Cursor} (failing : c.ending = .failing cause) (post : Q a c.rest.length) :
    Agree cause tail Q (.ok a c) (.ok a (c.whole tail))
  | cut {c : Cursor} {result : EStateM.Result Fault Cursor α} :
    Agree cause tail Q (.error (.unreadable cause) c) result
  | malformed {reason reason' : Reason} {position position' : Option Position} {c c' : Cursor} :
    Agree cause tail Q (.error (.malformed reason position) c)
      (.error (.malformed reason' position') c')

/-- Where the first condition holds of the bytes left, the two readings agree, and the second
condition holds of a value and the bytes left behind it. -/
def Endures (P : Nat → Prop) (read : Reader α) (Q : α → Nat → Prop) : Prop :=
  ∀ cause tail c, c.ending = .failing cause → P c.rest.length →
    Agree cause tail Q (read c) (read (c.whole tail))

/-! ## Steps -/

lemma Agree.mono {cause : String} {tail : List UInt8} {r r' : EStateM.Result Fault Cursor α}
    (h : Agree cause tail Q r r') (post : ∀ a n, Q a n → Q' a n) : Agree cause tail Q' r r' := by
  cases h with
  | ok failing holds => exact .ok failing (post _ _ holds)
  | cut => exact .cut
  | malformed => exact .malformed

lemma Endures.mono {read : Reader α} (h : Endures P read Q) (pre : ∀ n, P' n → P n)
    (post : ∀ a n, Q a n → Q' a n) : Endures P' read Q' := by
  intro cause tail c failing holds
  exact (h cause tail c failing (pre _ holds)).mono post

lemma Endures.pre {read : Reader α} (h : Endures P read Q) (pre : ∀ n, P' n → P n) :
    Endures P' read Q :=
  h.mono pre fun _ _ holds => holds

lemma endures_pure {a : α} (post : ∀ n, P n → Q a n) : Endures P (pure a) Q := by
  intro cause tail c failing holds
  exact .ok failing (post _ holds)

lemma endures_badFormat {error : FormatError} : Endures P (badFormat error) Q := by
  intro cause tail c failing holds
  exact .malformed

lemma endures_badContent {error : ContentError} : Endures P (badContent error) Q := by
  intro cause tail c failing holds
  exact .malformed

lemma Agree.bind {cause : String} {tail : List UInt8} {read read' : Reader α} {f f' : α → Reader β}
    {R : β → Nat → Prop} {c c' : Cursor} (first : Agree cause tail Q (read c) (read' c'))
    (next : ∀ a c, c.ending = .failing cause → Q a c.rest.length →
      Agree cause tail R (f a c) (f' a (c.whole tail))) :
    Agree cause tail R ((read >>= f) c) ((read' >>= f') c') := by
  change Agree cause tail R (EStateM.bind read f c) (EStateM.bind read' f' c')
  rw [EStateM.bind, EStateM.bind]
  generalize read c = r, read' c' = r' at first
  cases first with
  | ok failing holds => exact next _ _ failing holds
  | cut => exact .cut
  | malformed => exact .malformed

lemma Endures.bind {read : Reader α} {f : α → Reader β} {R : β → Nat → Prop} (h : Endures P read Q)
    (next : ∀ a, Endures (Q a) (f a) R) : Endures P (read >>= f) R := by
  intro cause tail c failing holds
  exact (h cause tail c failing holds).bind fun a c => next a cause tail c

lemma Endures.located {read : Reader α} (h : Endures P read Q) : Endures P (located read) Q := by
  intro cause tail c failing holds
  have first := h cause tail c failing holds
  rw [Reader.located, Reader.located]
  generalize read c = r, read (c.whole tail) = r' at first
  cases first with
  | ok failing holds => exact .ok failing holds
  | cut => exact .cut
  | @malformed _ _ position position' =>
    cases position <;> cases position' <;> exact .malformed

/-- A fault of the body wins over one of the closing part, also where the closing part comes to the
failure. -/
lemma Endures.closedBy {body : Reader α} {close : Reader Unit} (h : Endures P body Q)
    (closes : ∀ a, Endures (Q a) close fun _ => Q' a) : Endures P (closedBy body close) Q' := by
  intro cause tail c failing holds
  have first := h cause tail c failing holds
  rw [Reader.closedBy, Reader.closedBy]
  generalize body c = r, body (c.whole tail) = r' at first
  cases first with
  | @ok a c failing holds =>
    have last := closes a cause tail c failing holds
    dsimp only
    generalize close c = r, close (c.whole tail) = r' at last
    cases last with
    | ok failing holds => exact .ok failing holds
    | cut => exact .cut
    | malformed => exact .malformed
  | @cut c =>
    dsimp only
    cases close c <;> exact .cut
  | @malformed _ _ _ _ c c' =>
    dsimp only
    cases close c <;> cases close c' <;> exact .malformed

/-- A reader that only finds faults of the document endures, even if it takes no notice of the
failure. -/
lemma endures_of_malformed {read : Reader α}
    (h : ∀ c, ∃ reason position c', read c = .error (.malformed reason position) c') :
    Endures P read Q := by
  intro cause tail c failing holds
  obtain ⟨_, _, _, eq⟩ := h c
  obtain ⟨_, _, _, eq'⟩ := h (c.whole tail)
  rw [eq, eq']
  exact .malformed

/-! ## Bytes -/

/-- There is something, and the condition holds of the bytes left behind it. -/
def Given (P : Nat → Prop) : Option α → Nat → Prop
  | some _, n => P n
  | none, _ => False

lemma Endures.given {read : Reader (Option α)} {f : Option α → Reader β} {R : β → Nat → Prop}
    (h : Endures P read (Given P')) (next : ∀ a, Endures P' (f (some a)) R) :
    Endures P (read >>= f) R := by
  refine h.bind fun o => ?_
  cases o with
  | some a => exact next a
  | none => exact fun _ _ _ _ holds => holds.elim

/-- A failing input never ends: there is a next byte, or else the failure. -/
lemma endures_peekByte : Endures P peekByte (Given fun n => 0 < n ∧ P n) := by
  rintro cause tail ⟨rest, ending, ahead, position⟩ ⟨⟩ holds
  cases rest with
  | nil => exact .cut
  | cons b rest =>
    have post : 0 < (b :: rest).length ∧ P (b :: rest).length := ⟨Nat.succ_pos _, holds⟩
    cases ahead with
    | true => exact .ok rfl post
    | false => exact .ok rfl post

lemma endures_advance {k : Nat} :
    Endures (fun n => 0 < n ∧ n < k + 1) advance fun _ n => n < k := by
  rintro cause tail ⟨rest, ending, ahead, position⟩ ⟨⟩ holds
  cases rest with
  | nil => exact absurd holds.1 (Nat.lt_irrefl 0)
  | cons b rest =>
    have post : rest.length < k := Nat.lt_of_succ_lt_succ holds.2
    cases ahead with
    | true => exact .ok rfl post
    | false => exact .ok rfl post

lemma endures_nextByte {k : Nat} :
    Endures (fun n => n < k + 1) nextByte (Given fun n => n < k) := by
  refine endures_peekByte.given fun b => ?_
  exact endures_advance.bind fun _ => endures_pure fun _ => id

lemma endures_peek : Endures P peek (Given fun n => 0 < n ∧ P n) :=
  endures_peekByte.given fun _ => endures_pure fun _ => id

lemma endures_next {k : Nat} : Endures (fun n => n < k + 1) next (Given fun n => n < k) :=
  endures_nextByte.given fun _ => endures_pure fun _ => id

/-! ## Loops -/

section Loops

variable {step : σ → Reader (Step σ α)}

/-- A round that goes on leaves fewer bytes. -/
def Round (k : Nat) (Q : α → Nat → Prop) : Step σ α → Nat → Prop
  | .again _, n => n < k
  | .done a, n => Q a n

/-- The rounds of the whole input are not fewer, and those of the failing one suffice. -/
lemma agree_repeatOver {k : Nat} {cause : String} {tail fuel fuel' : List UInt8} {state : σ}
    {c : Cursor} (each : ∀ s, ∀ j < k, Endures (fun n => n < j + 1) (step s) (Round j Q))
    (failing : c.ending = .failing cause) (below : c.rest.length < k)
    (enough : c.rest.length ≤ fuel.length) (more : fuel.length ≤ fuel'.length) :
    Agree cause tail Q (repeatOver step fuel state c)
      (repeatOver step fuel' state (c.whole tail)) := by
  induction fuel generalizing fuel' state c with
  | nil =>
    -- No byte is left, so that no round can go on.
    have round :=
      each state 0 (Nat.zero_lt_of_lt below) cause tail c failing (Nat.lt_succ_of_le enough)
    cases fuel'
    all_goals
      refine round.bind fun next c failing holds => ?_
      cases next with
      | again s => exact absurd holds (Nat.not_lt_zero _)
      | done a => exact .ok failing holds
  | cons b fuel ih =>
    have round := each state c.rest.length below cause tail c failing (Nat.lt_succ_self _)
    cases fuel' with
    | nil => exact absurd more (Nat.not_succ_le_zero _)
    | cons b' fuel' =>
      refine round.bind fun next c' failing holds => ?_
      cases next with
      | again s =>
        have fewer : c'.rest.length < c.rest.length := holds
        have enough : c'.rest.length ≤ fuel.length :=
          Nat.le_of_lt_succ (Nat.lt_of_lt_of_le fewer enough)
        exact ih failing (Nat.lt_trans fewer below) enough (Nat.le_of_succ_le_succ more)
      | done a => exact .ok failing holds

lemma Endures.iterate {k : Nat}
    (each : ∀ s, ∀ j < k, Endures (fun n => n < j + 1) (step s) (Round j Q))
    (state : σ) : Endures (fun n => n < k) (iterate step state) Q := by
  intro cause tail c failing below
  refine agree_repeatOver each failing below (Nat.le_refl _) ?_
  rw [Cursor.whole, List.length_append]
  exact Nat.le_add_right _ _

end Loops

lemma endures_skipGaps {k : Nat} :
    Endures (fun n => n < k) skipGaps (Given fun n => 0 < n ∧ n < k) := by
  refine Endures.iterate (fun _ j below => ?_) ()
  refine endures_peek.given fun ch => ?_
  dsimp only
  split
  · exact endures_advance.bind fun _ => endures_pure fun _ => id
  · exact endures_pure fun n holds => ⟨holds.1, Nat.lt_of_lt_of_le holds.2 below⟩

/-! ## Bytes spent -/

/-- With at least `p` bytes left, the two readings agree, and a value takes at least `m` bytes. -/
def Spends (p m : Nat) (read : Reader α) : Prop :=
  ∀ k, Endures (fun n => p ≤ n ∧ n < k + m) read fun _ n => n < k

namespace Spends

variable {read : Reader α} {f : α → Reader β}

lemma endures (h : Spends 0 m read) (k : Nat) :
    Endures (fun n => n < k + m) read fun _ n => n < k :=
  (h k).pre fun n below => ⟨Nat.zero_le n, below⟩

lemma ahead (h : Spends 0 m read) : Spends 1 m read :=
  fun k => (h.endures k).pre fun _ => And.right

lemma keeps (h : Spends p 1 read) : Spends p 0 read :=
  fun k => (h k).pre fun _ holds => ⟨holds.1, Nat.lt_succ_of_lt holds.2⟩

lemma bind (h : Spends p m read) (next : ∀ a, Spends 0 0 (f a)) : Spends p m (read >>= f) := by
  intro k
  exact (h k).bind fun a => (next a).endures k

lemma located (h : Spends p m read) : Spends p m (located read) :=
  fun k => (h k).located

lemma closedBy {close : Reader Unit} (h : Spends p m read) (closes : Spends 0 0 close) :
    Spends p m (closedBy read close) := by
  intro k
  exact (h k).closedBy fun _ => closes.endures k

end Spends

section

variable {f : Option Char → Reader α}

lemma spends_pure {a : α} : Spends p 0 (pure a : Reader α) :=
  fun _ => endures_pure fun _ holds => holds.2

lemma spends_badFormat {error : FormatError} : Spends p m (badFormat error : Reader α) :=
  fun _ => endures_badFormat

lemma spends_badFormat_bind {error : FormatError} {f : β → Reader α} :
    Spends p m (badFormat error >>= f) :=
  fun _ => endures_badFormat

lemma spends_badContent {error : ContentError} : Spends p m (badContent error : Reader α) :=
  fun _ => endures_badContent

lemma spends_advance : Spends 1 1 advance :=
  fun _ => endures_advance

lemma spends_peekByte {f : Option UInt8 → Reader α} (next : ∀ b, Spends 1 m (f (some b))) :
    Spends p m (peekByte >>= f) := by
  intro k
  exact endures_peekByte.given fun b => (next b k).pre fun n holds => ⟨holds.1, holds.2.2⟩

lemma spends_peek (next : ∀ ch, Spends 1 m (f (some ch))) : Spends p m (peek >>= f) := by
  intro k
  exact endures_peek.given fun ch => (next ch k).pre fun n holds => ⟨holds.1, holds.2.2⟩

lemma spends_skipGaps (next : ∀ ch, Spends 1 m (f (some ch))) : Spends p m (skipGaps >>= f) := by
  intro k
  exact (endures_skipGaps.given fun ch => next ch k).pre fun n holds => holds.2

lemma spends_next (further : ∀ ch, Spends 0 0 (f (some ch))) : Spends 0 1 (next >>= f) := by
  intro k
  refine (endures_next.given fun ch => ?_).pre fun n holds => holds.2
  exact (further ch).endures k

end

section

variable {step : σ → Reader (Step σ α)} {state : σ}

/-- A loop whose last round may leave all bytes as they are. -/
lemma spends_iterate
    (each : ∀ s j, Endures (fun n => n < j + 1) (step s) (Round j fun _ n => n < j + 1)) :
    Spends 0 0 (iterate step state) := by
  intro k
  refine (Endures.iterate (fun s j below => ?_) state).pre fun n holds => holds.2
  refine (each s j).mono (fun _ => id) fun next n holds => ?_
  cases next with
  | again s => exact holds
  | done a => exact Nat.lt_of_lt_of_le holds below

/-- A loop whose last round takes a byte, too. -/
lemma spends_iterate_of_each (each : ∀ s, Spends 0 1 (step s)) :
    Spends 0 1 (iterate step state) := by
  intro k
  refine (Endures.iterate (fun s j below => ?_) state).pre fun n holds => holds.2
  refine ((each s).endures j).mono (fun _ => id) fun next n holds => ?_
  cases next with
  | again s => exact holds
  | done a => exact Nat.lt_of_lt_of_le holds (Nat.le_of_lt_succ below)

end

end Reader

end Brickwork.Document
