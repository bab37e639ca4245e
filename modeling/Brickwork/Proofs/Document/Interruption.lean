import Brickwork.Proofs.Document.Endurance
import Brickwork.Proofs.Document.Spelling

/-!
# Inputs that fail

Every reader of a document is followed up to the failure of its input, from the words and numbers up
to the app. None takes the failure for the end of the input, and the reader of a whole input asks
for the end: so no model is loaded from an input that fails.

Each lemma also says how many bytes a value takes at least, for the loops over elements and members.
-/

namespace Brickwork

namespace Document

variable {α β σ : Type} {αs : List Type}

namespace Reader

/-! ## Words, strings and numbers -/

lemma spends_digitRun : Spends 0 0 digitRun := by
  refine spends_iterate fun digits j => endures_peek.given fun ch => ?_
  dsimp only
  split
  · exact endures_advance.bind fun _ => endures_pure fun _ => id
  · exact endures_pure fun n => And.right

lemma spends_word (letters : List Char) : Spends 0 0 (word letters) := by
  induction letters with
  | nil => exact spends_pure
  | cons letter letters ih =>
    refine (spends_next fun ch => ?_).keeps
    dsimp only
    split
    · exact ih
    · exact spends_badFormat

/-- A word whose first letter is ahead, and what follows it. -/
lemma spends_literal {letters : List Char} {read : Reader α} (h : Spends 0 0 read) : Spends 1 1 (do
    advance
    word letters
    read) :=
  spends_advance.bind fun _ => (spends_word letters).bind fun _ => h

lemma spends_stringByte : Spends 0 1 stringByte := by
  intro k
  have given : Endures (fun n => n < k + 1) stringByte fun _ n => n < k :=
    endures_nextByte.given fun b => endures_pure fun _ => id
  exact given.pre fun n => And.right

lemma spends_hexNumber : Spends 0 1 hexNumber := by
  refine spends_stringByte.bind fun a => ?_
  refine spends_stringByte.keeps.bind fun b => ?_
  refine spends_stringByte.keeps.bind fun c => ?_
  refine spends_stringByte.keeps.bind fun d => ?_
  split
  · exact spends_pure
  · exact spends_badFormat

lemma spends_pairByte (wanted : UInt8) : Spends 0 1 (pairByte wanted) := by
  refine spends_peekByte fun b => spends_advance.bind fun _ => ?_
  split
  · exact spends_pure
  · exact spends_badFormat

lemma spends_numberedCharacter : Spends 0 1 numberedCharacter := by
  refine spends_hexNumber.bind fun high => ?_
  split
  · exact spends_badFormat
  · split
    · refine (spends_pairByte _).keeps.bind fun _ => (spends_pairByte _).keeps.bind fun _ => ?_
      refine spends_hexNumber.keeps.bind fun low => ?_
      split
      · exact spends_pure
      · exact spends_badFormat
    · exact spends_pure

lemma spends_escape : Spends 0 1 escape := by
  refine spends_stringByte.bind fun b => ?_
  dsimp only
  split
  · exact spends_numberedCharacter.keeps.bind fun _ => spends_pure
  · split
    · exact spends_pure
    · exact spends_badFormat

lemma spends_skipEscape : Spends 0 1 skipEscape := by
  refine spends_stringByte.bind fun b => ?_
  dsimp only
  split
  · exact spends_hexNumber.keeps.bind fun _ => spends_pure
  · split
    · exact spends_pure
    · exact spends_badFormat

lemma spends_stringBytes : Spends 0 1 stringBytes := by
  refine spends_iterate_of_each fun content => spends_stringByte.bind fun b => ?_
  split
  · exact spends_pure
  · split
    · exact spends_escape.keeps.bind fun _ => spends_pure
    · split
      · exact spends_badFormat
      · exact spends_pure

lemma spends_skipString : Spends 0 1 skipString := by
  refine spends_iterate_of_each fun _ => spends_stringByte.bind fun b => ?_
  split
  · exact spends_pure
  · split
    · exact spends_skipEscape.keeps.bind fun _ => spends_pure
    · split
      · exact spends_badFormat
      · exact spends_pure

lemma spends_stringText : Spends 0 1 stringText := by
  refine spends_stringBytes.bind fun bytes => ?_
  split
  · exact spends_pure
  · exact fun k => endures_of_malformed fun c => ⟨_, _, _, rfl⟩

lemma spends_wholeDigits (care : Care) : Spends 0 1 (wholeDigits care) := by
  refine spends_next fun c => ?_
  dsimp only
  split
  · refine spends_peek fun d => ?_
    dsimp only
    split
    · exact spends_badFormat
    · exact spends_pure
  · split
    · exact spends_digitRun.bind fun _ => spends_pure
    · exact spends_badFormat

lemma spends_fractionDigits (care : Care) : Spends 1 1 (fractionDigits care) := by
  refine spends_advance.bind fun _ => spends_digitRun.bind fun digits => ?_
  split
  · exact spends_peek fun _ => spends_badFormat
  · exact spends_pure

lemma spends_exponentStart (care : Care) : Spends 1 1 (exponentStart care) := by
  have digit (negative : Bool) (c : Char) : Spends 0 0
      (if c.isDigit then pure (negative, c.toNat - '0'.toNat)
        else badFormat .invalidNumber : Reader _) := by
    split
    · exact spends_pure
    · exact spends_badFormat
  refine spends_advance.bind fun _ => spends_peek fun sign => ?_
  dsimp only
  split
  · exact spends_advance.keeps.bind fun _ => (spends_next fun c => digit false c).keeps
  · exact spends_advance.keeps.bind fun _ => (spends_next fun c => digit true c).keeps
  · exact (spends_next fun c => digit false c).keeps.ahead

lemma spends_exponentDigits (first : Nat) (tooLarge : Bool) :
    Spends 0 0 (exponentDigits first tooLarge) := by
  refine spends_iterate fun exponent j => endures_peek.given fun ch => ?_
  dsimp only
  split
  · refine endures_advance.bind fun _ => ?_
    cases exponent with
    | none => exact endures_pure fun _ => id
    | some e =>
      dsimp only
      split
      · exact endures_pure fun _ => id
      · split
        · exact endures_badFormat
        · exact endures_pure fun _ => id
  · exact endures_pure fun n => And.right

lemma spends_inRange (number : Option Number) : Spends 0 0 (inRange number) := by
  cases number with
  | some number => exact spends_pure
  | none => exact spends_badFormat

lemma spends_exponentEnd (m : Mantissa) : Spends 1 1 (exponentEnd m) := by
  refine (spends_exponentStart _).bind fun (negative, first) => ?_
  refine (spends_exponentDigits _ _).bind fun exponent => ?_
  cases exponent with
  | some e => exact spends_inRange _
  | none => exact spends_pure

lemma spends_number (negative : Bool) : Spends 0 1 (number negative) := by
  refine (spends_wholeDigits _).bind fun whole => spends_peek fun ch => ?_
  split
  · refine (spends_fractionDigits _).keeps.bind fun fraction => spends_peek fun ch => ?_
    split
    · exact (spends_exponentEnd _).keeps
    · exact (spends_exponentEnd _).keeps
    · exact (spends_inRange _).ahead
  · exact (spends_exponentEnd _).keeps
  · exact (spends_exponentEnd _).keeps
  · exact (spends_inRange _).ahead

lemma spends_skipExponent : Spends 1 1 skipExponent :=
  (spends_exponentStart _).bind fun _ => spends_digitRun.bind fun _ => spends_pure

lemma spends_skipNumber : Spends 0 1 skipNumber := by
  refine (spends_wholeDigits _).bind fun _ => spends_peek fun ch => ?_
  split
  · refine (spends_fractionDigits _).keeps.bind fun _ => spends_peek fun ch => ?_
    split
    · exact spends_skipExponent.keeps
    · exact spends_skipExponent.keeps
    · exact spends_pure
  · exact spends_skipExponent.keeps
  · exact spends_skipExponent.keeps
  · exact spends_pure

/-! ## Skipped values -/

lemma spends_skipScalar : Spends 0 1 skipScalar := by
  refine spends_skipGaps fun ch => ?_
  dsimp only
  split
  · exact spends_literal spends_pure
  split
  · exact spends_literal spends_pure
  split
  · exact spends_literal spends_pure
  split
  · exact spends_advance.bind fun _ => spends_skipNumber.keeps.bind fun _ => spends_pure
  split
  · exact spends_skipNumber.ahead.bind fun _ => spends_pure
  split
  · exact spends_advance.bind fun _ => spends_skipString.keeps.bind fun _ => spends_pure
  split
  · exact spends_advance.bind fun _ => spends_pure
  split
  · exact spends_advance.bind fun _ => spends_pure
  · exact spends_badFormat

lemma spends_skipKey : Spends 0 1 skipKey := by
  refine spends_skipGaps fun ch => ?_
  split
  · refine spends_advance.bind fun _ => spends_skipString.keeps.bind fun _ =>
      spends_skipGaps fun ch => ?_
    split
    · exact spends_advance.keeps
    · exact spends_badFormat
    · exact spends_badFormat
  · exact spends_badFormat_bind
  · exact spends_badFormat_bind

lemma spends_skipClosings (fresh : Bool) (frames : List Frame) :
    Spends 0 0 (skipClosings fresh frames) := by
  refine spends_iterate fun (fresh, frames) j => ?_
  cases frames with
  | nil => exact endures_pure fun _ => id
  | cons frame outer =>
    refine endures_skipGaps.given fun ch => ?_
    dsimp only
    split
    · exact endures_advance.bind fun _ => endures_pure fun _ => Nat.lt_succ_of_lt
    split
    · exact endures_advance.bind fun _ => endures_pure fun _ => id
    split
    · exact endures_pure fun _ => And.right
    · exact endures_badFormat

lemma spends_skipValue : Spends 0 1 skipValue := by
  refine spends_iterate_of_each fun frames => spends_skipScalar.bind fun opened => ?_
  cases opened
  all_goals
    refine (spends_skipClosings _ _).bind fun frames => ?_
    dsimp only
    split
    · exact spends_pure
    · exact spends_skipKey.keeps.bind fun _ => spends_pure
    · exact spends_pure

/-! ## Plain values -/

lemma spends_mismatch {expected : String} : Spends 1 1 (mismatch expected : Reader α) := by
  refine .located (spends_peek fun ch => ?_)
  split
  · exact spends_literal spends_badContent
  · exact spends_literal spends_badContent
  · exact spends_literal spends_badContent
  · exact spends_advance.bind fun _ => (spends_number true).keeps.bind fun _ => spends_badContent
  · exact spends_advance.bind fun _ => spends_stringText.keeps.bind fun _ => spends_badContent
  · exact spends_badContent
  · exact spends_badContent
  · split
    · exact (spends_number false).ahead.bind fun _ => spends_badContent
    · exact spends_badFormat_bind
  · exact spends_badFormat_bind

lemma spends_string : Spends 0 1 string := by
  refine spends_skipGaps fun ch => ?_
  split
  · exact spends_badFormat
  · exact spends_advance.bind fun _ => spends_stringText.keeps
  · exact spends_mismatch

lemma spends_ofExcept (result : Except ContentError α) : Spends 0 0 (ofExcept result) := by
  cases result with
  | ok a => exact spends_pure
  | error error => exact spends_badContent

lemma spends_checkedString (check : String → Except ContentError α) :
    Spends 0 1 (checkedString check) :=
  spends_string.bind fun text => spends_ofExcept (check text)

lemma spends_checkedNumber (expected : String) (check : Number → Except ContentError α) :
    Spends 0 1 (checkedNumber expected check) := by
  refine .located (spends_skipGaps fun ch => ?_)
  split
  · exact spends_badFormat
  · refine spends_advance.bind fun _ => (spends_number true).keeps.bind fun n => ?_
    exact spends_ofExcept (check n)
  · split
    · exact (spends_number false).ahead.bind fun n => spends_ofExcept (check n)
    · exact spends_mismatch

lemma spends_byte : Spends 0 1 byte :=
  (spends_checkedNumber _ _).bind fun _ => spends_pure

lemma spends_word32 : Spends 0 1 word32 :=
  (spends_checkedNumber _ _).bind fun _ => spends_pure

lemma spends_float : Spends 0 1 float :=
  spends_checkedNumber _ _

lemma spends_optional {read : Reader α} (h : Spends 0 1 read) : Spends 0 1 (optional read) := by
  refine spends_skipGaps fun ch => ?_
  split
  · exact spends_literal spends_pure
  · exact h.ahead.bind fun _ => spends_pure

lemma spends_null : Spends 0 1 null := by
  refine spends_skipGaps fun ch => ?_
  split
  · exact spends_badFormat
  · exact spends_advance.bind fun _ => spends_word _
  · exact spends_mismatch

/-! ## Lists and objects -/

lemma spends_openBracket (room : Nat) : Spends 1 1 (openBracket room) := by
  rw [openBracket]
  split
  · exact spends_badFormat
  · exact spends_advance

lemma spends_nextElement (first : Bool) : Spends 0 0 (nextElement first) := by
  refine spends_skipGaps fun ch => ?_
  split
  · exact spends_badFormat
  · exact spends_pure
  · split
    · exact spends_pure
    split
    · refine spends_advance.keeps.bind fun _ => spends_skipGaps fun ch => ?_
      split
      · exact spends_badFormat
      · exact spends_badFormat
      · exact spends_pure
    · exact spends_badFormat

/-- Behind a comma nothing closes a list, so that a failure that goes unnoticed there does no
harm. -/
lemma spends_closeList : Spends 0 1 closeList := by
  refine spends_skipGaps fun ch => ?_
  split
  · exact spends_badFormat
  · exact spends_advance
  · refine spends_advance.bind fun _ => ?_
    refine fun k => endures_of_malformed fun c => ?_
    obtain ⟨closed, c', eq⟩ : ∃ closed c', comesNext ']' c = .ok closed c' := by
      rw [comesNext]
      cases skipGaps c <;> exact ⟨_, _, rfl⟩
    change ∃ reason position c',
      EStateM.bind (comesNext ']') _ c = .error (.malformed reason position) c'
    rw [EStateM.bind, eq]
    cases closed <;> exact ⟨_, _, _, rfl⟩
  · exact spends_badFormat

/-- Where a key is promised, its quote is there. -/
lemma endures_nextKey {first : Bool} {k : Nat} :
    Endures (fun n => n < k) (nextKey first) fun more n => more.toNat ≤ n ∧ n < k := by
  refine endures_skipGaps.given fun ch => ?_
  split
  · exact endures_badFormat
  · exact endures_pure fun n holds => ⟨Nat.zero_le n, holds.2⟩
  split
  · split
    · exact endures_pure fun _ => id
    · exact endures_badFormat
  split
  · have advanced : Endures (fun n => 0 < n ∧ n < k) advance fun _ n => n < k :=
      endures_advance.pre fun n holds => ⟨holds.1, Nat.lt_succ_of_lt holds.2⟩
    refine advanced.bind fun _ => endures_skipGaps.given fun ch => ?_
    split
    · exact endures_badFormat
    · exact endures_pure fun _ => id
    · exact endures_badFormat
    · exact endures_badFormat
  · exact endures_badFormat

lemma spends_nextKey {first : Bool} {f : Bool → Reader α} (more : Spends 1 0 (f true))
    (last : Spends 0 0 (f false)) : Spends 0 0 (nextKey first >>= f) := by
  intro k
  refine (endures_nextKey.bind fun next => ?_).pre fun _ => And.right
  cases next with
  | true => exact more k
  | false => exact last k

lemma spends_key : Spends 1 1 key :=
  spends_advance.bind fun _ => spends_stringText.keeps

lemma spends_colon : Spends 0 1 colon := by
  refine spends_skipGaps fun ch => ?_
  split
  · exact spends_badFormat
  · exact spends_advance
  · exact spends_badFormat

lemma spends_closeObject : Spends 0 1 closeObject := by
  refine spends_skipGaps fun ch => ?_
  split
  · exact spends_badFormat
  · exact spends_advance
  · exact spends_badFormat
  · exact spends_badFormat

lemma spends_elements {read : Reader α} (h : Spends 0 1 read) (first : Bool) :
    Spends 0 0 (elements first read) := by
  refine spends_iterate fun (first, found) j => ?_
  refine ((spends_nextElement first).endures (j + 1)).bind fun more => ?_
  split
  · exact (h.endures j).bind fun _ => endures_pure fun _ => id
  · exact endures_pure fun _ => id

lemma spends_members {read : String → σ → Reader σ} (h : ∀ key state, Spends 0 0 (read key state))
    (state : σ) :
    Spends 0 0 (members read state) := by
  refine spends_iterate fun (first, state) j => endures_nextKey.bind fun more => ?_
  cases more with
  | true =>
    refine (spends_key j).bind fun key => ?_
    exact ((h key state).endures j).bind fun _ => endures_pure fun _ => id
  | false => exact endures_pure fun _ => And.right

lemma spends_list {read : Reader α} (h : Spends 0 1 read) (room : Nat) :
    Spends 0 1 (list room read) := by
  refine .located (spends_skipGaps fun ch => ?_)
  split
  · exact spends_badFormat
  · exact (spends_openBracket room).bind fun _ =>
      (spends_elements h true).closedBy spends_closeList.keeps
  · exact spends_mismatch

end Reader

/-! ## Records -/

namespace Fields

open Reader

variable {αs : List Type}

/-- The value of each field takes a byte. -/
def Spend {αs : List Type} : Fields αs → Prop
  | nil => True
  | cons field rest => Spends 0 1 field.read ∧ rest.Spend

lemma spends_of_accept {fields : Fields αs} {key : String} {slots : Slots αs}
    {read : Reader (Slots αs)}
    (spend : fields.Spend) (accepted : fields.accept key slots = some read) : Spends 0 0 read := by
  induction fields with
  | nil => cases accepted
  | cons field rest ih =>
    obtain ⟨slot, slots⟩ := slots
    rw [accept] at accepted
    split at accepted
    · cases accepted
      split
      · exact spends_badContent
      · exact spends_colon.keeps.bind fun _ => spend.1.keeps.bind fun _ => spends_pure
    · obtain ⟨later, found, rfl⟩ := Option.map_eq_some_iff.mp accepted
      exact (ih spend.2 found).bind fun _ => spends_pure

lemma spends_readList {fields : Fields αs} (spend : fields.Spend) (first : Bool) :
    Spends 0 0 (fields.readList first) := by
  induction fields generalizing first with
  | nil => exact spends_pure
  | cons field rest ih =>
    refine (spends_nextElement first).bind fun more => ?_
    split
    · exact spend.1.keeps.bind fun _ => (ih spend.2 false).bind fun _ => spends_pure
    · exact spends_pure

end Fields

namespace Reader

lemma spends_slots {fields : Fields αs} {other : String → σ → Reader σ} (spend : fields.Spend)
    (others : ∀ key state, Spends 0 0 (other key state)) (state : σ) :
    Spends 0 0 (slots fields other state) := by
  refine spends_members (fun key (slots, state) => ?_) _
  dsimp only
  split
  case h_1 read accepted => exact (Fields.spends_of_accept spend accepted).bind fun _ => spends_pure
  case h_2 => exact (others key state).bind fun _ => spends_pure

lemma spends_completed (fields : Fields αs) (slots : Slots αs) :
    Spends 0 0 (completed fields slots) := by
  rw [completed]
  split
  · exact spends_pure
  · exact spends_badContent

lemma spends_completedList (expected : String) (fields : Fields αs) (length : Nat)
    (slots : Slots αs) :
    Spends 0 0 (completedList expected fields length slots) := by
  rw [completedList]
  split
  · exact spends_pure
  · exact spends_badContent

lemma spends_skipMember (key : String) (state : Unit) : Spends 0 0 (skipMember key state) :=
  spends_colon.keeps.bind fun _ => spends_skipValue.keeps

lemma spends_record {fields : Fields αs} (spend : fields.Spend) (expected : String) (room : Nat) :
    Spends 0 1 (record expected room fields) := by
  refine .located (spends_skipGaps fun ch => ?_)
  split
  · exact spends_badFormat
  · refine (spends_openBracket room).bind fun _ => .closedBy ?_ spends_closeList.keeps
    exact (Fields.spends_readList spend true).bind fun _ => spends_completedList _ _ _ _
  · refine (spends_openBracket room).bind fun _ => .closedBy ?_ spends_closeObject.keeps
    exact (spends_slots spend spends_skipMember ()).bind fun _ => spends_completed _ _
  · exact spends_mismatch

/-! ## Variants -/

/-- What belongs to a tag takes a byte. -/
def Payload.Spend : Payload α → Prop
  | unit _ => True
  | single read => Spends 0 1 read
  | fields read => Spends 0 1 read

lemma Payload.spends_read {payload : Payload α} (spend : payload.Spend) :
    Spends 0 1 payload.read := by
  cases payload with
  | unit value => exact spends_null.bind fun _ => spends_pure
  | single read => exact spend
  | fields read => exact spend

lemma Payload.spends_bare (payload : Payload α) : Spends 0 0 payload.bare := by
  cases payload with
  | unit value => exact spends_pure
  | single read => exact spends_badContent
  | fields read => exact spends_badContent

lemma spends_tag {variants : List (String × Payload α)} {f : Payload α → Reader β}
    (spend : ∀ variant ∈ variants, variant.2.Spend)
    (next : ∀ payload, payload.Spend → Spends 0 0 (f payload)) :
    Spends 1 1 (tag variants >>= f) := by
  intro k
  have known : Endures (fun n => 1 ≤ n ∧ n < k + 1) (tag variants) fun payload n =>
      payload.Spend ∧ n < k := by
    refine .located ((spends_key k).bind fun tag => ?_)
    split
    case h_1 payload found =>
      obtain ⟨before, behind, rfl, _⟩ := List.lookup_eq_some_iff.mp found
      have spend := spend (tag, payload) (List.mem_append_right before List.mem_cons_self)
      exact endures_pure fun n below => ⟨spend, below⟩
    case h_2 => exact endures_badContent
  refine known.bind fun payload cause tail c failing holds => ?_
  exact (next payload holds.1).endures k cause tail c failing holds.2

lemma spends_tagged {variants : List (String × Payload α)}
    (spend : ∀ variant ∈ variants, variant.2.Spend)
    (room : Nat) : Spends 0 1 (tagged room variants) := by
  refine spends_skipGaps fun ch => ?_
  split
  · exact spends_badFormat
  · exact spends_tag spend fun payload _ => payload.spends_bare
  · refine (spends_openBracket room).bind fun _ => spends_nextKey (.keeps ?_) spends_badFormat
    refine spends_tag spend fun payload spend => spends_colon.keeps.bind fun _ => ?_
    refine (Payload.spends_read spend).keeps.bind fun value => spends_skipGaps fun ch => ?_
    split
    · exact spends_badFormat
    · exact spends_advance.keeps.bind fun _ => spends_pure
    · exact spends_badFormat
  · exact spends_badFormat

/-! ## Values and bricks -/

lemma spends_value (room : Nat) : Spends 0 1 (value room) := by
  rw [value.eq_def]
  refine spends_skipGaps fun ch => ?_
  dsimp only
  split
  · exact spends_literal spends_pure
  split
  · exact spends_literal spends_pure
  split
  · exact spends_literal spends_pure
  split
  · exact spends_advance.bind fun _ => (spends_number true).keeps.bind fun _ => spends_pure
  split
  · exact (spends_number false).ahead.bind fun _ => spends_pure
  split
  · exact spends_advance.bind fun _ => spends_stringText.keeps.bind fun _ => spends_pure
  split
  · cases room with
    | zero => exact spends_badFormat
    | succ room =>
      refine spends_advance.bind fun _ => ?_
      refine Spends.bind (.closedBy ?_ spends_closeList.keeps) fun _ => spends_pure
      exact spends_elements (spends_value room) true
  split
  · cases room with
    | zero => exact spends_badFormat
    | succ room =>
      refine spends_advance.bind fun _ => ?_
      refine Spends.bind (.closedBy ?_ spends_closeObject.keeps) fun _ => spends_pure
      refine spends_members (fun key found => spends_colon.keeps.bind fun _ => ?_) []
      exact (spends_value room).keeps.bind fun _ => spends_pure
  · exact spends_badFormat

lemma spends_identifier : Spends 0 1 identifier :=
  spends_checkedString _

lemma spends_pin : Spends 0 1 pin :=
  spends_checkedString _

lemma spends_bufferMember (room : Nat) (key : String) (found : List (String × Value)) :
    Spends 0 0 (bufferMember room key found) :=
  spends_colon.keeps.bind fun _ => (spends_value room).keeps.bind fun _ => spends_pure

lemma spends_brick (room : Nat) : Spends 0 1 (brick room) := by
  refine .located (spends_skipGaps fun ch => ?_)
  split
  · exact spends_badFormat
  · refine (spends_openBracket room).bind fun _ => .closedBy ?_ spends_closeObject.keeps
    refine Spends.bind (spends_slots ?_ (spends_bufferMember _) _) fun (slots, members) => ?_
    · exact ⟨spends_identifier, spends_optional spends_pin, trivial⟩
    refine (spends_completed _ _).bind fun (name, pin, _) => ?_
    exact (spends_ofExcept _).bind fun _ => spends_pure
  · exact spends_mismatch

/-! ## Models -/

variable (room : Nat)

lemma spends_level : Spends 0 1 (level room) := by
  refine spends_tagged ?_ room
  rw [List.forall_mem_map]
  exact fun _ _ => trivial

lemma spends_connective : Spends 0 1 (connective room) := by
  refine spends_tagged ?_ room
  simp only [List.forall_mem_cons]
  exact ⟨trivial, trivial, List.forall_mem_nil _⟩

lemma spends_comparison : Spends 0 1 (comparison room) := by
  refine spends_tagged ?_ room
  rw [List.forall_mem_map]
  exact fun _ _ => trivial

lemma spends_condition : Spends 0 1 (condition room) := by
  refine spends_tagged ?_ room
  simp only [List.forall_mem_cons]
  refine ⟨?_, ?_, ?_, List.forall_mem_nil _⟩
  · refine Spends.bind (spends_record ?_ _ _) fun _ => spends_pure
    exact ⟨spends_identifier, spends_level _, trivial⟩
  · refine Spends.bind (spends_record ?_ _ _) fun _ => spends_pure
    exact ⟨spends_identifier, spends_comparison _, spends_float, trivial⟩
  · refine Spends.bind (spends_record ?_ _ _) fun _ => spends_pure
    exact ⟨spends_identifier, spends_string, trivial⟩

lemma spends_guardNode {side : Reader Guard} (h : Spends 0 1 side) :
    Spends 0 1 (guardNode room side) := by
  refine spends_tagged ?_ room
  simp only [List.forall_mem_cons]
  refine ⟨?_, ?_, List.forall_mem_nil _⟩
  · exact (spends_condition _).bind fun _ => spends_pure
  · refine Spends.bind (spends_record ?_ _ _) fun _ => spends_pure
    exact ⟨h, spends_connective _, h, trivial⟩

lemma spends_guard : Spends 0 1 (Reader.guard room) := by
  induction room using Reader.guard.induct with
  | case1 => exact spends_guardNode 0 spends_badFormat
  | case2 => exact spends_guardNode 1 spends_badFormat
  | case3 room ih => exact spends_guardNode (room + 2) ih

lemma spends_analogValue : Spends 0 1 (analogValue room) := by
  refine spends_tagged ?_ room
  simp only [List.forall_mem_cons]
  refine ⟨?_, ?_, List.forall_mem_nil _⟩
  · exact spends_byte.bind fun _ => spends_pure
  · exact spends_identifier.bind fun _ => spends_pure

lemma spends_segment : Spends 0 1 (segment room) := by
  refine spends_tagged ?_ room
  simp only [List.forall_mem_cons]
  refine ⟨?_, ?_, List.forall_mem_nil _⟩
  · exact spends_string.bind fun _ => spends_pure
  · exact spends_identifier.bind fun _ => spends_pure

lemma spends_pitch : Spends 0 1 (pitch room) := by
  refine spends_tagged ?_ room
  simp only [List.forall_mem_cons]
  refine ⟨?_, ?_, List.forall_mem_nil _⟩
  · exact spends_word32.bind fun _ => spends_pure
  · exact spends_string.bind fun _ => spends_pure

lemma spends_action : Spends 0 1 (action room) := by
  refine spends_tagged ?_ room
  simp only [List.forall_mem_cons]
  refine ⟨?_, ?_, ?_, ?_, ?_, ?_, List.forall_mem_nil _⟩
  · refine Spends.bind (spends_record ?_ _ _) fun _ => spends_pure
    exact ⟨spends_identifier, spends_level _, trivial⟩
  · refine Spends.bind (spends_record ?_ _ _) fun _ => spends_pure
    exact ⟨spends_identifier, spends_analogValue _, trivial⟩
  · refine Spends.bind (spends_record ?_ _ _) fun _ => spends_pure
    exact ⟨spends_identifier, spends_string, trivial⟩
  · refine Spends.bind (spends_record ?_ _ _) fun _ => spends_pure
    exact ⟨spends_identifier, spends_list (spends_segment _) _, trivial⟩
  · refine Spends.bind (spends_record ?_ _ _) fun _ => spends_pure
    exact ⟨spends_identifier, spends_pitch _, spends_optional spends_word32, trivial⟩
  · refine Spends.bind (spends_record ?_ _ _) fun _ => spends_pure
    exact ⟨spends_identifier, trivial⟩

lemma spends_transition : Spends 0 1 (transition room) := by
  refine Spends.bind (spends_record ?_ _ _) fun _ => spends_pure
  exact ⟨spends_guard _, spends_identifier, trivial⟩

lemma spends_state : Spends 0 1 (state room) := by
  refine Spends.bind (spends_record ?_ _ _) fun _ => spends_pure
  exact ⟨spends_identifier, spends_list (spends_action _) _,
    spends_list (spends_transition _) _, trivial⟩

lemma spends_machine : Spends 0 1 (machine room) := by
  refine Spends.bind (spends_record ?_ _ _) fun _ => spends_pure
  exact ⟨spends_identifier, spends_identifier, spends_list (spends_state _) _,
    spends_optional spends_word32,
    trivial⟩

lemma spends_app : Spends 0 1 (app room) := by
  refine Spends.bind (spends_record ?_ _ _) fun _ => spends_pure
  exact ⟨spends_string, spends_list (spends_brick _) _, spends_optional spends_identifier,
    spends_list (spends_state _) _, spends_list (spends_machine _) _, trivial⟩

/-- Behind a value only gaps may follow, so that a reader of a whole input comes to its end or to
its failure. -/
lemma run_failing {read : Reader α} {m : Nat} (h : Spends 0 m read) (cause : String)
    (bytes tail : List UInt8) :
    read.run ⟨bytes, .failing cause⟩ = .error (.unreadable cause) ∨
      (∃ reason position, read.run ⟨bytes, .failing cause⟩ = .error (.malformed reason position)) ∧
      ∃ reason position,
        read.run ⟨bytes ++ tail, .complete⟩ = .error (.malformed reason position) := by
  rw [run, run]
  generalize failing : (read >>= _) (Cursor.start ⟨bytes, .failing cause⟩) = r
  generalize whole : (read >>= _) (Cursor.start ⟨bytes ++ tail, .complete⟩) = r'
  have agree : Agree cause tail (fun _ _ => False) r r' := by
    rw [← failing, ← whole]
    refine Endures.bind (h.endures (bytes.length + 1)) (fun a => ?_) cause tail _ rfl ?_
    · exact endures_skipGaps.given fun _ => endures_badFormat
    · exact Nat.lt_add_right m (Nat.lt_succ_self _)
  cases agree with
  | ok _ never => exact never.elim
  | cut => exact .inl rfl
  | malformed => exact .inr ⟨⟨_, _, rfl⟩, _, _, rfl⟩

end Reader

end Document

open Document

lemma App.load_eq_unreadable {source cause : String} {input : Input}
    (h : (Reader.app maxRoom).run input = .error (.unreadable cause)) :
    App.load source input = .error (.unreadable source cause) := by
  rw [App.load, h]
  rfl

lemma App.load_eq_malformed {source : String} {input : Input}
    (h : ∃ reason position, (Reader.app maxRoom).run input = .error (.malformed reason position)) :
    ∃ reason position, App.load source input = .error (.malformed source reason position) := by
  obtain ⟨reason, position, h⟩ := h
  exact ⟨reason, position.getD ⟨0, 0⟩, by rw [App.load, h]; rfl⟩

/-- No model is loaded from an input that fails, be it only where the end would be read. The error
is the failure, or else the document is malformed, and it is malformed without the failure, too.
Where the input would fail behind its end, nothing changes. -/
theorem load_failingAt (source cause : String) (document : List UInt8) (n : Nat) :
    (n ≤ document.length →
      App.load source (.failingAt document n cause) = .error (.unreadable source cause) ∨
      (∃ reason position,
        App.load source (.failingAt document n cause) =
          .error (.malformed source reason position)) ∧
      ∃ reason position,
        App.load source ⟨document, .complete⟩ = .error (.malformed source reason position)) ∧
    (document.length < n →
      App.load source (.failingAt document n cause) = App.load source ⟨document, .complete⟩) := by
  constructor
  · intro within
    rw [Input.failingAt, if_pos within]
    have runs :=
      Reader.run_failing (Reader.spends_app maxRoom) cause (document.take n) (document.drop n)
    rw [List.take_append_drop] at runs
    obtain cut | ⟨malformed, whole⟩ := runs
    · exact .inl (App.load_eq_unreadable cut)
    · exact .inr ⟨App.load_eq_malformed malformed, App.load_eq_malformed whole⟩
  · intro behind
    rw [Input.failingAt, if_neg (Nat.not_le_of_lt behind)]

/-- The document is read to its last byte, and the end is still asked for. -/
theorem load_failingAt_porch :
    (App.load "porch.json" ⟨porch, .complete⟩).toOption.map App.name = some "porch" ∧
      App.load "porch.json" (.failingAt porch porch.length "timed out") =
        .error (.unreadable "porch.json" "timed out") ∧
      App.load "porch.json" (.failingAt porch (porch.length + 1) "timed out") =
        App.load "porch.json" ⟨porch, .complete⟩ := by
  have loaded : (App.load "porch.json" ⟨porch, .complete⟩).toOption.map App.name =
      some "porch" := by
    decide +kernel
  refine ⟨loaded, ?_, (load_failingAt "porch.json" "timed out" porch _).2 (Nat.lt_add_one _)⟩
  obtain cut | ⟨_, reason, position, malformed⟩ :=
    (load_failingAt "porch.json" "timed out" porch _).1 (Nat.le_refl _)
  · exact cut
  · rw [malformed] at loaded
    cases loaded

end Brickwork
