import Brickwork.Proofs.Document.Consumption

/-!
# Words and strings

What the readers of numbers, names and strings take: a word, or a string up to its closing quote.
None of them looks further than that, apart from the byte that ends a number.
-/

namespace Brickwork.Document.Reader

/-! ## Strings -/

lemma local_stringByte : Local (fun b v => v = [b]) stringByte :=
  local_nextByte (fun _ => not_yields_badFormat) fun _ => local_pure rfl

lemma plain_of_hexDigit? {b : UInt8} {n : Nat} (h : hexDigit? b = some n) :
    b ≠ 0x22 ∧ b ≠ 0x5c := by
  constructor
  · rintro rfl
    cases h
  · rintro rfl
    cases h

lemma local_hexNumber : Local (fun _ v => Body v) hexNumber := by
  refine local_stringByte.bind ?_
  rintro a _ rfl
  refine local_stringByte.bind ?_
  rintro b _ rfl
  refine local_stringByte.bind ?_
  rintro c _ rfl
  refine local_stringByte.bind ?_
  rintro d _ rfl
  split
  case h_1 first second third fourth =>
    obtain ⟨first, first'⟩ := plain_of_hexDigit? first
    obtain ⟨second, second'⟩ := plain_of_hexDigit? second
    obtain ⟨third, third'⟩ := plain_of_hexDigit? third
    obtain ⟨fourth, fourth'⟩ := plain_of_hexDigit? fourth
    refine local_pure (.plain first first' (.plain second second' ?_))
    exact .plain third third' (.plain fourth fourth' .nil)
  case h_2 => exact local_badFormat

lemma local_pairByte {wanted : UInt8} : Local (fun _ v => v = [wanted]) (pairByte wanted) := by
  refine local_peekByte (fun _ => not_yields_badFormat) fun d => eager_advance ?_
  split
  · subst wanted
    exact local_pure rfl
  · exact local_badFormat

lemma local_numberedCharacter : Local (fun _ v => Body v) numberedCharacter := by
  refine local_hexNumber.bind fun high v body => ?_
  split
  · exact local_badFormat
  · split
    · refine local_pairByte.bind ?_
      rintro _ _ rfl
      refine local_pairByte.bind ?_
      rintro _ _ rfl
      refine local_hexNumber.bind fun low v' body' => ?_
      split
      · refine local_pure (body.append (.escape ?_))
        rw [List.append_nil]
        exact body'
      · exact local_badFormat
    · refine local_pure ?_
      rw [List.append_nil]
      exact body

lemma local_escape : Local (fun _ v => Body (0x5c :: v)) escape := by
  refine local_stringByte.bind ?_
  rintro b _ rfl
  dsimp only
  split
  · refine local_numberedCharacter.bind fun ch v body => local_pure (.escape ?_)
    rw [List.append_nil]
    exact body
  · split
    · exact local_pure (.escape .nil)
    · exact local_badFormat

lemma local_skipEscape : Local (fun _ v => Body (0x5c :: v)) skipEscape := by
  refine local_stringByte.bind ?_
  rintro b _ rfl
  dsimp only
  split
  · refine local_hexNumber.bind fun n v body => local_pure (.escape ?_)
    rw [List.append_nil]
    exact body
  · split
    · exact local_pure (.escape .nil)
    · exact local_badFormat

/-- What can stand between two quotes, and the second quote. -/
def Quoted (v : List UInt8) : Prop :=
  ∃ body, Body body ∧ v = body ++ [0x22]

lemma Quoted.append {body v : List UInt8} (h : Quoted v) (first : Body body) :
    Quoted (body ++ v) := by
  obtain ⟨body', later, rfl⟩ := h
  exact ⟨body ++ body', first.append later, (List.append_assoc body body' [0x22]).symm⟩

lemma local_stringBytes : Local (fun _ v => Quoted v) stringBytes := by
  refine local_iterate (fun content => ?_) (fun _ _ _ first later => later.append first) []
  refine local_stringByte.bind ?_
  rintro b _ rfl
  split
  · subst b
    exact local_pure ⟨[], .nil, rfl⟩
  · split
    · subst b
      refine local_escape.bind fun bytes v body => local_pure ⟨List.cons_ne_nil _ _, ?_⟩
      rw [List.append_nil]
      exact body
    · split
      · exact local_badFormat
      · exact local_pure ⟨List.cons_ne_nil _ _, .plain ‹_› ‹_› .nil⟩

lemma local_skipString : Local (fun _ v => Quoted v) skipString := by
  refine local_iterate (fun _ => ?_) (fun _ _ _ first later => later.append first) ()
  refine local_stringByte.bind ?_
  rintro b _ rfl
  split
  · subst b
    exact local_pure ⟨[], .nil, rfl⟩
  · split
    · subst b
      refine local_skipEscape.bind fun _ v body => local_pure ⟨List.cons_ne_nil _ _, ?_⟩
      rw [List.append_nil]
      exact body
    · split
      · exact local_badFormat
      · exact local_pure ⟨List.cons_ne_nil _ _, .plain ‹_› ‹_› .nil⟩

lemma local_stringText : Local (fun _ v => Quoted v) stringText := by
  refine local_stringBytes.bind fun bytes v quoted => ?_
  split
  · refine local_pure ?_
    rw [List.append_nil]
    exact quoted
  · refine local_of_never fun text => ?_
    rintro ⟨c, c', took⟩
    cases took

/-! ## Words -/

lemma local_word {letters : List Char} (inside : Letters (letters.map Char.toUInt8)) :
    Local (fun _ v => Letters v) (word letters) := by
  induction letters with
  | nil => exact local_pure letters_nil
  | cons letter letters ih =>
    obtain ⟨first, rest⟩ := List.forall_mem_cons.mp inside
    refine local_next (fun _ => not_yields_badFormat) fun b => ?_
    dsimp only
    split
    case isTrue eq =>
      rw [toUInt8_of_ofUInt8 eq] at first
      exact (ih rest).mono fun _ v later => later.cons first
    case isFalse => exact local_badFormat

/-- A byte that ends a word is no digit. -/
lemma not_isDigit {b : UInt8} (apart : isWordByte b = false) :
    ¬(Char.ofUInt8 b).isDigit = true := by
  intro digit
  rw [isWordByte_of_isDigit digit] at apart
  cases apart

lemma isWordByte_of_some {b : UInt8} {ch : Char} (eq : some (Char.ofUInt8 b) = some ch)
    (inside : isWordByte ch.toUInt8 = true) : isWordByte b = true := by
  rwa [← eq_toUInt8 eq] at inside

lemma local_digitRun : Local (fun _ v => Letters v) digitRun := by
  refine local_iterate (fun digits => ?_) (fun _ _ _ => Letters.append) []
  refine local_peek (fun b => ?_) (local_pure letters_nil) fun b apart => if_neg (not_isDigit apart)
  dsimp only
  split
  case isTrue digit =>
    exact .inl
      (eager_advance
        (local_pure ⟨List.cons_ne_nil _ _, letters_nil.cons (isWordByte_of_isDigit digit)⟩))
  case isFalse => exact .inr rfl

lemma local_wholeDigits {care : Care} : Local (fun _ v => IsWord v) (wholeDigits care) := by
  refine local_next (fun _ => not_yields_badFormat) fun b => ?_
  dsimp only
  split
  case isTrue zero =>
    have inside : isWordByte b = true := by
      rw [← toUInt8_of_ofUInt8 zero]
      rfl
    have single : IsWord [b] := ⟨List.cons_ne_nil _ _, letters_nil.cons inside⟩
    refine local_peek (fun d => ?_) (local_pure single) fun d apart => if_neg (not_isDigit apart)
    dsimp only
    split
    · exact .inl eager_badFormat
    · exact .inr rfl
  case isFalse =>
    split
    case isTrue digit =>
      refine local_digitRun.bind fun digits v letters => local_pure ⟨List.cons_ne_nil _ _, ?_⟩
      rw [List.append_nil]
      exact letters.cons (isWordByte_of_isDigit digit)
    case isFalse => exact local_badFormat

lemma eager_fractionDigits {care : Care} {d : UInt8} (point : isWordByte d = true) :
    Eager d (fun _ v => Letters v) (fractionDigits care) := by
  refine eager_advance (local_digitRun.bind fun digits v letters => ?_)
  split
  · exact local_of_never fun _ => not_yields_bind fun _ => not_yields_badFormat
  · refine local_pure ?_
    rw [List.append_nil]
    exact letters.cons point

/-- The first digit of an exponent, behind what comes before it. -/
lemma local_exponentDigit {care : Care} {negative : Bool} {v : List UInt8} (front : Letters v) :
    Local (fun _ v' => Letters (v ++ v')) (do
      match ← next with
      | none => badFormat (missingDigit care none)
      | some c =>
        if c.isDigit then return (negative, c.toNat - '0'.toNat)
        else badFormat .invalidNumber) := by
  refine local_next (fun _ => not_yields_badFormat) fun b => ?_
  dsimp only
  split
  case isTrue digit =>
    exact local_pure (front.append (letters_nil.cons (isWordByte_of_isDigit digit)))
  case isFalse => exact local_badFormat

lemma eager_exponentStart {care : Care} {d : UInt8} (mark : isWordByte d = true) :
    Eager d (fun _ v => Letters v) (exponentStart care) := by
  have front := letters_nil.cons mark
  refine eager_advance (local_peek (fun b => ?_) (local_exponentDigit front) fun b apart => ?_)
  · have signed (inside : isWordByte b = true) : Letters [d, b] :=
      (letters_nil.cons inside).cons mark
    dsimp only
    split
    case h_1 sign =>
      exact .inl (eager_advance (local_exponentDigit (signed (isWordByte_of_some sign rfl))))
    case h_2 sign =>
      exact .inl (eager_advance (local_exponentDigit (signed (isWordByte_of_some sign rfl))))
    case h_3 => exact .inr rfl
  · dsimp only
    split
    case h_1 sign => exact absurd (isWordByte_of_some sign rfl) (ne_true_of_eq_false apart)
    case h_2 sign => exact absurd (isWordByte_of_some sign rfl) (ne_true_of_eq_false apart)
    case h_3 => rfl

lemma local_exponentDigits {first : Nat} {tooLarge : Bool} :
    Local (fun _ v => Letters v) (exponentDigits first tooLarge) := by
  refine local_iterate (fun exponent => ?_) (fun _ _ _ => Letters.append) _
  refine local_peek (fun b => ?_) (local_pure letters_nil) fun b apart => if_neg (not_isDigit apart)
  dsimp only
  split
  case isTrue digit =>
    have single : Letters [b] := letters_nil.cons (isWordByte_of_isDigit digit)
    refine .inl (eager_advance ?_)
    split
    · exact local_pure ⟨List.cons_ne_nil _ _, single⟩
    · split
      · exact local_pure ⟨List.cons_ne_nil _ _, single⟩
      · split
        · exact local_badFormat
        · exact local_pure ⟨List.cons_ne_nil _ _, single⟩
  case isFalse => exact .inr rfl

lemma local_inRange {number : Option Number} {P : Number → List UInt8 → Prop}
    (shape : ∀ n, P n []) :
    Local P (inRange number) := by
  cases number with
  | some number => exact local_pure (shape number)
  | none => exact local_badFormat

lemma eager_exponentEnd {m : Mantissa} {d : UInt8} (mark : isWordByte d = true) :
    Eager d (fun _ v => Letters v) (exponentEnd m) := by
  refine (eager_exponentStart mark).bind fun start v letters => ?_
  refine local_exponentDigits.bind fun exponent v' letters' => ?_
  have letters : Letters (d :: (v ++ (v' ++ []))) := by
    rw [List.append_nil]
    exact Letters.append letters letters'
  split
  · exact local_inRange fun _ => letters
  · exact local_pure letters

lemma eager_skipExponent {d : UInt8} (mark : isWordByte d = true) :
    Eager d (fun _ v => Letters v) skipExponent := by
  refine (eager_exponentStart mark).bind fun start v letters => ?_
  refine local_digitRun.bind fun digits v' letters' => local_pure ?_
  rw [List.append_nil]
  exact Letters.append letters letters'

section Parts

variable {α : Type} {P : α → List UInt8 → Prop} {fraction exponent last : Reader α}

/-- A number may go on with an exponent. -/
lemma local_exponentPart (marked : ∀ d, isWordByte d = true → Eager d P exponent)
    (done : Local P last) :
    Local P (do
      match ← peek with
      | some 'e' | some 'E' => exponent
      | _ => last) := by
  refine local_peek (fun b => ?_) done fun b apart => ?_
  · dsimp only
    split
    case h_1 mark => exact .inl (marked b (isWordByte_of_some mark rfl))
    case h_2 mark => exact .inl (marked b (isWordByte_of_some mark rfl))
    case h_3 => exact .inr rfl
  · dsimp only
    split
    case h_1 mark => exact absurd (isWordByte_of_some mark rfl) (ne_true_of_eq_false apart)
    case h_2 mark => exact absurd (isWordByte_of_some mark rfl) (ne_true_of_eq_false apart)
    case h_3 => rfl

/-- A number may go on with a fraction or with an exponent. -/
lemma local_fractionPart (pointed : ∀ d, isWordByte d = true → Eager d P fraction)
    (marked : ∀ d, isWordByte d = true → Eager d P exponent) (done : Local P last) :
    Local P (do
      match ← peek with
      | some '.' => fraction
      | some 'e' | some 'E' => exponent
      | _ => last) := by
  refine local_peek (fun b => ?_) done fun b apart => ?_
  · dsimp only
    split
    case h_1 point => exact .inl (pointed b (isWordByte_of_some point rfl))
    case h_2 mark => exact .inl (marked b (isWordByte_of_some mark rfl))
    case h_3 mark => exact .inl (marked b (isWordByte_of_some mark rfl))
    case h_4 => exact .inr rfl
  · dsimp only
    split
    case h_1 point => exact absurd (isWordByte_of_some point rfl) (ne_true_of_eq_false apart)
    case h_2 mark => exact absurd (isWordByte_of_some mark rfl) (ne_true_of_eq_false apart)
    case h_3 mark => exact absurd (isWordByte_of_some mark rfl) (ne_true_of_eq_false apart)
    case h_4 => rfl

end Parts

lemma local_number {negative : Bool} : Local (fun _ v => IsWord v) (number negative) := by
  refine local_wholeDigits.bind fun whole v isWord => ?_
  refine local_fractionPart (fun d point => ?_) (fun d mark => ?_) ?_
  · refine (eager_fractionDigits point).bind fun fraction v' letters => ?_
    refine local_exponentPart (fun d' mark => ?_) ?_
    · exact (eager_exponentEnd mark).mono fun _ _ later =>
        isWord.append (Letters.append letters later)
    · exact local_inRange fun _ => isWord.append (Letters.append letters letters_nil)
  · exact (eager_exponentEnd mark).mono fun _ _ => isWord.append
  · exact local_inRange fun _ => isWord.append letters_nil

lemma local_skipNumber : Local (fun _ v => IsWord v) skipNumber := by
  refine local_wholeDigits.bind fun whole v isWord => ?_
  refine local_fractionPart (fun d point => ?_) (fun d mark => ?_) ?_
  · refine (eager_fractionDigits point).bind fun fraction v' letters => ?_
    refine local_exponentPart (fun d' mark => ?_) ?_
    · exact (eager_skipExponent mark).mono fun _ _ later =>
        isWord.append (Letters.append letters later)
    · exact local_pure (isWord.append (Letters.append letters letters_nil))
  · exact (eager_skipExponent mark).mono fun _ _ => isWord.append
  · exact local_pure (isWord.append letters_nil)

end Brickwork.Document.Reader
