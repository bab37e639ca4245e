import Brickwork.Text.Blank
import Brickwork.Text.Numeral
import Mathlib.Data.List.DropRight
import Mathlib.Tactic.Common

/-!
# Numerals between blanks

What a numeral is, said without reading it: one or more decimal digits, with a sign in front or not.
Reading gives a number exactly for its numerals. And what the removal of blanks does: it leaves a
word that has no blanks exactly if there is nothing but white space around that word.
-/

namespace Brickwork.Text

/-! ## White space -/

/-- The characters that are white space by their Unicode property. -/
def whiteSpace : List Char :=
  ['\t', '\n', '\x0b', '\x0c', '\r', ' ', '\u0085', '\u00a0', '\u1680', '\u2000',
   '\u2001', '\u2002', '\u2003', '\u2004', '\u2005', '\u2006', '\u2007', '\u2008',
   '\u2009', '\u200a', '\u2028', '\u2029', '\u202f', '\u205f', '\u3000']

/-- The ranges of blanks hold the white space and nothing else. -/
lemma isBlank_iff {c : Char} : isBlank c = true ↔ c ∈ whiteSpace := by
  rw [← List.mem_map_of_injective (f := Char.toNat) fun _ _ => Char.toNat_inj.mp]
  simp only [isBlank, inRanges, blankRanges, whiteSpace, List.any_cons, List.any_nil, Bool.or_false,
    Bool.or_eq_true, Bool.and_eq_true, decide_eq_true_eq, List.map_cons, List.map_nil,
    Char.reduceToNat, List.mem_cons, List.not_mem_nil, or_false]
  omega

/-- A text that is a word with nothing but white space around it. -/
def Padded (word text : List Char) : Prop :=
  ∃ front back, front ⊆ whiteSpace ∧ back ⊆ whiteSpace ∧ text = front ++ word ++ back

lemma padded_trim (text : List Char) : Padded (trim text) text := by
  refine ⟨text.takeWhile isBlank, (text.dropWhile isBlank).rtakeWhile isBlank, ?_, ?_, ?_⟩
  · intro c mem
    exact isBlank_iff.mp (List.mem_takeWhile_imp mem)
  · intro c mem
    exact isBlank_iff.mp (List.mem_rtakeWhile_imp mem)
  · have kept : trim text ++ (text.dropWhile isBlank).rtakeWhile isBlank = text.dropWhile isBlank :=
      List.rdropWhile_append_rtakeWhile
    rw [List.append_assoc, kept, List.takeWhile_append_dropWhile]

/-- Whether a word has no blanks in it. -/
def isSolid (word : List Char) : Bool :=
  word.all fun c => !isBlank c

/-- Of a text around a word without blanks, the word is left. -/
lemma trim_padded {word text : List Char} (solid : isSolid word = true)
    (padded : Padded word text) :
    trim text = word := by
  obtain ⟨front, back, before, behind, rfl⟩ := padded
  have front_blank : ∀ c ∈ front, isBlank c = true := fun c mem => isBlank_iff.mpr (before mem)
  have back_blank : ∀ c ∈ back, isBlank c = true := fun c mem => isBlank_iff.mpr (behind mem)
  have word_solid : ∀ c ∈ word, ¬isBlank c = true := by
    simpa only [isSolid, List.all_eq_true, Bool.not_eq_true', Bool.not_eq_true] using solid
  rw [trim, List.append_assoc, List.dropWhile_append_of_pos front_blank]
  cases word with
  | nil =>
    rw [List.nil_append, List.dropWhile_eq_nil_iff.mpr back_blank]
    rfl
  | cons c word =>
    have last : (c :: word).reverse.dropWhile isBlank = (c :: word).reverse := by
      rw [List.dropWhile_eq_self_iff]
      intro inside
      exact word_solid _ (List.mem_reverse.mp (List.getElem_mem inside))
    rw [List.cons_append, List.dropWhile_cons_of_neg (word_solid c List.mem_cons_self),
      ← List.cons_append,
      List.reverse_append, List.dropWhile_append_of_pos fun c mem =>
        back_blank c (List.mem_reverse.mp mem),
      last, List.reverse_reverse]

/-- Where all words that are read have no blanks, a text without its blanks is read as what a word
in it spells. -/
lemma read_trim_iff {α : Type} {read : List Char → Option α} {Spelled : List Char → α → Prop}
    (reads : ∀ {word a}, read word = some a ↔ Spelled word a)
    (solid : ∀ {word a}, Spelled word a → isSolid word = true) {text : List Char} {a : α} :
    read (trim text) = some a ↔ ∃ word, Padded word text ∧ Spelled word a := by
  constructor
  · intro found
    exact ⟨trim text, padded_trim text, reads.mp found⟩
  · rintro ⟨word, padded, spelled⟩
    rw [trim_padded (solid spelled) padded]
    exact reads.mpr spelled

/-! ## Digits -/

/-- One or more digits that are the decimal digits of a number, perhaps behind zeros. -/
structure Digits (cs : List Char) (n : Nat) : Prop where
  nonempty : cs ≠ []
  digits : cs.all Char.isDigit = true
  value : Nat.ofDigitChars 10 cs 0 = n

/-- A digit is read as the number that it stands for. -/
lemma digit?_eq (c : Char) :
    digit? c = if c.isDigit = true then some (c.toNat - '0'.toNat) else none := by
  have digit : c.isDigit = true ↔ '0' ≤ c ∧ c ≤ '9' := by
    rw [Char.isDigit, Bool.and_eq_true, decide_eq_true_eq, decide_eq_true_eq]
    rfl
  simp only [digit?, digit]

lemma digitsFrom_eq_some_iff {cs : List Char} {value n : Nat} :
    digitsFrom value cs = some n ↔ cs.all Char.isDigit = true ∧
    Nat.ofDigitChars 10 cs value = n := by
  induction cs generalizing value with
  | nil => simp [digitsFrom]
  | cons c cs ih =>
    rw [digitsFrom, digit?_eq, List.all_cons, Nat.ofDigitChars_cons]
    cases c.isDigit with
    | true => simp only [if_true, ih, Bool.true_and, Nat.mul_comm]
    | false => simp only [Bool.false_eq_true, if_false, Bool.false_and, false_and, reduceCtorEq]

lemma digits?_eq_some_iff {cs : List Char} {n : Nat} : digits? cs = some n ↔ Digits cs n := by
  cases cs with
  | nil => exact ⟨nofun, fun digits => (digits.nonempty rfl).elim⟩
  | cons c cs =>
    rw [digits?, digitsFrom_eq_some_iff]
    · exact ⟨fun ⟨digits, value⟩ => ⟨nofun, digits, value⟩, fun h => ⟨h.digits, h.value⟩⟩
    · nofun

lemma digits_decimal (n : Nat) : Digits (decimal n).toList n := by
  rw [decimal, String.toList_ofList]
  exact {
    nonempty := Nat.toDigits_ne_nil
    digits :=
      List.all_eq_true.mpr fun _ mem => Nat.isDigit_of_mem_toDigits (by decide) (by decide) mem
    value := Nat.ofDigitChars_ten_toDigits }

/-- A number is read back from its decimal text. -/
lemma digits?_decimal (n : Nat) : digits? (decimal n).toList = some n :=
  digits?_eq_some_iff.mpr (digits_decimal n)

/-! ## Signs -/

/-- The numerals of a natural number, which may have a `+` in front. -/
inductive Unsigned : List Char → Nat → Prop
  | plain {cs n} (digits : Digits cs n) : Unsigned cs n
  | plus {cs n} (digits : Digits cs n) : Unsigned ('+' :: cs) n

/-- The numerals of an integer. Zero may have either sign. -/
inductive Signed : List Char → Int → Prop
  | unsigned {cs n} (number : Unsigned cs n) : Signed cs n
  | minus {cs n} (digits : Digits cs n) : Signed ('-' :: cs) (-n)

lemma unsigned_plus_iff {cs : List Char} {n : Nat} : Unsigned ('+' :: cs) n ↔ Digits cs n := by
  constructor
  · rintro (⟨_, chars, _⟩ | digits)
    · cases chars
    · exact digits
  · exact .plus

lemma unsigned_iff_digits {cs : List Char} {n : Nat} (other : ∀ rest, cs ≠ '+' :: rest) :
    Unsigned cs n ↔ Digits cs n := by
  constructor
  · rintro (digits | _)
    · exact digits
    · exact (other _ rfl).elim
  · exact .plain

lemma unsigned?_plus (limit : Nat) (cs : List Char) :
    unsigned? limit ('+' :: cs) = (digits? cs).filter (· ≤ limit) := by
  rw [unsigned?]
  cases digits? cs with
  | none => rfl
  | some n => simp only [Option.filter_some, decide_eq_true_eq]

lemma unsigned?_of_other (limit : Nat) {cs : List Char} (other : ∀ rest, cs ≠ '+' :: rest) :
    unsigned? limit cs = (digits? cs).filter (· ≤ limit) := by
  rw [unsigned?]
  · cases digits? cs with
    | none => rfl
    | some n => simp only [Option.filter_some, decide_eq_true_eq]
  · exact other

lemma unsigned?_eq_some_iff {limit n : Nat} {cs : List Char} :
    unsigned? limit cs = some n ↔ Unsigned cs n ∧ n ≤ limit := by
  by_cases plus : ∃ rest, cs = '+' :: rest
  · obtain ⟨rest, rfl⟩ := plus
    rw [unsigned?_plus, Option.filter_eq_some_iff, decide_eq_true_eq, digits?_eq_some_iff,
      unsigned_plus_iff]
  · have other : ∀ rest, cs ≠ '+' :: rest := not_exists.mp plus
    rw [unsigned?_of_other limit other, Option.filter_eq_some_iff, decide_eq_true_eq,
      digits?_eq_some_iff, unsigned_iff_digits other]

lemma signed?_eq_some_iff {cs : List Char} {z : Int} : signed? cs = some z ↔ Signed cs z := by
  fun_cases signed? cs with
  | case1 rest =>
    rw [Option.map_eq_some_iff]
    constructor
    · rintro ⟨n, read, rfl⟩
      exact .unsigned (.plus (digits?_eq_some_iff.mp read))
    · rintro ⟨number⟩
      exact ⟨_, digits?_eq_some_iff.mpr (unsigned_plus_iff.mp number), rfl⟩
  | case2 rest =>
    rw [Option.map_eq_some_iff]
    constructor
    · rintro ⟨n, read, rfl⟩
      exact .minus (digits?_eq_some_iff.mp read)
    · rintro (⟨_, chars, _⟩ | digits)
      · cases chars
      · exact ⟨_, digits?_eq_some_iff.mpr digits, rfl⟩
  | case3 cs plus minus =>
    rw [Option.map_eq_some_iff]
    constructor
    · rintro ⟨n, read, rfl⟩
      exact .unsigned (.plain (digits?_eq_some_iff.mp read))
    · rintro (number | _)
      · exact ⟨_, digits?_eq_some_iff.mpr ((unsigned_iff_digits plus).mp number), rfl⟩
      · exact (minus _ rfl).elim

/-- Whether a character can stand in a numeral. -/
def isNumeric (c : Char) : Bool :=
  c.isDigit || c = '+' || c = '-'

lemma Digits.numeric {cs : List Char} {n : Nat} (digits : Digits cs n) :
    cs.all isNumeric = true := by
  rw [List.all_eq_true]
  intro c mem
  rw [isNumeric, List.all_eq_true.mp digits.digits c mem]
  rfl

lemma Signed.numeric {cs : List Char} {z : Int} (number : Signed cs z) :
    cs.all isNumeric = true := by
  obtain (digits | digits) | digits := number
  · exact digits.numeric
  · exact digits.numeric
  · exact digits.numeric

lemma Signed.exists_cons {cs : List Char} {z : Int} (number : Signed cs z) :
    ∃ c rest, cs = c :: rest ∧ isNumeric c = true := by
  have nonempty : cs ≠ [] := by
    obtain (digits | _) | _ := number
    · exact digits.nonempty
    · nofun
    · nofun
  obtain ⟨c, rest, rfl⟩ := List.exists_cons_of_ne_nil nonempty
  exact ⟨c, rest, rfl, List.all_eq_true.mp number.numeric c List.mem_cons_self⟩

/-- There are no blanks in a numeral. -/
lemma Signed.solid {cs : List Char} {z : Int} (number : Signed cs z) : isSolid cs = true := by
  have white : whiteSpace.all (fun c => !isNumeric c) = true := by decide
  rw [isSolid, List.all_eq_true]
  intro c mem
  have numeric := List.all_eq_true.mp number.numeric c mem
  rw [Bool.not_eq_true', Bool.eq_false_iff]
  intro blank
  have other := List.all_eq_true.mp white c (isBlank_iff.mp blank)
  rw [numeric] at other
  cases other

end Brickwork.Text
