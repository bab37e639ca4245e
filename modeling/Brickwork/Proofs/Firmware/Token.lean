import Brickwork.Code.Expr
import Mathlib.Data.List.ReduceOption
import Mathlib.Tactic.Common
import Mathlib.Tactic.IntervalCases

/-!
# Tokens of firmware

How the text of firmware falls into tokens, by the rules of the language it is written in: blanks
separate, a word is as long as it can be, and a literal stands for the text that its escapes spell.
The lemmas say what the texts of words, literals and operators are read as, with any text behind
them.
-/

namespace Brickwork.Firmware

open Code

/-- Reads a whole list piece by piece; each piece has to take something off the list. -/
def pieces {α β : Type} (read : List α → Option (β × List α)) : List α → Option (List β)
  | [] => some []
  | a :: l =>
    match read (a :: l) with
    | none => none
    | some (b, rest) =>
      -- a piece has to take something, or the reading would not end
      if rest.length ≤ l.length then (pieces read rest).map (b :: ·) else none
termination_by l => l.length

/-- A piece that is read off the front comes before those of the rest. -/
lemma pieces_append {α β : Type} {read : List α → Option (β × List α)} {l rest : List α} {b : β}
    {bs : List β} (nonempty : l ≠ []) (first : read (l ++ rest) = some (b, rest))
    (later : pieces read rest = some bs) : pieces read (l ++ rest) = some (b :: bs) := by
  obtain ⟨a, l, rfl⟩ := List.exists_cons_of_ne_nil nonempty
  rw [List.cons_append] at first ⊢
  rw [pieces, first]
  have shorter : rest.length ≤ (l ++ rest).length := by simp
  simp only [shorter, if_true, later, Option.map_some]

/-! ## Literals -/

/-- Whether a character is an octal digit. -/
def isOctal (c : Char) : Bool :=
  '0' ≤ c && c ≤ '7'

/-- The number that octal digits spell. -/
def octal (digits : List Char) : Nat :=
  digits.foldl (fun n d => 8 * n + (d.toNat - '0'.toNat)) 0

/-- The character of an escape whose backslash has been read: it is told by a letter or a sign, or
else numbered by up to three octal digits. -/
def escape? : List Char → Option (Char × List Char)
  | 'n' :: rest => some ('\n', rest)
  | 'r' :: rest => some ('\r', rest)
  | 't' :: rest => some ('\t', rest)
  | '"' :: rest => some ('"', rest)
  | '\\' :: rest => some ('\\', rest)
  | rest =>
    let digits := (rest.take 3).takeWhile isOctal
    if digits.isEmpty then none else some (Char.ofNat (octal digits), rest.drop digits.length)

/-- The character that stands first between the quotes of a literal. -/
def character? : List Char → Option (Char × List Char)
  | [] => none
  | '\\' :: rest => escape? rest
  | c :: rest => some (c, rest)

/-- What stands up to the quote that ends a literal, and the text behind it. A line cannot end
within a literal. -/
def quoted? : List Char → Option (List Char × List Char)
  | [] => none
  | '"' :: rest => some ([], rest)
  | '\\' :: c :: rest => (quoted? rest).map fun (inside, rest) => ('\\' :: c :: inside, rest)
  | c :: rest =>
    if c = '\n' then none else (quoted? rest).map fun (inside, rest) => (c :: inside, rest)

/-- The text of a literal whose first quote has been read, and what stands behind the literal. -/
def literal? (cs : List Char) : Option (String × List Char) :=
  match quoted? cs with
  | none => none
  | some (inside, rest) => (pieces character? inside).map fun content =>
    (String.ofList content, rest)

/-- The character of a literal whose first apostrophe has been read, and what stands behind it. -/
def letter? (cs : List Char) : Option (Char × List Char) :=
  match cs with
  | '\'' :: _ => none
  | cs =>
    match character? cs with
    | some (c, '\'' :: rest) => some (c, rest)
    | _ => none

/-! ## Tokens -/

/-- A token. -/
inductive Token where
  | word (spelling : String)
  | text (content : String)
  | letter (c : Char)
  | operator (operator : Operator)
  | openParen
  | closeParen
  | openBrace
  | closeBrace
  | semicolon
  | colon
  | question
  | comma
  | assign
deriving DecidableEq

/-- Whether a character can stand in a word: a name, a number, or a name within an object. -/
def isWordChar (c : Char) : Bool :=
  c.isAlphanum || c = '_' || c = '.'

/-- Whether a character only separates. -/
def isGap (c : Char) : Bool :=
  c = ' ' || c = '\t' || c = '\n'

/-- Whether neither a gap nor a word nor a literal starts with a character. -/
def startsMark (c : Char) : Bool :=
  !isGap c && !isWordChar c && !decide (c = '"') && !decide (c = '\'')

/-- The operator or mark at the front of a text; of two that fit it is the longer. -/
def mark? : List Char → Option (Token × List Char)
  | '=' :: '=' :: rest => some (.operator (.comparison .equal), rest)
  | '!' :: '=' :: rest => some (.operator (.comparison .notEqual), rest)
  | '<' :: '=' :: rest => some (.operator (.comparison .lessEqual), rest)
  | '>' :: '=' :: rest => some (.operator (.comparison .greaterEqual), rest)
  | '&' :: '&' :: rest => some (.operator (.connective .and), rest)
  | '|' :: '|' :: rest => some (.operator (.connective .or), rest)
  | '<' :: rest => some (.operator (.comparison .less), rest)
  | '>' :: rest => some (.operator (.comparison .greater), rest)
  | '-' :: rest => some (.operator .minus, rest)
  | '*' :: rest => some (.operator .times, rest)
  | '/' :: rest => some (.operator .divide, rest)
  | '(' :: rest => some (.openParen, rest)
  | ')' :: rest => some (.closeParen, rest)
  | '\x7b' :: rest => some (.openBrace, rest)
  | '\x7d' :: rest => some (.closeBrace, rest)
  | ';' :: rest => some (.semicolon, rest)
  | ':' :: rest => some (.colon, rest)
  | '?' :: rest => some (.question, rest)
  | ',' :: rest => some (.comma, rest)
  | '=' :: rest => some (.assign, rest)
  | _ => none

/-- The gap or token at the front of a text. -/
def lexeme? (cs : List Char) : Option (Option Token × List Char) :=
  match cs with
  | [] => none
  | c :: rest =>
    if isGap c then some (none, rest)
    else if isWordChar c then
      some (some (.word (String.ofList (cs.takeWhile isWordChar))), cs.dropWhile isWordChar)
    else if c = '"' then (literal? rest).map fun (content, rest) => (some (.text content), rest)
    else if c = '\'' then (letter? rest).map fun (c, rest) => (some (.letter c), rest)
    else (mark? cs).map fun (token, rest) => (some token, rest)

/-- The tokens of a text. -/
def lex (cs : List Char) : Option (List Token) :=
  (pieces lexeme? cs).map List.reduceOption

/-- What is read at the front of a text, if it is a token, comes before the tokens of the rest. -/
lemma lex_append {l rest : List Char} {first : Option Token} {tokens : List Token}
    (nonempty : l ≠ [])
    (read : lexeme? (l ++ rest) = some (first, rest)) (later : lex rest = some tokens) :
    lex (l ++ rest) = some (first.toList ++ tokens) := by
  obtain ⟨lexemes, eq, rfl⟩ := Option.map_eq_some_iff.mp later
  rw [lex, pieces_append nonempty read eq]
  cases first with
  | none => rfl
  | some token => rfl

lemma lex_nil : lex [] = some [] := by
  rw [lex, pieces]
  rfl

lemma lex_gap {c : Char} {rest : List Char} {tokens : List Token} (gap : isGap c = true)
    (later : lex rest = some tokens) : lex (c :: rest) = some tokens := by
  have read : lexeme? ([c] ++ rest) = some (none, rest) := by
    rw [List.singleton_append, lexeme?, if_pos gap]
  exact lex_append (List.cons_ne_nil c []) read later

lemma lex_mark {c : Char} {l rest : List Char} {token : Token} {tokens : List Token}
    (starts : startsMark c = true) (read : mark? (c :: l ++ rest) = some (token, rest))
    (later : lex rest = some tokens) : lex (c :: l ++ rest) = some (token :: tokens) := by
  have read : lexeme? (c :: l ++ rest) = some (some token, rest) := by
    simp only [startsMark, Bool.and_eq_true, Bool.not_eq_true', decide_eq_false_iff_not] at starts
    obtain ⟨⟨⟨gap, word⟩, quote⟩, tick⟩ := starts
    rw [List.cons_append] at read ⊢
    rw [lexeme?, gap, word, if_neg quote, if_neg tick, read]
    rfl
  exact lex_append (List.cons_ne_nil c l) read later

/-- A mark of one character is read as itself, whatever follows. -/
lemma lex_sign {c : Char} {rest : List Char} {token : Token} {tokens : List Token}
    (starts : startsMark c = true) (read : mark? (c :: rest) = some (token, rest))
    (later : lex rest = some tokens) : lex (c :: rest) = some (token :: tokens) :=
  lex_mark (l := []) starts read later

/-- An operator is read as itself where a gap follows. -/
lemma lex_operator (operator : Operator) {rest : List Char} {tokens : List Token}
    (later : lex rest = some tokens) :
    lex (operator.symbol.toList ++ ' ' :: rest) = some (.operator operator :: tokens) := by
  have later : lex (' ' :: rest) = some tokens := lex_gap rfl later
  cases operator with
  | comparison comparison =>
    cases comparison with
    | _ => exact lex_mark rfl rfl later
  | connective connective =>
    cases connective with
    | _ => exact lex_mark rfl rfl later
  | _ => exact lex_mark rfl rfl later

/-- Whether a text is a single word. -/
def IsWord (spelling : String) : Prop :=
  spelling ≠ "" ∧ ∀ c ∈ spelling.toList, isWordChar c = true

-- over the characters of the text, and not over all characters there are
instance (spelling : String) : Decidable (IsWord spelling) :=
  @instDecidableAnd _ _ inferInstance (List.decidableBAll _ spelling.toList)

/-- Whether a text cannot go on with a word that stands in front of it. -/
def Apart (rest : List Char) : Prop :=
  ∀ c ∈ rest.head?, isWordChar c = false

/-- A word is read whole where no further character of a word follows. -/
lemma lex_word {spelling : String} {rest : List Char} {tokens : List Token}
    (word : IsWord spelling) (apart : Apart rest) (later : lex rest = some tokens) :
    lex (spelling.toList ++ rest) = some (.word spelling :: tokens) := by
  obtain ⟨nonempty, chars⟩ := word
  have nonempty : spelling.toList ≠ [] := fun nil => nonempty (String.toList_eq_nil_iff.mp nil)
  have ends : rest.takeWhile isWordChar = [] ∧ rest.dropWhile isWordChar = rest := by
    cases rest with
    | nil => exact ⟨rfl, rfl⟩
    | cons c rest =>
      have stops : isWordChar c = false := apart c rfl
      exact ⟨by rw [List.takeWhile_cons, stops]; rfl, by rw [List.dropWhile_cons, stops]; rfl⟩
  have read : lexeme? (spelling.toList ++ rest) = some (some (.word spelling), rest) := by
    obtain ⟨c, cs, eq⟩ := List.exists_cons_of_ne_nil nonempty
    have first : isWordChar c = true := chars c (eq ▸ List.mem_cons_self)
    -- gaps are looked for first, but a word starts with none
    have solid : isGap c = false := by
      by_contra gap
      simp only [isGap, Bool.not_eq_false, Bool.or_eq_true, decide_eq_true_eq] at gap
      rcases gap with (rfl | rfl) | rfl
      all_goals cases first
    rw [eq, List.cons_append, lexeme?, solid, first, ← List.cons_append, ← eq,
      List.takeWhile_append_of_pos chars, List.dropWhile_append_of_pos chars, ends.1, ends.2,
      List.append_nil, String.ofList_toList]
    rfl
  exact lex_append nonempty read later

/-! ## Literals are read back -/

lemma octalDigit_eq (n : Nat) :
    isOctal (octalDigit n) = true ∧ (octalDigit n).toNat - '0'.toNat = n % 8 := by
  have small : n % 8 < 8 := Nat.mod_lt n (by decide)
  rw [octalDigit]
  interval_cases n % 8 <;> decide

/-- An octal digit is none of the characters that have a meaning of their own in literals. -/
lemma ne_of_isOctal {c d : Char} (digit : isOctal c = true) (other : isOctal d = false) :
    c ≠ d := by
  rintro rfl
  rw [digit] at other
  cases other

/-- Three octal digits stand for the character that they number. -/
lemma escape?_octal {n : Nat} (small : n < 512) (rest : List Char) :
    escape? (octalDigit (n / 64) :: octalDigit (n / 8) :: octalDigit n :: rest) =
      some (Char.ofNat n, rest) := by
  obtain ⟨isA, valueA⟩ := octalDigit_eq (n / 64)
  obtain ⟨isB, valueB⟩ := octalDigit_eq (n / 8)
  obtain ⟨isC, valueC⟩ := octalDigit_eq n
  -- from here on it only matters that they are octal digits with these values
  generalize octalDigit (n / 64) = a at *
  generalize octalDigit (n / 8) = b at *
  generalize octalDigit n = c at *
  have value : octal [a, b, c] = n := by
    simp only [octal, List.foldl_cons, List.foldl_nil, valueA, valueB, valueC]
    omega
  have digits : ((a :: b :: c :: rest).take 3).takeWhile isOctal = [a, b, c] := by
    simp [isA, isB, isC]
  rw [escape?]
  · simp only [digits, value]
    rfl
  all_goals
    intro _ eq
    exact ne_of_isOctal isA rfl (List.cons.inj eq).1

/-- A character stands in a literal as an escape with one sign, as an escape with three digits, or
as itself, if it has no meaning of its own there. -/
lemma literalChar_cases (c : Char) :
    (∃ sign, literalChar c = ['\\', sign] ∧ ∀ rest, escape? (sign :: rest) = some (c, rest)) ∨
    (∃ x y z, literalChar c = ['\\', x, y, z] ∧ isOctal y = true ∧ isOctal z = true ∧
      ∀ rest, escape? (x :: y :: z :: rest) = some (c, rest)) ∨
    (literalChar c = [c] ∧ c ≠ '"' ∧ c ≠ '\\' ∧ c ≠ '\n') := by
  by_cases sign : c = '"' ∨ c = '\\' ∨ c = '\n' ∨ c = '\r' ∨ c = '\t'
  · left
    rcases sign with rfl | rfl | rfl | rfl | rfl
    · exact ⟨'"', rfl, fun _ => rfl⟩
    · exact ⟨'\\', rfl, fun _ => rfl⟩
    · exact ⟨'n', rfl, fun _ => rfl⟩
    · exact ⟨'r', rfl, fun _ => rfl⟩
    · exact ⟨'t', rfl, fun _ => rfl⟩
  · right
    simp only [not_or] at sign
    obtain ⟨quote, backslash, newline, return', tab⟩ := sign
    rw [literalChar, if_neg quote, if_neg backslash, if_neg newline, if_neg return', if_neg tab]
    by_cases control : isControl c = true
    · have small : c.toNat < 512 := by
        simp only [isControl, Bool.or_eq_true, decide_eq_true_eq] at control
        omega
      refine .inl ⟨_, _, _, if_pos control, (octalDigit_eq _).1, (octalDigit_eq _).1, ?_⟩
      intro rest
      rw [escape?_octal small, Char.ofNat_toNat]
    · exact .inr ⟨if_neg control, quote, backslash, newline⟩

/-- Reading what stands for a character in a literal gives the character. -/
lemma character?_literalChar (c : Char) (rest : List Char) :
    character? (literalChar c ++ rest) = some (c, rest) := by
  obtain ⟨_, eq, read⟩ | ⟨_, _, _, eq, _, _, read⟩ | ⟨eq, _, backslash, _⟩ := literalChar_cases c
  · rw [eq]
    exact read rest
  · rw [eq]
    exact read rest
  · rw [eq, List.singleton_append, character?]
    exact backslash

/-- What stands for a character does not end a literal. -/
lemma quoted?_literalChar (c : Char) {cs inside rest : List Char}
    (later : quoted? cs = some (inside, rest)) :
    quoted? (literalChar c ++ cs) = some (literalChar c ++ inside, rest) := by
  -- a character that is no quote, backslash or end of line is passed over
  have pass {d : Char} {cs inside : List Char} (quote : d ≠ '"') (backslash : d ≠ '\\')
      (newline : d ≠ '\n') (later : quoted? cs = some (inside, rest)) :
      quoted? (d :: cs) = some (d :: inside, rest) := by
    rw [quoted?, if_neg newline, later]
    · rfl
    · exact quote
    · exact fun c _ eq _ => backslash eq
  obtain ⟨sign, eq, _⟩ | ⟨x, y, z, eq, isY, isZ, _⟩ | ⟨eq, quote, backslash, newline⟩ :=
    literalChar_cases c
  · rw [eq, List.cons_append, List.singleton_append, quoted?, later]
    rfl
  · have digits : quoted? (y :: z :: cs) = some (y :: z :: inside, rest) := by
      have pass' {d} (digit : isOctal d = true) {cs inside} :=
        @pass d cs inside (ne_of_isOctal digit rfl) (ne_of_isOctal digit rfl)
          (ne_of_isOctal digit rfl)
      exact pass' isY (pass' isZ later)
    rw [eq]
    show quoted? ('\\' :: x :: y :: z :: cs) = _
    rw [quoted?, digits]
    rfl
  · rw [eq]
    exact pass quote backslash newline later

/-- A literal is read as the text that it stands for, with anything behind it. -/
lemma literal?_literal (content rest : List Char) :
    literal? (content.flatMap literalChar ++ '"' :: rest) = some (String.ofList content, rest) := by
  have ends : quoted? (content.flatMap literalChar ++ '"' :: rest) =
      some (content.flatMap literalChar, rest) := by
    induction content with
    | nil => rfl
    | cons c content ih =>
      rw [List.flatMap_cons, List.append_assoc]
      exact quoted?_literalChar c ih
  have spells : pieces character? (content.flatMap literalChar) = some content := by
    clear ends
    induction content with
    | nil => rw [List.flatMap_nil, pieces]
    | cons c content ih =>
      have nonempty : literalChar c ≠ [] := by
        obtain ⟨_, eq, _⟩ | ⟨_, _, _, eq, _⟩ | ⟨eq, _⟩ := literalChar_cases c
        all_goals rw [eq]; exact List.cons_ne_nil _ _
      exact pieces_append nonempty (character?_literalChar c _) ih
  rw [literal?, ends]
  simp only [spells, Option.map_some]

lemma lex_letter {c : Char} (other : c ≠ '\'') {rest : List Char} {tokens : List Token}
    (later : lex rest = some tokens) :
    lex ('\'' :: (literalChar c ++ '\'' :: rest)) = some (.letter c :: tokens) := by
  have read : letter? (literalChar c ++ '\'' :: rest) = some (c, rest) := by
    have first : ∀ more, literalChar c ++ '\'' :: rest ≠ '\'' :: more := by
      intro more eq
      obtain ⟨_, eq', _⟩ | ⟨_, _, _, eq', _⟩ | ⟨eq', _⟩ := literalChar_cases c
      all_goals rw [eq'] at eq
      · cases eq
      · cases eq
      · exact other (List.cons.inj eq).1
    rw [letter?, character?_literalChar]
    · rfl
    · exact first
  have read : lexeme? ('\'' :: (literalChar c ++ '\'' :: rest)) =
      some (some (.letter c), rest) := by
    rw [lexeme?, read]
    rfl
  have nonempty : '\'' :: (literalChar c ++ ['\'']) ≠ [] := List.cons_ne_nil _ _
  have split : '\'' :: (literalChar c ++ '\'' :: rest) =
      '\'' :: (literalChar c ++ ['\'']) ++ rest := by simp
  rw [split] at read ⊢
  exact lex_append nonempty read later

lemma lex_literal (content : String) {rest : List Char} {tokens : List Token}
    (later : lex rest = some tokens) :
    lex ((literal content).toList ++ rest) = some (.text content :: tokens) := by
  have read : lexeme? ((literal content).toList ++ rest) = some (some (.text content), rest) := by
    have read := literal?_literal content.toList rest
    rw [String.ofList_toList] at read
    rw [literal, String.toList_ofList, literalChars, List.cons_append, List.cons_append,
      List.append_assoc, List.singleton_append, lexeme?]
    simp only [read]
    rfl
  refine lex_append ?_ read later
  rw [literal, String.toList_ofList]
  exact List.cons_ne_nil _ _

/-! ## Texts of tokens -/

/-- The text of a token. -/
def Token.chars : Token → List Char
  | word spelling => spelling.toList
  | text content => (Code.literal content).toList
  | letter c => '\'' :: literalChar c ++ ['\'']
  | operator op => op.symbol.toList
  | openParen => ['(']
  | closeParen => [')']
  | openBrace => ['\x7b']
  | closeBrace => ['\x7d']
  | semicolon => [';']
  | colon => [':']
  | question => ['?']
  | comma => [',']
  | assign => ['=']

/-- Tokens that are written out one behind another, with gaps or without. Any text can be written as
a word, so that a text may be written in several ways; `lex` finds the one with the words of the
language. -/
inductive Written : List Token → List Char → Prop
  | nil : Written [] []
  | gap {c tokens rest} (gap : isGap c = true) (later : Written tokens rest) :
    Written tokens (c :: rest)
  | token (token : Token) {tokens rest} (later : Written tokens rest) :
    Written (token :: tokens) (token.chars ++ rest)

end Brickwork.Firmware
