import Brickwork.Proofs.Firmware.Statement

/-!
# Expressions are read back

The text of an expression is read as the expression itself, less its parentheses, provided that its
words are words and that parentheses stand where operators call for them.
-/

namespace Brickwork.Code.Expr

open Firmware

/-- The tokens of a number, which may have a sign. -/
def numberTokens (digits : String) : List Token :=
  match digits.toList with
  | '-' :: rest => [.operator .minus, .word (String.ofList rest)]
  | _ => [.word digits]

/-- The term that a number is read as. -/
def numberTerm (digits : String) : Term :=
  match digits.toList with
  | '-' :: rest => .negate (.word (String.ofList rest))
  | _ => .word digits

/-- The tokens of an expression. -/
def tokens : Expr → List Token
  | name spelling => [.word spelling]
  | number digits => numberTokens digits
  | pin p => [.word p.code]
  | text content => [.text content]
  | letter c => [.letter c]
  | call function => [.word function, .openParen, .closeParen]
  | apply function argument => .word function :: .openParen :: argument.tokens ++ [.closeParen]
  | both first rest => first.tokens ++ .comma :: rest.tokens
  | binary operator left right => left.tokens ++ .operator operator :: right.tokens
  | group inner => .openParen :: inner.tokens ++ [.closeParen]
  | choice test yes no => test.tokens ++ .question :: yes.tokens ++ .colon :: no.tokens

/-- The term that an expression is read as. -/
def term : Expr → Term
  | name spelling => .word spelling
  | number digits => numberTerm digits
  | pin p => .word p.code
  | text content => .text content
  | letter c => .letter c
  | call function => .call function
  | apply function argument => .apply function argument.term
  | both first rest => .both first.term rest.term
  | binary operator left right => .binary operator left.term right.term
  | group inner => inner.term
  | choice test yes no => .choice test.term yes.term no.term

/-- Whether a text is a number with or without a sign. -/
def IsNumber (digits : String) : Prop :=
  IsWord digits ∨ ∃ unsigned, IsWord unsigned ∧ digits = "-" ++ unsigned

/-- Whether the names and numbers in an expression are words. -/
def Spelled : Expr → Prop
  | name spelling => IsWord spelling
  | number digits => IsNumber digits
  | pin p => IsWord p.code
  | text _ => True
  | letter c => c ≠ '\''
  | call function => IsWord function
  | apply function argument => IsWord function ∧ argument.Spelled
  | both first rest => first.Spelled ∧ rest.Spelled
  | binary _ left right => left.Spelled ∧ right.Spelled
  | group inner => inner.Spelled
  | choice test yes no => test.Spelled ∧ yes.Spelled ∧ no.Spelled

/-- A number is one word, or a minus sign and a word. -/
lemma numberTokens_cases {digits : String} (number : IsNumber digits) :
    (IsWord digits ∧ numberTokens digits = [.word digits] ∧ numberTerm digits = .word digits) ∨
    (∃ unsigned, IsWord unsigned ∧ digits = "-" ++ unsigned ∧
      numberTokens digits = [.operator .minus, .word unsigned] ∧
      numberTerm digits = .negate (.word unsigned)) := by
  rcases number with word | ⟨unsigned, word, rfl⟩
  · left
    have first : ∀ rest, digits.toList ≠ '-' :: rest := by
      intro rest eq
      have minus := word.2 '-' (eq ▸ List.mem_cons_self)
      cases minus
    refine ⟨word, ?_, ?_⟩
    · rw [numberTokens]
      split
      case h_1 rest eq => exact (first rest eq).elim
      case h_2 => rfl
    · rw [numberTerm]
      split
      case h_1 rest eq => exact (first rest eq).elim
      case h_2 => rfl
  · right
    have eq : ("-" ++ unsigned).toList = '-' :: unsigned.toList := String.toList_append
    refine ⟨unsigned, word, rfl, ?_, ?_⟩
    · rw [numberTokens, eq]
      simp only [String.ofList_toList]
    · rw [numberTerm, eq]
      simp only [String.ofList_toList]

lemma apart_cons {c : Char} {rest : List Char} (other : isWordChar c = false) :
    Apart (c :: rest) := by
  rintro _ ⟨⟩
  exact other

/-- The text of an expression has its tokens. -/
lemma lex_render {e : Expr} (spelled : e.Spelled) {rest ts} (apart : Apart rest)
    (later : lex rest = some ts) : lex (e.render.toList ++ rest) = some (e.tokens ++ ts) := by
  induction e generalizing rest ts with
  | name spelling => exact lex_word spelled apart later
  | number digits =>
    obtain ⟨word, eq, _⟩ | ⟨unsigned, word, rfl, eq, _⟩ := numberTokens_cases spelled
    · rw [render, tokens, eq]
      exact lex_word word apart later
    · rw [render, tokens, eq, String.toList_append, List.append_assoc]
      exact lex_sign rfl rfl (lex_word word apart later)
  | pin p => exact lex_word spelled apart later
  | text content => exact lex_literal content later
  | letter c =>
    simp only [render, String.toList_append, String.toList_ofList, List.append_assoc]
    exact lex_letter spelled later
  | call function =>
    rw [render, String.toList_append, List.append_assoc]
    show lex (function.toList ++ '(' :: ')' :: rest) = _
    exact lex_word spelled (apart_cons rfl) (lex_sign rfl rfl (lex_sign rfl rfl later))
  | apply function argument ih =>
    obtain ⟨word, spelled⟩ := spelled
    simp only [render, tokens, String.toList_append, List.append_assoc, List.cons_append]
    show lex (function.toList ++ '(' :: (argument.render.toList ++ ')' :: rest)) = _
    have inner := ih spelled (apart_cons rfl) (lex_sign (c := ')') rfl rfl later)
    exact lex_word word (apart_cons rfl) (lex_sign rfl rfl inner)
  | both first others ihf ihr =>
    obtain ⟨spelledf, spelledr⟩ := spelled
    simp only [render, tokens, String.toList_append, List.append_assoc, List.cons_append]
    show lex (first.render.toList ++ ',' :: ' ' :: (others.render.toList ++ rest)) = _
    exact ihf spelledf (apart_cons rfl) (lex_sign rfl rfl (lex_gap rfl (ihr spelledr apart later)))
  | binary operator left right ihl ihr =>
    obtain ⟨spelledl, spelledr⟩ := spelled
    simp only [render, tokens, String.toList_append, List.append_assoc, List.cons_append]
    show lex (left.render.toList ++
      ' ' :: (operator.symbol.toList ++ ' ' :: (right.render.toList ++ rest))) = _
    have behind := lex_operator operator (ihr spelledr apart later)
    exact ihl spelledl (apart_cons rfl) (lex_gap rfl behind)
  | group inner ih =>
    simp only [render, tokens, String.toList_append, List.append_assoc, List.cons_append]
    show lex ('(' :: (inner.render.toList ++ ')' :: rest)) = _
    exact lex_sign rfl rfl (ih spelled (apart_cons rfl) (lex_sign rfl rfl later))
  | choice test yes no iht ihy ihn =>
    obtain ⟨spelledt, spelledy, spelledn⟩ := spelled
    simp only [render, tokens, String.toList_append, List.append_assoc, List.cons_append]
    show lex (test.render.toList ++ ' ' :: '?' :: ' ' :: (yes.render.toList ++
      ' ' :: ':' :: ' ' :: (no.render.toList ++ rest))) = _
    have no := lex_gap (c := ' ') rfl (lex_sign (c := ':') rfl rfl
      (lex_gap (c := ' ') rfl (ihn spelledn apart later)))
    have yes := lex_gap (c := ' ') rfl (lex_sign (c := '?') rfl rfl
      (lex_gap (c := ' ') rfl (ihy spelledy (apart_cons rfl) no)))
    exact iht spelledt (apart_cons rfl) yes

/-- Whether an expression can stand without parentheses behind frames that hold at one level, before
a token that yields at another. -/
def Fits (held yielded : Nat) : Expr → Prop
  | apply _ argument => argument.Fits 0 0
  | group inner => inner.Fits 0 0
  | both first rest => held ≤ 1 ∧ yielded ≤ 0 ∧ first.Fits held 1 ∧ rest.Fits 1 0
  | choice test yes no =>
    held ≤ 2 ∧ yielded ≤ 1 ∧ test.Fits held 2 ∧ yes.Fits 0 0 ∧ no.Fits 2 1
  | binary operator left right =>
    held ≤ level operator ∧ yielded ≤ level operator ∧
      left.Fits held (level operator) ∧ right.Fits (level operator + 1) yielded
  | _ => True

/-- An expression that can stand between tighter frames and tokens can stand between looser ones. -/
lemma Fits.mono {e : Expr} {held held' yielded yielded'} (fits : e.Fits held' yielded')
    (le : held ≤ held') (le' : yielded ≤ yielded') : e.Fits held yielded := by
  induction e generalizing held held' yielded yielded' with
  | both first rest ihf _ =>
    obtain ⟨low, outermost, fitsf, fitsr⟩ := fits
    exact ⟨le_trans le low, le_trans le' outermost, ihf fitsf le (le_refl 1), fitsr⟩
  | binary operator left right ihl ihr =>
    obtain ⟨low, below, fitsl, fitsr⟩ := fits
    exact ⟨le_trans le low, le_trans le' below, ihl fitsl le (le_refl _), ihr fitsr (le_refl _) le'⟩
  | choice test yes no iht _ _ =>
    obtain ⟨low, below, fitst, fitsy, fitsn⟩ := fits
    exact ⟨le_trans le low, le_trans le' below, iht fitst le (le_refl 2), fitsy, fitsn⟩
  | _ => exact fits

/-- The tokens of an expression are read as its term, whatever its names are. -/
lemma operand_tokens {e : Expr} {held yielded frames rest} (fits : e.Fits held yielded)
    (holds : Holds held frames) (yields : Yields yielded rest) :
    operand frames (e.tokens ++ rest) = following e.term frames rest := by
  -- a part is read within a frame of its own, which the token behind the part then closes
  induction e generalizing held yielded frames rest with
  | name spelling => rfl
  | number digits =>
    rw [tokens, term, numberTokens, numberTerm]
    split
    · exact following_negate yields
    · rfl
  | pin p => rfl
  | text content => rfl
  | letter c => rfl
  | call function => rfl
  | apply function argument ih =>
    simp only [tokens, List.append_assoc, List.cons_append]
    show operand (.call function :: frames) (argument.tokens ++ .closeParen :: rest) = _
    rw [ih fits .call (.head .closeParen (by simp) (le_refl 0)), following]
    rfl
  | both first others ihf ihr =>
    obtain ⟨low, outermost, fitsf, fitsr⟩ := fits
    simp only [tokens, List.append_assoc, List.cons_append]
    rw [ihf fitsf holds (.head .comma (by simp) (le_refl 1)), following, holds 1 low]
    show operand (.first first.term :: frames) (others.tokens ++ rest) = _
    have yields := yields.mono outermost
    rw [ihr fitsr .first yields, following_first yields]
    rfl
  | binary operator left right ihl ihr =>
    obtain ⟨low, below, fitsl, fitsr⟩ := fits
    simp only [tokens, List.append_assoc, List.cons_append]
    rw [ihl fitsl holds (.head (.operator operator) (by simp) (le_refl _)), following,
      holds _ low]
    show operand (.left operator left.term :: frames) (right.tokens ++ rest) = _
    rw [ihr fitsr .left yields, following_left yields below]
    rfl
  | group inner ih =>
    simp only [tokens, List.append_assoc, List.cons_append]
    show operand (.group :: frames) (inner.tokens ++ .closeParen :: rest) = _
    rw [ih fits .group (.head .closeParen (by simp) (le_refl 0)), following]
    rfl
  | choice test yes no iht ihy ihn =>
    obtain ⟨low, below, fitst, fitsy, fitsn⟩ := fits
    simp only [tokens, List.append_assoc, List.cons_append]
    rw [iht fitst holds (.head .question (by simp) (le_refl 2)), following, holds 2 low]
    show operand (.test test.term :: frames) (yes.tokens ++ .colon :: (no.tokens ++ rest)) = _
    rw [ihy fitsy .test (.head .colon (by simp) (le_refl 0)), following]
    show operand (.yes test.term yes.term :: frames) (no.tokens ++ rest) = _
    have yields := yields.mono below
    rw [ihn fitsn .yes yields, following_yes yields]
    rfl

/-- The tokens of an expression that stands by itself make up its term. -/
lemma Fits.term? {e : Expr} (fits : e.Fits 0 0) : Firmware.term? e.tokens = some (e.term, []) := by
  have read := operand_tokens fits .nil (show Yields 0 [] from nofun)
  rw [List.append_nil] at read
  rw [Firmware.term?, read]
  rfl

/-- Whether an expression is read back from its text. -/
structure Readable (e : Expr) : Prop where
  spelled : e.Spelled
  fits : e.Fits 0 0

namespace Readable

variable {e : Expr} {rest : List Token}

/-- An expression goes up to the token that ends it. -/
lemma term? (readable : e.Readable) (yields : Yields 0 rest) :
    Firmware.term? (e.tokens ++ rest) = following e.term [] rest :=
  operand_tokens readable.fits .nil yields

/-- The text of an expression is read as its term. -/
lemma readTerm (readable : e.Readable) : Firmware.readTerm e.render = some e.term := by
  have lexed := lex_render readable.spelled (show Apart [] from nofun) lex_nil
  rw [List.append_nil, List.append_nil] at lexed
  simp only [Firmware.readTerm, lexed, readable.fits.term?]

end Readable

end Brickwork.Code.Expr
