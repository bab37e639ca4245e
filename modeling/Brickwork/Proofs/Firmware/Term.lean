import Brickwork.Proofs.Firmware.Token

/-!
# Expressions of firmware

How tokens form an expression, by the precedence of operators: multiplication and division bind
tightest, then subtraction, order comparisons, equality, `&&`, `||`, the choice between two values,
and last the comma. What is still open to the left of the current place is kept on a stack of
frames; a token that binds no tighter than an open frame closes it.
-/

namespace Brickwork.Firmware

open Code

/-- An expression. Parentheses have done their work and leave no trace; the arguments of a call are
one expression, or several joined by commas. -/
inductive Term where
  | word (spelling : String)
  | text (content : String)
  | letter (c : Char)
  | call (function : String)
  | apply (function : String) (argument : Term)
  | negate (term : Term)
  | binary (operator : Operator) (left right : Term)
  | choice (test yes no : Term)
  | both (first rest : Term)
deriving DecidableEq

/-- How tightly an operator binds. -/
def level : Operator → Nat
  | .connective .or => 3
  | .connective .and => 4
  | .comparison .equal | .comparison .notEqual => 5
  | .comparison _ => 6
  | .minus => 7
  | .times | .divide => 8

/-- Something to the left of the current place that waits for a term. -/
inductive Frame where
  /-- An opening parenthesis. -/
  | group
  /-- A call that waits for its arguments. -/
  | call (function : String)
  /-- A minus sign in front. -/
  | negate
  /-- An operator with its left side. -/
  | left (operator : Operator) (term : Term)
  /-- The test of a choice, which waits for the value if it holds. -/
  | test (term : Term)
  /-- The test of a choice and the value if it holds, which wait for the other value. -/
  | yes (test yes : Term)
  /-- What stands before a comma. -/
  | first (term : Term)

/-- Closes the frames, from the innermost, that bind a term no less tightly than a token of the
given level would that follows the term. Operators group from the left, choices and commas from the
right. -/
def settle (limit : Nat) : Term → List Frame → Term × List Frame
  | term, .negate :: frames => settle limit (.negate term) frames
  | term, .left operator left :: frames =>
    if limit ≤ level operator then settle limit (.binary operator left term) frames
    else (term, .left operator left :: frames)
  | term, .yes test yes :: frames =>
    if limit ≤ 1 then settle limit (.choice test yes term) frames
    else (term, .yes test yes :: frames)
  | term, .first first :: frames =>
    if limit = 0 then settle limit (.both first term) frames else (term, .first first :: frames)
  | term, frames => (term, frames)

mutual

/-- Reads on where an operand has to follow. -/
def operand (frames : List Frame) : List Token → Option (Term × List Token)
  | .word spelling :: tokens => following (.word spelling) frames tokens
  | .text content :: tokens => following (.text content) frames tokens
  | .letter c :: tokens => following (.letter c) frames tokens
  | .openParen :: tokens => operand (.group :: frames) tokens
  | .operator .minus :: tokens => operand (.negate :: frames) tokens
  | .closeParen :: tokens =>
    match frames with
    | .call function :: frames => following (.call function) frames tokens
    | _ => none
  | _ => none

/-- Reads on behind an operand. An expression ends before a token that cannot belong to it. -/
def following (term : Term) (frames : List Frame) : List Token → Option (Term × List Token)
  | .operator operator :: tokens =>
    match settle (level operator) term frames with
    | (term, frames) => operand (.left operator term :: frames) tokens
  | .openParen :: tokens =>
    match term with
    | .word function => operand (.call function :: frames) tokens
    | _ => none
  | .question :: tokens =>
    match settle 2 term frames with
    | (term, frames) => operand (.test term :: frames) tokens
  | .comma :: tokens =>
    match settle 1 term frames with
    | (term, frames) => operand (.first term :: frames) tokens
  | .colon :: tokens =>
    match settle 0 term frames with
    | (term, .test test :: frames) => operand (.yes test term :: frames) tokens
    | (term, []) => some (term, .colon :: tokens)
    | _ => none
  | .closeParen :: tokens =>
    match settle 0 term frames with
    | (term, .group :: frames) => following term frames tokens
    | (term, .call function :: frames) => following (.apply function term) frames tokens
    | (term, []) => some (term, .closeParen :: tokens)
    | _ => none
  | tokens =>
    match settle 0 term frames with
    | (term, []) => some (term, tokens)
    | _ => none

end

/-- The expression at the front of a list of tokens, and the tokens behind it. -/
def term? (tokens : List Token) : Option (Term × List Token) :=
  operand [] tokens

/-! ## Frames and the tokens behind them -/

/-- Frames none of which a token of the given level or above closes. -/
def Holds (limit : Nat) (frames : List Frame) : Prop :=
  ∀ l, limit ≤ l → ∀ term, settle l term frames = (term, frames)

namespace Holds

variable {frames : List Frame}

lemma nil {limit} : Holds limit [] :=
  fun _ _ _ => rfl

lemma group {limit} : Holds limit (.group :: frames) :=
  fun _ _ _ => rfl

lemma call {limit function} : Holds limit (.call function :: frames) :=
  fun _ _ _ => rfl

/-- The test of a choice waits for its colon. -/
lemma test {limit term} : Holds limit (.test term :: frames) :=
  fun _ _ _ => rfl

/-- The last value of a choice goes on up to the next comma. -/
lemma yes {test yes} : Holds 2 (.yes test yes :: frames) := by
  intro l above term
  rw [settle, if_neg (Nat.not_le.mpr above)]

/-- What stands before a comma waits for the end of the expression. -/
lemma first {first} : Holds 1 (.first first :: frames) := by
  intro l above term
  rw [settle, if_neg (Nat.ne_of_gt above)]

/-- An operator holds against what binds tighter. -/
lemma left {operator term} : Holds (level operator + 1) (.left operator term :: frames) := by
  intro l above term
  rw [settle, if_neg (Nat.not_le.mpr above)]

end Holds

/-- How tightly a token holds on to the term before it. -/
def strength : Token → Nat
  | .operator operator => level operator
  | .question => 2
  | .comma => 1
  | _ => 0

/-- Tokens of which the first lets go of a term at the given level or below. -/
def Yields (limit : Nat) (tokens : List Token) : Prop :=
  ∀ token ∈ tokens.head?, token ≠ .openParen ∧ strength token ≤ limit

namespace Yields

variable {tokens : List Token}

/-- Tokens that yield at a level do so at every higher one. -/
lemma mono {low high} (le : low ≤ high) (yields : Yields low tokens) : Yields high tokens := by
  intro token mem
  obtain ⟨other, below⟩ := yields token mem
  exact ⟨other, le_trans below le⟩

/-- A token other than a parenthesis that opens yields at its own level. -/
lemma head (token : Token) {limit} (other : token ≠ .openParen) (weak : strength token ≤ limit) :
    Yields limit (token :: tokens) := by
  rintro _ ⟨⟩
  exact ⟨other, weak⟩

end Yields

/-- What follows a term does not depend on how far its frames are closed, as long as the next token
would close them as far. -/
lemma following_congr {limit term term' frames frames' tokens} (yields : Yields limit tokens)
    (same : ∀ l ≤ limit, settle l term frames = settle l term' frames') :
    following term frames tokens = following term' frames' tokens := by
  have same0 := same 0 (Nat.zero_le limit)
  cases tokens with
  | nil => rw [following, following, same0] <;> nofun
  | cons token tokens =>
    obtain ⟨other, below⟩ := yields token rfl
    -- each token closes frames down to its own strength, and all of these are covered
    cases token with
    | openParen => exact (other rfl).elim
    | operator operator => rw [following, following, same (level operator) below]
    | question => rw [following, following, same 2 below]
    | comma => rw [following, following, same 1 below]
    | colon => rw [following, following, same0]
    | closeParen => rw [following, following, same0]
    | _ => rw [following, following, same0] <;> nofun

/-- A minus sign belongs to the operand behind it. -/
lemma following_negate {limit term frames tokens} (yields : Yields limit tokens) :
    following term (.negate :: frames) tokens = following (.negate term) frames tokens :=
  following_congr yields fun _ _ => rfl

/-- The right side of an operator ends where a token does not bind tighter. -/
lemma following_left {limit term operator left frames tokens} (yields : Yields limit tokens)
    (le : limit ≤ level operator) :
    following term (.left operator left :: frames) tokens =
      following (.binary operator left term) frames tokens := by
  apply following_congr yields
  intro l below
  rw [settle, if_pos (le_trans below le)]

/-- A choice ends before a comma or with the whole expression. -/
lemma following_yes {term test yes frames tokens} (yields : Yields 1 tokens) :
    following term (.yes test yes :: frames) tokens =
      following (.choice test yes term) frames tokens := by
  apply following_congr yields
  intro l below
  rw [settle, if_pos below]

/-- What commas join ends with the whole expression. -/
lemma following_first {term first frames tokens} (yields : Yields 0 tokens) :
    following term (.first first :: frames) tokens =
      following (.both first term) frames tokens := by
  apply following_congr yields
  intro l below
  rw [settle, if_pos (Nat.le_zero.mp below)]

end Brickwork.Firmware
