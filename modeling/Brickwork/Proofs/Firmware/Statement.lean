import Brickwork.Proofs.Firmware.Term

/-!
# Statements of firmware

How tokens form statements. They are first cut into clauses, each of which ends with a semicolon, a
colon or a brace; then clauses are nested by their braces.
-/

namespace Brickwork.Firmware

/-- A statement. A `switch` has its labels among the statements of its body. -/
inductive Statement where
  | skip
  | seq (first rest : Statement)
  | set (target : String) (value : Term)
  | run (term : Term)
  | leave
  | label (name : String)
  | branch (test : Term) (yes no : Statement)
  | switch (subject : Term) (body : Statement)
deriving DecidableEq

namespace Statement

/-- Statements one after the other. -/
def block (statements : List Statement) : Statement :=
  statements.foldr seq skip

/-- Tests of which the first that holds has its statement run. -/
def chain (branches : List (Term × Statement)) : Statement :=
  branches.foldr (fun branch rest => .branch branch.1 branch.2 rest) skip

end Statement

/-! ## Clauses -/

/-- A part of the text that ends with a semicolon, a colon or a brace. -/
inductive Clause where
  /-- A statement without parts, or a label. -/
  | simple (statement : Statement)
  /-- The head of a `switch`, with its opening brace. -/
  | switch (subject : Term)
  /-- The head of an `if`, with its opening brace. -/
  | test (test : Term)
  /-- The head of an `else if`, between two braces. -/
  | otherwise (test : Term)
  /-- A closing brace. -/
  | close

/-- An expression in parentheses before an opening brace. -/
def head? : List Token → Option (Term × List Token)
  | .openParen :: tokens =>
    match term? tokens with
    | some (term, .closeParen :: .openBrace :: rest) => some (term, rest)
    | _ => none
  | _ => none

/-- An expression before a semicolon. -/
def ended? (tokens : List Token) : Option (Term × List Token) :=
  match term? tokens with
  | some (term, .semicolon :: rest) => some (term, rest)
  | _ => none

/-- The clause at the front of a list of tokens, and the tokens behind it. -/
def clause? (tokens : List Token) : Option (Clause × List Token) :=
  match tokens with
  | .closeBrace :: .word "else" :: .word "if" :: tokens =>
    (head? tokens).map fun (test, rest) => (.otherwise test, rest)
  | .closeBrace :: tokens => some (.close, tokens)
  | .word target :: .assign :: tokens =>
    (ended? tokens).map fun (value, rest) => (.simple (.set target value), rest)
  | .word word :: tokens' =>
    if word = "switch" then (head? tokens').map fun (subject, rest) => (.switch subject, rest)
    else if word = "if" then (head? tokens').map fun (test, rest) => (.test test, rest)
    else if word = "case" then
      match tokens' with
      | .word name :: .colon :: rest => some (.simple (.label name), rest)
      | _ => none
    else if word = "break" then
      match tokens' with
      | .semicolon :: rest => some (.simple .leave, rest)
      | _ => none
    else (ended? tokens).map fun (term, rest) => (.simple (.run term), rest)
  | _ => none

/-! ## Nesting -/

/-- A brace that is still open. -/
inductive Opening where
  | switch (subject : Term)
  /-- The branches before the one that is open, and the test of that one. -/
  | chain (earlier : List (Term × Statement)) (test : Term)

/-- Nests clauses, given the open braces, each with the statements before it, and the statements
behind the innermost of them. -/
def nest (outer : List (List Statement × Opening)) (done : List Statement) :
    List Clause → Option Statement
  | [] =>
    match outer with
    | [] => some (.block done)
    | _ => none
  | .simple statement :: clauses => nest outer (done ++ [statement]) clauses
  | .switch subject :: clauses => nest ((done, .switch subject) :: outer) [] clauses
  | .test test :: clauses => nest ((done, .chain [] test) :: outer) [] clauses
  | .otherwise next :: clauses =>
    match outer with
    | (before, .chain earlier test) :: outer =>
      nest ((before, .chain (earlier ++ [(test, .block done)]) next) :: outer) [] clauses
    | _ => none
  | .close :: clauses =>
    match outer with
    | (before, .switch subject) :: outer =>
      nest outer (before ++ [.switch subject (.block done)]) clauses
    | (before, .chain earlier test) :: outer =>
      nest outer (before ++ [.chain (earlier ++ [(test, .block done)])]) clauses
    | [] => none

/-- The statements that a text is made of. -/
def read (text : String) : Option Statement :=
  match lex text.toList with
  | none => none
  | some tokens =>
    match pieces clause? tokens with
    | none => none
    | some clauses => nest [] [] clauses

/-- The expression that a text consists of. -/
def readTerm (text : String) : Option Term :=
  match lex text.toList with
  | none => none
  | some tokens =>
    match term? tokens with
    | some (term, []) => some term
    | _ => none

/-! ## Clauses of nested statements -/

/-- Simple statements are put behind those before them. -/
lemma nest_simple {outer done clauses} (statements : List Statement) :
    nest outer done (statements.map .simple ++ clauses) =
      nest outer (done ++ statements) clauses := by
  induction statements generalizing done with
  | nil => rw [List.append_nil]; rfl
  | cons statement statements ih =>
    rw [List.map_cons, List.cons_append, nest, ih, List.append_assoc, List.singleton_append]

/-- The clauses of branches after the first. -/
def laterClauses : List (Term × List Statement) → List Clause
  | [] => [.close]
  | (test, body) :: rest => .otherwise test :: body.map .simple ++ laterClauses rest

/-- The clauses of a chain of tests; without branches there are none. -/
def chainClauses : List (Term × List Statement) → List Clause
  | [] => []
  | (test, body) :: rest => .test test :: body.map .simple ++ laterClauses rest

/-- The statements that a chain of tests is read as: one, or none if there are no branches. -/
def chained (branches : List (Term × List Statement)) : List Statement :=
  if branches.isEmpty then [] else [.chain (branches.map fun branch => (branch.1, .block branch.2))]

/-- Branches after the first are put behind those before them. -/
lemma nest_laterClauses {outer before earlier test body clauses}
    (branches : List (Term × List Statement)) :
    nest ((before, .chain earlier test) :: outer) body (laterClauses branches ++ clauses) =
      nest outer (before ++ [.chain (earlier ++ (test, .block body) ::
        branches.map fun branch => (branch.1, .block branch.2))]) clauses := by
  -- what is open grows by a branch in each step, so the branches before it are kept free
  induction branches generalizing earlier test body with
  | nil => rfl
  | cons branch branches ih =>
    obtain ⟨next, statements⟩ := branch
    rw [laterClauses, List.cons_append, List.cons_append, nest, List.append_assoc, nest_simple, ih]
    simp only [List.nil_append, List.append_assoc, List.singleton_append, List.map_cons]

/-- A chain of tests becomes one statement. -/
lemma nest_chainClauses {outer done clauses} (branches : List (Term × List Statement)) :
    nest outer done (chainClauses branches ++ clauses) =
      nest outer (done ++ chained branches) clauses := by
  cases branches with
  | nil =>
    show _ = nest outer (done ++ []) clauses
    rw [List.append_nil]
    rfl
  | cons branch branches =>
    obtain ⟨test, body⟩ := branch
    rw [chainClauses, List.cons_append, List.cons_append, nest, List.append_assoc, nest_simple,
      nest_laterClauses]
    rfl

end Brickwork.Firmware
