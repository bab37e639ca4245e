import Brickwork.Code.Statement
import Brickwork.Proofs.Firmware.Expression
import Mathlib.Data.List.Forall2

/-!
# Lines are read back

The lines of a `switch` are read as the statements that they were made from. Every line is one
clause, whatever lines follow it, except that a closing brace must not be followed by `else`.
-/

namespace Brickwork.Firmware

open Code
open Code.Expr (lex_render apart_cons)

/-- The text of a line, with the end of the line behind it, has the given tokens, and they form one
clause. -/
structure Reads (text : String) (tokens : List Token) (clause : Clause) : Prop where
  starts : ∃ token, tokens.head? = some token ∧ token ≠ .word "else"
  lexed : ∀ {rest ts}, lex rest = some ts → lex (text.toList ++ '\n' :: rest) = some (tokens ++ ts)
  parsed : ∀ {later}, later.head? ≠ some (.word "else") →
    clause? (tokens ++ later) = some (clause, later)

/-- A line that is read as a clause. -/
def IsClause (line : Line) (clause : Clause) : Prop :=
  ∃ tokens, Reads line.text tokens clause

lemma lex_tabs (n : Nat) {rest : List Char} {tokens : List Token} (later : lex rest = some tokens) :
    lex (List.replicate n '\t' ++ rest) = some tokens := by
  induction n with
  | zero => exact later
  | succ n ih => exact lex_gap rfl ih

/-- Lines are read as their clauses. -/
lemma clauses_of_lines {lines clauses} (reads : List.Forall₂ IsClause lines clauses) :
    ∃ tokens, lex (String.join (lines.map Line.render)).toList = some tokens ∧
      pieces clause? tokens = some clauses ∧ tokens.head? ≠ some (.word "else") := by
  -- the lines behind a brace are read before it: their first token says whether it closes a chain
  induction reads with
  | nil => exact ⟨[], lex_nil, by rw [pieces], nofun⟩
  | @cons line clause lines clauses first _ ih =>
    obtain ⟨tokens, reads⟩ := first
    obtain ⟨later, lexed, parsed, notElse⟩ := ih
    obtain ⟨token, head, other⟩ := reads.starts
    refine ⟨tokens ++ later, ?_, ?_, ?_⟩
    · have text : (String.join ((line :: lines).map Line.render)).toList =
          List.replicate line.depth '\t' ++
            (line.text.toList ++ '\n' :: (String.join (lines.map Line.render)).toList) := by
        rw [List.map_cons, String.join_cons, String.toList_append, Line.render,
          String.toList_append,
          String.toList_append, String.toList_ofList, List.append_assoc, List.append_assoc]
        rfl
      rw [text]
      exact lex_tabs line.depth (reads.lexed lexed)
    · have nonempty : tokens ≠ [] := by
        rintro rfl
        cases head
      exact pieces_append nonempty (reads.parsed notElse) parsed
    · rw [List.head?_append, head]
      rintro ⟨⟩
      exact other rfl

/-! ## Single lines -/

/-- An expression before a semicolon is read up to it. -/
lemma ended?_tokens {e : Expr} (readable : e.Readable) (later : List Token) :
    ended? (e.tokens ++ .semicolon :: later) = some (e.term, later) := by
  rw [ended?, readable.term? (.head .semicolon nofun (le_refl 0))]
  rfl

/-- An expression in the parentheses of a head is read up to them. -/
lemma head?_tokens {e : Expr} (readable : e.Readable) (later : List Token) :
    head? (.openParen :: (e.tokens ++ .closeParen :: .openBrace :: later)) =
      some (e.term, later) := by
  rw [head?, readable.term? (.head .closeParen nofun (le_refl 0))]
  rfl

lemma lex_ended {e : Expr} (readable : e.Readable) {rest ts} (later : lex rest = some ts) :
    lex (e.render.toList ++ ';' :: '\n' :: rest) = some (e.tokens ++ .semicolon :: ts) :=
  lex_render readable.spelled (apart_cons rfl) (lex_sign rfl rfl (lex_gap rfl later))

/-- The text of an expression in the parentheses of a head, up to the end of the line. -/
lemma lex_head {e : Expr} (readable : e.Readable) {rest ts} (later : lex rest = some ts) :
    lex ('(' :: (e.render.toList ++ ')' :: ' ' :: '\x7b' :: '\n' :: rest)) =
      some (.openParen :: (e.tokens ++ .closeParen :: .openBrace :: ts)) := by
  have brace := lex_sign (c := '\x7b') rfl rfl (lex_gap (c := '\n') rfl later)
  have paren := lex_sign (c := ')') rfl rfl (lex_gap (c := ' ') rfl brace)
  exact lex_sign rfl rfl (lex_render readable.spelled (apart_cons rfl) paren)

/-- The words that statements start with. -/
def keywords : List String :=
  ["switch", "if", "else", "case", "break"]

/-- Whether an expression is a call of a function whose name is not a keyword. -/
def Invokes : Expr → Prop
  | .call function | .apply function _ => function ∉ keywords
  | _ => False

/-- A call starts with the name of its function and a parenthesis. -/
lemma Invokes.tokens {call : Expr} (invokes : Invokes call) :
    ∃ function more, call.tokens = .word function :: .openParen :: more ∧ function ∉ keywords := by
  cases call with
  | call function => exact ⟨function, _, rfl, invokes⟩
  | apply function argument => exact ⟨function, _, rfl, invokes⟩
  | _ => cases invokes

/-- A word that is no keyword starts a call. -/
lemma clause?_call {function : String} (free : function ∉ keywords) (more : List Token) :
    clause? (.word function :: .openParen :: more) =
      (ended? (.word function :: .openParen :: more)).map
        fun (term, rest) => (.simple (.run term), rest) := by
  simp only [keywords, List.mem_cons, List.not_mem_nil, or_false, not_or] at free
  obtain ⟨switch, test, _, label, leave⟩ := free
  rw [clause?, if_neg switch, if_neg test, if_neg label, if_neg leave]
  all_goals nofun

namespace Reads

lemma set {target : String} {value : Expr} (word : IsWord target) (other : target ≠ "else")
    (readable : value.Readable) :
    Reads (Step.set target value).render (.word target :: .assign :: (value.tokens ++ [.semicolon]))
      (.simple (.set target value.term)) where
  starts := ⟨.word target, rfl, fun eq => other (Token.word.inj eq)⟩
  lexed {rest ts} later := by
    simp only [Step.render, String.toList_append, List.append_assoc, List.cons_append]
    show lex (target.toList ++ ' ' :: '=' :: ' ' :: (value.render.toList ++ ';' :: '\n' :: rest)) =
        _
    have assign := lex_sign (c := '=') rfl rfl (lex_gap (c := ' ') rfl (lex_ended readable later))
    exact lex_word word (apart_cons rfl) (lex_gap rfl assign)
  parsed {later} _ := by
    simp only [List.cons_append, List.append_assoc]
    rw [clause?, ended?_tokens readable]
    rfl

lemma run {call : Expr} (readable : call.Readable) (invokes : Invokes call) :
    Reads (Step.run call).render (call.tokens ++ [.semicolon]) (.simple (.run call.term)) := by
  obtain ⟨function, more, eq, free⟩ := invokes.tokens
  have lexed {rest ts} (later : lex rest = some ts) :
      lex ((Step.run call).render.toList ++ '\n' :: rest) =
        some (call.tokens ++ [.semicolon] ++ ts) := by
    simp only [Step.render, String.toList_append, List.append_assoc]
    exact lex_ended readable later
  refine ⟨⟨.word function, by rw [eq]; rfl, ?_⟩, lexed, ?_⟩
  · rintro ⟨⟩
    exact free (by decide)
  · intro later _
    -- the parenthesis behind the name tells the call from an assignment
    have ended := ended?_tokens readable later
    rw [List.append_assoc, List.singleton_append]
    rw [eq, List.cons_append, List.cons_append] at ended ⊢
    rw [clause?_call free, ended]
    rfl

lemma leave : Reads Step.leave.render [.word "break", .semicolon] (.simple .leave) where
  starts := ⟨.word "break", rfl, by decide⟩
  lexed {rest ts} later := by
    have word : IsWord "break" := by decide
    show lex ("break".toList ++ ';' :: '\n' :: rest) = _
    exact lex_word word (apart_cons rfl) (lex_sign rfl rfl (lex_gap rfl later))
  parsed _ := rfl

lemma label {name : String} (word : IsWord name) :
    Reads ("case " ++ name ++ ":") [.word "case", .word name, .colon] (.simple (.label name)) where
  starts := ⟨.word "case", rfl, by decide⟩
  lexed {rest ts} later := by
    rw [String.toList_append, String.toList_append, List.append_assoc, List.append_assoc]
    show lex ("case".toList ++ ' ' :: (name.toList ++ ':' :: '\n' :: rest)) = _
    have keyword : IsWord "case" := by decide
    have colon := lex_sign (c := ':') rfl rfl (lex_gap (c := '\n') rfl later)
    exact lex_word keyword (apart_cons rfl) (lex_gap rfl (lex_word word (apart_cons rfl) colon))
  parsed _ := rfl

lemma switch {subject : String} (word : IsWord subject) :
    Reads ("switch (" ++ subject ++ ") \x7b")
      [.word "switch", .openParen, .word subject, .closeParen, .openBrace]
      (.switch (.word subject)) where
  starts := ⟨.word "switch", rfl, by decide⟩
  lexed {rest ts} later := by
    rw [String.toList_append, String.toList_append, List.append_assoc, List.append_assoc]
    have keyword : IsWord "switch" := by decide
    have readable : (Expr.name subject).Readable := ⟨word, trivial⟩
    have head := lex_gap (c := ' ') rfl (lex_head readable later)
    exact lex_word keyword (apart_cons rfl) head
  parsed _ := rfl

lemma test {test : Expr} (readable : test.Readable) :
    Reads ("if (" ++ test.render ++ ") \x7b")
      (.word "if" :: .openParen :: (test.tokens ++ [.closeParen, .openBrace]))
        (.test test.term) where
  starts := ⟨.word "if", rfl, by decide⟩
  lexed {rest ts} later := by
    simp only [String.toList_append, List.append_assoc, List.cons_append]
    have keyword : IsWord "if" := by decide
    have head := lex_gap (c := ' ') rfl (lex_head readable later)
    exact lex_word keyword (apart_cons rfl) head
  parsed {later} _ := by
    simp only [List.cons_append, List.append_assoc]
    show (head? (.openParen :: (test.tokens ++ .closeParen :: .openBrace :: later))).map _ = _
    rw [head?_tokens readable]
    rfl

lemma otherwise {test : Expr} (readable : test.Readable) :
    Reads ("\x7d else if (" ++ test.render ++ ") \x7b")
      (.closeBrace :: .word "else" :: .word "if" :: .openParen ::
        (test.tokens ++ [.closeParen, .openBrace])) (.otherwise test.term) where
  starts := ⟨.closeBrace, rfl, by decide⟩
  lexed {rest ts} later := by
    simp only [String.toList_append, List.append_assoc, List.cons_append]
    have keyword : IsWord "if" := by decide
    have keyword' : IsWord "else" := by decide
    have head := lex_gap (c := ' ') rfl (lex_head readable later)
    have test := lex_gap (c := ' ') rfl (lex_word keyword (apart_cons rfl) head)
    have otherwise := lex_gap (c := ' ') rfl (lex_word keyword' (apart_cons rfl) test)
    exact lex_sign rfl rfl otherwise
  parsed {later} _ := by
    simp only [List.cons_append, List.append_assoc]
    rw [clause?]
    show (head? (.openParen :: (test.tokens ++ .closeParen :: .openBrace :: later))).map _ = _
    rw [head?_tokens readable]
    rfl

lemma close : Reads "\x7d" [.closeBrace] .close where
  starts := ⟨.closeBrace, rfl, by decide⟩
  lexed later := lex_sign rfl rfl (lex_gap rfl later)
  parsed {later} other := by
    rw [List.singleton_append, clause?]
    rintro rest rfl
    exact other rfl

end Reads

/-! ## Steps, chains and cases -/

/-- Whether a step is one that can stand in a case, and is read back. -/
def ReadableStep : Step → Prop
  | .set target value => IsWord target ∧ target ≠ "else" ∧ value.Readable
  | .run call => call.Readable ∧ Invokes call
  | .leave => True
  | _ => False

/-- The statement that a step in a case is read as. -/
def stepStatement : Step → Statement
  | .set target value => .set target value.term
  | .run call => .run call.term
  | .leave => .leave
  | _ => .skip

lemma isClause_step {step : Step} (readable : ReadableStep step) (depth : Nat) :
    IsClause ⟨depth, step.render⟩ (.simple (stepStatement step)) := by
  cases step with
  | set target value =>
    obtain ⟨word, other, readable⟩ := readable
    exact ⟨_, .set word other readable⟩
  | run call => exact ⟨_, .run readable.1 readable.2⟩
  | leave => exact ⟨_, .leave⟩
  | _ => cases readable

lemma clauses_steps {steps : List Step} (readable : ∀ step ∈ steps, ReadableStep step)
    (depth : Nat) :
    List.Forall₂ IsClause (steps.flatMap (Step.lines depth))
      ((steps.map stepStatement).map .simple) := by
  induction steps with
  | nil => exact .nil
  | cons step steps ih =>
    have first := isClause_step (readable step List.mem_cons_self) depth
    exact .cons first (ih fun other mem => readable other (List.mem_cons_of_mem step mem))

/-- Steps in a row are read as their statements in a row. -/
lemma read_steps {steps : List Step} (readable : ∀ step ∈ steps, ReadableStep step) (depth : Nat) :
    read (String.join ((steps.flatMap (Step.lines depth)).map Line.render)) =
      some (.block (steps.map stepStatement)) := by
  obtain ⟨tokens, lexed, parsed, _⟩ := clauses_of_lines (clauses_steps readable depth)
  have nested : nest [] [] ((steps.map stepStatement).map .simple ++ []) =
      some (.block ([] ++ steps.map stepStatement)) := nest_simple _
  rw [List.append_nil, List.nil_append] at nested
  rw [read, lexed]
  simp only [parsed]
  exact nested

/-- Whether the test and the steps of a branch are read back. -/
def ReadableBranch (branch : Expr × List Step) : Prop :=
  branch.1.Readable ∧ ∀ step ∈ branch.2, ReadableStep step

/-- What a branch is read as. -/
def branchStatements (branch : Expr × List Step) : Term × List Statement :=
  (branch.1.term, branch.2.map stepStatement)

lemma clauses_laterLines {branches : List (Expr × List Step)}
    (readable : ∀ branch ∈ branches, ReadableBranch branch) (depth : Nat) :
    List.Forall₂ IsClause (Nest.laterLines Step.lines depth branches)
      (laterClauses (branches.map branchStatements)) := by
  induction branches with
  | nil => exact .cons ⟨_, .close⟩ .nil
  | cons branch branches ih =>
    obtain ⟨test, body⟩ := branch
    obtain ⟨tested, steps⟩ := readable _ List.mem_cons_self
    have later := ih fun other mem => readable other (List.mem_cons_of_mem _ mem)
    exact .cons ⟨_, .otherwise tested⟩ (List.rel_append (clauses_steps steps (depth + 1)) later)

/-- Whether a statement of a case is read back. -/
def ReadableNest : Nest Step → Prop
  | .one step => ReadableStep step
  | .chain branches => ∀ branch ∈ branches, ReadableBranch branch

/-- The statements that a statement of a case is read as: one, or none for a chain without
branches. -/
def nestStatements : Nest Step → List Statement
  | .one step => [stepStatement step]
  | .chain branches => chained (branches.map branchStatements)

/-- The clauses of a statement of a case. -/
def nestClauses : Nest Step → List Clause
  | .one step => [.simple (stepStatement step)]
  | .chain branches => chainClauses (branches.map branchStatements)

/-- The lines of a statement of a case are read as its clauses. -/
lemma clauses_nest {statement : Nest Step} (readable : ReadableNest statement) (depth : Nat) :
    List.Forall₂ IsClause (statement.lines Step.lines depth) (nestClauses statement) := by
  cases statement with
  | one step => exact .cons (isClause_step readable depth) .nil
  | chain branches =>
    cases branches with
    | nil => exact .nil
    | cons branch branches =>
      obtain ⟨test, body⟩ := branch
      obtain ⟨tested, steps⟩ := readable _ List.mem_cons_self
      have later := clauses_laterLines
        (fun other mem => readable other (List.mem_cons_of_mem _ mem)) depth
      exact .cons ⟨_, .test tested⟩ (List.rel_append (clauses_steps steps (depth + 1)) later)

/-- The clauses of a statement of a case are nested into its statements. -/
lemma nest_nestClauses {outer done clauses} (statement : Nest Step) :
    nest outer done (nestClauses statement ++ clauses) =
      nest outer (done ++ nestStatements statement) clauses := by
  cases statement with
  | one step => rfl
  | chain branches => exact nest_chainClauses (branches.map branchStatements)

/-! ## The whole `switch` -/

section Parts

variable {α : Type} {lines : α → List Line} {clauses : α → List Clause}
  {statements : α → List Statement}

lemma clauses_flatMap {parts : List α}
    (each : ∀ part ∈ parts, List.Forall₂ IsClause (lines part) (clauses part)) :
    List.Forall₂ IsClause (parts.flatMap lines) (parts.flatMap clauses) := by
  induction parts with
  | nil => exact .nil
  | cons part parts ih =>
    have first := each part List.mem_cons_self
    exact List.rel_append first (ih fun other mem => each other (List.mem_cons_of_mem part mem))

lemma nest_flatMap
    (each : ∀ part outer done later, nest outer done (clauses part ++ later) =
      nest outer (done ++ statements part) later) (parts : List α) {outer done later} :
    nest outer done (parts.flatMap clauses ++ later) =
      nest outer (done ++ parts.flatMap statements) later := by
  induction parts generalizing done with
  | nil => rw [List.flatMap_nil, List.flatMap_nil, List.append_nil]; rfl
  | cons part parts ih =>
    rw [List.flatMap_cons, List.flatMap_cons, List.append_assoc, each, ih, List.append_assoc]

end Parts

/-- Whether a case is read back. -/
def ReadableCase (case : String × List (Nest Step)) : Prop :=
  IsWord case.1 ∧ ∀ statement ∈ case.2, ReadableNest statement

/-- The statements that a case is read as: its label and those behind it. -/
def caseStatements (case : String × List (Nest Step)) : List Statement :=
  .label case.1 :: case.2.flatMap nestStatements

/-- The clauses of a case. -/
def caseClauses (case : String × List (Nest Step)) : List Clause :=
  .simple (.label case.1) :: case.2.flatMap nestClauses

lemma clauses_case {case : String × List (Nest Step)} (readable : ReadableCase case) (depth : Nat) :
    List.Forall₂ IsClause (Dispatch.caseLines depth case.1 case.2) (caseClauses case) := by
  obtain ⟨word, body⟩ := readable
  refine .cons ⟨_, .label word⟩ (clauses_flatMap ?_)
  intro statement mem
  exact clauses_nest (body statement mem) (depth + 1)

lemma nest_caseClauses {outer done later} (case : String × List (Nest Step)) :
    nest outer done (caseClauses case ++ later) =
      nest outer (done ++ caseStatements case) later := by
  rw [caseClauses, List.cons_append, nest,
    nest_flatMap fun statement _ _ _ => nest_nestClauses statement]
  rw [caseStatements, List.append_assoc, List.singleton_append]

/-- Whether a statement or a `switch` is read back. -/
def ReadableDispatch : Dispatch → Prop
  | .plain statement => ReadableNest statement
  | .switch subject cases => IsWord subject ∧ ∀ case ∈ cases, ReadableCase case

/-- The statements that a statement or a `switch` is read as. -/
def dispatchStatements : Dispatch → List Statement
  | .plain statement => nestStatements statement
  | .switch subject cases => [.switch (.word subject) (.block (cases.flatMap caseStatements))]

/-- The clauses of a statement or a `switch`. -/
def dispatchClauses : Dispatch → List Clause
  | .plain statement => nestClauses statement
  | .switch subject cases => .switch (.word subject) :: cases.flatMap caseClauses ++ [.close]

lemma clauses_dispatch {dispatch : Dispatch} (readable : ReadableDispatch dispatch) (depth : Nat) :
    List.Forall₂ IsClause (dispatch.lines depth) (dispatchClauses dispatch) := by
  cases dispatch with
  | plain statement => exact clauses_nest readable depth
  | switch subject cases =>
    obtain ⟨word, readable⟩ := readable
    have body := clauses_flatMap fun case mem => clauses_case (readable case mem) (depth + 1)
    exact .cons ⟨_, .switch word⟩ (List.rel_append body (.cons ⟨_, .close⟩ .nil))

lemma nest_dispatchClauses {outer done later} (dispatch : Dispatch) :
    nest outer done (dispatchClauses dispatch ++ later) =
      nest outer (done ++ dispatchStatements dispatch) later := by
  cases dispatch with
  | plain statement => exact nest_nestClauses statement
  | switch subject cases =>
    rw [dispatchClauses, List.cons_append, List.cons_append, nest, List.append_assoc,
      nest_flatMap fun case _ _ _ => nest_caseClauses case]
    rfl

/-- The lines of a `switch` are read as the `switch` with the statements of its cases. -/
lemma read_switch {subject : String} {cases : List (String × List (Nest Step))}
    (word : IsWord subject) (readable : ∀ case ∈ cases, ReadableCase case) (depth : Nat) :
    read (String.join (((Dispatch.switch subject cases).lines depth).map Line.render)) =
      some (.block [.switch (.word subject) (.block (cases.flatMap caseStatements))]) := by
  have reads := @clauses_dispatch (.switch subject cases) ⟨word, readable⟩ depth
  obtain ⟨tokens, lexed, parsed, _⟩ := clauses_of_lines reads
  rw [read, lexed]
  simp only [parsed]
  rw [← List.append_nil (dispatchClauses _), nest_dispatchClauses]
  rfl

/-! ## Guarded statements -/

/-- A test before statements and `switch`es, which are run if it holds. -/
def guardedStatement (branch : Expr × List Dispatch) : Statement :=
  .chain [(branch.1.term, .block (branch.2.flatMap dispatchStatements))]

/-- The clauses of a test and of what is run if it holds. -/
def guardedClauses (branch : Expr × List Dispatch) : List Clause :=
  .test branch.1.term :: branch.2.flatMap dispatchClauses ++ [.close]

lemma clauses_guarded {branch : Expr × List Dispatch} (test : branch.1.Readable)
    (body : ∀ dispatch ∈ branch.2, ReadableDispatch dispatch) (depth : Nat) :
    List.Forall₂ IsClause (Nest.lines Dispatch.lines depth (.chain [branch]))
      (guardedClauses branch) := by
  have inner := clauses_flatMap fun dispatch mem => clauses_dispatch (body dispatch mem) (depth + 1)
  exact .cons ⟨_, .test test⟩ (List.rel_append inner (.cons ⟨_, .close⟩ .nil))

lemma nest_guardedClauses {outer done later} (branch : Expr × List Dispatch) :
    nest outer done (guardedClauses branch ++ later) =
      nest outer (done ++ [guardedStatement branch]) later := by
  rw [guardedClauses, List.cons_append, List.cons_append, nest, List.append_assoc,
    nest_flatMap fun dispatch _ _ _ => nest_dispatchClauses dispatch]
  rfl

/-- The lines of tests in a row, each with what is run if it holds, are read as these. -/
lemma read_guarded {branches : List (Expr × List Dispatch)}
    (readable : ∀ branch ∈ branches,
      branch.1.Readable ∧ ∀ dispatch ∈ branch.2, ReadableDispatch dispatch) (depth : Nat) :
    read (String.join ((Block.lines depth (branches.map fun branch => .chain [branch])).map
      Line.render)) = some (.block (branches.map guardedStatement)) := by
  have reads :
      List.Forall₂ IsClause (Block.lines depth (branches.map fun branch => .chain [branch]))
      (branches.flatMap guardedClauses) := by
    rw [Block.lines, List.flatMap_map]
    exact clauses_flatMap fun branch mem =>
      clauses_guarded (readable branch mem).1 (readable branch mem).2 depth
  obtain ⟨tokens, lexed, parsed, _⟩ := clauses_of_lines reads
  have nested : nest [] [] (branches.flatMap guardedClauses ++ []) =
      nest [] ([] ++ branches.flatMap fun branch => [guardedStatement branch]) [] :=
    nest_flatMap (fun branch _ _ _ => nest_guardedClauses branch) branches
  rw [List.append_nil, ← List.map_eq_flatMap] at nested
  rw [read, lexed]
  simp only [parsed]
  exact nested

end Brickwork.Firmware
