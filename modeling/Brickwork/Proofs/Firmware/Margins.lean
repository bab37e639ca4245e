import Brickwork.Proofs.Firmware.Brackets
import Brickwork.Proofs.Footprint
import Brickwork.Proofs.Header

/-!
# Margins of lines

The printer keeps a depth of its own as it goes down into a statement. Here it is compared with the
brackets that a reader finds open (`Firmware.depth`): single lines lead from some brackets to
others, and the lines of a statement lead back to those that were open before it.
-/

namespace Brickwork

open Code Firmware

/-! ## Lines -/

namespace Firmware

/-- A text that a line can start with, but not one that closes a block or is a label: the first word
is not `case`, and ends within the text. -/
def Plain (text : String) : Prop :=
  text.toList.head? ≠ some '\t' ∧ text.toList.head? ≠ some '\x7d' ∧
    text.toList.takeWhile isWordChar ≠ "case".toList ∧
    (text.toList.takeWhile isWordChar).length < text.toList.length

instance (text : String) : Decidable (Plain text) :=
  inferInstanceAs (Decidable (_ ∧ _ ∧ _ ∧ _))

lemma Plain.append {text : String} (plain : Plain text) (more : String) : Plain (text ++ more) := by
  obtain ⟨tab, brace, label, ends⟩ := plain
  have head : (text.toList ++ more.toList).head? = text.toList.head? := by
    apply List.head?_append_of_ne_nil
    rintro empty
    rw [empty] at ends
    cases ends
  have word : (text.toList ++ more.toList).takeWhile isWordChar =
      text.toList.takeWhile isWordChar := by
    rw [List.takeWhile_append, if_neg ends.ne]
  rw [Plain, String.toList_append, head, word, List.length_append]
  exact ⟨tab, brace, label, Nat.lt_add_right _ ends⟩

lemma plain_word {word mark : String} (spelled : IsWord word) (other : word ≠ "case")
    (ends : mark.toList.head?.any (!isWordChar ·) = true) : Plain (word ++ mark) := by
  obtain ⟨nonempty, chars⟩ := spelled
  have nonempty : word.toList ≠ [] := mt String.toList_eq_nil_iff.mp nonempty
  have starts {c : Char} (mark : isWordChar c = false) : word.toList.head? ≠ some c := by
    intro head
    rw [chars c (List.mem_of_head? head)] at mark
    cases mark
  cases split : mark.toList with
  | nil =>
    rw [split] at ends
    cases ends
  | cons c rest =>
    rw [split, List.head?_cons, Option.any_some, Bool.not_eq_true'] at ends
    have first : (word.toList ++ c :: rest).takeWhile isWordChar = word.toList := by
      rw [List.takeWhile_append_of_pos chars, List.takeWhile_cons, ends]
      exact List.append_nil _
    rw [Plain, String.toList_append, split, first, List.head?_append_of_ne_nil _ nonempty,
      List.length_append]
    refine ⟨starts rfl, starts rfl, fun eq => other (String.toList_inj.mp eq), ?_⟩
    exact Nat.lt_add_of_pos_right (Nat.succ_pos _)

end Firmware

/-- The characters of a line, without the line break. -/
def Code.Line.chars (line : Line) : List Char :=
  List.replicate line.depth '\t' ++ line.text.toList

namespace Firmware

/-- A line that can stand where the brackets `before` are open, with the brackets `after` open
behind it. -/
structure Leads (before : List Bracket) (line : Line) (after : List Bracket) : Prop where
  behind : behind? before line.chars = some after
  setIn : SetIn before line.chars
  unbroken : '\n' ∉ line.chars

variable {before after opened : List Bracket} {text : String}

lemma unbroken_of_foldlM {cs : List Char} {reading reading' : Reading}
    (read : cs.foldlM Reading.next reading = some reading') : '\n' ∉ cs := by
  induction cs generalizing reading with
  | nil => exact List.not_mem_nil
  | cons c cs ih =>
    rw [List.foldlM_cons] at read
    obtain ⟨between, first, rest⟩ := Option.bind_eq_some_iff.mp read
    rw [List.mem_cons, not_or]
    refine ⟨?_, ih rest⟩
    rintro rfl
    cases first

/-- What has to be known of a text that stands on a line. -/
lemma leads_of_foldlM (zone : Zone) (outside : ∀ quote escaped, zone ≠ .literal quote escaped)
    (read : text.toList.foldlM Reading.next
      ⟨.code, if isLabel text.toList then relabel true before else before⟩ = some ⟨zone, after⟩)
    (start : text.toList.head? ≠ some '\t') :
    Leads before ⟨margin before text.toList, text⟩ after := by
  have tabs : ∀ c ∈ List.replicate (margin before text.toList) '\t', decide (c = '\t') = true :=
    fun c mem => decide_eq_true (List.eq_of_mem_replicate mem)
  have stops : text.toList.takeWhile (· = '\t') = [] ∧
      text.toList.dropWhile (· = '\t') = text.toList := by
    cases eq : text.toList with
    | nil => exact ⟨rfl, rfl⟩
    | cons c cs =>
      have other : decide (c = '\t') = false :=
        decide_eq_false fun tab => start (by rw [eq, tab]; rfl)
      exact ⟨by rw [List.takeWhile_cons, other]; rfl, by rw [List.dropWhile_cons, other]; rfl⟩
  have take : (Line.chars ⟨margin before text.toList, text⟩).takeWhile (· = '\t') =
      List.replicate (margin before text.toList) '\t' := by
    rw [Line.chars, List.takeWhile_append_of_pos tabs, stops.1, List.append_nil]
  have drop : (Line.chars ⟨margin before text.toList, text⟩).dropWhile (· = '\t') =
      text.toList := by
    rw [Line.chars, List.dropWhile_append_of_pos tabs, stops.2]
  refine ⟨?_, ?_, ?_⟩
  · rw [behind?, drop, read]
    cases zone with
    | literal quote escaped => exact absurd rfl (outside quote escaped)
    | _ => rfl
  · intro _
    rw [take, drop, List.length_replicate]
  · rw [Line.chars, List.mem_append, not_or]
    exact ⟨fun mem => absurd (List.eq_of_mem_replicate mem) (by decide), unbroken_of_foldlM read⟩

lemma leads_blank : Leads opened .blank opened where
  behind := rfl
  setIn := fun nonempty => absurd rfl nonempty
  unbroken := List.not_mem_nil

section Plain

variable (plain : Plain text)

include plain

lemma isLabel_of_plain : isLabel text.toList = false :=
  decide_eq_false plain.2.2.1

lemma margin_of_plain : margin opened text.toList = depth opened := by
  rw [margin, if_neg plain.2.1, isLabel_of_plain plain]
  rfl

lemma leads_plain (turns : Turns text before after) : Leads before ⟨depth before, text⟩ after := by
  rw [← margin_of_plain plain]
  apply leads_of_foldlM .code nofun ?_ plain.1
  rw [isLabel_of_plain plain]
  exact turns

end Plain

/-- All that follows in a comment is part of it. -/
lemma foldlM_comment {cs : List Char} (unbroken : '\n' ∉ cs) :
    cs.foldlM Reading.next ⟨.comment, opened⟩ = some ⟨.comment, opened⟩ := by
  induction cs with
  | nil => rfl
  | cons c cs ih =>
    obtain ⟨other, unbroken⟩ := not_or.mp (mt List.mem_cons.mpr unbroken)
    have passed : Reading.next ⟨.comment, opened⟩ c = some ⟨.comment, opened⟩ :=
      if_neg (Ne.symm other)
    rw [List.foldlM_cons, passed]
    exact ih unbroken

/-- A line on which a comment starts behind the given text. -/
lemma leads_comment (plain : Plain text)
    (starts : text.toList.foldlM Reading.next ⟨.code, before⟩ = some ⟨.comment, after⟩)
    {remark : String} (unbroken : '\n' ∉ remark.toList) :
    Leads before ⟨depth before, text ++ remark⟩ after := by
  have whole := plain.append remark
  rw [← margin_of_plain whole]
  apply leads_of_foldlM .comment nofun ?_ whole.1
  rw [isLabel_of_plain whole, String.toList_append, List.foldlM_append,
    if_neg Bool.false_ne_true, starts]
  exact foldlM_comment unbroken

/-- A line that closes a block is set in as the block is. -/
lemma leads_closing {labelled : Bool} (turns : Turns text opened after) :
    Leads (.brace labelled :: opened) ⟨depth opened, "\x7d" ++ text⟩ after := by
  have chars : ("\x7d" ++ text).toList = '\x7d' :: text.toList := String.toList_append
  have margin : margin (.brace labelled :: opened) ("\x7d" ++ text).toList = depth opened := by
    rw [chars]
    rfl
  rw [← margin]
  apply leads_of_foldlM .code nofun
  · rw [chars]
    exact turns
  · rw [chars]
    nofun

/-- A label stands where the others of its block do, and the block goes on as a labelled one. -/
lemma leads_label {labelled : Bool} {label : String} (word : IsWord label) :
    Leads (.brace labelled :: opened) ⟨depth opened + 1, "case " ++ label ++ ":"⟩
      (.brace true :: opened) := by
  have chars : ("case " ++ label ++ ":").toList =
      'c' :: 'a' :: 's' :: 'e' :: ' ' :: (label ++ ":").toList := by
    rw [String.append_assoc]
    exact String.toList_append
  have isLabel : isLabel ("case " ++ label ++ ":").toList = true := by
    rw [chars]
    rfl
  have margin : margin (.brace labelled :: opened) ("case " ++ label ++ ":").toList =
      depth opened + 1 := by
    rw [margin, isLabel, chars, Nat.add_comm]
    rfl
  rw [← margin]
  apply leads_of_foldlM .code nofun
  · rw [isLabel]
    have keyword : Turns "case " (.brace true :: opened) (.brace true :: opened) := rfl
    exact (keyword.append (turns_word word)).append rfl
  · rw [chars]
    nofun

/-! ## Lines in sequence -/

/-- Lines that can stand one after the other where the brackets `before` are open, with the brackets
`after` open behind them. -/
inductive Passes : List Bracket → List Line → List Bracket → Prop
  | nil {opened : List Bracket} : Passes opened [] opened
  | cons {before between after : List Bracket} {line : Line} {lines : List Line}
    (first : Leads before line between) (later : Passes between lines after) :
    Passes before (line :: lines) after

namespace Passes

variable {lines more : List Line} {between : List Bracket}

lemma single {line : Line} (leads : Leads before line after) : Passes before [line] after :=
  .cons leads .nil

lemma append (first : Passes before lines between) (later : Passes between more after) :
    Passes before (lines ++ more) after := by
  induction first with
  | nil => exact later
  | cons leads _ ih => exact .cons leads (ih later)

lemma flatMap {α : Type} {f : α → List Line} {l : List α}
    (each : ∀ a ∈ l, Passes opened (f a) opened) :
    Passes opened (l.flatMap f) opened := by
  induction l with
  | nil => exact .nil
  | cons a l ih =>
    obtain ⟨first, later⟩ := List.forall_mem_cons.mp each
    exact first.append (ih later)

lemma unbroken (passes : Passes before lines after) : ∀ line ∈ lines, '\n' ∉ line.chars := by
  induction passes with
  | nil => nofun
  | cons first _ ih => exact List.forall_mem_cons.mpr ⟨first.unbroken, ih⟩

lemma foldlM_behind? (passes : Passes before lines after) :
    (lines.map Line.chars).foldlM behind? before = some after := by
  induction passes with
  | nil => rfl
  | cons first _ ih =>
    rw [List.map_cons, List.foldlM_cons, first.behind]
    exact ih

/-- Each of the lines is set in by what is open behind those before it. -/
lemma setIn (passes : Passes before lines after) {front : List (List Char)} {line : List Char}
    {back : List (List Char)} (split : lines.map Line.chars = front ++ line :: back) :
    ∃ opened, front.foldlM behind? before = some opened ∧ SetIn opened line := by
  induction passes generalizing front with
  | nil => cases front <;> cases split
  | @cons before between after first lines leads _ ih =>
    cases front with
    | nil =>
      cases split
      exact ⟨before, rfl, leads.setIn⟩
    | cons other front =>
      obtain ⟨rfl, later⟩ := List.cons.inj split
      rw [List.foldlM_cons, leads.behind]
      exact ih later

end Passes

end Firmware

/-- The lines of a text are those that it was put together from, and an empty one behind the last
line break. -/
lemma lines_text {lines : List Line} (unbroken : ∀ line ∈ lines, '\n' ∉ line.chars) :
    Text.lines (text lines) = lines.map Line.chars ++ [[]] := by
  induction lines with
  | nil => rfl
  | cons line lines ih =>
    obtain ⟨first, later⟩ := List.forall_mem_cons.mp unbroken
    have chars : (text (line :: lines)).toList = line.chars ++ '\n' :: (text lines).toList := by
      rw [text_cons, Line.render]
      simp only [String.toList_append, String.toList_ofList, List.append_assoc, Line.chars]
      rfl
    rw [Text.lines, chars, List.splitOn_append_cons_self, List.splitOn_eq_singleton first]
    exact congrArg (line.chars :: ·) (ih later)

/-! ## Statements -/

/-- Words with blanks between them, of which the first is not `case`. -/
def Firmware.IsType (type : String) : Prop :=
  Plain (type ++ " ") ∧ IsPhrase type

namespace Code

/-- Whether the words of a step are words, and a remark does not break the line. -/
def Step.Spelled : Step → Prop
  | set target value => IsWord target ∧ target ≠ "case" ∧ value.Spelled
  | run call => call.Spelled ∧ Invokes call
  | remarked call remark => call.Spelled ∧ Invokes call ∧ '\n' ∉ remark.toList
  | declare type target value => IsType type ∧ IsWord target ∧ value.Spelled
  | give value => value.Spelled
  | leave => True

/-- Whether the words of a body are words. -/
structure Block.Spelled (block : Block) : Prop where
  tests : ∀ test ∈ block.tests, test.Spelled
  steps : ∀ step ∈ block.steps, step.Spelled
  choices : ∀ statement ∈ block, ∀ dispatch ∈ statement.inner, ∀ name ∈ dispatch.names, IsWord name

end Code

section Statements

variable {opened : List Bracket}

lemma plain_call {call : Expr} (spelled : call.Spelled) (invokes : Invokes call) :
    Plain call.render := by
  have other {function : String} (free : function ∉ keywords) : function ≠ "case" := by
    rintro rfl
    exact free (by decide)
  cases call with
  | call function => exact plain_word spelled (other invokes) rfl
  | apply function argument =>
    have front : Plain (function ++ "(") := plain_word spelled.1 (other invokes) rfl
    exact (front.append _).append _
  | _ => cases invokes

/-- A step leaves the brackets as they are. -/
lemma leads_step {step : Step} (spelled : step.Spelled) :
    Leads opened ⟨depth opened, step.render⟩ opened := by
  have semicolon : Turns ";" opened opened := rfl
  have assign : Turns " = " opened opened := rfl
  cases step with
  | set target value =>
    obtain ⟨word, other, spelled⟩ := spelled
    apply leads_plain
    · exact ((plain_word word other rfl).append _).append _
    · exact (((turns_word word).append assign).append (turns_expr spelled)).append semicolon
  | run call =>
    exact leads_plain ((plain_call spelled.1 spelled.2).append _)
      ((turns_expr spelled.1).append semicolon)
  | remarked call remark =>
    obtain ⟨spelled, invokes, unbroken⟩ := spelled
    have starts : (call.render ++ "; // ").toList.foldlM Reading.next ⟨.code, opened⟩ =
        some ⟨.comment, opened⟩ := by
      rw [String.toList_append, List.foldlM_append, turns_expr spelled]
      rfl
    exact leads_comment ((plain_call spelled invokes).append _) starts unbroken
  | declare type target value =>
    obtain ⟨⟨plain, words⟩, word, spelled⟩ := spelled
    have blank : Turns " " opened opened := rfl
    apply leads_plain
    · exact (((plain.append _).append _).append _).append _
    · exact (((((turns_words words).append blank).append (turns_word word)).append assign).append
        (turns_expr spelled)).append semicolon
  | give value =>
    have front : Plain "return " := by decide
    have keyword : Turns "return " opened opened := rfl
    exact leads_plain ((front.append _).append _)
      ((keyword.append (turns_expr spelled)).append semicolon)
  | leave => exact leads_plain (by decide) rfl

/-- The brace that closes a block, on a line of its own. -/
lemma leads_brace {labelled : Bool} :
    Leads (.brace labelled :: opened) ⟨depth opened, "\x7d"⟩ opened := by
  have empty : Turns "" opened opened := rfl
  exact leads_closing empty

lemma depth_brace : depth (.brace false :: opened) = depth opened + 1 :=
  Nat.add_comm _ _

lemma depth_labelled : depth (.brace true :: opened) = depth opened + 1 + 1 :=
  Nat.add_comm _ _

/-- The end of a line on which a test opens a block. -/
lemma turns_test {test : Expr} (spelled : test.Spelled) :
    Turns (test.render ++ ") \x7b") (.paren :: opened) (.brace false :: opened) :=
  (turns_expr spelled).append rfl

section Nests

variable {α : Type} {inner : Nat → α → List Line}

lemma passes_body {body : List α}
    (each : ∀ a ∈ body, ∀ opened, Passes opened (inner (depth opened) a) opened) :
    Passes (.brace false :: opened) (body.flatMap (inner (depth opened + 1)))
      (.brace false :: opened) := by
  rw [← depth_brace]
  exact .flatMap fun a mem => each a mem _

lemma passes_laterLines {branches : List (Expr × List α)}
    (tests : ∀ branch ∈ branches, branch.1.Spelled)
    (each : ∀ branch ∈ branches, ∀ a ∈ branch.2, ∀ opened,
      Passes opened (inner (depth opened) a) opened) :
    Passes (.brace false :: opened) (Nest.laterLines inner (depth opened) branches) opened := by
  induction branches with
  | nil => exact .single leads_brace
  | cons branch branches ih =>
    obtain ⟨test, body⟩ := branch
    obtain ⟨spelled, tests⟩ := List.forall_mem_cons.mp tests
    obtain ⟨inside, each⟩ := List.forall_mem_cons.mp each
    have opening : Turns " else if (" opened (.paren :: opened) := rfl
    have first : Leads (.brace false :: opened)
        ⟨depth opened, "\x7d" ++ (" else if (" ++ (test.render ++ ") \x7b"))⟩
          (.brace false :: opened) :=
      leads_closing (opening.append (turns_test spelled))
    rw [← String.append_assoc, ← String.append_assoc] at first
    exact .cons first ((passes_body inside).append (ih tests each))

/-- The lines of a statement lead back to where they started, if those of the inner statements
do. -/
lemma passes_nest {statement : Nest α} (tests : ∀ test ∈ statement.tests, test.Spelled)
    (each : ∀ a ∈ statement.inner, ∀ opened, Passes opened (inner (depth opened) a) opened) :
    Passes opened (statement.lines inner (depth opened)) opened := by
  cases statement with
  | one a => exact each a (List.mem_singleton_self a) opened
  | chain branches =>
    rw [Nest.tests, List.forall_mem_map] at tests
    simp only [Nest.inner, List.forall_mem_flatMap] at each
    cases branches with
    | nil => exact .nil
    | cons branch branches =>
      obtain ⟨test, body⟩ := branch
      obtain ⟨spelled, others⟩ := List.forall_mem_cons.mp tests
      obtain ⟨inside, each⟩ := List.forall_mem_cons.mp each
      have opening : Turns "if (" opened (.paren :: opened) := rfl
      have front : Plain "if (" := by decide
      have first := leads_plain (front.append _) (opening.append (turns_test spelled))
      rw [← String.append_assoc] at first
      exact .cons first ((passes_body inside).append (passes_laterLines others each))

end Nests

/-- The cases of a `switch`, of which none or some may have been passed already. -/
lemma passes_cases {cases : List (String × List (Nest Step))}
    (labels : ∀ case ∈ cases, IsWord case.1) (bodies : ∀ case ∈ cases, ∀ statement ∈ case.2,
      ∀ opened, Passes opened (statement.lines Step.lines (depth opened)) opened)
        (labelled : Bool) :
    ∃ labelled', Passes (.brace labelled :: opened)
      (cases.flatMap fun (label, body) => Dispatch.caseLines (depth opened + 1) label body)
      (.brace labelled' :: opened) := by
  induction cases generalizing labelled with
  | nil => exact ⟨labelled, .nil⟩
  | cons case cases ih =>
    obtain ⟨label, body⟩ := case
    obtain ⟨word, labels⟩ := List.forall_mem_cons.mp labels
    obtain ⟨inside, bodies⟩ := List.forall_mem_cons.mp bodies
    obtain ⟨labelled', later⟩ := ih labels bodies true
    refine ⟨labelled', .append (.cons (leads_label word) ?_) later⟩
    rw [← depth_labelled]
    exact .flatMap fun statement mem => inside statement mem _

lemma passes_dispatch {dispatch : Dispatch} (names : ∀ name ∈ dispatch.names, IsWord name)
    (bodies : ∀ statement ∈ dispatch.nests,
      ∀ opened, Passes opened (statement.lines Step.lines (depth opened)) opened) :
    Passes opened (dispatch.lines (depth opened)) opened := by
  cases dispatch with
  | plain statement => exact bodies statement (List.mem_singleton_self statement) opened
  | switch subject cases =>
    obtain ⟨word, labels⟩ := List.forall_mem_cons.mp names
    rw [List.forall_mem_map] at labels
    simp only [Dispatch.nests, List.forall_mem_flatMap] at bodies
    obtain ⟨labelled, passes⟩ := @passes_cases opened cases labels bodies false
    have opening : Turns "switch (" opened (.paren :: opened) := rfl
    have closing : Turns ") \x7b" (.paren :: opened) (.brace false :: opened) := rfl
    have front : Plain "switch (" := by decide
    have first := leads_plain ((front.append subject).append ") \x7b")
      ((opening.append (turns_word word)).append closing)
    exact .cons first (passes.append (.single leads_brace))

/-- The lines of a body lead back to where they started. -/
lemma passes_block {block : Block} (spelled : block.Spelled) :
    Passes opened (block.lines (depth opened)) opened := by
  obtain ⟨tests, steps, choices⟩ := spelled
  simp only [Block.tests, Block.steps, List.forall_mem_flatMap, List.forall_mem_append]
    at tests steps
  refine .flatMap fun statement mem => passes_nest (tests statement mem).1 ?_
  intro dispatch within opened
  refine passes_dispatch (choices statement mem dispatch within) ?_
  intro nest inside opened
  refine passes_nest ((tests statement mem).2 dispatch within nest inside) ?_
  exact fun step among opened =>
    .single (leads_step (steps statement mem dispatch within nest inside step among))

end Statements

/-! ## Items -/

instance (type : String) : Decidable (IsType type) :=
  inferInstanceAs (Decidable (_ ∧ _))

lemma isType_word {word : String} (spelled : IsWord word) (other : word ≠ "case") : IsType word :=
  ⟨plain_word spelled other rfl, fun c mem => .inl (spelled.2 c mem)⟩

lemma Firmware.turns_list {opened : List Bracket} {words : List String}
    (each : ∀ word ∈ words, IsWord word) : Turns (", ".intercalate words) opened opened := by
  have comma : Turns ", " opened opened := rfl
  induction words with
  | nil => rfl
  | cons word words ih =>
    obtain ⟨first, later⟩ := List.forall_mem_cons.mp each
    cases words with
    | nil => exact turns_word first
    | cons other words =>
      rw [String.intercalate_cons_cons]
      exact ((turns_word first).append comma).append (ih later)

lemma Firmware.Turns.unbroken {text : String} {before after : List Bracket}
    (turns : Turns text before after) :
    '\n' ∉ text.toList :=
  unbroken_of_foldlM turns

/-- Whether the words of an item are words, and a comment does not break its line. -/
def Code.Item.Spelled : Item → Prop
  | comment text => '\n' ∉ text.toList
  | blank => True
  | library header => IsWord header
  | object type name _ => IsType type ∧ IsWord name
  | constant type name value | global type name value => IsType type ∧ IsWord name ∧ value.Spelled
  | enumeration name members => IsWord name ∧ ∀ member ∈ members, IsWord member
  | function result name parameters body =>
    IsType result ∧ IsWord name ∧ IsPhrase parameters ∧ body.Spelled

/-- An item closes what it opens. -/
lemma passes_item {item : Item} (spelled : item.Spelled) : Passes [] item.lines [] := by
  have blank : Turns " " [] [] := rfl
  have assign : Turns " = " [] [] := rfl
  have semicolon : Turns ";" [] [] := rfl
  have paren : Turns "(" [] [.paren] := rfl
  cases item with
  | comment text => exact .single (leads_comment (by decide) rfl spelled)
  | blank => exact .single leads_blank
  | library header =>
    have front : Plain "#include <" := by decide
    have opening : Turns "#include <" [] [] := rfl
    exact .single
      (leads_plain ((front.append _).append _) ((opening.append (turns_word spelled)).append rfl))
  | object type name arguments =>
    obtain ⟨⟨plain, words⟩, word⟩ := spelled
    have pins : ∀ code ∈ arguments.map Pin.code, IsWord code := by
      rw [List.forall_mem_map]
      exact fun pin _ => isWord_pin pin
    refine .single (leads_plain ((((plain.append _).append _).append _).append _) ?_)
    exact (((((turns_words words).append blank).append (turns_word word)).append paren).append
      (turns_list pins)).append rfl
  | constant type name value =>
    obtain ⟨⟨_, words⟩, word, spelled⟩ := spelled
    have front : Plain "const " := by decide
    have keyword : Turns "const " [] [] := rfl
    refine .single
      (leads_plain ((((((front.append _).append _).append _).append _).append _).append _) ?_)
    exact ((((((keyword.append (turns_words words)).append blank).append (turns_word word)).append
      assign).append (turns_expr spelled)).append semicolon)
  | enumeration name members =>
    obtain ⟨word, words⟩ := spelled
    have front : Plain "enum " := by decide
    have keyword : Turns "enum " [] [] := rfl
    have brace : Turns " \x7b" [] [.brace false] := rfl
    refine .single (leads_plain ((((front.append _).append _).append _).append _) ?_)
    exact (((keyword.append (turns_word word)).append brace).append (turns_list words)).append rfl
  | global type name value =>
    obtain ⟨⟨plain, words⟩, word, spelled⟩ := spelled
    refine .single (leads_plain ((((plain.append _).append _).append _).append _) ?_)
    exact (((((turns_words words).append blank).append (turns_word word)).append assign).append
      (turns_expr spelled)).append semicolon
  | function result name parameters body =>
    obtain ⟨⟨plain, words⟩, word, parameters', spelled⟩ := spelled
    have brace : Turns ") \x7b" [.paren] [.brace false] := rfl
    have first := leads_plain ((((plain.append name).append "(").append parameters).append ") \x7b")
      ((((((turns_words words).append blank).append (turns_word word)).append paren).append
        (turns_words parameters')).append brace)
    exact .cons first ((passes_block spelled).append (.single leads_brace))

lemma passes_items {items : List Item} (spelled : ∀ item ∈ items, item.Spelled) :
    Passes [] (items.flatMap Item.lines) [] :=
  .flatMap fun item mem => passes_item (spelled item mem)

end Brickwork
