import Brickwork.Proofs.Declarations
import Brickwork.Proofs.Footprint
import Brickwork.Proofs.Messages

/-!
# Messages in sketches

A message gets into a sketch only as a literal. So the sketches of two models that differ only in
their texts consist of the same pieces, with the literals of the one or the other between them. The
two runs are followed side by side, from single tests and steps up to the whole sketch.
-/

namespace Brickwork

open Code

/-! ## Pieces and literals -/

/-- A text with literals in it: a first piece, and another piece behind each literal. -/
def weave (first : String) : List String → List String → String
  | text :: texts, piece :: pieces => first ++ literal text ++ weave piece texts pieces
  | _, _ => first

/-- Two texts that consist of the same pieces, each with its own literals between them. -/
inductive Interwoven : List String → List String → String → String → Prop
  | last (piece : String) : Interwoven [] [] piece piece
  | cons (piece text text' : String) {texts texts' s s'} (later : Interwoven texts texts' s s') :
    Interwoven (text :: texts) (text' :: texts') (piece ++ literal text ++ s)
      (piece ++ literal text' ++ s')

namespace Interwoven

variable {texts texts' more more' : List String} {s s' t t' : String}

lemma of_literal (text text' : String) :
    Interwoven [text] [text'] (literal text) (literal text') := by
  have woven := cons "" text text' (.last "")
  rw [String.empty_append, String.empty_append, String.append_empty, String.append_empty] at woven
  exact woven

/-- What stands before the first literal is part of the first piece. -/
lemma prepend (front : String) (woven : Interwoven texts texts' s s') :
    Interwoven texts texts' (front ++ s) (front ++ s') := by
  cases woven with
  | last piece => exact .last _
  | cons piece text text' later =>
    rw [← String.append_assoc, ← String.append_assoc, ← String.append_assoc, ← String.append_assoc]
    exact .cons (front ++ piece) text text' later

lemma append (woven : Interwoven texts texts' s s') (later : Interwoven more more' t t') :
    Interwoven (texts ++ more) (texts' ++ more') (s ++ t) (s' ++ t') := by
  induction woven with
  | last piece => exact later.prepend piece
  | cons piece text text' _ ih =>
    rw [String.append_assoc, @String.append_assoc (piece ++ literal text')]
    exact .cons piece text text' ih

lemma behind (woven : Interwoven texts texts' s s') (back : String) :
    Interwoven texts texts' (s ++ back) (s' ++ back) := by
  have ended := woven.append (.last back)
  rw [List.append_nil, List.append_nil] at ended
  exact ended

/-- With the same literals the texts are the same. -/
lemma eq_of_eq (woven : Interwoven texts texts' s s') (same : texts = texts') : s = s' := by
  induction woven with
  | last piece => rfl
  | cons piece text text' _ ih =>
    obtain ⟨rfl, others⟩ := List.cons.inj same
    rw [ih others]

lemma exists_weave (woven : Interwoven texts texts' s s') :
    ∃ first pieces, pieces.length = texts.length ∧ pieces.length = texts'.length ∧
      s = weave first texts pieces ∧ s' = weave first texts' pieces := by
  induction woven with
  | last piece => exact ⟨piece, [], rfl, rfl, rfl, rfl⟩
  | cons piece text text' _ ih =>
    obtain ⟨first, pieces, length, length', rfl, rfl⟩ := ih
    exact ⟨piece, first :: pieces, congrArg (· + 1) length, congrArg (· + 1) length', rfl, rfl⟩

/-- What is made of two lists whose elements correspond is interwoven if what is made of two
elements that correspond is. -/
lemma join {α β γ : Type} {key : α → γ} {made made' : α → β → Prop} {view : β → String}
    {textsOf : α → List String}
    (each : ∀ a a' b b', key a = key a' → made a b → made' a' b' →
      Interwoven (textsOf a) (textsOf a') (view b) (view b'))
    {l l' : List α} {bs bs' : List β} (alike : l.map key = l'.map key)
    (pairs : List.Forall₂ made l bs) (pairs' : List.Forall₂ made' l' bs') :
    Interwoven (l.flatMap textsOf) (l'.flatMap textsOf) (String.join (bs.map view))
      (String.join (bs'.map view)) := by
  induction pairs generalizing l' bs' with
  | nil =>
    cases List.map_eq_nil_iff.mp alike.symm
    cases pairs'
    exact .last ""
  | @cons a b l bs first _ ih =>
    cases pairs' with
    | nil => cases alike
    | @cons a' b' l' bs' first' later' =>
      obtain ⟨same, alike⟩ := List.cons.inj alike
      rw [List.flatMap_cons, List.flatMap_cons, List.map_cons, List.map_cons, String.join_cons,
        String.join_cons]
      exact (each a a' b b' same first first').append (ih alike later')

end Interwoven

/-! ## Lines -/

namespace Code

def text (lines : List Line) : String :=
  String.join (lines.map Line.render)

lemma text_cons (line : Line) (lines : List Line) :
    text (line :: lines) = line.render ++ text lines := by
  rw [text, List.map_cons, String.join_cons]
  rfl

lemma text_singleton (line : Line) : text [line] = line.render := by
  rw [text_cons]
  exact String.append_empty

lemma text_append (lines more : List Line) : text (lines ++ more) = text lines ++ text more := by
  rw [text, List.map_append, String.join_append]
  rfl

lemma text_flatMap {α : Type} (f : α → List Line) (l : List α) :
    text (l.flatMap f) = String.join (l.map fun a => text (f a)) := by
  induction l with
  | nil => rfl
  | cons a l ih => rw [List.flatMap_cons, text_append, ih, List.map_cons, String.join_cons]

lemma render_append (items more : List Item) :
    render (items ++ more) = render items ++ render more := by
  rw [render, List.flatMap_append]
  exact text_append _ _

/-- Behind its first branch, a chain is one branch after the other and a brace. -/
lemma Nest.laterLines_eq {α : Type} (inner : Nat → α → List Line) (depth : Nat)
    (branches : List (Expr × List α)) :
    laterLines inner depth branches =
      branches.flatMap (fun branch => ⟨depth, "\x7d else if (" ++ branch.1.render ++ ") \x7b"⟩
        :: branch.2.flatMap (inner (depth + 1))) ++ [⟨depth, "\x7d"⟩] := by
  induction branches with
  | nil => rfl
  | cons branch branches ih => rw [laterLines, ih, List.flatMap_cons, List.append_assoc]

end Code

namespace Interwoven

variable {texts texts' more more' : List String} {expr expr' other other' : Expr}

lemma of_text (content content' : String) :
    Interwoven [content] [content'] (Expr.text content).render (Expr.text content').render :=
  of_literal content content'

lemma apply (function : String) (woven : Interwoven texts texts' expr.render expr'.render) :
    Interwoven texts texts' (Expr.apply function expr).render (Expr.apply function expr').render :=
  (woven.prepend (function ++ "(")).behind ")"

lemma group (woven : Interwoven texts texts' expr.render expr'.render) :
    Interwoven texts texts' (Expr.group expr).render (Expr.group expr').render :=
  (woven.prepend "(").behind ")"

lemma binary (operator : Operator) (woven : Interwoven texts texts' expr.render expr'.render)
    (later : Interwoven more more' other.render other'.render) :
    Interwoven (texts ++ more) (texts' ++ more') (Expr.binary operator expr other).render
      (Expr.binary operator expr' other').render :=
  (((woven.behind " ").behind operator.symbol).behind " ").append later

lemma run (depth : Nat) (woven : Interwoven texts texts' expr.render expr'.render) :
    Interwoven texts texts' (text (Step.lines depth (.run expr)))
      (text (Step.lines depth (.run expr'))) := by
  rw [Step.lines, Step.lines, text_singleton, text_singleton]
  exact ((woven.behind ";").prepend _).behind "\n"

/-- A line with a test, in front of lines that are the same in both runs. -/
lemma opening (depth : Nat) (front back : String) (lines : List Line)
    (woven : Interwoven texts texts' expr.render expr'.render) :
    Interwoven texts texts' (text (⟨depth, front ++ expr.render ++ back⟩ :: lines))
      (text (⟨depth, front ++ expr'.render ++ back⟩ :: lines)) := by
  rw [text_cons, text_cons]
  exact ((((woven.prepend front).behind back).prepend _).behind "\n").behind (text lines)

end Interwoven

/-! ## Conditions and actions -/

namespace Plan

variable {plan : Plan} {automaton : Automaton}

lemma woven_condition {condition condition' : Condition}
    (alike : condition.muted = condition'.muted)
    {test test'} (made : plan.condition condition = .ok test)
    (made' : plan.condition condition' = .ok test') :
    Interwoven condition.texts condition'.texts test.render test'.render := by
  cases condition with
  | serial brick message =>
    cases condition' with
    | serial brick' message' =>
      cases alike
      obtain ⟨category, found, made⟩ := bind_eq_ok.mp made
      obtain ⟨category', found', made'⟩ := bind_eq_ok.mp made'
      rw [found] at found'
      cases found'
      cases category
      case serialLine =>
        cases made
        cases made'
        exact Interwoven.binary _ (.last (Expr.name "serialInput").render)
          (.of_text message message')
      all_goals cases made
    | _ => cases alike
  | _ =>
    -- Without a message there is nothing to differ in.
    obtain rfl : condition' = _ := by
      cases condition' <;> cases alike
      rfl
    cases made.symm.trans made'
    exact .last _

lemma woven_lower {guard guard' : Guard} (alike : guard.muted = guard'.muted) {test test'}
    (made : plan.lower guard = .ok test) (made' : plan.lower guard' = .ok test') :
    Interwoven guard.texts guard'.texts test.render test'.render := by
  induction guard generalizing guard' test test' with
  | condition condition =>
    cases guard' with
    | condition condition' =>
      rw [Guard.texts, Guard.texts, Guard.conditions, Guard.conditions, List.flatMap_singleton,
        List.flatMap_singleton]
      exact woven_condition (Guard.condition.inj alike) made made'
    | binary => cases alike
  | binary left connective right ihl ihr =>
    cases guard' with
    | condition => cases alike
    | binary left' connective' right' =>
      obtain ⟨alikel, rfl, aliker⟩ := Guard.binary.inj alike
      obtain ⟨testl, loweredl, made⟩ := bind_eq_ok.mp made
      obtain ⟨testr, loweredr, made⟩ := bind_eq_ok.mp made
      obtain ⟨testl', loweredl', made'⟩ := bind_eq_ok.mp made'
      obtain ⟨testr', loweredr', made'⟩ := bind_eq_ok.mp made'
      cases made
      cases made'
      rw [Guard.texts, Guard.texts, Guard.conditions, Guard.conditions, List.flatMap_append,
        List.flatMap_append]
      have left := ihl alikel loweredl loweredl'
      have right := ihr aliker loweredr loweredr'
      exact (Interwoven.binary _ left right).group

/-- The clauses of sensors are the same in both runs. -/
lemma woven_clauses {texts texts' : List String} (sensors : List Identifier) {test test' : Expr}
    (woven : Interwoven texts texts' test.render test'.render) :
    Interwoven texts texts'
      (sensors.foldl (fun test sensor => .conjoin test (.group (debounceTest sensor))) test).render
      (sensors.foldl
        (fun test sensor => .conjoin test (.group (debounceTest sensor))) test').render := by
  induction sensors generalizing test test' with
  | nil => exact woven
  | cons sensor sensors ih =>
    have clause :=
      Interwoven.binary (.connective .and) woven (.last (Expr.group (debounceTest sensor)).render)
    rw [List.append_nil, List.append_nil] at clause
    exact ih clause

lemma debounced_muted (guard : Guard) : plan.debounced guard.muted = plan.debounced guard := by
  induction guard with
  | condition condition => cases condition <;> rfl
  | binary left connective right ihl ihr => rw [Guard.muted, debounced, debounced, ihl, ihr]

lemma woven_segment {segment segment' : Segment} (alike : segment.muted = segment'.muted)
    {value value'}
    (made : plan.segment segment = .ok value) (made' : plan.segment segment' = .ok value') :
    Interwoven segment.texts segment'.texts value.render value'.render := by
  cases segment with
  | text content =>
    cases segment' with
    | text content' =>
      cases made
      cases made'
      exact .of_literal content content'
    | status => cases alike
  | status brick =>
    cases segment' with
    | text => cases alike
    | status =>
      cases alike
      cases made.symm.trans made'
      exact .last _

lemma woven_action {action action' : Action} (alike : action.muted = action'.muted) {steps steps'}
    (made : plan.action action = .ok steps) (made' : plan.action action' = .ok steps')
    (depth : Nat) :
    Interwoven action.texts action'.texts (text (steps.flatMap (Step.lines depth)))
      (text (steps'.flatMap (Step.lines depth))) := by
  cases action with
  | serialPrint serial message =>
    cases action' with
    | serialPrint serial' message' =>
      cases made
      cases made'
      have call := Interwoven.apply "Serial.println" (.of_text message message')
      exact call.run depth
    | _ => cases alike
  | lcdUpdate display segments =>
    cases action' with
    | lcdUpdate display' segments' =>
      obtain ⟨pieces, read, made⟩ := bind_eq_ok.mp made
      obtain ⟨pieces', read', made'⟩ := bind_eq_ok.mp made'
      cases made
      cases made'
      obtain ⟨_, alike⟩ := Action.lcdUpdate.inj alike
      rw [List.flatMap_append, List.flatMap_append, List.flatMap_map, List.flatMap_map, text_append,
        text_append]
      apply Interwoven.prepend
      rw [text_flatMap, text_flatMap]
      refine Interwoven.join ?_ alike (mapM_forall₂ read) (mapM_forall₂ read')
      intro segment segment' value value' alike made made'
      exact ((woven_segment alike made made').apply "lcd.print").run depth
    | _ => cases alike
  | _ =>
    obtain rfl : action' = _ := by
      cases action' <;> cases alike
      rfl
    cases made.symm.trans made'
    exact .last _

/-! ## Machines -/

variable {automaton' : Automaton}

/-- A transition has the same test in both runs but for its messages, and the same steps. -/
lemma woven_transition {transition transition' : Transition}
    (alike : transition.muted = transition'.muted) (same : automaton.muted = automaton'.muted)
    {branch branch'} (made : plan.transition automaton transition = .ok branch)
    (made' : plan.transition automaton' transition' = .ok branch') :
    Interwoven transition.guard.texts transition'.guard.texts branch.1.render branch'.1.render ∧
      branch.2 = branch'.2 := by
  obtain ⟨test, lowered, rfl⟩ := transition_ok made
  obtain ⟨test', lowered', rfl⟩ := transition_ok made'
  have guards : transition.guard.muted = transition'.guard.muted := congrArg Transition.guard alike
  have next : transition.next = transition'.next := (congrArg Transition.next alike :)
  have current : automaton.current = automaton'.current := (congrArg Automaton.current same :)
  have changed : automaton.changed = automaton'.changed := (congrArg Automaton.changed same :)
  have constant : automaton.constant = automaton'.constant := (congrArg Automaton.constant same :)
  have sensors : plan.debounced transition.guard = plan.debounced transition'.guard := by
    rw [← debounced_muted, guards, debounced_muted]
  have reads : transition.guard.conditions.any Condition.readsSerial =
      transition'.guard.conditions.any Condition.readsSerial := by
    rw [← Guard.readsSerial_muted, guards, Guard.readsSerial_muted]
  constructor
  · rw [← sensors]
    exact woven_clauses _ (woven_lower guards lowered lowered')
  · rw [sensors, reads, next, current, changed, constant]

lemma woven_chain {transitions transitions' : List Transition}
    (alike : transitions.map Transition.muted = transitions'.map Transition.muted)
    (same : automaton.muted = automaton'.muted) {branches branches'}
    (made : transitions.mapM (plan.transition automaton) = .ok branches)
    (made' : transitions'.mapM (plan.transition automaton') = .ok branches') (depth : Nat) :
    Interwoven (transitions.flatMap fun transition => transition.guard.texts)
      (transitions'.flatMap fun transition => transition.guard.texts)
      (text ((Nest.chain branches).lines Step.lines depth))
      (text ((Nest.chain branches').lines Step.lines depth)) := by
  have pairs := mapM_forall₂ made
  have pairs' := mapM_forall₂ made'
  cases pairs with
  | nil =>
    cases List.map_eq_nil_iff.mp alike.symm
    cases pairs'
    exact .last _
  | @cons transition branch transitions branches first later =>
    cases pairs' with
    | nil => cases alike
    | @cons transition' branch' transitions' branches' first' later' =>
      obtain ⟨alike, others⟩ := List.cons.inj alike
      obtain ⟨tests, steps⟩ := woven_transition alike same first first'
      -- The first branch opens in another way than the others, so it is not one of those that are
      -- joined.
      rw [Nest.lines, Nest.lines, Nest.laterLines_eq, Nest.laterLines_eq, steps, text_append,
        text_append, text_append, text_append, List.flatMap_cons, List.flatMap_cons]
      refine (tests.opening depth "if (" ") \x7b" _).append (Interwoven.behind ?_ _)
      rw [text_flatMap, text_flatMap]
      refine Interwoven.join ?_ others later later'
      intro transition transition' branch branch' alike made made'
      obtain ⟨tests, steps⟩ := woven_transition alike same made made'
      rw [steps]
      exact tests.opening depth "\x7d else if (" ") \x7b" _

lemma woven_entry {actions actions' : List Action}
    (alike : actions.map Action.muted = actions'.map Action.muted) {steps steps'}
    (made : actions.mapM plan.action = .ok steps) (made' : actions'.mapM plan.action = .ok steps')
    (depth : Nat) :
    Interwoven (actions.flatMap Action.texts) (actions'.flatMap Action.texts)
      (text (steps.flatten.flatMap (Step.lines depth)))
      (text (steps'.flatten.flatMap (Step.lines depth))) := by
  rw [List.flatten_eq_flatMap, List.flatten_eq_flatMap, List.flatMap_assoc, List.flatMap_assoc,
    text_flatMap, text_flatMap]
  refine Interwoven.join ?_ alike (mapM_forall₂ made) (mapM_forall₂ made')
  exact fun action action' steps steps' alike made made' => woven_action alike made made' depth

lemma woven_state {state state' : State} (alike : state.muted = state'.muted)
    (same : automaton.muted = automaton'.muted) {case case'}
    (made : plan.state automaton state = .ok case)
    (made' : plan.state automaton' state' = .ok case') (depth : Nat) :
    Interwoven state.texts state'.texts (text (Dispatch.caseLines depth case.1 case.2))
      (text (Dispatch.caseLines depth case'.1 case'.2)) := by
  obtain ⟨actions, branches, acts, leads, rfl⟩ := state_ok made
  obtain ⟨actions', branches', acts', leads', rfl⟩ := state_ok made'
  have name : state.name = state'.name := (congrArg State.name alike :)
  have changed : automaton.changed = automaton'.changed := (congrArg Automaton.changed same :)
  have constant : automaton.constant = automaton'.constant := (congrArg Automaton.constant same :)
  have entry := woven_entry (congrArg State.actions alike) acts acts' (depth + 2)
  have chain := woven_chain (congrArg State.transitions alike) same leads leads' (depth + 1)
  rw [State.texts, State.texts, Dispatch.caseLines, Dispatch.caseLines, name, constant,
    changed, text_cons, text_cons]
  apply Interwoven.prepend
  simp only [List.flatMap_cons, text_append]
  refine Interwoven.append ?_ (chain.behind _)
  simp only [Nest.lines, List.flatMap_cons, List.cons_append, text_cons, text_append]
  exact ((entry.prepend _).behind _).prepend _

lemma woven_switch (same : automaton.muted = automaton'.muted) {dispatch dispatch'}
    (made : plan.switch automaton = .ok dispatch) (made' : plan.switch automaton' = .ok dispatch')
    (depth : Nat) :
    Interwoven automaton.texts automaton'.texts (text (dispatch.lines depth))
      (text (dispatch'.lines depth)) := by
  obtain ⟨cases, listed, rfl⟩ := switch_ok made
  obtain ⟨cases', listed', rfl⟩ := switch_ok made'
  have current : automaton.current = automaton'.current := (congrArg Automaton.current same :)
  have alike : automaton.states.map State.muted = automaton'.states.map State.muted :=
    congrArg Automaton.states same
  rw [Dispatch.lines, Dispatch.lines, current, text_append, text_append]
  apply Interwoven.behind
  rw [text_cons, text_cons, text_flatMap, text_flatMap]
  apply Interwoven.prepend
  refine Interwoven.join ?_ alike (mapM_forall₂ listed) (mapM_forall₂ listed')
  exact fun state state' case case' alike made made' =>
    woven_state alike same made made' (depth + 1)

/-! ## Sketches -/

def muted (plan : Plan) : Plan :=
  { plan with program := plan.program.muted }

lemma globals_muted : plan.muted.globals = plan.globals := by
  have machine : ∀ automaton : Automaton,
      plan.muted.automatonItems automaton.muted = plan.automatonItems automaton := by
    intro automaton
    rw [automatonItems, automatonItems, Automaton.constants_muted]
    rfl
  have machines : plan.muted.program.automata.flatMap plan.muted.automatonItems =
      plan.program.automata.flatMap plan.automatonItems := by
    rw [muted, Program.muted, List.flatMap_map]
    exact congrArg (plan.program.automata.flatMap ·) (funext machine)
  rw [globals, globals, machines]
  rfl

section Runs

variable {other : Plan} (alike : plan.muted = other.muted)

include alike

lemma wires_of_muted : plan.Wires other where
  bricks := (congrArg (fun plan => plan.program.app.bricks) alike.symm :)
  pins := (congrArg Plan.pins alike.symm :)

lemma woven_statement (same : automaton.muted = automaton'.muted) {statement statement'}
    (runs : plan.StatementOf automaton statement) (runs' : other.StatementOf automaton' statement')
    (depth : Nat) :
    Interwoven automaton.texts automaton'.texts (text (statement.lines Dispatch.lines depth))
      (text (statement'.lines Dispatch.lines depth)) := by
  obtain ⟨dispatch, made, rfl⟩ := runs
  obtain ⟨dispatch', made', rfl⟩ := runs'
  rw [(wires_of_muted alike).switch] at made'
  have mode : plan.program.mode = other.program.mode :=
    (congrArg (fun plan => plan.program.mode) alike :)
  rw [mode]
  cases other.program.mode with
  | single => exact woven_switch same made made' depth
  | multi =>
    have gate : gate automaton = gate automaton' := (congrArg Plan.gate same :)
    have lastRun : automaton.lastRun = automaton'.lastRun := (congrArg Automaton.lastRun same :)
    have switch := woven_switch same made made' (depth + 1)
    simp only [Nest.lines, List.flatMap_cons, List.cons_append, text_cons, text_append,
      gate, lastRun]
    exact (((switch.behind _).prepend _).behind _).prepend _

lemma woven_loop {block block'} (made : plan.loop = .ok block) (made' : other.loop = .ok block')
    (depth : Nat) :
    Interwoven (plan.program.automata.flatMap Automaton.texts)
      (other.program.automata.flatMap Automaton.texts) (text (block.lines depth))
      (text (block'.lines depth)) := by
  obtain ⟨machines, rfl, runs⟩ := loop_ok made
  obtain ⟨machines', rfl, runs'⟩ := loop_ok made'
  have preamble : preamble plan.program = preamble other.program :=
    (congrArg (fun plan => Plan.preamble plan.program) alike :)
  have automata : plan.program.automata.map Automaton.muted =
      other.program.automata.map Automaton.muted :=
    congrArg (fun plan => plan.program.automata) alike
  rw [Block.lines, Block.lines, preamble, List.flatMap_append, List.flatMap_append, text_append,
    text_append]
  apply Interwoven.prepend
  rw [text_flatMap, text_flatMap]
  refine Interwoven.join ?_ automata runs runs'
  exact fun automaton automaton' statement statement' same runs runs' =>
    woven_statement alike same runs runs' depth

end Runs

/-- The lines in front of all that does not depend on the name of an app. -/
def heading (name : String) : String :=
  Code.render [.comment "Wiring code generated from an ArduinoML model",
    .comment ("Application name: " ++ name)]

/-- What stands between the heading and the loop of a sketch. -/
def interior (plan : Plan) (setup : List Step) : List Item :=
  .blank :: plan.summary ++ plan.globals
    ++ [.function "void" "setup" "" (setup.map Block.step), .blank]

lemma render_items {items} (made : plan.items = .ok items) :
    ∃ setup loop, plan.program.app.bricks.mapM plan.setup = .ok setup ∧ plan.loop = .ok loop ∧
      Code.render items = heading plan.program.app.name ++
        (Code.render (plan.interior setup) ++
          text (Item.function "void" "loop" "" loop).lines) := by
  obtain ⟨setup, loop, setups, loops, rfl⟩ := items_ok made
  refine ⟨setup, loop, setups, loops, ?_⟩
  have last : text (Item.function "void" "loop" "" loop).lines =
      Code.render [.function "void" "loop" "" loop] := by
    rw [Code.render, List.flatMap_singleton]
    rfl
  rw [last, ← render_append, heading, ← render_append, header, interior]
  simp only [List.append_assoc, List.cons_append, List.nil_append]

/-- Two sketches are the same behind their headings, but for the literals of the messages. -/
lemma woven_items {other : Plan} (alike : plan.muted = other.muted) {items items'}
    (made : plan.items = .ok items) (made' : other.items = .ok items') :
    ∃ body body', Code.render items = heading plan.program.app.name ++ body ∧
      Code.render items' = heading other.program.app.name ++ body' ∧
      Interwoven (plan.program.automata.flatMap Automaton.texts)
        (other.program.automata.flatMap Automaton.texts) body body' := by
  obtain ⟨setup, loop, setups, loops, eq⟩ := render_items made
  obtain ⟨setup', loop', setups', loops', eq'⟩ := render_items made'
  refine ⟨_, _, eq, eq', ?_⟩
  have globals : plan.globals = other.globals := by rw [← globals_muted, alike, globals_muted]
  have summary : plan.summary = other.summary := (congrArg Plan.summary alike :)
  have steps : plan.program.app.bricks.mapM plan.setup =
      other.program.app.bricks.mapM other.setup :=
    (congrArg (fun plan => plan.program.app.bricks.mapM plan.setup) alike :)
  obtain rfl : setup = setup' := Except.ok.inj (setups.symm.trans (steps.trans setups'))
  rw [interior, interior, globals, summary]
  apply Interwoven.prepend
  simp only [Item.lines, List.cons_append, text_cons, text_append]
  exact ((woven_loop alike loops loops' 1).behind _).prepend _

end Plan

/-- The messages of an app that is resolved are those of its machines. -/
lemma App.texts_of_resolve {app : App} {program} (resolved : app.resolve = .ok program) :
    app.texts = program.automata.flatMap Automaton.texts := by
  have shown := App.shows_of_resolve resolved
  rw [App.texts]
  by_cases machines : app.machines = []
  · obtain ⟨initial, _, listed⟩ := shown.single machines
    rw [listed, machines, List.flatMap_nil, List.append_nil, List.flatMap_singleton]
    rfl
  · have wellFormed := App.resolve_isOk_iff.mp ⟨program, resolved⟩
    have states : app.states = [] := by
      obtain ⟨_, machineless⟩ | ⟨_, own⟩ := wellFormed.mode
      · exact (machineless machines).elim
      · exact not_not.mp fun filled => own (.inl filled)
    rw [shown.multi machines, states, List.flatMap_map]
    rfl

section Alike

variable {app other : App} {options : Options} (alike : app.muted = other.muted)

include alike

lemma resolve_alike : app.resolve.map Program.muted = other.resolve.map Program.muted := by
  rw [← App.resolve_muted, alike, App.resolve_muted]

/-- Models that differ only in their texts have the same errors. -/
lemma generate_error_alike {diagnostics} (failed : generate app options = .error diagnostics) :
    generate other options = .error diagnostics := by
  have resolutions := resolve_alike alike
  have bricks : app.bricks = other.bricks := (congrArg App.bricks alike :)
  rw [generate] at failed ⊢
  cases resolved : app.resolve with
  | error errors =>
    rw [resolved] at failed resolutions
    -- Either both are resolved or neither is.
    cases resolved' : other.resolve with
    | error errors' =>
      rw [resolved'] at resolutions
      cases resolutions
      exact failed
    | ok program' =>
      rw [resolved'] at resolutions
      cases resolutions
  | ok program =>
    rw [resolved] at failed resolutions
    cases resolved' : other.resolve with
    | error errors' =>
      rw [resolved'] at resolutions
      cases resolutions
    | ok program' =>
      rw [← bricks]
      cases allocated : allocate app.bricks options.board with
      | error error =>
        simp only [allocated] at failed ⊢
        exact failed
      | ok pins =>
        -- Once pins are allocated, a sketch is made.
        obtain ⟨items, made⟩ := (Plan.ready_of_resolve resolved allocated).items
        simp only [allocated, made] at failed
        cases failed

/-- Models that differ only in their texts have sketches that are the same behind their headings,
but for the literals of the messages. -/
lemma generate_alike {sketch : String} (generated : generate app options = .ok sketch) :
    ∃ sketch' body body', generate other options = .ok sketch' ∧
      sketch = Plan.heading app.name ++ body ∧
      sketch' = Plan.heading other.name ++ body' ∧ Interwoven app.texts other.texts body body' := by
  obtain ⟨program, pins, items, resolved, allocated, made, rfl⟩ := generate_eq_ok.mp generated
  have resolutions := resolve_alike alike
  rw [resolved] at resolutions
  cases resolved' : other.resolve with
  | error errors' =>
    rw [resolved'] at resolutions
    cases resolutions
  | ok program' =>
    rw [resolved'] at resolutions
    have programs : program.muted = program'.muted := Except.ok.inj resolutions
    have bricks : app.bricks = other.bricks := (congrArg App.bricks alike :)
    rw [bricks] at allocated
    obtain ⟨items', made'⟩ := (Plan.ready_of_resolve resolved' allocated).items
    have plans : Plan.muted ⟨program, pins, options⟩ = Plan.muted ⟨program', pins, options⟩ := by
      rw [Plan.muted, Plan.muted, programs]
    obtain ⟨body, body', eq, eq', woven⟩ := Plan.woven_items plans made made'
    rw [← App.texts_of_resolve resolved, ← App.texts_of_resolve resolved'] at woven
    rw [(App.resolved_of_resolve resolved).app_eq] at eq
    rw [(App.resolved_of_resolve resolved').app_eq] at eq'
    refine ⟨_, body, body', ?_, eq, eq', woven⟩
    exact generate_eq_ok.mpr ⟨program', pins, items', resolved', allocated, made', rfl⟩

end Alike

/-- Messages have no influence on what is generated but for their own literals. If two models are
the same apart from the contents of their messages, then both have the same errors, or there are
pieces of text that make up the sketch of either with the literals of its messages, in order,
between them. -/
theorem generate_weaves_messages {app other : App} (options : Options)
    (name : app.name = other.name) (alike : app.muted = other.muted) :
    (∀ diagnostics, generate app options = .error diagnostics ↔
      generate other options = .error diagnostics) ∧
    ∀ sketch, generate app options = .ok sketch → ∃ sketch' first pieces,
      generate other options = .ok sketch' ∧ pieces.length = app.texts.length ∧
      pieces.length = other.texts.length ∧ sketch = weave first app.texts pieces ∧
      sketch' = weave first other.texts pieces := by
  refine ⟨fun diagnostics => ⟨generate_error_alike alike, generate_error_alike alike.symm⟩, ?_⟩
  intro sketch generated
  obtain ⟨sketch', body, body', generated', rfl, rfl, woven⟩ := generate_alike alike generated
  rw [name] at generated ⊢
  obtain ⟨first, pieces, length, length', eq, eq'⟩ :=
    (woven.prepend (Plan.heading other.name)).exists_weave
  exact ⟨_, first, pieces, generated', length, length', eq, eq'⟩

/-- A model with a message of each kind: on a display, on a serial line, and in a guard. -/
def doorbell (shown printed awaited : String) : App where
  name := "doorbell"
  bricks := [⟨⟨"screen"⟩, none, .lcdDisplay⟩, ⟨⟨"line"⟩, none, .serialLine 9600⟩,
    ⟨⟨"button"⟩, none, .digitalSensor⟩]
  initial := some ⟨"idle"⟩
  states := [⟨⟨"idle"⟩,
    [.lcdUpdate ⟨"screen"⟩ [.status ⟨"button"⟩, .text shown], .serialPrint ⟨"line"⟩ printed],
    [⟨.binary (.condition (.digital ⟨"button"⟩ .high)) .or (.condition (.serial ⟨"line"⟩ awaited)),
      ⟨"idle"⟩⟩]⟩]

/-- Messages that would end a literal or a line stay in their literals. -/
theorem generate_weaves_messages_doorbell :
    ∃ sketch sketch' first pieces,
      generate (doorbell "Hello" "rang" "open") ⟨.uno, 200⟩ = .ok sketch ∧
      generate (doorbell "\"); loop(); //" "" "a\nb\\") ⟨.uno, 200⟩ = .ok sketch' ∧
      pieces.length = 3 ∧ sketch = weave first ["Hello", "rang", "open"] pieces ∧
      sketch' = weave first ["\"); loop(); //", "", "a\nb\\"] pieces := by
  have generated : ∃ sketch, generate (doorbell "Hello" "rang" "open") ⟨.uno, 200⟩ = .ok sketch :=
    ⟨_, rfl⟩
  obtain ⟨sketch, generated⟩ := generated
  have weaves := @generate_weaves_messages (doorbell "Hello" "rang" "open")
    (doorbell "\"); loop(); //" "" "a\nb\\") ⟨.uno, 200⟩ rfl rfl
  obtain ⟨sketch', first, pieces, generated', length, _, eq, eq'⟩ := weaves.2 sketch generated
  exact ⟨sketch, sketch', first, pieces, generated, generated', length, eq, eq'⟩

end Brickwork
