import Brickwork.Proofs.Completeness
import Brickwork.Proofs.Firmware.Gates
import Brickwork.Proofs.Legibility
import Brickwork.Proofs.WellFormed

/-!
# Guards are told by their tests

Two guards whose tests have the same text are the same tree, leaf by leaf, up to thresholds that are
written the same. The text is read back as one term; connectives and comparisons tell nodes from
leaves, and what is read in a leaf tells its brick: a pin belongs to one brick only, and there is no
more than one serial line.
-/

namespace Brickwork

open Code Firmware

/-! ## Guards that are written the same -/

/-- Conditions that agree in everything; thresholds agree if they are written the same. -/
inductive Condition.Alike : Condition → Condition → Prop
  | digital (brick level) : Alike (.digital brick level) (.digital brick level)
  | analog (brick comparison) {threshold threshold'}
      (same : thresholdLayout.text threshold = thresholdLayout.text threshold') :
      Alike (.analog brick comparison threshold) (.analog brick comparison threshold')
  | serial (brick message) : Alike (.serial brick message) (.serial brick message)

/-- Guards of the same shape, with the same connectives and with conditions that agree in turn. -/
inductive Guard.Alike : Guard → Guard → Prop
  | condition {c c'} (alike : c.Alike c') : Alike (.condition c) (.condition c')
  | binary {left left' right right'} (connective) (first : Alike left left')
      (second : Alike right right') :
      Alike (.binary left connective right) (.binary left' connective right')

namespace Plan

variable {plan : Plan}

lemma condition_alike {c c'} (alike : Condition.Alike c c') :
    plan.condition c = plan.condition c' := by
  cases alike with
  | analog brick comparison same => rw [Plan.condition, Plan.condition, same]
  | _ => rfl

/-- Guards that are alike have the same test. -/
lemma lower_alike {guard guard'} (alike : Guard.Alike guard guard') :
    plan.lower guard = plan.lower guard' := by
  induction alike with
  | condition alike => exact condition_alike alike
  | binary connective _ _ ihl ihr => rw [lower, lower, ihl, ihr]

end Plan

/-! ## What leaves tell -/

lemma decimal_inj {m n : Nat} (same : Text.decimal m = Text.decimal n) : m = n := by
  have read := Text.digits?_decimal m
  rw [same, Text.digits?_decimal] at read
  exact (Option.some.inj read).symm

/-- The number of a pin is not written like an analog pin. -/
lemma decimal_ne_analog (m n : Nat) : Text.decimal m ≠ "A" ++ Text.decimal n := by
  intro same
  have digits : ('A').isDigit = true := by
    apply Nat.isDigit_of_mem_toDigits (b := 10) (n := m) (by decide) (by decide)
    rw [← String.toList_ofList (l := Nat.toDigits 10 m)]
    show 'A' ∈ (Text.decimal m).toList
    rw [same, String.toList_append]
    exact List.mem_cons_self
  cases digits

lemma Pin.code_inj {p q : Pin} (same : p.code = q.code) : p = q := by
  cases p with
  | digital m =>
    cases q with
    | digital n => rw [decimal_inj same]
    | analog n => exact (decimal_ne_analog m n same).elim
  | analog m =>
    cases q with
    | digital n => exact (decimal_ne_analog n m same.symm).elim
    | analog n => rw [decimal_inj ((String.append_right_inj _).mp same)]

lemma Level.name_inj {a b : Level} (same : a.name = b.name) : a = b := by
  cases a <;> cases b
  case high.high | low.low => rfl
  all_goals exact absurd same (by decide)

/-- A number is told by the term that it is read as. -/
lemma Code.Expr.numberTerm_inj {a b : String} (isA : IsNumber a) (isB : IsNumber b)
    (same : numberTerm a = numberTerm b) : a = b := by
  obtain ⟨_, _, eqA⟩ | ⟨unsignedA, _, rfl, _, eqA⟩ := numberTokens_cases isA
  · obtain ⟨_, _, eqB⟩ | ⟨_, _, _, _, eqB⟩ := numberTokens_cases isB
    · rw [eqA, eqB] at same
      exact Term.word.inj same
    · rw [eqA, eqB] at same
      cases same
  · obtain ⟨_, _, eqB⟩ | ⟨unsignedB, _, rfl, _, eqB⟩ := numberTokens_cases isB
    · rw [eqA, eqB] at same
      cases same
    · rw [eqA, eqB] at same
      rw [Term.word.inj (Term.negate.inj same)]

namespace Plan

variable {plan : Plan}

/-- The term that is asked for a condition: what is read and with what it is compared. -/
inductive Asks (plan : Plan) : Condition → Term → Prop
  | digital {brick pin} (level : Level) (found : plan.pins.pin brick = .ok pin) :
      Asks plan (.digital brick level) (.binary (.comparison .equal)
        (.apply "digitalRead" (.word pin.code)) (.word level.name))
  | analog {brick pin} (comparison threshold) (function) (other : function ≠ "digitalRead")
      (found : plan.pins.pin brick = .ok pin) :
      Asks plan (.analog brick comparison threshold) (.binary (.comparison comparison)
        (.apply function (.word pin.code)) (Expr.numberTerm (thresholdLayout.text threshold)))
  | serial {brick baud} (message) (line : plan.category brick = .ok (.serialLine baud)) :
      Asks plan (.serial brick message) (.binary (.comparison .equal)
        (.word "serialInput") (.text message))

lemma asks_condition {condition test} (h : plan.condition condition = .ok test) :
    plan.Asks condition test.term := by
  cases condition with
  | digital brick level =>
    obtain ⟨category, _, h⟩ := bind_eq_ok.mp h
    cases category
    case digitalSensor | digitalActuator | buzzer =>
      obtain ⟨pin, found, h⟩ := bind_eq_ok.mp h
      cases h
      exact .digital level found
    all_goals cases h
  | analog brick comparison threshold =>
    obtain ⟨category, _, h⟩ := bind_eq_ok.mp h
    cases category
    case analogSensor | temperatureSensor =>
      obtain ⟨pin, found, h⟩ := bind_eq_ok.mp h
      cases h
      exact .analog comparison threshold _ (by decide) found
    all_goals cases h
  | serial brick message =>
    obtain ⟨category, line, h⟩ := bind_eq_ok.mp h
    cases category
    case serialLine =>
      cases h
      exact .serial message line
    all_goals cases h

/-- A pin that is found for two names is found for the same name twice. -/
lemma Ready.brick_of_pin (ready : plan.Ready) {a b pin} (foundA : plan.pins.pin a = .ok pin)
    (foundB : plan.pins.pin b = .ok pin) : a = b := by
  obtain ⟨_, memA, rfl, wiredA⟩ := Allocation.entry_of_pin foundA
  obtain ⟨_, memB, rfl, wiredB⟩ := Allocation.entry_of_pin foundB
  exact (allocate_pin_iff_name ready.allocated memA memB wiredA wiredB).mp rfl

/-- There are no two names of serial lines. -/
def OneLine (plan : Plan) : Prop :=
  ∀ a b baudA baudB, plan.category a = .ok (.serialLine baudA) →
    plan.category b = .ok (.serialLine baudB) → a = b

/-- Conditions for which the same is asked are alike. -/
lemma Asks.alike (ready : plan.Ready) (line : plan.OneLine) {c c' t t'} (asks : plan.Asks c t)
    (asks' : plan.Asks c' t') (same : t = t') : c.Alike c' := by
  cases asks with
  | digital level found =>
    cases asks' with
    | digital level' found' =>
      simp only [Term.binary.injEq, Term.apply.injEq, Term.word.injEq, true_and] at same
      obtain ⟨pins, levels⟩ := same
      cases Pin.code_inj pins
      cases Level.name_inj levels
      cases ready.brick_of_pin found found'
      exact .digital _ level
    | analog comparison threshold function other found' =>
      simp only [Term.binary.injEq, Term.apply.injEq] at same
      exact (other same.2.1.1.symm).elim
    | serial message line' => cases same
  | analog comparison threshold function other found =>
    cases asks' with
    | digital level' found' =>
      simp only [Term.binary.injEq, Term.apply.injEq] at same
      exact (other same.2.1.1).elim
    | analog comparison' threshold' function' other' found' =>
      simp only [Term.binary.injEq, Term.apply.injEq, Term.word.injEq, Operator.comparison.injEq]
        at same
      obtain ⟨rfl, ⟨_, pins⟩, limits⟩ := same
      cases Pin.code_inj pins
      cases ready.brick_of_pin found found'
      exact .analog _ comparison
        (Expr.numberTerm_inj (isNumber_threshold threshold) (isNumber_threshold threshold') limits)
    | serial message line' => cases same
  | serial message own =>
    cases asks' with
    | digital level' found' => cases same
    | analog comparison' threshold' function' other' found' => cases same
    | serial message' own' =>
      simp only [Term.binary.injEq, Term.text.injEq, true_and] at same
      cases same
      cases line _ _ _ _ own own'
      exact .serial _ message

/-- Guards whose tests are read as the same term are alike. -/
lemma alike_of_term (ready : plan.Ready) (line : plan.OneLine) {guard guard' test test'}
    (lowered : plan.lower guard = .ok test) (lowered' : plan.lower guard' = .ok test')
    (same : test.term = test'.term) : guard.Alike guard' := by
  -- a comparison is no connective, so a leaf is only ever met by a leaf
  have leaf {c : Condition} {t : Term} (asks : plan.Asks c t) (connective : Connective)
      (left right : Term) :
      t ≠ .binary (.connective connective) left right := by
    cases asks <;> nofun
  induction guard generalizing guard' test test' with
  | condition c =>
    have asks := asks_condition lowered
    cases guard' with
    | condition c' => exact .condition (asks.alike ready line (asks_condition lowered') same)
    | binary left' connective' right' =>
      obtain ⟨_, _, h⟩ := bind_eq_ok.mp lowered'
      obtain ⟨_, _, h⟩ := bind_eq_ok.mp h
      cases h
      exact (leaf asks _ _ _ same).elim
  | binary left connective right ihl ihr =>
    obtain ⟨testl, loweredl, h⟩ := bind_eq_ok.mp lowered
    obtain ⟨testr, loweredr, h⟩ := bind_eq_ok.mp h
    cases h
    cases guard' with
    | condition c' => exact (leaf (asks_condition lowered') _ _ _ same.symm).elim
    | binary left' connective' right' =>
      obtain ⟨testl', loweredl', h⟩ := bind_eq_ok.mp lowered'
      obtain ⟨testr', loweredr', h⟩ := bind_eq_ok.mp h
      cases h
      simp only [Expr.term, Term.binary.injEq, Operator.connective.injEq] at same
      obtain ⟨rfl, samel, samer⟩ := same
      exact .binary connective (ihl loweredl loweredl' samel) (ihr loweredr loweredr' samer)

end Plan

/-- Of the bricks of a resolved app only one can be a serial line. -/
lemma App.serialLine_unique {app : App} {program} (resolved : app.resolve = .ok program)
    {a b : Brick}
    (memA : a ∈ app.bricks) (memB : b ∈ app.bricks) (lineA : a.category.isSerialLine = true)
    (lineB : b.category.isSerialLine = true) : a = b := by
  obtain ⟨_, _, _, _, clean, _⟩ := App.resolve_eq_ok.mp resolved
  obtain ⟨_, ⟨few, _⟩, _⟩ := App.errors_eq_nil.mp clean
  rw [List.countP_eq_length_filter] at few
  have among {brick} (mem : brick ∈ app.bricks) (line : brick.category.isSerialLine = true) :
      brick ∈ app.bricks.filter fun brick => brick.category.isSerialLine :=
        List.mem_filter.mpr ⟨mem, line⟩
  have amongA := among memA lineA
  have amongB := among memB lineB
  rcases eq : app.bricks.filter fun brick => brick.category.isSerialLine
    with _ | ⟨first, _ | ⟨second, rest⟩⟩
  · rw [eq] at amongA
    cases amongA
  · rw [eq, List.mem_singleton] at amongA amongB
    rw [amongA, amongB]
  · rw [eq] at few
    exact absurd few (by simp)

lemma Plan.oneLine_of_resolve {app : App} {options program pins}
    (resolved : app.resolve = .ok program) :
    Plan.OneLine ⟨program, pins, options⟩ := by
  intro a b baudA baudB lineA lineB
  obtain ⟨brickA, memA, rfl, categoryA⟩ := brick_of_category lineA
  obtain ⟨brickB, memB, rfl, categoryB⟩ := brick_of_category lineB
  have same := (App.resolved_of_resolve resolved).app_eq
  rw [same] at memA memB
  rw [App.serialLine_unique resolved memA memB (by rw [categoryA]; rfl) (by rw [categoryB]; rfl)]

/-- Where an app is resolved and its bricks are connected, the text of a guard's test tells the
guard: two guards with tests have the same text exactly if they have the same shape and connectives,
and leaf by leaf the same brick, level, comparison, message and text of the threshold. -/
theorem lower_text_iff_alike {app : App} {options : Options} {program pins}
    (resolved : app.resolve = .ok program)
    (allocated : allocate app.bricks options.board = .ok pins)
    {guard guard' test test'} (lowered : Plan.lower ⟨program, pins, options⟩ guard = .ok test)
    (lowered' : Plan.lower ⟨program, pins, options⟩ guard' = .ok test') :
    test.render = test'.render ↔ guard.Alike guard' := by
  have ready := Plan.ready_of_resolve resolved allocated
  constructor
  · intro same
    obtain ⟨spelled, fits⟩ := Plan.legible_lower lowered
    obtain ⟨spelled', fits'⟩ := Plan.legible_lower lowered'
    have read := Expr.Readable.readTerm ⟨spelled, fits.mono (by decide) (by decide)⟩
    have read' := Expr.Readable.readTerm ⟨spelled', fits'.mono (by decide) (by decide)⟩
    rw [same, read'] at read
    exact Plan.alike_of_term ready (Plan.oneLine_of_resolve resolved) lowered lowered'
      (Option.some.inj read).symm
  · intro alike
    rw [Plan.lower_alike alike, lowered'] at lowered
    cases lowered
    rfl

/-- Three conditions, one of them for a message with brackets and a connective, grouped from the
right or from the left. -/
def grouped (fromRight : Bool) : Guard :=
  let door := Guard.condition (.digital ⟨"door"⟩ .high)
  let line := Guard.condition (.serial ⟨"line"⟩ ") && (")
  let air := Guard.condition (.analog ⟨"air"⟩ .greater 30.5)
  if fromRight then .binary door .and (.binary line .and air) else .binary
    (.binary door .and line) .and air

theorem lower_text_iff_alike_grouped :
    ∃ program pins test test', (greenhouse none ⟨"closed"⟩).resolve = .ok program ∧
      allocate (greenhouse none ⟨"closed"⟩).bricks .uno = .ok pins ∧
      Plan.lower ⟨program, pins, ⟨.uno, 200⟩⟩ (grouped true) = .ok test ∧
      Plan.lower ⟨program, pins, ⟨.uno, 200⟩⟩ (grouped false) = .ok test' ∧
      test.render ≠ test'.render := by
  have made : ∃ program pins test test', (greenhouse none ⟨"closed"⟩).resolve = .ok program ∧
      allocate (greenhouse none ⟨"closed"⟩).bricks .uno = .ok pins ∧
      Plan.lower ⟨program, pins, ⟨.uno, 200⟩⟩ (grouped true) = .ok test ∧
      Plan.lower ⟨program, pins, ⟨.uno, 200⟩⟩ (grouped false) = .ok test' :=
    ⟨_, _, _, _, rfl, rfl, rfl, rfl⟩
  obtain ⟨program, pins, test, test', resolved, allocated, lowered, lowered'⟩ := made
  refine ⟨program, pins, test, test', resolved, allocated, lowered, lowered', ?_⟩
  intro same
  cases (lower_text_iff_alike resolved allocated lowered lowered').mp same with
  | binary _ first _ => cases first

end Brickwork
