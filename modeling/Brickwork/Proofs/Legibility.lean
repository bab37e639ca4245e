import Brickwork.Proofs.Firmware.Lines
import Brickwork.Proofs.Resolution
import Brickwork.Sketch.Dispatching

/-!
# Sketches are legible

Whatever a plan puts into the cases of a machine is read back from its text: numbers, pins and valid
names are words, thresholds are numbers with or without a sign, and parentheses stand where they are
needed.
-/

namespace Brickwork

open Code Firmware

/-! ## Words -/

lemma isWordChar_of_isDigit {c : Char} (digit : c.isDigit = true) : isWordChar c = true := by
  simp only [isWordChar, Char.isAlphanum, digit, Bool.or_true, Bool.true_or]

lemma isWordChar_toDigits {n : Nat} {c : Char} (mem : c ∈ Nat.toDigits 10 n) :
    isWordChar c = true :=
  isWordChar_of_isDigit (Nat.isDigit_of_mem_toDigits (by decide) (by decide) mem)

lemma isWord_ofList {cs : List Char} (nonempty : cs ≠ []) (chars : ∀ c ∈ cs, isWordChar c = true) :
    IsWord (String.ofList cs) := by
  refine ⟨?_, by rwa [String.toList_ofList]⟩
  intro nil
  apply nonempty
  rw [← String.toList_ofList (l := cs), nil]
  rfl

/-- Words with further characters of words behind them are words. -/
lemma isWord_append {front back : String} (word : IsWord front)
    (chars : ∀ c ∈ back.toList, isWordChar c = true) : IsWord (front ++ back) := by
  obtain ⟨nonempty, front⟩ := word
  refine ⟨?_, ?_⟩
  · intro nil
    exact nonempty (String.append_eq_empty_iff.mp nil).1
  · rw [String.toList_append]
    intro c mem
    rcases List.mem_append.mp mem with mem | mem
    · exact front c mem
    · exact chars c mem

lemma isWord_decimal (n : Nat) : IsWord (Text.decimal n) :=
  isWord_ofList Nat.toDigits_ne_nil fun _ => isWordChar_toDigits

/-- A whole number is read as one word. -/
lemma term_natural (n : Nat) : (Expr.natural n).term = .word (Text.decimal n) := by
  obtain ⟨_, _, eq⟩ | ⟨unsigned, _, eq, _⟩ := Expr.numberTokens_cases (.inl (isWord_decimal n))
  · exact eq
  · have minus : isWordChar '-' = true := by
      apply (isWord_decimal n).2
      rw [eq, String.toList_append]
      exact List.mem_cons_self
    cases minus

lemma isWord_pin (pin : Pin) : IsWord pin.code := by
  cases pin with
  | digital n => exact isWord_decimal n
  | analog n => exact isWord_append (by decide) (isWord_decimal n).2

lemma isWord_identifier {name : Identifier} (valid : name.IsValid) : IsWord name.text := by
  have spelling : Identifier.isSpelling name.text.toList = true := valid
  cases eq : name.text.toList with
  | nil => rw [eq] at spelling; cases spelling
  | cons c cs =>
    rw [eq, Identifier.isSpelling, Bool.and_eq_true, List.all_eq_true] at spelling
    obtain ⟨first, later⟩ := spelling
    have word : IsWord (String.ofList (c :: cs)) := by
      apply isWord_ofList (List.cons_ne_nil c cs)
      intro d mem
      cases mem with
      | head =>
        simp only [Identifier.isFirst, Bool.or_eq_true] at first
        simp only [isWordChar, Char.isAlphanum, Bool.or_eq_true]
        tauto
      | tail _ mem =>
        have later := later d mem
        simp only [Identifier.isLater, Bool.or_eq_true] at later
        simp only [isWordChar, Bool.or_eq_true]
        exact .inl later
    rwa [← eq, String.ofList_toList] at word

lemma isWord_debounceVariable {sensor : Identifier} (valid : sensor.IsValid) :
    IsWord (debounceVariable sensor) := by
  have back : IsWord "LastDebounceTime" := by decide
  exact isWord_append (isWord_identifier valid) back.2

/-- A decimal with its point in place is a word, if its digits are digits. -/
lemma isWord_place (layout : Decimal.Layout) {digits : List Char} (point : Int)
    (nonempty : digits ≠ []) (chars : ∀ c ∈ digits, isWordChar c = true) :
    layout.place digits point ≠ [] ∧ ∀ c ∈ layout.place digits point, isWordChar c = true := by
  have zeros {n : Nat} : ∀ c ∈ List.replicate n '0', isWordChar c = true := by
    intro c mem
    rw [List.eq_of_mem_replicate mem]
    rfl
  unfold Decimal.Layout.place
  split
  case isTrue =>
    refine ⟨List.cons_ne_nil _ _, ?_⟩
    simp only [List.cons_append, List.forall_mem_cons, List.forall_mem_append]
    exact ⟨rfl, rfl, zeros, chars⟩
  case isFalse =>
    split
    case isTrue =>
      refine ⟨by simp [nonempty], ?_⟩
      simp only [List.forall_mem_append]
      refine ⟨⟨chars, zeros⟩, ?_⟩
      split
      · exact List.forall_mem_cons.mpr ⟨rfl, List.forall_mem_singleton.mpr rfl⟩
      · nofun
    case isFalse =>
      refine ⟨by simp, ?_⟩
      simp only [List.forall_mem_append, List.forall_mem_cons]
      refine ⟨?_, rfl, ?_⟩
      · exact fun c mem => chars c (List.mem_of_mem_take mem)
      · exact fun c mem => chars c (List.mem_of_mem_drop mem)

lemma isNumber_signed {body : List Char} (word : IsWord (String.ofList body)) (negative : Bool) :
    Expr.IsNumber (String.ofList (if negative then '-' :: body else body)) := by
  cases negative with
  | false => exact .inl word
  | true =>
    refine .inr ⟨String.ofList body, word, ?_⟩
    rw [← String.toList_inj, String.toList_append]
    simp only [if_true, String.toList_ofList]
    rfl

/-- A threshold is written as a number with or without a sign. -/
lemma isNumber_threshold (threshold : Float) : Expr.IsNumber (thresholdLayout.text threshold) := by
  unfold Decimal.Layout.text
  split
  · exact .inl (by decide)
  · exact isNumber_signed (by decide) _
  · apply isNumber_signed
    obtain ⟨nonempty, chars⟩ :=
      isWord_place thresholdLayout _ Nat.toDigits_ne_nil fun _ => isWordChar_toDigits
    exact isWord_ofList nonempty chars

/-! ## Tests -/

namespace Plan

variable {plan : Plan} {automaton : Automaton}

/-- The test of a condition compares what is read from a pin with a name or a number, or the line
that was read with a text. -/
lemma condition_cases {condition test} (h : plan.condition condition = .ok test) :
    (∃ comparison function pin limit,
      test = .compare comparison (.apply function (.pin pin)) limit ∧
      IsWord function ∧ limit.Spelled ∧ ∀ held yielded, limit.Fits held yielded) ∨
    ∃ message, test = .compare .equal (.name "serialInput") (.text message) := by
  cases condition with
  | digital brick level =>
    obtain ⟨category, _, h⟩ := bind_eq_ok.mp h
    have named : IsWord level.name := by cases level <;> decide
    cases category
    case digitalSensor | digitalActuator | buzzer =>
      obtain ⟨pin, _, h⟩ := bind_eq_ok.mp h
      cases h
      exact .inl ⟨_, _, _, _, rfl, by decide, named, fun _ _ => trivial⟩
    all_goals cases h
  | analog brick comparison threshold =>
    obtain ⟨category, _, h⟩ := bind_eq_ok.mp h
    cases category
    case analogSensor | temperatureSensor =>
      obtain ⟨pin, _, h⟩ := bind_eq_ok.mp h
      cases h
      exact .inl ⟨_, _, _, _, rfl, by decide, isNumber_threshold threshold,
        fun _ _ => trivial⟩
    all_goals cases h
  | serial brick message =>
    obtain ⟨category, _, h⟩ := bind_eq_ok.mp h
    cases category
    case serialLine =>
      cases h
      exact .inr ⟨message, rfl⟩
    all_goals cases h

/-- The test of a condition is legible next to connectives. -/
lemma legible_condition {condition test} (h : plan.condition condition = .ok test) :
    test.Spelled ∧ test.Fits 5 5 := by
  obtain ⟨comparison, function, pin, limit, rfl, word, spelled, fits⟩ | ⟨message, rfl⟩ :=
    condition_cases h
  · have low : 5 ≤ level (.comparison comparison) := by cases comparison <;> decide
    exact ⟨⟨⟨word, isWord_pin pin⟩, spelled⟩, low, low, trivial, fits _ _⟩
  · have word : IsWord "serialInput" := by decide
    exact ⟨⟨word, trivial⟩, by decide, by decide, trivial, trivial⟩

/-- The test of a guard is legible next to connectives. -/
lemma legible_lower {guard test} (h : plan.lower guard = .ok test) :
    test.Spelled ∧ test.Fits 5 5 := by
  induction guard generalizing test with
  | condition condition => exact legible_condition h
  | binary left connective right ihl ihr =>
    obtain ⟨testl, lowered, h⟩ := bind_eq_ok.mp h
    obtain ⟨spelledl, fitsl⟩ := ihl lowered
    obtain ⟨testr, lowered, h⟩ := bind_eq_ok.mp h
    obtain ⟨spelledr, fitsr⟩ := ihr lowered
    cases h
    -- the parts stand next to a connective, and the whole between the parentheses it is put in
    have high : level (.connective connective) ≤ 4 := by cases connective <;> decide
    refine ⟨⟨spelledl, spelledr⟩, Nat.zero_le _, Nat.zero_le _, ?_, ?_⟩
    · exact fitsl.mono (Nat.zero_le 5) (by omega)
    · exact fitsr.mono (by omega) (Nat.zero_le 5)

/-- The clauses of sensors can stand behind a test that can stand before a connective. -/
lemma fits_clauses {sensors : List Identifier} {test : Expr} (fits : test.Fits 0 4) :
    Expr.Fits 0 4
      (sensors.foldl (fun test sensor => .conjoin test (.group (debounceTest sensor))) test) := by
  induction sensors generalizing test with
  | nil => exact fits
  | cons sensor sensors ih =>
    have clause : (debounceTest sensor).Fits 0 0 :=
      ⟨Nat.zero_le _, Nat.zero_le _, ⟨Nat.zero_le _, by decide, trivial, trivial⟩, trivial⟩
    exact ih ⟨Nat.zero_le _, le_refl 4, fits, clause⟩

lemma spelled_clauses {sensors : List Identifier} (valid : ∀ sensor ∈ sensors, sensor.IsValid)
    {test : Expr} (spelled : test.Spelled) :
    Expr.Spelled
      (sensors.foldl (fun test sensor => .conjoin test (.group (debounceTest sensor))) test) := by
  induction sensors generalizing test with
  | nil => exact spelled
  | cons sensor sensors ih =>
    have later := fun other mem => valid other (List.mem_cons_of_mem sensor mem)
    have stamp := isWord_debounceVariable (valid sensor List.mem_cons_self)
    have millis : IsWord "millis" := by decide
    have debounce : IsWord "debounce" := by decide
    exact ih later ⟨spelled, ⟨millis, stamp⟩, debounce⟩

/-- The clauses of sensors with valid names can be put behind a legible test. -/
lemma legible_clauses {sensors : List Identifier} (valid : ∀ sensor ∈ sensors, sensor.IsValid)
    {test : Expr} (spelled : test.Spelled) (fits : test.Fits 0 4) :
    Expr.Readable
      (sensors.foldl (fun test sensor => .conjoin test (.group (debounceTest sensor))) test) :=
  ⟨spelled_clauses valid spelled, (fits_clauses fits).mono (le_refl 0) (Nat.zero_le 4)⟩

lemma isDigitalSensor_of_debounced {guard sensor} (mem : sensor ∈ plan.debounced guard) :
    plan.isDigitalSensor sensor = true := by
  induction guard with
  | condition condition =>
    cases condition with
    | digital brick level =>
      rw [debounced] at mem
      split at mem
      case isTrue known =>
        cases List.mem_singleton.mp mem
        exact known
      case isFalse => cases mem
    | _ => cases mem
  | binary left connective right ihl ihr =>
    rcases List.mem_append.mp mem with mem | mem
    · exact ihl mem
    · exact ihr (List.mem_of_mem_filter mem)

/-- The category of a name is that of a brick with the name. -/
lemma brick_of_category {name category} (h : plan.category name = .ok category) :
    ∃ brick ∈ plan.program.app.bricks, brick.name = name ∧ brick.category = category := by
  rw [Plan.category] at h
  cases found : plan.program.app.brick name with
  | error error =>
    rw [found] at h
    cases h
  | ok brick =>
    rw [found] at h
    cases h
    obtain ⟨mem, named⟩ := App.mem_of_brick found
    exact ⟨brick, mem, named, rfl⟩

lemma brick_of_isDigitalSensor {sensor} (known : plan.isDigitalSensor sensor = true) :
    ∃ brick ∈ plan.program.app.bricks, brick.name = sensor ∧ brick.category = .digitalSensor := by
  rw [isDigitalSensor] at known
  split at known
  case h_1 found =>
    cases of_decide_eq_true known
    exact brick_of_category found
  case h_2 => cases known

/-! ## Actions -/

lemma legible_reading {function : String} (word : IsWord function) (pin : Pin) :
    (Expr.apply function (.pin pin)).Readable :=
  ⟨⟨word, isWord_pin pin⟩, trivial⟩

lemma legible_choice (pin : Pin) (level : Level) (yes no : String) :
    (Expr.choice (digitalTest pin level) (.text yes) (.text no)).Readable := by
  have read : IsWord "digitalRead" := by decide
  have named : IsWord level.name := by cases level <;> decide
  refine ⟨⟨⟨⟨read, isWord_pin pin⟩, named⟩, trivial, trivial⟩, ?_⟩
  exact ⟨by decide, by decide, ⟨by decide, by decide, trivial, trivial⟩, trivial, trivial⟩

lemma legible_status {brick value} (h : plan.status brick = .ok value) : value.Readable := by
  obtain ⟨category, _, h⟩ := bind_eq_ok.mp h
  cases category
  case digitalSensor | digitalActuator | buzzer =>
    obtain ⟨pin, _, h⟩ := bind_eq_ok.mp h
    cases h
    exact legible_choice pin .high _ _
  case analogSensor | temperatureSensor =>
    obtain ⟨pin, _, h⟩ := bind_eq_ok.mp h
    cases h
    exact legible_reading (by decide) pin
  all_goals cases h

lemma legible_segment {segment value} (h : plan.segment segment = .ok value) : value.Readable := by
  cases segment with
  | text content =>
    cases h
    exact ⟨trivial, trivial⟩
  | status brick => exact legible_status h

/-- The value of an analog actuator is legible, also behind a comma. -/
lemma legible_analogValue {value expr} (h : plan.analogValue value = .ok expr) :
    expr.Spelled ∧ expr.Fits 1 0 := by
  cases value with
  | literal value =>
    cases h
    exact ⟨.inl (isWord_decimal _), trivial⟩
  | sensor brick =>
    obtain ⟨pin, _, h⟩ := bind_eq_ok.mp h
    cases h
    exact ⟨⟨by decide, isWord_pin pin⟩, trivial⟩

/-- A legible call as a step. -/
def IsCall (step : Step) : Prop :=
  ∃ call : Expr, step = .run call ∧ call.Readable ∧ Invokes call

lemma isCall_apply {function : String} {argument : Expr} (word : IsWord function)
    (free : function ∉ keywords) (readable : argument.Readable) :
    IsCall (.run (.apply function argument)) :=
  ⟨_, rfl, ⟨⟨word, readable.spelled⟩, readable.fits⟩, free⟩

lemma legible_pinned (pin : Pin) {rest : Expr} (legible : rest.Spelled ∧ rest.Fits 1 0) :
    (Expr.both (.pin pin) rest).Readable :=
  ⟨⟨isWord_pin pin, legible.1⟩, by decide, by decide, trivial, legible.2⟩

/-- The steps of an action are legible calls. -/
lemma legible_action {action steps} (h : plan.action action = .ok steps) :
    ∀ step ∈ steps, IsCall step := by
  cases action with
  | digitalWrite actuator level =>
    obtain ⟨pin, _, h⟩ := bind_eq_ok.mp h
    cases h
    have named : IsWord level.name := by cases level <;> decide
    rw [List.forall_mem_singleton]
    exact isCall_apply (by decide) (by decide) (legible_pinned pin ⟨named, trivial⟩)
  | analogWrite actuator value =>
    obtain ⟨pin, _, h⟩ := bind_eq_ok.mp h
    obtain ⟨expr, valued, h⟩ := bind_eq_ok.mp h
    cases h
    rw [List.forall_mem_singleton]
    exact isCall_apply (by decide) (by decide) (legible_pinned pin (legible_analogValue valued))
  | serialPrint serial message =>
    cases h
    rw [List.forall_mem_singleton]
    exact isCall_apply (by decide) (by decide) ⟨trivial, trivial⟩
  | lcdUpdate display segments =>
    obtain ⟨pieces, read, h⟩ := bind_eq_ok.mp h
    cases h
    have clear : IsCall (.run (.call "lcd.clear")) := by
      have word : IsWord "lcd.clear" := by decide
      have free : "lcd.clear" ∉ keywords := by decide
      exact ⟨_, rfl, ⟨word, trivial⟩, free⟩
    have cursor : IsCall (.run (.apply "lcd.setCursor" (.both (.natural 0) (.natural 0)))) := by
      have zero : (Expr.natural 0).Spelled := .inl (isWord_decimal 0)
      exact isCall_apply (by decide) (by decide)
        ⟨⟨zero, zero⟩, by decide, by decide, trivial, trivial⟩
    simp only [List.forall_mem_append, List.forall_mem_cons, List.forall_mem_map]
    refine ⟨⟨clear, cursor, nofun⟩, ?_⟩
    intro piece mem
    obtain ⟨segment, _, eq⟩ := mem_of_mapM read mem
    exact isCall_apply (by decide) (by decide) (legible_segment eq)
  | tone buzzer pitch duration =>
    obtain ⟨pin, _, h⟩ := bind_eq_ok.mp h
    obtain ⟨hertz, _, h⟩ := bind_eq_ok.mp h
    cases h
    have natural (n : Nat) : (Expr.natural n).Spelled := .inl (isWord_decimal n)
    rw [List.forall_mem_singleton]
    refine isCall_apply (by decide) (by decide) (legible_pinned pin ?_)
    cases duration with
    | none => exact ⟨natural hertz, trivial⟩
    | some duration =>
      exact ⟨⟨natural hertz, natural _⟩, by decide, by decide, trivial, trivial⟩
  | silence buzzer =>
    obtain ⟨pin, _, h⟩ := bind_eq_ok.mp h
    cases h
    rw [List.forall_mem_singleton]
    exact isCall_apply (by decide) (by decide) ⟨isWord_pin pin, trivial⟩

end Plan

/-! ## Cases -/

/-- A machine whose names are valid. -/
structure Automaton.Named (automaton : Automaton) : Prop where
  machine : ∀ name ∈ automaton.name, name.IsValid
  states : ∀ state ∈ automaton.states, state.name.IsValid

/-- A word with the name of a machine behind it is a word. -/
lemma Automaton.Named.isWord {automaton : Automaton} (named : automaton.Named) {front : String}
    (word : IsWord front) : IsWord (front ++ automaton.suffix) := by
  apply isWord_append word
  rw [Automaton.suffix]
  split
  case h_1 => nofun
  case h_2 name eq =>
    have valid := named.machine name eq
    exact (isWord_append (by decide) (isWord_identifier valid).2).2

/-- A text with a part that is longer than a keyword is not the keyword. -/
lemma append_ne_keyword {front back keyword : String}
    (long : keyword.length < front.length ∨ keyword.length < back.length) :
    front ++ back ≠ keyword := by
  rintro rfl
  rw [String.length_append] at long
  omega

namespace Plan

variable {plan : Plan} {automaton : Automaton}

/-- A transition becomes a branch with the test of its guard and the steps that make it fire. -/
lemma transition_ok {transition branch} (h : plan.transition automaton transition = .ok branch) :
    ∃ test, plan.lower transition.guard = .ok test ∧ branch =
      ((plan.debounced transition.guard).foldl
          (fun test sensor => .conjoin test (.group (debounceTest sensor))) test,
        (plan.debounced transition.guard).map
            (fun sensor => .set (debounceVariable sensor) (.call "millis"))
          ++ (if transition.guard.conditions.any Condition.readsSerial then
              [.set "serialInput" (.text "")] else [])
          ++ [.set automaton.current (.name (automaton.constant transition.next)),
              .set automaton.changed (.name "true")]) := by
  obtain ⟨guard, tested, h⟩ := bind_eq_ok.mp h
  obtain ⟨test, lowered, tested⟩ := bind_eq_ok.mp tested
  cases tested
  cases h
  exact ⟨test, lowered, rfl⟩

/-- A state becomes a case with the steps of its actions and the branches of its transitions. -/
lemma state_ok {state case} (h : plan.state automaton state = .ok case) :
    ∃ actions branches, state.actions.mapM plan.action = .ok actions ∧
      state.transitions.mapM (plan.transition automaton) = .ok branches ∧
      case = (automaton.constant state.name,
        [.chain [(.name automaton.changed,
            .set automaton.changed (.name "false") :: actions.flatten)],
          .chain branches, .one .leave]) := by
  obtain ⟨actions, acts, h⟩ := bind_eq_ok.mp h
  obtain ⟨branches, leads, h⟩ := bind_eq_ok.mp h
  cases h
  exact ⟨actions, branches, acts, leads, rfl⟩

/-- The branch of a transition between valid names is legible. -/
lemma legible_transition {transition branch} (named : automaton.Named)
    (sensors : ∀ brick ∈ plan.program.app.bricks, brick.name.IsValid)
    (next : transition.next.IsValid) (h : plan.transition automaton transition = .ok branch) :
    ReadableBranch branch := by
  obtain ⟨test, lowered, rfl⟩ := transition_ok h
  have valid : ∀ sensor ∈ plan.debounced transition.guard, sensor.IsValid := by
    intro sensor mem
    obtain ⟨brick, known, rfl, _⟩ := brick_of_isDigitalSensor (isDigitalSensor_of_debounced mem)
    exact sensors brick known
  obtain ⟨spelled, fits⟩ := legible_lower lowered
  refine ⟨legible_clauses valid spelled (fits.mono (by decide) (by decide)), ?_⟩
  simp only [List.forall_mem_append, List.forall_mem_cons, List.forall_mem_map]
  refine ⟨⟨?_, ?_⟩, ?_, ?_, nofun⟩
  · intro sensor mem
    have millis : IsWord "millis" := by decide
    exact ⟨isWord_debounceVariable (valid sensor mem), append_ne_keyword (.inr (by decide)),
      millis, trivial⟩
  · split
    · rw [List.forall_mem_singleton]
      exact ⟨by decide, by decide, trivial, trivial⟩
    · nofun
  · exact ⟨named.isWord (by decide), append_ne_keyword (.inl (by decide)),
      named.isWord (isWord_identifier next), trivial⟩
  · have value : IsWord "true" := by decide
    exact ⟨named.isWord (by decide), append_ne_keyword (.inl (by decide)), value, trivial⟩

/-- The case of a state is legible, if all names are valid. -/
lemma legible_state {state case} (named : automaton.Named)
    (sensors : ∀ brick ∈ plan.program.app.bricks, brick.name.IsValid) (valid : state.name.IsValid)
    (targets : ∀ transition ∈ state.transitions, transition.next.IsValid)
    (h : plan.state automaton state = .ok case) : ReadableCase case := by
  obtain ⟨actions, branches, acts, leads, rfl⟩ := state_ok h
  have changed : IsWord automaton.changed := named.isWord (by decide)
  have value : IsWord "false" := by decide
  -- what is done on entry: the flag is cleared, and then there are calls only
  have entry : ∀ step ∈ Step.set automaton.changed (.name "false") :: actions.flatten,
      ReadableStep step := by
    rw [List.forall_mem_cons]
    refine ⟨⟨changed, append_ne_keyword (.inl (by decide)), value, trivial⟩, ?_⟩
    intro step mem
    obtain ⟨steps, among, mem⟩ := List.mem_flatten.mp mem
    obtain ⟨action, _, eq⟩ := mem_of_mapM acts among
    obtain ⟨call, rfl, readable⟩ := legible_action eq step mem
    exact readable
  refine ⟨named.isWord (isWord_identifier valid), ?_⟩
  simp only [List.forall_mem_cons]
  refine ⟨?_, ?_, trivial, nofun⟩
  · rw [ReadableNest, List.forall_mem_singleton]
    exact ⟨⟨changed, trivial⟩, entry⟩
  · intro branch mem
    obtain ⟨transition, among, eq⟩ := mem_of_mapM leads mem
    exact legible_transition named sensors (targets transition among) eq

/-- The cases of a machine with valid names are legible, if its demands are met. -/
lemma legible_cases {cases} (named : automaton.Named)
    (sensors : ∀ brick ∈ plan.program.app.bricks, brick.name.IsValid)
    (met : ∀ demand ∈ automaton.demands, demand.Met plan.program.app automaton)
    (h : automaton.states.mapM (plan.state automaton) = .ok cases) :
    ∀ case ∈ cases, ReadableCase case := by
  intro case among
  obtain ⟨state, within, made⟩ := mem_of_mapM h among
  refine legible_state named sensors (named.states state within) ?_ made
  -- a target is the name of a state, and so it is valid as well
  intro transition leads
  have own : .state transition.next ∈ transition.demands :=
    List.mem_append_right _ (List.mem_singleton_self _)
  obtain ⟨target, known, same⟩ := met _ (Automaton.mem_demands within leads own)
  exact same ▸ named.states target known

end Plan

end Brickwork
