import Brickwork.Document.Load
import Brickwork.Proofs.Document.Yields
import Brickwork.Proofs.Lists

/-!
# Names in loaded models

Every name in an app that was loaded from a document is spelled as an identifier: a letter or `_`,
and then letters, digits and `_`. This holds at each place where a model has a name, so that all of
them can stand in generated code as they are.
-/

namespace Brickwork

/-! ## The names of a model -/

def Guard.identifiers (guard : Guard) : List Identifier :=
  guard.conditions.map Condition.brick

def AnalogValue.identifiers : AnalogValue → List Identifier
  | literal _ => []
  | sensor brick => [brick]

def Segment.identifiers : Segment → List Identifier
  | text _ => []
  | status brick => [brick]

def Action.identifiers : Action → List Identifier
  | digitalWrite actuator _ => [actuator]
  | analogWrite actuator value => actuator :: value.identifiers
  | serialPrint serial _ => [serial]
  | lcdUpdate display segments => display :: segments.flatMap Segment.identifiers
  | tone buzzer _ _ => [buzzer]
  | silence buzzer => [buzzer]

def Transition.identifiers (transition : Transition) : List Identifier :=
  transition.next :: transition.guard.identifiers

def State.identifiers (state : State) : List Identifier :=
  state.name :: (state.actions.flatMap Action.identifiers
    ++ state.transitions.flatMap Transition.identifiers)

def Machine.identifiers (machine : Machine) : List Identifier :=
  machine.name :: machine.initial :: machine.states.flatMap State.identifiers

/-- All names that occur in an app, at any place; its own name is not one of them. -/
def App.identifiers (app : App) : List Identifier :=
  app.bricks.map Brick.name ++ app.initial.toList ++ app.states.flatMap State.identifiers
    ++ app.machines.flatMap Machine.identifiers

namespace Document.Reader

variable {room : Nat}

lemma valid_of_identifier {name : Identifier} (h : Yields identifier name) : name.IsValid := by
  obtain ⟨text, h⟩ := yields_checkedString h
  rw [Identifier.parse] at h
  split at h
  · cases h
    assumption
  · cases h

/-- A field for one name holds a valid name. -/
lemma valid_of_named {key : String} {name : Identifier}
    (h : Field.Yields { key, read := identifier } name) : name.IsValid :=
  valid_of_identifier (h.of_required rfl)

/-- So does a record that starts with such a field. -/
lemma valid_of_record {αs : List Type} {expected key : String} {fields : Fields αs}
    {name : Identifier} {values : Values αs}
    (h : Yields (record expected room (.cons { key, read := identifier } fields)) (name, values)) :
    name.IsValid :=
  valid_of_named (yield_of_record h).1

lemma valid_of_brick {brick : Brick} (h : Yields (Reader.brick room) brick) :
    brick.name.IsValid := by
  obtain ⟨next, _, h⟩ := yields_bind (yields_located h)
  split at h
  · exact absurd h not_yields_badFormat
  · obtain ⟨_, _, h⟩ := yields_bind h
    obtain ⟨⟨slots, members⟩, read, h⟩ := yields_bind (yields_closedBy h)
    obtain ⟨⟨name, pin, _⟩, values, h⟩ := yields_bind h
    obtain ⟨category, _, h⟩ := yields_bind h
    cases eq_of_yields_pure h
    obtain ⟨named, _⟩ := yield_of_completed (fill_of_slots read) values
    exact valid_of_named named
  · exact absurd h not_yields_mismatch

lemma valid_of_condition {condition : Condition} (h : Yields (Reader.condition room) condition) :
    condition.brick.IsValid := by
  obtain ⟨payload, mem, h⟩ := yields_tagged h
  simp only [List.map, List.mem_cons, List.not_mem_nil, or_false] at mem
  obtain rfl | rfl | rfl := mem
  · obtain ⟨⟨brick, level, _⟩, values, h⟩ := yields_bind h
    cases eq_of_yields_pure h
    exact valid_of_record values
  · obtain ⟨⟨brick, comparison, threshold, _⟩, values, h⟩ := yields_bind h
    cases eq_of_yields_pure h
    exact valid_of_record values
  · obtain ⟨⟨brick, message, _⟩, values, h⟩ := yields_bind h
    cases eq_of_yields_pure h
    exact valid_of_record values

lemma spelled_guardNode {side : Reader Guard} {guard : Guard}
    (sides : ∀ guard, side.Yields guard → ∀ name ∈ guard.identifiers, name.IsValid)
    (h : Yields (guardNode room side) guard) : ∀ name ∈ guard.identifiers, name.IsValid := by
  obtain ⟨payload, mem, h⟩ := yields_tagged h
  simp only [List.map, List.mem_cons, List.not_mem_nil, or_false] at mem
  obtain rfl | rfl := mem
  · obtain ⟨condition, given, h⟩ := yields_bind h
    cases eq_of_yields_pure h
    exact List.forall_mem_singleton.mpr (valid_of_condition given)
  · obtain ⟨⟨left, connective, right, _⟩, values, h⟩ := yields_bind h
    cases eq_of_yields_pure h
    obtain ⟨left, _, right, _⟩ := yield_of_record values
    rw [Guard.identifiers, Guard.conditions, List.map_append]
    exact List.forall_mem_append.mpr
      ⟨sides _ (left.of_required rfl), sides _ (right.of_required rfl)⟩

lemma spelled_guard {guard : Guard} (h : Yields (Reader.guard room) guard) :
    ∀ name ∈ guard.identifiers, name.IsValid := by
  induction room using Reader.guard.induct generalizing guard with
  | case1 => exact spelled_guardNode (fun _ side => absurd side not_yields_badFormat) h
  | case2 => exact spelled_guardNode (fun _ side => absurd side not_yields_badFormat) h
  | case3 room ih => exact spelled_guardNode (fun _ side => ih side) h

lemma spelled_analogValue {value : AnalogValue} (h : Yields (analogValue room) value) :
    ∀ name ∈ value.identifiers, name.IsValid := by
  obtain ⟨payload, mem, h⟩ := yields_tagged h
  simp only [List.map, List.mem_cons, List.not_mem_nil, or_false] at mem
  obtain rfl | rfl := mem
  · obtain ⟨byte, _, h⟩ := yields_bind h
    cases eq_of_yields_pure h
    exact List.forall_mem_nil _
  · obtain ⟨sensor, given, h⟩ := yields_bind h
    cases eq_of_yields_pure h
    exact List.forall_mem_singleton.mpr (valid_of_identifier given)

lemma spelled_segment {segment : Segment} (h : Yields (Reader.segment room) segment) :
    ∀ name ∈ segment.identifiers, name.IsValid := by
  obtain ⟨payload, mem, h⟩ := yields_tagged h
  simp only [List.map, List.mem_cons, List.not_mem_nil, or_false] at mem
  obtain rfl | rfl := mem
  · obtain ⟨text, _, h⟩ := yields_bind h
    cases eq_of_yields_pure h
    exact List.forall_mem_nil _
  · obtain ⟨brick, given, h⟩ := yields_bind h
    cases eq_of_yields_pure h
    exact List.forall_mem_singleton.mpr (valid_of_identifier given)

lemma spelled_action {action : Action} (h : Yields (Reader.action room) action) :
    ∀ name ∈ action.identifiers, name.IsValid := by
  obtain ⟨payload, mem, h⟩ := yields_tagged h
  simp only [List.map, List.mem_cons, List.not_mem_nil, or_false] at mem
  obtain rfl | rfl | rfl | rfl | rfl | rfl := mem
  · obtain ⟨⟨actuator, level, _⟩, values, h⟩ := yields_bind h
    cases eq_of_yields_pure h
    exact List.forall_mem_singleton.mpr (valid_of_record values)
  · obtain ⟨⟨actuator, value, _⟩, values, h⟩ := yields_bind h
    cases eq_of_yields_pure h
    obtain ⟨named, value, _⟩ := yield_of_record values
    exact List.forall_mem_cons.mpr
      ⟨valid_of_named named, spelled_analogValue (value.of_required rfl)⟩
  · obtain ⟨⟨serial, message, _⟩, values, h⟩ := yields_bind h
    cases eq_of_yields_pure h
    exact List.forall_mem_singleton.mpr (valid_of_record values)
  · obtain ⟨⟨display, segments, _⟩, values, h⟩ := yields_bind h
    cases eq_of_yields_pure h
    obtain ⟨named, segments, _⟩ := yield_of_record values
    have each := yields_list (segments.of_required rfl)
    exact List.forall_mem_cons.mpr ⟨valid_of_named named,
      List.forall_mem_flatMap.mpr fun segment mem => spelled_segment (each segment mem)⟩
  · obtain ⟨⟨buzzer, pitch, duration, _⟩, values, h⟩ := yields_bind h
    cases eq_of_yields_pure h
    exact List.forall_mem_singleton.mpr (valid_of_record values)
  · obtain ⟨⟨buzzer, _⟩, values, h⟩ := yields_bind h
    cases eq_of_yields_pure h
    exact List.forall_mem_singleton.mpr (valid_of_record values)

lemma spelled_transition {transition : Transition}
    (h : Yields (Reader.transition room) transition) :
    ∀ name ∈ transition.identifiers, name.IsValid := by
  obtain ⟨⟨guard, next, _⟩, values, h⟩ := yields_bind h
  cases eq_of_yields_pure h
  obtain ⟨guarded, named, _⟩ := yield_of_record values
  exact List.forall_mem_cons.mpr ⟨valid_of_named named, spelled_guard (guarded.of_required rfl)⟩

lemma spelled_state {state : State} (h : Yields (Reader.state room) state) :
    ∀ name ∈ state.identifiers, name.IsValid := by
  obtain ⟨⟨name, actions, transitions, _⟩, values, h⟩ := yields_bind h
  cases eq_of_yields_pure h
  obtain ⟨named, acts, leaves, _⟩ := yield_of_record values
  have acts := acts.of_list (by rintro _ ⟨⟩; rfl)
  have leaves := leaves.of_list (by rintro _ ⟨⟩; rfl)
  refine List.forall_mem_cons.mpr ⟨valid_of_named named, List.forall_mem_append.mpr ⟨?_, ?_⟩⟩
  · exact List.forall_mem_flatMap.mpr fun action mem => spelled_action (acts action mem)
  · exact List.forall_mem_flatMap.mpr fun transition mem =>
      spelled_transition (leaves transition mem)

lemma spelled_machine {machine : Machine} (h : Yields (Reader.machine room) machine) :
    ∀ name ∈ machine.identifiers, name.IsValid := by
  obtain ⟨⟨name, initial, states, period, _⟩, values, h⟩ := yields_bind h
  cases eq_of_yields_pure h
  obtain ⟨named, starts, states, _⟩ := yield_of_record values
  have each := yields_list (states.of_required rfl)
  refine List.forall_mem_cons.mpr ⟨valid_of_named named, ?_⟩
  refine List.forall_mem_cons.mpr ⟨valid_of_named starts, ?_⟩
  exact List.forall_mem_flatMap.mpr fun state mem => spelled_state (each state mem)

lemma spelled_app {app : App} (h : Yields (Reader.app room) app) :
    ∀ name ∈ app.identifiers, name.IsValid := by
  obtain ⟨⟨name, bricks, initial, states, machines, _⟩, values, h⟩ := yields_bind h
  cases eq_of_yields_pure h
  obtain ⟨_, bricks, starts, states, machines, _⟩ := yield_of_record values
  have bricks := bricks.of_list (by rintro _ ⟨⟩; rfl)
  have starts := starts.of_optional (by rintro _ ⟨⟩; rfl)
  have states := states.of_list (by rintro _ ⟨⟩; rfl)
  have machines := machines.of_list (by rintro _ ⟨⟩; rfl)
  rw [App.identifiers]
  simp only [List.forall_mem_append, List.forall_mem_flatMap, List.forall_mem_map,
    Option.mem_toList]
  refine ⟨⟨⟨?_, ?_⟩, ?_⟩, ?_⟩
  · exact fun brick mem => valid_of_brick (bricks brick mem)
  · exact fun name mem => valid_of_identifier (starts name mem)
  · exact fun state mem => spelled_state (states state mem)
  · exact fun machine mem => spelled_machine (machines machine mem)

end Document.Reader

namespace Identifier

lemma isFirst_iff {c : Char} :
    isFirst c = true ↔ 'A' ≤ c ∧ c ≤ 'Z' ∨ 'a' ≤ c ∧ c ≤ 'z' ∨ c = '_' := by
  rw [isFirst]
  delta Char.isAlpha Char.isUpper Char.isLower
  simp only [Bool.or_eq_true, Bool.and_eq_true, decide_eq_true_eq, or_assoc]
  exact Iff.rfl

lemma isLater_iff {c : Char} :
    isLater c = true ↔ 'A' ≤ c ∧ c ≤ 'Z' ∨ 'a' ≤ c ∧ c ≤ 'z' ∨ '0' ≤ c ∧ c ≤ '9' ∨ c = '_' := by
  rw [isLater]
  delta Char.isAlphanum Char.isAlpha Char.isUpper Char.isLower Char.isDigit
  simp only [Bool.or_eq_true, Bool.and_eq_true, decide_eq_true_eq, or_assoc]
  exact Iff.rfl

lemma isValid_iff {name : Identifier} :
    name.IsValid ↔ ∃ first rest, name.text.toList = first :: rest ∧
    isFirst first = true ∧ ∀ c ∈ rest, isLater c = true := by
  rw [IsValid]
  cases name.text.toList with
  | nil => exact iff_of_false nofun nofun
  | cons first rest =>
    rw [isSpelling, Bool.and_eq_true, List.all_eq_true]
    constructor
    · exact fun spelled => ⟨first, rest, rfl, spelled⟩
    · rintro ⟨_, _, ⟨⟩, spelled⟩
      exact spelled

end Identifier

open Document

lemma App.load_eq_ok {source : String} {input : Input} {app : App} :
    App.load source input = .ok app ↔ (Reader.app maxRoom).run input = .ok app := by
  rw [App.load, mapError_eq_ok]

lemma App.valid_of_load {source : String} {input : Input} {app : App}
    (loaded : App.load source input = .ok app) : ∀ name ∈ app.identifiers, name.IsValid :=
  Reader.spelled_app (Reader.yields_run (App.load_eq_ok.mp loaded))

/-- Wherever a model that was loaded has a name, the name is not empty, it starts with a letter or
`_`, and all else in it is letters, digits and `_`. -/
theorem load_spells_identifiers {source : String} {input : Input} {app : App}
    (loaded : App.load source input = .ok app) : ∀ name ∈ app.identifiers,
      ∃ first rest, name.text.toList = first :: rest ∧
        ('A' ≤ first ∧ first ≤ 'Z' ∨ 'a' ≤ first ∧ first ≤ 'z' ∨ first = '_') ∧
        ∀ c ∈ rest, 'A' ≤ c ∧ c ≤ 'Z' ∨ 'a' ≤ c ∧ c ≤ 'z' ∨ '0' ≤ c ∧ c ≤ '9' ∨ c = '_' := by
  intro name mem
  have valid := App.valid_of_load loaded name mem
  obtain ⟨first, rest, eq, start, later⟩ := Identifier.isValid_iff.mp valid
  refine ⟨first, rest, eq, Identifier.isFirst_iff.mp start, ?_⟩
  exact fun c mem => Identifier.isLater_iff.mp (later c mem)

namespace Document

/-- A string of a document, for a text without escapes. -/
def quote (text : String) : List UInt8 :=
  0x22 :: Text.encode text ++ [0x22]

def array (elements : List (List UInt8)) : List UInt8 :=
  0x5b :: (elements.intersperse [0x2c]).flatten ++ [0x5d]

def object (members : List (String × List UInt8)) : List UInt8 :=
  let members := members.map fun (key, value) => quote key ++ 0x3a :: value
  0x7b :: (members.intersperse [0x2c]).flatten ++ [0x7d]

end Document

/-- A document that has a name at each place, with objects and lists for records. -/
def porch : List UInt8 :=
  array [quote "porch",
    array [object [("pin", quote "D4"), ("type", quote "digital_sensor"), ("name", quote "_b1")]],
    quote "on",
    array [array [quote "on",
      array [
        object [("lcd_update", array [quote "screen", array [object [("status", quote "_b1")]]])],
        object [("analog_write",
          object [("value", object [("sensor", quote "knob")]), ("actuator", quote "dimmer")])]],
      array [array [
        object [("binary", array [
          object [("condition", object [("serial", array [quote "line", quote "go on"])])],
          quote "or",
          object [("condition", object [("digital", array [quote "_b1", quote "HIGH"])])]])],
        quote "off"]]]],
    array
      [object [("states", array [array [quote "X9"]]), ("initial", quote "X9"),
      ("name", quote "m2")]]]

theorem load_spells_identifiers_porch :
    ∃ app, App.load "porch.json" ⟨porch, .complete⟩ = .ok app ∧
      app.identifiers.map Identifier.text =
        ["_b1", "on", "on", "screen", "_b1", "dimmer", "knob", "off",
        "line", "_b1", "m2", "X9", "X9"] ∧
      ∀ name ∈ app.identifiers, ∃ first rest, name.text.toList = first :: rest ∧
        ('A' ≤ first ∧ first ≤ 'Z' ∨ 'a' ≤ first ∧ first ≤ 'z' ∨ first = '_') ∧
        ∀ c ∈ rest, 'A' ≤ c ∧ c ≤ 'Z' ∨ 'a' ≤ c ∧ c ≤ 'z' ∨ '0' ≤ c ∧ c ≤ '9' ∨ c = '_' := by
  have read : (App.load "porch.json" ⟨porch, .complete⟩).toOption.map
      (fun app => app.identifiers.map Identifier.text) =
        some ["_b1", "on", "on", "screen", "_b1", "dimmer",
        "knob", "off", "line", "_b1", "m2", "X9", "X9"] := by
    decide +kernel
  cases loaded : App.load "porch.json" ⟨porch, .complete⟩ with
  | error fault =>
    rw [loaded] at read
    cases read
  | ok app =>
    rw [loaded] at read
    exact ⟨app, rfl, Option.some.inj read, load_spells_identifiers loaded⟩

end Brickwork
