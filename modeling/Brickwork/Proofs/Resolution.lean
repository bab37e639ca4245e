import Brickwork.Program
import Brickwork.Proofs.Lists

/-!
# Resolution

What is known of a program once an app has been resolved to it: names are distinct, and every demand
of every machine is met by a part of the app.
-/

namespace Brickwork

/-- A list has no repeats exactly if its entries are distinct and none was seen before. -/
lemma repeats_eq_nil {α : Type} [DecidableEq α] {seen l : List α} :
    repeats seen l = [] ↔ l.Nodup ∧ ∀ a ∈ l, a ∉ seen := by
  induction l generalizing seen with
  | nil => simp [repeats]
  | cons a l ih =>
    rw [repeats]
    split
    case isTrue old => simp [old]
    case isFalse new =>
      rw [ih, List.nodup_cons, List.forall_mem_cons]
      simp only [List.mem_cons, not_or]
      constructor
      · rintro ⟨nodup, fresh⟩
        exact ⟨⟨fun mem => (fresh a mem).1 rfl, nodup⟩, new, fun b mem => (fresh b mem).2⟩
      · rintro ⟨⟨notMem, nodup⟩, _, fresh⟩
        exact ⟨nodup, fun b mem => ⟨fun eq => notMem (eq ▸ mem), fresh b mem⟩⟩

lemma Identifier.eq_of_text {a b : Identifier} (same : a.text = b.text) : a = b := by
  cases a
  cases b
  cases same
  rfl

lemma Automaton.constant_inj {automaton : Automaton} {a b : Identifier} :
    automaton.constant a = automaton.constant b ↔ a = b := by
  constructor
  · intro h
    exact Identifier.eq_of_text ((String.append_left_inj _).mp h)
  · rintro rfl
    rfl

/-- State names have no errors exactly if they are distinct and none was seen before, and if the
constants of a machine with a name were not seen before either. -/
lemma Automaton.nameErrors_eq_nil {automaton : Automaton} {seen constants states} :
    automaton.nameErrors seen constants states = [] ↔
      (states.map State.name).Nodup ∧ (∀ state ∈ states, state.name ∉ seen) ∧
        (automaton.name ≠ none → ∀ state ∈ states, automaton.constant state.name ∉ constants) := by
  induction states generalizing seen constants with
  | nil => exact iff_of_true rfl ⟨List.nodup_nil, nofun, fun _ => nofun⟩
  | cons state states ih =>
    -- the name is not repeated exactly if the others are checked with it seen
    have names : (state.name ∉ states.map State.name ∧ ∀ other ∈ states, other.name ∉ seen) ↔
        ∀ other ∈ states, other.name ∉ state.name :: seen := by
      simp only [List.mem_map, List.mem_cons, not_exists, not_and, not_or]
      constructor
      · rintro ⟨own, fresh⟩ other mem
        exact ⟨own other mem, fresh other mem⟩
      · intro fresh
        exact ⟨fun other mem => (fresh other mem).1, fun other mem => (fresh other mem).2⟩
    rw [nameErrors, List.map_cons, List.nodup_cons, List.forall_mem_cons, List.forall_mem_cons]
    split
    case isTrue old => simp [old]
    case isFalse new =>
      split
      case isTrue anonymous =>
        have anonymous := Option.isNone_iff_eq_none.mp anonymous
        rw [ih, ← names]
        simp only [anonymous, ne_eq, not_true_eq_false, false_implies, and_true]
        tauto
      case isFalse named =>
        have named : automaton.name ≠ none := fun eq => named (Option.isNone_iff_eq_none.mpr eq)
        dsimp only
        split
        case isTrue taken => simp [named, taken]
        case isFalse free =>
          rw [ih, ← names]
          -- a constant that is new here can only be met again under the same name
          have later : (∀ other ∈ states, other.name ≠ state.name) →
              ((∀ other ∈ states,
                  automaton.constant other.name ∉ automaton.constant state.name :: constants) ↔
                ∀ other ∈ states, automaton.constant other.name ∉ constants) := by
            intro distinct
            simp only [List.mem_cons, constant_inj, not_or]
            constructor
            · exact fun fresh other mem => (fresh other mem).2
            · exact fun fresh other mem => ⟨distinct other mem, fresh other mem⟩
          have distinct : state.name ∉ states.map State.name →
              ∀ other ∈ states, other.name ≠ state.name :=
            fun own other mem eq => own (eq ▸ List.mem_map_of_mem mem)
          simp only [named, ne_eq, not_false_eq_true, true_implies]
          tauto

lemma App.mem_of_brick {app : App} {name brick} (h : app.brick name = .ok brick) :
    brick ∈ app.bricks ∧ brick.name = name := by
  rw [App.brick] at h
  split at h
  case h_1 found =>
    cases h
    have mem := List.mem_reverse.mp (List.mem_of_find?_eq_some found)
    exact ⟨mem, by simpa using List.find?_some found⟩
  case h_2 => cases h

/-! ## Demands -/

/-- Whether an app meets a demand of one of its machines. -/
def Demand.Met (app : App) (automaton : Automaton) : Demand → Prop
  | .brick name role =>
    ∃ brick ∈ app.bricks, brick.name = name ∧ role.admits brick.category = true
  | .note name => ∃ hertz, Note.frequency? name = some hertz
  | .state name => ∃ state ∈ automaton.states, state.name = name

lemma App.met_of_unmet_eq_none {app : App} {automaton demand}
    (h : app.unmet automaton demand = none) : demand.Met app automaton := by
  cases demand with
  | brick name role =>
    rw [unmet] at h
    split at h
    case h_1 brick found =>
      obtain ⟨mem, named⟩ := mem_of_brick found
      split at h
      case isTrue admitted => exact ⟨brick, mem, named, admitted⟩
      case isFalse => cases h
    case h_2 => cases h
  | note name =>
    rw [unmet] at h
    split at h
    case isTrue known =>
      obtain ⟨note, eq⟩ := Option.isSome_iff_exists.mp known
      exact ⟨_, by rw [Note.frequency?, eq, Option.map_some]⟩
    case isFalse => cases h
  | state name =>
    rw [unmet] at h
    split at h
    case isTrue known =>
      obtain ⟨state, found⟩ := Option.isSome_iff_exists.mp known
      exact ⟨state, List.mem_of_find?_eq_some found, by simpa using List.find?_some found⟩
    case isFalse => cases h

lemma App.brick_name {app : App} (nodup : (app.bricks.map Brick.name).Nodup) {brick}
    (mem : brick ∈ app.bricks) : app.brick brick.name = .ok brick := by
  rw [App.brick, find?_key_reverse nodup, find?_key nodup mem]

/-- What a transition demands is demanded by its machine. -/
lemma Automaton.mem_demands {automaton : Automaton} {state transition demand}
    (within : state ∈ automaton.states) (leads : transition ∈ state.transitions)
    (own : demand ∈ transition.demands) : demand ∈ automaton.demands := by
  have among : demand ∈ state.demands :=
    List.mem_append_right _ (List.mem_flatMap.mpr ⟨transition, leads, own⟩)
  exact List.mem_cons_of_mem _ (List.mem_flatMap.mpr ⟨state, within, among⟩)

/-! ## Programs -/

/-- An app with a machine of its own has just that one, without a name. -/
lemma App.automaton_of_single {app : App} {automata} (h : app.automata .single = .ok automata) :
    ∃ automaton, automata = [automaton] ∧ automaton.name = none ∧
      automaton.states = app.states := by
  rw [App.automata] at h
  split at h
  · cases h
    exact ⟨_, rfl, rfl, rfl⟩
  · cases h

/-- What is known of the program that an app is resolved to. -/
structure App.Resolved (app : App) (program : Program) : Prop where
  app_eq : program.app = app
  automata : app.automata program.mode = .ok program.automata
  bricks : (app.bricks.map Brick.name).Nodup
  states : ∀ automaton ∈ program.automata, (automaton.states.map State.name).Nodup
  demands : ∀ automaton ∈ program.automata, ∀ demand ∈ automaton.demands, demand.Met app automaton

/-- The machines of a list have no errors exactly if the first has none and those behind it have
none once its names were seen. -/
lemma App.automataErrors_cons {app : App} {names constants automaton automata} :
    app.automataErrors names constants (automaton :: automata) = [] ↔
      automaton.ownNameErrors names = [] ∧ automaton.nameErrors [] constants automaton.states = [] ∧
        (∀ demand ∈ automaton.demands, app.unmet automaton demand = none) ∧
        app.automataErrors (automaton.name.toList ++ names)
          (automaton.constants ++ constants) automata = [] := by
  rw [automataErrors, List.append_eq_nil_iff, List.append_eq_nil_iff, List.append_eq_nil_iff,
    List.filterMap_eq_nil_iff, and_assoc, and_assoc]

/-- Machines without errors have distinct state names, and their demands are met. -/
lemma App.sound_of_automataErrors {app : App} {names constants automata}
    (clean : app.automataErrors names constants automata = []) :
    ∀ automaton ∈ automata, (automaton.states.map State.name).Nodup ∧
      ∀ demand ∈ automaton.demands, demand.Met app automaton := by
  induction automata generalizing names constants with
  | nil => nofun
  | cons automaton automata ih =>
    obtain ⟨_, named, met, later⟩ := automataErrors_cons.mp clean
    intro other mem
    cases mem with
    | head =>
      refine ⟨(Automaton.nameErrors_eq_nil.mp named).1, ?_⟩
      intro demand mem
      exact met_of_unmet_eq_none (met demand mem)
    | tail _ mem => exact ih later other mem

/-- An app is resolved exactly if it has a mode and machines and there are no errors, and the
program holds what was found. -/
lemma App.resolve_eq_ok {app : App} {program} :
    app.resolve = .ok program ↔ ∃ mode automata, app.mode = .ok mode ∧
      app.automata mode = .ok automata ∧ app.errors automata = [] ∧
        program = ⟨app, mode, automata, app.peripherals automata⟩ := by
  unfold resolve
  constructor
  · intro h
    split at h
    case h_1 => cases h
    case h_2 mode moded =>
      split at h
      case h_1 => cases h
      case h_2 automata listed =>
        split at h
        case h_1 clean =>
          cases h
          exact ⟨mode, automata, moded, listed, clean, rfl⟩
        case h_2 => cases h
  · rintro ⟨mode, automata, moded, listed, clean, rfl⟩
    simp only [moded, listed, clean]

/-- Resolution gives a program of which all of this is known. -/
lemma App.resolved_of_resolve {app : App} {program} (h : app.resolve = .ok program) :
    app.Resolved program := by
  obtain ⟨mode, automata, _, listed, clean, rfl⟩ := resolve_eq_ok.mp h
  rw [App.errors, List.append_eq_nil_iff, List.append_eq_nil_iff] at clean
  obtain ⟨⟨bricks, _⟩, machines⟩ := clean
  have sound := sound_of_automataErrors machines
  exact {
    app_eq := rfl
    automata := listed
    bricks := (repeats_eq_nil.mp (List.map_eq_nil_iff.mp bricks)).1
    states := fun automaton mem => (sound automaton mem).1
    demands := fun automaton mem => (sound automaton mem).2 }

end Brickwork
