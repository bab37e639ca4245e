import Brickwork.Proofs.Moments
import Mathlib.Data.List.Induction

/-!
# Sensors of guards

The sensors of a guard whose time is watched are its digital sensors from left to right, each where
it appears first. The text of the guard's test goes on with one clause for each of them, in this
order.
-/

namespace Brickwork

/-! ## First occurrences -/

section Occurrences

variable {α : Type} [DecidableEq α]

/-- Elements can be left out before or after repetitions are. -/
lemma eraseDups_filter (p : α → Bool) (l : List α) :
    (l.filter p).eraseDups = l.eraseDups.filter p := by
  -- the list behind an element is taken without further copies of it, so not the tail itself
  induction length : l.length using Nat.strong_induction_on generalizing l with
  | _ n ih =>
    cases l with
    | nil => rfl
    | cons a l =>
      have shorter : (l.filter fun b => !b == a).length < n := by
        rw [← length, List.length_cons]
        exact Nat.lt_succ_of_le (List.length_filter_le _ l)
      have later := ih _ shorter _ rfl
      rw [List.eraseDups_cons]
      cases kept : p a with
      | true =>
        rw [List.filter_cons_of_pos kept, List.filter_cons_of_pos kept,
          List.eraseDups_cons, ← later, List.filter_filter, List.filter_filter]
        simp only [Bool.and_comm]
      | false =>
        rw [List.filter_cons_of_neg (by simp [kept]),
          List.filter_cons_of_neg (by simp [kept]), ← later, List.filter_filter]
        congr 1
        apply List.filter_congr
        intro b _
        by_cases same : b = a <;> simp [same, kept]

/-- Without repetitions the elements stand in the order in which they appear first. -/
lemma pairwise_eraseDups (l : List α) : l.eraseDups.Pairwise fun a b => l.idxOf a < l.idxOf b := by
  induction l using List.reverseRecOn with
  | nil => exact .nil
  | append_singleton l a ih =>
    have before : l.eraseDups.Pairwise fun b c => (l ++ [a]).idxOf b < (l ++ [a]).idxOf c := by
      apply ih.imp_of_mem
      intro b c memb memc first
      rwa [List.idxOf_append_of_mem (List.mem_eraseDups.mp memb),
        List.idxOf_append_of_mem (List.mem_eraseDups.mp memc)]
    rw [List.eraseDups_append]
    by_cases old : a ∈ l
    · have nothing : [a].removeAll l = [] := by simp [List.removeAll, old]
      rw [nothing, List.eraseDups_nil, List.append_nil]
      exact before
    · have last : [a].removeAll l = [a] := by simp [List.removeAll, old]
      rw [last, List.pairwise_append]
      refine ⟨before, ?_, ?_⟩
      · exact List.pairwise_singleton _ a
      · intro b memb c memc
        have memb := List.mem_eraseDups.mp memb
        obtain rfl := List.mem_singleton.mp (List.mem_eraseDups.mp memc)
        rw [List.idxOf_append_of_mem memb, List.idxOf_append_of_notMem old]
        exact (List.idxOf_lt_length_of_mem memb).trans_le (Nat.le_add_right _ _)

end Occurrences

/-! ## Sensors -/

namespace Plan

variable {plan : Plan}

/-- The sensors of a guard whose time is watched are the digital sensors that it reads, each where
it appears first. -/
lemma debounced_eq_eraseDups (guard : Guard) :
    plan.debounced guard = (guard.sensors plan.isDigitalSensor).eraseDups := by
  induction guard with
  | condition condition =>
    cases condition with
    | digital brick level =>
      show (if plan.isDigitalSensor brick then [brick] else []) =
        ([Condition.digital brick level].filterMap
          (Condition.sensor? plan.isDigitalSensor)).eraseDups
      rw [List.filterMap_cons, Condition.sensor?]
      cases plan.isDigitalSensor brick <;> rfl
    | _ => rfl
  | binary left connective right ihl ihr =>
    have both : (Guard.binary left connective right).sensors plan.isDigitalSensor =
        left.sensors plan.isDigitalSensor ++ right.sensors plan.isDigitalSensor :=
      List.filterMap_append
    rw [both, List.eraseDups_append, debounced, ihl, ihr, List.removeAll, eraseDups_filter]
    simp only [List.mem_eraseDups, List.elem_eq_mem, decide_not]

lemma nodup_debounced (guard : Guard) : (plan.debounced guard).Nodup := by
  rw [debounced_eq_eraseDups]
  apply (pairwise_eraseDups _).imp
  rintro a b first rfl
  exact Nat.lt_irrefl _ first

lemma isDigitalSensor_eq (nodup : (plan.program.app.bricks.map Brick.name).Nodup) :
    plan.isDigitalSensor = plan.program.app.isDigitalSensor := by
  funext name
  rw [Bool.eq_iff_iff, App.isDigitalSensor_iff]
  constructor
  · exact brick_of_isDigitalSensor
  · rintro ⟨brick, mem, rfl, category⟩
    simp only [Plan.isDigitalSensor, Plan.category, App.brick_name nodup mem, Except.map, category,
      decide_true]

/-- The sensors of a guard in a plan are those of the guard in the app. -/
lemma mem_debounced (nodup : (plan.program.app.bricks.map Brick.name).Nodup) {guard : Guard}
    {sensor : Identifier} :
    sensor ∈ plan.debounced guard ↔ sensor ∈ guard.sensors plan.program.app.isDigitalSensor := by
  rw [debounced_eq_eraseDups, List.mem_eraseDups, isDigitalSensor_eq nodup]

end Plan

/-- A guard reads a sensor exactly if one of its conditions does. -/
lemma Guard.mem_sensors {guard : Guard} {isSensor : Identifier → Bool} {sensor : Identifier} :
    sensor ∈ guard.sensors isSensor ↔
      (∃ level, .digital sensor level ∈ guard.conditions) ∧ isSensor sensor = true := by
  rw [Guard.sensors, List.mem_filterMap]
  constructor
  · rintro ⟨condition, mem, eq⟩
    cases condition with
    | digital brick level =>
      obtain ⟨known, eq⟩ := Option.ite_none_right_eq_some.mp eq
      cases eq
      exact ⟨⟨level, mem⟩, known⟩
    | _ => cases eq
  · rintro ⟨⟨level, mem⟩, known⟩
    exact ⟨_, mem, if_pos known⟩

/-! ## Clauses -/

/-- The text of a test with the clauses of sensors behind it. -/
lemma render_clauses (sensors : List Identifier) (test : Code.Expr) :
    (sensors.foldl (fun test sensor => .conjoin test (.group (debounceTest sensor))) test).render =
      test.render ++ String.join (sensors.map fun sensor =>
        " && (millis() - " ++ sensor.text ++ "LastDebounceTime > debounce)") := by
  induction sensors generalizing test with
  | nil => rw [List.foldl_nil, List.map_nil, String.join_nil, String.append_empty]
  | cons sensor sensors ih =>
    have clause : (Code.Expr.conjoin test (.group (debounceTest sensor))).render =
        test.render ++ (" && (millis() - " ++ sensor.text ++ "LastDebounceTime > debounce)") := by
      show test.render ++ " " ++ "&&" ++ " " ++ ("(" ++ ("millis" ++ "()" ++ " " ++ "-" ++ " " ++
        (sensor.text ++ "LastDebounceTime") ++ " " ++ ">" ++ " " ++ "debounce") ++ ")") = _
      simp only [String.append_assoc]
      rfl
    rw [List.foldl_cons, ih, clause, List.map_cons, String.join_cons, String.append_assoc]

/-- Where an app is resolved, the sensors whose time is watched in a guard are its digital sensors,
in the order in which they appear first and without repetitions; and a guard has a test exactly if
it can be lowered, where the text of the test is that of the lowered guard with one clause for each
of the sensors behind it. -/
theorem debounced_lists_sensors {app : App} {plan : Plan}
    (resolved : app.resolve = .ok plan.program) (guard : Guard) :
    plan.debounced guard = (guard.sensors app.isDigitalSensor).eraseDups ∧
    (plan.debounced guard).Nodup ∧
    (∀ name, name ∈ plan.debounced guard ↔ (∃ level, .digital name level ∈ guard.conditions) ∧
      ∃ brick ∈ app.bricks, brick.name = name ∧ brick.category = .digitalSensor) ∧
    ((plan.debounced guard).Pairwise fun a b =>
      (guard.sensors app.isDigitalSensor).idxOf a < (guard.sensors app.isDigitalSensor).idxOf b) ∧
    (plan.guardTest guard).map (fun made => (made.test.render, made.debounced)) =
      (plan.lower guard).map fun test => (test.render ++ String.join ((plan.debounced guard).map
        fun sensor => " && (millis() - " ++ sensor.text ++ "LastDebounceTime > debounce)"),
        plan.debounced guard) := by
  obtain ⟨rfl, _, nodup, _, _⟩ := App.resolved_of_resolve resolved
  have listed : plan.debounced guard =
      (guard.sensors plan.program.app.isDigitalSensor).eraseDups := by
    rw [Plan.debounced_eq_eraseDups, Plan.isDigitalSensor_eq nodup]
  refine ⟨listed, Plan.nodup_debounced guard, ?_, ?_, ?_⟩
  · intro name
    rw [Plan.mem_debounced nodup, Guard.mem_sensors, App.isDigitalSensor_iff]
  · rw [listed]
    exact pairwise_eraseDups _
  · rw [Plan.guardTest]
    cases plan.lower guard with
    | error error => rfl
    | ok test =>
      exact congrArg (fun text => Except.ok (text, plan.debounced guard))
        (render_clauses (plan.debounced guard) test)

/-- A hall with a door at each end, a lamp and a bell. -/
def hall : App where
  name := "hall"
  bricks := [⟨⟨"back"⟩, none, .digitalSensor⟩, ⟨⟨"front"⟩, none, .digitalSensor⟩,
    ⟨⟨"lamp"⟩, none, .digitalActuator⟩, ⟨⟨"bell"⟩, none, .buzzer⟩]
  initial := some ⟨"quiet"⟩
  states := [⟨⟨"quiet"⟩, [], []⟩]

/-- A guard that reads both doors twice, and the lamp and the bell too. -/
def passage : Guard :=
  .binary
    (.binary (.condition (.digital ⟨"front"⟩ .high)) .and
      (.condition (.digital ⟨"lamp"⟩ .high))) .or
    (.binary
      (.binary (.condition (.digital ⟨"back"⟩ .low)) .and (.condition (.digital ⟨"front"⟩ .low)))
      .or
        (.binary (.condition (.digital ⟨"bell"⟩ .low)) .and (.condition (.digital ⟨"back"⟩ .high))))

/-- Each door is watched once, the one in front first, and neither the lamp nor the bell is. -/
theorem debounced_lists_sensors_hall :
    ∃ program pins test made, hall.resolve = .ok program ∧ allocate hall.bricks .uno = .ok pins ∧
      Plan.lower ⟨program, pins, ⟨.uno, 200⟩⟩ passage = .ok test ∧
      Plan.guardTest ⟨program, pins, ⟨.uno, 200⟩⟩ passage = .ok made ∧
      made.debounced = [⟨"front"⟩, ⟨"back"⟩] ∧
      made.test.render = test.render ++ (" && (millis() - frontLastDebounceTime > debounce)"
        ++ " && (millis() - backLastDebounceTime > debounce)") := by
  have made : ∃ program pins test made, hall.resolve = .ok program ∧
      allocate hall.bricks .uno = .ok pins ∧
      Plan.lower ⟨program, pins, ⟨.uno, 200⟩⟩ passage = .ok test ∧
      Plan.guardTest ⟨program, pins, ⟨.uno, 200⟩⟩ passage = .ok made :=
        ⟨_, _, _, _, rfl, rfl, rfl, rfl⟩
  obtain ⟨program, pins, test, made, resolved, allocated, lowered, tested⟩ := made
  obtain ⟨listed, _, _, _, text⟩ :=
    @debounced_lists_sensors hall ⟨program, pins, ⟨.uno, 200⟩⟩ resolved passage
  have sensors : (passage.sensors hall.isDigitalSensor).eraseDups = [⟨"front"⟩, ⟨"back"⟩] := by
    decide
  rw [lowered, tested, listed, sensors] at text
  obtain ⟨rendered, watched⟩ := Prod.mk.inj (Except.ok.inj text)
  exact ⟨program, pins, test, made, resolved, allocated, lowered, tested, watched, rendered⟩

end Brickwork
