import Brickwork.Schedule
import Mathlib.Algebra.Order.Ring.Nat
import Mathlib.Data.List.Range
import Mathlib.Data.Nat.Order.Lemmas
import Mathlib.Tactic.Common

/-!
# Timers across the end of the clock

A timer reads a clock that starts again after `2 ^ 32` milliseconds. As long as it is asked often
enough it decides like a timer on a clock without an end: between two readings, no more than
`2 ^ 32` less the period may pass. `Follows` is what ties the two together. One reading keeps it
(`Follows.step`), and so does every run of readings, however often the clock starts again.
-/

namespace Brickwork

/-! ## Timers and readings -/

/-- A timer on a clock without an end. -/
structure IdealTimer where
  period : Nat
  lastRun : Nat := 0
deriving DecidableEq

namespace IdealTimer

/-- Whether the timer is due. -/
def due (timer : IdealTimer) (now : Nat) : Bool :=
  timer.period ≤ now - timer.lastRun

/-- The timer after a reading of the clock: a due one has just run. -/
def tick (timer : IdealTimer) (now : Nat) : IdealTimer :=
  if timer.due now then { timer with lastRun := now } else timer

/-- What the timer decides at each of some readings. -/
def decisions (timer : IdealTimer) : List Nat → List Bool
  | [] => []
  | now :: later => timer.due now :: (timer.tick now).decisions later

end IdealTimer

namespace Timer

/-- What the timer decides at each of some readings. The readings are true times, and the timer sees
what is left of them on its clock. -/
def decisions (timer : Timer) : List Nat → List Bool
  | [] => []
  | now :: later => timer.due (.ofNat now) :: (timer.tick (.ofNat now)).decisions later

/-- The readings at which the timer runs. -/
def runs (timer : Timer) : List Nat → List Nat
  | [] => []
  | now :: later =>
    let rest := (timer.tick (.ofNat now)).runs later
    if timer.due (.ofNat now) then now :: rest else rest

/-- Readings that follow each other closely enough for a period: the clock never goes back, and no
more than its range less the period passes in between. -/
def Close (period : UInt32) (earlier later : Nat) : Prop :=
  earlier ≤ later ∧ later - earlier ≤ 2 ^ 32 - period.toNat

/-- A timer that follows a timer without an end, the clock having been read at some time last: both
ran at the same time, and since then less than a period has passed. -/
structure Follows (timer : Timer) (ideal : IdealTimer) (read : Nat) : Prop where
  period : ideal.period = timer.period.toNat
  lastRun : timer.lastRun = .ofNat ideal.lastRun
  past : ideal.lastRun ≤ read
  recent : read - ideal.lastRun ≤ timer.period.toNat - 1

variable {timer : Timer} {ideal : IdealTimer} {read now : Nat}

/-- On the clock, the time between two readings is known up to its range. -/
lemma toNat_sub_ofNat {earlier later : Nat} (order : earlier ≤ later) :
    (UInt32.ofNat later - UInt32.ofNat earlier).toNat = (later - earlier) % 2 ^ 32 := by
  rw [UInt32.toNat_sub, UInt32.toNat_ofNat', UInt32.toNat_ofNat']
  omega

/-- At a reading that is close enough, both timers decide the same. -/
lemma Follows.due_eq (follows : Follows timer ideal read) (close : Close timer.period read now) :
    timer.due (.ofNat now) = ideal.due now := by
  obtain ⟨period, lastRun, past, recent⟩ := follows
  obtain ⟨order, gap⟩ := close
  have bound := timer.period.toNat_lt
  rw [due, isDue, IdealTimer.due, lastRun, period]
  apply decide_eq_decide.mpr
  rw [UInt32.le_iff_toNat_le, toNat_sub_ofNat (past.trans order)]
  -- a timer without a period is always due; for others the clock has not come round since the last
  -- run
  by_cases always : timer.period.toNat = 0
  · simp [always]
  · have inside : (now - ideal.lastRun) % 2 ^ 32 = now - ideal.lastRun :=
      Nat.mod_eq_of_lt (by omega)
    rw [inside]

lemma Follows.due_iff (follows : Follows timer ideal read) (close : Close timer.period read now) :
    timer.due (.ofNat now) = true ↔ ideal.lastRun + timer.period.toNat ≤ now := by
  rw [follows.due_eq close, IdealTimer.due, decide_eq_true_eq, follows.period]
  have order := follows.past.trans close.1
  omega

@[simp] lemma period_tick (timer : Timer) (now : UInt32) :
    (timer.tick now).period = timer.period := by
  rw [tick]
  split <;> rfl

/-- A timer that is due follows one that has just run. -/
lemma Follows.run (follows : Follows timer ideal read) (due : timer.due (.ofNat now) = true) :
    Follows (timer.tick (.ofNat now)) { ideal with lastRun := now } now := by
  rw [tick, if_pos due]
  exact ⟨follows.period, rfl, Nat.le_refl now, by simp⟩

/-- A timer that is not due goes on following. -/
lemma Follows.wait (follows : Follows timer ideal read) (close : Close timer.period read now)
    (early : timer.due (.ofNat now) = false) : Follows (timer.tick (.ofNat now)) ideal now := by
  have before : ¬ideal.lastRun + timer.period.toNat ≤ now := by
    rw [← follows.due_iff close, early]
    exact Bool.false_ne_true
  have order := follows.past.trans close.1
  rw [tick, early, if_neg Bool.false_ne_true]
  exact ⟨follows.period, follows.lastRun, order, by omega⟩

/-- One reading keeps a timer following. -/
lemma Follows.step (follows : Follows timer ideal read) (close : Close timer.period read now) :
    Follows (timer.tick (.ofNat now)) (ideal.tick now) now := by
  rw [IdealTimer.tick, ← follows.due_eq close]
  cases due : timer.due (.ofNat now) with
  | true => exact follows.run due
  | false => exact follows.wait close due

/-- The timers at the start. -/
lemma Follows.start (period : UInt32) : Follows { period } { period := period.toNat } 0 :=
  ⟨rfl, rfl, Nat.le_refl 0, Nat.zero_le _⟩

/-! ## Runs of readings -/

/-- At readings that are close enough, both timers decide the same throughout. -/
lemma Follows.decisions_eq (follows : Follows timer ideal read) {times : List Nat}
    (close : (read :: times).IsChain (Close timer.period)) :
    timer.decisions times = ideal.decisions times := by
  induction times generalizing timer ideal read with
  | nil => rfl
  | cons now later ih =>
    obtain ⟨first, close⟩ := List.isChain_cons_cons.mp close
    rw [decisions, IdealTimer.decisions, follows.due_eq first]
    congr 1
    apply ih (follows.step first)
    rwa [period_tick]

lemma runs_of_due {later : List Nat} (due : timer.due (.ofNat now) = true) :
    timer.runs (now :: later) = now :: (timer.tick (.ofNat now)).runs later := by
  rw [runs, due]
  rfl

lemma runs_of_early {later : List Nat} (early : timer.due (.ofNat now) = false) :
    timer.runs (now :: later) = (timer.tick (.ofNat now)).runs later := by
  rw [runs, early]
  rfl

/-- Runs are at least a period apart, the first one from the last run before. -/
lemma Follows.isChain_runs (follows : Follows timer ideal read) {times : List Nat}
    (close : (read :: times).IsChain (Close timer.period)) :
    (ideal.lastRun :: timer.runs times).IsChain
      fun earlier later => earlier + timer.period.toNat ≤ later := by
  induction times generalizing timer ideal read with
  | nil => exact List.isChain_singleton _
  | cons now later ih =>
    obtain ⟨first, close⟩ := List.isChain_cons_cons.mp close
    rw [← period_tick timer (.ofNat now)] at close
    cases due : timer.due (.ofNat now) with
    | true =>
      have rest := ih (follows.run due) close
      rw [period_tick] at rest
      rw [runs_of_due due]
      exact List.isChain_cons_cons.mpr ⟨(follows.due_iff first).mp due, rest⟩
    | false =>
      have rest := ih (follows.wait first due) close
      rw [period_tick] at rest
      rwa [runs_of_early due]

/-- At one more reading the timer runs exactly if a period has passed since its last run. -/
lemma Follows.runs_concat (follows : Follows timer ideal read) {earlier : List Nat}
    (close : (read :: (earlier ++ [now])).IsChain (Close timer.period)) :
    timer.runs (earlier ++ [now]) = timer.runs earlier ++
      if (timer.runs earlier).getLastD ideal.lastRun + timer.period.toNat ≤ now then [now]
      else [] := by
  induction earlier generalizing timer ideal read with
  | nil =>
    obtain ⟨first, _⟩ := List.isChain_cons_cons.mp close
    have due := follows.due_iff first
    by_cases passed : ideal.lastRun + timer.period.toNat ≤ now
    · rw [List.nil_append, runs_of_due (due.mpr passed)]
      simp [runs, passed]
    · rw [List.nil_append, runs_of_early (Bool.eq_false_iff.mpr fun yes => passed (due.mp yes))]
      simp [runs, passed]
  | cons time earlier ih =>
    obtain ⟨first, close⟩ := List.isChain_cons_cons.mp close
    rw [← period_tick timer (.ofNat time)] at close
    cases due : timer.due (.ofNat time) with
    | true =>
      have rest := ih (follows.run due) close
      rw [period_tick] at rest
      rw [List.cons_append, runs_of_due due, runs_of_due due, rest, List.getLastD_cons]
      rfl
    | false =>
      have rest := ih (follows.wait first due) close
      rw [period_tick] at rest
      rw [List.cons_append, runs_of_early due, runs_of_early due, rest]

end Timer

/-- However often the clock starts again: where no more than its range less the period passes from
one reading to the next, a timer decides at every reading like one on a clock without an end. So its
runs are at least a period apart, and it runs at the first reading at which a period has passed
since its last run. -/
theorem decisions_eq_ideal (period : UInt32) {times : List Nat}
    (close : (0 :: times).IsChain fun earlier later =>
      earlier ≤ later ∧ later - earlier ≤ 2 ^ 32 - period.toNat) :
    let timer : Timer := { period }
    timer.decisions times = IdealTimer.decisions { period := period.toNat } times ∧
    (0 :: timer.runs times).IsChain (fun earlier later => earlier + period.toNat ≤ later) ∧
    ∀ earlier now later, times = earlier ++ now :: later →
      timer.runs (earlier ++ [now]) = timer.runs earlier ++
        if (timer.runs earlier).getLastD 0 + period.toNat ≤ now then [now] else [] := by
  intro timer
  have start := Timer.Follows.start period
  refine ⟨start.decisions_eq close, start.isChain_runs close, ?_⟩
  rintro earlier now later rfl
  have split : 0 :: (earlier ++ now :: later) = (0 :: (earlier ++ [now])) ++ later := by simp
  rw [split] at close
  exact start.runs_concat close.left_of_append

/-- A timer that is read rarely, and several times around the end of its clock. -/
theorem decisions_eq_ideal_late :
    let timer : Timer := { period := 100 }
    let times := [2 ^ 31, 2 ^ 32 - 50, 2 ^ 32 + 49, 2 ^ 32 + 50, 2 ^ 32 + 2 ^ 31]
    timer.decisions times = IdealTimer.decisions { period := 100 } times ∧
      (0 :: timer.runs times).IsChain (fun earlier later => earlier + 100 ≤ later) ∧
      timer.decisions times = [true, true, false, true, true] := by
  obtain ⟨same, apart, _⟩ := @decisions_eq_ideal 100
    [2 ^ 31, 2 ^ 32 - 50, 2 ^ 32 + 49, 2 ^ 32 + 50, 2 ^ 32 + 2 ^ 31] (by decide)
  exact ⟨same, apart, by decide⟩

-- one millisecond more between two readings and a run is missed
example : Timer.decisions { period := 100 } [99, 2 ^ 32] = [false, false] ∧
    IdealTimer.decisions { period := 100 } [99, 2 ^ 32] = [false, true] := by decide

/-! ## Every millisecond -/

lemma dvd_succ_iff {period : Nat} (positive : 0 < period) (time : Nat) :
    period ∣ time + 1 ↔ period * (time / period) + period ≤ time + 1 := by
  have parts := Nat.div_add_mod time period
  have small := Nat.mod_lt time positive
  have rest : period ∣ time + 1 ↔ period ∣ time % period + 1 := by
    nth_rewrite 1 [← parts]
    rw [Nat.add_assoc]
    exact Nat.dvd_add_right (Nat.dvd_mul_right period _)
  rw [rest]
  constructor
  · intro divides
    have := Nat.le_of_dvd (Nat.succ_pos _) divides
    omega
  · intro passed
    have : time % period + 1 = period := by omega
    rw [this]

namespace Timer

/-- Readings at every millisecond are close enough for every period. -/
lemma close_range (period : UInt32) (horizon : Nat) :
    (0 :: List.range (horizon + 1)).IsChain (Close period) := by
  have bound := period.toNat_lt
  refine (List.isChain_cons_range_succ _ _ _).mpr ⟨⟨Nat.le_refl 0, Nat.zero_le _⟩, ?_⟩
  intro time _
  exact ⟨Nat.le_succ time, by omega⟩

/-- One more millisecond is one more run exactly if it completes a period. -/
lemma runs_range_succ {period : UInt32} {horizon : Nat} (positive : 0 < period.toNat)
    (last : (Timer.runs { period } (List.range (horizon + 1))).getLastD 0 =
      period.toNat * (horizon / period.toNat)) :
    Timer.runs { period } (List.range (horizon + 1 + 1)) =
      Timer.runs { period } (List.range (horizon + 1)) ++
        if period.toNat ∣ horizon + 1 then [horizon + 1] else [] := by
  have close := close_range period (horizon + 1)
  rw [List.range_succ] at close ⊢
  rw [(Follows.start period).runs_concat close]
  simp only [last, dvd_succ_iff positive]

/-- A timer that is read at every millisecond runs at the multiples of its period, and last at the
last of them. -/
lemma runs_range {period : UInt32} (positive : 0 < period.toNat) (horizon : Nat) :
    let runs := Timer.runs { period } (List.range (horizon + 1))
    runs = (List.range' 1 horizon).filter (fun time => period.toNat ∣ time) ∧
      runs.length = horizon / period.toNat ∧
      runs.getLastD 0 = period.toNat * (horizon / period.toNat) := by
  induction horizon with
  | zero =>
    have early : Timer.due { period } (.ofNat 0) = false := by
      have due := (Follows.start period).due_iff ⟨Nat.le_refl 0, Nat.zero_le _⟩
      apply Bool.eq_false_iff.mpr
      rw [ne_eq, due, Nat.zero_add]
      exact Nat.not_le.mpr positive
    intro runs
    have idle : runs = [] := runs_of_early early
    rw [idle]
    simp
  | succ horizon ih =>
    obtain ⟨listed, count, last⟩ := ih
    intro runs
    have next : runs = _ := runs_range_succ positive last
    rw [next, List.range'_1_concat, List.filter_append, ← listed, Nat.succ_div,
      Nat.add_comm 1 horizon]
    by_cases multiple : period.toNat ∣ horizon + 1
    · have whole := Nat.mul_div_cancel' multiple
      rw [Nat.succ_div, if_pos multiple] at whole
      simp [multiple, count, whole]
    · rw [if_neg multiple, if_neg multiple, List.append_nil, Nat.add_zero]
      refine ⟨?_, count, last⟩
      simp [multiple]

end Timer

/-- A timer that has not run yet and is read at every millisecond of a clock that starts again after
`2 ^ 32` of them runs at the multiples of its period, whatever the period and however long it goes
on. -/
theorem runs_range_eq_multiples {period : UInt32} (positive : 1 ≤ period) (horizon : Nat) :
    let runs := Timer.runs { period } (List.range (horizon + 1))
    runs = (List.range' 1 horizon).filter (fun time => period.toNat ∣ time) ∧
      runs.length = horizon / period.toNat := by
  have positive : 0 < period.toNat := UInt32.le_iff_toNat_le.mp positive
  obtain ⟨listed, count, _⟩ := Timer.runs_range positive horizon
  exact ⟨listed, count⟩

/-- A period of 250 milliseconds over a second, and one of 34 days over four months, in which the
clock starts again twice. -/
theorem runs_range_eq_multiples_wrapped :
    Timer.runs { period := 250 } (List.range 1001) = [250, 500, 750, 1000] ∧
      (Timer.runs { period := 3000000000 } (List.range (10000000000 + 1))).length = 3 := by
  have short := runs_range_eq_multiples (by decide : (1 : UInt32) ≤ 250) 1000
  have long := runs_range_eq_multiples (by decide : (1 : UInt32) ≤ 3000000000) 10000000000
  refine ⟨short.1.trans ?_, long.2.trans ?_⟩
  · decide
  · decide

end Brickwork
