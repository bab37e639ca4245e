import Brickwork.Proofs.Firmware.Execution
import Brickwork.Proofs.Numerals
import Brickwork.Schedule

/-!
# Gates

A gate is a test that the last run of something is long enough ago, around a note of the time and a
`switch`. Gates are run here in the unsigned arithmetic of the clock, while a `switch` is opaque:
what it does is given from outside. Gates in a row run just those that are due, if each has its own
variable and no `switch` writes one of them.
-/

namespace Brickwork.Firmware

open Code

/-- What gates work on: the times that variables hold, whatever else there is, and the `switch`es
that were run so far. -/
structure Round (σ : Type) where
  times : String → UInt32
  others : σ
  ran : List Statement

namespace Round

variable {σ : Type} (now : UInt32)

/-- The time that a term stands for. Words of digits are numerals, and must fit. -/
def time? (round : Round σ) : Term → Option UInt32
  | .word spelling =>
    match Text.digits? spelling.toList with
    | some n => if n < 2 ^ 32 then some (.ofNat n) else none
    | none => some (if spelling = "currentMillis" then now else round.times spelling)
  | .binary .minus left right =>
    match round.time? left, round.time? right with
    | some left, some right => some (left - right)
    | _, _ => none
  | _ => none

/-- Whether a comparison of times holds. -/
def truth? (round : Round σ) : Term → Option Bool
  | .binary (.comparison comparison) left right =>
    match round.time? now left, round.time? now right with
    | some left, some right => some (compareTimes comparison left right)
    | _, _ => none
  | _ => none

/-- Runs a statement. There is no result where a test or a value is not about times. -/
def run (step : Statement → (String → UInt32) → σ → (String → UInt32) × σ) :
    Statement → Round σ → Option (Round σ)
  | .skip, round => some round
  | .seq first rest, round => (run step first round).bind (run step rest)
  | .set target value, round =>
    (round.time? now value).map fun value =>
      { round with times := fun name => if name = target then value else round.times name }
  | .branch test yes no, round =>
    (round.truth? now test).bind fun holds =>
      if holds then run step yes round else run step no round
  | .switch subject body, round =>
    let (times, others) := step (.switch subject body) round.times round.others
    some ⟨times, others, round.ran ++ [.switch subject body]⟩
  | _, _ => none

end Round

/-- A gate: the variable that holds when its `switch` last ran, and how long that has to be ago. -/
structure Gate where
  lastRun : String
  period : UInt32
  subject : Term
  body : Statement

namespace Gate

/-- What a gate is around. -/
def switch (gate : Gate) : Statement :=
  .switch gate.subject gate.body

/-- A gate as a statement. -/
def statement (gate : Gate) : Statement :=
  .chain [(.binary (.comparison .greaterEqual)
      (.binary .minus (.word "currentMillis") (.word gate.lastRun))
      (.word (Text.decimal gate.period.toNat)),
    .block [.set gate.lastRun (.word "currentMillis"), gate.switch])]

/-- A gate whose variable is neither a numeral nor the time itself. -/
structure Named (gate : Gate) : Prop where
  word : Text.digits? gate.lastRun.toList = none
  other : gate.lastRun ≠ "currentMillis"

/-- Whether a gate opens. -/
def due (gate : Gate) (times : String → UInt32) (now : UInt32) : Bool :=
  isDue (times gate.lastRun) now gate.period

end Gate

/-! ## Runs -/

namespace Round

variable {σ : Type} {now : UInt32} {round : Round σ} {gate : Gate}

lemma time?_now : round.time? now (.word "currentMillis") = some now := by
  have word : Text.digits? "currentMillis".toList = none := by decide
  rw [time?, word]
  rfl

lemma time?_decimal (time : UInt32) :
    round.time? now (.word (Text.decimal time.toNat)) = some time := by
  rw [time?, Text.digits?_decimal]
  simp only [time.toNat_lt, if_true, UInt32.ofNat_toNat]

lemma time?_lastRun (named : gate.Named) :
    round.time? now (.word gate.lastRun) = some (round.times gate.lastRun) := by
  rw [time?, named.word]
  simp only [named.other, if_false]

/-- The test of a gate, computed without a sign and modulo `2 ^ 32`, holds exactly if the gate is
due. -/
lemma truth?_gate (named : gate.Named) :
    round.truth? now (.binary (.comparison .greaterEqual)
      (.binary .minus (.word "currentMillis") (.word gate.lastRun))
      (.word (Text.decimal gate.period.toNat))) = some (gate.due round.times now) := by
  have elapsed : round.time? now (.binary .minus (.word "currentMillis") (.word gate.lastRun)) =
      some (now - round.times gate.lastRun) := by
    rw [time?, time?_now, time?_lastRun named]
  rw [truth?, elapsed, time?_decimal]
  rfl

section Steps

variable {step : Statement → (String → UInt32) → σ → (String → UInt32) × σ} {names : List String}

/-- A gate that is due notes the time and runs its `switch`, and one that is not does nothing. -/
lemma run_gate (named : gate.Named) :
    round.run now step gate.statement = some
      (if gate.due round.times now then
        let next := step gate.switch
          (fun name => if name = gate.lastRun then now else round.times name) round.others
        ⟨next.1, next.2, round.ran ++ [gate.switch]⟩
      else round) := by
  rw [Gate.statement, Statement.chain, List.foldr_cons, run, truth?_gate named, Option.bind_some]
  cases gate.due round.times now with
  | false => rfl
  | true =>
    rw [if_pos rfl, Statement.block, List.foldr_cons, run, run, time?_now]
    rfl

/-- What a gate leaves behind, in variables that no `switch` writes. -/
lemma exists_run_gate (named : gate.Named)
    (keeps : ∀ statement times others, ∀ name ∈ names,
      (step statement times others).1 name = times name) :
    ∃ after, round.run now step gate.statement = some after ∧
      after.ran = round.ran ++ (if gate.due round.times now then [gate.switch] else []) ∧
      ∀ name ∈ names, after.times name =
        if gate.due round.times now ∧ name = gate.lastRun then now else round.times name := by
  refine ⟨_, run_gate named, ?_⟩
  cases gate.due round.times now with
  | false =>
    refine ⟨(List.append_nil _).symm, ?_⟩
    intro name _
    rw [if_neg nofun, if_neg nofun]
  | true =>
    refine ⟨rfl, ?_⟩
    intro name mem
    simp only [if_true, keeps _ _ _ name mem, true_and]

/-- Gates in a row, each with a variable of its own that no `switch` writes, run just those that are
due by the times before, once and in order, and note the time for just these. -/
lemma run_gates {gates : List Gate} (named : ∀ gate ∈ gates, gate.Named)
    (distinct : (gates.map Gate.lastRun).Nodup) (own : ∀ gate ∈ gates, gate.lastRun ∈ names)
    (keeps : ∀ statement times others, ∀ name ∈ names,
      (step statement times others).1 name = times name)
    (round : Round σ) :
    ∃ after, round.run now step (.block (gates.map Gate.statement)) = some after ∧
      after.ran = round.ran ++ (gates.filter fun gate => gate.due round.times now).map Gate.switch ∧
      (∀ gate ∈ gates, after.times gate.lastRun =
        if gate.due round.times now then now else round.times gate.lastRun) ∧
      ∀ name ∈ names, name ∉ gates.map Gate.lastRun → after.times name = round.times name := by
  induction gates generalizing round with
  | nil => exact ⟨round, rfl, (List.append_nil _).symm, nofun, fun _ _ _ => rfl⟩
  | cons gate gates ih =>
    obtain ⟨fresh, distinct⟩ := List.nodup_cons.mp distinct
    obtain ⟨first, opened, ran, noted⟩ := @exists_run_gate σ now round gate step names
      (named gate List.mem_cons_self) keeps
    have named := fun other mem => named other (List.mem_cons_of_mem gate mem)
    have owned := fun other mem => own other (List.mem_cons_of_mem gate mem)
    obtain ⟨after, later, ran', noted', kept⟩ := ih named distinct owned first
    -- the gates behind it have other variables, so the times before decide for them as well
    have same : ∀ other ∈ gates, first.times other.lastRun = round.times other.lastRun := by
      intro other mem
      rw [noted _ (owned other mem), if_neg]
      rintro ⟨_, eq⟩
      exact fresh (eq ▸ List.mem_map_of_mem mem)
    have due : ∀ other ∈ gates, other.due first.times now = other.due round.times now := by
      intro other mem
      rw [Gate.due, Gate.due, same other mem]
    refine ⟨after, ?_, ?_, ?_, ?_⟩
    · show (round.run now step gate.statement).bind _ = _
      rw [opened]
      exact later
    · rw [ran', ran, List.filter_congr due, List.filter_cons, List.append_assoc]
      cases gate.due round.times now <;> rfl
    · rw [List.forall_mem_cons]
      have own := own gate List.mem_cons_self
      constructor
      · rw [kept _ own fresh, noted _ own]
        simp only [and_true]
      · intro other mem
        rw [noted' other mem, due other mem, same other mem]
    · intro name mem absent
      rw [List.map_cons, List.mem_cons, not_or] at absent
      rw [kept name mem absent.2, noted name mem, if_neg fun both => absent.1 both.2]

end Steps

end Round

end Brickwork.Firmware
