import Brickwork.Emission
import Mathlib.Data.List.Basic
import Mathlib.Tactic.Common

/-!
# Delivery of sketches

What a sink is asked for when a sketch is delivered, and what it has then taken. A sink is any state
with any answers, so its calls are noted beside it: noting them changes neither an answer nor the
state. As in `Sink.writeAll`, an interrupted call that is made again counts as one call.
-/

namespace Brickwork

/-- The encoding of a text is the one that the text is stored in. -/
lemma Text.toByteArray_encode (text : String) : (Text.encode text).toByteArray = text.toUTF8 :=
  String.utf8Encode_toList

namespace Sink

/-! ## Calls -/

/-- A call of a sink, with its answer. -/
inductive Call where
  | write (offered : List UInt8) (answer : Option Nat)
  | flush (succeeded : Bool)
deriving DecidableEq

namespace Call

def taken : Call → List UInt8
  | write offered answer => offered.take (answer.getD 0)
  | flush _ => []

def isFlush : Call → Bool
  | write _ _ => false
  | flush _ => true

end Call

def accepted (calls : List Call) : List UInt8 :=
  calls.flatMap Call.taken

lemma accepted_flush (calls : List Call) (succeeded : Bool) :
    accepted (calls ++ [.flush succeeded]) = accepted calls := by
  rw [accepted, List.flatMap_append, List.flatMap_singleton, Call.taken, List.append_nil]
  rfl

lemma accepted_prefix {earlier calls : List Call} (front : earlier <+: calls) :
    accepted earlier <+: accepted calls := by
  obtain ⟨later, rfl⟩ := front
  rw [accepted, accepted, List.flatMap_append]
  exact List.prefix_append _ _

variable {σ : Type}

/-- The sink with a list of its calls, the first one in front. -/
def noted (sink : Sink σ) : Sink (σ × List Call) where
  write bytes
    | (state, calls) =>
      let (answer, state) := sink.write bytes state
      (answer, state, calls ++ [.write bytes answer])
  flush
    | (state, calls) =>
      let (succeeded, state) := sink.flush state
      (succeeded, state, calls ++ [.flush succeeded])

/-- Calls in which bytes were offered until all were taken or a call took none: what was taken comes
in order from the front of the bytes. -/
structure Offering (bytes : List UInt8) (done : Bool) (calls : List Call) : Prop where
  pre : accepted calls <+: bytes
  done_iff : done = true ↔ accepted calls = bytes
  unflushed : calls.countP Call.isFlush = 0

namespace Offering

lemma nil : Offering [] true [] where
  pre := List.prefix_rfl
  done_iff := iff_of_true rfl rfl
  unflushed := rfl

/-- A call that takes nothing of what is left is the last one. -/
lemma refused {b : UInt8} {rest : List UInt8} {answer : Option Nat} (untaken : answer.getD 0 = 0) :
    Offering (b :: rest) false [.write (b :: rest) answer] := by
  have nothing : accepted [.write (b :: rest) answer] = [] := by
    rw [accepted, List.flatMap_singleton, Call.taken, untaken, List.take_zero]
  refine ⟨?_, ?_, rfl⟩
  · rw [nothing]
    exact List.nil_prefix
  · rw [nothing]
    exact iff_of_false nofun nofun

/-- A call that takes bytes is followed by calls for the others. -/
lemma cons {bytes : List UInt8} {n : Nat} {done : Bool} {calls : List Call}
    (later : Offering (bytes.drop n) done calls) :
    Offering bytes done (.write bytes (some n) :: calls) := by
  have split : accepted (.write bytes (some n) :: calls) = bytes.take n ++ accepted calls :=
    List.flatMap_cons
  refine ⟨?_, ?_, later.unflushed⟩
  · conv_rhs => rw [← List.take_append_drop n bytes]
    rw [split, List.prefix_append_right_inj]
    exact later.pre
  · conv_rhs => rhs; rw [← List.take_append_drop n bytes]
    rw [split, List.append_cancel_left_eq]
    exact later.done_iff

end Offering

/-- Writing makes an offering of the bytes, and is the same with calls noted. -/
lemma writeAll_noted (sink : Sink σ) (bytes : List UInt8) (state : σ) (calls : List Call) :
    ∃ done after more, sink.writeAll bytes state = (done, after) ∧
      sink.noted.writeAll bytes (state, calls) = (done, after, calls ++ more) ∧
      Offering bytes done more := by
  induction bytes, state using writeAll.induct sink generalizing calls with
  | case1 state =>
    refine ⟨true, state, [], ?_, ?_, .nil⟩
    · rw [writeAll]
    · rw [writeAll, List.append_nil]
  | case2 state b rest after answered =>
    refine ⟨false, after, [.write (b :: rest) none], ?_, ?_, .refused rfl⟩
    · rw [writeAll, answered]
    · rw [writeAll, noted]
      simp only [answered]
  | case3 state b rest after answered =>
    refine ⟨false, after, [.write (b :: rest) (some 0)], ?_, ?_, .refused rfl⟩
    · rw [writeAll, answered]
    · rw [writeAll, noted]
      simp only [answered]
  | case4 state b rest n next answered ih =>
    obtain ⟨done, after, more, eq, eq', offering⟩ :=
      ih (calls ++ [.write (b :: rest) (some (n + 1))])
    refine ⟨done, after, .write (b :: rest) (some (n + 1)) :: more, ?_, ?_, .cons offering⟩
    · rw [writeAll, answered]
      exact eq
    · rw [List.append_cons, ← eq', writeAll, noted]
      simp only [answered]

/-- The calls of a delivery: those that offer the bytes, and one of `flush` behind them if all were
taken. -/
inductive Delivery (bytes : List UInt8) : Bool → List Call → Prop
  | finished {calls} (written : Offering bytes true calls) (succeeded : Bool) :
    Delivery bytes succeeded (calls ++ [.flush succeeded])
  | broken {calls} (written : Offering bytes false calls) : Delivery bytes false calls

lemma deliver_noted (sink : Sink σ) (bytes : List UInt8) (state : σ) :
    ∃ delivered after calls, sink.deliver bytes state = (delivered, after) ∧
      sink.noted.deliver bytes (state, []) = (delivered, after, calls) ∧
      Delivery bytes delivered calls := by
  obtain ⟨done, after, calls, eq, eq', offering⟩ := writeAll_noted sink bytes state []
  rw [List.nil_append] at eq'
  cases done with
  | false =>
    refine ⟨false, after, calls, ?_, ?_, .broken offering⟩
    · rw [deliver, eq]
    · rw [deliver, eq']
  | true =>
    cases flushed : sink.flush after with
    | mk succeeded last =>
      refine ⟨succeeded, last, calls ++ [.flush succeeded], ?_, ?_, .finished offering succeeded⟩
      · rw [deliver, eq]
        exact flushed
      · rw [deliver, eq', noted]
        simp only [flushed]

namespace Delivery

variable {bytes : List UInt8} {delivered : Bool} {calls : List Call}

lemma pre (delivery : Delivery bytes delivered calls) : accepted calls <+: bytes := by
  cases delivery with
  | finished written =>
    rw [accepted_flush]
    exact written.pre
  | broken written => exact written.pre

/-- There is one call of `flush` if all was taken, and none otherwise. -/
lemma flushes (delivery : Delivery bytes delivered calls) :
    calls.countP Call.isFlush = if accepted calls = bytes then 1 else 0 := by
  cases delivery with
  | finished written =>
    rw [List.countP_append, written.unflushed, accepted_flush, if_pos (written.done_iff.mp rfl)]
    rfl
  | broken written =>
    have incomplete : accepted calls ≠ bytes := by
      intro complete
      cases written.done_iff.mpr complete
    rw [written.unflushed, if_neg incomplete]

/-- A delivery succeeds exactly if all was taken and `flush` succeeded. -/
lemma succeeds_iff (delivery : Delivery bytes delivered calls) :
    delivered = true ↔ accepted calls = bytes ∧ .flush true ∈ calls := by
  cases delivery with
  | @finished calls written =>
    have unflushed : .flush true ∉ calls :=
      fun mem => List.countP_eq_zero.mp written.unflushed _ mem rfl
    rw [accepted_flush, List.mem_append, List.mem_singleton, Call.flush.injEq]
    constructor
    · intro eq
      exact ⟨written.done_iff.mp rfl, .inr eq.symm⟩
    · rintro ⟨_, mem | eq⟩
      · exact absurd mem unflushed
      · exact eq.symm
  | broken written =>
    constructor
    · exact nofun
    · rintro ⟨complete, _⟩
      exact written.done_iff.mpr complete

end Delivery

end Sink

/-! ## Channels -/

namespace Channel

variable {chunk limit : Nat} {flushFails : Bool}

lemma Record.push_nil (record : Record) : record.push [] = record := rfl

lemma Record.size_push (record : Record) (bytes : List UInt8) :
    (record.push bytes).size = record.size + bytes.length := rfl

lemma Record.push_push (record : Record) (first later : List UInt8) :
    (record.push first).push later = record.push (first ++ later) := by
  simp only [push, List.reverse_append, List.append_assoc, List.length_append, Nat.add_assoc]

/-- As long as its limit is not reached, a channel takes a portion of what is offered. -/
lemma write_sink (bytes : List UInt8) (record : Record) :
    (sink ⟨some chunk, some limit, flushFails⟩).write bytes record =
      if limit ≤ record.size then (none, record)
      else
        let n := min (min (limit - record.size) chunk) bytes.length
        (some n, record.push (bytes.take n)) := by
  simp only [sink, portion?]
  by_cases full : limit ≤ record.size
  · rw [if_pos full, if_pos full]
  · rw [if_neg full, if_neg full, List.take_take, ← List.take_eq_take_min, ← List.length_take]

/-- Writing to a channel whose portions are not empty fills it up to its limit. -/
lemma writeAll_sink (positive : 0 < chunk) (bytes : List UInt8) (record : Record)
    (room : record.size ≤ limit) :
    (sink ⟨some chunk, some limit, flushFails⟩).writeAll bytes record =
      (decide (record.size + bytes.length ≤ limit),
        record.push (bytes.take (limit - record.size))) := by
  induction bytes,
    record using Sink.writeAll.induct (sink ⟨some chunk, some limit, flushFails⟩) with
  | case1 record =>
    rw [Sink.writeAll, List.take_nil, Record.push_nil, decide_eq_true (by simpa using room)]
  | case2 record b rest after answered =>
    rw [Sink.writeAll, answered]
    rw [write_sink] at answered
    split at answered
    case isTrue full =>
      cases answered
      have full : limit - record.size = 0 := by omega
      rw [full, List.take_zero, Record.push_nil, decide_eq_false (by rw [List.length_cons]; omega)]
    case isFalse => cases answered
  | case3 record b rest after answered =>
    -- A portion is empty only if nothing is offered.
    rw [write_sink] at answered
    split at answered
    case isTrue => cases answered
    case isFalse free =>
      simp only [Prod.mk.injEq, Option.some.injEq, List.length_cons] at answered
      omega
  | case4 record b rest n after answered ih =>
    rw [Sink.writeAll, answered]
    rw [write_sink] at answered
    split at answered
    case isTrue => cases answered
    case isFalse free =>
      simp only [Prod.mk.injEq, Option.some.injEq] at answered
      obtain ⟨length, rfl⟩ := answered
      rw [length] at ih ⊢
      have size : (record.push ((b :: rest).take (n + 1))).size = record.size + (n + 1) := by
        rw [Record.size_push, List.length_take]
        omega
      have bound : n ≤ rest.length := by
        rw [List.length_cons] at length
        omega
      have later := ih (by rw [size]; omega)
      rw [size, Record.push_push] at later
      refine later.trans ?_
      have split : limit - record.size = n + 1 + (limit - (record.size + (n + 1))) := by omega
      have count : record.size + (n + 1) + (rest.drop n).length =
          record.size + (b :: rest).length := by
        rw [List.length_drop, List.length_cons]
        omega
      rw [split, List.take_add, count]
      rfl

/-- A delivery to such a channel succeeds exactly if the bytes are within the limit and the channel
can be flushed. -/
lemma deliver_sink (positive : 0 < chunk) (bytes : List UInt8) :
    ∃ record : Record,
      (sink ⟨some chunk, some limit, flushFails⟩).deliver bytes {} =
        (decide (bytes.length ≤ limit) && !flushFails, record) ∧
      record.received = bytes.take (min limit bytes.length) ∧
      record.flushes = if bytes.length ≤ limit then 1 else 0 := by
  have written : (sink ⟨some chunk, some limit, flushFails⟩).writeAll bytes {} =
      (decide (0 + bytes.length ≤ limit), Record.push {} (bytes.take (limit - 0))) :=
    writeAll_sink positive bytes {} (Nat.zero_le limit)
  rw [Nat.zero_add, Nat.sub_zero] at written
  have received : (({} : Record).push (bytes.take limit)).received =
      bytes.take (min limit bytes.length) := by
    rw [Record.received_push, ← List.take_eq_take_min]
    rfl
  by_cases fits : bytes.length ≤ limit
  · rw [decide_eq_true fits] at written
    refine ⟨{ ({} : Record).push (bytes.take limit) with flushes := 1 }, ?_, received, ?_⟩
    · rw [Sink.deliver, written, decide_eq_true fits, Bool.true_and]
      rfl
    · rw [if_pos fits]
  · rw [decide_eq_false fits] at written
    refine ⟨({} : Record).push (bytes.take limit), ?_, received, ?_⟩
    · rw [Sink.deliver, written, decide_eq_false fits, Bool.false_and]
    · rw [if_neg fits]
      rfl

end Channel

/-! ## Emission -/

/-- What comes out of an emission once there is a sketch. -/
def emitted (delivered : Bool) : Except Diagnostics Unit :=
  if delivered then .ok () else .error { errors := [.unwritable] }

lemma emitted_eq_ok {delivered : Bool} : emitted delivered = .ok () ↔ delivered = true := by
  cases delivered with
  | true => exact iff_of_true rfl rfl
  | false => exact iff_of_false nofun nofun

lemma emitted_ne_ok {delivered : Bool} (failed : emitted delivered ≠ .ok ()) :
    emitted delivered = .error { errors := [.unwritable] } := by
  cases delivered with
  | true => exact absurd rfl failed
  | false => rfl

lemma emit_of_generate {σ : Type} {app : App} {options : Options} {sketch : String} {sink : Sink σ}
    {state after : σ} {delivered : Bool} (generated : generate app options = .ok sketch)
    (eq : sink.deliver (Text.encode sketch) state = (delivered, after)) :
    emit app options sink state = (emitted delivered, after) := by
  rw [emit, generated]
  simp only [eq]
  cases delivered <;> rfl

/-- Nothing is asked of a sink unless there is a sketch. Otherwise what the sink has taken is at any
time the front of the sketch's encoding; `flush` is called once if all of it was taken, and never if
not; and the result is a success exactly if all was taken and flushed, or else the one error that
the text could not be written. A channel whose portions are not empty gets as much as its limit
allows. -/
theorem emit_accounts_for_bytes {σ : Type} (app : App) (options : Options) (sink : Sink σ)
    (state : σ) :
    ∃ result after calls, emit app options sink state = (result, after) ∧
      emit app options sink.noted (state, []) = (result, after, calls) ∧
      (∀ diagnostics, generate app options = .error diagnostics →
        result = .error diagnostics ∧ after = state ∧ calls = []) ∧
      ∀ sketch, generate app options = .ok sketch →
        (Text.encode sketch).toByteArray = sketch.toUTF8 ∧
        (∀ earlier, earlier <+: calls → Sink.accepted earlier <+: Text.encode sketch) ∧
        (result = .ok () ↔ Sink.accepted calls = Text.encode sketch ∧ .flush true ∈ calls) ∧
        (result ≠ .ok () → result = .error { errors := [.unwritable] }) ∧
        calls.countP Sink.Call.isFlush =
          (if Sink.accepted calls = Text.encode sketch then 1 else 0) ∧
        ∀ chunk limit flushFails, 0 < chunk → ∃ result record,
          emit app options (Channel.sink ⟨some chunk, some limit, flushFails⟩) {} =
            (result, record) ∧
          record.received = (Text.encode sketch).take (min limit (Text.encode sketch).length) ∧
          record.flushes = (if (Text.encode sketch).length ≤ limit then 1 else 0) ∧
          (result = .ok () ↔ (Text.encode sketch).length ≤ limit ∧ flushFails = false) := by
  cases generated : generate app options with
  | error diagnostics =>
    refine ⟨.error diagnostics, state, [], ?_, ?_, ?_, nofun⟩
    · rw [emit, generated]
    · rw [emit, generated]
    · rintro _ ⟨⟩
      exact ⟨rfl, rfl, rfl⟩
  | ok sketch =>
    obtain ⟨delivered, after, calls, eq, eq', delivery⟩ :=
      Sink.deliver_noted sink (Text.encode sketch) state
    refine ⟨emitted delivered, after, calls, emit_of_generate generated eq,
      emit_of_generate generated eq', nofun, ?_⟩
    rintro _ ⟨⟩
    refine ⟨Text.toByteArray_encode sketch, ?_, emitted_eq_ok.trans delivery.succeeds_iff,
      emitted_ne_ok, delivery.flushes, ?_⟩
    · intro earlier front
      exact (Sink.accepted_prefix front).trans delivery.pre
    · intro chunk limit flushFails positive
      obtain ⟨record, eq, received, flushes⟩ :=
        Channel.deliver_sink positive (Text.encode sketch)
      refine ⟨_, record, emit_of_generate generated eq, received, flushes, ?_⟩
      rw [emitted_eq_ok, Bool.and_eq_true, decide_eq_true_iff, Bool.not_eq_true']

/-- A model that prints a text with characters of several bytes. -/
def greeting : App where
  name := "greeting"
  bricks := [⟨⟨"line"⟩, none, .serialLine 9600⟩]
  initial := some ⟨"hello"⟩
  states := [⟨⟨"hello"⟩, [.serialPrint ⟨"line"⟩ "Grüße"], []⟩]

/-- The greeting arrives in portions that cut its characters into pieces; if then the channel cannot
be flushed, that is the only error. -/
theorem emit_accounts_for_bytes_greeting :
    ∃ sketch, generate greeting ⟨.uno, 200⟩ = .ok sketch ∧
      (∃ record, emit greeting ⟨.uno, 200⟩
          (Channel.sink ⟨some 3, some (Text.encode sketch).length, false⟩) {} = (.ok (), record) ∧
        record.received = Text.encode sketch ∧ record.flushes = 1) ∧
      ∃ record, emit greeting ⟨.uno, 200⟩
          (Channel.sink ⟨some 3, some (Text.encode sketch).length, true⟩) {} =
            (.error ⟨"error", [.unwritable]⟩, record) ∧
        record.received = Text.encode sketch ∧ record.flushes = 1 := by
  have made : ∃ sketch, generate greeting ⟨.uno, 200⟩ = .ok sketch := ⟨_, rfl⟩
  obtain ⟨sketch, generated⟩ := made
  obtain ⟨result, after, _, eq, _, _, known⟩ := emit_accounts_for_bytes greeting ⟨.uno, 200⟩
    (Channel.sink ⟨some 3, some (Text.encode sketch).length, true⟩) {}
  obtain ⟨_, _, _, failure, _, channels⟩ := known sketch generated
  have length : (Text.encode sketch).length ≤ (Text.encode sketch).length := Nat.le_refl _
  refine ⟨sketch, generated, ?_, ?_⟩
  · obtain ⟨result, record, eq, received, flushes, succeeds⟩ :=
      channels 3 (Text.encode sketch).length false (by decide)
    rw [Nat.min_self, List.take_length] at received
    rw [if_pos length] at flushes
    rw [succeeds.mpr ⟨length, rfl⟩] at eq
    exact ⟨record, eq, received, flushes⟩
  · obtain ⟨result', record, eq', received, flushes, succeeds⟩ :=
      channels 3 (Text.encode sketch).length true (by decide)
    rw [Nat.min_self, List.take_length] at received
    rw [if_pos length] at flushes
    rw [eq, Prod.mk.injEq] at eq'
    obtain ⟨rfl, rfl⟩ := eq'
    rw [failure fun success => by cases (succeeds.mp success).2] at eq
    exact ⟨after, eq, received, flushes⟩

end Brickwork
