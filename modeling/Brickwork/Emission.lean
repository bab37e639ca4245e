import Brickwork.Generate
import Brickwork.Text.Utf8

/-!
# Emission

Handing a finished sketch to a sink that takes bytes in portions and may fail. Nothing is written
unless the whole sketch was made.
-/

namespace Brickwork

/-- Something that takes bytes. A call of `write` tells how many of the offered bytes were taken, or
fails; a call of `flush` tells whether it succeeded. -/
structure Sink (σ : Type) where
  write : List UInt8 → σ → Option Nat × σ
  flush : σ → Bool × σ

namespace Sink

variable {σ : Type}

/-- Offers bytes until all are taken. A call that takes none counts as a failure. A call that was
interrupted is no failure: it is made again, and as the sink answers for the call and its
repetitions together, interruptions do not show here. The result tells whether all were taken. -/
def writeAll (sink : Sink σ) (bytes : List UInt8) (state : σ) : Bool × σ :=
  match bytes with
  | [] => (true, state)
  | b :: rest =>
    match sink.write (b :: rest) state with
    | (none, state) => (false, state)
    | (some 0, state) => (false, state)
    | (some (n + 1), state) => sink.writeAll (rest.drop n) state
termination_by bytes.length
decreasing_by
  rw [List.length_drop, List.length_cons]
  omega

/-- Writes bytes and flushes. -/
def deliver (sink : Sink σ) (bytes : List UInt8) (state : σ) : Bool × σ :=
  match sink.writeAll bytes state with
  | (true, state) => sink.flush state
  | (false, state) => (false, state)

end Sink

/-- Makes the sketch of an app and writes it. -/
def emit {σ : Type} (app : App) (options : Options) (sink : Sink σ) (state : σ) :
    Except Diagnostics Unit × σ :=
  match generate app options with
  | .error diagnostics => (.error diagnostics, state)
  | .ok sketch =>
    match sink.deliver (Text.encode sketch) state with
    | (true, state) => (.ok (), state)
    | (false, state) => (.error { errors := [.unwritable] }, state)

/-- A sink that takes at most so many bytes in one call and in all, and may refuse to be flushed. -/
structure Channel where
  chunk : Option Nat := none
  limit : Option Nat := none
  flushFails : Bool := false
deriving DecidableEq, Inhabited

/-- What a channel has taken. -/
structure Channel.Record where
  /-- The bytes, latest first. -/
  backward : List UInt8 := []
  /-- The number of bytes. -/
  size : Nat := 0
  size_eq : size = backward.length := by rfl
  flushes : Nat := 0
deriving DecidableEq

namespace Channel

/-- The bytes that were taken, in order. -/
def Record.received (record : Record) : List UInt8 :=
  record.backward.reverse

/-- The record once more bytes are taken. -/
def Record.push (record : Record) (bytes : List UInt8) : Record where
  backward := bytes.reverse ++ record.backward
  size := record.size + bytes.length
  size_eq := by rw [List.length_append, List.length_reverse, record.size_eq, Nat.add_comm]
  flushes := record.flushes

/-- Taken bytes stand behind those taken before. -/
@[simp] theorem Record.received_push (record : Record) (bytes : List UInt8) :
    (record.push bytes).received = record.received ++ bytes := by
  simp [received, push]

/-- The offered bytes that are taken when so many were taken before; nothing once the limit is
reached. -/
def portion? (channel : Channel) (size : Nat) (offered : List UInt8) : Option (List UInt8) :=
  let chunk := match channel.chunk with
    | some chunk => offered.take chunk
    | none => offered
  match channel.limit with
  | none => some chunk
  | some limit => if limit ≤ size then none else some (chunk.take (limit - size))

/-- The channel as a sink. -/
def sink (channel : Channel) : Sink Record where
  write bytes record :=
    match channel.portion? record.size bytes with
    | none => (none, record)
    | some portion => (some portion.length, record.push portion)
  flush record := (!channel.flushFails, { record with flushes := record.flushes + 1 })

end Channel

end Brickwork
