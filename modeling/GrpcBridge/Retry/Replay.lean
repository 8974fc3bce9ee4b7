/-
# Retry.Replay -- one source iterator behind every attempt of an RPC

`Replay` (web/src/retry.ts) reads the caller's input iterator once and hands its
messages to every attempt of a logical RPC: serialized snapshots of what was
already read, then the source itself through one shared pending read.  While the
RPC can still be retried each message is retained in `saved`; `commit` drops the
snapshots for good.

The class is asynchronous, so the model splits its methods where they await:

* `next` is the synchronous front of an attempt's `next()`: a snapshot, the end,
  or an `await` on the shared read, which it starts if there is none;
* `settle` is the `.then` callback of that read, `reject` its failure;
* `resume` is the rest of `next()` once the awaited read has settled.

A read is a promise and `this.pending === pending` compares identities, so reads
are numbered: read `k` is the `k`-th call of `source.next()` and is answered with
the `k`-th item of the source.  An attempt's consumer calls `next()` only after
its previous `next()` has returned, as the `pull` of a `ReadableStream` does.

Every attempt carries the messages its consumer was handed (`received`) and
whether it was told `done` (`sawDone`).
-/
import GrpcBridge.Theory.Machine

namespace GrpcBridge.Retry

open GrpcBridge.Theory

set_option autoImplicit false

/-- `toBinary` and `fromBinary` of one Protobuf-ES message schema. -/
structure Codec (M : Type) where
  toBinary : M → List UInt8
  fromBinary : List UInt8 → M
  roundTrip : ∀ m, fromBinary (toBinary m) = m

/-- Messages that are their own serialization. -/
def rawCodec : Codec (List UInt8) := ⟨id, id, fun _ => rfl⟩

/-- What a settled read of the source holds. -/
inductive ReadResult (M : Type) where
  | done
  | value (m : M)
  | thrown
deriving DecidableEq, Repr

/-- One iterator obtained from `iterable()`. -/
structure Attempt (M : Type) where
  index : Nat := 0
  stopped : Bool := false
  /-- The read this attempt's `next()` is awaiting. -/
  awaiting : Option Nat := none
  received : List M := []
  sawDone : Bool := false
  /-- Reads that had settled when `next()` last returned. -/
  seen : Nat := 0
deriving DecidableEq, Repr

structure Replay (M : Type) where
  saved : List (List UInt8) := []
  bytes : Nat := 0
  pending : Option Nat := none
  ended : Bool := false
  committed : Bool := false
  /-- Calls of `source.next()` so far. -/
  reads : Nat := 0
  /-- Results of the settled reads, in order. -/
  settled : List (ReadResult M) := []
  attempts : List (Attempt M) := []
  closed : Bool := false
deriving DecidableEq, Repr

namespace Replay

variable {M : Type}

def commit (r : Replay M) : Replay M :=
  { r with committed := true, bytes := 0, saved := [] }

def iterable (r : Replay M) : Replay M :=
  { r with attempts := r.attempts ++ [{}] }

def setAttempt (r : Replay M) (a : Nat) (t : Attempt M) : Replay M :=
  { r with attempts := r.attempts.set a t }

/-- `next()` returns a message to the consumer of attempt `a`. -/
def deliver (r : Replay M) (a : Nat) (t : Attempt M) (m : M) : Replay M :=
  r.setAttempt a
    { t with
      index := t.index + 1, awaiting := none, received := t.received ++ [m],
      seen := r.settled.length }

/-- `next()` returns `{ done: true }` to the consumer of attempt `a`. -/
def finish (r : Replay M) (a : Nat) (t : Attempt M) : Replay M :=
  r.setAttempt a { t with awaiting := none, sawDone := true, seen := r.settled.length }

/-- `this.pending ??= this.source.next().then(...)`, then `await` it. -/
def join (r : Replay M) (a : Nat) (t : Attempt M) : Replay M :=
  match r.pending with
  | some k => r.setAttempt a { t with awaiting := some k }
  | none =>
      { r with pending := some r.reads, reads := r.reads + 1 }.setAttempt a
        { t with awaiting := some r.reads }

/-- Continuations run in the order they were queued.  Those of a settled read
were queued when it settled, so a consumer whose `next()` returned after that
runs behind all of them, and the first of them has cleared `pending`. -/
def inTurn (r : Replay M) (t : Attempt M) : Bool :=
  match r.pending with
  | none => true
  | some k =>
      match r.settled[k]? with
      | some .done | some (.value _) => decide (t.seen ≤ k)
      | some .thrown | none => true

/-- The consumer of attempt `a` calls `next()`. -/
def next (c : Codec M) (r : Replay M) (a : Nat) : Option (Replay M) :=
  match r.attempts[a]? with
  | none => none
  | some t =>
      if t.awaiting.isSome || !r.inTurn t then none
      else if t.stopped then some r
      else match r.saved[t.index]? with
        | some bytes => some (r.deliver a t (c.fromBinary bytes))
        | none => if r.ended then some (r.finish a t) else some (r.join a t)

/-- The `.then` callback of the read in flight.  `reserved` is the answer of the
transport's shared budget, should it be asked. -/
def settle (c : Codec M) (limit : Nat) (source : Nat → Option M) (r : Replay M)
    (reserved : Bool) : Option (Replay M) :=
  if r.settled.length < r.reads then
    match source r.settled.length with
    | none => some { r with ended := true, settled := r.settled ++ [.done] }
    | some m =>
        let bytes := c.toBinary m
        let read := { r with settled := r.settled ++ [.value (c.fromBinary bytes)] }
        if r.committed then some read
        else
          let size := bytes.length + 5
          if r.bytes + size > limit || !reserved then some read.commit
          else some { read with bytes := r.bytes + size, saved := r.saved ++ [bytes] }
  else none

/-- The read in flight rejects: the source threw, or a message would not serialize. -/
def reject (r : Replay M) : Option (Replay M) :=
  if r.settled.length < r.reads then some { r with settled := r.settled ++ [.thrown] }
  else none

/-- The continuation of `await pending` in the `next()` of attempt `a`. -/
def resume (r : Replay M) (a : Nat) : Option (Replay M) :=
  match r.attempts[a]? with
  | none => none
  | some t =>
      match t.awaiting with
      | none => none
      | some k =>
          let cleared := if r.pending = some k then { r with pending := none } else r
          match r.settled[k]? with
          | none => none
          -- a rejected read leaves `next()` by the exception and stays `pending`
          | some .thrown => some (r.setAttempt a { t with awaiting := none })
          | some .done =>
              some (if t.stopped then cleared.setAttempt a { t with awaiting := none }
                else cleared.finish a t)
          | some (.value m) =>
              some (if t.stopped then
                  cleared.setAttempt a { t with index := t.index + 1, awaiting := none }
                else cleared.deliver a t m)

/-- `return()` of attempt `a`'s iterator. -/
def stop (r : Replay M) (a : Nat) : Option (Replay M) :=
  match r.attempts[a]? with
  | none => none
  | some t => some (r.setAttempt a { t with stopped := true })

def close (r : Replay M) : Replay M :=
  { r.commit with ended := true, closed := true }

end Replay

/-- What happens to one `Replay`. -/
inductive ReplayEvent where
  | iterable
  | next (a : Nat)
  | settle (reserved : Bool)
  | reject
  | resume (a : Nat)
  | stop (a : Nat)
  | commit
  | close
deriving DecidableEq, Repr

variable {M : Type}

def Replay.step (c : Codec M) (limit : Nat) (source : Nat → Option M) (r : Replay M) :
    ReplayEvent → Option (Replay M)
  | .iterable => some r.iterable
  | .next a => r.next c a
  | .settle reserved => r.settle c limit source reserved
  | .reject => r.reject
  | .resume a => r.resume a
  | .stop a => r.stop a
  | .commit => some r.commit
  | .close => some r.close

/-- Every interleaving of attempts, source reads and commits of one RPC. -/
def replayMachine (c : Codec M) (limit : Nat) (source : Nat → Option M) :
    Machine (Replay M) ReplayEvent where
  init := {}
  step := Replay.step c limit source

end GrpcBridge.Retry
