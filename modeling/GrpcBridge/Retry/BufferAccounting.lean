/-
# Retry.BufferAccounting -- the replay buffer is what the replays retain

`RetryingTransport` keeps one number, `used`, for all its calls.  A call reserves
from it in the callback of its source read and gives back in `commit`, which is
reached from response headers, from a message that fits no budget, from the end of
the call, and again from a late layer that does not know it has happened.

A step of a call touches three fields of its replay (`Replay.store`) or none.
`Charged` says what a step does to them and to `used` at once, one case for each move
(`Moved.charged`); the books of the whole transport (`Balanced`) follow by adding up.
-/
import GrpcBridge.Retry.Moves
import Mathlib.Algebra.BigOperators.Group.List.Basic
import Mathlib.Algebra.Order.BigOperators.Group.List

namespace GrpcBridge.Retry

open GrpcBridge.Theory

set_option autoImplicit false

variable {M : Type}

/-! ## What a replay retains -/

namespace Replay

/-- Serialized snapshots, each with its five bytes of gRPC framing. -/
def retained (r : Replay M) : Nat := (r.saved.map fun snapshot => snapshot.length + 5).sum

structure Retains (limit : Nat) (r : Replay M) : Prop where
  counted : r.bytes = r.retained
  bounded : r.bytes ≤ limit
  dropped : r.committed = true → r.saved = []

theorem Retains.congr {limit : Nat} {r r' : Replay M} (same : r'.store = r.store)
    (retains : r.Retains limit) : r'.Retains limit := by
  simp only [store, Prod.mk.injEq] at same
  obtain ⟨saved, bytes, committed⟩ := same
  refine ⟨?_, ?_, ?_⟩
  · rw [bytes, retained, saved]
    exact retains.counted
  · rw [bytes]
    exact retains.bounded
  · rw [committed, saved]
    exact retains.dropped

theorem Retains.empty {limit : Nat} {r : Replay M} (saved : r.saved = []) (bytes : r.bytes = 0) :
    r.Retains limit := by
  refine ⟨?_, ?_, fun _ => saved⟩
  · simp [retained, saved, bytes]
  · omega

/-- A committed replay has nothing left to give back. -/
theorem Retains.bytes_zero {limit : Nat} {r : Replay M} (retains : r.Retains limit)
    (committed : r.committed = true) : r.bytes = 0 := by
  rw [retains.counted, retained, retains.dropped committed]
  rfl

end Replay

/-! ## One step of a call -/

variable {o : RetryOptions} {c : Codec M}

/-- Call `call` becomes `call'`: `used` moves with the bytes its replay holds, and
goes up only as far as the shared budget. -/
structure Charged (o : RetryOptions) (t t' : Transport M) (i : Nat) (call call' : Call M) :
    Prop where
  calls : t'.calls = t.calls.set i call'
  used : t'.used = t.used + call'.replay.bytes - call.replay.bytes
  within : t'.used ≤ t.used ∨ t'.used ≤ o.bufferBytes
  retains : call'.replay.Retains o.perRpcBufferBytes
  finished : call'.phase = .finished → call'.replay.committed = true

section Charged

variable {t t₀ t' : Transport M} {i : Nat} {call call' : Call M}

/-- A step that leaves the store alone. -/
theorem Charged.kept (retains : call.replay.Retains o.perRpcBufferBytes) (throttled : t.Throttled t₀)
    (store : call'.replay.store = call.replay.store)
    (finished : call'.phase = .finished → call'.replay.committed = true) :
    Charged o t (t₀.setCall i call') i call call' := by
  have bytes : call'.replay.bytes = call.replay.bytes := congrArg (·.2.1) store
  refine ⟨?_, ?_, ?_, retains.congr store, finished⟩
  · simp [Transport.setCall, throttled.calls]
  · simp only [Transport.setCall, throttled.used, bytes]
    omega
  · left
    simp [Transport.setCall, throttled.used]

/-- A step that drops the snapshots and gives their bytes back. -/
theorem Charged.committed (throttled : t.Throttled t₀) (saved : call'.replay.saved = [])
    (bytes : call'.replay.bytes = 0)
    (finished : call'.phase = .finished → call'.replay.committed = true) :
    Charged o t ((t₀.release call.replay.bytes).setCall i call') i call call' := by
  refine ⟨?_, ?_, ?_, .empty saved bytes, finished⟩
  · simp [Transport.setCall, Transport.release, throttled.calls]
  · simp [Transport.setCall, Transport.release, throttled.used, bytes]
  · left
    simp only [Transport.setCall, Transport.release, throttled.used]
    omega

theorem Moved.charged {e : CallEvent} (moved : Moved o c t call e t₀ call')
    (retains : call.replay.Retains o.perRpcBufferBytes)
    (finished : call.phase = .finished → call.replay.committed = true) :
    Charged o t (t₀.setCall i call') i call call' := by
  cases moved with
  | replay _ store =>
      refine .kept retains (.refl t) store fun done => ?_
      exact (Replay.committed_of_store store).trans (finished done)
  | spills _ _ store =>
      obtain ⟨saved, rest⟩ := Prod.mk.inj store
      obtain ⟨bytes, committed⟩ := Prod.mk.inj rest
      exact .committed (.refl t) saved bytes fun _ => committed
  | saves bytes uncommitted fits room store =>
      obtain ⟨saved, rest⟩ := Prod.mk.inj store
      obtain ⟨held, still⟩ := Prod.mk.inj rest
      have running : call.phase ≠ .finished := by
        intro done
        rw [finished done] at uncommitted
        cases uncommitted
      refine ⟨rfl, ?_, .inr room, ⟨?_, ?_, ?_⟩, fun done => absurd done running⟩
      · simp only [Transport.setCall, held]
        omega
      · simp [Replay.retained, saved, held, retains.counted]
      · rw [held]
        exact fits
      · intro committed
        rw [still] at committed
        cases committed
  | aborts => exact .kept retains (.refl t) rfl finished
  | invokes _ | resumes _ | returns =>
      refine .kept retains (.refl t) rfl fun done => ?_
      cases done
  | throws throttled =>
      refine .kept retains throttled rfl fun done => ?_
      cases done
  | reselects _ throttled pauses | retries throttled pauses =>
      obtain ⟨configured, delay, phase⟩ := pauses.phase
      refine .kept retains throttled (congrArg Replay.store pauses.replay) fun done => ?_
      rw [phase] at done
      cases done
  | commits _ | streams => exact .committed (.refl t) rfl rfl fun _ => rfl
  | closes throttled => exact .committed throttled rfl rfl fun _ => rfl

end Charged

/-! ## The books of the transport -/

structure Balanced (o : RetryOptions) (t : Transport M) : Prop where
  used : t.used = (t.calls.map fun call => (call.replay.bytes : Int)).sum
  within : t.used ≤ o.bufferBytes
  retains : ∀ call ∈ t.calls, call.replay.Retains o.perRpcBufferBytes
  finished : ∀ call ∈ t.calls, call.phase = .finished → call.replay.committed = true

theorem step_balanced {t t' : Transport M} {e : TransportEvent M} (balanced : Balanced o t)
    (stepped : t.step o c e = some t') : Balanced o t' := by
  cases e with
  | «open» key kind source =>
      obtain rfl := Option.some.inj stepped
      refine ⟨?_, balanced.within, ?_, ?_⟩
      · simp [balanced.used]
      · intro call member
        rcases List.mem_append.1 member with old | new
        · exact balanced.retains call old
        · rw [List.mem_singleton.1 new]
          exact .empty rfl rfl
      · intro call member
        rcases List.mem_append.1 member with old | new
        · exact balanced.finished call old
        · rw [List.mem_singleton.1 new]
          nofun
  | call i e =>
      simp only [Transport.step] at stepped
      split at stepped
      · rename_i call found
        have member : call ∈ t.calls := List.mem_of_getElem? found
        obtain ⟨t₀, call', rfl, moved⟩ := stepCall_moves stepped
        have charged := moved.charged (i := i) (balanced.retains call member)
          (balanced.finished call member)
        have either : ∀ other ∈ (t₀.setCall i call').calls, other ∈ t.calls ∨ other = call' := by
          rw [charged.calls]
          exact fun other inside => List.mem_or_eq_of_mem_set inside
        refine ⟨?_, ?_, ?_, ?_⟩
        · obtain ⟨inside, rfl⟩ := List.getElem?_eq_some_iff.1 found
          rw [charged.used, charged.calls, List.map_set, List.sum_set', balanced.used]
          simp [inside]
          omega
        · rcases charged.within with down | below
          · exact down.trans balanced.within
          · exact below
        · intro other inside
          rcases either other inside with old | rfl
          · exact balanced.retains other old
          · exact charged.retains
        · intro other inside
          rcases either other inside with old | rfl
          · exact balanced.finished other old
          · exact charged.finished
      · cases stepped

theorem init_balanced : Balanced o (transportMachine o c).init := by
  refine ⟨?_, ?_, ?_, ?_⟩
  all_goals simp [transportMachine]

theorem balanced_of_reaches {t : Transport M}
    (reached : (transportMachine o c).Reaches Machine.always t) : Balanced o t :=
  Machine.Steps.invariant (Balanced o) (fun _ _ _ ok _ stepped => step_balanced ok stepped) reached
    init_balanced

/-- **The replay buffer.** Whatever the calls of one transport do: `used` is the sum
of what their replays hold, each replay holds its snapshots with their framing and no
more than its own limit, the sum stays within the shared limit, a committed replay
holds nothing, and once every call has been closed nothing is in use. -/
theorem used_eq_retained {t : Transport M}
    (reached : (transportMachine o c).Reaches Machine.always t) :
    t.used = (t.calls.map fun call => (call.replay.bytes : Int)).sum ∧
      (∀ call ∈ t.calls,
        call.replay.bytes = (call.replay.saved.map fun snapshot => snapshot.length + 5).sum ∧
          call.replay.bytes ≤ o.perRpcBufferBytes ∧
          (call.replay.committed = true → call.replay.saved = [] ∧ call.replay.bytes = 0)) ∧
      0 ≤ t.used ∧ t.used ≤ o.bufferBytes ∧
      ((∀ call ∈ t.calls, call.phase = .finished) → t.used = 0) := by
  have balanced := balanced_of_reaches reached
  refine ⟨balanced.used, ?_, ?_, balanced.within, ?_⟩
  · intro call member
    have retains := balanced.retains call member
    exact ⟨retains.counted, retains.bounded,
      fun committed => ⟨retains.dropped committed, retains.bytes_zero committed⟩⟩
  · rw [balanced.used]
    apply List.sum_nonneg
    simp
  · intro closed
    rw [balanced.used]
    apply List.sum_eq_zero
    intro n inside
    obtain ⟨call, member, rfl⟩ := List.mem_map.1 inside
    have committed := balanced.finished call member (closed call member)
    simp [(balanced.retains call member).bytes_zero committed]

/-! ## Two calls on one small buffer -/

def sharedBuffer : RetryOptions := { perRpcBufferBytes := 12, bufferBytes := 16 }

def twoBytes (k : Nat) : Option (List UInt8) := [[1], [2]][k]?

/-- Both calls retain their first message.  The second message of the first call fits
its own limit and not the shared one. -/
def crowded : List (TransportEvent (List UInt8)) :=
  [.open "/demo.Service/Collect" .stream twoBytes, .open "/demo.Service/Collect" .stream twoBytes,
    .call 0 .selected, .call 1 .selected, .call 0 (.next 0), .call 1 (.next 0), .call 0 .settle,
    .call 1 .settle, .call 0 (.resume 0), .call 0 (.next 0), .call 0 .settle]

theorem used_eq_retained_crowded :
    ∃ t, (transportMachine sharedBuffer rawCodec).run Machine.always
        (transportMachine sharedBuffer rawCodec).init crowded = some t ∧
      t.calls.map (·.replay.committed) = [true, false] ∧ t.used = 6 ∧
      t.used = (t.calls.map fun call => (call.replay.bytes : Int)).sum ∧
      t.used ≤ sharedBuffer.bufferBytes := by
  refine ⟨_, rfl, rfl, rfl, ?_⟩
  have account := used_eq_retained (Machine.steps_of_run (M := transportMachine sharedBuffer rawCodec)
    crowded rfl)
  exact ⟨account.1, account.2.2.2.1⟩

end GrpcBridge.Retry
