/-
# Retry.Moves -- everything one step can do to a call

A step of a call stores the call back after something was done to it and to the
shared budgets.  `Moved` says what that can be, with the guards under which the
source does it, and `stepCall_moves` is the only case analysis over the steps: the
books of the replay buffer, the commitment of an RPC and the evidence behind a
retry are each a case analysis over `Moved`.

`Replay.store` is the part of a replay that the budgets are about, and most steps
leave it alone.
-/
import GrpcBridge.Retry.Transport

namespace GrpcBridge.Retry

open GrpcBridge.Theory

set_option autoImplicit false

variable {M : Type}

/-! ## What a replay retains -/

namespace Replay

/-- The fields that the budgets are about. -/
def store (r : Replay M) : List (List UInt8) × Nat × Bool := (r.saved, r.bytes, r.committed)

theorem committed_of_store {r r' : Replay M} (same : r'.store = r.store) :
    r'.committed = r.committed := congrArg (·.2.2) same

theorem next_store {c : Codec M} {r r' : Replay M} {a : Nat} (stepped : r.next c a = some r') :
    r'.store = r.store := by
  unfold next at stepped
  repeat' split at stepped
  all_goals cases stepped
  all_goals first
    | rfl
    | (simp only [join]; split <;> rfl)

theorem reject_store {r r' : Replay M} (stepped : r.reject = some r') : r'.store = r.store := by
  unfold reject at stepped
  split at stepped <;> cases stepped
  rfl

theorem resume_store {r r' : Replay M} {a : Nat} (stepped : r.resume a = some r') :
    r'.store = r.store := by
  unfold resume at stepped
  repeat' split at stepped
  all_goals cases stepped
  all_goals rfl

theorem stop_store {r r' : Replay M} {a : Nat} (stepped : r.stop a = some r') :
    r'.store = r.store := by
  unfold stop at stepped
  split at stepped <;> cases stepped
  rfl

end Replay

/-! ## The budgets -/

section Budgets

variable (o : RetryOptions)

@[simp] theorem Transport.success_used (t : Transport M) : (t.success o).used = t.used := by
  unfold Transport.success
  split <;> rfl

@[simp] theorem Transport.success_calls (t : Transport M) : (t.success o).calls = t.calls := by
  unfold Transport.success
  split <;> rfl

@[simp] theorem Transport.failure_used (t : Transport M) (error : CallError)
    (policy : Option RetryPolicy) : (t.failure o error policy).used = t.used := by
  unfold Transport.failure
  split
  · split <;> rfl
  · rfl

@[simp] theorem Transport.failure_calls (t : Transport M) (error : CallError)
    (policy : Option RetryPolicy) : (t.failure o error policy).calls = t.calls := by
  unfold Transport.failure
  split
  · split <;> rfl
  · rfl

end Budgets

/-- Only the throttle's tokens may differ. -/
structure Transport.Throttled (t t₀ : Transport M) : Prop where
  calls : t₀.calls = t.calls
  used : t₀.used = t.used

theorem Transport.Throttled.refl (t : Transport M) : Throttled t t := ⟨rfl, rfl⟩

theorem Transport.throttled_success (o : RetryOptions) (t : Transport M) : Throttled t (t.success o) :=
  ⟨t.success_calls o, t.success_used o⟩

theorem Transport.throttled_failure (o : RetryOptions) (t : Transport M) (error : CallError)
    (policy : Option RetryPolicy) : Throttled t (t.failure o error policy) :=
  ⟨t.failure_calls o error policy, t.failure_used o error policy⟩

/-! ## Moves -/

/-- The message the source brings next is over one of the two budgets. -/
def Call.overflows (o : RetryOptions) (c : Codec M) (used : Int) (call : Call M) : Bool :=
  match call.source call.replay.settled.length with
  | none => false
  | some m =>
      let size := (c.toBinary m).length + 5
      decide (call.replay.bytes + size > o.perRpcBufferBytes) ||
        decide (used + size > o.bufferBytes)

/-- The entry of an error in `failures`, as far as the loop reads it. -/
def CallError.evidence (error : CallError) : Option H2.Evidence := error.info.bind (·.evidence)

variable (o : RetryOptions) (c : Codec M) (t : Transport M) (call : Call M)

/-- The catch block pauses before another attempt: nothing is committed, and the error
comes with evidence or the method with a policy. -/
structure Pauses (error : CallError) (call' : Call M) : Prop where
  uncommitted : call.replay.committed = false
  excuse : error.evidence.isSome = true ∨ call.policy.isSome = true
  replay : call'.replay = call.replay
  policy : call'.policy = call.policy
  invoked : call'.invoked = call.invoked
  phase : ∃ configured delay, call'.phase = .pausing configured delay

/-- What a step makes of a call, and of the transport it is stored back into. -/
inductive Moved : CallEvent → Transport M → Call M → Prop
  /-- A replay event that leaves the store alone. -/
  | replay {e : CallEvent} {r : Replay M} : e ≠ .selected → r.store = call.replay.store →
      Moved e t { call with replay := r }
  /-- The message read is over budget. -/
  | spills {r : Replay M} : call.replay.committed = false → call.overflows o c t.used = true →
      r.store = ([], 0, true) → Moved .settle (t.release call.replay.bytes) { call with replay := r }
  /-- The message read is saved. -/
  | saves {r : Replay M} (bytes : List UInt8) : call.replay.committed = false →
      call.replay.bytes + (bytes.length + 5) ≤ o.perRpcBufferBytes →
      t.used + (bytes.length + 5 : Nat) ≤ o.bufferBytes →
      r.store = (call.replay.saved ++ [bytes], call.replay.bytes + (bytes.length + 5), false) →
      Moved .settle { t with used := t.used + (bytes.length + 5 : Nat) } { call with replay := r }
  | aborts : Moved .abort t { call with aborted := true }
  | invokes : call.phase = .selecting →
      Moved .selected t
        { call with
          phase := .invoking
          replay := call.replay.iterable
          invoked := call.invoked ++
            [{ previousAttempts := if call.previous = 0 then none else some call.previous
               committed := call.replay.committed }] }
  | throws {e : CallEvent} {t₀ : Transport M} : t.Throttled t₀ → Moved e t₀ { call with phase := .threw }
  /-- A selection fails, and the loop goes on to the next one. -/
  | reselects {connect : Option Status} {random : ℚ} {t₀ : Transport M} {call' : Call M} :
      call.phase = .selecting → t.Throttled t₀ → Pauses call { connect } call' →
      Moved (.selectFails connect random) t₀ call'
  /-- An attempt fails, and the loop goes on to the next one. -/
  | retries {error : CallError} {random : ℚ} {t₀ : Transport M} {call' : Call M} :
      t.Throttled t₀ → Pauses call error call' → Moved (.fails error random) t₀ call'
  | resumes {configured : Bool} {delay : ℚ} : call.phase = .pausing configured delay →
      Moved .pauseEnds t
        { call with
          previous := if configured then call.previous + 1 else call.previous
          retry := true
          phase := .selecting }
  | commits : call.phase = .invoking →
      Moved .headers (t.release call.replay.bytes) { call with replay := call.replay.commit }
  | returns : Moved .resolves t { call with phase := .returning }
  | streams : Moved .wrap (t.release call.replay.bytes)
      { call with phase := .streaming, replay := call.replay.commit }
  | closes {e : CallEvent} {t₀ : Transport M} : t.Throttled t₀ →
      Moved e (t₀.release call.replay.bytes)
        { call with replay := call.replay.close, phase := .finished }

variable {o c t call} {i : Nat} {t' : Transport M}

/-- The other calls are where they were. -/
theorem Moved.calls {e : CallEvent} {t₀ : Transport M} {call' : Call M}
    (moved : Moved o c t call e t₀ call') : t₀.calls = t.calls := by
  cases moved with
  | throws throttled | reselects _ throttled _ | retries throttled _ | closes throttled =>
      exact throttled.calls
  | replay _ _ | spills _ _ _ | saves _ _ _ _ _ | aborts | invokes _ | resumes _ | commits _
  | returns | streams => rfl

/-- The catch block, branch by branch. -/
inductive Caught (o : RetryOptions) (t : Transport M) (call : Call M) (error : CallError) :
    Transport M → Call M → Prop
  | aborted : call.aborted = true → Caught o t call error t { call with phase := .threw }
  /-- Transparent, but something of the RPC is committed. -/
  | late : Caught o t call error t { call with phase := .threw }
  | throws : Caught o t call error (t.failure o error call.policy) { call with phase := .threw }
  | transparent : call.replay.committed = false →
      error.evidence = some .unsent ∨ (error.evidence = some .refused ∧ call.refused = false) →
      Caught o t call error t
        { call with
          refused := call.refused || decide (error.evidence = some .refused)
          retry := true
          phase := .pausing false 0 }
  | configured {policy : RetryPolicy} {status : Status} (delay backoff : ℚ) :
      call.replay.committed = false → call.policy = some policy → error.connect = some status →
      status.code ∈ policy.retryableStatusCodes → call.previous + 1 < policy.maxAttempts →
      (∀ throttle ∈ o.throttling,
        throttle.maxTokens / 2 < (t.failure o error call.policy).tokens) →
      (∀ text ∈ status.pushback, (pushbackMs text).isSome = true) →
      Caught o t call error (t.failure o error call.policy)
        { call with backoff := backoff, phase := .pausing true delay }

theorem caught_cases (t : Transport M) (i : Nat) (call : Call M) (error : CallError) (random : ℚ) :
    ∃ t₀ call', t.caught o i call error random = t₀.setCall i call' ∧
      Caught o t call error t₀ call' := by
  unfold Transport.caught
  by_cases aborted : call.aborted = true
  · rw [if_pos aborted]
    exact ⟨t, _, rfl, .aborted aborted⟩
  rw [if_neg aborted]
  dsimp only
  by_cases transparent : error.info.bind FailureInfo.evidence = some .unsent ∨
      (error.info.bind FailureInfo.evidence = some .refused ∧ call.refused = false)
  · rw [if_pos transparent, if_pos transparent]
    split
    · exact ⟨t, _, rfl, .late⟩
    · rename_i unsettled
      exact ⟨t, _, rfl, .transparent (Bool.eq_false_iff.2 (not_or.1 unsettled).1) transparent⟩
  rw [if_neg transparent, if_neg transparent]
  have throws : ∃ t₀ call', (t.failure o error call.policy).setCall i { call with phase := .threw } =
      t₀.setCall i call' ∧ Caught o t call error t₀ call' := ⟨_, _, rfl, .throws⟩
  split
  · exact throws
  rename_i unsettled
  have uncommitted : call.replay.committed = false := Bool.eq_false_iff.2 (not_or.1 unsettled).1
  split
  · rename_i policy status found connect
    split
    · exact throws
    rename_i retryable
    split
    · exact throws
    rename_i left
    split
    · exact throws
    rename_i unthrottled
    have retryable := Decidable.of_not_not retryable
    have left : call.previous + 1 < policy.maxAttempts := Nat.lt_of_not_le left
    have tokens : ∀ throttle ∈ o.throttling,
        throttle.maxTokens / 2 < (t.failure o error call.policy).tokens := by
      intro throttle enabled
      rw [enabled] at unthrottled
      simpa using unthrottled
    split
    · rename_i text pushed
      split
      · exact throws
      · rename_i delay read
        refine ⟨_, _, rfl, .configured _ _ uncommitted found connect retryable left tokens ?_⟩
        intro other same
        cases pushed.symm.trans same
        rw [read]
        rfl
    · rename_i unpushed
      refine ⟨_, _, rfl, .configured _ _ uncommitted found connect retryable left tokens ?_⟩
      intro text same
      rw [unpushed] at same
      cases same
  · exact throws

/-- The catch block throws or pauses. -/
theorem caught_moves (t : Transport M) (i : Nat) (call : Call M) (error : CallError) (random : ℚ) :
    ∃ t₀ call', t.caught o i call error random = t₀.setCall i call' ∧ t.Throttled t₀ ∧
      (call' = { call with phase := .threw } ∨ Pauses call error call') := by
  obtain ⟨t₀, call', stored, caught⟩ := caught_cases (o := o) t i call error random
  refine ⟨t₀, call', stored, ?_⟩
  cases caught with
  | aborted _ => exact ⟨.refl t, .inl rfl⟩
  | late => exact ⟨.refl t, .inl rfl⟩
  | throws => exact ⟨t.throttled_failure o error call.policy, .inl rfl⟩
  | transparent uncommitted excuse =>
      refine ⟨.refl t, .inr ⟨uncommitted, .inl ?_, rfl, rfl, rfl, _, _, rfl⟩⟩
      obtain unsent | ⟨refused, -⟩ := excuse
      · rw [unsent]
        rfl
      · rw [refused]
        rfl
  | configured delay backoff uncommitted found =>
      refine ⟨t.throttled_failure o error call.policy,
        .inr ⟨uncommitted, .inr ?_, rfl, rfl, rfl, _, _, rfl⟩⟩
      rw [found]
      rfl

/-- The callback of the source read: nothing to keep, one of the budgets is exceeded, or the
message is saved and charged to both. -/
theorem settle_moves (stepped : t.settle o c i call = some t') :
    ∃ t₀ call', t' = t₀.setCall i call' ∧ Moved o c t call .settle t₀ call' := by
  unfold Transport.settle at stepped
  simp only [Replay.settle] at stepped
  by_cases inFlight : call.replay.settled.length < call.replay.reads
  · simp only [if_pos inFlight] at stepped
    cases item : call.source call.replay.settled.length with
    | none =>
        simp only [item, Option.map_some] at stepped
        obtain rfl := Option.some.inj stepped
        exact ⟨t, _, rfl, .replay CallEvent.noConfusion rfl⟩
    | some m =>
        simp only [item] at stepped
        split at stepped
        · obtain rfl := Option.some.inj stepped
          exact ⟨t, _, rfl, .replay CallEvent.noConfusion rfl⟩
        · rename_i open_
          have uncommitted := Bool.eq_false_iff.2 open_
          have spilled : call.overflows o c t.used = true →
              some ((t.release call.replay.bytes).setCall i { call with
                replay := { call.replay with
                  settled := call.replay.settled ++ [ReadResult.value (c.fromBinary (c.toBinary m))] }.commit }) =
                some t' → ∃ t₀ call', t' = t₀.setCall i call' ∧ Moved o c t call .settle t₀ call' :=
            fun exceeded done =>
              ⟨_, _, (Option.some.inj done).symm, .spills uncommitted exceeded rfl⟩
          split at stepped
          · rename_i tooLong
            simp only [if_true, Bool.or_true, Bool.not_false, Option.map_some] at stepped
            refine spilled ?_ stepped
            simp [Call.overflows, item, tooLong]
          · rename_i fits
            unfold Transport.reserve at stepped
            by_cases full : t.used + ((c.toBinary m).length + 5 : Nat) > o.bufferBytes
            · simp only [if_pos full, if_true, Bool.or_true, Bool.not_false,
                Option.map_some] at stepped
              refine spilled ?_ stepped
              have above : (o.bufferBytes : Int) < t.used + ((c.toBinary m).length + 5) := by
                push_cast at full
                omega
              simp [Call.overflows, item, above]
            · simp only [if_neg full, fits, decide_false, Bool.or_false, Bool.not_true,
                Bool.false_eq_true, if_false, Option.map_some] at stepped
              refine ⟨_, _, (Option.some.inj stepped).symm,
                .saves (c.toBinary m) uncommitted (Nat.not_lt.1 fits) (Int.not_lt.1 full) ?_⟩
              rw [Replay.store, uncommitted]
  · simp only [if_neg inFlight, Option.map_none] at stepped
    repeat' split at stepped
    all_goals cases stepped

/-- **One step of a call.** -/
theorem stepCall_moves {e : CallEvent} (stepped : t.stepCall o c i call e = some t') :
    ∃ t₀ call', t' = t₀.setCall i call' ∧ Moved o c t call e t₀ call' := by
  cases e with
  | settle => exact settle_moves stepped
  | next a =>
      obtain ⟨r, moved, rfl⟩ := Option.map_eq_some_iff.1 stepped
      exact ⟨t, _, rfl, .replay CallEvent.noConfusion (Replay.next_store moved)⟩
  | reject =>
      obtain ⟨r, moved, rfl⟩ := Option.map_eq_some_iff.1 stepped
      exact ⟨t, _, rfl, .replay CallEvent.noConfusion (Replay.reject_store moved)⟩
  | resume a =>
      obtain ⟨r, moved, rfl⟩ := Option.map_eq_some_iff.1 stepped
      exact ⟨t, _, rfl, .replay CallEvent.noConfusion (Replay.resume_store moved)⟩
  | stop a =>
      obtain ⟨r, moved, rfl⟩ := Option.map_eq_some_iff.1 stepped
      exact ⟨t, _, rfl, .replay CallEvent.noConfusion (Replay.stop_store moved)⟩
  | abort =>
      cases stepped
      exact ⟨t, _, rfl, .aborts⟩
  | selected =>
      simp only [Transport.stepCall] at stepped
      split at stepped
      · rename_i selecting
        split at stepped <;> cases stepped
        · exact ⟨t, _, rfl, .throws (.refl t)⟩
        · exact ⟨t, _, rfl, .invokes selecting⟩
      · cases stepped
  | selectFails connect random =>
      simp only [Transport.stepCall] at stepped
      split at stepped
      · rename_i selecting
        cases stepped
        obtain ⟨t₀, call', stored, throttled, rfl | pauses⟩ :=
          caught_moves (o := o) t i call { connect } random
        · exact ⟨t₀, _, stored, .throws throttled⟩
        · exact ⟨t₀, call', stored, .reselects selecting throttled pauses⟩
      · cases stepped
  | fails error random =>
      simp only [Transport.stepCall] at stepped
      split at stepped <;> cases stepped
      obtain ⟨t₀, call', stored, throttled, rfl | pauses⟩ :=
        caught_moves (o := o) t i call error random
      · exact ⟨t₀, _, stored, .throws throttled⟩
      · exact ⟨t₀, call', stored, .retries throttled pauses⟩
  | headers =>
      simp only [Transport.stepCall] at stepped
      split at stepped
      · rename_i invoking
        cases stepped
        exact ⟨_, _, rfl, .commits invoking⟩
      · cases stepped
  | resolves =>
      simp only [Transport.stepCall] at stepped
      split at stepped <;> cases stepped
      exact ⟨t, _, rfl, .returns⟩
  | pauseEnds =>
      simp only [Transport.stepCall] at stepped
      split at stepped
      · rename_i pausing
        split at stepped <;> cases stepped
        · exact ⟨t, _, rfl, .throws (.refl t)⟩
        · exact ⟨t, _, rfl, .resumes pausing⟩
      · cases stepped
  | wrap =>
      simp only [Transport.stepCall] at stepped
      split at stepped
      · cases stepped
        exact ⟨_, _, rfl, .closes (.refl t)⟩
      · split at stepped <;> cases stepped
        · exact ⟨_, _, rfl, .closes (t.throttled_success o)⟩
        · exact ⟨_, _, rfl, .streams⟩
      · cases stepped
  | streamEnds outcome =>
      simp only [Transport.stepCall] at stepped
      split at stepped
      · split at stepped <;> cases stepped
        · exact ⟨_, _, rfl, .closes (t.throttled_success o)⟩
        · exact ⟨_, _, rfl, .closes (t.throttled_failure o _ call.policy)⟩
        · exact ⟨_, _, rfl, .closes (.refl t)⟩
      · cases stepped

end GrpcBridge.Retry
