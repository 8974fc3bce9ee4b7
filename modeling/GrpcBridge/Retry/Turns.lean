/-
# Retry.Turns -- the retry loop, phase by phase

`Moved` says what a step does to the replay buffer.  `Turn` says what it does to the rest:
the phase that the loop is parked at, the tokens of the throttle, and the counters that
decide whether there is another attempt.  The catch block is `Caught`.
-/
import GrpcBridge.Retry.Moves

namespace GrpcBridge.Retry

open GrpcBridge.Theory

set_option autoImplicit false

variable {M : Type}

/-! ## Turns -/

/-- The source read, or an iterator over the replay. -/
def CallEvent.reads : CallEvent → Bool
  | .next _ | .settle | .reject | .resume _ | .stop _ => true
  | _ => false

/-- The call waits for a configured retry. -/
def Call.granted (call : Call M) : Bool :=
  match call.phase with
  | .pausing configured _ => configured
  | _ => false

/-- The tokens and the calls are as they were. -/
structure Transport.Untouched (t t₀ : Transport M) : Prop where
  calls : t₀.calls = t.calls
  tokens : t₀.tokens = t.tokens

/-- What a step makes of the loop of one call. -/
inductive Turn (o : RetryOptions) (t : Transport M) (call : Call M) :
    CallEvent → Transport M → Call M → Prop
  | reads {e : CallEvent} {t₀ : Transport M} (r : Replay M) : e.reads = true → t.Untouched t₀ →
      Turn o t call e t₀ { call with replay := r }
  | aborts : Turn o t call .abort t { call with aborted := true }
  | selectedLate : call.phase = .selecting → Turn o t call .selected t { call with phase := .threw }
  | invokes : call.phase = .selecting →
      Turn o t call .selected t
        { call with
          phase := .invoking
          replay := call.replay.iterable
          invoked := call.invoked ++
            [{ previousAttempts := if call.previous = 0 then none else some call.previous
               committed := call.replay.committed }] }
  | unselected {connect : Option Status} {random : ℚ} {t₀ : Transport M} {call' : Call M} :
      call.phase = .selecting → Caught o t call { connect } t₀ call' →
      Turn o t call (.selectFails connect random) t₀ call'
  | headers : call.phase = .invoking →
      Turn o t call .headers (t.release call.replay.bytes) { call with replay := call.replay.commit }
  | resolves : call.phase = .invoking → Turn o t call .resolves t { call with phase := .returning }
  | fails {error : CallError} {random : ℚ} {t₀ : Transport M} {call' : Call M} :
      call.phase = .invoking → Caught o t call error t₀ call' →
      Turn o t call (.fails error random) t₀ call'
  | pausedLate {configured : Bool} {delay : ℚ} : call.phase = .pausing configured delay →
      Turn o t call .pauseEnds t { call with phase := .threw }
  | resumes {configured : Bool} {delay : ℚ} : call.phase = .pausing configured delay →
      Turn o t call .pauseEnds t
        { call with
          previous := if configured then call.previous + 1 else call.previous
          retry := true
          phase := .selecting }
  | streams : call.phase = .returning → call.kind = .stream →
      Turn o t call .wrap (t.release call.replay.bytes)
        { call with phase := .streaming, replay := call.replay.commit }
  | succeeds {e : CallEvent} :
      (call.phase = .returning ∧ call.kind = .unary ∧ e = .wrap) ∨
        (call.phase = .streaming ∧ e = .streamEnds .completed) →
      Turn o t call e ((t.success o).release call.replay.bytes)
        { call with replay := call.replay.close, phase := .finished }
  | streamFails (error : CallError) : call.phase = .streaming →
      Turn o t call (.streamEnds (.failed error))
        ((t.failure o error call.policy).release call.replay.bytes)
        { call with replay := call.replay.close, phase := .finished }
  | ends {e : CallEvent} :
      (call.phase = .threw ∧ e = .wrap) ∨
        (call.phase = .streaming ∧ e = .streamEnds .abandoned) →
      Turn o t call e (t.release call.replay.bytes)
        { call with replay := call.replay.close, phase := .finished }

variable {o : RetryOptions} {c : Codec M} {t t' t₀ : Transport M} {call call' : Call M} {i : Nat}

theorem settle_untouched (stepped : t.settle o c i call = some t') :
    ∃ t₀ r, t' = t₀.setCall i { call with replay := r } ∧ t.Untouched t₀ := by
  have stored : ∀ {t₀ : Transport M} {reserved : Bool},
      (call.replay.settle c o.perRpcBufferBytes call.source reserved).map
        (fun r => t₀.setCall i { call with replay := r }) = some t' → t.Untouched t₀ →
      ∃ t₀ r, t' = t₀.setCall i { call with replay := r } ∧ t.Untouched t₀ := by
    intro t₀ reserved mapped untouched
    obtain ⟨r, -, rfl⟩ := Option.map_eq_some_iff.1 mapped
    exact ⟨t₀, r, rfl, untouched⟩
  unfold Transport.settle at stepped
  dsimp only at stepped
  split at stepped
  · exact stored stepped ⟨rfl, rfl⟩
  · split at stepped
    · exact stored stepped ⟨rfl, rfl⟩
    · split at stepped
      · exact stored stepped ⟨rfl, rfl⟩
      · split at stepped
        · rename_i reserved
          unfold Transport.reserve at reserved
          split at reserved
          · cases reserved
          · cases reserved
            exact stored stepped ⟨rfl, rfl⟩
        · exact stored stepped ⟨rfl, rfl⟩

/-- **One step of a call.** -/
theorem stepCall_turns {e : CallEvent} (stepped : t.stepCall o c i call e = some t') :
    ∃ t₀ call', t' = t₀.setCall i call' ∧ Turn o t call e t₀ call' := by
  cases e with
  | settle =>
      obtain ⟨t₀, r, stored, untouched⟩ := settle_untouched stepped
      exact ⟨t₀, _, stored, .reads r rfl untouched⟩
  | next a | reject | resume a | stop a =>
      obtain ⟨r, -, rfl⟩ := Option.map_eq_some_iff.1 stepped
      exact ⟨t, _, rfl, .reads r rfl ⟨rfl, rfl⟩⟩
  | abort =>
      cases stepped
      exact ⟨t, _, rfl, .aborts⟩
  | selected =>
      simp only [Transport.stepCall] at stepped
      split at stepped
      · rename_i selecting
        split at stepped
        · cases stepped
          exact ⟨t, _, rfl, .selectedLate selecting⟩
        · cases stepped
          exact ⟨t, _, rfl, .invokes selecting⟩
      · cases stepped
  | selectFails connect random =>
      simp only [Transport.stepCall] at stepped
      split at stepped
      · rename_i selecting
        cases stepped
        obtain ⟨t₀, call', stored, caught⟩ := caught_cases (o := o) t i call { connect } random
        exact ⟨t₀, call', stored, .unselected selecting caught⟩
      · cases stepped
  | headers =>
      simp only [Transport.stepCall] at stepped
      split at stepped
      · rename_i invoking
        cases stepped
        exact ⟨_, _, rfl, .headers invoking⟩
      · cases stepped
  | resolves =>
      simp only [Transport.stepCall] at stepped
      split at stepped
      · rename_i invoking
        cases stepped
        exact ⟨t, _, rfl, .resolves invoking⟩
      · cases stepped
  | fails error random =>
      simp only [Transport.stepCall] at stepped
      split at stepped
      · rename_i invoking
        cases stepped
        obtain ⟨t₀, call', stored, caught⟩ := caught_cases (o := o) t i call error random
        exact ⟨t₀, call', stored, .fails invoking caught⟩
      · cases stepped
  | pauseEnds =>
      simp only [Transport.stepCall] at stepped
      split at stepped
      · rename_i pausing
        split at stepped
        · cases stepped
          exact ⟨t, _, rfl, .pausedLate pausing⟩
        · cases stepped
          exact ⟨t, _, rfl, .resumes pausing⟩
      · cases stepped
  | wrap =>
      simp only [Transport.stepCall] at stepped
      split at stepped
      · rename_i threw
        cases stepped
        exact ⟨_, _, rfl, .ends (.inl ⟨threw, rfl⟩)⟩
      · rename_i returning
        split at stepped
        · rename_i unary
          cases stepped
          exact ⟨_, _, rfl, .succeeds (.inl ⟨returning, unary, rfl⟩)⟩
        · rename_i stream
          cases stepped
          exact ⟨_, _, rfl, .streams returning stream⟩
      · cases stepped
  | streamEnds outcome =>
      simp only [Transport.stepCall] at stepped
      split at stepped
      · rename_i streaming
        split at stepped
        · cases stepped
          exact ⟨_, _, rfl, .succeeds (.inr ⟨streaming, rfl⟩)⟩
        · cases stepped
          exact ⟨_, _, rfl, .streamFails _ streaming⟩
        · cases stepped
          exact ⟨_, _, rfl, .ends (.inr ⟨streaming, rfl⟩)⟩
      · cases stepped

theorem Caught.calls {error : CallError} (caught : Caught o t call error t₀ call') :
    t₀.calls = t.calls := by
  cases caught with
  | aborted _ | late | transparent _ _ => rfl
  | throws | configured _ _ _ _ _ _ _ _ _ => exact t.failure_calls o error call.policy

/-- The other calls are where they were. -/
theorem Turn.calls {e : CallEvent} (turn : Turn o t call e t₀ call') : t₀.calls = t.calls := by
  cases turn with
  | reads r _ untouched => exact untouched.calls
  | aborts | selectedLate _ | invokes _ | headers _ | resolves _ | pausedLate _ | resumes _
  | streams _ _ | ends _ => rfl
  | unselected _ caught | fails _ caught => exact caught.calls
  | succeeds _ => exact t.success_calls o
  | streamFails error _ => exact t.failure_calls o error call.policy

/-- A call that is over takes no turn but those of its replay. -/
theorem Turn.finished {e : CallEvent} (turn : Turn o t call e t₀ call')
    (finished : call.phase = .finished) : call'.phase = .finished := by
  have never : ∀ {phase : Phase} {P : Prop}, call.phase = phase → phase ≠ .finished → P :=
    fun now other => absurd (now.symm.trans finished) other
  cases turn with
  | reads r _ _ | aborts | headers _ => exact finished
  | succeeds _ | streamFails _ _ | ends _ => rfl
  | selectedLate now | invokes now | unselected now _ | resolves now | fails now _
  | streams now _ => exact never now (by rintro ⟨⟩)
  | pausedLate now | resumes now => exact never now (by rintro ⟨⟩)

end GrpcBridge.Retry
