/-
# Retry.Throttling -- the throttle bounds the configured retries

The calls of one `RetryingTransport` share the tokens of its throttle.  The catch block
charges the bucket and looks at it in one go, with no await in between, so a configured
retry is granted on exactly the filling that its own charge has left: a grant of
`Theory.TokenBucket`.  A call that succeeds credits the bucket once, when `run` has
returned or the response iterator is exhausted.

`Load` counts the grants and lists the calls that have succeeded.
-/
import GrpcBridge.Retry.Turns
import GrpcBridge.Theory.TokenBucket

namespace GrpcBridge.Retry

open GrpcBridge.Theory

set_option autoImplicit false

variable {M : Type}

/-! ## Grants and successes -/

/-- The step after which `success` is called for a call. -/
def Call.succeeds (call : Call M) : CallEvent → Bool
  | .wrap => call.phase = .returning && call.kind = .unary
  | .streamEnds .completed => call.phase = .streaming
  | _ => false

/-- An attempt or a selection has failed. -/
def CallEvent.failed : CallEvent → Bool
  | .fails _ _ | .selectFails _ _ => true
  | _ => false

structure Load (M : Type) where
  transport : Transport M
  /-- The calls that have succeeded. -/
  succeeded : List Nat := []
  /-- The configured retries that were granted. -/
  granted : Nat := 0

namespace Load

def note (l : Load M) (e : TransportEvent M) (t : Transport M) : Load M :=
  match e with
  | .open _ _ _ => { l with transport := t }
  | .call i e =>
      { transport := t
        succeeded :=
          if l.transport.calls[i]?.any (·.succeeds e) then l.succeeded ++ [i] else l.succeeded
        granted :=
          if e.failed && t.calls[i]?.any Call.granted then l.granted + 1 else l.granted }

def step (o : RetryOptions) (c : Codec M) (l : Load M) (e : TransportEvent M) : Option (Load M) :=
  (l.transport.step o c e).map (l.note e)

/-- Any number of concurrent calls, with what they have been granted. -/
def machine (o : RetryOptions) (c : Codec M) : Machine (Load M) (TransportEvent M) where
  init := { transport := (transportMachine o c).init }
  step := step o c

end Load

/-! ## One step -/

section Steps

variable {o : RetryOptions} {throttle : Throttling} {t t₀ : Transport M} {call call' : Call M}
  {credits grants : Nat}

/-- The bucket of a transport. -/
abbrev Filled (throttle : Throttling) (t : Transport M) (credits grants : Nat) : Prop :=
  Bounded throttle.maxTokens throttle.tokenRatio t.tokens credits grants

theorem Filled.success (filled : Filled throttle t credits grants)
    (enabled : o.throttling = some throttle) (positive : 0 < throttle.tokenRatio) :
    Filled throttle (t.success o) (credits + 1) grants := by
  unfold Transport.success
  rw [enabled]
  exact filled.credit positive

theorem Filled.failure (filled : Filled throttle t credits grants) (error : CallError)
    (policy : Option RetryPolicy) : Filled throttle (t.failure o error policy) credits grants := by
  unfold Transport.failure
  split
  · split
    · exact filled.charge
    · exact filled
  · exact filled

/-- The catch block charges the bucket before it looks. -/
theorem Filled.granted (filled : Filled throttle t credits grants)
    (enabled : o.throttling = some throttle) {error : CallError} {policy : RetryPolicy}
    {status : Status} (configured : call.policy = some policy) (connect : error.connect = some status)
    (retryable : status.code ∈ policy.retryableStatusCodes)
    (enough : throttle.maxTokens / 2 < (t.failure o error call.policy).tokens) :
    Filled throttle (t.failure o error call.policy) credits (grants + 1) := by
  have charged : t.failure o error call.policy = { t with tokens := max 0 (t.tokens - 1) } := by
    unfold Transport.failure
    rw [enabled, configured, connect]
    exact if_pos retryable
  rw [charged] at enough ⊢
  exact filled.grant enough

theorem Filled.caught {error : CallError} (filled : Filled throttle t credits grants)
    (enabled : o.throttling = some throttle) (caught : Caught o t call error t₀ call') :
    Filled throttle t₀ credits (if call'.granted then grants + 1 else grants) := by
  cases caught with
  | aborted _ | late | transparent _ _ => exact filled
  | throws => exact filled.failure error call.policy
  | configured delay backoff _ found connect retryable _ tokens _ =>
      exact filled.granted enabled found connect retryable (tokens throttle enabled)

/-- **One step of a call, on the bucket.** -/
theorem Filled.turn {e : CallEvent} (filled : Filled throttle t credits grants)
    (enabled : o.throttling = some throttle) (positive : 0 < throttle.tokenRatio)
    (turn : Turn o t call e t₀ call') :
    Filled throttle t₀ (if call.succeeds e then credits + 1 else credits)
      (if e.failed && call'.granted then grants + 1 else grants) := by
  have silent : ∀ {e : CallEvent} {t₀ : Transport M} {call' : Call M}, t₀.tokens = t.tokens →
      call.succeeds e = false → e.failed = false →
      Filled throttle t₀ (if call.succeeds e then credits + 1 else credits)
        (if e.failed && call'.granted then grants + 1 else grants) := by
    intro e t₀ call' tokens unfinished unfailed
    rw [unfinished, unfailed]
    show Bounded _ _ t₀.tokens _ _
    rw [tokens]
    exact filled
  cases turn with
  | reads r reads untouched =>
      refine silent untouched.tokens ?_ ?_
      · cases e with
        | next a | settle | reject | resume a | stop a => rfl
        | _ => cases reads
      · cases e with
        | next a | settle | reject | resume a | stop a => rfl
        | _ => cases reads
  | aborts | selectedLate _ | invokes _ | headers _ | resolves _ | pausedLate _ | resumes _ =>
      exact silent rfl rfl rfl
  | unselected _ caught | fails _ caught => exact filled.caught enabled caught
  | streams returning stream =>
      refine silent rfl ?_ rfl
      simp [Call.succeeds, stream]
  | succeeds how =>
      have credited := filled.success enabled positive
      obtain ⟨returning, unary, rfl⟩ | ⟨streaming, rfl⟩ := how
      · simp only [Call.succeeds, returning, unary, decide_true, Bool.and_self, if_true]
        exact credited
      · simp only [Call.succeeds, streaming, decide_true, if_true]
        exact credited
  | streamFails error streaming => exact filled.failure error call.policy
  | ends how =>
      obtain ⟨threw, rfl⟩ | ⟨streaming, rfl⟩ := how
      · refine silent rfl ?_ rfl
        simp [Call.succeeds, threw]
      · exact silent rfl rfl rfl

end Steps

/-! ## Runs -/

namespace Load

variable {o : RetryOptions} {c : Codec M} {throttle : Throttling} {l l' : Load M}

structure Kept (throttle : Throttling) (l : Load M) : Prop where
  filled : Filled throttle l.transport l.succeeded.length l.granted
  nodup : l.succeeded.Nodup
  finished : ∀ i ∈ l.succeeded, ∃ call, l.transport.calls[i]? = some call ∧ call.phase = .finished

theorem kept_open {key : String} {kind : Kind} {source : Nat → Option M} {t : Transport M}
    (kept : l.Kept throttle) (stepped : l.transport.step o c (.open key kind source) = some t) :
    (l.note (.open key kind source) t).Kept throttle := by
  cases stepped
  refine ⟨kept.filled, kept.nodup, ?_⟩
  intro i member
  obtain ⟨call, found, finished⟩ := kept.finished i member
  refine ⟨call, ?_, finished⟩
  exact (List.getElem?_append_left (List.getElem?_eq_some_iff.1 found).1).trans found

theorem kept_call {i : Nat} {e : CallEvent} {t : Transport M} (kept : l.Kept throttle)
    (enabled : o.throttling = some throttle) (positive : 0 < throttle.tokenRatio)
    (stepped : l.transport.step o c (.call i e) = some t) :
    (l.note (.call i e) t).Kept throttle := by
  simp only [Transport.step] at stepped
  split at stepped
  · rename_i call found
    obtain ⟨t₀, call', rfl, turn⟩ := stepCall_turns stepped
    have inside : i < t₀.calls.length := by
      rw [turn.calls]
      exact (List.getElem?_eq_some_iff.1 found).1
    have stored : (t₀.setCall i call').calls[i]? = some call' := by
      simp [Transport.setCall, inside]
    have filled := kept.filled.turn enabled positive turn
    have elsewhere : ∀ j, j ≠ i → (t₀.setCall i call').calls[j]? = l.transport.calls[j]? := by
      intro j other
      rw [← turn.calls]
      exact List.getElem?_set_ne (Ne.symm other)
    have finished : ∀ j ∈ l.succeeded, ∃ call, (t₀.setCall i call').calls[j]? = some call ∧
        call.phase = .finished := by
      intro j member
      obtain ⟨before, there, ended⟩ := kept.finished j member
      by_cases own : j = i
      · subst own
        cases found.symm.trans there
        exact ⟨call', stored, turn.finished ended⟩
      · exact ⟨before, (elsewhere j own).trans there, ended⟩
    simp only [note, found, stored, Option.any_some]
    cases success : call.succeeds e with
    | false =>
        rw [success] at filled
        exact ⟨filled, kept.nodup, finished⟩
    | true =>
        rw [success] at filled
        -- a call that succeeds was not over
        have fresh : i ∉ l.succeeded := by
          intro member
          obtain ⟨before, there, ended⟩ := kept.finished i member
          cases found.symm.trans there
          cases e with
          | wrap => simp [Call.succeeds, ended] at success
          | streamEnds outcome => cases outcome <;> simp [Call.succeeds, ended] at success
          | _ => cases success
        refine ⟨?_, ?_, ?_⟩
        · simp only [if_true, List.length_append, List.length_singleton]
          exact filled
        · simp only [if_true]
          rw [List.nodup_append]
          refine ⟨kept.nodup, by simp, ?_⟩
          rintro j member k last rfl
          exact fresh (List.mem_singleton.1 last ▸ member)
        · intro j member
          simp only [if_true] at member
          obtain earlier | last := List.mem_append.1 member
          · exact finished j earlier
          · cases List.mem_singleton.1 last
            refine ⟨call', stored, ?_⟩
            cases turn with
            | succeeds _ | streamFails _ _ | ends _ => rfl
            | reads _ reads _ =>
                cases e with
                | next a | settle | reject | resume a | stop a => cases success
                | _ => cases reads
            | streams returning stream => simp [Call.succeeds, stream] at success
            | _ => cases success
  · cases stepped

/-- **Retry throttling bounds the load.**  With a throttle that the constructor accepts, after
every prefix of every run of any number of concurrent calls: the tokens are within their
range, every call has been credited at most once, and the configured retries granted to all
calls are fewer than half of the tokens and the credits of the calls that have succeeded. -/
theorem throttled_of_reaches (accepted : o.accepted) (enabled : o.throttling = some throttle)
    (reached : (machine o c).Reaches Machine.always l) :
    0 ≤ l.transport.tokens ∧ l.transport.tokens ≤ throttle.maxTokens ∧
      l.succeeded.Nodup ∧
      (l.granted : ℚ) < throttle.maxTokens / 2 + l.succeeded.length * throttle.tokenRatio := by
  obtain ⟨maxTokens, tokenRatio⟩ := accepted.2.2 throttle enabled
  have start : ((machine o c).init : Load M).Kept throttle := by
    refine ⟨?_, List.nodup_nil, ?_⟩
    · have full : (machine o c).init.transport.tokens = throttle.maxTokens := by
        show (o.throttling.map (·.maxTokens)).getD 0 = throttle.maxTokens
        rw [enabled]
        rfl
      show Bounded _ _ (machine o c).init.transport.tokens 0 0
      rw [full]
      exact .full maxTokens throttle.tokenRatio
    · intro i member
      cases member
  have kept : l.Kept throttle := by
    refine reached.invariant (Kept throttle) ?_ start
    intro before e after kept _ stepped
    obtain ⟨t, moved, rfl⟩ := Option.map_eq_some_iff.1 stepped
    cases e with
    | «open» key kind source => exact kept_open kept moved
    | call i e => exact kept_call kept enabled tokenRatio moved
  exact ⟨kept.filled.nonneg, kept.filled.le_limit, kept.nodup, kept.filled.load⟩

/-- Up to three attempts on `Unavailable`, and ten tokens. -/
def tenTokens : RetryOptions :=
  { policy := some
      { maxAttempts := 3, initialBackoffMs := 100, maxBackoffMs := 1000, backoffMultiplier := 2
        retryableStatusCodes := [14] }
    throttling := some { maxTokens := 10, tokenRatio := 1 / 2 } }

theorem tenTokens_accepted : tenTokens.accepted := by
  refine ⟨?_, ?_, ?_⟩
  · intro policy found
    cases found
    decide +kernel
  · intro entry member
    cases member
  · intro throttle found
    cases found
    decide +kernel

/-- A call that fails once, is granted a retry and succeeds. -/
def secondTime : List (TransportEvent (List UInt8)) :=
  .open "/demo.Service/Echo" .unary (fun _ => none) ::
    [CallEvent.selected, .fails { connect := some { code := 14 } } 0, .pauseEnds, .selected,
      .resolves, .wrap].map (.call 0)

theorem secondTime_load :
    ((machine tenTokens rawCodec).run Machine.always (machine tenTokens rawCodec).init
        secondTime).map (fun l => (l.transport.tokens, l.granted, l.succeeded)) =
      some (19 / 2, 1, [0]) := by
  decide +kernel

theorem throttled_secondTime : ∃ l, (machine tenTokens rawCodec).Reaches Machine.always l ∧
    l.granted = 1 ∧ l.succeeded = [0] ∧ l.transport.tokens ≤ 10 ∧
    (l.granted : ℚ) < 10 / 2 + l.succeeded.length * (1 / 2) := by
  obtain ⟨l, ran, seen⟩ := Option.map_eq_some_iff.1 secondTime_load
  simp only [Prod.mk.injEq] at seen
  obtain ⟨-, granted, succeeded⟩ := seen
  have reached := Machine.steps_of_run secondTime ran
  obtain ⟨-, high, -, load⟩ := throttled_of_reaches tenTokens_accepted rfl reached
  exact ⟨l, reached, granted, succeeded, high, load⟩

end Load

end GrpcBridge.Retry
