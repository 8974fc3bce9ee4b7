/-
# Retry.Transport -- RetryingTransport and its retry loop

`RetryingTransport` (web/src/retry.ts) owns two budgets shared by its calls, the
replay buffer `used` and the throttle `tokens`, and runs one retry loop for each
logical RPC.  `Call` is one such loop with its `Replay`; a `Phase` names the
`await` it is parked at, and everything between two awaits is one step:

* `selecting` -- `await select(...)`, after the abort check at the loop head;
* `invoking` -- `await invoke(...)`, an attempt is running;
* `pausing` -- `await pause(...)` in the catch block;
* `returning` / `threw` -- `run` is over, its caller has not resumed yet;
* `streaming` -- the response iterator of a streaming call is in the user's hands;
* `finished` -- `replay.close()` was called.

`caught` is the catch block.  Durations are rationals; the deadline is one of the
causes of `abort`, and the bound it puts on a pause is not modelled.
-/
import GrpcBridge.H2.Frame
import GrpcBridge.Retry.Replay
import Mathlib.Algebra.Order.Field.Rat

namespace GrpcBridge.Retry

open GrpcBridge.Theory
open GrpcBridge.H2 (Evidence)

set_option autoImplicit false

/-! ## Policies and errors -/

structure RetryPolicy where
  maxAttempts : Nat
  initialBackoffMs : ℚ
  maxBackoffMs : ℚ
  backoffMultiplier : ℚ
  retryableStatusCodes : List Nat
deriving DecidableEq

/-- `policyCopy`: `none` is the `TypeError`. -/
def policyCopy (policy : RetryPolicy) : Option RetryPolicy :=
  if policy.maxAttempts < 2 ∨ policy.maxAttempts > 5 ∨
      ¬ (0 < policy.initialBackoffMs ∧ 0 < policy.maxBackoffMs ∧ 0 < policy.backoffMultiplier) ∨
      policy.maxBackoffMs < policy.initialBackoffMs ∨
      policy.retryableStatusCodes = [] ∨
      (∃ v ∈ policy.retryableStatusCodes, v < 1 ∨ v > 16) then
    none
  else some policy

structure Throttling where
  maxTokens : ℚ
  tokenRatio : ℚ
deriving DecidableEq

structure RetryOptions where
  policy : Option RetryPolicy := none
  /-- `false` for a method is `none` here. -/
  methods : List (String × Option RetryPolicy) := []
  perRpcBufferBytes : Nat := 262144
  bufferBytes : Nat := 4194304
  throttling : Option Throttling := none

/-- `this.options.methods?.[key] ?? this.options.policy` -/
def RetryOptions.policyFor (o : RetryOptions) (key : String) : Option RetryPolicy :=
  (o.methods.lookup key).getD o.policy

/-- The checks of the constructor: every policy passes `policyCopy` and the
throttle is positive. -/
def RetryOptions.accepted (o : RetryOptions) : Prop :=
  (∀ p ∈ o.policy, policyCopy p = some p) ∧
    (∀ entry ∈ o.methods, ∀ p ∈ entry.2, policyCopy p = some p) ∧
    ∀ t ∈ o.throttling, 0 < t.maxTokens ∧ 0 < t.tokenRatio

/-- An entry of the `failures` map, written by `attemptError`. -/
structure FailureInfo where
  committed : Bool
  evidence : Option Evidence
deriving DecidableEq, Repr

/-- The parts of a `ConnectError` the loop reads. -/
structure Status where
  code : Nat
  /-- `metadata.get("grpc-retry-pushback-ms")` -/
  pushback : Option String := none
deriving DecidableEq, Repr

/-- A caught value: a `ConnectError` or not, with or without an entry in `failures`. -/
structure CallError where
  connect : Option Status
  info : Option FailureInfo := none
deriving DecidableEq, Repr

/-- `/^\d+$/` and `Number.isSafeInteger`. -/
def pushbackMs (text : String) : Option Nat :=
  if text.toList ≠ [] ∧ text.toList.all Char.isDigit then
    let value := text.toList.foldl (fun n c => 10 * n + (c.toNat - '0'.toNat)) 0
    if value ≤ 9007199254740991 then some value else none
  else none

/-! ## Calls -/

inductive Phase where
  | selecting
  | invoking
  | pausing (configured : Bool) (delay : ℚ)
  | returning
  | threw
  | streaming
  | finished
deriving DecidableEq

inductive Kind where
  | unary
  | stream
deriving DecidableEq, Repr

/-- One call of `invoke`: the metadata it carries, and whether the RPC was
committed when it was made. -/
structure Invocation where
  previousAttempts : Option Nat
  committed : Bool
deriving DecidableEq, Repr

structure Call (M : Type) where
  kind : Kind
  policy : Option RetryPolicy
  source : Nat → Option M
  replay : Replay M := {}
  phase : Phase := .selecting
  previous : Nat := 0
  refused : Bool := false
  retry : Bool := false
  backoff : ℚ
  aborted : Bool := false
  invoked : List Invocation := []

structure Transport (M : Type) where
  used : Int := 0
  tokens : ℚ
  calls : List (Call M) := []

inductive StreamEnd where
  | completed
  | failed (error : CallError)
  | abandoned
deriving DecidableEq

inductive CallEvent where
  /-- `select` resolves and an attempt is started. -/
  | selected
  /-- `select` rejects, or no time is left. -/
  | selectFails (connect : Option Status) (random : ℚ)
  /-- Response headers of the running attempt. -/
  | headers
  | resolves
  | fails (error : CallError) (random : ℚ)
  | abort
  | pauseEnds
  /-- The caller of `run` resumes. -/
  | wrap
  | streamEnds (outcome : StreamEnd)
  | next (a : Nat)
  | settle
  | reject
  | resume (a : Nat)
  | stop (a : Nat)

inductive TransportEvent (M : Type) where
  | open (key : String) (kind : Kind) (source : Nat → Option M)
  | call (i : Nat) (e : CallEvent)

section Steps

variable {M : Type} (o : RetryOptions) (c : Codec M)

namespace Transport

/-! ## The shared budgets -/

def success (t : Transport M) : Transport M :=
  match o.throttling with
  | some throttle => { t with tokens := min throttle.maxTokens (t.tokens + throttle.tokenRatio) }
  | none => t

def failure (t : Transport M) (error : CallError) (policy : Option RetryPolicy) : Transport M :=
  match o.throttling, policy, error.connect with
  | some _, some p, some status =>
      if status.code ∈ p.retryableStatusCodes then { t with tokens := max 0 (t.tokens - 1) } else t
  | _, _, _ => t

def reserve (t : Transport M) (n : Nat) : Option (Transport M) :=
  if t.used + n > o.bufferBytes then none else some { t with used := t.used + n }

def release (t : Transport M) (n : Nat) : Transport M :=
  { t with used := t.used - n }

def setCall (t : Transport M) (i : Nat) (call : Call M) : Transport M :=
  { t with calls := t.calls.set i call }

/-- `replay.commit()` of call `i`. -/
def commit (t : Transport M) (i : Nat) (call : Call M) : Transport M :=
  (t.release call.replay.bytes).setCall i { call with replay := call.replay.commit }

/-- `replay.close()` of call `i`, whose caller is then done with it. -/
def close (t : Transport M) (i : Nat) (call : Call M) : Transport M :=
  (t.release call.replay.bytes).setCall i
    { call with replay := call.replay.close, phase := .finished }

/-- The source read of call `i` settles; a message is charged to both budgets. -/
def settle (t : Transport M) (i : Nat) (call : Call M) : Option (Transport M) :=
  let r := call.replay
  let settled (t : Transport M) (reserved : Bool) : Option (Transport M) :=
    (r.settle c o.perRpcBufferBytes call.source reserved).map fun r' =>
      t.setCall i { call with replay := r' }
  match call.source r.settled.length with
  | none => settled t false
  | some m =>
      let size := (c.toBinary m).length + 5
      if r.committed then settled t false
      else if r.bytes + size > o.perRpcBufferBytes then settled (t.release r.bytes) false
      else match t.reserve o size with
        | some t' => settled t' true
        | none => settled (t.release r.bytes) false

/-! ## The retry loop -/

/-- The catch block of the loop. -/
def caught (t : Transport M) (i : Nat) (call : Call M) (error : CallError) (random : ℚ) :
    Transport M :=
  if call.aborted then t.setCall i { call with phase := .threw }
  else
    let evidence := error.info.bind FailureInfo.evidence
    let transparent := evidence = some .unsent ∨ (evidence = some .refused ∧ call.refused = false)
    let t := if transparent then t else t.failure o error call.policy
    let throw := t.setCall i { call with phase := .threw }
    if call.replay.committed ∨ error.info.any FailureInfo.committed then throw
    else if transparent then
      t.setCall i
        { call with
          refused := call.refused || decide (evidence = some .refused)
          retry := true
          phase := .pausing false 0 }
    else match call.policy, error.connect with
      | some policy, some status =>
          if status.code ∉ policy.retryableStatusCodes then throw
          else if call.previous + 1 ≥ policy.maxAttempts then throw
          else if o.throttling.any fun throttle => t.tokens ≤ throttle.maxTokens / 2 then throw
          else match status.pushback with
            | some text =>
                match pushbackMs text with
                | none => throw
                | some delay =>
                    t.setCall i
                      { call with
                        backoff := policy.initialBackoffMs
                        phase := .pausing true delay }
            | none =>
                t.setCall i
                  { call with
                    backoff := min policy.maxBackoffMs (call.backoff * policy.backoffMultiplier)
                    phase := .pausing true (call.backoff * (4 / 5 + random * (2 / 5))) }
      | _, _ => throw

/-- The attempt is started: fresh headers, and an iterator over the replay. -/
def invoke (t : Transport M) (i : Nat) (call : Call M) : Transport M :=
  t.setCall i
    { call with
      phase := .invoking
      replay := call.replay.iterable
      invoked := call.invoked ++
        [{ previousAttempts := if call.previous = 0 then none else some call.previous
           committed := call.replay.committed }] }

def stepCall (t : Transport M) (i : Nat) (call : Call M) : CallEvent → Option (Transport M)
  | .selected =>
      match call.phase with
      | .selecting =>
          if call.aborted then some (t.setCall i { call with phase := .threw })
          else some (t.invoke i call)
      | _ => none
  | .selectFails connect random =>
      match call.phase with
      | .selecting => some (t.caught o i call { connect } random)
      | _ => none
  | .headers =>
      match call.phase with
      | .invoking => some (t.commit i call)
      | _ => none
  | .resolves =>
      match call.phase with
      | .invoking => some (t.setCall i { call with phase := .returning })
      | _ => none
  | .fails error random =>
      match call.phase with
      | .invoking => some (t.caught o i call error random)
      | _ => none
  | .abort => some (t.setCall i { call with aborted := true })
  | .pauseEnds =>
      match call.phase with
      | .pausing configured _ =>
          if call.aborted then some (t.setCall i { call with phase := .threw })
          else
            some (t.setCall i
              { call with
                previous := if configured then call.previous + 1 else call.previous
                retry := true
                phase := .selecting })
      | _ => none
  | .wrap =>
      match call.phase with
      | .threw => some (t.close i call)
      | .returning =>
          match call.kind with
          | .unary => some ((t.success o).close i call)
          | .stream => some (t.commit i { call with phase := .streaming })
      | _ => none
  | .streamEnds outcome =>
      match call.phase with
      | .streaming =>
          match outcome with
          | .completed => some ((t.success o).close i call)
          | .failed error => some ((t.failure o error call.policy).close i call)
          | .abandoned => some (t.close i call)
      | _ => none
  | .settle => t.settle o c i call
  | .next a => (call.replay.next c a).map fun r => t.setCall i { call with replay := r }
  | .reject => call.replay.reject.map fun r => t.setCall i { call with replay := r }
  | .resume a => (call.replay.resume a).map fun r => t.setCall i { call with replay := r }
  | .stop a => (call.replay.stop a).map fun r => t.setCall i { call with replay := r }

def step (t : Transport M) : TransportEvent M → Option (Transport M)
  | .open key kind source =>
      let policy := o.policyFor key
      some
        { t with
          calls := t.calls ++
            [{ kind, policy, source, backoff := (policy.map (·.initialBackoffMs)).getD 0 }] }
  | .call i e =>
      match t.calls[i]? with
      | some call => t.stepCall o c i call e
      | none => none

end Transport

/-- Any number of concurrent calls on one `RetryingTransport`. -/
def transportMachine : Machine (Transport M) (TransportEvent M) where
  init := { tokens := (o.throttling.map (·.maxTokens)).getD 0 }
  step := Transport.step o c

end Steps

end GrpcBridge.Retry
