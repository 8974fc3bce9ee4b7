/-
# Retry.AttemptAccounting -- how many attempts an RPC can make

Three kinds of failure lead to another attempt: unsent evidence, refused evidence, and a
status that the policy retries.  The loop counts the last in `previous` and remembers the
second in `refused`, and both are what an `Account` says: the account of a call lists its
attempts, the statuses after which a configured retry was granted, and the retries on
refused evidence.

The header of an attempt is a copy of the caller's with one name replaced, as the web's
`Headers` do it: names are compared without case, `delete` removes every entry of a name
and `set` leaves one.
-/
import GrpcBridge.Retry.Turns

namespace GrpcBridge.Retry

open GrpcBridge.Theory
open GrpcBridge.H2 (Evidence)

set_option autoImplicit false

variable {M : Type}

/-! ## Headers -/

/-- The characters of a header name, without case. -/
def lower (name : String) : List Char := name.toList.map Char.toLower

/-- The entries of a `Headers` object, with names in lower case. -/
structure Headers where
  entries : List (List Char × String) := []
deriving DecidableEq, Repr

namespace Headers

/-- `new Headers(init)` -/
def ofInit (init : List (String × String)) : Headers :=
  ⟨init.map fun entry => (lower entry.1, entry.2)⟩

def delete (h : Headers) (name : String) : Headers :=
  ⟨h.entries.filter (·.1 ≠ lower name)⟩

/-- The first entry of the name is replaced and the others are removed; without one it is
appended. -/
def set (h : Headers) (name value : String) : Headers :=
  let before := h.entries.takeWhile (·.1 ≠ lower name)
  let rest := h.entries.dropWhile (·.1 ≠ lower name)
  ⟨before ++ (lower name, value) :: rest.filter (·.1 ≠ lower name)⟩

/-- The values of a name, joined with a comma. -/
def get (h : Headers) (name : String) : Option String :=
  match h.entries.filter (·.1 = lower name) with
  | [] => none
  | entry :: rest => some (rest.foldl (fun text entry => text ++ ", " ++ entry.2) entry.2)

theorem get_delete (h : Headers) (name : String) : (h.delete name).get name = none := by
  have nothing : (h.delete name).entries.filter (·.1 = lower name) = [] := by
    rw [List.filter_eq_nil_iff]
    intro entry member
    have other := (List.mem_filter.1 member).2
    simpa using other
  rw [get, nothing]

theorem get_set (h : Headers) (name value : String) :
    (h.set name value).get name = some value := by
  have before : (h.entries.takeWhile (·.1 ≠ lower name)).filter (·.1 = lower name) = [] := by
    rw [List.filter_eq_nil_iff]
    intro entry member
    have other := List.all_eq_true.1 List.all_takeWhile entry member
    simpa using other
  have after : ((h.entries.dropWhile (·.1 ≠ lower name)).filter (·.1 ≠ lower name)).filter
      (·.1 = lower name) = [] := by
    rw [List.filter_eq_nil_iff]
    intro entry member
    have other := (List.mem_filter.1 member).2
    simpa using other
  have only : (h.set name value).entries.filter (·.1 = lower name) = [(lower name, value)] := by
    rw [set, List.filter_append, before, List.filter_cons_of_pos (by simp), after]
    rfl
  rw [get, only]
  rfl

end Headers

def previousRpcAttempts : String := "grpc-previous-rpc-attempts"

/-- The headers of an attempt. -/
def attemptHeaders (original : Headers) (previous : Nat) : Headers :=
  let headers := original.delete previousRpcAttempts
  if previous = 0 then headers else headers.set previousRpcAttempts (toString previous)

theorem attemptHeaders_get (original : Headers) (previous : Nat) :
    (attemptHeaders original previous).get previousRpcAttempts =
      if previous = 0 then none else some (toString previous) := by
  unfold attemptHeaders
  dsimp only
  split
  · exact original.get_delete previousRpcAttempts
  · exact (original.delete previousRpcAttempts).get_set previousRpcAttempts (toString previous)

/-! ## Accounts -/

structure AttemptRecord where
  headers : Headers
  /-- Configured retries that had been made before it. -/
  retried : Nat
  /-- The evidence it failed with. -/
  evidence : Option Evidence := none

/-- It did not fail with unsent evidence. -/
def AttemptRecord.counts (a : AttemptRecord) : Bool := a.evidence ≠ some .unsent

structure Account where
  /-- The attempts, the last one first. -/
  attempts : List AttemptRecord := []
  /-- The statuses after which a configured retry was granted. -/
  configured : List Status := []
  /-- Retries on refused evidence. -/
  refused : Nat := 0

namespace Account

/-- The catch block leaves the call with this phase. -/
def noteCaught (a : Account) (error : CallError) : Phase → Account
  | .pausing true _ => { a with configured := a.configured ++ error.connect.toList }
  | .pausing false _ =>
      if error.evidence = some .refused then { a with refused := a.refused + 1 } else a
  | _ => a

def note (original : Headers) (a : Account) (call' : Call M) (previous : Nat) : CallEvent → Account
  | .selected =>
      if call'.phase = .invoking then
        { a with attempts :=
            { headers := attemptHeaders original previous, retried := a.configured.length } ::
              a.attempts }
      else a
  | .selectFails connect _ => a.noteCaught { connect } call'.phase
  | .fails error _ =>
      { a with attempts := a.attempts.modifyHead ({ · with evidence := error.evidence }) }.noteCaught
        error call'.phase
  | _ => a

end Account

structure Accounts (M : Type) where
  transport : Transport M
  accounts : List Account := []

namespace Accounts

/-- `callers` are the headers that each call was given. -/
def note (callers : Nat → List (String × String)) (l : Accounts M) (e : TransportEvent M)
    (t : Transport M) : Accounts M :=
  match e with
  | .open _ _ _ => { transport := t, accounts := l.accounts ++ [{}] }
  | .call i e =>
      match l.transport.calls[i]?, t.calls[i]? with
      | some call, some call' =>
          { transport := t
            accounts := l.accounts.modify i fun a =>
              a.note (.ofInit (callers i)) call' call.previous e }
      | _, _ => { l with transport := t }

def step (o : RetryOptions) (c : Codec M) (callers : Nat → List (String × String)) (l : Accounts M)
    (e : TransportEvent M) : Option (Accounts M) :=
  (l.transport.step o c e).map (l.note callers e)

/-- Any number of concurrent calls, with their accounts. -/
def machine (o : RetryOptions) (c : Codec M) (callers : Nat → List (String × String)) :
    Machine (Accounts M) (TransportEvent M) where
  init := { transport := (transportMachine o c).init }
  step := step o c callers

end Accounts

/-! ## What the loop keeps -/

/-- The loop has not thrown. -/
def Call.live (call : Call M) : Bool :=
  match call.phase with
  | .threw | .finished => false
  | _ => true

/-- The account agrees with the counters of the loop.  A configured retry that is granted and
then cut short by an abort stays granted. -/
structure Counted (call : Call M) (a : Account) : Prop where
  made : call.previous ≤ a.configured.length
  configured : call.live = true →
    a.configured.length = call.previous + if call.granted then 1 else 0
  limit : ∀ p ∈ call.policy, a.configured.length + 1 ≤ p.maxAttempts
  without : call.policy = none → a.configured = []
  refused : a.refused = if call.refused then 1 else 0
  statuses : ∀ status ∈ a.configured, ∃ p ∈ call.policy, status.code ∈ p.retryableStatusCodes ∧
    ∀ text ∈ status.pushback, (pushbackMs text).isSome = true
  headers : ∀ attempt ∈ a.attempts, attempt.headers.get previousRpcAttempts =
    if attempt.retried = 0 then none else some (toString attempt.retried)
  invoked : a.attempts.length = call.invoked.length

/-- The attempts that count, other than the running one. -/
def Account.spent (a : Account) : Nat := a.attempts.countP AttemptRecord.counts

/-- Each attempt that counts was paid for by a retry, but the first. -/
def Room (call : Call M) (a : Account) : Prop :=
  match call.phase with
  | .selecting | .pausing false _ => a.spent ≤ call.previous + a.refused
  | .invoking => ∃ last rest, a.attempts = last :: rest ∧
      rest.countP AttemptRecord.counts ≤ call.previous + a.refused
  | _ => a.spent ≤ call.previous + a.refused + 1

structure Audited (call : Call M) (a : Account) : Prop extends Counted call a where
  room : Room call a

section Turns

variable {o : RetryOptions} {t t₀ : Transport M} {call call' : Call M} {a : Account}

theorem Room.loose (room : Room call a) : a.spent ≤ call.previous + a.refused + 1 := by
  unfold Room at room
  split at room
  · omega
  · omega
  · obtain ⟨last, rest, split, bound⟩ := room
    have cons := List.countP_cons (p := AttemptRecord.counts) (a := last) (l := rest)
    have one : (if last.counts = true then 1 else 0) ≤ 1 := by split <;> omega
    rw [Account.spent, split, cons]
    omega
  · exact room

/-- A turn that changes none of the counters. -/
theorem Counted.keep (counted : Counted call a)
    (live : call'.live = true → call.live = true ∧ call'.granted = call.granted)
    (previous : call'.previous = call.previous) (policy : call'.policy = call.policy)
    (refused : call'.refused = call.refused) (invoked : call'.invoked = call.invoked) :
    Counted call' a := by
  refine ⟨?_, ?_, ?_, ?_, ?_, ?_, counted.headers, ?_⟩
  · rw [previous]
    exact counted.made
  · intro still
    obtain ⟨before, granted⟩ := live still
    rw [granted, previous]
    exact counted.configured before
  · rw [policy]
    exact counted.limit
  · rw [policy]
    exact counted.without
  · rw [refused]
    exact counted.refused
  · rw [policy]
    exact counted.statuses
  · rw [invoked]
    exact counted.invoked

/-- The loop is over. -/
theorem Counted.stop (counted : Counted call a) (stopped : call'.live = false)
    (previous : call'.previous = call.previous) (policy : call'.policy = call.policy)
    (refused : call'.refused = call.refused) (invoked : call'.invoked = call.invoked) :
    Counted call' a := by
  refine counted.keep (fun still => ?_) previous policy refused invoked
  rw [stopped] at still
  cases still

/-- The catch block: a configured retry is paid for by the policy, a refused one by the flag,
and an unsent one costs nothing. -/
theorem Counted.caught {error : CallError} (counted : Counted call a)
    (exact_ : a.configured.length = call.previous)
    (loose : a.spent ≤ call.previous + a.refused + 1)
    (unsent : error.evidence = some .unsent → a.spent ≤ call.previous + a.refused)
    (caught : Caught o t call error t₀ call') :
    Audited call' (a.noteCaught error call'.phase) := by
  cases caught with
  | aborted _ | late | throws => exact ⟨counted.stop rfl rfl rfl rfl rfl, loose⟩
  | transparent _ excuse =>
      obtain evidence | ⟨evidence, first⟩ := excuse
      · have other : error.evidence ≠ some .refused := by
          rw [evidence]
          decide
        simp only [Account.noteCaught, if_neg other, decide_eq_false other, Bool.or_false]
        exact ⟨⟨counted.made, fun _ => exact_, counted.limit, counted.without, counted.refused,
          counted.statuses, counted.headers, counted.invoked⟩, unsent evidence⟩
      · simp only [Account.noteCaught, if_pos evidence, decide_eq_true evidence, Bool.or_true]
        have none := counted.refused
        rw [first] at none
        refine ⟨⟨counted.made, fun _ => exact_, counted.limit, counted.without, ?_,
          counted.statuses, counted.headers, counted.invoked⟩, ?_⟩
        · show a.refused + 1 = 1
          rw [none]
          rfl
        · show a.spent ≤ call.previous + (a.refused + 1)
          omega
  | @configured policy status delay backoff _ found connect retryable left _ pushback =>
      simp only [Account.noteCaught, connect, Option.toList_some]
      have longer : (a.configured ++ [status]).length = call.previous + 1 := by
        rw [List.length_append, exact_]
        rfl
      refine ⟨⟨?_, fun _ => longer, ?_, ?_, counted.refused, ?_, counted.headers, counted.invoked⟩,
        loose⟩
      · exact le_of_le_of_eq (Nat.le_succ call.previous) longer.symm
      · intro p member
        cases found.symm.trans member
        exact le_of_eq_of_le (congrArg (· + 1) longer) left
      · intro without
        cases found.symm.trans without
      · intro other member
        obtain earlier | last := List.mem_append.1 member
        · exact counted.statuses other earlier
        · cases List.mem_singleton.1 last
          exact ⟨policy, found, retryable, pushback⟩

/-- The running attempt fails with this evidence. -/
theorem Counted.failed (counted : Counted call a) (evidence : Option Evidence) :
    Counted call { a with attempts := a.attempts.modifyHead ({ · with evidence }) } := by
  refine ⟨counted.made, counted.configured, counted.limit, counted.without, counted.refused,
    counted.statuses, ?_, ?_⟩
  · intro attempt member
    cases split : a.attempts with
    | nil =>
        rw [split] at member
        cases member
    | cons last rest =>
        rw [split] at member
        have headers := counted.headers
        rw [split] at headers
        obtain same | earlier := List.mem_cons.1 member
        · rw [same]
          exact headers last List.mem_cons_self
        · exact headers attempt (List.mem_cons_of_mem _ earlier)
  · show (a.attempts.modifyHead _).length = _
    rw [List.length_modifyHead]
    exact counted.invoked

/-- **One step of a call, on its account.** -/
theorem Audited.turn {e : CallEvent} (audited : Audited call a) (original : Headers)
    (turn : Turn o t call e t₀ call') :
    Audited call' (a.note original call' call.previous e) := by
  have counted := audited.toCounted
  have room := audited.room
  have loose := room.loose
  cases turn with
  | reads r reads _ =>
      have unnoted : a.note original { call with replay := r } call.previous e = a := by
        cases e with
        | next a | settle | reject | resume a | stop a => rfl
        | _ => cases reads
      rw [unnoted]
      exact ⟨counted.keep (fun live => ⟨live, rfl⟩) rfl rfl rfl rfl, room⟩
  | aborts | headers _ => exact ⟨counted.keep (fun live => ⟨live, rfl⟩) rfl rfl rfl rfl, room⟩
  | selectedLate _ | pausedLate _ => exact ⟨counted.stop rfl rfl rfl rfl rfl, loose⟩
  | invokes selecting =>
      simp only [Room, selecting] at room
      have exact_ := counted.configured (by rw [Call.live, selecting])
      rw [Call.granted, selecting] at exact_
      refine ⟨⟨counted.made, fun _ => exact_, counted.limit, counted.without, counted.refused,
        counted.statuses, ?_, ?_⟩, ?_⟩
      · intro attempt member
        obtain same | earlier := List.mem_cons.1 member
        · rw [same]
          show (attemptHeaders original call.previous).get previousRpcAttempts =
            if a.configured.length = 0 then none else some (toString a.configured.length)
          rw [attemptHeaders_get, exact_]
          rfl
        · exact counted.headers attempt earlier
      · show a.attempts.length + 1 = (call.invoked ++ [_]).length
        rw [List.length_append, counted.invoked]
        rfl
      · exact ⟨_, a.attempts, rfl, room⟩
  | unselected selecting caught =>
      simp only [Room, selecting] at room
      have exact_ := counted.configured (by rw [Call.live, selecting])
      rw [Call.granted, selecting] at exact_
      exact counted.caught exact_ loose (fun _ => room) caught
  | resolves invoking =>
      refine ⟨counted.keep (fun _ => ⟨?_, ?_⟩) rfl rfl rfl rfl, loose⟩
      · rw [Call.live, invoking]
      · rw [Call.granted, Call.granted, invoking]
  | @fails error random _ _ invoking caught =>
      simp only [Room, invoking] at room
      have exact_ := counted.configured (by rw [Call.live, invoking])
      rw [Call.granted, invoking] at exact_
      obtain ⟨last, rest, split, bound⟩ := room
      have head : a.attempts.modifyHead ({ · with evidence := error.evidence }) =
          { last with evidence := error.evidence } :: rest := by
        rw [split]
        rfl
      have cost := List.countP_cons (p := AttemptRecord.counts)
        (a := { last with evidence := error.evidence }) (l := rest)
      refine (counted.failed error.evidence).caught exact_ ?_ ?_ caught
      · show (a.attempts.modifyHead _).countP _ ≤ call.previous + a.refused + 1
        rw [head, cost]
        split <;> omega
      · intro unsent
        have free : ({ last with evidence := error.evidence } : AttemptRecord).counts = false := by
          simp [AttemptRecord.counts, unsent]
        show (a.attempts.modifyHead _).countP _ ≤ _
        rw [head, cost, free]
        exact bound
  | @resumes configured delay pausing =>
      have exact_ := counted.configured (by rw [Call.live, pausing])
      rw [Call.granted, pausing] at exact_
      simp only [Room, pausing] at room
      cases configured with
      | true =>
          refine ⟨⟨?_, fun _ => exact_, counted.limit, counted.without, counted.refused,
            counted.statuses, counted.headers, counted.invoked⟩, ?_⟩
          · exact exact_.ge
          · show a.spent ≤ call.previous + 1 + a.refused
            omega
      | false =>
          exact ⟨⟨counted.made, fun _ => exact_, counted.limit, counted.without, counted.refused,
            counted.statuses, counted.headers, counted.invoked⟩, room⟩
  | streams returning _ =>
      refine ⟨counted.keep (fun _ => ⟨?_, ?_⟩) rfl rfl rfl rfl, loose⟩
      · rw [Call.live, returning]
      · rw [Call.granted, Call.granted, returning]
  | succeeds how =>
      have unnoted : a.note original { call with replay := call.replay.close, phase := .finished }
          call.previous e = a := by
        obtain ⟨_, _, rfl⟩ | ⟨_, rfl⟩ := how
        · rfl
        · rfl
      rw [unnoted]
      exact ⟨counted.stop rfl rfl rfl rfl rfl, loose⟩
  | streamFails _ _ => exact ⟨counted.stop rfl rfl rfl rfl rfl, loose⟩
  | ends how =>
      have unnoted : a.note original { call with replay := call.replay.close, phase := .finished }
          call.previous e = a := by
        obtain ⟨_, rfl⟩ | ⟨_, rfl⟩ := how
        · rfl
        · rfl
      rw [unnoted]
      exact ⟨counted.stop rfl rfl rfl rfl rfl, loose⟩

end Turns

/-! ## Runs -/

theorem policyFor_accepted {o : RetryOptions} (accepted : o.accepted) {key : String} {p : RetryPolicy}
    (found : p ∈ o.policyFor key) : policyCopy p = some p := by
  unfold RetryOptions.policyFor at found
  cases entry : o.methods.lookup key with
  | none =>
      rw [entry] at found
      exact accepted.1 p found
  | some policy =>
      rw [entry] at found
      obtain ⟨before, after, split, -⟩ := List.lookup_eq_some_iff.1 entry
      have member : (key, policy) ∈ o.methods := by
        rw [split]
        simp
      exact accepted.2.1 (key, policy) member p found

theorem policyCopy_maxAttempts {p : RetryPolicy} (accepted : policyCopy p = some p) :
    2 ≤ p.maxAttempts := by
  unfold policyCopy at accepted
  split at accepted
  · cases accepted
  · rename_i fine
    exact Nat.not_lt.1 (not_or.1 fine).1

namespace Accounts

variable {o : RetryOptions} {c : Codec M} {callers : Nat → List (String × String)}
  {l l' : Accounts M}

structure Kept (l : Accounts M) : Prop where
  length : l.accounts.length = l.transport.calls.length
  accepted : ∀ call ∈ l.transport.calls, ∀ p ∈ call.policy, 2 ≤ p.maxAttempts
  audited : ∀ (i : Nat) (call : Call M) (a : Account), l.transport.calls[i]? = some call →
    l.accounts[i]? = some a → Audited call a

theorem kept_open {key : String} {kind : Kind} {source : Nat → Option M} {t : Transport M}
    (accepted : o.accepted) (kept : l.Kept)
    (stepped : l.transport.step o c (.open key kind source) = some t) :
    (l.note callers (.open key kind source) t).Kept := by
  cases stepped
  have limit : ∀ p ∈ o.policyFor key, 2 ≤ p.maxAttempts := fun p found =>
    policyCopy_maxAttempts (policyFor_accepted accepted found)
  refine ⟨?_, ?_, ?_⟩
  · simp [note, kept.length]
  · intro call member
    obtain earlier | last := List.mem_append.1 member
    · exact kept.accepted call earlier
    · cases List.mem_singleton.1 last
      exact limit
  · intro i call a found account
    simp only [note] at found account
    by_cases before : i < l.transport.calls.length
    · rw [List.getElem?_append_left before] at found
      rw [List.getElem?_append_left (kept.length ▸ before)] at account
      exact kept.audited i call a found account
    · have after := Nat.not_lt.1 before
      rw [List.getElem?_append_right after] at found
      rw [List.getElem?_append_right (kept.length ▸ after)] at account
      have call_eq := List.mem_singleton.1 (List.mem_of_getElem? found)
      have account_eq := List.mem_singleton.1 (List.mem_of_getElem? account)
      subst call_eq account_eq
      refine ⟨⟨le_refl 0, fun _ => rfl, ?_, fun _ => rfl, rfl, ?_, ?_, rfl⟩, le_refl 0⟩
      · intro p found
        exact Nat.le_of_succ_le (limit p found)
      · intro status member
        cases member
      · intro attempt member
        cases member

theorem turn_policy {t t₀ : Transport M} {call call' : Call M} {e : CallEvent}
    (turn : Turn o t call e t₀ call') : call'.policy = call.policy := by
  cases turn with
  | unselected _ caught | fails _ caught => cases caught <;> rfl
  | _ => rfl

theorem kept_call {i : Nat} {e : CallEvent} {t : Transport M} (kept : l.Kept)
    (stepped : l.transport.step o c (.call i e) = some t) : (l.note callers (.call i e) t).Kept := by
  simp only [Transport.step] at stepped
  split at stepped
  · rename_i call found
    obtain ⟨t₀, call', rfl, turn⟩ := stepCall_turns stepped
    have inside : i < t₀.calls.length := by
      rw [turn.calls]
      exact (List.getElem?_eq_some_iff.1 found).1
    have stored : (t₀.setCall i call').calls[i]? = some call' := by
      simp [Transport.setCall, inside]
    simp only [note, found, stored]
    refine ⟨?_, ?_, ?_⟩
    · simp [Transport.setCall, turn.calls, kept.length]
    · intro other member
      obtain earlier | own := List.mem_or_eq_of_mem_set member
      · rw [turn.calls] at earlier
        exact kept.accepted other earlier
      · rw [own, turn_policy turn]
        exact kept.accepted call (List.mem_of_getElem? found)
    · intro j other a there account
      dsimp only at there account
      by_cases own : i = j
      · subst own
        cases stored.symm.trans there
        rw [List.getElem?_modify] at account
        obtain ⟨before, opened, rfl⟩ := Option.map_eq_some_iff.1 account
        rw [if_pos rfl]
        exact (kept.audited i call before found opened).turn _ turn
      · rw [List.getElem?_modify_ne _ _ own] at account
        have same : (t₀.setCall i call').calls[j]? = l.transport.calls[j]? := by
          rw [← turn.calls]
          exact List.getElem?_set_ne own
        exact kept.audited j other a (same.symm.trans there) account
  · cases stepped

theorem kept_of_reaches (accepted : o.accepted)
    (reached : (machine o c callers).Reaches Machine.always l) : l.Kept := by
  refine reached.invariant Kept ?_ ⟨rfl, ?_, ?_⟩
  · intro before e after kept _ stepped
    obtain ⟨t, moved, rfl⟩ := Option.map_eq_some_iff.1 stepped
    cases e with
    | «open» key kind source => exact kept_open accepted kept moved
    | call i e => exact kept_call kept moved
  · intro call member
    cases member
  · intro i call a found
    cases found

/-- **Attempt accounting.**  For options that the constructor accepts, whatever headers the
callers supply, and every run of any number of concurrent calls: a call is granted fewer
configured retries than its policy has attempts, none without a policy, and one retry on
refused evidence; the attempts that did not fail with unsent evidence are at most one more
than the policy's, or two; every attempt carries the number of configured retries before
it, and nothing when there were none; and a configured retry follows a status of the
policy, whose pushback is a safe integer or missing. -/
theorem attempts_of_accepted (accepted : o.accepted)
    (reached : (machine o c callers).Reaches Machine.always l) (i : Nat) (call : Call M)
    (a : Account) (found : l.transport.calls[i]? = some call) (account : l.accounts[i]? = some a) :
    (∀ p ∈ call.policy, a.configured.length ≤ p.maxAttempts - 1 ∧
        a.spent ≤ p.maxAttempts + 1) ∧
      (call.policy = none → a.configured = [] ∧ a.spent ≤ 2) ∧
      a.refused ≤ 1 ∧ a.attempts.length = call.invoked.length ∧
      (∀ attempt ∈ a.attempts, attempt.headers.get previousRpcAttempts =
        if attempt.retried = 0 then none else some (toString attempt.retried)) ∧
      (∀ status ∈ a.configured, ∃ p ∈ call.policy, status.code ∈ p.retryableStatusCodes ∧
        ∀ text ∈ status.pushback, ∃ ms, pushbackMs text = some ms) := by
  have kept := kept_of_reaches accepted reached
  have audited := kept.audited i call a found account
  have made := audited.made
  have loose := audited.room.loose
  have once : a.refused ≤ 1 := by
    rw [audited.refused]
    split <;> omega
  refine ⟨?_, ?_, once, audited.invoked, audited.headers, ?_⟩
  · intro p found
    have limit := audited.limit p found
    exact ⟨by omega, by omega⟩
  · intro without
    have none := audited.without without
    rw [none, List.length_nil] at made
    exact ⟨none, by omega⟩
  · intro status member
    obtain ⟨p, found, code, pushback⟩ := audited.statuses status member
    exact ⟨p, found, code, fun text pushed => Option.isSome_iff_exists.1 (pushback text pushed)⟩

/-- Up to three attempts on `Unavailable`. -/
def threeAttempts : RetryOptions :=
  { policy := some
      { maxAttempts := 3, initialBackoffMs := 100, maxBackoffMs := 1000, backoffMultiplier := 2
        retryableStatusCodes := [14] } }

theorem threeAttempts_accepted : threeAttempts.accepted := by
  refine ⟨?_, ?_, ?_⟩
  · intro policy found
    cases found
    decide +kernel
  · intro entry member
    cases member
  · intro throttle found
    cases found

/-- A call that is refused once, then fails, and is sent a third time. -/
def refusedThenFailed : List (TransportEvent (List UInt8)) :=
  .open "/demo.Service/Echo" .unary (fun _ => none) ::
    [CallEvent.selected,
      .fails { connect := some { code := 14 }, info := some ⟨false, some .refused⟩ } 0, .pauseEnds,
      .selected, .fails { connect := some { code := 14, pushback := some "250" } } 0, .pauseEnds,
      .selected].map (.call 0)

/-- Every caller claims to have made seven attempts. -/
def seven : Nat → List (String × String) := fun _ => [("Grpc-Previous-Rpc-Attempts", "7")]

/-- The header of each attempt of the first call, the statuses it was retried for, and its
retries on refused evidence. -/
def report (l : Accounts M) : Option (List (Option String) × List Status × Nat) :=
  l.accounts[0]?.map fun a =>
    (a.attempts.map (·.headers.get previousRpcAttempts), a.configured, a.refused)

theorem refusedThenFailed_report :
    ((machine threeAttempts rawCodec seven).run Machine.always
        (machine threeAttempts rawCodec seven).init refusedThenFailed).map report =
      some (some ([some "1", none, none], [{ code := 14, pushback := some "250" }], 1)) := by
  decide +kernel

theorem attempts_refusedThenFailed : ∃ l call a,
    (machine threeAttempts rawCodec seven).Reaches Machine.always l ∧
      l.transport.calls[0]? = some call ∧ l.accounts[0]? = some a ∧
      a.attempts.map (·.headers.get previousRpcAttempts) = [some "1", none, none] ∧
      a.refused = 1 ∧ a.attempts.length = call.invoked.length ∧
      ∀ p ∈ call.policy, a.configured.length ≤ p.maxAttempts - 1 ∧
        a.spent ≤ p.maxAttempts + 1 := by
  obtain ⟨l, ran, seen⟩ := Option.map_eq_some_iff.1 refusedThenFailed_report
  obtain ⟨a, account, seen⟩ := Option.map_eq_some_iff.1 seen
  simp only [Prod.mk.injEq] at seen
  obtain ⟨headers, -, refused⟩ := seen
  have reached := Machine.steps_of_run refusedThenFailed ran
  have inside : 0 < l.transport.calls.length := by
    rw [← (kept_of_reaches threeAttempts_accepted reached).length]
    exact (List.getElem?_eq_some_iff.1 account).1
  have found := List.getElem?_eq_getElem inside
  obtain ⟨bounds, -, -, invoked, -, -⟩ :=
    attempts_of_accepted threeAttempts_accepted reached 0 _ a found account
  exact ⟨l, _, a, reached, found, account, headers, refused, invoked, bounds⟩

end Accounts

end GrpcBridge.Retry
