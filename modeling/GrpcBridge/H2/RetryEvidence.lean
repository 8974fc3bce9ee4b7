/-
# H2.RetryEvidence -- what a failed request proves about its peer

An `H2Error` may carry `retry`: "positive evidence from the transport, never inferred
from a socket failure" (web/src/h2/errors.ts).  It is set in three places: by the
`check` of `request` before a stream is opened (`unsent`), by an RST_STREAM with
REFUSED_STREAM and by a GOAWAY that excludes a stream (`refused`).

A request also fails with errors that this connection did not make: the reason of its
signal, the error of its body and that of the transport.  They reach the caller as they
are, evidence included.  `foreign` is the evidence an event brings in that way; the
results are about runs in which it brings none.

`Backed` is the meaning of evidence on a stream and `Unsent` that of a request which
never got one.
-/
import GrpcBridge.H2.StreamSlots

namespace GrpcBridge.H2

open GrpcBridge.Theory

set_option autoImplicit false

variable {H : Hpack}

/-! ## What a stream fails with -/

namespace Stream

/-- The errors that `request` and the body of stream `s` can end with. -/
def causes (s : Stream) : List Cause :=
  (match s.head with
    | .rejected cause => [cause]
    | _ => []) ++
  s.recvError.toList ++
  (match s.bodyEnd with
    | some (.errored cause) => [cause]
    | _ => [])

theorem causes_fail {s : Stream} {cause x : Cause} (inside : x ∈ (s.fail cause).causes) :
    x ∈ s.causes ∨ x = cause := by
  simp only [causes, fail, List.mem_append] at inside ⊢
  rcases inside with (head | error) | body
  · cases got : s.gotHead with
    | true =>
        simp only [got, if_true] at head
        exact .inl (.inl (.inl head))
    | false =>
        simp only [got, Bool.false_eq_true, if_false, List.mem_singleton] at head
        exact .inr head
  · cases kept : s.recvError with
    | some first =>
        simp [kept] at error
        exact .inl (.inl (.inr (by simp [error])))
    | none =>
        simp [kept] at error
        exact .inr error
  · exact .inl (.inr body)

/-- A stream that has failed keeps the error it failed with. -/
theorem fail_fail (s : Stream) (first second : Cause) : (s.fail first).fail second = s.fail first := by
  cases kept : s.recvError <;> simp [fail, kept]

end Stream

/-- A call of `request` is over, or has its stream. -/
def RequestPhase.settled : RequestPhase → Bool
  | .opened _ => true
  | .failed _ => true
  | _ => false

/-! ## Evidence -/

namespace Conn

/-- The peer has said that it did not process stream `id`. -/
def Refused (c : Conn H) (id : Nat) : Prop :=
  .rstStream id (errorCodeValue .refusedStream) ∈ c.received ∨
    ∃ lastStreamId errorCode debugData,
      .goaway lastStreamId errorCode debugData ∈ c.received ∧ lastStreamId < id

/-- An error of stream `id` carries no evidence, or the peer's refusal. -/
def Backed (c : Conn H) (id : Nat) (cause : Cause) : Prop :=
  cause.evidence = none ∨ cause.evidence = some .refused ∧ c.Refused id

/-- The evidence of an error that an event brings in from outside. -/
def foreign : Event → Option Evidence
  | .abort _ reason => reason.evidence
  | .uploadFails _ cause => cause.evidence
  | .lose cause => cause.evidence
  | _ => none

theorem Refused.mono {c c' : Conn H} {id : Nat} (refused : c.Refused id)
    (kept : c.received ⊆ c'.received) : c'.Refused id := by
  rcases refused with reset | ⟨last, code, debug, goaway, later⟩
  · exact .inl (kept reset)
  · exact .inr ⟨last, code, debug, kept goaway, later⟩

theorem Backed.mono {c c' : Conn H} {id : Nat} {cause : Cause} (backed : c.Backed id cause)
    (kept : c.received ⊆ c'.received) : c'.Backed id cause :=
  backed.imp_right fun both => ⟨both.1, both.2.mono kept⟩

/-- `errorCodeName` reads back the position of a name. -/
theorem errorCodeName_refused {errorCode : Nat}
    (named : (errorCodeName errorCode).getD .protocolError = .refusedStream) :
    errorCode = errorCodeValue .refusedStream := by
  by_cases known : errorCode < errorCodes.length
  · have all : ∀ n : Fin errorCodes.length,
        (errorCodeName n).getD .protocolError = .refusedStream → n.val = 7 := by decide
    exact all ⟨errorCode, known⟩ named
  · rw [errorCodeName, List.getElem?_eq_none (by omega)] at named
    cases named

@[simp] theorem causes_credited (n : Int) (s : Stream) : (credited n s).causes = s.causes := by
  unfold credited
  split <;> rfl

@[simp] theorem causes_retired (s : Stream) : (retired s).causes = s.causes := by
  unfold retired
  split <;> rfl

theorem causes_headers {s : Stream} {raw : List Header} {endStream : Bool} {x : Cause}
    (inside : x ∈ (halfClosed endStream (s.receiveHeaders raw endStream)).causes) :
    x ∈ s.causes := by
  have ended : (halfClosed endStream (s.receiveHeaders raw endStream)).causes =
      (s.receiveHeaders raw endStream).causes := by
    unfold halfClosed
    split
    · exact causes_retired _
    · rfl
  rw [ended, receiveHeaders_eq] at inside
  repeat' split at inside
  · exact inside
  · exact inside
  · simp only [Stream.causes, List.nil_append, List.mem_append] at inside ⊢
    exact inside.imp_left .inr

theorem causes_pullBody {s : Stream} {x : Cause} (inside : x ∈ s.pullBody.1.causes) :
    x ∈ s.causes := by
  unfold Stream.pullBody at inside
  repeat' split at inside
  · exact inside
  · rename_i cause failed
    simp only [Stream.causes, failed, List.mem_append, Option.toList_some,
      List.mem_singleton] at inside ⊢
    rcases inside with (head | error) | body
    · exact .inl (.inl head)
    · exact .inl (.inr error)
    · exact .inl (.inr body)
  · simp only [Stream.causes, List.append_nil, List.mem_append] at inside ⊢
    exact .inl inside
  · exact inside

theorem causes_cancelBody {s : Stream} {x : Cause} (inside : x ∈ s.cancelBody.causes) :
    x ∈ s.causes := by
  simp only [Stream.causes, Stream.cancelBody, List.append_nil, List.mem_append] at inside ⊢
  exact .inl inside

variable {c c' : Conn H} {e : Event} {s s' : Stream}

/-- **Effects.**  An event adds to the errors of a stream what its frames and the outside
bring, and nothing else. -/
theorem Effect.backed (effect : Effect c e s s') (kept : (c.logged e).received ⊆ c'.received)
    (plain : foreign e = none) (before : ∀ x ∈ s.causes, c'.Backed s.id x) :
    ∀ x ∈ s'.causes, c'.Backed s'.id x := by
  rw [effect.id]
  -- the errors of a stream that is failed once more
  have failed : ∀ (t : Stream) (cause : Cause), (∀ x ∈ t.causes, x ∈ s.causes) →
      c'.Backed s.id cause → ∀ x ∈ (t.fail cause).causes, c'.Backed s.id x := by
    intro t cause old new x inside
    rcases Stream.causes_fail inside with inside | rfl
    · exact before x (old x inside)
    · exact new
  have same : ∀ x ∈ s.causes, x ∈ s.causes := fun _ inside => inside
  cases effect with
  | keep => exact before
  | windows sendWindow recvWindow upload => exact before
  | @data f s n taken =>
      obtain ⟨-, head, error, -⟩ := accepted_fields f n s
      have body := (accepted_body f n s).2.2.1
      simp only [Stream.causes, head, error, body]
      exact before
  | @headers f pb hpack headers s complete decoded found =>
      intro x inside
      exact before x (causes_headers inside)
  | reset cause bare live may => exact failed _ cause same (.inl bare)
  | peerReset errorCode live =>
      refine failed _ _ same ?_
      by_cases named : (errorCodeName errorCode).getD .protocolError = .refusedStream
      · right
        refine ⟨by simp [Cause.evidence, named], .inl (kept ?_)⟩
        rw [← errorCodeName_refused named]
        exact List.mem_append_right _ (.head _)
      · left
        simp [Cause.evidence, named]
  | excluded cause refused live later =>
      have logged := kept (List.mem_append_right c.received (.head _))
      exact failed _ cause same (.inr ⟨refused, .inr ⟨_, _, _, logged, later⟩⟩)
  | torn sendWindow cause raised live may =>
      refine failed _ cause same (.inl ?_)
      rcases raised with rfl | bare
      · exact plain
      · exact bare
  | @pulled s n able =>
      intro x inside
      exact before x (causes_pullBody (by simpa using inside))
  | @cancelled s n stays =>
      intro x inside
      exact before x (causes_cancelBody (by simpa using inside))
  | @cancelReset s n cause bare =>
      refine failed _ cause (fun x inside => ?_) (.inl bare)
      have inside : x ∈ (credited n s.cancelBody).causes := inside
      rw [causes_credited] at inside
      exact causes_cancelBody inside
  | @aborted r q s reason cause asked opened live =>
      have once : dropped cause (s.fail reason).discardBuffered =
          { (s.fail reason).discardBuffered with inMap := false } := by
        have again := Stream.fail_fail s.discardBuffered reason cause
        exact congrArg (fun t : Stream => { t with inMap := false }) again
      rw [once]
      exact failed _ reason same (.inl plain)
  | @flushed s =>
      rw [causes_retired]
      exact before
  | uploadFailed raised gone => exact failed _ raised same (.inl plain)
  | @uploadReset s raised cause live =>
      have once : dropped cause { s.fail raised with upload := .idle }.discardBuffered =
          { (s.fail raised).discardBuffered with upload := .idle, inMap := false } := by
        have again := Stream.fail_fail s.discardBuffered raised cause
        exact congrArg (fun t : Stream => { t with upload := .idle, inMap := false }) again
      rw [once]
      exact failed _ raised same (.inl plain)

theorem step_received {w : Windows} (distinct : (c.streams.map Stream.id).Nodup)
    (stepped : c.step w e = some c') : (c.logged e).received ⊆ c'.received := by
  cases e with
  | recv f =>
      obtain rfl := Option.some.inj stepped
      rw [logged, (c.onFrame_onward f).received]
      exact List.Subset.refl _
  | _ =>
      rcases step_streams distinct stepped with ⟨_, onward⟩ | ⟨_, _, q, _, _, received⟩
      · rw [onward.received]
        exact List.Subset.refl _
      · rw [received]
        exact List.Subset.refl _

/-- Every error of every stream is backed. -/
def Streams (c : Conn H) : Prop := ∀ s ∈ c.streams, ∀ x ∈ s.causes, c.Backed s.id x

theorem step_streamsBacked {w : Windows} (distinct : (c.streams.map Stream.id).Nodup)
    (plain : foreign e = none) (stepped : c.step w e = some c') (backed : Streams c) :
    Streams c' := by
  have kept := step_received distinct stepped
  have older : c.received ⊆ (c.logged e).received := by
    cases e with
    | recv f => exact List.subset_append_left _ _
    | _ => exact List.Subset.refl _
  refine forall_step distinct stepped ?_ ?_
  · intro s member s' effect
    exact effect.backed kept plain fun x inside =>
      (backed s member x inside).mono (List.Subset.trans older kept)
  · intro q x inside
    cases inside

/-! ## Requests -/

/-- What `check` and a failed setup throw. -/
def Unopened (cause : Cause) : Prop := cause.evidence = none ∨ cause.evidence = some .unsent

/-- Signals are aborted with errors that carry no evidence. -/
def Untainted (c : Conn H) : Prop :=
  ∀ q ∈ c.requests, ∀ reason ∈ q.aborted, reason.evidence = none

theorem check_unopened {q : Request} {cause : Cause}
    (plain : ∀ reason ∈ q.aborted, reason.evidence = none) (thrown : c.check q = some cause) :
    Unopened cause := by
  unfold check at thrown
  split at thrown
  · rename_i reason aborted
    cases thrown
    exact .inl (plain _ aborted)
  · split at thrown
    · cases thrown
      exact .inr rfl
    · cases thrown

/-- A phase that a request without a stream may move to. -/
def Moving (p : RequestPhase) : Prop := p.settled = false ∨ ∃ cause, p = .failed cause ∧ Unopened cause

/-- Request `r` is still waiting, or is not there. -/
def Waiting (c : Conn H) (r : Nat) : Prop := ∀ p, c.phaseOf r = some p → p.settled = false

/-- What an event does to the phases when it opens no stream. -/
def Unsent (c c' : Conn H) : Prop :=
  c'.headersSent = c.headersSent ∧
    ∀ r, c'.phaseOf r = c.phaseOf r ∨ c.Waiting r ∧ ∃ p, c'.phaseOf r = some p ∧ Moving p

/-- And when it opens one. -/
def Sends (c c' : Conn H) : Prop :=
  c.closed = false ∧ c.goawayReceived = false ∧
    c'.headersSent = c.headersSent ++ [c.nextStreamId] ∧
    ∃ r, c.Waiting r ∧ c'.phaseOf r = some (.opened c.nextStreamId) ∧
      ∀ k, k ≠ r → c'.phaseOf k = c.phaseOf k

theorem Unsent.of_phases (headers : c'.headersSent = c.headersSent)
    (phases : ∀ r, c'.phaseOf r = c.phaseOf r) : Unsent c c' :=
  ⟨headers, fun r => .inl (phases r)⟩

/-- One request moves. -/
theorem setPhase_unsent {r : Nat} {phase : RequestPhase} (waiting : c.Waiting r)
    (moving : Moving phase) : Unsent c (c.setPhase r phase) := by
  refine ⟨rfl, fun k => ?_⟩
  rw [phaseOf_setPhase]
  split
  · rename_i same
    subst same
    cases found : c.phaseOf r with
    | none => exact .inl rfl
    | some p => exact .inr ⟨waiting, phase, rfl, moving⟩
  · exact .inl rfl

theorem waiting_of_phase {r : Nat} {q : Request} (asked : c.requests[r]? = some q)
    (phase : q.phase = .settingUp ∨ q.phase = .woken ∨ q.phase = .parked) : c.Waiting r := by
  intro p found
  simp only [phaseOf, asked, Option.map_some, Option.some.injEq] at found
  rcases phase with phase | phase | phase
  all_goals
    rw [← found, phase]
    rfl

theorem Stays.unsent (admission : Admission c) (stays : Stays c c') : Unsent c c' := by
  refine ⟨stays.unopened.1, fun r => ?_⟩
  rcases stays with quiet | roused
  · left
    rw [phaseOf, quiet.requests]
    rfl
  · have woken : c'.phaseOf r = c.wakeWaiters.phaseOf r := by rw [phaseOf, roused.requests]; rfl
    rw [woken, phaseOf_wakeWaiters]
    split
    · rename_i inside
      have parked := (admission.parked r).1 inside
      right
      rw [parked]
      refine ⟨fun p found => ?_, .woken, rfl, .inl rfl⟩
      cases parked.symm.trans found
      rfl
    · exact .inl rfl

theorem admitRequest_moves {w : Windows} {r : Nat} {q : Request} (untainted : Untainted c)
    (asked : c.requests[r]? = some q) (waiting : c.Waiting r) :
    Unsent c (c.admitRequest w r q) ∨ Sends c (c.admitRequest w r q) := by
  obtain ⟨cause, thrown, done⟩ | ⟨up, staying, _, done⟩ | ⟨_, _, _, done⟩ :=
    c.admitRequest_cases w r q
  · left
    rw [done]
    have plain := untainted q (List.mem_of_getElem? asked)
    exact setPhase_unsent waiting (.inr ⟨cause, rfl, check_unopened plain thrown⟩)
  · right
    rw [done]
    obtain ⟨-, phases, headers, -⟩ := c.openStream_opens up w r q
    refine ⟨up, staying, headers, r, waiting, ?_, fun k other => ?_⟩
    · rw [phases, if_pos rfl, phaseOf, asked]
      rfl
    · rw [phases, if_neg (Ne.symm other)]
  · left
    rw [done]
    exact setPhase_unsent (c := { c with streamSlotWaiters := c.streamSlotWaiters ++ [r] }) waiting
      (.inl rfl)

theorem abort_unsent (admission : Admission c) {r : Nat} {q : Request}
    (asked : c.requests[r]? = some q) (reason : Cause) : Unsent c (c.abort r q reason) := by
  have noted : Unsent c (c.marked r reason) := .of_phases rfl fun k => phaseOf_marked r k reason
  have admission' : Admission (c.marked r reason) :=
    admission.of_same rfl (fun k => by rw [phaseOf_marked]) rfl rfl rfl (Nat.le_refl _)
  cases phase : q.phase with
  | parked =>
      rw [abort_of_parked phase]
      have waiting : (c.marked r reason).Waiting r := by
        intro p found
        rw [phaseOf_marked] at found
        exact waiting_of_phase asked (.inr (.inr phase)) p found
      refine ⟨rfl, fun k => ?_⟩
      have moved := (@setPhase_unsent H { c.marked r reason with
        streamSlotWaiters := c.streamSlotWaiters.erase r } r .woken waiting (.inl rfl)).2 k
      rcases moved with same | ⟨still, p, found, moving⟩
      · exact .inl (same.trans (phaseOf_marked r k reason))
      · refine .inr ⟨fun p' found' => still p' ?_, p, found, moving⟩
        exact (phaseOf_marked r k reason).trans found'
  | opened id =>
      have done : c.abort r q reason = (c.marked r reason).abortStream id reason := by
        simp only [Conn.abort, phase]
        rfl
      rw [done]
      obtain ⟨headers, phases⟩ := Stays.unsent admission' (abortStream_stays _ id reason)
      refine ⟨headers, fun k => ?_⟩
      have moved := phases k
      rw [phaseOf_marked] at moved
      refine moved.imp_right fun both => ⟨fun p found => both.1 p ?_, both.2⟩
      exact (phaseOf_marked r k reason).trans found
  | settingUp =>
      simp only [Conn.abort, phase]
      exact noted
  | woken =>
      simp only [Conn.abort, phase]
      exact noted
  | failed cause =>
      simp only [Conn.abort, phase]
      exact noted

theorem append_unsent {q : Request} (moving : Moving q.phase) :
    Unsent c { c with requests := c.requests ++ [q] } := by
  refine ⟨rfl, fun r => ?_⟩
  simp only [phaseOf]
  by_cases old : r < c.requests.length
  · left
    rw [List.getElem?_append_left old]
  · by_cases new : r = c.requests.length
    · subst new
      right
      refine ⟨fun p found => ?_, q.phase, by simp, moving⟩
      simp [phaseOf] at found
    · left
      have short : (c.requests ++ [q]).length ≤ r := by
        rw [List.length_append, List.length_singleton]
        omega
      rw [List.getElem?_eq_none short, List.getElem?_eq_none (by omega)]

/-- **One event.**  It moves requests that have no stream, or sends the HEADERS of one
of them. -/
theorem step_moves {w : Windows} (admission : Admission c) (untainted : Untainted c)
    (stepped : c.step w e = some c') : Unsent c c' ∨ Sends c c' := by
  rcases step_requests stepped with stays | ⟨q, ⟨fresh, -⟩, phase, rfl⟩ | ⟨r, q, asked, phase, rfl⟩ |
    ⟨r, q, asked, phase, rfl⟩ | ⟨r, q, reason, ⟨asked, _, _⟩, rfl⟩
  · exact .inl (Stays.unsent admission stays)
  · refine .inl (append_unsent ?_)
    rcases phase with phase | ⟨cause, phase, thrown⟩
    · exact .inl (by rw [phase]; rfl)
    · refine .inr ⟨cause, phase, check_unopened ?_ thrown⟩
      intro reason aborted
      rw [fresh] at aborted
      cases aborted
  · refine admitRequest_moves untainted asked (waiting_of_phase asked ?_)
    exact phase.imp_right .inl
  · left
    refine setPhase_unsent (waiting_of_phase asked (.inl phase)) (.inr ⟨_, rfl, ?_⟩)
    cases thrown : c.check q with
    | none => exact .inl rfl
    | some cause => exact check_unopened (untainted q (List.mem_of_getElem? asked)) thrown
  · exact .inl (abort_unsent admission asked reason)

theorem step_untainted {w : Windows} (plain : foreign e = none) (untainted : Untainted c)
    (stepped : c.step w e = some c') : Untainted c' := by
  have phased : ∀ (c : Conn H) (r : Nat) (phase : RequestPhase), Untainted c →
      Untainted (c.setPhase r phase) := by
    intro c r phase untainted q inside
    obtain ⟨k, found⟩ := List.mem_iff_getElem?.1 inside
    simp only [setPhase, List.getElem?_modify] at found
    obtain ⟨q₀, there, rfl⟩ := Option.map_eq_some_iff.1 found
    have before := untainted q₀ (List.mem_of_getElem? there)
    split
    · exact before
    · exact before
  have stay : ∀ c c' : Conn H, Untainted c → Stays c c' → Untainted c' := by
    rintro c c' untainted (quiet | roused) q inside
    · rw [quiet.requests] at inside
      exact untainted q inside
    · rw [roused.requests] at inside
      obtain ⟨k, found⟩ := List.mem_iff_getElem?.1 inside
      simp only [wakeWaiters, List.getElem?_mapIdx] at found
      obtain ⟨q₀, there, rfl⟩ := Option.map_eq_some_iff.1 found
      have before := untainted q₀ (List.mem_of_getElem? there)
      split
      · exact before
      · exact before
  rcases step_requests stepped with stays | ⟨q, ⟨fresh, -⟩, phase, rfl⟩ | ⟨r, q, asked, phase, rfl⟩ |
    ⟨r, q, asked, phase, rfl⟩ | ⟨r, q, reason, ⟨asked, _, rfl⟩, rfl⟩
  · exact stay c c' untainted stays
  · intro q' inside
    rcases List.mem_append.1 inside with old | new
    · exact untainted q' old
    · cases List.mem_singleton.1 new
      rw [fresh]
      intro cause none
      cases none
  · obtain ⟨cause, _, done⟩ | ⟨up, _, _, done⟩ | ⟨_, _, _, done⟩ := c.admitRequest_cases w r q
    · rw [done]
      exact phased c r _ untainted
    · rw [done, openStream_eq]
      refine phased _ r _ ?_
      have requests : ((c.withStream w q).sendHeaders c.nextStreamId q.block (!q.hasBody)).requests =
          c.requests := by
        obtain ⟨c₁, sent, _, rest⟩ := (c.withStream w q).sendHeaders_opens
          (show (c.withStream w q).closed = false from up) c.nextStreamId q.block (!q.hasBody)
        rw [sent.requests, rest]
        rfl
      intro q' inside
      rw [requests] at inside
      exact untainted q' inside
    · rw [done]
      exact phased { c with streamSlotWaiters := c.streamSlotWaiters ++ [r] } r _ untainted
  · exact phased c r _ untainted
  · have noted : Untainted (c.marked r reason) := by
      intro q' inside
      obtain ⟨k, found⟩ := List.mem_iff_getElem?.1 inside
      simp only [marked, List.getElem?_modify] at found
      obtain ⟨q₀, there, rfl⟩ := Option.map_eq_some_iff.1 found
      split
      · rintro _ ⟨⟩
        exact plain
      · exact untainted q₀ (List.mem_of_getElem? there)
    cases phase : q.phase with
    | parked =>
        rw [abort_of_parked phase]
        exact phased { c.marked r reason with
          streamSlotWaiters := c.streamSlotWaiters.erase r } r .woken noted
    | opened id =>
        simp only [Conn.abort, phase]
        exact stay _ _ noted (abortStream_stays _ id reason)
    | settingUp =>
        simp only [Conn.abort, phase]
        exact noted
    | woken =>
        simp only [Conn.abort, phase]
        exact noted
    | failed cause =>
        simp only [Conn.abort, phase]
        exact noted

/-! ## GOAWAY -/

/-- A connection that is going away does not come back. -/
theorem step_leaving {w : Windows} (stepped : c.step w e = some c')
    (going : c.goawayReceived = true) : c'.goawayReceived = true := by
  rcases step_requests stepped with stays | ⟨q, _, _, rfl⟩ | ⟨r, q, _, _, rfl⟩ |
    ⟨r, q, _, _, rfl⟩ | ⟨r, q, reason, _, rfl⟩
  · exact stays.leaving going
  · exact going
  · obtain ⟨cause, _, done⟩ | ⟨_, staying, _, _⟩ | ⟨_, staying, _, _⟩ := c.admitRequest_cases w r q
    · rw [done]
      exact going
    · rw [going] at staying
      cases staying
    · rw [going] at staying
      cases staying
  · exact going
  · unfold abort
    simp only
    split
    · exact going
    · exact (abortStream_stays _ _ reason).leaving going
    · exact going

/-- The GOAWAY of the peer ends the connection or is remembered. -/
theorem onFrame_goaway (lastStreamId errorCode : Nat) (debugData : Bytes) :
    (c.onFrame (.goaway lastStreamId errorCode debugData)).goawayReceived = true ∨
      (c.onFrame (.goaway lastStreamId errorCode debugData)).closed = true := by
  let f : Frame := .goaway lastStreamId errorCode debugData
  cases pending : c.pendingHeaderBlock with
  | some pb =>
      right
      have thrown : (c.arrive f).dispatch f =
          (c.arrive f, protocolError "expected CONTINUATION frame") := by
        have still : (c.arrive f).pendingHeaderBlock = some pb := pending
        simp only [dispatch, still, f]
      show (c.onFrame f).closed = true
      simp only [onFrame, thrown, protocolError]
      exact connectionError_closed _ _
  | none =>
      left
      have done : (c.arrive f).dispatch f =
          ((c.arrive f).receiveGoaway lastStreamId errorCode, none) := by
        have still : (c.arrive f).pendingHeaderBlock = none := pending
        simp only [dispatch, still, f]
      show (c.onFrame f).goawayReceived = true
      simp only [onFrame, done, receiveGoaway_eq]
      have excludes : ((c.arrive f).exclude ((errorCodeName errorCode).getD .noError)
          lastStreamId).goawayReceived = true :=
        (wakeStreamSlots_roused _ ⟨rfl, rfl, rfl, rfl, id⟩).leaving rfl
      split
      · exact (destroy_stays _ _).leaving excludes
      · exact excludes

/-- No GOAWAY is overlooked. -/
def Heard (c : Conn H) : Prop := ∀ lastStreamId errorCode debugData,
  .goaway lastStreamId errorCode debugData ∈ c.received → c.goawayReceived = true ∨ c.closed = true

theorem step_heard {w : Windows} (numbered : Numbered c) (heard : Heard c)
    (stepped : c.step w e = some c') : Heard c' := by
  intro last code debug logged
  have older : ∀ {f}, f ∈ c.received → f = .goaway last code debug →
      c'.goawayReceived = true ∨ c'.closed = true := by
    rintro f before rfl
    exact (heard last code debug before).imp (step_leaving stepped)
      fun down => step_closed numbered down stepped
  cases e with
  | recv f =>
      obtain rfl := Option.some.inj stepped
      rw [(c.onFrame_onward f).received] at logged
      rcases List.mem_append.1 logged with before | new
      · exact older before rfl
      · cases List.mem_singleton.1 new
        exact onFrame_goaway last code debug
  | _ =>
      refine older (f := .goaway last code debug) ?_ rfl
      rcases step_streams numbered.1 stepped with ⟨_, onward⟩ | ⟨_, _, q, _, _, received⟩
      · exact onward.received ▸ logged
      · exact received ▸ logged

/-! ## Runs -/

/-- What holds of requests, streams and HEADERS frames between two events. -/
structure Attested (c : Conn H) : Prop where
  admission : Admission c
  ordered : Ordered c
  untainted : Untainted c
  streams : Streams c
  heard : Heard c
  failed : ∀ r cause, c.phaseOf r = some (.failed cause) → Unopened cause
  owners : ∀ id ∈ c.headersSent, ∃ r, c.phaseOf r = some (.opened id)
  issued : ∀ r id, c.phaseOf r = some (.opened id) → id ∈ c.headersSent
  unique : ∀ r r' id, c.phaseOf r = some (.opened id) → c.phaseOf r' = some (.opened id) → r = r'

/-- A settled request stays as it is. -/
theorem step_settled {w : Windows} (attested : Attested c) (stepped : c.step w e = some c')
    {r : Nat} {p : RequestPhase} (phase : c.phaseOf r = some p) (settled : p.settled = true) :
    c'.phaseOf r = some p := by
  have done : ¬ c.Waiting r := by
    intro waiting
    have := waiting p phase
    rw [settled] at this
    cases this
  rcases step_moves attested.admission attested.untainted stepped with ⟨_, phases⟩ |
    ⟨_, _, _, k, waiting, _, others⟩
  · rcases phases r with same | ⟨waiting, _⟩
    · exact same.trans phase
    · exact absurd waiting done
  · by_cases same : r = k
    · subst same
      exact absurd waiting done
    · exact (others r same).trans phase

theorem Unsent.attested (unsent : Unsent c c') (attested : Attested c)
    (settled : ∀ {r : Nat} {p : RequestPhase}, c.phaseOf r = some p → p.settled = true →
      c'.phaseOf r = some p) :
    (∀ r cause, c'.phaseOf r = some (.failed cause) → Unopened cause) ∧
      (∀ id ∈ c'.headersSent, ∃ r, c'.phaseOf r = some (.opened id)) ∧
      (∀ r id, c'.phaseOf r = some (.opened id) → c.phaseOf r = some (.opened id)) := by
  obtain ⟨headers, phases⟩ := unsent
  refine ⟨fun r cause phase => ?_, fun id inside => ?_, fun r id phase => ?_⟩
  · rcases phases r with same | ⟨_, p, found, moving⟩
    · exact attested.failed r cause (same ▸ phase)
    · cases found.symm.trans phase
      rcases moving with waiting | ⟨cause', same, unopened⟩
      · cases waiting
      · cases same
        exact unopened
  · rw [headers] at inside
    obtain ⟨r, phase⟩ := attested.owners id inside
    exact ⟨r, settled phase rfl⟩
  · rcases phases r with same | ⟨_, p, found, moving⟩
    · exact same ▸ phase
    · cases found.symm.trans phase
      rcases moving with waiting | ⟨cause', same, _⟩
      · cases waiting
      · cases same

theorem step_attested {w : Windows} (attested : Attested c) (plain : foreign e = none)
    (stepped : c.step w e = some c') : Attested c' := by
  have numbered : Numbered c :=
    ⟨attested.ordered.distinct, fun s inside => (attested.ordered.below s inside).2⟩
  have settled : ∀ {r : Nat} {p : RequestPhase}, c.phaseOf r = some p → p.settled = true →
      c'.phaseOf r = some p := fun phase done => step_settled attested stepped phase done
  have admission := step_admission attested.admission stepped
  have ordered := step_ordered attested.ordered stepped
  have untainted := step_untainted plain attested.untainted stepped
  have streams := step_streamsBacked attested.ordered.distinct plain stepped attested.streams
  have heard := step_heard numbered attested.heard stepped
  rcases step_moves attested.admission attested.untainted stepped with unsent |
    ⟨_, _, headers, k, waiting, opened, others⟩
  · obtain ⟨failed, owners, older⟩ := unsent.attested attested settled
    refine ⟨admission, ordered, untainted, streams, heard, failed, owners, fun r id phase => ?_,
      fun r r' id one two => attested.unique r r' id (older r id one) (older r' id two)⟩
    rw [unsent.1]
    exact attested.issued r id (older r id phase)
  · -- the id of the new stream is above every id that was sent before
    have fresh : c.nextStreamId ∉ c.headersSent := by
      intro inside
      rw [attested.ordered.headers] at inside
      obtain ⟨s, member, same⟩ := List.mem_map.1 inside
      have below := (attested.ordered.below s member).2
      omega
    refine ⟨admission, ordered, untainted, streams, heard, fun r cause phase => ?_,
      fun id inside => ?_, fun r id phase => ?_, fun r r' id one two => ?_⟩
    · by_cases same : r = k
      · subst same
        cases opened.symm.trans phase
      · exact attested.failed r cause (others r same ▸ phase)
    · rw [headers] at inside
      rcases List.mem_append.1 inside with old | new
      · obtain ⟨r, phase⟩ := attested.owners id old
        exact ⟨r, settled phase rfl⟩
      · cases List.mem_singleton.1 new
        exact ⟨k, opened⟩
    · rw [headers]
      by_cases same : r = k
      · subst same
        cases opened.symm.trans phase
        exact List.mem_append_right _ (.head _)
      · exact List.mem_append_left _ (attested.issued r id (others r same ▸ phase))
    · by_cases first : r = k
      · by_cases second : r' = k
        · exact first.trans second.symm
        · subst first
          cases opened.symm.trans one
          exact absurd (attested.issued r' _ (others r' second ▸ two)) fresh
      · by_cases second : r' = k
        · subst second
          cases opened.symm.trans two
          exact absurd (attested.issued r _ (others r first ▸ one)) fresh
        · exact attested.unique r r' id (others r first ▸ one) (others r' second ▸ two)

theorem start_attested (H : Hpack) (w : Windows) : Attested (Conn.start H w) := by
  have empty : (Conn.start H w).headersSent = [] := (start_ordered H w).headers
  refine ⟨start_admission H w, start_ordered H w, ?_, ?_, ?_, ?_, ?_, ?_, ?_⟩
  · intro q inside
    cases inside
  · intro s inside
    cases inside
  · intro last code debug inside
    cases inside
  · intro r cause phase
    cases phase
  · rw [empty]
    intro id inside
    cases inside
  · intro r id phase
    cases phase
  · intro r r' id phase
    cases phase

end Conn

end GrpcBridge.H2
