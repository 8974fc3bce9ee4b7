/-
# H2.Settlement -- a stream leaves the map settled

The abort listener of `request` acts on streams of the map only, so a stream that has
left the map must have its head settled and its body over.  A reset, a GOAWAY and a
teardown fail the stream themselves.  A retirement does not: it relies on the final
head and the end of the body having been seen, and nothing checks that they were.

`strands` is the missing check: the event that ends the second direction of a stream
without a final head, or whose END_STREAM was taken by an interim block.  Runs without
such an event leave no stream behind (`settled_of_reaches`); the pole at the end is a
peer that answers a bodyless request with an empty END_STREAM DATA frame.
-/
import GrpcBridge.H2.ReceiveCredit

namespace GrpcBridge.H2

open GrpcBridge.Theory

set_option autoImplicit false

variable {H : Hpack}

namespace Conn

/-- The header block is an interim 1xx response. -/
def interimBlock (c : Conn H) (pb : PendingHeaderBlock) : Bool :=
  match (H.decode c.hpack pb.fragments.flatten).2 with
  | .ok headers => Stream.interim (collectHeaders headers)
  | .error _ => false

/-- The event closes the second direction of a stream that has no final head, or
whose body has not ended. -/
def strands (c : Conn H) : Event → Bool
  | .recv (.data f) =>
      f.endStream && (c.get f.streamId).any fun s => c.accepts f s && s.localClosed && !s.gotHead
  | .recv f =>
      (c.completing f).any fun pb =>
        pb.endStream && c.interimBlock pb &&
          (c.get pb.streamId).any fun s => s.localClosed && !s.gotHead
  | .uploadFlushed id => (c.get id).any fun s => s.remoteClosed && !(s.gotHead && s.recvEnded)
  | _ => false

/-- The head promise follows `gotHead`, and a stream fails only by leaving the map. -/
structure Tidy (s : Stream) : Prop where
  head : s.gotHead = true → s.head ≠ .pending
  live : s.inMap = true → s.recvError = none

/-- The head is settled and the body is terminal. -/
def Settled (s : Stream) : Prop :=
  s.head ≠ .pending ∧ (s.recvEnded = true ∨ s.recvError.isSome = true)

/-! ## One event -/

theorem Tidy.dropped {s : Stream} {cause : Cause} (head : s.gotHead = true → s.head ≠ .pending) :
    Tidy (dropped cause s) := by
  refine ⟨?_, by simp [Conn.dropped]⟩
  intro _
  simp only [Conn.dropped, Stream.fail]
  split
  · exact head ‹_›
  · exact Head.noConfusion

theorem fail_head {s : Stream} {cause : Cause} (tidy : Tidy s) :
    (s.fail cause).head ≠ .pending := by
  have settled : Tidy (dropped cause s) := .dropped tidy.head
  exact settled.head rfl

/-- Failing a stream settles it. -/
theorem settled_dropped {s : Stream} {cause : Cause}
    (head : s.gotHead = true → s.head ≠ .pending) : Settled (dropped cause s) := by
  refine ⟨(Tidy.dropped head).head rfl, .inr ?_⟩
  cases failed : s.recvError <;> simp [dropped, Stream.fail, failed]

theorem Tidy.receiveHeaders {s : Stream} (tidy : Tidy s) (headers : List Header)
    (endStream : Bool) : Tidy (s.receiveHeaders headers endStream) := by
  rw [receiveHeaders_eq]
  split
  · exact ⟨tidy.head, tidy.live⟩
  split
  · exact tidy
  · exact ⟨fun _ => Head.noConfusion, tidy.live⟩

theorem Tidy.halfClosed {s : Stream} (tidy : Tidy s) (endStream : Bool) :
    Tidy (halfClosed endStream s) := by
  unfold Conn.halfClosed retired
  split
  · split
    · exact ⟨tidy.head, by simp⟩
    · exact ⟨tidy.head, tidy.live⟩
  · exact tidy

/-- A pull leaves alone what the connection decides. -/
theorem pullBody_fields (s : Stream) :
    s.pullBody.1.inMap = s.inMap ∧ s.pullBody.1.gotHead = s.gotHead ∧
      s.pullBody.1.head = s.head ∧ s.pullBody.1.recvEnded = s.recvEnded ∧
      s.pullBody.1.recvError = s.recvError := by
  unfold Stream.pullBody
  repeat' split
  all_goals exact ⟨rfl, rfl, rfl, rfl, rfl⟩

theorem Tidy.effect {c : Conn H} {e : Event} {s s' : Stream} (tidy : Tidy s)
    (effect : Effect c e s s') : Tidy s' := by
  cases effect with
  | keep => exact tidy
  | windows => exact ⟨tidy.head, tidy.live⟩
  | data n taken =>
      obtain ⟨gotHead, head, recvError, _, stays, _⟩ := accepted_fields _ n s
      refine ⟨?_, ?_⟩
      · rw [gotHead, head]
        exact tidy.head
      · intro live
        rw [recvError]
        exact tidy.live (stays live)
  | headers complete decoded found => exact (tidy.receiveHeaders _ _).halfClosed _
  | reset cause _ live may => exact .dropped tidy.head
  | peerReset errorCode live => exact Tidy.dropped (s := s.discardBuffered) tidy.head
  | excluded cause _ live later => exact .dropped tidy.head
  | torn sendWindow cause _ live may => exact .dropped tidy.head
  | pulled n =>
      obtain ⟨_, credit⟩ := credited_eq n s.pullBody.1
      obtain ⟨inMap, gotHead, head, _, recvError⟩ := pullBody_fields s
      rw [credit]
      exact ⟨by rw [gotHead, head]; exact tidy.head, by rw [inMap, recvError]; exact tidy.live⟩
  | cancelled n stays =>
      obtain ⟨_, credit⟩ := credited_eq n s.cancelBody
      rw [credit]
      exact ⟨tidy.head, tidy.live⟩
  | cancelReset n cause _ =>
      obtain ⟨_, credit⟩ := credited_eq n s.cancelBody
      rw [credit]
      exact .dropped tidy.head
  | aborted reason cause asked opened live => exact .dropped fun _ => fail_head tidy
  | flushed =>
      unfold retired
      split
      · exact ⟨tidy.head, by simp⟩
      · exact ⟨tidy.head, tidy.live⟩
  | uploadFailed raised gone => exact ⟨fun _ => fail_head tidy, by simp [Stream.fail, gone]⟩
  | uploadReset raised cause live => exact .dropped fun _ => fail_head tidy

theorem strands_block {c : Conn H} {f : Frame} {pb : PendingHeaderBlock}
    (complete : c.completing f = some pb) : c.strands (.recv f) =
      (pb.endStream && c.interimBlock pb &&
        (c.get pb.streamId).any fun s => s.localClosed && !s.gotHead) := by
  cases f with
  | data f =>
      unfold completing at complete
      split at complete <;> simp_all
  | _ => simp [strands, complete]

theorem settled_halfClosed {s : Stream} {endStream : Bool} (settled : Settled s) :
    Settled (halfClosed endStream s) := by
  unfold halfClosed retired
  repeat' split
  all_goals exact settled

/-- Only a finished upload and an END_STREAM retire a stream. -/
theorem halfClosed_gone {s : Stream} {endStream : Bool}
    (gone : (halfClosed endStream s).inMap = false) (live : s.inMap = true) :
    endStream = true ∧ s.localClosed = true := by
  unfold halfClosed retired at gone
  cases endStream <;> cases sent : s.localClosed <;> simp_all

/-- The stream of a header block is not retired before its final head. -/
theorem settled_headers {c : Conn H} {f : Frame} {pb : PendingHeaderBlock} {hpack : H.State}
    {headers : List Header} {s : Stream} (tidy : Tidy s) (safe : c.strands (.recv f) = false)
    (complete : c.completing f = some pb)
    (decoded : H.decode c.hpack pb.fragments.flatten = (hpack, .ok headers))
    (found : c.get pb.streamId = some s)
    (gone : (halfClosed pb.endStream (s.receiveHeaders headers pb.endStream)).inMap = false) :
    Settled (halfClosed pb.endStream (s.receiveHeaders headers pb.endStream)) := by
  have live := (c.get_eq_some found).2.2
  rw [strands_block complete, found, interimBlock, decoded] at safe
  rw [receiveHeaders_eq] at gone ⊢
  by_cases got : s.gotHead = true
  · rw [if_pos got] at gone ⊢
    obtain ⟨ends, _⟩ := halfClosed_gone gone live
    refine settled_halfClosed ⟨tidy.head got, .inl ?_⟩
    simp [ends]
  rw [if_neg got] at gone ⊢
  by_cases early : Stream.interim (collectHeaders headers) = true
  · -- An interim block says nothing about the response, so it may not retire the stream.
    rw [if_pos early] at gone
    obtain ⟨ends, sent⟩ := halfClosed_gone gone live
    simp [ends, sent, early, got] at safe
  · rw [if_neg early] at gone ⊢
    obtain ⟨ends, _⟩ := halfClosed_gone gone live
    refine settled_halfClosed ⟨Head.noConfusion, .inl ?_⟩
    simp [ends]

/-- A stream that leaves the map at an event that strands none is settled. -/
theorem settled_effect {c : Conn H} {e : Event} {s s' : Stream} (tidy : Tidy s)
    (distinct : (c.streams.map Stream.id).Nodup) (member : s ∈ c.streams)
    (safe : c.strands e = false) (settled : s.inMap = false → Settled s)
    (effect : Effect c e s s') (gone : s'.inMap = false) : Settled s' := by
  cases effect with
  | keep => exact settled gone
  | windows => exact settled gone
  | data n taken =>
      rename_i f
      obtain ⟨_, head, _, recvEnded, _, leaves⟩ := accepted_fields f n s
      have found : c.get f.streamId = some s := by
        simp only [accepts, Bool.and_eq_true, decide_eq_true_eq] at taken
        exact taken.1.1.1.2
      obtain ⟨ends, sent⟩ := leaves gone (c.get_eq_some found).2.2
      have got : s.gotHead = true := by
        simpa [strands, ends, found, taken, sent] using safe
      refine ⟨?_, .inl ?_⟩
      · rw [head]
        exact tidy.head got
      · rw [recvEnded, ends, Bool.or_true]
  | headers complete decoded found =>
      exact settled_headers tidy safe complete decoded found gone
  | reset cause _ live may => exact settled_dropped tidy.head
  | peerReset errorCode live => exact settled_dropped (s := s.discardBuffered) tidy.head
  | excluded cause _ live later => exact settled_dropped tidy.head
  | torn sendWindow cause _ live may => exact settled_dropped tidy.head
  | pulled n =>
      obtain ⟨_, credit⟩ := credited_eq n s.pullBody.1
      obtain ⟨inMap, _, head, recvEnded, recvError⟩ := pullBody_fields s
      rw [credit] at gone ⊢
      have before := settled (inMap ▸ gone)
      simpa only [Settled, head, recvEnded, recvError] using before
  | cancelled n stays =>
      obtain ⟨_, credit⟩ := credited_eq n s.cancelBody
      rw [credit] at gone ⊢
      exact settled gone
  | cancelReset n cause _ =>
      obtain ⟨_, credit⟩ := credited_eq n s.cancelBody
      rw [credit]
      exact settled_dropped tidy.head
  | aborted reason cause asked opened live => exact settled_dropped fun _ => fail_head tidy
  | flushed =>
      cases live : s.inMap with
      | false =>
          have before := settled live
          unfold retired
          split <;> exact before
      | true =>
          have found := c.get_of_mem distinct member live
          cases ended : s.remoteClosed with
          | false => simp [retired, ended, live] at gone
          | true =>
              have both : s.gotHead = true ∧ s.recvEnded = true := by
                simpa [strands, found, ended] using safe
              simp only [retired, Bool.and_self, if_true]
              exact ⟨tidy.head both.1, .inl both.2⟩
  | uploadFailed raised out =>
      refine ⟨fail_head tidy, .inr ?_⟩
      cases failed : s.recvError <;> simp [Stream.fail, failed]
  | uploadReset raised cause live => exact settled_dropped fun _ => fail_head tidy

/-! ## Runs -/

/-- The streams of a run that strands none. -/
structure Orderly (c : Conn H) : Prop where
  numbered : Numbered c
  tidy : ∀ s ∈ c.streams, Tidy s
  settled : ∀ s ∈ c.streams, s.inMap = false → Settled s

theorem step_orderly {w : Windows} {c c' : Conn H} {e : Event} (orderly : Orderly c)
    (safe : c.strands e = false) (stepped : c.step w e = some c') : Orderly c' := by
  have distinct := orderly.numbered.1
  refine ⟨step_numbered orderly.numbered stepped, ?_, ?_⟩
  · refine forall_step distinct stepped ?_ ?_
    · intro s member s' effect
      exact (orderly.tidy s member).effect effect
    · intro q
      exact ⟨fun got => Bool.noConfusion got, fun _ => rfl⟩
  · refine forall_step distinct stepped ?_ ?_
    · intro s member s' effect gone
      exact settled_effect (orderly.tidy s member) distinct member safe (orderly.settled s member)
        effect gone
    · intro q gone
      cases gone

/-- The abort of an open request settles its stream, or finds it settled. -/
theorem abort_settles {w : Windows} {c c' : Conn H} {r id : Nat} {q : Request} {reason : Cause}
    (orderly : Orderly c) (asked : c.requests[r]? = some q) (opened : q.phase = .opened id)
    (stepped : c.step w (.abort r reason) = some c') : ∀ s ∈ c'.streams, s.id = id → s.head ≠ .pending := by
  have done : c' = c.abort r q reason := by
    simp only [step, asked] at stepped
    split at stepped
    · cases stepped
    · exact (Option.some.inj stepped).symm
  let marked : Conn H :=
    { c with requests := c.requests.modify r fun q => { q with aborted := some reason } }
  have reaches : c.abort r q reason = marked.abortStream id reason := by simp only [abort, opened, marked]
  rw [done, reaches, abortStream]
  intro s member same
  have sees : marked.get id = c.get id := c.get_congr rfl id
  cases found : c.get id with
  | none =>
      have unknown : ¬ marked.has id = true := by
        rw [has, sees, found]
        exact Bool.false_ne_true
      rw [if_neg unknown] at member
      exact (orderly.settled s member (c.get_eq_none found s member same)).1
  | some t =>
      have known : marked.has id = true := by
        rw [has, sees, found]
        rfl
      rw [if_pos known, marked.modify_resetStream_streams found (f := (·.fail reason))
        fun _ => ⟨rfl, rfl⟩] at member
      obtain ⟨old, before, rfl⟩ := Keyed.mem_update.1 member
      by_cases here : old.id = id
      · rw [if_pos here]
        show (old.fail reason).head ≠ .pending
        exact fail_head (orderly.tidy old before)
      · rw [if_neg here] at same
        exact absurd same here

/-- **Stranded-call freedom.**  In every run without an event that ends the second
direction of a stream before its final head, a stream that is no longer in the map
has its head settled and its body terminal, and an abort leaves no open request with
a pending head. -/
theorem settled_of_reaches {w : Windows} {c : Conn H}
    (reached : (sessionMachine H w).Reaches (strands · · = false) c) :
    (∀ s ∈ c.streams, s.inMap = false →
      s.head ≠ .pending ∧ (s.recvEnded = true ∨ s.recvError.isSome = true)) ∧
    ∀ r q id reason c', c.requests[r]? = some q → q.phase = .opened id →
      c.step w (.abort r reason) = some c' → ∀ s ∈ c'.streams, s.id = id → s.head ≠ .pending := by
  have orderly : Orderly c := by
    refine Machine.Steps.invariant Orderly (fun _ _ _ orderly safe stepped =>
      step_orderly orderly safe stepped) reached ⟨start_numbered H w, ?_, ?_⟩
    all_goals
      intro s member
      cases member
  exact ⟨orderly.settled, fun r q id reason c' asked opened stepped =>
    abort_settles orderly asked opened stepped⟩

end Conn

/-! ## END_STREAM before the head -/

/-- A bodyless request is answered by a head and an empty END_STREAM DATA frame. -/
def answered : List Event :=
  [.request [0x82] false, .ready 0, .recv (.headers 1 [0x88] false true),
    .recv (.data { streamId := 1, data := [], endStream := true })]

/-- The same without the head. -/
def headless : List Event :=
  [.request [0x82] false, .ready 0,
    .recv (.data { streamId := 1, data := [], endStream := true })]

theorem settled_answered :
    ∃ c : Conn statusOnly,
      (sessionMachine statusOnly smallWindows).run (Conn.strands · · = false)
        (sessionMachine statusOnly smallWindows).init answered = some c ∧
      c.streams.map Stream.inMap = [false] ∧
      ∀ s ∈ c.streams, s.inMap = false →
        s.head ≠ .pending ∧ (s.recvEnded = true ∨ s.recvError.isSome = true) := by
  refine ⟨_, rfl, rfl, ?_⟩
  exact (Conn.settled_of_reaches (w := smallWindows) (Machine.steps_of_run answered rfl)).1

/-- The stream is retired with its head pending, and the abort of its request finds
nothing to do. -/
theorem headless_strands :
    ¬ ∀ c : Conn statusOnly, (sessionMachine statusOnly smallWindows).Reaches Machine.always c →
      (∀ s ∈ c.streams, s.inMap = false →
        s.head ≠ .pending ∧ (s.recvEnded = true ∨ s.recvError.isSome = true)) ∧
      ∀ r q id reason c', c.requests[r]? = some q → q.phase = .opened id →
        c.step smallWindows (.abort r reason) = some c' → ∀ s ∈ c'.streams, s.id = id →
          s.head ≠ .pending := by
  intro never
  have settled := (never _ (Machine.steps_of_run headless rfl)).2 0 _ 1 .aborted _ rfl rfl rfl
    _ (.head _) rfl
  exact settled rfl

end GrpcBridge.H2
