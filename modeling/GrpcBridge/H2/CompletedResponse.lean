/-
# H2.CompletedResponse -- a response that is complete while its request uploads

After END_STREAM on a response whose request is still uploading the stream is
half-closed(remote) and stays in the map.  What the consumer has not read yet is whole:
the unread chunks, a clean end and the trailers.  `Delivered` says that these chunks
are the DATA bytes received, and `Completes` which trailers came with END_STREAM.

A reset from either side, an excluding or fatal GOAWAY and whatever takes the connection
down are applied to every stream of the map, so they also hit this one: they put an error
in front of the clean end, and a reset drops the unread chunks.  So does an upload that
fails, and another header block replaces the trailers.  `cutsShort` is that event.
Without it the response survives every run in which its consumer and its request do not
withdraw (`survives_of_reaches`); a stream that has been retired is out of reach of all
of them.
-/
import GrpcBridge.H2.HeaderBlocks
import GrpcBridge.H2.Settlement

namespace GrpcBridge.H2

open GrpcBridge.Theory

set_option autoImplicit false

/-- The bytes a frame carries for the body of stream `id`. -/
def Frame.payload (id : Nat) : Frame → Bytes
  | .data f => if f.streamId = id then f.data else []
  | _ => []

variable {H : Hpack}

namespace Conn

/-- The DATA bytes received on stream `id`. -/
def bodyBytes (c : Conn H) (id : Nat) : Bytes := c.received.flatMap (Frame.payload id)

/-! ## Chunks are the bytes received -/

/-- Taken and unread bytes of an open body are the DATA bytes received. -/
structure Delivered (c : Conn H) : Prop where
  parity : c.nextStreamId % 2 = 1
  fresh : ∀ id, c.nextStreamId ≤ id → id % 2 = 1 → c.bodyBytes id = []
  body : ∀ s ∈ c.streams, s.inMap = true → s.bodyDone = false →
    s.taken ++ s.recvQueue.flatten = c.bodyBytes s.id

section Delivery

variable {w : Windows} {c c' : Conn H} {e : Event}

theorem bodyBytes_of_receive {f : Frame} {id : Nat} (log : c'.received = c.received ++ [f]) :
    c'.bodyBytes id = c.bodyBytes id ++ f.payload id := by
  simp [bodyBytes, log]

/-- An event other than a DATA frame carries nothing. -/
theorem bodyBytes_of_plain {e : Event} {id : Nat} (plain : ∀ f, e ≠ .recv (.data f))
    (log : c'.received = (c.logged e).received) : c'.bodyBytes id = c.bodyBytes id := by
  cases e with
  | recv f =>
      have empty : f.payload id = [] := by
        cases f with
        | data f => exact absurd rfl (plain f)
        | _ => rfl
      rw [bodyBytes_of_receive log, empty, List.append_nil]
  | _ => rw [bodyBytes, bodyBytes, log]; rfl

/-- A header block does not touch the body. -/
theorem headers_body (s : Stream) (headers : List Header) (endStream : Bool) :
    let s' := halfClosed endStream (s.receiveHeaders headers endStream)
    s'.taken = s.taken ∧ s'.recvQueue = s.recvQueue ∧ s'.bodyDone = s.bodyDone ∧
      s'.bodyEnd = s.bodyEnd ∧ (s'.inMap = true → s.inMap = true) := by
  rw [receiveHeaders_eq]
  unfold halfClosed retired
  cases endStream <;> cases s.localClosed <;> simp only [Bool.false_eq_true, if_false, if_true] <;>
    repeat' split
  all_goals simp

/-- A pull hands over the first chunk, or ends the body. -/
theorem pullBody_body (s : Stream) :
    s.pullBody.1.taken ++ s.pullBody.1.recvQueue.flatten = s.taken ++ s.recvQueue.flatten ∧
      (s.pullBody.1.bodyDone = false → s.bodyDone = false) := by
  unfold Stream.pullBody
  cases queue : s.recvQueue with
  | cons chunk rest => simp
  | nil =>
      simp only
      repeat' split
      all_goals simp [queue]

/-- The body of a stream no DATA frame reaches. -/
theorem body_effect {s s' : Stream} (plain : ∀ f, e ≠ .recv (.data f)) {bytes : Bytes}
    (body : s.inMap = true → s.bodyDone = false → s.taken ++ s.recvQueue.flatten = bytes)
    (effect : Effect c e s s') (live : s'.inMap = true) (wanted : s'.bodyDone = false) :
    s'.taken ++ s'.recvQueue.flatten = bytes := by
  cases effect with
  | keep => exact body live wanted
  | windows => exact body live wanted
  | data n taken => exact absurd rfl (plain _)
  | headers complete decoded found =>
      obtain ⟨taken, recvQueue, bodyDone, _, stays⟩ := headers_body s _ _
      rw [taken, recvQueue]
      exact body (stays live) (bodyDone ▸ wanted)
  | reset cause _ _ may => cases live
  | peerReset errorCode _ => cases live
  | excluded cause _ _ later => cases live
  | torn sendWindow cause _ _ may => cases live
  | pulled n able =>
      obtain ⟨_, credit⟩ := credited_eq n s.pullBody.1
      obtain ⟨chunks, still⟩ := pullBody_body s
      rw [credit] at live wanted ⊢
      rw [← body ((pullBody_fields s).1 ▸ live) (still wanted)]
      exact chunks
  | cancelled n stays =>
      obtain ⟨_, credit⟩ := credited_eq n s.cancelBody
      rw [credit] at wanted
      cases wanted
  | cancelReset n cause _ => cases live
  | aborted reason cause asked opened _ => cases live
  | flushed =>
      unfold retired at live wanted ⊢
      split at live
      · cases live
      · rename_i open_
        rw [if_neg open_] at wanted ⊢
        exact body live wanted
  | uploadFailed raised gone =>
      rw [show s.inMap = true from live] at gone
      cases gone
  | uploadReset raised cause _ => cases live

theorem payload_other {f : DataFrame} {id : Nat} (other : f.streamId ≠ id) :
    Frame.payload id (.data f) = [] := if_neg other

/-- Only the stream of a DATA frame has more bytes. -/
theorem Delivered.update (numbered : Numbered c) (delivered : Delivered c) {f : DataFrame}
    {s : Stream} (found : c.get f.streamId = some s) {g : Stream → Stream}
    (streams : c'.streams = Keyed.update Stream.id f.streamId g c.streams)
    (keeps : ∀ s, (g s).id = s.id) (onward : Onward (c.arrive (.data f)) c')
    (body : (g s).inMap = true → (g s).bodyDone = false →
      (g s).taken ++ (g s).recvQueue.flatten = c.bodyBytes f.streamId ++ f.data) :
    Delivered c' := by
  obtain ⟨member, same, _⟩ := c.get_eq_some found
  have next : c'.nextStreamId = c.nextStreamId := onward.nextStreamId
  have bytes : ∀ id, c'.bodyBytes id = c.bodyBytes id ++ Frame.payload id (.data f) :=
    fun id => bodyBytes_of_receive onward.received
  refine ⟨next ▸ delivered.parity, ?_, ?_⟩
  · intro id later odd
    have old := numbered.2 s member
    rw [bytes, payload_other (by omega), List.append_nil]
    exact delivered.fresh id (next ▸ later) odd
  · intro t' inside
    rw [streams] at inside
    obtain ⟨t, before, rfl⟩ := Keyed.mem_update.1 inside
    rw [bytes]
    by_cases here : t.id = f.streamId
    · obtain rfl := List.inj_on_of_nodup_map numbered.1 before member (here.trans same.symm)
      rw [if_pos here, keeps, here, Frame.payload, if_pos rfl]
      exact body
    · rw [if_neg here, payload_other (Ne.symm here), List.append_nil]
      exact delivered.body t before

/-- DATA that reaches no stream. -/
theorem Delivered.stray (delivered : Delivered c) {f : DataFrame}
    (missing : c.get f.streamId = none) {highestPromised : Nat}
    (known : isIdleInboundStream f.streamId c.nextStreamId highestPromised = false)
    (streams : c'.streams = c.streams) (onward : Onward (c.arrive (.data f)) c') :
    Delivered c' := by
  have next : c'.nextStreamId = c.nextStreamId := onward.nextStreamId
  have bytes : ∀ id, c'.bodyBytes id = c.bodyBytes id ++ Frame.payload id (.data f) :=
    fun id => bodyBytes_of_receive onward.received
  refine ⟨next ▸ delivered.parity, ?_, ?_⟩
  · intro id later odd
    have other : f.streamId ≠ id := by
      rintro rfl
      have proper : f.streamId ≠ 0 := by omega
      simp [isIdleInboundStream, proper, odd] at known
      omega
    rw [bytes, payload_other other, List.append_nil]
    exact delivered.fresh id (next ▸ later) odd
  · intro s inside live wanted
    rw [streams] at inside
    have other : f.streamId ≠ s.id := by
      intro same
      rw [c.get_eq_none missing s inside same.symm] at live
      cases live
    rw [bytes, payload_other other, List.append_nil]
    exact delivered.body s inside live wanted

/-- DATA that its stream may not take. -/
theorem Delivered.refuse (numbered : Numbered c) (delivered : Delivered c) {f : DataFrame}
    {s : Stream} (found : c.get f.streamId = some s) (code : ErrorCode) :
    Delivered (((c.arrive (.data f)).bounce f).resetStream f.streamId code) := by
  have kept : ((c.arrive (.data f)).bounce f).streams = c.streams :=
    replenishConnectionWindow_streams _ _
  have streams := resetStream_streams _ code ((c.get_congr kept f.streamId).trans found)
  rw [kept] at streams
  refine delivered.update numbered found streams (fun _ => rfl)
    ((bounce_onward _ f).trans (resetStream_onward _ _ _)) ?_
  intro live
  cases live

theorem Delivered.accept (numbered : Numbered c) (delivered : Delivered c) {f : DataFrame}
    {s : Stream} (found : c.get f.streamId = some s) :
    Delivered ((c.arrive (.data f)).acceptData f) := by
  obtain ⟨member, same, live⟩ := c.get_eq_some found
  refine delivered.update numbered found
    (acceptData_streams (c.arrive (.data f)) numbered.1 found) (accepted_id f _)
    (acceptData_onward _ f) ?_
  obtain ⟨taken, bodyDone, _, chunks⟩ := accepted_body f ((c.arrive (.data f)).granting f.padding) s
  intro _ wanted
  rw [bodyDone] at wanted
  rw [taken, chunks wanted, ← List.append_assoc, delivered.body s member live wanted, same]

/-- A DATA frame reaches the body of its stream, or its stream is reset. -/
theorem onData_delivered (numbered : Numbered c) (delivered : Delivered c) (f : DataFrame) :
    (c.onFrame (.data f)).closed = true ∨ Delivered (c.onFrame (.data f)) := by
  have outcome : tearsDown ((c.arrive (.data f)).dispatch (.data f)).2 = true ∨
      (((c.arrive (.data f)).dispatch (.data f)).2 = none ∧
        Delivered ((c.arrive (.data f)).dispatch (.data f)).1) := by
    cases pending : c.pendingHeaderBlock with
    | some pb =>
        left
        simp [dispatch, arrive, pending, tearsDown, protocolError]
    | none =>
        have plain : (c.arrive (.data f)).dispatch (.data f) =
            (c.arrive (.data f)).receiveDataFrame f := by
          simp only [dispatch, arrive, pending]
        have looked : (c.arrive (.data f)).get f.streamId = c.get f.streamId := rfl
        rw [plain, receiveDataFrame_eq]
        split
        · exact .inl rfl
        cases found : c.get f.streamId with
        | some s =>
            rw [looked, found]
            right
            simp only
            repeat' split
            · exact ⟨rfl, delivered.refuse numbered found _⟩
            · exact ⟨rfl, delivered.refuse numbered found _⟩
            · exact ⟨rfl, delivered.accept numbered found⟩
        | none =>
            rw [looked, found]
            simp only
            split
            · exact .inl rfl
            · rename_i known
              have bounced := bounce_onward (c.arrive (.data f)) f
              have streams : (((c.arrive (.data f)).bounce f).send
                  (.rstStream f.streamId (errorCodeValue .streamClosed))).streams = c.streams := by
                rw [send_streams]
                exact replenishConnectionWindow_streams _ _
              rw [bounced.nextStreamId] at known
              exact .inr ⟨rfl, delivered.stray found (by simpa [arrive] using known) streams
                (bounced.trans (send_same _ _).onward)⟩
  obtain ⟨nothing, done⟩ | ⟨error, id, thrown, ofStream, done⟩ | ⟨cause, _, torn, done⟩ :=
    c.onFrame_cases (.data f)
  · rw [done]
    rcases outcome with torn | ⟨_, kept⟩
    · rw [nothing] at torn
      cases torn
    · exact .inr kept
  · rcases outcome with torn | ⟨nothing, _⟩
    · simp [thrown, tearsDown, ofStream] at torn
    · rw [thrown] at nothing
      cases nothing
  · rw [done]
    exact .inl (connectionError_closed _ _)

theorem step_delivered (numbered : Numbered c) (delivered : Delivered c)
    (stepped : c.step w e = some c') : c'.closed = true ∨ Delivered c' := by
  by_cases isData : ∃ f, e = .recv (.data f)
  · obtain ⟨f, rfl⟩ := isData
    obtain rfl := Option.some.inj stepped
    exact onData_delivered numbered delivered f
  have plain : ∀ f, e ≠ .recv (.data f) := fun f same => isData ⟨f, same⟩
  right
  have parity := delivered.parity
  rcases step_streams numbered.1 stepped with ⟨⟨g, streams, effect⟩, onward⟩ |
    ⟨_, _, q, streams, next, log⟩
  · have next : c'.nextStreamId = c.nextStreamId := by
      rw [onward.nextStreamId, logged_nextStreamId]
    have same : ∀ id, c'.bodyBytes id = c.bodyBytes id :=
      fun id => bodyBytes_of_plain plain onward.received
    refine ⟨next ▸ parity, ?_, ?_⟩
    · intro id later odd
      rw [same]
      exact delivered.fresh id (next ▸ later) odd
    · intro s' inside
      rw [streams] at inside
      obtain ⟨s, member, rfl⟩ := List.mem_map.1 inside
      rw [(effect s member).id, same]
      exact body_effect plain (delivered.body s member) (effect s member)
  · have same : ∀ id, c'.bodyBytes id = c.bodyBytes id := by
      intro id
      rw [bodyBytes, log, bodyBytes]
    refine ⟨by omega, ?_, ?_⟩
    · intro id later odd
      rw [same]
      exact delivered.fresh id (by omega) odd
    · intro s inside
      rw [streams] at inside
      rw [same]
      rcases List.mem_append.1 inside with old | new
      · exact delivered.body s old
      · obtain rfl : s = c.newStream w q := by simpa using new
        intro _ _
        exact (delivered.fresh c.nextStreamId (Nat.le_refl _) parity).symm

end Delivery

/-! ## The end of a response -/

/-- With frame `f` the peer ends a response on stream `s`, and sends these trailers. -/
inductive Completes (c : Conn H) (s : Stream) : Frame → Option (List (String × String)) → Prop
  /-- DATA, with no block since the response headers. -/
  | data {f : DataFrame} {head : HeadHead} (taken : c.accepts f s = true)
      (ends : f.endStream = true) (answered : s.head = .resolved head) (bare : s.trailers = none) :
      Completes c s (.data f) none
  /-- A block behind the response headers. -/
  | trailers {f : Frame} {pb : PendingHeaderBlock} {hpack : H.State} {headers : List Header}
      {head : HeadHead} (complete : c.completing f = some pb) (kind : pb.kind = .response)
      (found : c.get pb.streamId = some s) (ends : pb.endStream = true)
      (decoded : H.decode c.hpack pb.fragments.flatten = (hpack, .ok headers))
      (answered : s.head = .resolved head) : Completes c s f (some (collectHeaders headers).headers)
  /-- The response headers themselves. -/
  | head {f : Frame} {pb : PendingHeaderBlock} {hpack : H.State} {headers : List Header}
      (complete : c.completing f = some pb) (kind : pb.kind = .response)
      (found : c.get pb.streamId = some s) (ends : pb.endStream = true)
      (decoded : H.decode c.hpack pb.fragments.flatten = (hpack, .ok headers))
      (unanswered : s.gotHead = false)
      (final : Stream.interim (collectHeaders headers) = false) : Completes c s f none

/-- What the response still is: whole and unread to its clean end, or read. -/
structure Intact (bytes : Bytes) (trailers : Option (List (String × String))) (s : Stream) :
    Prop where
  bytes : s.taken ++ s.recvQueue.flatten = bytes
  trailers : s.trailers = trailers
  ended : s.remoteClosed = true
  whole : (s.bodyEnd = none ∧ readable s = true ∧ s.recvError = none ∧ s.recvEnded = true) ∨
    (s.bodyEnd = some .closed ∧ s.bodyDone = true ∧ s.recvQueue = [])

/-- The consumer of stream `id` cancels the body, or the signal of its request aborts. -/
def withdraws (c : Conn H) (id : Nat) : Event → Bool
  | .cancel streamId => decide (streamId = id)
  | .abort r _ => (c.requests[r]?).any fun q => decide (q.phase = .opened id)
  | _ => false

/-- The consumer of stream `id` has not come to the end of its body. -/
def unread (c : Conn H) (id : Nat) : Bool := (c.stream id).any fun s => !s.bodyDone

/-- Stream `id` is in the map and its consumer has not come to the end. -/
def unfinished (c : Conn H) (id : Nat) : Bool := (c.get id).any fun s => !s.bodyDone

/-- The event fails stream `id` if that is in the map. -/
def fails (c : Conn H) (id : Nat) (e : Event) : Bool :=
  c.mayTear e ||
    match e with
    | .recv (.rstStream streamId _) => decide (streamId = id)
    | .recv (.goaway lastStreamId _ _) => decide (lastStreamId < id)
    | .recv f => c.mayReset f id
    | _ => false

/-- The event gives stream `id` another header block. -/
def retrails (c : Conn H) (id : Nat) : Event → Bool
  | .recv f =>
      (c.completing f).any fun pb =>
        decide (pb.kind = .response) && decide (pb.streamId = id) && (c.blockError pb).isNone
  | _ => false

/-- The pump of stream `id` throws. -/
def failsUpload (id : Nat) : Event → Bool
  | .uploadFails streamId _ => decide (streamId = id)
  | _ => false

/-- The event fails stream `id` before its response is read, or changes its trailers. -/
def cutsShort (c : Conn H) (id : Nat) (e : Event) : Bool :=
  c.unfinished id && c.fails id e || c.has id && c.retrails id e || c.unread id && failsUpload id e

section Survival

variable {w : Windows} {c c' : Conn H} {e : Event} {bytes : Bytes}
  {trailers : Option (List (String × String))}

theorem readable_wanted {s : Stream} (able : readable s = true) : s.bodyDone = false := by
  unfold readable at able
  split at able
  · simpa using able
  · cases able

/-- A response that was read to its end is out of reach. -/
theorem Intact.of_read {s s' : Stream} (intact : Intact bytes trailers s)
    (read : s.bodyDone = true) (taken : s'.taken = s.taken) (same : s'.trailers = s.trailers)
    (ended : s'.remoteClosed = s.remoteClosed) (bodyEnd : s'.bodyEnd = s.bodyEnd)
    (bodyDone : s'.bodyDone = s.bodyDone) (emptied : s.recvQueue = [] → s'.recvQueue = []) :
    Intact bytes trailers s' := by
  rcases intact.whole with ⟨_, able, _⟩ | ⟨closed, _, queue⟩
  · rw [readable_wanted able] at read
    cases read
  · refine ⟨?_, same.trans intact.trailers, ended.trans intact.ended,
      .inr ⟨bodyEnd.trans closed, bodyDone.trans read, emptied queue⟩⟩
    rw [taken, emptied queue, ← intact.bytes, queue]

/-- The stream an event fails was read before. -/
theorem read_of_spared {s : Stream} (distinct : (c.streams.map Stream.id).Nodup)
    (member : s ∈ c.streams) (live : s.inMap = true) (spared : c.cutsShort s.id e = false)
    (hits : c.fails s.id e = true) : s.bodyDone = true := by
  by_contra unread
  have waits : c.unfinished s.id = true := by
    simpa [unfinished, c.get_of_mem distinct member live] using unread
  simp [cutsShort, waits, hits] at spared

/-- So was the stream whose upload fails. -/
theorem read_of_upload {s : Stream} {cause : Cause} (distinct : (c.streams.map Stream.id).Nodup)
    (member : s ∈ c.streams) (spared : c.cutsShort s.id (.uploadFails s.id cause) = false) :
    s.bodyDone = true := by
  by_contra waits
  have waits : c.unread s.id = true := by
    simpa [unread, c.stream_of_mem distinct member] using waits
  simp [cutsShort, failsUpload, waits] at spared

theorem pullBody_chunk {s : Stream} {chunk : Bytes} {rest : List Bytes}
    (queue : s.recvQueue = chunk :: rest) : s.pullBody.1 =
      { s with
        recvQueue := rest
        recvBuffered := s.recvBuffered - chunk.length
        taken := s.taken ++ chunk } := by
  simp [Stream.pullBody, queue]

theorem pullBody_end {s : Stream} (queue : s.recvQueue = []) (calm : s.recvError = none)
    (ended : s.recvEnded = true) :
    s.pullBody.1 = { s with bodyDone := true, bodyEnd := some .closed } := by
  simp [Stream.pullBody, queue, calm, ended]

theorem Intact.pulled {s : Stream} (intact : Intact bytes trailers s) (able : readable s = true) :
    Intact bytes trailers s.pullBody.1 := by
  rcases intact.whole with ⟨waiting, _, calm, ended⟩ | ⟨_, done, _⟩
  · have chunks := (pullBody_body s).1.trans intact.bytes
    cases queue : s.recvQueue with
    | cons chunk rest =>
        rw [pullBody_chunk queue] at chunks ⊢
        exact ⟨chunks, intact.trailers, intact.ended, .inl ⟨waiting, able, calm, ended⟩⟩
    | nil =>
        rw [pullBody_end queue calm ended] at chunks ⊢
        exact ⟨chunks, intact.trailers, intact.ended, .inr ⟨rfl, rfl, queue⟩⟩
  · rw [readable_wanted able] at done
    cases done

/-- A block that reaches its stream is an event that is not spared. -/
theorem retrails_of_found {s : Stream} {f : Frame} {pb : PendingHeaderBlock} {hpack : H.State}
    {headers : List Header} (complete : c.completing f = some pb)
    (decoded : H.decode c.hpack pb.fragments.flatten = (hpack, .ok headers))
    (found : c.get pb.streamId = some s) (kind : pb.kind = .response) :
    c.cutsShort s.id (.recv f) = true := by
  have own := (c.get_eq_some found).2.1
  have known : c.has s.id = true := by rw [has, own, found]; rfl
  have sound : c.blockError pb = none := by rw [blockError, decoded]
  have given : c.retrails s.id (.recv f) = true := by
    simp [retrails, complete, kind, own, sound]
  simp [cutsShort, known, given]

theorem Intact.effect {s s' : Stream} (distinct : (c.streams.map Stream.id).Nodup)
    (member : s ∈ c.streams) (intact : Intact bytes trailers s)
    (stays : c.withdraws s.id e = false) (spared : c.cutsShort s.id e = false)
    (effect : Effect c e s s') : Intact bytes trailers s' := by
  cases effect with
  | keep => exact intact
  | windows => exact ⟨intact.bytes, intact.trailers, intact.ended, intact.whole⟩
  | data n taken =>
      simp [accepts, intact.ended] at taken
  | headers complete decoded found kind =>
      rw [retrails_of_found complete decoded found kind] at spared
      cases spared
  | @reset f _ cause _ live resets =>
      have hits : c.fails s.id (.recv f) = true := by
        unfold fails
        cases f with
        | rstStream streamId errorCode => simp [mayReset, rejected, completing] at resets
        | goaway lastStreamId errorCode debugData => simp [mayReset, rejected, completing] at resets
        | _ => simp [resets]
      exact intact.of_read (read_of_spared distinct member live spared hits) rfl rfl rfl rfl rfl
        fun _ => rfl
  | peerReset errorCode live =>
      exact intact.of_read (read_of_spared distinct member live spared (by simp [fails])) rfl rfl
        rfl rfl rfl fun _ => rfl
  | excluded cause _ live later =>
      exact intact.of_read (read_of_spared distinct member live spared (by simp [fails, later])) rfl
        rfl rfl rfl rfl id
  | torn sendWindow cause _ live tears =>
      exact intact.of_read (read_of_spared distinct member live spared (by simp [fails, tears])) rfl
        rfl rfl rfl rfl id
  | pulled n able =>
      obtain ⟨_, credit⟩ := credited_eq n s.pullBody.1
      have pulled := intact.pulled able
      rw [credit]
      exact ⟨pulled.bytes, pulled.trailers, pulled.ended, pulled.whole⟩
  | cancelled n _ => simp [withdraws] at stays
  | cancelReset n cause _ => simp [withdraws] at stays
  | aborted reason cause asked opened _ => simp [withdraws, asked, opened] at stays
  | flushed =>
      unfold retired
      split <;> exact ⟨intact.bytes, intact.trailers, intact.ended, intact.whole⟩
  | uploadFailed raised gone =>
      exact intact.of_read (read_of_upload distinct member spared) rfl rfl rfl rfl rfl id
  | uploadReset raised cause live =>
      exact intact.of_read (read_of_upload distinct member spared) rfl rfl rfl rfl rfl fun _ => rfl

/-- A frame that completes a header block is no DATA frame. -/
theorem plain_of_completing {f : Frame} {pb : PendingHeaderBlock}
    (complete : c.completing f = some pb) : ∀ g, Event.recv f ≠ .recv (.data g) := by
  rintro g ⟨⟩
  unfold completing at complete
  split at complete <;> simp_all

/-! ## Runs -/

/-- What holds of the streams of every run. -/
structure Regular (c : Conn H) : Prop where
  numbered : Numbered c
  tidy : ∀ s ∈ c.streams, Tidy s
  unended : ∀ s ∈ c.streams, s.bodyDone = false → s.bodyEnd = none
  delivered : c.closed = true ∨ Delivered c

theorem unended_effect {s s' : Stream} (unended : s.bodyDone = false → s.bodyEnd = none)
    (effect : Effect c e s s') : s'.bodyDone = false → s'.bodyEnd = none := by
  cases effect with
  | data n taken =>
      obtain ⟨_, bodyDone, bodyEnd, _⟩ := accepted_body _ n s
      rw [bodyDone, bodyEnd]
      exact unended
  | headers complete decoded found =>
      obtain ⟨_, _, bodyDone, bodyEnd, _⟩ := headers_body s _ _
      rw [bodyDone, bodyEnd]
      exact unended
  | pulled n able =>
      obtain ⟨_, credit⟩ := credited_eq n s.pullBody.1
      rw [credit]
      unfold Stream.pullBody
      repeat' split
      · exact unended
      · exact fun wanted => Bool.noConfusion wanted
      · exact fun wanted => Bool.noConfusion wanted
      · exact unended
  | cancelled n stays =>
      obtain ⟨_, credit⟩ := credited_eq n s.cancelBody
      rw [credit]
      exact fun wanted => Bool.noConfusion wanted
  | cancelReset n cause _ =>
      obtain ⟨_, credit⟩ := credited_eq n s.cancelBody
      rw [credit]
      exact fun wanted => Bool.noConfusion wanted
  | flushed =>
      unfold retired
      split <;> exact unended
  | _ => exact unended

theorem step_regular (regular : Regular c) (stepped : c.step w e = some c') : Regular c' := by
  have distinct := regular.numbered.1
  refine ⟨step_numbered regular.numbered stepped, ?_, ?_, ?_⟩
  · refine forall_step distinct stepped ?_ ?_
    · intro s member s' effect
      exact (regular.tidy s member).effect effect
    · intro q
      exact ⟨fun got => Bool.noConfusion got, fun _ => rfl⟩
  · refine forall_step distinct stepped ?_ ?_
    · intro s member s' effect
      exact unended_effect (regular.unended s member) effect
    · intro q _
      rfl
  · rcases regular.delivered with down | delivered
    · exact .inl (step_closed regular.numbered down stepped)
    · exact step_delivered regular.numbered delivered stepped

theorem regular_of_reaches (reached : (sessionMachine H w).Reaches Machine.always c) :
    Regular c := by
  refine Machine.Steps.invariant Regular (fun _ _ _ regular _ stepped =>
    step_regular regular stepped) reached ⟨start_numbered H w, ?_, ?_, .inr ⟨rfl, ?_, ?_⟩⟩
  · intro s member
    cases member
  · intro s member
    cases member
  · intro id _ _
    rfl
  · intro s member
    cases member

/-- A DATA frame that its stream takes. -/
theorem onFrame_data (distinct : (c.streams.map Stream.id).Nodup) {f : DataFrame} {s : Stream}
    (taken : c.accepts f s = true) : ∃ n, accepted f n s ∈ (c.onFrame (.data f)).streams := by
  simp only [accepts, Bool.and_eq_true, Option.isNone_iff_eq_none, decide_eq_true_eq,
    Bool.not_eq_true'] at taken
  obtain ⟨⟨⟨⟨pending, found⟩, started⟩, room⟩, fits⟩ := taken
  have looked : (c.arrive (.data f)).get f.streamId = some s := found
  have waiting : (c.arrive (.data f)).pendingHeaderBlock = none := pending
  have room : ¬ (c.arrive (.data f)).connRecvAvailable < f.flowControlledLength := not_lt.2 room
  have received : (c.arrive (.data f)).dispatch (.data f) =
      ((c.arrive (.data f)).acceptData f, none) := by
    simp only [dispatch, waiting]
    rw [receiveDataFrame_eq, if_neg room, looked]
    simp [started, not_lt.2 fits]
  obtain ⟨member, same, _⟩ := c.get_eq_some found
  refine ⟨(c.arrive (.data f)).granting f.padding, ?_⟩
  rw [onFrame, received]
  simp only
  rw [(c.arrive (.data f)).acceptData_streams distinct looked, Keyed.mem_update]
  exact ⟨s, member, if_pos same⟩

/-- A header block that its stream is given. -/
theorem onFrame_block (distinct : (c.streams.map Stream.id).Nodup) {f : Frame}
    {pb : PendingHeaderBlock} {hpack : H.State} {headers : List Header} {s : Stream}
    (complete : c.completing f = some pb) (kind : pb.kind = .response)
    (found : c.get pb.streamId = some s)
    (decoded : H.decode c.hpack pb.fragments.flatten = (hpack, .ok headers)) :
    halfClosed pb.endStream (s.receiveHeaders headers pb.endStream) ∈ (c.onFrame f).streams := by
  let storing : Conn H := { c.arrive f with pendingHeaderBlock := some pb }
  have known : storing.has pb.streamId = true := by
    rw [has, show storing.get pb.streamId = some s from found]
    rfl
  have received := (dispatch_completing (c := c.arrive f) complete).trans
    (storing.completeHeaderBlock_response decoded kind known)
  obtain ⟨member, same, _⟩ := c.get_eq_some found
  have given : s.receiveHeaders headers pb.endStream ∈ ((storing.decoded hpack).modify pb.streamId
      fun s => s.receiveHeaders headers pb.endStream).streams := by
    rw [modify_streams, Keyed.mem_update]
    exact ⟨s, member, if_pos same⟩
  rw [onFrame, received]
  simp only
  rw [peerEnds_streams _ ((storing.decoded hpack).modify_distinct distinct _ fun s => by simp),
    Keyed.mem_update]
  exact ⟨_, given, if_pos (by simpa using same)⟩

/-- Before its end a response is open, and its chunks are the DATA bytes received. -/
theorem Completes.delivered {f : Frame} {s : Stream} (regular : Regular c) (down : c.Down)
    (completes : Completes c s f trailers) :
    s ∈ c.streams ∧ s.inMap = true ∧ Delivered c := by
  have mapped : ∃ id, c.get id = some s := by
    cases completes with
    | @data f _ taken _ _ _ =>
        simp only [accepts, Bool.and_eq_true, decide_eq_true_eq] at taken
        exact ⟨f.streamId, taken.1.1.1.2⟩
    | trailers _ _ found _ _ _ => exact ⟨_, found⟩
    | head _ _ found _ _ _ _ => exact ⟨_, found⟩
  obtain ⟨id, found⟩ := mapped
  obtain ⟨member, -, live⟩ := c.get_eq_some found
  refine ⟨member, live, regular.delivered.resolve_left fun shut => ?_⟩
  rw [down shut s member] at live
  cases live

/-- A block that ends a response leaves it intact. -/
theorem intact_of_block {s : Stream} (regular : Regular c) (member : s ∈ c.streams)
    (live : s.inMap = true) (wanted : s.bodyDone = false) (delivered : Delivered c)
    {headers : List Header} (head : HeadHead)
    (resolved : (s.receiveHeaders headers true).head = .resolved head)
    (trailed : (s.receiveHeaders headers true).trailers = trailers)
    (ended : (s.receiveHeaders headers true).recvEnded = true) :
    Intact (c.bodyBytes s.id) trailers (halfClosed true (s.receiveHeaders headers true)) := by
  obtain ⟨taken, recvQueue, bodyDone, bodyEnd, -⟩ := headers_body s headers true
  have fields : ∀ t : Stream, (halfClosed true t).head = t.head ∧
      (halfClosed true t).trailers = t.trailers ∧ (halfClosed true t).recvEnded = t.recvEnded ∧
      (halfClosed true t).recvError = t.recvError ∧ (halfClosed true t).remoteClosed = true := by
    intro t
    unfold halfClosed retired
    cases t.localClosed <;> exact ⟨rfl, rfl, rfl, rfl, rfl⟩
  obtain ⟨sameHead, sameTrailers, sameEnded, sameError, closed⟩ :=
    fields (s.receiveHeaders headers true)
  have calm : (s.receiveHeaders headers true).recvError = none :=
    ((regular.tidy s member).receiveHeaders headers true).live (by
      rw [receiveHeaders_eq]
      repeat' split
      all_goals exact live)
  refine ⟨?_, sameTrailers.trans trailed, closed, .inl ⟨?_, ?_, sameError.trans calm,
    sameEnded.trans ended⟩⟩
  · rw [taken, recvQueue]
    exact delivered.body s member live wanted
  · rw [bodyEnd]
    exact regular.unended s member wanted
  · simp only [readable, sameHead, resolved, bodyDone, wanted, Bool.not_false]

/-- The frame that ends a response leaves it intact. -/
theorem Completes.intact {f : Frame} {s : Stream} (regular : Regular c) (inbound : Inbound c)
    (completes : Completes c s f trailers) (wanted : s.bodyDone = false) :
    ∃ t ∈ (c.onFrame f).streams, t.id = s.id ∧
      Intact ((c.onFrame f).bodyBytes s.id) trailers t := by
  obtain ⟨member, live, delivered⟩ := completes.delivered regular inbound.down
  have distinct := regular.numbered.1
  have log := (c.onFrame_onward f).received
  obtain ⟨frames, a, reads⟩ := inbound.reads
  have handed := (reads.given s member).1
  cases completes with
  | @data f head taken ends answered bare =>
      obtain ⟨n, inside⟩ := onFrame_data distinct taken
      obtain ⟨chunks, done, bodyEnd, queue⟩ := accepted_body f n s
      simp only [accepts, Bool.and_eq_true, decide_eq_true_eq, Bool.not_eq_true'] at taken
      obtain ⟨⟨⟨⟨-, found⟩, started⟩, -⟩, -⟩ := taken
      have own := (c.get_eq_some found).2.1
      refine ⟨_, inside, accepted_id f n s, ?_, ?_, ?_, .inl ⟨?_, ?_, ?_, ?_⟩⟩
      · have bytes : (c.onFrame (.data f)).bodyBytes s.id = c.bodyBytes s.id ++ f.data := by
          rw [bodyBytes_of_receive log, Frame.payload, if_pos own.symm]
        rw [chunks, queue wanted, ← List.append_assoc, delivered.body s member live wanted, bytes]
      · rw [accepted_eq f n live started wanted]
        exact bare
      · rw [accepted_eq f n live started wanted]
        exact ends
      · rw [bodyEnd]
        exact regular.unended s member wanted
      · simp [readable, done, wanted, (accepted_fields f n s).2.1, answered]
      · rw [(accepted_fields f n s).2.2.1]
        exact (regular.tidy s member).live live
      · rw [(accepted_fields f n s).2.2.2.1, ends, Bool.or_true]
  | @trailers f pb hpack headers head complete kind found ends decoded answered =>
      have got : s.gotHead = true := handed.resolved ⟨head, answered⟩
      have inside := onFrame_block distinct complete kind found decoded
      have bytes : (c.onFrame f).bodyBytes s.id = c.bodyBytes s.id :=
        bodyBytes_of_plain (plain_of_completing complete) log
      rw [ends] at inside
      refine ⟨_, inside, by simp, bytes ▸ intact_of_block regular member live wanted delivered
        head ?_ ?_ ?_⟩
      · simp [Stream.receiveHeaders, got, Stream.endBody, answered]
      · simp [Stream.receiveHeaders, got, Stream.endBody]
      · simp [Stream.receiveHeaders, got, Stream.endBody]
  | @head f pb hpack headers complete kind found ends decoded unanswered final =>
      have inside := onFrame_block distinct complete kind found decoded
      have bytes : (c.onFrame f).bodyBytes s.id = c.bodyBytes s.id :=
        bodyBytes_of_plain (plain_of_completing complete) log
      have bare : s.trailers = none := by
        by_contra trailed
        have got := handed.resolved (handed.trailed (Option.isSome_iff_ne_none.2 trailed))
        rw [unanswered] at got
        cases got
      rw [ends] at inside
      refine ⟨_, inside, by simp, bytes ▸ intact_of_block regular member live wanted delivered
        { collectHeaders headers with endStream := true } ?_ ?_ ?_⟩
      · simp [Stream.receiveHeaders, unanswered, final, Stream.endBody]
      · simp [Stream.receiveHeaders, unanswered, final, Stream.endBody, bare]
      · simp [Stream.receiveHeaders, unanswered, final, Stream.endBody]

theorem step_intact {id : Nat} (numbered : Numbered c) (stays : c.withdraws id e = false)
    (spared : c.cutsShort id e = false) (stepped : c.step w e = some c')
    (kept : ∃ s ∈ c.streams, s.id = id ∧ Intact bytes trailers s) :
    ∃ s ∈ c'.streams, s.id = id ∧ Intact bytes trailers s := by
  obtain ⟨s, member, rfl, intact⟩ := kept
  rcases step_streams numbered.1 stepped with ⟨⟨g, streams, effect⟩, _⟩ | ⟨_, _, q, streams, _⟩
  · refine ⟨g s, streams ▸ List.mem_map_of_mem member, (effect s member).id, ?_⟩
    exact intact.effect numbered.1 member stays spared (effect s member)
  · exact ⟨s, streams ▸ List.mem_append_left _ member, rfl, intact⟩

/-- A read of an open body. -/
theorem read_step (numbered : Numbered c) {s : Stream} (member : s ∈ c.streams)
    (able : readable s = true) : ∃ c' recvWindow, c.step w (.read s.id) = some c' ∧
      { s.pullBody.1 with recvWindow } ∈ c'.streams := by
  have streams := c.consume_streams numbered.1 member (f := (·.pullBody.1)) pullBody_id s.pullBody.2
  obtain ⟨recvWindow, credit⟩ := credited_eq (c.granting s.pullBody.2) s.pullBody.1
  refine ⟨c.readBody s, recvWindow, ?_, ?_⟩
  · simp [step, onStream, c.stream_of_mem numbered.1 member, able]
  · rw [← credit, readBody, streams, Keyed.mem_update]
    exact ⟨s, member, if_pos rfl⟩

/-- Reading to the end: one read a chunk and one for the end. -/
theorem reads_end {n : Nat} (numbered : Numbered c) {s : Stream} (member : s ∈ c.streams)
    (intact : Intact bytes trailers s) (able : readable s = true)
    (size : s.recvQueue.length = n) :
    ∃ c', (sessionMachine H w).run Machine.always c (List.replicate (n + 1) (.read s.id)) =
        some c' ∧
      ∃ t ∈ c'.streams, t.id = s.id ∧ t.bodyEnd = some .closed ∧ t.taken = bytes ∧
        t.trailers = trailers := by
  induction n generalizing c s with
  | zero =>
      have queue : s.recvQueue = [] := List.length_eq_zero_iff.1 size
      obtain ⟨_, _, calm, ended⟩ := intact.whole.resolve_right (by simp [readable_wanted able])
      obtain ⟨c₁, recvWindow, stepped, inside⟩ := read_step (w := w) numbered member able
      rw [pullBody_end queue calm ended] at inside
      refine ⟨c₁, ?_, _, inside, rfl, rfl, ?_, intact.trailers⟩
      · rw [List.replicate_succ, Machine.run_always_cons _ stepped]
        rfl
      · have bytes := intact.bytes
        rwa [queue, List.flatten_nil, List.append_nil] at bytes
  | succ n ih =>
      obtain ⟨chunk, rest, queue⟩ := List.exists_cons_of_length_eq_add_one size
      have pulled := intact.pulled able
      obtain ⟨c₁, recvWindow, stepped, inside⟩ := read_step (w := w) numbered member able
      rw [pullBody_chunk queue] at inside pulled
      have shorter : rest.length = n := by simpa [queue] using size
      obtain ⟨c₂, ran, ends⟩ := ih (step_numbered numbered stepped) inside
        ⟨pulled.bytes, pulled.trailers, pulled.ended, pulled.whole⟩ able shorter
      refine ⟨c₂, ?_, ends⟩
      rw [List.replicate_succ, Machine.run_always_cons _ stepped]
      exact ran

end Survival

/-- **A completed response survives.**  From the frame with which the peer ends a response, in
every run in which nothing cuts it short and its consumer and its request do not withdraw, the
consumer has lost nothing, and reading on gives it exactly the DATA bytes received, a clean end
and the trailers that came with END_STREAM. -/
theorem survives_of_reaches {w : Windows} {c c' : Conn H} {s : Stream} {f : Frame}
    {trailers : Option (List (String × String))}
    (reached : (sessionMachine H w).Reaches Machine.always c)
    (completes : Completes c s f trailers) (wanted : s.bodyDone = false)
    (later : (sessionMachine H w).Steps
      (fun c e => c.withdraws s.id e = false ∧ c.cutsShort s.id e = false) (c.onFrame f) c') :
    (∃ t ∈ c'.streams, t.id = s.id ∧ Intact ((c.onFrame f).bodyBytes s.id) trailers t) ∧
    ∃ n c'', (sessionMachine H w).run Machine.always c' (List.replicate n (.read s.id)) = some c'' ∧
      ∃ t ∈ c''.streams, t.id = s.id ∧ t.bodyEnd = some .closed ∧
        t.taken = (c.onFrame f).bodyBytes s.id ∧ t.trailers = trailers := by
  have regular := regular_of_reaches reached
  have first : c.step w (.recv f) = some (c.onFrame f) := rfl
  have kept : Numbered c' ∧ ∃ t ∈ c'.streams, t.id = s.id ∧
      Intact ((c.onFrame f).bodyBytes s.id) trailers t := by
    refine Machine.Steps.invariant (fun c' => Numbered c' ∧ ∃ t ∈ c'.streams, t.id = s.id ∧
      Intact ((c.onFrame f).bodyBytes s.id) trailers t) ?_ later
      ⟨step_numbered (w := w) regular.numbered first,
        completes.intact regular (inbound_of_reaches reached) wanted⟩
    rintro d e d' ⟨numbered, kept⟩ ⟨stays, spared⟩ stepped
    exact ⟨step_numbered numbered stepped, step_intact numbered stays spared stepped kept⟩
  obtain ⟨numbered, t, member, same, intact⟩ := kept
  refine ⟨⟨t, member, same, intact⟩, ?_⟩
  rcases intact.whole with ⟨_, able, _, _⟩ | ⟨closed, _, queue⟩
  · obtain ⟨c'', ran, ends⟩ := reads_end (w := w) numbered member intact able rfl
    rw [same] at ran ends
    exact ⟨_, c'', ran, ends⟩
  · refine ⟨0, c', rfl, t, member, same, closed, ?_, intact.trailers⟩
    have bytes := intact.bytes
    rwa [queue, List.flatten_nil, List.append_nil] at bytes

end Conn

/-! ## A reset after the response -/

/-- The response to an upload, before its end. -/
def answeredEarly : List Event :=
  [.request [0x83] true, .ready 0, .recv (.headers 1 [0x88] false true),
    .recv (.data { streamId := 1, data := [1, 2], endStream := false })]

def earlyAnswer : Stream :=
  { id := 1
    sendWindow := 65535
    recvWindow := 8
    gotHead := true
    head := .resolved
      { status := some 200, headers := [], raw := [{ name := ":status", value := "200" }] }
    recvQueue := [[1, 2]]
    recvBuffered := 2
    upload := .pumping }

/-- The connection before the end of the answer. -/
def beforeEnd : Conn statusOnly :=
  ((sessionMachine statusOnly smallWindows).run Machine.always
    (sessionMachine statusOnly smallWindows).init answeredEarly).get rfl

theorem beforeEnd_reached : (sessionMachine statusOnly smallWindows).Reaches Machine.always
    beforeEnd := Machine.steps_of_run answeredEarly rfl

/-- A second request that is aborted, settings, a read, a GOAWAY that spares the stream, the
end of the upload, and the loss of the transport. -/
def windsDown : List Event :=
  [.request [0x83] true, .ready 1, .abort 1 .aborted, .recv (.settings false {}), .read 1,
    .recv (.goaway 1 0 []), .uploadEnds 1, .uploadFlushed 1, .lose .transport]

theorem survives_windsDown :
    ∃ c : Conn statusOnly,
      (sessionMachine statusOnly smallWindows).run
        (fun c e => c.withdraws 1 e = false ∧ c.cutsShort 1 e = false)
        (beforeEnd.onFrame (.headers 1 [0x88] true true)) windsDown = some c ∧
      c.closed = true ∧
      ∃ n c', (sessionMachine statusOnly smallWindows).run Machine.always c
          (List.replicate n (.read 1)) = some c' ∧
        ∃ t ∈ c'.streams, t.id = 1 ∧ t.bodyEnd = some .closed ∧
          t.taken = (beforeEnd.onFrame (.headers 1 [0x88] true true)).bodyBytes 1 ∧
          t.trailers = some [] := by
  refine ⟨_, rfl, rfl, ?_⟩
  have completes : Conn.Completes beforeEnd earlyAnswer (.headers 1 [0x88] true true)
      (some (collectHeaders [{ name := ":status", value := "200" }]).headers) :=
    .trailers rfl rfl rfl rfl rfl rfl
  exact (Conn.survives_of_reaches beforeEnd_reached completes rfl
    (Machine.steps_of_run windsDown rfl)).2

/-- Reads, RST_STREAM(NO_ERROR) on stream `id`, GOAWAY and the loss of the transport. -/
def winding (id : Nat) : Event → Bool
  | .read streamId => decide (streamId = id)
  | .recv (.rstStream streamId errorCode) => decide (streamId = id) && decide (errorCode = 0)
  | .recv (.goaway _ _ _) => true
  | .lose _ => true
  | _ => false

/-- RST_STREAM(NO_ERROR) after the complete response drops its bytes, and the consumer
gets an error. -/
theorem resetAfterEnd_loses :
    ¬ ∀ (c c' : Conn statusOnly) (s : Stream) (f : Frame)
      (trailers : Option (List (String × String))),
      (sessionMachine statusOnly smallWindows).Reaches Machine.always c →
      Conn.Completes c s f trailers → s.localClosed = false → s.bodyDone = false →
      (sessionMachine statusOnly smallWindows).Steps (fun _ e => winding s.id e = true)
        (c.onFrame f) c' →
      ∃ n c'', (sessionMachine statusOnly smallWindows).run Machine.always c'
          (List.replicate n (.read s.id)) = some c'' ∧
        ∃ t ∈ c''.streams, t.id = s.id ∧ t.bodyEnd = some .closed ∧
          t.taken = (c.onFrame f).bodyBytes s.id ∧ t.trailers = trailers := by
  intro survives
  have completes : Conn.Completes beforeEnd earlyAnswer
      (.data { streamId := 1, data := [3], endStream := true }) none := .data rfl rfl rfl rfl
  obtain ⟨n, c'', ran, t, inside, _, closed, _⟩ := survives _ _ earlyAnswer _ _ beforeEnd_reached
    completes rfl rfl (Machine.steps_of_run [.recv (.rstStream 1 0)] rfl)
  match n with
  | 0 =>
      cases ran
      cases inside with
      | head => cases closed
      | tail _ more => cases more
  | 1 =>
      cases ran
      cases inside with
      | head => cases closed
      | tail _ more => cases more
  | n + 2 => cases ran

end GrpcBridge.H2
