/-
# H2.Requests -- what an event does to the calls of request

An operation that opens no stream does one of two things to the parked requests.
Either it leaves them alone, and then nothing they wait for has come (`Quiet`), or it
has woken them all (`Roused`).  `step_requests` inverts a step once from their side:
the event stays out of the way, or it is the call, a continuation, the failed setup or
the abort of one request.

`headersSent` are the stream ids of the HEADERS frames handed to the write path.
-/
import GrpcBridge.H2.Steps

namespace GrpcBridge.H2

open GrpcBridge.Theory

set_option autoImplicit false

variable {H : Hpack}

/-- The stream that a HEADERS frame opens. -/
def Frame.opens : Frame → Option Nat
  | .headers streamId _ _ _ => some streamId
  | _ => none

namespace Conn

def headersSent (c : Conn H) : List Nat := c.sent.filterMap Frame.opens

/-! ## Waiters left alone, waiters woken -/

/-- Nothing happens to the requests. -/
structure Calm (c c' : Conn H) : Prop where
  waiters : c'.streamSlotWaiters = c.streamSlotWaiters
  requests : c'.requests = c.requests
  headersSent : c'.headersSent = c.headersSent
  nextStreamId : c'.nextStreamId = c.nextStreamId
  leaving : c.goawayReceived = true → c'.goawayReceived = true

/-- Nothing happens to the requests, and nothing that a parked one waits for. -/
structure Quiet (c c' : Conn H) : Prop extends Calm c c' where
  closed : c'.closed = c.closed
  goawayReceived : c'.goawayReceived = c.goawayReceived
  limit : c'.remote.maxConcurrentStreams = c.remote.maxConcurrentStreams
  active : c.activeStreams ≤ c'.activeStreams

/-- Every parked request is woken. -/
structure Roused (c c' : Conn H) : Prop where
  waiters : c'.streamSlotWaiters = []
  requests : c'.requests = c.wakeWaiters.requests
  headersSent : c'.headersSent = c.headersSent
  nextStreamId : c'.nextStreamId = c.nextStreamId
  leaving : c.goawayReceived = true → c'.goawayReceived = true

def Stays (c c' : Conn H) : Prop := Quiet c c' ∨ Roused c c'

theorem Calm.trans {a b d : Conn H} (first : Calm a b) (second : Calm b d) : Calm a d :=
  ⟨second.waiters.trans first.waiters, second.requests.trans first.requests,
    second.headersSent.trans first.headersSent, second.nextStreamId.trans first.nextStreamId,
    fun going => second.leaving (first.leaving going)⟩

theorem Quiet.refl (c : Conn H) : Quiet c c := ⟨⟨rfl, rfl, rfl, rfl, id⟩, rfl, rfl, rfl, Nat.le_refl _⟩

theorem Quiet.trans {a b d : Conn H} (first : Quiet a b) (second : Quiet b d) : Quiet a d :=
  ⟨first.toCalm.trans second.toCalm, second.closed.trans first.closed,
    second.goawayReceived.trans first.goawayReceived, second.limit.trans first.limit,
    first.active.trans second.active⟩

theorem Calm.wakeWaiters {a b : Conn H} (calm : Calm a b) :
    b.wakeWaiters.requests = a.wakeWaiters.requests := by
  simp only [Conn.wakeWaiters, calm.waiters, calm.requests]

/-- With nobody parked there is nobody to wake. -/
theorem wakeWaiters_of_empty {c : Conn H} (empty : c.streamSlotWaiters = []) :
    c.wakeWaiters.requests = c.requests := by
  apply List.ext_getElem?
  intro r
  simp [wakeWaiters, empty]

theorem Quiet.stays {c c' : Conn H} (quiet : Quiet c c') : Stays c c' := .inl quiet

theorem Roused.stays {c c' : Conn H} (roused : Roused c c') : Stays c c' := .inr roused

theorem Stays.trans {a b d : Conn H} (first : Stays a b) (second : Stays b d) : Stays a d := by
  rcases first with first | first
  · rcases second with second | second
    · exact .inl (first.trans second)
    · exact .inr ⟨second.waiters, second.requests.trans first.toCalm.wakeWaiters,
        second.headersSent.trans first.headersSent, second.nextStreamId.trans first.nextStreamId,
        fun going => second.leaving (first.leaving going)⟩
  · rcases second with second | second
    · exact .inr ⟨second.waiters.trans first.waiters, second.requests.trans first.requests,
        second.headersSent.trans first.headersSent, second.nextStreamId.trans first.nextStreamId,
        fun going => second.leaving (first.leaving going)⟩
    · refine .inr ⟨second.waiters, ?_, second.headersSent.trans first.headersSent,
        second.nextStreamId.trans first.nextStreamId,
        fun going => second.leaving (first.leaving going)⟩
      rw [second.requests, wakeWaiters_of_empty first.waiters, first.requests]

/-- Nothing is opened. -/
theorem Stays.unopened {c c' : Conn H} (stays : Stays c c') :
    c'.headersSent = c.headersSent ∧ c'.nextStreamId = c.nextStreamId := by
  rcases stays with quiet | roused
  · exact ⟨quiet.headersSent, quiet.nextStreamId⟩
  · exact ⟨roused.headersSent, roused.nextStreamId⟩

theorem Stays.leaving {c c' : Conn H} (stays : Stays c c') (going : c.goawayReceived = true) :
    c'.goawayReceived = true := by
  rcases stays with quiet | roused
  · exact quiet.leaving going
  · exact roused.leaving going

/-! ## Operations -/

variable (c : Conn H)

theorem send_quiet {f : Frame} (plain : f.opens = none) : Quiet c (c.send f) := by
  unfold send
  split
  · exact .refl c
  · exact ⟨⟨rfl, rfl, by simp [headersSent, plain], rfl, id⟩, rfl, rfl, rfl, Nat.le_refl _⟩

theorem modify_calm (id : Nat) (f : Stream → Stream) : Calm c (c.modify id f) :=
  ⟨rfl, rfl, rfl, rfl, fun going => going⟩

/-- The slots that a list of streams takes. -/
theorem activeStreams_map {c' : Conn H} {g : Stream → Stream} (streams : c'.streams = c.streams.map g)
    (keeps : ∀ s, (g s).id = s.id ∧ (g s).inMap = s.inMap) :
    c'.activeStreams = c.activeStreams := by
  unfold activeStreams
  rw [streams, List.countP_map]
  congr 1
  funext s
  simp only [Function.comp, keeps s]

theorem modify_quiet (id : Nat) {f : Stream → Stream}
    (keeps : ∀ s, (f s).id = s.id ∧ (f s).inMap = s.inMap) : Quiet c (c.modify id f) := by
  have same : (c.modify id f).activeStreams = c.activeStreams := by
    refine c.activeStreams_map (g := fun s => if s.id = id then f s else s) rfl fun s => ?_
    split
    · exact keeps s
    · exact ⟨rfl, rfl⟩
  exact ⟨c.modify_calm id f, rfl, rfl, rfl, same.ge⟩

theorem close_quiet : Quiet c c.close := by
  unfold close
  split
  · exact .refl c
  · obtain ⟨calm, closed, goaway, limit, active⟩ :=
      c.send_quiet (f := .goaway c.highestPromised 0 []) rfl
    exact ⟨⟨calm.waiters, calm.requests, calm.headersSent, calm.nextStreamId, calm.leaving⟩, closed, goaway,
      limit, active⟩

/-- Whatever was done before, the waiters are woken. -/
theorem wakeStreamSlots_roused {c₁ : Conn H} (calm : Calm c c₁) : Roused c c₁.wakeStreamSlots := by
  have going : ∀ c₂ : Conn H, Calm c c₂ → Roused c c₂.wakeWaiters :=
    fun c₂ calm => ⟨rfl, calm.wakeWaiters, calm.headersSent, calm.nextStreamId, calm.leaving⟩
  unfold wakeStreamSlots
  simp only
  split
  · exact going _ (calm.trans c₁.close_quiet.toCalm)
  · exact going _ calm

theorem destroy_stays (cause : Cause) : Stays c (c.destroy cause) := by
  unfold destroy
  split
  · exact .inl (.refl c)
  · exact .inr (c.wakeStreamSlots_roused ⟨rfl, rfl, rfl, rfl, id⟩)

theorem connectionError_stays (cause : Cause) : Stays c (c.connectionError cause) :=
  (c.send_quiet rfl).stays.trans (destroy_stays _ cause)

theorem replenishConnectionWindow_quiet (n : Int) : Quiet c (c.replenishConnectionWindow n) := by
  unfold replenishConnectionWindow
  split
  · exact .refl c
  · have granted : Quiet c { c with connRecvAvailable := c.connRecvAvailable + n } :=
      ⟨⟨rfl, rfl, rfl, rfl, id⟩, rfl, rfl, rfl, Nat.le_refl _⟩
    exact granted.trans (send_quiet _ rfl)

theorem replenishRecvWindow_quiet (id : Nat) (n : Int) : Quiet c (c.replenishRecvWindow id n) := by
  unfold replenishRecvWindow
  split
  · exact .refl c
  · refine Quiet.trans ?_ (replenishConnectionWindow_quiet _ n)
    repeat' split
    · exact .refl c
    · exact (c.modify_quiet id (by exact fun _ => ⟨rfl, rfl⟩)).trans (send_quiet _ rfl)
    · exact .refl c

theorem discard_quiet (s : Stream) : Quiet c (c.discard s) :=
  (c.modify_quiet _ (by exact fun _ => ⟨rfl, rfl⟩)).trans (replenishConnectionWindow_quiet _ _)

theorem resetStream_stays (id : Nat) (code : ErrorCode) : Stays c (c.resetStream id code) := by
  have sent := c.send_quiet (f := .rstStream id (errorCodeValue code)) rfl
  unfold resetStream
  simp only
  split
  · rename_i s _
    have gone := (sent.trans (discard_quiet _ s)).toCalm.trans
      (modify_calm _ id fun s => { s with inMap := false })
    exact (c.wakeStreamSlots_roused gone).stays.trans
      (modify_quiet _ id (by exact fun _ => ⟨rfl, rfl⟩)).stays
  · exact sent.stays

theorem retireIfFullyClosed_stays (id : Nat) : Stays c (c.retireIfFullyClosed id) := by
  unfold retireIfFullyClosed
  repeat' split
  · exact (c.wakeStreamSlots_roused (c.modify_calm id _)).stays
  · exact .inl (.refl c)
  · exact .inl (.refl c)

theorem peerEnds_stays (id : Nat) (endStream : Bool) : Stays c (c.peerEnds id endStream) := by
  unfold peerEnds
  split
  · exact (c.modify_quiet id (by exact fun _ => ⟨rfl, rfl⟩)).stays.trans (retireIfFullyClosed_stays _ id)
  · exact .inl (.refl c)

theorem applyRemoteSettings_stays (settings : Settings) :
    Stays c (c.applyRemoteSettings settings).1 := by
  have rest : ∀ c : Conn H, Stays c (applyRemoteSettings.applyRest c settings).1 := by
    intro c
    unfold applyRemoteSettings.applyRest
    simp only
    split
    · exact .inr (c.wakeStreamSlots_roused ⟨rfl, rfl, rfl, rfl, id⟩)
    · exact .inl ⟨⟨rfl, rfl, rfl, rfl, id⟩, rfl, rfl, rfl, Nat.le_refl _⟩
  have limits : ∀ c : Conn H, Stays c (applyRemoteSettings.applyLimits c settings).1 := by
    intro c
    have sized : ∀ size, Quiet c { c with remote := { c.remote with maxFrameSize := size } } :=
      fun _ => ⟨⟨rfl, rfl, rfl, rfl, id⟩, rfl, rfl, rfl, Nat.le_refl _⟩
    unfold applyRemoteSettings.applyLimits
    repeat' split
    · exact .inl (.refl c)
    · exact (sized _).stays.trans (rest _)
    · exact rest c
  unfold applyRemoteSettings
  repeat' split
  · exact .inl (.refl c)
  · rename_i size _ _
    let delta : Int := size - c.remote.initialWindowSize
    let moved : Conn H :=
      { c with
        remote := { c.remote with initialWindowSize := size }
        streams := c.streams.map (adjusted delta) }
    have same : moved.activeStreams = c.activeStreams := by
      refine c.activeStreams_map (g := adjusted delta) rfl fun s => ?_
      unfold adjusted
      split
      · exact ⟨rfl, rfl⟩
      · exact ⟨rfl, rfl⟩
    have quiet : Quiet c moved := ⟨⟨rfl, rfl, rfl, rfl, id⟩, rfl, rfl, rfl, same.ge⟩
    exact quiet.stays.trans (limits moved)
  · exact limits c

theorem receiveHeaders_keeps (s : Stream) (raw : List Header) (endStream : Bool) :
    (s.receiveHeaders raw endStream).id = s.id ∧
      (s.receiveHeaders raw endStream).inMap = s.inMap := by
  rw [receiveHeaders_eq]
  repeat' split
  all_goals exact ⟨rfl, rfl⟩

theorem receiveData_keeps (s : Stream) (data : Bytes) (endStream : Bool) :
    (s.receiveData data endStream).id = s.id ∧
      (s.receiveData data endStream).inMap = s.inMap := by
  rw [receiveData_eq]
  exact ⟨rfl, rfl⟩

theorem pullBody_keeps (s : Stream) : s.pullBody.1.id = s.id ∧ s.pullBody.1.inMap = s.inMap := by
  unfold Stream.pullBody
  repeat' split
  all_goals exact ⟨rfl, rfl⟩

theorem completeHeaderBlock_stays (pb : PendingHeaderBlock) :
    Stays c (c.completeHeaderBlock pb).1 := by
  have start : ∀ hpack, Quiet c (c.decoded hpack) :=
    fun _ => ⟨⟨rfl, rfl, rfl, rfl, id⟩, rfl, rfl, rfl, Nat.le_refl _⟩
  obtain ⟨hpack, ⟨_, _, _, done⟩ | done | ⟨headers, _, _, _, done⟩ | done⟩ :=
    c.completeHeaderBlock_cases pb
  · rw [done]
    exact (start hpack).stays
  · rw [done]
    have promised : Quiet c { c.decoded hpack with
        highestPromised := max (c.decoded hpack).highestPromised pb.promisedStreamId } :=
      ⟨⟨rfl, rfl, rfl, rfl, id⟩, rfl, rfl, rfl, Nat.le_refl _⟩
    exact (promised.trans (send_quiet _ rfl)).stays
  · rw [done]
    exact ((start hpack).trans (modify_quiet _ _ fun s => receiveHeaders_keeps s _ _)).stays.trans
      (peerEnds_stays _ _ _)
  · rw [done]
    exact (start hpack).stays

theorem acceptHeaderBlock_stays (pb : PendingHeaderBlock) (endHeaders : Bool) :
    Stays c (c.acceptHeaderBlock pb endHeaders).1 := by
  have stored : Quiet c { c with pendingHeaderBlock := some pb } :=
    ⟨⟨rfl, rfl, rfl, rfl, id⟩, rfl, rfl, rfl, Nat.le_refl _⟩
  unfold acceptHeaderBlock
  simp only
  repeat' split
  · exact stored.stays
  · exact stored.stays.trans (completeHeaderBlock_stays _ pb)
  · exact stored.stays

theorem charge_quiet (f : DataFrame) : Quiet c (c.charge f) :=
  ⟨⟨rfl, rfl, rfl, rfl, id⟩, rfl, rfl, rfl, Nat.le_refl _⟩

theorem bounce_quiet (f : DataFrame) : Quiet c (c.bounce f) :=
  (c.charge_quiet f).trans (replenishConnectionWindow_quiet _ _)

theorem acceptData_stays (f : DataFrame) : Stays c (c.acceptData f) := by
  have charged := (c.charge_quiet f).trans (modify_quiet _ f.streamId
    (f := fun s => { s with recvWindow := s.recvWindow - f.flowControlledLength })
    (by exact fun _ => ⟨rfl, rfl⟩))
  have returned := charged.trans (replenishRecvWindow_quiet _ f.streamId f.padding)
  exact (returned.trans (modify_quiet _ _ fun s => receiveData_keeps s _ _)).stays.trans
    (peerEnds_stays _ _ _)

theorem receiveDataFrame_stays (f : DataFrame) : Stays c (c.receiveDataFrame f).1 := by
  rw [receiveDataFrame_eq]
  repeat' split
  · exact .inl (.refl c)
  · exact (c.bounce_quiet f).stays.trans (resetStream_stays _ _ _)
  · exact (c.bounce_quiet f).stays.trans (resetStream_stays _ _ _)
  · exact c.acceptData_stays f
  · exact (c.bounce_quiet f).stays
  · exact ((c.bounce_quiet f).trans (send_quiet _ rfl)).stays

theorem receiveRstStream_stays (id errorCode : Nat) : Stays c (c.receiveRstStream id errorCode) := by
  unfold receiveRstStream
  split
  · rename_i s _
    have failed := (c.discard_quiet s).toCalm.trans (modify_calm _ id (·.receiveReset errorCode))
    exact (c.wakeStreamSlots_roused (failed.trans (modify_calm _ id _))).stays
  · exact .inl (.refl c)

theorem receiveWindowUpdate_stays (id increment : Nat) :
    Stays c (c.receiveWindowUpdate id increment).1 := by
  unfold receiveWindowUpdate
  repeat' split
  · exact .inl (.refl c)
  · exact c.resetStream_stays _ _
  · exact .inl ⟨⟨rfl, rfl, rfl, rfl, fun going => going⟩, rfl, rfl, rfl, Nat.le_refl _⟩
  · exact (c.modify_quiet _ (by exact fun _ => ⟨rfl, rfl⟩)).stays
  · exact .inl (.refl c)

theorem receiveGoaway_stays (lastStreamId errorCode : Nat) :
    Stays c (c.receiveGoaway lastStreamId errorCode) := by
  have excludes : Stays c (c.exclude ((errorCodeName errorCode).getD .noError) lastStreamId) :=
    .inr (c.wakeStreamSlots_roused ⟨rfl, rfl, rfl, rfl, fun _ => rfl⟩)
  rw [receiveGoaway_eq]
  simp only
  split
  · exact excludes.trans (destroy_stays _ _)
  · exact excludes

theorem dispatch_stays (f : Frame) : Stays c (c.dispatch f).1 := by
  unfold dispatch
  split
  · split
    · exact c.acceptHeaderBlock_stays _ _
    · exact .inl (.refl c)
  · exact .inl (.refl c)
  · exact .inl (.refl c)
  · exact .inl (.refl c)
  · have applied := c.applyRemoteSettings_stays ‹Settings›
    rcases outcome : c.applyRemoteSettings ‹Settings› with ⟨c', _ | cause⟩
    · rw [outcome] at applied
      simp only [outcome]
      exact applied.trans (send_quiet _ rfl).stays
    · rw [outcome] at applied
      simp only [outcome]
      exact applied
  · exact c.acceptHeaderBlock_stays _ _
  · exact c.acceptHeaderBlock_stays _ _
  · exact c.receiveDataFrame_stays _
  · exact c.receiveRstStream_stays _ _
  · exact c.receiveWindowUpdate_stays _ _
  · split
    · exact .inl (.refl c)
    · exact (c.send_quiet rfl).stays
  · exact c.receiveGoaway_stays _ _
  · exact .inl (.refl c)

theorem onFrame_stays (f : Frame) : Stays c (c.onFrame f) := by
  have arrived : Quiet c (c.arrive f) := ⟨⟨rfl, rfl, rfl, rfl, id⟩, rfl, rfl, rfl, Nat.le_refl _⟩
  have dispatched := arrived.stays.trans ((c.arrive f).dispatch_stays f)
  obtain ⟨_, done⟩ | ⟨_, _, _, _, done⟩ | ⟨_, _, _, done⟩ := c.onFrame_cases f
  · rw [done]
    exact dispatched
  · rw [done]
    exact dispatched.trans (resetStream_stays _ _ _)
  · rw [done]
    exact dispatched.trans (connectionError_stays _ _)

theorem abortStream_stays (id : Nat) (reason : Cause) : Stays c (c.abortStream id reason) := by
  unfold abortStream
  split
  · exact (c.modify_quiet id (by exact fun _ => ⟨rfl, rfl⟩)).stays.trans (resetStream_stays _ _ _)
  · exact .inl (.refl c)

theorem cancelBody_stays (s : Stream) : Stays c (c.cancelBody s) := by
  have returned := (c.modify_quiet s.id (f := Stream.cancelBody) (by exact fun _ => ⟨rfl, rfl⟩)).trans
    (replenishRecvWindow_quiet _ s.id s.recvBuffered)
  unfold cancelBody
  simp only
  split
  · exact returned.stays.trans (resetStream_stays _ _ _)
  · exact returned.stays

theorem uploadFails_stays (s : Stream) (cause : Cause) : Stays c (c.uploadFails s cause) := by
  have failed := c.modify_quiet s.id (f := fun s => { s.fail cause with upload := .idle })
    (by exact fun _ => ⟨rfl, rfl⟩)
  unfold uploadFails
  simp only
  split
  · exact failed.stays.trans (resetStream_stays _ _ _)
  · exact failed.stays

theorem uploadSlice_quiet (s : Stream) (slice : Bytes) : Quiet c (c.uploadSlice s slice) := by
  have spent : Quiet c { c with connSendWindow := c.connSendWindow - slice.length } :=
    ⟨⟨rfl, rfl, rfl, rfl, id⟩, rfl, rfl, rfl, Nat.le_refl _⟩
  exact (spent.trans (modify_quiet _ s.id (by exact fun _ => ⟨rfl, rfl⟩))).trans (send_quiet _ rfl)

theorem uploadEnds_quiet (s : Stream) : Quiet c (c.uploadEnds s) := by
  unfold uploadEnds
  split
  · exact c.modify_quiet s.id (by exact fun _ => ⟨rfl, rfl⟩)
  · exact (c.modify_quiet s.id (by exact fun _ => ⟨rfl, rfl⟩)).trans (send_quiet _ rfl)

theorem uploadFlushed_stays (s : Stream) : Stays c (c.uploadFlushed s) :=
  (c.modify_quiet s.id (by exact fun _ => ⟨rfl, rfl⟩)).stays.trans (retireIfFullyClosed_stays _ _)

/-! ## Opening a stream -/

theorem foldl_send_quiet {frames : List Frame} (plain : ∀ f ∈ frames, f.opens = none) :
    Quiet c (frames.foldl send c) := by
  induction frames generalizing c with
  | nil => exact .refl c
  | cons f rest ih =>
      exact (c.send_quiet (plain f (.head _))).trans
        (ih (c.send f) fun g inside => plain g (.tail _ inside))

theorem continuations_plain (id maxFrameSize fuel : Nat) (rest : Bytes) :
    ∀ f ∈ continuations id maxFrameSize fuel rest, f.opens = none := by
  induction fuel generalizing rest with
  | zero =>
      intro f inside
      cases inside
  | succ fuel ih =>
      cases rest with
      | nil =>
          intro f inside
          cases inside
      | cons b rest =>
          intro f inside
          rcases List.mem_cons.1 inside with rfl | inside
          · rfl
          · exact ih _ f inside

/-- A header block takes one HEADERS frame, and nothing else of the connection changes. -/
theorem sendHeaders_opens (opened : c.closed = false) (id : Nat) (block : Bytes)
    (endStream : Bool) : ∃ c₁, Quiet c₁ (c.sendHeaders id block endStream) ∧
      c₁.headersSent = c.headersSent ++ [id] ∧ c₁ = { c with sent := c₁.sent } := by
  have first : ∀ f : Frame, f.opens = some id →
      (c.send f).headersSent = c.headersSent ++ [id] ∧
        c.send f = { c with sent := (c.send f).sent } := by
    intro f opens
    rw [send, if_neg (by simp [opened])]
    exact ⟨by simp [headersSent, opens], rfl⟩
  unfold sendHeaders
  simp only
  split
  · exact ⟨_, .refl _, first _ rfl⟩
  · exact ⟨_, foldl_send_quiet _ (continuations_plain _ _ _ _), first _ rfl⟩

/-- The phase of request `r`. -/
def phaseOf (r : Nat) : Option RequestPhase := c.requests[r]?.map Request.phase

theorem phaseOf_setPhase (r k : Nat) (phase : RequestPhase) : (c.setPhase r phase).phaseOf k =
    if r = k then (c.phaseOf k).map fun _ => phase else c.phaseOf k := by
  simp only [phaseOf, setPhase, List.getElem?_modify]
  cases c.requests[k]? with
  | none => simp
  | some q => split <;> simp_all

/-- What `openStream` leaves. -/
structure Opens (r : Nat) (c c' : Conn H) : Prop where
  waiters : c'.streamSlotWaiters = c.streamSlotWaiters
  phases : ∀ k, c'.phaseOf k =
    if r = k then (c.phaseOf k).map fun _ => .opened c.nextStreamId else c.phaseOf k
  headersSent : c'.headersSent = c.headersSent ++ [c.nextStreamId]
  closed : c'.closed = c.closed
  goawayReceived : c'.goawayReceived = c.goawayReceived
  limit : c'.remote.maxConcurrentStreams = c.remote.maxConcurrentStreams
  active : c'.activeStreams = c.activeStreams + if c.nextStreamId % 2 = 1 then 1 else 0

theorem openStream_opens (opened : c.closed = false) (w : Windows) (r : Nat) (q : Request) :
    Opens r c (c.openStream w r q) := by
  obtain ⟨c₁, sent, headers, rest⟩ := (c.withStream w q).sendHeaders_opens
    (show (c.withStream w q).closed = false from opened) c.nextStreamId q.block (!q.hasBody)
  have waiters₁ : c₁.streamSlotWaiters = c.streamSlotWaiters := by rw [rest]; rfl
  have requests₁ : c₁.requests = c.requests := by rw [rest]; rfl
  have closed₁ : c₁.closed = c.closed := by rw [rest]; rfl
  have goaway₁ : c₁.goawayReceived = c.goawayReceived := by rw [rest]; rfl
  have limit₁ : c₁.remote.maxConcurrentStreams = c.remote.maxConcurrentStreams := by rw [rest]; rfl
  rw [openStream_eq]
  refine ⟨sent.waiters.trans waiters₁, fun k => ?_, sent.headersSent.trans headers,
    sent.closed.trans closed₁, sent.goawayReceived.trans goaway₁, sent.limit.trans limit₁, ?_⟩
  · rw [phaseOf_setPhase]
    simp only [phaseOf, sent.requests, requests₁]
  · have streams := c.openStream_streams w r q
    rw [openStream_eq] at streams
    simp only [activeStreams, streams, List.countP_append, List.countP_singleton, newStream]
    congr 1
    simp

/-! ## What an event does to the requests -/

/-- An event leaves the requests alone or wakes the parked ones, or it is the call, the
continuation, the failed setup or the abort of one request. -/
theorem step_requests {c c' : Conn H} {w : Windows} {e : Event} (stepped : c.step w e = some c') :
    Stays c c' ∨
    (∃ q : Request, (q.aborted = none ∧ e = .request q.block q.hasBody) ∧
      (q.phase = .settingUp ∨ ∃ cause, q.phase = .failed cause ∧ c.check q = some cause) ∧
      c' = { c with requests := c.requests ++ [q] }) ∨
    (∃ r q, c.requests[r]? = some q ∧ (q.phase = .settingUp ∨ q.phase = .woken) ∧
      c' = c.admitRequest w r q) ∨
    (∃ r q, c.requests[r]? = some q ∧ q.phase = .settingUp ∧
      c' = c.setPhase r (.failed ((c.check q).getD
        (.h2 { code := .internalError, message := "connection setup failed" })))) ∨
    ∃ r q reason, (c.requests[r]? = some q ∧ q.aborted = none ∧ e = .abort r reason) ∧
      c' = c.abort r q reason := by
  cases e with
  | request block hasBody =>
      obtain rfl := Option.some.inj stepped
      refine .inr (.inl ⟨_, ⟨rfl, rfl⟩, ?_, rfl⟩)
      cases checked : c.check { block, hasBody } with
      | none => exact .inl rfl
      | some cause => exact .inr ⟨cause, rfl, checked⟩
  | ready r =>
      obtain ⟨q, asked, phase, rfl⟩ := c.onRequest_eq_some stepped
      exact .inr (.inr (.inl ⟨r, q, asked, .inl phase, rfl⟩))
  | readyFails r =>
      obtain ⟨q, asked, phase, rfl⟩ := c.onRequest_eq_some stepped
      exact .inr (.inr (.inr (.inl ⟨r, q, asked, phase, rfl⟩)))
  | resume r =>
      obtain ⟨q, asked, phase, rfl⟩ := c.onRequest_eq_some stepped
      exact .inr (.inr (.inl ⟨r, q, asked, .inr phase, rfl⟩))
  | abort r reason =>
      simp only [step] at stepped
      split at stepped
      · rename_i q asked
        split at stepped
        · cases stepped
        · rename_i fresh
          obtain rfl := Option.some.inj stepped
          exact .inr (.inr (.inr (.inr ⟨r, q, reason, ⟨asked, by simpa using fresh, rfl⟩, rfl⟩)))
      · cases stepped
  | recv frame =>
      obtain rfl := Option.some.inj stepped
      exact .inl (c.onFrame_stays frame)
  | read id =>
      obtain ⟨s, _, _, _, rfl⟩ := c.onStream_eq_some stepped
      exact .inl ((c.modify_quiet _ pullBody_keeps).trans (replenishRecvWindow_quiet _ _ _)).stays
  | cancel id =>
      obtain ⟨s, _, _, _, rfl⟩ := c.onStream_eq_some stepped
      exact .inl (c.cancelBody_stays s)
  | upload id slice =>
      obtain ⟨s, _, _, _, rfl⟩ := c.onStream_eq_some stepped
      exact .inl (c.uploadSlice_quiet s slice).stays
  | uploadEnds id =>
      obtain ⟨s, _, _, _, rfl⟩ := c.onStream_eq_some stepped
      exact .inl (c.uploadEnds_quiet s).stays
  | uploadFlushed id =>
      obtain ⟨s, _, _, _, rfl⟩ := c.onStream_eq_some stepped
      exact .inl (c.uploadFlushed_stays s)
  | uploadFails id cause =>
      obtain ⟨s, _, _, _, rfl⟩ := c.onStream_eq_some stepped
      exact .inl (c.uploadFails_stays s cause)
  | close =>
      obtain rfl := Option.some.inj stepped
      exact .inl c.close_quiet.stays
  | closeFlushed =>
      simp only [step] at stepped
      split at stepped
      · obtain rfl := Option.some.inj stepped
        exact .inl (c.destroy_stays _)
      · cases stepped
  | malformed code message streamId =>
      obtain rfl := Option.some.inj stepped
      exact .inl (c.connectionError_stays _)
  | lose cause =>
      obtain rfl := Option.some.inj stepped
      exact .inl (c.destroy_stays cause)

end Conn

end GrpcBridge.H2
