/-
# H2.Effects -- what each operation of a connection changes

One lemma for each operation and each part of the state that the results of this
development read: the streams, the connection's receive window, the log of sent
frames, and the flags.  Every operation but `openStream` acts on the streams one by
one, so its effect on them is a `map`; later proofs use these equations and never
unfold an operation.
-/
import GrpcBridge.H2.Session

namespace GrpcBridge.H2

open GrpcBridge.Theory

set_option autoImplicit false

variable {H : Hpack}

namespace Conn

variable (c : Conn H)

/-! ## Logs and flags -/

/-- The operations that only touch the write path, the waiters and the requests:
nothing the receive side reads changes. -/
structure SameStreams (c c' : Conn H) : Prop where
  streams : c'.streams = c.streams
  connRecvAvailable : c'.connRecvAvailable = c.connRecvAvailable
  nextStreamId : c'.nextStreamId = c.nextStreamId
  closed : c'.closed = c.closed
  received : c'.received = c.received

theorem SameStreams.trans {a b d : Conn H} (first : SameStreams a b) (second : SameStreams b d) :
    SameStreams a d where
  streams := second.streams.trans first.streams
  connRecvAvailable := second.connRecvAvailable.trans first.connRecvAvailable
  nextStreamId := second.nextStreamId.trans first.nextStreamId
  closed := second.closed.trans first.closed
  received := second.received.trans first.received

theorem send_same (f : Frame) : SameStreams c (c.send f) := by
  unfold send
  split <;> exact ⟨rfl, rfl, rfl, rfl, rfl⟩

theorem foldl_send_same (frames : List Frame) : SameStreams c (frames.foldl send c) := by
  induction frames generalizing c with
  | nil => exact ⟨rfl, rfl, rfl, rfl, rfl⟩
  | cons f frames ih => exact (c.send_same f).trans (ih (c.send f))

theorem close_same : SameStreams c c.close := by
  unfold close
  split
  · exact ⟨rfl, rfl, rfl, rfl, rfl⟩
  · have sent := c.send_same (.goaway c.highestPromised 0 [])
    exact ⟨sent.streams, sent.connRecvAvailable, sent.nextStreamId, sent.closed, sent.received⟩

theorem wakeStreamSlots_same : SameStreams c c.wakeStreamSlots := by
  unfold wakeStreamSlots wakeWaiters
  have closed := c.close_same
  simp only
  split
  · exact ⟨closed.streams, closed.connRecvAvailable, closed.nextStreamId, closed.closed,
      closed.received⟩
  · exact ⟨rfl, rfl, rfl, rfl, rfl⟩

@[simp] theorem send_streams (f : Frame) : (c.send f).streams = c.streams := (c.send_same f).streams

@[simp] theorem send_closed (f : Frame) : (c.send f).closed = c.closed := (c.send_same f).closed

@[simp] theorem wakeStreamSlots_streams : c.wakeStreamSlots.streams = c.streams :=
  c.wakeStreamSlots_same.streams

@[simp] theorem wakeStreamSlots_closed : c.wakeStreamSlots.closed = c.closed :=
  c.wakeStreamSlots_same.closed

@[simp] theorem modify_streams (id : Nat) (f : Stream → Stream) :
    (c.modify id f).streams = Keyed.update Stream.id id f c.streams := rfl

theorem modify_id (k : Nat) : c.modify k id = c := by
  have same : Keyed.update Stream.id k id c.streams = c.streams :=
    Keyed.update_of_fixed fun _ _ _ => rfl
  rw [modify, same]

theorem modify_distinct (distinct : (c.streams.map Stream.id).Nodup) (k : Nat)
    {f : Stream → Stream} (keeps : ∀ s, (f s).id = s.id) :
    ((c.modify k f).streams.map Stream.id).Nodup := by
  rw [modify_streams, Keyed.map_key_update _ keeps]
  exact distinct

@[simp] theorem modify_closed (id : Nat) (f : Stream → Stream) :
    (c.modify id f).closed = c.closed := rfl

@[simp] theorem delete_streams (id : Nat) : (c.delete id).streams =
    Keyed.update Stream.id id (fun s => { s with inMap := false }) c.streams := rfl

@[simp] theorem delete_closed (id : Nat) : (c.delete id).closed = c.closed := rfl

@[simp] theorem replenishConnectionWindow_streams (n : Int) :
    (c.replenishConnectionWindow n).streams = c.streams := by
  unfold replenishConnectionWindow
  split <;> simp

@[simp] theorem replenishConnectionWindow_closed (n : Int) :
    (c.replenishConnectionWindow n).closed = c.closed := by
  unfold replenishConnectionWindow
  split <;> simp

/-- What `onBytes` tears the connection down for. -/
def tearsDown : Option Cause → Bool
  | none => false
  | some (.h2 error) => error.streamId.isNone
  | some _ => true

/-! ## Lookups -/

theorem get_eq_some {id : Nat} {s : Stream} (found : c.get id = some s) :
    s ∈ c.streams ∧ s.id = id ∧ s.inMap = true := by
  have matched := List.find?_some found
  simp only [Bool.and_eq_true, beq_iff_eq] at matched
  exact ⟨List.mem_of_find?_eq_some found, matched.1, matched.2⟩

theorem get_eq_none {id : Nat} (missing : c.get id = none) :
    ∀ s ∈ c.streams, s.id = id → s.inMap = false := by
  intro s member same
  have := List.find?_eq_none.1 missing s member
  simpa [same] using this

theorem stream_of_mem (distinct : (c.streams.map Stream.id).Nodup) {s : Stream}
    (member : s ∈ c.streams) : c.stream s.id = some s := by
  cases found : c.stream s.id with
  | none =>
      have := List.find?_eq_none.1 found s member
      simp at this
  | some t =>
      have inside := List.mem_of_find?_eq_some found
      have same : t.id = s.id := by simpa using List.find?_some found
      rw [List.inj_on_of_nodup_map distinct inside member same]

theorem stream_eq_some {id : Nat} {s : Stream} (found : c.stream id = some s) :
    s ∈ c.streams ∧ s.id = id := by
  have matched := List.find?_some found
  exact ⟨List.mem_of_find?_eq_some found, by simpa using matched⟩

theorem get_of_mem (distinct : (c.streams.map Stream.id).Nodup) {s : Stream}
    (member : s ∈ c.streams) (live : s.inMap = true) : c.get s.id = some s := by
  cases found : c.get s.id with
  | none =>
      have gone := c.get_eq_none found s member rfl
      rw [live] at gone
      cases gone
  | some t =>
      obtain ⟨inside, same, _⟩ := c.get_eq_some found
      rw [List.inj_on_of_nodup_map distinct inside member same]

theorem get_congr {c' : Conn H} (same : c'.streams = c.streams) (id : Nat) :
    c'.get id = c.get id := by
  unfold get
  rw [same]

/-- A change that keeps a stream where it is changes what a lookup finds. -/
theorem get_modify_eq (id : Nat) {f : Stream → Stream}
    (keeps : ∀ s, (f s).id = s.id ∧ (f s).inMap = s.inMap) :
    (c.modify id f).get id = (c.get id).map f := by
  have same : (fun t : Stream => t.id == id && t.inMap) ∘
      (fun t => if t.id = id then f t else t) = fun t => t.id == id && t.inMap := by
    funext t
    by_cases hit : t.id = id <;> simp [hit, keeps t]
  cases found : c.get id with
  | none =>
      unfold get modify Keyed.update at *
      rw [List.find?_map, same, found]
      rfl
  | some s =>
      have here := (c.get_eq_some found).2.1
      unfold get modify Keyed.update at *
      rw [List.find?_map, same, found, Option.map_some, Option.map_some, if_pos here]

theorem get_modify {id : Nat} {s : Stream} {f : Stream → Stream} (found : c.get id = some s)
    (keeps : ∀ s, (f s).id = s.id ∧ (f s).inMap = s.inMap) :
    (c.modify id f).get id = some (f s) := by
  rw [c.get_modify_eq id keeps, found, Option.map_some]

theorem get_of_gone (distinct : (c.streams.map Stream.id).Nodup) {s : Stream}
    (member : s ∈ c.streams) (gone : s.inMap = false) : c.get s.id = none := by
  cases found : c.get s.id with
  | none => rfl
  | some t =>
      obtain ⟨inside, same, live⟩ := c.get_eq_some found
      rw [List.inj_on_of_nodup_map distinct inside member same, gone] at live
      cases live

/-! ## Streams -/

theorem receiveHeaders_eq (s : Stream) (raw : List Header) (endStream : Bool) :
    s.receiveHeaders raw endStream =
      if s.gotHead then
        { s with
          trailers := some (collectHeaders raw).headers
          recvEnded := s.recvEnded || endStream }
      else if Stream.interim (collectHeaders raw) then s
      else
        { s with
          gotHead := true
          head := .resolved { collectHeaders raw with endStream }
          recvEnded := s.recvEnded || endStream } := by
  cases endStream <;> simp [Stream.receiveHeaders, Stream.endBody]

@[simp] theorem receiveHeaders_id (s : Stream) (raw : List Header) (endStream : Bool) :
    (s.receiveHeaders raw endStream).id = s.id := by
  rw [receiveHeaders_eq]
  repeat' split
  all_goals rfl

theorem pullBody_id (s : Stream) : s.pullBody.1.id = s.id := by
  unfold Stream.pullBody
  repeat' split
  all_goals rfl

theorem receiveData_eq (s : Stream) (data : Bytes) (endStream : Bool) :
    s.receiveData data endStream =
      { s with
        recvQueue := if 0 < data.length && !s.bodyDone then s.recvQueue ++ [data] else s.recvQueue
        recvBuffered :=
          if 0 < data.length && !s.bodyDone then s.recvBuffered + data.length else s.recvBuffered
        recvEnded := s.recvEnded || endStream } := by
  unfold Stream.receiveData
  generalize (decide (0 < data.length) && !s.bodyDone) = kept
  cases kept <;> cases endStream <;> simp

@[simp] theorem receiveData_id (s : Stream) (data : Bytes) (endStream : Bool) :
    (s.receiveData data endStream).id = s.id := by
  rw [receiveData_eq]

/-- What a replenishment of `n` bytes grants. -/
def granting (n : Int) : Int := if c.closed || decide (n ≤ 0) then 0 else n

/-- The stream-side effect of returning `n` consumed bytes. -/
def credited (n : Int) (s : Stream) : Stream :=
  if s.inMap && !s.remoteClosed then { s with recvWindow := s.recvWindow + n } else s

@[simp] theorem credited_id (n : Int) (s : Stream) : (credited n s).id = s.id := by
  unfold credited
  split <;> rfl

@[simp] theorem credited_inMap (n : Int) (s : Stream) : (credited n s).inMap = s.inMap := by
  unfold credited
  split <;> rfl

/-- Only the receive window changes. -/
theorem credited_eq (n : Int) (s : Stream) : ∃ recvWindow, credited n s = { s with recvWindow } := by
  unfold credited
  split
  · exact ⟨_, rfl⟩
  · exact ⟨s.recvWindow, rfl⟩

@[simp] theorem credited_recvBuffered (n : Int) (s : Stream) :
    (credited n s).recvBuffered = s.recvBuffered := by
  unfold credited
  split <;> rfl

theorem credited_recvWindow {n : Int} (counts : 0 ≤ n) (s : Stream) :
    s.recvWindow ≤ (credited n s).recvWindow ∧ (credited n s).recvWindow ≤ s.recvWindow + n := by
  unfold credited
  split
  · simpa using counts
  · omega

theorem credited_zero (s : Stream) : credited 0 s = s := by
  unfold credited
  split <;> simp

theorem replenishRecvWindow_of_le {n : Int} (nothing : n ≤ 0) (id : Nat) :
    c.replenishRecvWindow id n = c := by
  simp [replenishRecvWindow, nothing]

theorem replenishRecvWindow_of_closed (closed : c.closed = true) (id : Nat) (n : Int) :
    c.replenishRecvWindow id n = c := by
  simp [replenishRecvWindow, closed]

/-- Bytes of a stream that left the map or whose peer has ended it return to the
connection only. -/
theorem replenishRecvWindow_of_idle (distinct : (c.streams.map Stream.id).Nodup) {s : Stream}
    (member : s ∈ c.streams) (idle : (s.inMap && !s.remoteClosed) = false) (n : Int) :
    c.replenishRecvWindow s.id n = c.replenishConnectionWindow n := by
  unfold replenishRecvWindow
  split
  · rename_i nothing
    rw [replenishConnectionWindow, if_pos nothing]
  · cases found : c.get s.id with
    | none => rfl
    | some t =>
        obtain ⟨inside, same, live⟩ := c.get_eq_some found
        obtain rfl := List.inj_on_of_nodup_map distinct inside member same
        have ended : t.remoteClosed = true := by simpa [live] using idle
        simp [ended]

theorem replenishRecvWindow_of_live (opened : c.closed = false) {n : Int} (counts : 0 < n)
    {id : Nat} {s : Stream} (found : c.get id = some s) (started : s.remoteClosed = false) :
    c.replenishRecvWindow id n =
      ((c.modify id fun s => { s with recvWindow := s.recvWindow + n }).send
        (.windowUpdate id n.toNat)).replenishConnectionWindow n := by
  unfold replenishRecvWindow
  rw [if_neg (by simp [opened, counts])]
  simp [found, started]

theorem replenishRecvWindow_streams (distinct : (c.streams.map Stream.id).Nodup) {s : Stream}
    (member : s ∈ c.streams) (n : Int) : (c.replenishRecvWindow s.id n).streams =
      Keyed.update Stream.id s.id (credited (c.granting n)) c.streams := by
  have untouched : Keyed.update Stream.id s.id (credited 0) c.streams = c.streams :=
    Keyed.update_of_fixed fun s _ _ => credited_zero s
  by_cases opened : c.closed = true
  · rw [c.replenishRecvWindow_of_closed opened, granting, if_pos (by simp [opened]), untouched]
  by_cases nothing : n ≤ 0
  · rw [c.replenishRecvWindow_of_le nothing, granting, if_pos (by simp [nothing]), untouched]
  rw [granting, if_neg (by simp [opened, nothing])]
  by_cases live : (s.inMap && !s.remoteClosed) = true
  · have granted : { s with recvWindow := s.recvWindow + n } = credited n s := by
      simp only [credited, live, if_true]
    obtain ⟨inMap, started⟩ : s.inMap = true ∧ s.remoteClosed = false := by simpa using live
    rw [c.replenishRecvWindow_of_live (by simpa using opened) (by omega)
      (c.get_of_mem distinct member inMap) started]
    simp only [replenishConnectionWindow_streams, send_streams, modify_streams]
    exact Keyed.update_congr distinct member granted
  · have idle : (s.inMap && !s.remoteClosed) = false := by simpa using live
    have fixed : credited n s = s := by simp only [credited, idle, Bool.false_eq_true, if_false]
    rw [c.replenishRecvWindow_of_idle distinct member idle, replenishConnectionWindow_streams,
      Keyed.update_of_entry distinct member fixed]

/-- A stream reset on this side, or failed and dropped for another reason. -/
def dropped (cause : Cause) (s : Stream) : Stream := { s.fail cause with inMap := false }

theorem discard_streams (s : Stream) : (c.discard s).streams =
    Keyed.update Stream.id s.id Stream.discardBuffered c.streams := by
  simp [discard]

theorem resetStream_streams {id : Nat} {s : Stream} (code : ErrorCode)
    (found : c.get id = some s) : (c.resetStream id code).streams =
      Keyed.update Stream.id id
        (fun s => dropped (.h2 { code, message := s!"stream {id} reset", streamId := some id })
          s.discardBuffered) c.streams := by
  obtain ⟨member, rfl, live⟩ := c.get_eq_some found
  unfold resetStream
  simp only [found, modify_streams, wakeStreamSlots_streams, delete_streams, discard_streams,
    send_streams]
  rw [Keyed.update_update, Keyed.update_update]
  · rfl
  · intro _
    rfl
  · intro _
    rfl

/-- A stream is changed where it is and then reset. -/
theorem modify_resetStream_streams {id : Nat} {s : Stream} {f : Stream → Stream}
    (found : c.get id = some s) (keeps : ∀ s, (f s).id = s.id ∧ (f s).inMap = s.inMap)
    (code : ErrorCode) : ((c.modify id f).resetStream id code).streams =
      Keyed.update Stream.id id
        (fun s => dropped (.h2 { code, message := s!"stream {id} reset", streamId := some id })
          (f s).discardBuffered) c.streams := by
  rw [resetStream_streams _ code (c.get_modify found keeps), modify_streams,
    Keyed.update_update _ fun s => (keeps s).1]
  rfl

theorem resetStream_of_missing {id : Nat} (code : ErrorCode) (missing : c.get id = none) :
    c.resetStream id code = c.send (.rstStream id (errorCodeValue code)) := by
  simp [resetStream, missing]

/-- Leave the map once both directions have ended. -/
def retired (s : Stream) : Stream :=
  if s.localClosed && s.remoteClosed then { s with inMap := false } else s

theorem retireIfFullyClosed_streams (distinct : (c.streams.map Stream.id).Nodup) (id : Nat) :
    (c.retireIfFullyClosed id).streams = Keyed.update Stream.id id retired c.streams := by
  unfold retireIfFullyClosed
  cases found : c.get id with
  | none =>
      have fixed : ∀ s ∈ c.streams, s.id = id → retired s = s := by
        intro s member same
        have gone := c.get_eq_none found s member same
        unfold retired
        split
        · rw [← gone]
        · rfl
      simp [Keyed.update_of_fixed fixed]
  | some s =>
      obtain ⟨member, rfl, live⟩ := c.get_eq_some found
      by_cases done : (s.localClosed && s.remoteClosed) = true
      · have leaves : { s with inMap := false } = retired s := by simp [retired, done]
        simp only [done, if_true, wakeStreamSlots_streams, delete_streams]
        exact Keyed.update_congr distinct member leaves
      · have stays : retired s = s := by simp [retired, done]
        simp [done, Keyed.update_of_entry distinct member stays]

/-- The end of an inbound DATA frame or header block: the peer half-closes. -/
def peerEnds (id : Nat) (endStream : Bool) : Conn H :=
  if endStream then
    (c.modify id fun s => { s with remoteClosed := true }).retireIfFullyClosed id
  else c

/-- The effect of `peerEnds` on its stream. -/
def halfClosed (endStream : Bool) (s : Stream) : Stream :=
  if endStream then retired { s with remoteClosed := true } else s

@[simp] theorem retired_id (s : Stream) : (retired s).id = s.id := by
  unfold retired
  split <;> rfl

@[simp] theorem halfClosed_id (endStream : Bool) (s : Stream) :
    (halfClosed endStream s).id = s.id := by
  unfold halfClosed
  split <;> simp

theorem peerEnds_streams (distinct : (c.streams.map Stream.id).Nodup) (id : Nat)
    (endStream : Bool) : (c.peerEnds id endStream).streams =
      Keyed.update Stream.id id (halfClosed endStream) c.streams := by
  cases endStream with
  | false =>
      rw [Keyed.update_of_fixed fun s _ _ => by simp [halfClosed]]
      rfl
  | true =>
      rw [peerEnds, if_pos rfl, retireIfFullyClosed_streams, modify_streams, Keyed.update_update]
      · rfl
      · intro _
        rfl
      · exact c.modify_distinct distinct id fun _ => rfl

/-- The connection once a header block has been decoded. -/
def decoded (hpack : H.State) : Conn H := { c with pendingHeaderBlock := none, hpack }

/-- A block of a response that its stream is given. -/
theorem completeHeaderBlock_response {pb : PendingHeaderBlock} {hpack : H.State}
    {headers : List Header} (decoded : H.decode c.hpack pb.fragments.flatten = (hpack, .ok headers))
    (kind : pb.kind = .response) (known : c.has pb.streamId = true) :
    c.completeHeaderBlock pb =
      (((c.decoded hpack).modify pb.streamId fun s =>
        s.receiveHeaders headers pb.endStream).peerEnds pb.streamId pb.endStream, none) := by
  have still : { c with pendingHeaderBlock := none, hpack }.has pb.streamId = true := known
  simp only [completeHeaderBlock, decoded, kind, still, if_true, peerEnds]
  cases pb.endStream <;> rfl

/-- What a complete header block does: the block is refused by the decoder, refuses a
push, reaches its stream, or is dropped. -/
theorem completeHeaderBlock_cases (pb : PendingHeaderBlock) : ∃ hpack,
    (∃ error, error.retry = none ∧ (error.streamId = none ∨ error.streamId = some pb.streamId) ∧
      c.completeHeaderBlock pb = (c.decoded hpack, some (.h2 error))) ∨
    c.completeHeaderBlock pb = ((c.decoded hpack).handlePush pb.promisedStreamId, none) ∨
    (∃ headers, H.decode c.hpack pb.fragments.flatten = (hpack, .ok headers) ∧
      pb.kind = .response ∧ c.has pb.streamId = true ∧
      c.completeHeaderBlock pb =
        (((c.decoded hpack).modify pb.streamId fun s =>
          s.receiveHeaders headers pb.endStream).peerEnds pb.streamId pb.endStream, none)) ∨
    c.completeHeaderBlock pb = (c.decoded hpack, none) := by
  rcases outcome : H.decode c.hpack pb.fragments.flatten with ⟨hpack, result⟩
  refine ⟨hpack, ?_⟩
  cases result with
  | error e =>
      left
      simp only [completeHeaderBlock, outcome]
      refine ⟨_, rfl, ?_, rfl⟩
      cases e.ofStream with
      | true => exact .inr rfl
      | false => exact .inl rfl
  | ok headers =>
      right
      cases kind : pb.kind with
      | push =>
          left
          simp only [completeHeaderBlock, outcome, kind]
          rfl
      | response =>
          right
          by_cases known : c.has pb.streamId = true
          · left
            exact ⟨headers, rfl, rfl, known, c.completeHeaderBlock_response outcome kind known⟩
          · right
            have unknown : ¬ { c with pendingHeaderBlock := none, hpack }.has pb.streamId = true :=
              known
            simp only [completeHeaderBlock, outcome, kind]
            rw [if_neg unknown]
            rfl

/-- The connection's credit for a DATA frame is taken. -/
def charge (f : DataFrame) : Conn H :=
  { c with connRecvAvailable := c.connRecvAvailable - f.flowControlledLength }

/-- A DATA frame that no stream takes: its credit is returned at once. -/
def bounce (f : DataFrame) : Conn H :=
  (c.charge f).replenishConnectionWindow f.flowControlledLength

/-- An accepted DATA frame. -/
def acceptData (f : DataFrame) : Conn H :=
  let c := (c.charge f).modify f.streamId fun s =>
    { s with recvWindow := s.recvWindow - f.flowControlledLength }
  let c := c.replenishRecvWindow f.streamId f.padding
  (c.modify f.streamId fun s => s.receiveData f.data f.endStream).peerEnds f.streamId f.endStream

theorem receiveDataFrame_eq (f : DataFrame) : c.receiveDataFrame f =
    if c.connRecvAvailable < (f.flowControlledLength : Int) then
      (c, some (.h2
        { code := .flowControlError, message := "DATA exceeds connection receive window" }))
    else
      match c.get f.streamId with
      | some s =>
          if s.remoteClosed then ((c.bounce f).resetStream f.streamId .streamClosed, none)
          else if s.recvWindow < (f.flowControlledLength : Int) then
            ((c.bounce f).resetStream f.streamId .flowControlError, none)
          else (c.acceptData f, none)
      | none =>
          if isIdleInboundStream f.streamId (c.bounce f).nextStreamId (c.bounce f).highestPromised then
            (c.bounce f, protocolError "DATA received on an idle stream")
          else ((c.bounce f).send (.rstStream f.streamId (errorCodeValue .streamClosed)), none) := by
  unfold receiveDataFrame acceptData peerEnds
  cases f.endStream <;> rfl

theorem granting_of_opened (opened : c.closed = false) {n : Int} (counts : 0 ≤ n) :
    c.granting n = n := by
  simp only [granting, opened, Bool.false_or, decide_eq_true_eq]
  split
  · omega
  · rfl

/-- The effect of an accepted DATA frame on its stream, with `n` bytes of padding returned. -/
def accepted (f : DataFrame) (n : Int) (s : Stream) : Stream :=
  halfClosed f.endStream
    ((credited n { s with recvWindow := s.recvWindow - f.flowControlledLength }).receiveData f.data
      f.endStream)

@[simp] theorem accepted_id (f : DataFrame) (n : Int) (s : Stream) : (accepted f n s).id = s.id := by
  simp [accepted]

/-- What an accepted frame changes besides the windows and the queue. -/
theorem accepted_fields (f : DataFrame) (n : Int) (s : Stream) :
    (accepted f n s).gotHead = s.gotHead ∧ (accepted f n s).head = s.head ∧
      (accepted f n s).recvError = s.recvError ∧
      (accepted f n s).recvEnded = (s.recvEnded || f.endStream) ∧
      ((accepted f n s).inMap = true → s.inMap = true) ∧
      ((accepted f n s).inMap = false → s.inMap = true →
        f.endStream = true ∧ s.localClosed = true) := by
  obtain ⟨recvWindow, credit⟩ :=
    credited_eq n { s with recvWindow := s.recvWindow - f.flowControlledLength }
  unfold accepted
  rw [credit, receiveData_eq]
  cases ends : f.endStream <;> cases s.localClosed <;> simp [halfClosed, retired]

/-- What an accepted frame does to the body. -/
theorem accepted_body (f : DataFrame) (n : Int) (s : Stream) :
    (accepted f n s).taken = s.taken ∧ (accepted f n s).bodyDone = s.bodyDone ∧
      (accepted f n s).bodyEnd = s.bodyEnd ∧
      (s.bodyDone = false →
        (accepted f n s).recvQueue.flatten = s.recvQueue.flatten ++ f.data) := by
  obtain ⟨recvWindow, credit⟩ :=
    credited_eq n { s with recvWindow := s.recvWindow - f.flowControlledLength }
  unfold accepted
  rw [credit, receiveData_eq]
  cases f.endStream <;> cases s.localClosed <;> cases empty : f.data <;>
    simp [halfClosed, retired] <;> intro wanted <;> simp [wanted]

/-- A frame accepted by a live stream whose body is still wanted. -/
theorem accepted_eq (f : DataFrame) (n : Int) {s : Stream} (live : s.inMap = true)
    (started : s.remoteClosed = false) (wanted : s.bodyDone = false) :
    accepted f n s =
      { s with
        inMap := !(s.localClosed && f.endStream)
        recvWindow := s.recvWindow - f.flowControlledLength + n
        remoteClosed := f.endStream
        recvQueue := s.recvQueue ++ if f.data = [] then [] else [f.data]
        recvBuffered := s.recvBuffered + f.data.length
        recvEnded := s.recvEnded || f.endStream } := by
  cases ends : f.endStream <;> cases empty : f.data <;> cases sent : s.localClosed <;>
    simp [accepted, halfClosed, retired, credited, Stream.receiveData, live, started, wanted, ends,
      empty, sent]

theorem acceptData_streams (distinct : (c.streams.map Stream.id).Nodup) {f : DataFrame}
    {s : Stream} (found : c.get f.streamId = some s) : (c.acceptData f).streams =
      Keyed.update Stream.id f.streamId (accepted f (c.granting f.padding)) c.streams := by
  let charged := (c.charge f).modify f.streamId fun s =>
    { s with recvWindow := s.recvWindow - f.flowControlledLength }
  have chargedDistinct : (charged.streams.map Stream.id).Nodup :=
    c.modify_distinct distinct f.streamId fun _ => rfl
  obtain ⟨member, same, _⟩ := charged.get_eq_some (c.get_modify found fun _ => ⟨rfl, rfl⟩)
  have returned := charged.replenishRecvWindow_streams chargedDistinct member f.padding
  rw [same] at returned
  have returnedDistinct :
      ((charged.replenishRecvWindow f.streamId f.padding).streams.map Stream.id).Nodup := by
    rw [returned, Keyed.map_key_update _ (credited_id _)]
    exact chargedDistinct
  unfold acceptData
  rw [peerEnds_streams, modify_streams, returned, modify_streams, Keyed.update_update,
    Keyed.update_update, Keyed.update_update]
  · rfl
  · intro _
    rfl
  · intro s
    simp
  · intro s
    simp
  · exact modify_distinct _ returnedDistinct _ fun s => by simp

/-- A stream reset by its peer. -/
theorem receiveRstStream_streams {id : Nat} {s : Stream} (errorCode : Nat)
    (found : c.get id = some s) : (c.receiveRstStream id errorCode).streams =
      Keyed.update Stream.id id
        (fun s => { s.discardBuffered.receiveReset errorCode with inMap := false }) c.streams := by
  obtain ⟨_, rfl, _⟩ := c.get_eq_some found
  unfold receiveRstStream
  simp only [found, wakeStreamSlots_streams, delete_streams, modify_streams, discard_streams]
  rw [Keyed.update_update, Keyed.update_update]
  · rfl
  · intro _
    rfl
  · intro _
    rfl

/-- A change of the peer's initial window moves the send window of every mapped stream. -/
def adjusted (delta : Int) (s : Stream) : Stream :=
  if s.inMap then { s with sendWindow := s.sendWindow + delta } else s

theorem adjusted_zero (s : Stream) : adjusted 0 s = s := by
  unfold adjusted
  split <;> simp

theorem applyRest_streams (settings : Settings) :
    (applyRemoteSettings.applyRest c settings).1.streams = c.streams := by
  unfold applyRemoteSettings.applyRest
  split <;> simp

theorem applyLimits_streams (settings : Settings) :
    (applyRemoteSettings.applyLimits c settings).1.streams = c.streams := by
  unfold applyRemoteSettings.applyLimits
  repeat' split
  all_goals simp [applyRest_streams]

theorem applyRemoteSettings_streams (settings : Settings) : ∃ delta : Int,
    (c.applyRemoteSettings settings).1.streams = c.streams.map (adjusted delta) := by
  have same : c.streams = c.streams.map (adjusted 0) := by
    rw [List.map_congr_left fun s _ => adjusted_zero s, List.map_id']
  unfold applyRemoteSettings
  split
  · split
    · exact ⟨0, same⟩
    · rename_i size _ _
      exact ⟨size - c.remote.initialWindowSize, applyLimits_streams _ _⟩
  · exact ⟨0, by rw [applyLimits_streams, ← same]⟩

/-- Invalid settings are an error of the connection. -/
theorem applyRemoteSettings_tearsDown (settings : Settings) (cause : Cause)
    (thrown : (c.applyRemoteSettings settings).2 = some cause) :
    tearsDown (some cause) = true ∧ cause.evidence = none := by
  have rest : ∀ c : Conn H, (applyRemoteSettings.applyRest c settings).2 = none := by
    intro c
    unfold applyRemoteSettings.applyRest
    split <;> rfl
  have limits : ∀ c : Conn H, (applyRemoteSettings.applyLimits c settings).2 = some cause →
      tearsDown (some cause) = true ∧ cause.evidence = none := by
    intro c
    unfold applyRemoteSettings.applyLimits
    repeat' split
    · rintro ⟨⟩
      exact ⟨rfl, rfl⟩
    · simp [rest]
    · simp [rest]
  unfold applyRemoteSettings at thrown
  repeat' split at thrown
  · cases thrown
    exact ⟨rfl, rfl⟩
  · exact limits _ thrown
  · exact limits _ thrown

/-- The effect of GOAWAY on a stream. -/
def excluded (code : ErrorCode) (lastStreamId : Nat) (s : Stream) : Stream :=
  if s.inMap && decide (lastStreamId < s.id) then
    dropped (.h2
      { code
        message := "GOAWAY excludes this stream"
        streamId := some s.id
        retry := some .refused }) s
  else s

/-- GOAWAY before a possible teardown. -/
def exclude (code : ErrorCode) (lastStreamId : Nat) : Conn H :=
  wakeStreamSlots
    { c with goawayReceived := true, streams := c.streams.map (excluded code lastStreamId) }

theorem receiveGoaway_eq (lastStreamId errorCode : Nat) :
    c.receiveGoaway lastStreamId errorCode =
      let code := (errorCodeName errorCode).getD .noError
      if errorCode ≠ 0 then
        (c.exclude code lastStreamId).destroy (.h2 { code, message := "peer sent GOAWAY" })
      else c.exclude code lastStreamId := rfl

theorem exclude_streams (code : ErrorCode) (lastStreamId : Nat) :
    (c.exclude code lastStreamId).streams = c.streams.map (excluded code lastStreamId) :=
  wakeStreamSlots_streams _

theorem destroy_streams (opened : c.closed = false) (cause : Cause) :
    (c.destroy cause).streams =
      c.streams.map fun s => if s.inMap then dropped cause s else s := by
  simp [destroy, opened, dropped]

theorem destroy_of_closed (closed : c.closed = true) (cause : Cause) : c.destroy cause = c := by
  simp [destroy, closed]

theorem destroy_closed (cause : Cause) : (c.destroy cause).closed = true := by
  unfold destroy
  split
  · assumption
  · simp

theorem connectionError_closed (cause : Cause) : (c.connectionError cause).closed = true :=
  destroy_closed _ cause

/-! ## Requests and bodies -/

theorem onStream_eq_some {c' : Conn H} {id : Nat} {enabled : Stream → Bool} {f : Stream → Conn H}
    (done : c.onStream id enabled f = some c') :
    ∃ s, s ∈ c.streams ∧ s.id = id ∧ enabled s = true ∧ c' = f s := by
  unfold onStream at done
  split at done
  · rename_i s found
    split at done
    · rename_i able
      obtain ⟨member, same⟩ := c.stream_eq_some found
      exact ⟨s, member, same, able, (Option.some.inj done).symm⟩
    · cases done
  · cases done

theorem onRequest_eq_some {c' : Conn H} {r : Nat} {phase : RequestPhase} {f : Request → Conn H}
    (done : c.onRequest r phase f = some c') :
    ∃ q, c.requests[r]? = some q ∧ q.phase = phase ∧ c' = f q := by
  unfold onRequest at done
  split at done
  · rename_i q found
    split at done
    · exact ⟨q, found, ‹_›, (Option.some.inj done).symm⟩
    · cases done
  · cases done

theorem sendHeaders_same (id : Nat) (block : Bytes) (endStream : Bool) :
    SameStreams c (c.sendHeaders id block endStream) := by
  unfold sendHeaders
  simp only
  split
  · exact c.send_same _
  · exact (c.send_same _).trans (foldl_send_same _ _)

/-- The stream a request opens. -/
def newStream (w : Windows) (q : Request) : Stream :=
  { id := c.nextStreamId
    sendWindow := c.remote.initialWindowSize
    recvWindow := w.localInitialWindow
    localClosed := !q.hasBody
    upload := if q.hasBody then .pumping else .idle }

/-- The connection with the stream of a request, before its HEADERS. -/
def withStream (w : Windows) (q : Request) : Conn H :=
  { c with nextStreamId := c.nextStreamId + 2, streams := c.streams ++ [c.newStream w q] }

theorem openStream_eq (w : Windows) (r : Nat) (q : Request) : c.openStream w r q =
    ((c.withStream w q).sendHeaders c.nextStreamId q.block (!q.hasBody)).setPhase r
      (.opened c.nextStreamId) := rfl

@[simp] theorem openStream_streams (w : Windows) (r : Nat) (q : Request) :
    (c.openStream w r q).streams = c.streams ++ [c.newStream w q] :=
  (sendHeaders_same (c.withStream w q) _ _ _).streams

@[simp] theorem openStream_closed (w : Windows) (r : Nat) (q : Request) :
    (c.openStream w r q).closed = c.closed :=
  (sendHeaders_same (c.withStream w q) _ _ _).closed

theorem mem_modify {s : Stream} (member : s ∈ c.streams) (f : Stream → Stream) :
    f s ∈ (c.modify s.id f).streams := by
  rw [modify_streams, Keyed.mem_update]
  exact ⟨s, member, if_pos rfl⟩

/-- A stream is changed by its consumer, who returns `n` bytes of credit. -/
theorem consume_streams (distinct : (c.streams.map Stream.id).Nodup) {s : Stream}
    (member : s ∈ c.streams) {f : Stream → Stream} (keeps : ∀ s, (f s).id = s.id) (n : Int) :
    ((c.modify s.id f).replenishRecvWindow s.id n).streams =
      Keyed.update Stream.id s.id (fun s => credited (c.granting n) (f s)) c.streams := by
  have granted := (c.modify s.id f).replenishRecvWindow_streams
    (c.modify_distinct distinct s.id keeps) (c.mem_modify member f) n
  rw [keeps] at granted
  rw [granted, modify_streams, Keyed.update_update _ keeps]
  rfl

/-- A continuation of `request` fails, opens the stream of an open connection, or parks. -/
theorem admitRequest_cases (w : Windows) (r : Nat) (q : Request) :
    (∃ cause, c.check q = some cause ∧ c.admitRequest w r q = c.setPhase r (.failed cause)) ∨
    (c.closed = false ∧ c.goawayReceived = false ∧ c.canOpenStream = true ∧
      c.admitRequest w r q = c.openStream w r q) ∨
    (c.closed = false ∧ c.goawayReceived = false ∧ c.canOpenStream = false ∧
      c.admitRequest w r q =
        { c with streamSlotWaiters := c.streamSlotWaiters ++ [r] }.setPhase r .parked) := by
  unfold admitRequest
  cases checked : c.check q with
  | some cause => exact .inl ⟨cause, rfl, rfl⟩
  | none =>
      right
      have usable : c.closed = false ∧ c.goawayReceived = false := by
        unfold check at checked
        split at checked
        · cases checked
        split at checked
        · cases checked
        · rename_i free
          simpa using free
      simp only
      split
      · rename_i free
        exact .inl ⟨usable.1, usable.2, free, rfl⟩
      · rename_i taken
        exact .inr ⟨usable.1, usable.2, by simpa using taken, rfl⟩

/-! ## What no event undoes -/

/-- Stream ids are not reused, the log of inbound frames is kept, and a closed
connection stays closed. -/
structure Onward (c c' : Conn H) : Prop where
  nextStreamId : c'.nextStreamId = c.nextStreamId
  received : c'.received = c.received
  closed : c.closed = true → c'.closed = true

theorem Onward.refl : Onward c c := ⟨rfl, rfl, fun down => down⟩

theorem Onward.trans {a b d : Conn H} (first : Onward a b) (second : Onward b d) : Onward a d :=
  ⟨second.nextStreamId.trans first.nextStreamId, second.received.trans first.received,
    fun down => second.closed (first.closed down)⟩

theorem SameStreams.onward {c c' : Conn H} (same : SameStreams c c') : Onward c c' :=
  ⟨same.nextStreamId, same.received, fun down => same.closed.trans down⟩

/-- Fields nothing here reads are set first. -/
theorem Onward.after {c c₁ c' : Conn H} (moved : Onward c₁ c')
    (next : c₁.nextStreamId = c.nextStreamId) (log : c₁.received = c.received)
    (same : c₁.closed = c.closed) : Onward c c' :=
  ⟨moved.nextStreamId.trans next, moved.received.trans log,
    fun down => moved.closed (same.trans down)⟩

theorem modify_onward (id : Nat) (f : Stream → Stream) : Onward c (c.modify id f) :=
  ⟨rfl, rfl, fun down => down⟩

theorem replenishConnectionWindow_onward (n : Int) : Onward c (c.replenishConnectionWindow n) := by
  unfold replenishConnectionWindow
  split
  · exact .refl c
  · exact .after (send_same _ _).onward rfl rfl rfl

theorem replenishRecvWindow_onward (id : Nat) (n : Int) : Onward c (c.replenishRecvWindow id n) := by
  unfold replenishRecvWindow
  split
  · exact .refl c
  · refine Onward.trans ?_ (replenishConnectionWindow_onward _ n)
    repeat' split
    · exact .refl c
    · exact (c.modify_onward id _).trans (send_same _ _).onward
    · exact .refl c

theorem discard_onward (s : Stream) : Onward c (c.discard s) :=
  (c.modify_onward _ _).trans (replenishConnectionWindow_onward _ _)

theorem resetStream_onward (id : Nat) (code : ErrorCode) : Onward c (c.resetStream id code) := by
  unfold resetStream
  simp only
  split
  · exact ((((c.send_same _).onward.trans (discard_onward _ _)).trans (modify_onward _ _ _)).trans
      (wakeStreamSlots_same _).onward).trans (modify_onward _ _ _)
  · exact (c.send_same _).onward

theorem retireIfFullyClosed_onward (id : Nat) : Onward c (c.retireIfFullyClosed id) := by
  unfold retireIfFullyClosed
  repeat' split
  · exact (c.modify_onward _ _).trans (wakeStreamSlots_same _).onward
  · exact .refl c
  · exact .refl c

theorem peerEnds_onward (id : Nat) (endStream : Bool) : Onward c (c.peerEnds id endStream) := by
  unfold peerEnds
  split
  · exact (c.modify_onward _ _).trans (retireIfFullyClosed_onward _ _)
  · exact .refl c

theorem destroy_onward (cause : Cause) : Onward c (c.destroy cause) := by
  refine ⟨?_, ?_, fun _ => c.destroy_closed cause⟩
  · unfold destroy
    split
    · rfl
    · exact (wakeStreamSlots_same _).nextStreamId
  · unfold destroy
    split
    · rfl
    · exact (wakeStreamSlots_same _).received

theorem connectionError_onward (cause : Cause) : Onward c (c.connectionError cause) :=
  (c.send_same _).onward.trans (destroy_onward _ cause)

theorem applyRemoteSettings_onward (settings : Settings) :
    Onward c (c.applyRemoteSettings settings).1 := by
  have rest : ∀ c : Conn H, Onward c (applyRemoteSettings.applyRest c settings).1 := by
    intro c
    unfold applyRemoteSettings.applyRest
    simp only
    split
    · exact .after (wakeStreamSlots_same _).onward rfl rfl rfl
    · exact ⟨rfl, rfl, fun down => down⟩
  have limits : ∀ c : Conn H, Onward c (applyRemoteSettings.applyLimits c settings).1 := by
    intro c
    unfold applyRemoteSettings.applyLimits
    repeat' split
    · exact .refl c
    · exact .after (rest _) rfl rfl rfl
    · exact rest c
  unfold applyRemoteSettings
  repeat' split
  · exact .refl c
  · exact .after (limits _) rfl rfl rfl
  · exact limits c

theorem completeHeaderBlock_onward (pb : PendingHeaderBlock) :
    Onward c (c.completeHeaderBlock pb).1 := by
  have start : ∀ hpack, Onward c (c.decoded hpack) := fun _ => ⟨rfl, rfl, fun down => down⟩
  obtain ⟨hpack, ⟨_, _, _, done⟩ | done | ⟨_, _, _, _, done⟩ | done⟩ :=
    c.completeHeaderBlock_cases pb
  · rw [done]
    exact start hpack
  · rw [done]
    exact .after (send_same _ _).onward rfl rfl rfl
  · rw [done]
    exact ((start hpack).trans (modify_onward _ _ _)).trans (peerEnds_onward _ _ _)
  · rw [done]
    exact start hpack

theorem acceptHeaderBlock_onward (pb : PendingHeaderBlock) (endHeaders : Bool) :
    Onward c (c.acceptHeaderBlock pb endHeaders).1 := by
  have stored : Onward c { c with pendingHeaderBlock := some pb } := ⟨rfl, rfl, fun down => down⟩
  unfold acceptHeaderBlock
  simp only
  repeat' split
  · exact stored
  · exact stored.trans (completeHeaderBlock_onward _ pb)
  · exact stored

theorem bounce_onward (f : DataFrame) : Onward c (c.bounce f) :=
  .after (replenishConnectionWindow_onward (c.charge f) _) rfl rfl rfl

theorem acceptData_onward (f : DataFrame) : Onward c (c.acceptData f) := by
  have charged : Onward c (c.charge f) := ⟨rfl, rfl, fun down => down⟩
  exact (((charged.trans (modify_onward _ _ _)).trans (replenishRecvWindow_onward _ _ _)).trans
    (modify_onward _ _ _)).trans (peerEnds_onward _ _ _)

theorem receiveDataFrame_onward (f : DataFrame) : Onward c (c.receiveDataFrame f).1 := by
  rw [receiveDataFrame_eq]
  repeat' split
  · exact .refl c
  · exact (c.bounce_onward f).trans (resetStream_onward _ _ _)
  · exact (c.bounce_onward f).trans (resetStream_onward _ _ _)
  · exact c.acceptData_onward f
  · exact c.bounce_onward f
  · exact (c.bounce_onward f).trans (send_same _ _).onward

theorem receiveGoaway_onward (lastStreamId errorCode : Nat) :
    Onward c (c.receiveGoaway lastStreamId errorCode) := by
  have excludes : Onward c (c.exclude ((errorCodeName errorCode).getD .noError) lastStreamId) :=
    .after (wakeStreamSlots_same _).onward rfl rfl rfl
  rw [receiveGoaway_eq]
  simp only
  split
  · exact excludes.trans (destroy_onward _ _)
  · exact excludes

theorem dispatch_onward (f : Frame) : Onward c (c.dispatch f).1 := by
  unfold dispatch
  split
  · split
    · exact c.acceptHeaderBlock_onward _ _
    · exact .refl c
  · exact .refl c
  · exact .refl c
  · exact .refl c
  · have applied := c.applyRemoteSettings_onward ‹Settings›
    rcases outcome : c.applyRemoteSettings ‹Settings› with ⟨c', _ | cause⟩
    · rw [outcome] at applied
      simp only [outcome]
      exact applied.trans (send_same _ _).onward
    · rw [outcome] at applied
      simp only [outcome]
      exact applied
  · exact c.acceptHeaderBlock_onward _ _
  · exact c.acceptHeaderBlock_onward _ _
  · exact c.receiveDataFrame_onward _
  · unfold receiveRstStream
    split
    · exact (((c.discard_onward _).trans (modify_onward _ _ _)).trans (modify_onward _ _ _)).trans
        (wakeStreamSlots_same _).onward
    · exact .refl c
  · unfold receiveWindowUpdate
    repeat' split
    · exact .refl c
    · exact c.resetStream_onward _ _
    · exact ⟨rfl, rfl, fun down => down⟩
    · exact c.modify_onward _ _
    · exact .refl c
  · split
    · exact .refl c
    · exact (c.send_same _).onward
  · exact c.receiveGoaway_onward _ _
  · exact .refl c

/-- What one inbound frame does after its dispatch. -/
theorem onFrame_cases (f : Frame) :
    (((c.arrive f).dispatch f).2 = none ∧ c.onFrame f = ((c.arrive f).dispatch f).1) ∨
    (∃ error id, ((c.arrive f).dispatch f).2 = some (.h2 error) ∧ error.streamId = some id ∧
      c.onFrame f = ((c.arrive f).dispatch f).1.resetStream id error.code) ∨
    (∃ cause, ((c.arrive f).dispatch f).2 = some cause ∧
      tearsDown ((c.arrive f).dispatch f).2 = true ∧
      c.onFrame f = ((c.arrive f).dispatch f).1.connectionError cause) := by
  unfold onFrame
  rcases (c.arrive f).dispatch f with ⟨c', _ | cause⟩
  · exact .inl ⟨rfl, rfl⟩
  right
  cases cause with
  | h2 error =>
      cases ofStream : error.streamId with
      | none => exact .inr ⟨.h2 error, rfl, by simp [tearsDown, ofStream], by simp [ofStream]⟩
      | some id => exact .inl ⟨error, id, rfl, ofStream, by simp [ofStream]⟩
  | aborted => exact .inr ⟨_, rfl, rfl, rfl⟩
  | transport => exact .inr ⟨_, rfl, rfl, rfl⟩
  | upload => exact .inr ⟨_, rfl, rfl, rfl⟩

/-- After the frame was logged. -/
theorem onFrame_onward (f : Frame) : Onward (c.arrive f) (c.onFrame f) := by
  have dispatched := (c.arrive f).dispatch_onward f
  obtain ⟨_, done⟩ | ⟨_, _, _, _, done⟩ | ⟨_, _, _, done⟩ := c.onFrame_cases f
  · rw [done]
    exact dispatched
  · rw [done]
    exact dispatched.trans (resetStream_onward _ _ _)
  · rw [done]
    exact dispatched.trans (connectionError_onward _ _)

theorem abort_onward (r : Nat) (q : Request) (reason : Cause) : Onward c (c.abort r q reason) := by
  unfold abort abortStream
  simp only
  split
  · exact ⟨rfl, rfl, fun down => down⟩
  · split
    · have marked : Onward c
          { c with requests := c.requests.modify r fun q => { q with aborted := some reason } } :=
        ⟨rfl, rfl, fun down => down⟩
      exact (marked.trans (modify_onward _ _ _)).trans (resetStream_onward _ _ _)
    · exact ⟨rfl, rfl, fun down => down⟩
  · exact ⟨rfl, rfl, fun down => down⟩

theorem cancelBody_onward (s : Stream) : Onward c (c.cancelBody s) := by
  have returned := (c.modify_onward s.id Stream.cancelBody).trans
    (replenishRecvWindow_onward _ s.id s.recvBuffered)
  unfold cancelBody
  simp only
  split
  · exact returned.trans (resetStream_onward _ _ _)
  · exact returned

theorem uploadFails_onward (s : Stream) (cause : Cause) : Onward c (c.uploadFails s cause) := by
  have failed := c.modify_onward s.id fun s => { s.fail cause with upload := .idle }
  unfold uploadFails
  simp only
  split
  · exact failed.trans (resetStream_onward _ _ _)
  · exact failed

end Conn

end GrpcBridge.H2
