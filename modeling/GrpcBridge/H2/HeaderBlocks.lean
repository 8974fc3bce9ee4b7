/-
# H2.HeaderBlocks -- the header blocks a session receives

A header block is HEADERS or PUSH_PROMISE and the CONTINUATION frames behind it.  The
decoder's table depends on every block, so that none may be skipped, whatever becomes of
its stream.  `headerBlocks` reads the blocks off the frames alone.

An operation that touches neither the block under way nor the decoder, and sends no part
of a block, is `Apart`; `Outward` is what a header frame leaves alone too.  `Reads` is the
invariant: the state of the decoder is that of all blocks so far, and each stream has been
given its own (`heads_of_reaches`).
-/
import GrpcBridge.H2.ReceiveCredit
import GrpcBridge.H2.StreamSlots
import GrpcBridge.Theory.Fragments

namespace GrpcBridge.H2

open GrpcBridge.Theory GrpcBridge.Theory.Fragments

set_option autoImplicit false

/-! ## Blocks on the wire -/

/-- What the first frame of a block says. -/
structure BlockHead where
  streamId : Nat
  kind : BlockKind
  endStream : Bool
  promisedStreamId : Nat := 0
deriving DecidableEq, Repr

def Frame.token : Frame → Token BlockHead Nat
  | .headers streamId fragment endStream endHeaders =>
      .first { streamId, kind := .response, endStream } fragment endHeaders
  | .pushPromise streamId promisedStreamId fragment endHeaders =>
      .first { streamId, kind := .push, endStream := false, promisedStreamId } fragment endHeaders
  | .continuation streamId fragment endHeaders => .more streamId fragment endHeaders
  | _ => .other

/-- A bound for the payload of a frame. -/
def Frame.weight : Frame → Nat
  | .data f => f.data.length
  | .headers _ fragment _ _ => fragment.length
  | .continuation _ fragment _ => fragment.length
  | .pushPromise _ _ fragment _ => fragment.length + 4
  | .goaway _ _ debugData => debugData.length + 8
  | _ => 36

/-- A frame of a few bytes that is no part of a header block. -/
def Frame.plain : Frame → Bool
  | .data f => f.data.isEmpty
  | .goaway _ _ debugData => debugData.isEmpty
  | .headers _ _ _ _ => false
  | .pushPromise _ _ _ _ => false
  | .continuation _ _ _ => false
  | _ => true

theorem Frame.plain_spec {f : Frame} (plain : f.plain = true) : f.token = .other ∧ f.weight ≤ 36 := by
  cases f with
  | data f => exact ⟨rfl, by simp [weight, List.isEmpty_iff.1 plain]⟩
  | goaway last code debugData => exact ⟨rfl, by simp [weight, List.isEmpty_iff.1 plain]⟩
  | headers => cases plain
  | pushPromise => cases plain
  | continuation => cases plain
  | _ => exact ⟨rfl, Nat.le_refl _⟩

/-- The longest payload that the length field of a frame can say. -/
def longestPayload : Nat := 16777215

/-- The header blocks of a sequence of frames. -/
def headerBlocks (frames : List Frame) : Option (Assembly BlockHead) :=
  assemble BlockHead.streamId (frames.map Frame.token)

/-- A block under way, as it is on the wire. -/
def PendingHeaderBlock.message (pb : PendingHeaderBlock) : BlockHead × Bytes :=
  ({ streamId := pb.streamId
     kind := pb.kind
     endStream := pb.endStream
     promisedStreamId := pb.promisedStreamId },
    pb.fragments.flatten)

/-- A block and what the decoder makes of it. -/
abbrev ReadBlock := BlockHead × Except HpackError (List Header)

def Hpack.readBlock (H : Hpack) (read : H.State × List ReadBlock) (b : BlockHead × Bytes) :
    H.State × List ReadBlock :=
  ((H.decode read.1 b.2).1, read.2 ++ [(b.1, (H.decode read.1 b.2).2)])

/-- The blocks of a connection, decoded one after the other. -/
def Hpack.readBlocks (H : Hpack) (blocks : List (BlockHead × Bytes)) : H.State × List ReadBlock :=
  blocks.foldl H.readBlock (H.init, [])

variable {H : Hpack}

theorem Hpack.readBlocks_snoc (blocks : List (BlockHead × Bytes)) (b : BlockHead × Bytes) :
    H.readBlocks (blocks ++ [b]) = H.readBlock (H.readBlocks blocks) b := by
  rw [readBlocks, List.foldl_append]
  rfl

namespace Conn

/-! ## Operations apart from header blocks -/

/-- Streams leave the map with the connection. -/
def Down (c : Conn H) : Prop := c.closed = true → ∀ s ∈ c.streams, s.inMap = false

/-- The peer's frames hold a byte at least, and can say how long they are. -/
def Framed (c : Conn H) : Prop :=
  0 < c.remote.maxFrameSize ∧ c.remote.maxFrameSize ≤ longestPayload

structure Outward (c c' : Conn H) : Prop where
  down : c.Down → c'.Down
  framed : c.Framed → c'.Framed
  sent : ∃ more, c'.sent = c.sent ++ more ∧
    ∀ f ∈ more, f.token = .other ∧ (c.Framed → f.weight ≤ longestPayload)

structure Apart (c c' : Conn H) : Prop extends Outward c c' where
  pending : c'.pendingHeaderBlock = c.pendingHeaderBlock
  hpack : c'.hpack = c.hpack

theorem Outward.trans {a b d : Conn H} (first : Outward a b) (second : Outward b d) : Outward a d where
  down := fun down => second.down (first.down down)
  framed := fun framed => second.framed (first.framed framed)
  sent := by
    obtain ⟨some_, said, plain⟩ := first.sent
    obtain ⟨more, said', plain'⟩ := second.sent
    refine ⟨some_ ++ more, by rw [said', said, List.append_assoc], ?_⟩
    refine List.forall_mem_append.2 ⟨plain, fun f inside => ?_⟩
    obtain ⟨other, light⟩ := plain' f inside
    exact ⟨other, fun framed => light (first.framed framed)⟩

theorem Apart.trans {a b d : Conn H} (first : Apart a b) (second : Apart b d) : Apart a d where
  toOutward := first.toOutward.trans second.toOutward
  pending := second.pending.trans first.pending
  hpack := second.hpack.trans first.hpack

/-- Fields that have nothing to do with header blocks. -/
theorem Outward.of_fields {c c' : Conn H} (streams : c'.streams = c.streams)
    (closed : c'.closed = c.closed) (size : c'.remote.maxFrameSize = c.remote.maxFrameSize)
    (sent : c'.sent = c.sent) : Outward c c' where
  down := by
    intro down shut s inside
    exact down (closed ▸ shut) s (streams ▸ inside)
  framed := by
    rw [Framed, Framed, size]
    exact id
  sent := ⟨[], by rw [sent, List.append_nil], fun _ inside => nomatch inside⟩

/-- Fields that have nothing to do with header blocks are set first. -/
theorem Apart.after {c c₁ c' : Conn H} (apart : Apart c₁ c') (outward : Outward c c₁)
    (pending : c₁.pendingHeaderBlock = c.pendingHeaderBlock) (hpack : c₁.hpack = c.hpack) :
    Apart c c' := Apart.trans ⟨outward, pending, hpack⟩ apart

/-- A stream does not come back into the map. -/
def Leaving (f : Stream → Stream) : Prop := ∀ s, s.inMap = false → (f s).inMap = false

variable (c : Conn H)

theorem Apart.refl : Apart c c := ⟨.of_fields rfl rfl rfl rfl, rfl, rfl⟩

theorem arrive_apart (f : Frame) : Apart c (c.arrive f) := ⟨.of_fields rfl rfl rfl rfl, rfl, rfl⟩

theorem map_apart {f : Stream → Stream} (leaving : Leaving f) :
    Apart c { c with streams := c.streams.map f } where
  down := by
    intro down shut s' inside
    obtain ⟨s, member, rfl⟩ := List.mem_map.1 inside
    exact leaving s (down shut s member)
  framed := id
  sent := ⟨[], by rw [List.append_nil], fun _ inside => nomatch inside⟩
  pending := rfl
  hpack := rfl

theorem modify_apart (id : Nat) {f : Stream → Stream} (leaving : Leaving f) :
    Apart c (c.modify id f) := by
  refine c.map_apart fun s out => ?_
  split
  · exact leaving s out
  · exact out

theorem send_light {f : Frame} (other : f.token = .other)
    (light : c.Framed → f.weight ≤ longestPayload) : Apart c (c.send f) := by
  unfold send
  split
  · exact .refl c
  · refine ⟨⟨id, id, [f], rfl, fun g inside => ?_⟩, rfl, rfl⟩
    rw [List.mem_singleton.1 inside]
    exact ⟨other, light⟩

theorem send_apart {f : Frame} (plain : f.plain = true) : Apart c (c.send f) := by
  obtain ⟨other, light⟩ := Frame.plain_spec plain
  exact c.send_light other fun _ => Nat.le_trans light (by decide)

theorem close_apart : Apart c c.close := by
  unfold close
  split
  · exact .refl c
  · exact (c.send_apart rfl).trans ⟨.of_fields rfl rfl rfl rfl, rfl, rfl⟩

theorem wakeStreamSlots_apart : Apart c c.wakeStreamSlots := by
  unfold wakeStreamSlots
  simp only
  split
  · exact c.close_apart.trans ⟨.of_fields rfl rfl rfl rfl, rfl, rfl⟩
  · exact ⟨.of_fields rfl rfl rfl rfl, rfl, rfl⟩

theorem replenishConnectionWindow_apart (n : Int) : Apart c (c.replenishConnectionWindow n) := by
  have credited : Apart c { c with connRecvAvailable := c.connRecvAvailable + n } :=
    ⟨.of_fields rfl rfl rfl rfl, rfl, rfl⟩
  unfold replenishConnectionWindow
  split
  · exact .refl c
  · exact credited.trans (send_apart _ rfl)

theorem replenishRecvWindow_apart (id : Nat) (n : Int) : Apart c (c.replenishRecvWindow id n) := by
  unfold replenishRecvWindow
  split
  · exact .refl c
  · refine Apart.trans ?_ (replenishConnectionWindow_apart _ n)
    repeat' split
    · exact .refl c
    · exact (c.modify_apart id (by exact fun _ out => out)).trans (send_apart _ rfl)
    · exact .refl c

theorem discard_apart (s : Stream) : Apart c (c.discard s) :=
  (c.modify_apart s.id (by exact fun _ out => out)).trans (replenishConnectionWindow_apart _ _)

theorem delete_apart (id : Nat) : Apart c (c.delete id) := c.modify_apart id fun _ _ => rfl

theorem resetStream_apart (id : Nat) (code : ErrorCode) : Apart c (c.resetStream id code) := by
  have told : Apart c (c.send (.rstStream id (errorCodeValue code))) := c.send_apart rfl
  unfold resetStream
  simp only
  split
  · exact (((told.trans (discard_apart _ _)).trans (delete_apart _ id)).trans
      (wakeStreamSlots_apart _)).trans (modify_apart _ id (by exact fun _ out => out))
  · exact told

theorem retireIfFullyClosed_apart (id : Nat) : Apart c (c.retireIfFullyClosed id) := by
  unfold retireIfFullyClosed
  repeat' split
  · exact (c.delete_apart id).trans (wakeStreamSlots_apart _)
  · exact .refl c
  · exact .refl c

theorem peerEnds_apart (id : Nat) (endStream : Bool) : Apart c (c.peerEnds id endStream) := by
  unfold peerEnds
  split
  · exact (c.modify_apart id (by exact fun _ out => out)).trans (retireIfFullyClosed_apart _ id)
  · exact .refl c

theorem destroy_apart (cause : Cause) : Apart c (c.destroy cause) := by
  have emptied : Apart c
      { c with
        closed := true
        closeError := some cause
        streams := c.streams.map fun s =>
          if s.inMap then { s.fail cause with inMap := false } else s } := by
    refine ⟨⟨fun _ _ s' inside => ?_, id, [], (List.append_nil _).symm, fun _ inside => nomatch inside⟩,
      rfl, rfl⟩
    obtain ⟨s, -, rfl⟩ := List.mem_map.1 inside
    split
    · rfl
    · rename_i out
      exact Bool.not_eq_true _ ▸ out
  unfold destroy
  split
  · exact .refl c
  · exact emptied.trans (wakeStreamSlots_apart _)

theorem connectionError_apart (cause : Cause) : Apart c (c.connectionError cause) :=
  (c.send_apart rfl).trans (destroy_apart _ cause)

/-! ## Inbound frames -/

theorem receiveHeaders_leaving (raw : List Header) (endStream : Bool) :
    Leaving fun s => s.receiveHeaders raw endStream := by
  intro s out
  rw [(receiveHeaders_keeps s raw endStream).2]
  exact out

theorem bounce_apart (f : DataFrame) : Apart c (c.bounce f) :=
  (replenishConnectionWindow_apart (c.charge f) _).after (.of_fields rfl rfl rfl rfl) rfl rfl

theorem acceptData_apart (f : DataFrame) : Apart c (c.acceptData f) := by
  have charged : Apart c (c.charge f) := ⟨.of_fields rfl rfl rfl rfl, rfl, rfl⟩
  have queues : Leaving fun s => s.receiveData f.data f.endStream := by
    intro s out
    rw [(receiveData_keeps s f.data f.endStream).2]
    exact out
  exact (((charged.trans (modify_apart _ _ (by exact fun _ out => out))).trans
    (replenishRecvWindow_apart _ _ _)).trans (modify_apart _ _ queues)).trans (peerEnds_apart _ _ _)

theorem receiveDataFrame_apart (f : DataFrame) : Apart c (c.receiveDataFrame f).1 := by
  rw [receiveDataFrame_eq]
  repeat' split
  · exact .refl c
  · exact (c.bounce_apart f).trans (resetStream_apart _ _ _)
  · exact (c.bounce_apart f).trans (resetStream_apart _ _ _)
  · exact c.acceptData_apart f
  · exact c.bounce_apart f
  · exact (c.bounce_apart f).trans (send_apart _ rfl)

theorem receiveRstStream_apart (id errorCode : Nat) : Apart c (c.receiveRstStream id errorCode) := by
  unfold receiveRstStream
  split
  · exact (((c.discard_apart _).trans (modify_apart _ _ (by exact fun _ out => out))).trans
      (delete_apart _ id)).trans (wakeStreamSlots_apart _)
  · exact .refl c

theorem receiveWindowUpdate_apart (id increment : Nat) :
    Apart c (c.receiveWindowUpdate id increment).1 := by
  unfold receiveWindowUpdate
  repeat' split
  · exact .refl c
  · exact c.resetStream_apart id _
  · exact ⟨.of_fields rfl rfl rfl rfl, rfl, rfl⟩
  · exact c.modify_apart id (by exact fun _ out => out)
  · exact .refl c

theorem receiveGoaway_apart (lastStreamId errorCode : Nat) :
    Apart c (c.receiveGoaway lastStreamId errorCode) := by
  have gone : Leaving (excluded ((errorCodeName errorCode).getD .noError) lastStreamId) := by
    intro s out
    unfold excluded
    split
    · rfl
    · exact out
  have marked : Apart c { c with goawayReceived := true } := ⟨.of_fields rfl rfl rfl rfl, rfl, rfl⟩
  have excludes : Apart c (c.exclude ((errorCodeName errorCode).getD .noError) lastStreamId) :=
    (marked.trans (map_apart _ gone)).trans (wakeStreamSlots_apart _)
  rw [receiveGoaway_eq]
  simp only
  split
  · exact excludes.trans (destroy_apart _ _)
  · exact excludes

theorem applyRemoteSettings_apart (s : Settings) : Apart c (c.applyRemoteSettings s).1 := by
  have rest : ∀ c : Conn H, Apart c (applyRemoteSettings.applyRest c s).1 := by
    intro c
    unfold applyRemoteSettings.applyRest
    simp only
    split
    · exact (wakeStreamSlots_apart _).after (.of_fields rfl rfl rfl rfl) rfl rfl
    · exact ⟨.of_fields rfl rfl rfl rfl, rfl, rfl⟩
  have limits : ∀ c : Conn H, Apart c (applyRemoteSettings.applyLimits c s).1 := by
    intro c
    unfold applyRemoteSettings.applyLimits
    repeat' split
    · exact .refl c
    · rename_i size _ range
      refine (rest _).after ⟨id, fun _ => ?_, [], (List.append_nil _).symm, ?_⟩ rfl rfl
      · change 0 < size ∧ size ≤ longestPayload
        rw [longestPayload]
        omega
      · exact fun _ inside => nomatch inside
    · exact rest c
  unfold applyRemoteSettings
  repeat' split
  · exact .refl c
  · refine (limits _).after ⟨?_, id, [], (List.append_nil _).symm, fun _ inside => nomatch inside⟩
      rfl rfl
    refine (c.map_apart fun s out => ?_).down
    rw [if_neg (by simp [out])]
    exact out
  · exact limits c

/-- Every frame that is no part of a header block. -/
theorem dispatch_apart {f : Frame} (plain : f.token = .other) : Apart c (c.dispatch f).1 := by
  unfold dispatch
  split
  · cases plain
  · exact .refl c
  · exact .refl c
  · exact .refl c
  · rename_i settings _
    have applied := c.applyRemoteSettings_apart settings
    split
    · rename_i done
      exact done ▸ applied
    · rename_i done
      exact (done ▸ applied).trans (send_apart _ rfl)
  · cases plain
  · cases plain
  · exact c.receiveDataFrame_apart _
  · exact c.receiveRstStream_apart _ _
  · exact c.receiveWindowUpdate_apart _ _
  · split
    · exact .refl c
    · exact c.send_apart rfl
  · exact c.receiveGoaway_apart _ _
  · exact .refl c

/-! ## A frame of a header block -/

theorem completeHeaderBlock_outward (pb : PendingHeaderBlock) :
    Outward c (c.completeHeaderBlock pb).1 := by
  have start : ∀ hpack, Outward c (c.decoded hpack) := fun _ => .of_fields rfl rfl rfl rfl
  obtain ⟨hpack, ⟨_, _, _, done⟩ | done | ⟨_, _, _, _, done⟩ | done⟩ :=
    c.completeHeaderBlock_cases pb
  · rw [done]
    exact start hpack
  · have promised : Outward (c.decoded hpack)
        { c.decoded hpack with
          highestPromised := max (c.decoded hpack).highestPromised pb.promisedStreamId } :=
      .of_fields rfl rfl rfl rfl
    rw [done]
    exact ((start hpack).trans promised).trans (send_apart _ rfl).toOutward
  · rw [done]
    exact ((start hpack).trans (modify_apart _ _ (receiveHeaders_leaving _ _)).toOutward).trans
      (peerEnds_apart _ _ _).toOutward
  · rw [done]
    exact start hpack

/-- The block is gone and its decoder has gone on, whatever was made of it. -/
theorem completeHeaderBlock_read (pb : PendingHeaderBlock) :
    (c.completeHeaderBlock pb).1.pendingHeaderBlock = none ∧
      (c.completeHeaderBlock pb).1.hpack = (H.decode c.hpack pb.fragments.flatten).1 := by
  have after : ∀ {c' : Conn H}, Apart (c.decoded (H.decode c.hpack pb.fragments.flatten).1) c' →
      c'.pendingHeaderBlock = none ∧ c'.hpack = (H.decode c.hpack pb.fragments.flatten).1 :=
    fun apart => ⟨apart.pending, apart.hpack⟩
  unfold completeHeaderBlock
  simp only
  split
  · exact after (.refl _)
  · rename_i headers _
    split
    · exact after ((send_apart _ rfl).after (.of_fields rfl rfl rfl rfl) rfl rfl)
    · have reached := modify_apart (c.decoded (H.decode c.hpack pb.fragments.flatten).1) pb.streamId
        (receiveHeaders_leaving headers pb.endStream)
      split
      · split
        · exact after ((reached.trans (modify_apart _ _ (by exact fun _ out => out))).trans
            (retireIfFullyClosed_apart _ _))
        · exact after reached
      · exact after (.refl _)

theorem acceptHeaderBlock_outward (pb : PendingHeaderBlock) (endHeaders : Bool) :
    Outward c (c.acceptHeaderBlock pb endHeaders).1 := by
  have stored : Outward c { c with pendingHeaderBlock := some pb } := .of_fields rfl rfl rfl rfl
  unfold acceptHeaderBlock
  simp only
  repeat' split
  · exact stored
  · exact stored.trans (completeHeaderBlock_outward _ pb)
  · exact stored

/-- What was read of the header blocks so far. -/
def Aligned (c : Conn H) (a : Assembly BlockHead) : Prop :=
  c.pendingHeaderBlock.map PendingHeaderBlock.message = a.begun ∧
    c.hpack = (H.readBlocks a.whole).1

theorem Aligned.apart {c c' : Conn H} {a : Assembly BlockHead} (aligned : c.Aligned a)
    (apart : Apart c c') : c'.Aligned a := by
  rw [Aligned, apart.pending, apart.hpack]
  exact aligned

/-- A block that is not too long is stored or decoded. -/
theorem acceptHeaderBlock_aligned {c : Conn H} {a : Assembly BlockHead} (aligned : c.Aligned a)
    (pb : PendingHeaderBlock) (endHeaders : Bool) :
    tearsDown (c.acceptHeaderBlock pb endHeaders).2 = true ∨
      (c.acceptHeaderBlock pb endHeaders).1.Aligned
        (a.put pb.message.1 pb.message.2 endHeaders) := by
  unfold acceptHeaderBlock Assembly.put
  simp only
  split
  · exact .inl rfl
  right
  split
  · obtain ⟨pending, hpack⟩ := completeHeaderBlock_read { c with pendingHeaderBlock := some pb } pb
    refine ⟨by rw [pending]; rfl, ?_⟩
    rw [hpack, H.readBlocks_snoc, Hpack.readBlock, ← aligned.2]
    rfl
  · exact ⟨rfl, aligned.2⟩

theorem dispatch_outward (f : Frame) : Outward c (c.dispatch f).1 := by
  cases token : f.token with
  | other => exact (c.dispatch_apart token).toOutward
  | first key bytes final =>
      unfold dispatch
      split
      · cases token
      · exact (Apart.refl c).toOutward
      all_goals first
        | exact c.acceptHeaderBlock_outward _ _
        | cases token
  | more id bytes final =>
      unfold dispatch
      split
      · split
        · exact c.acceptHeaderBlock_outward _ _
        · exact (Apart.refl c).toOutward
      all_goals first
        | exact (Apart.refl c).toOutward
        | cases token

/-! ## One inbound frame -/

theorem onFrame_outward (f : Frame) : Outward (c.arrive f) (c.onFrame f) := by
  have dispatched := (c.arrive f).dispatch_outward f
  obtain ⟨_, done⟩ | ⟨_, _, _, _, done⟩ | ⟨_, _, _, done⟩ := c.onFrame_cases f
  · rw [done]
    exact dispatched
  · rw [done]
    exact dispatched.trans (resetStream_apart _ _ _).toOutward
  · rw [done]
    exact dispatched.trans (connectionError_apart _ _).toOutward

variable {c} {a : Assembly BlockHead}

theorem dispatch_aligned (aligned : c.Aligned a) (f : Frame) :
    tearsDown (c.dispatch f).2 = true ∨
      ∃ a', a.take BlockHead.streamId f.token = some a' ∧ (c.dispatch f).1.Aligned a' := by
  cases pending : c.pendingHeaderBlock with
  | some pb =>
      have begun : a.begun = some pb.message := by
        rw [← aligned.1, pending]
        rfl
      cases f with
      | continuation streamId fragment endHeaders =>
          by_cases own : pb.streamId = streamId
          · subst own
            let longer : PendingHeaderBlock :=
              { pb with fragments := pb.fragments ++ [fragment], size := pb.size + fragment.length }
            have stored : c.dispatch (.continuation pb.streamId fragment endHeaders) =
                c.acceptHeaderBlock longer endHeaders := by
              simp only [dispatch, pending, if_true, longer]
            have joined : longer.message = (pb.message.1, pb.message.2 ++ fragment) := by
              change (_, (pb.fragments ++ [fragment]).flatten) = (_, pb.fragments.flatten ++ fragment)
              rw [List.flatten_append, List.flatten_singleton]
              rfl
            have taken : a.take BlockHead.streamId
                (Frame.continuation pb.streamId fragment endHeaders).token =
                  some (a.put longer.message.1 longer.message.2 endHeaders) := by
              rw [joined]
              unfold Assembly.take
              rw [begun]
              exact if_pos rfl
            rw [stored, taken]
            exact (acceptHeaderBlock_aligned aligned longer endHeaders).imp_right fun after =>
              ⟨_, rfl, after⟩
          · left
            simp only [dispatch, pending, own, if_false]
            rfl
      | _ =>
          left
          simp only [dispatch, pending]
          rfl
  | none =>
      have begun : a.begun = none := by
        rw [← aligned.1, pending]
        rfl
      have other : f.token = .other →
          ∃ a', a.take BlockHead.streamId f.token = some a' ∧ (c.dispatch f).1.Aligned a' := by
        intro plain
        refine ⟨a, ?_, aligned.apart (c.dispatch_apart plain)⟩
        unfold Assembly.take
        rw [begun, plain]
      have first : ∀ (pb : PendingHeaderBlock) (endHeaders : Bool),
          f.token = .first pb.message.1 pb.message.2 endHeaders →
          c.dispatch f = c.acceptHeaderBlock pb endHeaders →
          tearsDown (c.dispatch f).2 = true ∨
            ∃ a', a.take BlockHead.streamId f.token = some a' ∧ (c.dispatch f).1.Aligned a' := by
        intro pb endHeaders token stored
        rw [stored]
        refine (acceptHeaderBlock_aligned aligned pb endHeaders).imp_right fun after => ⟨_, ?_, after⟩
        unfold Assembly.take
        rw [begun, token]
      cases f with
      | continuation streamId fragment endHeaders =>
          left
          simp only [dispatch, pending]
          rfl
      | headers streamId fragment endStream endHeaders =>
          refine first
            { streamId, kind := .response, endStream, fragments := [fragment]
              size := fragment.length } endHeaders ?_ ?_
          · simp only [PendingHeaderBlock.message, List.flatten_singleton, Frame.token]
          · simp only [dispatch, pending]
      | pushPromise streamId promisedStreamId fragment endHeaders =>
          refine first
            { streamId, kind := .push, endStream := false, promisedStreamId, fragments := [fragment]
              size := fragment.length } endHeaders ?_ ?_
          · simp only [PendingHeaderBlock.message, List.flatten_singleton, Frame.token]
          · simp only [dispatch, pending]
      | _ => exact .inr (other rfl)

/-- A frame moves the reading of the blocks on, or takes the connection down. -/
theorem onFrame_aligned (aligned : c.Aligned a) (f : Frame) :
    (c.onFrame f).closed = true ∨
      ∃ a', a.take BlockHead.streamId f.token = some a' ∧ (c.onFrame f).Aligned a' := by
  obtain ⟨fine, done⟩ | ⟨error, id, raised, ofStream, done⟩ | ⟨cause, _, _, done⟩ := c.onFrame_cases f
  · rcases dispatch_aligned (aligned.apart (c.arrive_apart f)) f with torn | ⟨a', taken, after⟩
    · rw [fine] at torn
      cases torn
    · exact .inr ⟨a', taken, done ▸ after⟩
  · rcases dispatch_aligned (aligned.apart (c.arrive_apart f)) f with torn | ⟨a', taken, after⟩
    · rw [raised] at torn
      simp only [tearsDown, ofStream] at torn
      cases torn
    · exact .inr ⟨a', taken, done ▸ after.apart (resetStream_apart _ _ _)⟩
  · left
    rw [done]
    exact connectionError_closed _ _

/-! ## What streams are given -/

/-- What the consumer of a stream sees of its header blocks. -/
def face (s : Stream) : Nat × Head × Option (List (String × String)) × Bool :=
  (s.id, s.head, s.trailers, s.gotHead)

/-- The head of a stream is a block sent on it, and its trailers are a later one. -/
structure Handed (read : List ReadBlock) (s : Stream) : Prop where
  head : ∀ head, s.head = .resolved head → ∃ before b headers after,
    read = before ++ (b, .ok headers) :: after ∧ b.streamId = s.id ∧ b.kind = .response ∧
      head = { collectHeaders headers with endStream := b.endStream } ∧
      ∀ trailers, s.trailers = some trailers → ∃ b' headers', (b', .ok headers') ∈ after ∧
        b'.streamId = s.id ∧ b'.kind = .response ∧ trailers = (collectHeaders headers').headers
  resolved : (∃ head, s.head = .resolved head) → s.gotHead = true
  trailed : s.trailers.isSome = true → ∃ head, s.head = .resolved head

/-- A stream fails only by leaving the map. -/
def Unfailed (s : Stream) : Prop :=
  s.inMap = true → s.gotHead = true → ∃ head, s.head = .resolved head

theorem Handed.more {read more : List ReadBlock} {s : Stream} (delivered : Handed read s)
    (longer : read <+: more) : Handed more s := by
  obtain ⟨rest, rfl⟩ := longer
  refine ⟨fun head is => ?_, delivered.resolved, delivered.trailed⟩
  obtain ⟨before, b, headers, after, rfl, own, kind, made, trailers⟩ := delivered.head head is
  refine ⟨before, b, headers, after ++ rest, by simp, own, kind, made, fun t has => ?_⟩
  obtain ⟨b', headers', inside, found⟩ := trailers t has
  exact ⟨b', headers', List.mem_append_left _ inside, found⟩

theorem Handed.of_face {read : List ReadBlock} {s s' : Stream} (delivered : Handed read s)
    (same : face s' = face s) : Handed read s' := by
  simp only [face, Prod.mk.injEq] at same
  obtain ⟨id, head, trailers, gotHead⟩ := same
  refine ⟨?_, ?_, ?_⟩
  · rw [id, head, trailers]
    exact delivered.head
  · rw [head, gotHead]
    exact delivered.resolved
  · rw [head, trailers]
    exact delivered.trailed

theorem Handed.untrailed {read : List ReadBlock} {s : Stream} (delivered : Handed read s)
    (got : s.gotHead = false) : s.trailers = none := by
  cases has : s.trailers with
  | none => rfl
  | some t =>
      have settled := delivered.resolved (delivered.trailed (by rw [has]; rfl))
      rw [got] at settled
      cases settled

/-- A failure keeps the head that a stream has. -/
theorem Handed.fail {read : List ReadBlock} {s : Stream} (delivered : Handed read s)
    (cause : Cause) : Handed read (s.fail cause) := by
  cases got : s.gotHead with
  | true =>
      refine delivered.of_face ?_
      simp only [face, Stream.fail, got, if_true]
  | false =>
      refine ⟨?_, fun _ => rfl, ?_⟩
      · intro head is
        simp only [Stream.fail, got] at is
        cases is
      · intro has
        simp only [Stream.fail, delivered.untrailed got] at has
        cases has

theorem Handed.dropped {read : List ReadBlock} {s : Stream} (delivered : Handed read s)
    (cause : Cause) : Handed read (dropped cause s) := (delivered.fail cause).of_face rfl

/-- A decoded block reaches its stream. -/
theorem Handed.receiveHeaders {read : List ReadBlock} {s : Stream} (delivered : Handed read s)
    (unfailed : Unfailed s) (live : s.inMap = true) {b : BlockHead} (own : b.streamId = s.id)
    (kind : b.kind = .response) (headers : List Header) :
    Handed (read ++ [(b, .ok headers)]) (s.receiveHeaders headers b.endStream) ∧
      Unfailed (s.receiveHeaders headers b.endStream) := by
  rw [receiveHeaders_eq]
  cases got : s.gotHead with
  | true =>
      -- trailers
      obtain ⟨head, is⟩ := unfailed live got
      refine ⟨⟨fun head' is' => ?_, fun _ => rfl, fun _ => ⟨head, is⟩⟩, fun _ _ => ⟨head, is⟩⟩
      obtain ⟨before, b₁, headers₁, after, rfl, own₁, kind₁, made, -⟩ := delivered.head head' is'
      refine ⟨before, b₁, headers₁, after ++ [(b, .ok headers)], by simp, own₁, kind₁, made, ?_⟩
      rintro _ ⟨⟩
      exact ⟨b, headers, List.mem_append_right _ (List.mem_singleton_self _), own, kind, rfl⟩
  | false =>
      simp only [Bool.false_eq_true, if_false]
      split
      · -- interim
        refine ⟨delivered.more (List.prefix_append _ _), unfailed⟩
      · refine ⟨⟨?_, fun _ => rfl, fun _ => ⟨_, rfl⟩⟩, fun _ _ => ⟨_, rfl⟩⟩
        rintro _ ⟨⟩
        refine ⟨read, b, headers, [], rfl, own, kind, rfl, ?_⟩
        intro t has
        rw [delivered.untrailed got] at has
        cases has

theorem face_halfClosed (endStream : Bool) (s : Stream) : face (halfClosed endStream s) = face s := by
  unfold halfClosed retired
  repeat' split
  all_goals rfl

theorem face_credited (n : Int) (s : Stream) : face (credited n s) = face s := by
  obtain ⟨recvWindow, same⟩ := credited_eq n s
  rw [same]
  rfl

theorem face_accepted (f : DataFrame) (n : Int) (s : Stream) : face (accepted f n s) = face s := by
  rw [accepted, face_halfClosed, receiveData_eq]
  exact face_credited n { s with recvWindow := s.recvWindow - f.flowControlledLength }

theorem face_pullBody (s : Stream) : face s.pullBody.1 = face s := by
  unfold Stream.pullBody
  repeat' split
  all_goals rfl

theorem halfClosed_leaves (endStream : Bool) (s : Stream) :
    (halfClosed endStream s).inMap = true → s.inMap = true := by
  unfold halfClosed retired
  repeat' split
  · exact fun live => nomatch live
  · exact id
  · exact id

/-- The block that a frame completes is read with it. -/
theorem completing_take {c : Conn H} {a : Assembly BlockHead} (aligned : c.Aligned a) {f : Frame}
    {pb : PendingHeaderBlock} (complete : c.completing f = some pb) :
    a.take BlockHead.streamId f.token = some { whole := a.whole ++ [pb.message] } := by
  have sized : ∀ {pb' : PendingHeaderBlock}, completing.sized pb' = some pb → pb' = pb := by
    intro pb' fits
    unfold completing.sized at fits
    split at fits
    · cases fits
    · exact Option.some.inj fits
  unfold completing at complete
  unfold Assembly.take
  rw [← aligned.1]
  split at complete
  · rename_i pending
    split at complete
    · rename_i own
      obtain rfl := sized complete
      rw [pending]
      simp only [Option.map_some, Frame.token, PendingHeaderBlock.message, own, if_true, Assembly.put,
        List.flatten_append, List.flatten_singleton]
    · cases complete
  · rename_i pending
    obtain rfl := sized complete
    rw [pending]
    simp only [Option.map_none, Frame.token, PendingHeaderBlock.message, if_true, Assembly.put,
      List.flatten_singleton]
  · rename_i pending
    obtain rfl := sized complete
    rw [pending]
    simp only [Option.map_none, Frame.token, PendingHeaderBlock.message, if_true, Assembly.put,
      List.flatten_singleton]
  · cases complete

/-- Every effect but that of a header block. -/
theorem Effect.delivered {c : Conn H} {e : Event} {s s' : Stream} {read : List ReadBlock}
    (effect : Effect c e s s') (delivered : Handed read s) (unfailed : Unfailed s)
    (blocks : ∀ f pb hpack headers, e = .recv f → c.completing f = some pb →
      H.decode c.hpack pb.fragments.flatten = (hpack, .ok headers) → c.get pb.streamId = some s →
      Handed read (s.receiveHeaders headers pb.endStream) ∧
        Unfailed (s.receiveHeaders headers pb.endStream)) :
    Handed read s' ∧ Unfailed s' := by
  have plain : ∀ {t : Stream}, face t = face s → (t.inMap = true → s.inMap = true) →
      Handed read t ∧ Unfailed t := by
    intro t same leaves
    refine ⟨delivered.of_face same, fun live got => ?_⟩
    simp only [face, Prod.mk.injEq] at same
    rw [same.2.1]
    exact unfailed (leaves live) (same.2.2.2 ▸ got)
  have gone : ∀ {t : Stream} (cause : Cause), Handed read t →
      Handed read (Conn.dropped cause t) ∧ Unfailed (Conn.dropped cause t) :=
    fun cause given => ⟨given.dropped cause, fun live => nomatch live⟩
  cases effect with
  | keep => exact ⟨delivered, unfailed⟩
  | windows => exact plain rfl fun live => live
  | data n taken =>
      exact plain (face_accepted _ _ _) (accepted_fields _ _ _).2.2.2.2.1
  | @headers f pb hpack headers _ complete decoded found =>
      obtain ⟨given, stays⟩ := blocks f pb hpack headers rfl complete decoded found
      refine ⟨given.of_face (face_halfClosed _ _), fun live got => ?_⟩
      have same := face_halfClosed pb.endStream (s.receiveHeaders headers pb.endStream)
      simp only [face, Prod.mk.injEq] at same
      rw [same.2.1]
      exact stays (halfClosed_leaves _ _ live) (same.2.2.2 ▸ got)
  | reset cause => exact gone cause (delivered.of_face rfl)
  | peerReset errorCode =>
      have emptied : Handed read s.discardBuffered := delivered.of_face rfl
      exact ⟨(emptied.fail _).of_face rfl, fun live => nomatch live⟩
  | excluded cause => exact gone cause delivered
  | torn sendWindow cause => exact gone cause (delivered.of_face rfl)
  | pulled n able =>
      have same : face (credited n s.pullBody.1) = face s := (face_credited _ _).trans (face_pullBody s)
      refine plain same fun live => ?_
      rw [credited_inMap] at live
      rw [← (pullBody_keeps s).2]
      exact live
  | cancelled n stays =>
      refine plain ((face_credited _ _).trans rfl) fun live => ?_
      rw [credited_inMap] at live
      exact live
  | cancelReset n cause =>
      refine gone cause (delivered.of_face ?_)
      exact (face_credited n s.cancelBody).trans rfl
  | aborted reason cause => exact gone cause ((delivered.fail reason).of_face rfl)
  | flushed =>
      refine plain ?_ ?_
      · unfold retired
        split <;> rfl
      · unfold retired
        split
        · exact fun live => nomatch live
        · exact fun live => live
  | uploadFailed raised out =>
      refine ⟨(delivered.fail raised).of_face rfl, fun live => ?_⟩
      rw [show s.inMap = true from live] at out
      cases out
  | uploadReset raised cause => exact gone cause ((delivered.fail raised).of_face rfl)

/-! ## Local events -/

theorem setPhase_apart (c : Conn H) (r : Nat) (phase : RequestPhase) : Apart c (c.setPhase r phase) :=
  ⟨.of_fields rfl rfl rfl rfl, rfl, rfl⟩

theorem abort_apart (c : Conn H) (r : Nat) (q : Request) (reason : Cause) :
    Apart c (c.abort r q reason) := by
  have marked : Apart c (c.marked r reason) := ⟨.of_fields rfl rfl rfl rfl, rfl, rfl⟩
  unfold abort
  simp only
  split
  · exact (setPhase_apart _ r _).after (.of_fields rfl rfl rfl rfl) rfl rfl
  · unfold abortStream
    split
    · exact (marked.trans (modify_apart _ _ (by exact fun _ out => out))).trans
        (resetStream_apart _ _ _)
    · exact marked
  · exact marked

/-- A local event is apart from header blocks, or sends the block of a request. -/
theorem step_apart {c c' : Conn H} {w : Windows} {e : Event} (stepped : c.step w e = some c') :
    Apart c c' ∨ (∃ f, e = .recv f ∧ c' = c.onFrame f) ∨
      ∃ r q, c.requests[r]? = some q ∧ (q.phase = .settingUp ∨ q.phase = .woken) ∧
        c.closed = false ∧ c' = c.openStream w r q := by
  have admits : ∀ r q, c.requests[r]? = some q → (q.phase = .settingUp ∨ q.phase = .woken) →
      c' = c.admitRequest w r q → Apart c c' ∨ (∃ f, e = .recv f ∧ c' = c.onFrame f) ∨
        ∃ r q, c.requests[r]? = some q ∧ (q.phase = .settingUp ∨ q.phase = .woken) ∧
          c.closed = false ∧ c' = c.openStream w r q := by
    rintro r q asked phase rfl
    obtain ⟨cause, -, done⟩ | ⟨up, -, -, done⟩ | ⟨-, -, -, done⟩ := c.admitRequest_cases w r q
    · rw [done]
      exact .inl (c.setPhase_apart r _)
    · exact .inr (.inr ⟨r, q, asked, phase, up, done⟩)
    · rw [done]
      exact .inl ((setPhase_apart _ r _).after (.of_fields rfl rfl rfl rfl) rfl rfl)
  cases e with
  | recv f => exact .inr (.inl ⟨f, rfl, (Option.some.inj stepped).symm⟩)
  | ready r =>
      obtain ⟨q, asked, phase, rfl⟩ := c.onRequest_eq_some stepped
      exact admits r q asked (.inl phase) rfl
  | resume r =>
      obtain ⟨q, asked, phase, rfl⟩ := c.onRequest_eq_some stepped
      exact admits r q asked (.inr phase) rfl
  | request block hasBody =>
      obtain rfl := Option.some.inj stepped
      exact .inl ⟨.of_fields rfl rfl rfl rfl, rfl, rfl⟩
  | readyFails r =>
      obtain ⟨q, -, -, rfl⟩ := c.onRequest_eq_some stepped
      exact .inl (c.setPhase_apart r _)
  | abort r reason =>
      simp only [step] at stepped
      repeat' split at stepped
      · cases stepped
      · obtain rfl := Option.some.inj stepped
        exact .inl (c.abort_apart r _ reason)
      · cases stepped
  | read id =>
      obtain ⟨s, -, -, -, rfl⟩ := c.onStream_eq_some stepped
      refine .inl ((c.modify_apart _ ?_).trans (replenishRecvWindow_apart _ _ _))
      intro t out
      rw [(pullBody_keeps t).2]
      exact out
  | cancel id =>
      obtain ⟨s, -, -, -, rfl⟩ := c.onStream_eq_some stepped
      have credited := (c.modify_apart s.id (f := Stream.cancelBody) (by exact fun _ out => out)).trans
        (replenishRecvWindow_apart _ s.id s.recvBuffered)
      left
      unfold cancelBody
      simp only
      split
      · exact credited.trans (resetStream_apart _ _ _)
      · exact credited
  | upload id slice =>
      obtain ⟨s, -, -, enabled, rfl⟩ := c.onStream_eq_some stepped
      simp only [canUpload, Bool.and_eq_true, decide_eq_true_eq] at enabled
      have spent : Apart c { c with connSendWindow := c.connSendWindow - slice.length } :=
        ⟨.of_fields rfl rfl rfl rfl, rfl, rfl⟩
      refine .inl ((spent.trans (modify_apart _ s.id (by exact fun _ out => out))).trans
        (send_light _ rfl fun framed => ?_))
      exact Nat.le_trans enabled.2.2 framed.2
  | uploadEnds id =>
      obtain ⟨s, -, -, -, rfl⟩ := c.onStream_eq_some stepped
      left
      unfold uploadEnds
      split
      · exact c.modify_apart s.id (by exact fun _ out => out)
      · exact (c.modify_apart s.id (by exact fun _ out => out)).trans (send_apart _ rfl)
  | uploadFlushed id =>
      obtain ⟨s, -, -, -, rfl⟩ := c.onStream_eq_some stepped
      exact .inl ((c.modify_apart s.id (by exact fun _ out => out)).trans
        (retireIfFullyClosed_apart _ _))
  | uploadFails id cause =>
      obtain ⟨s, -, -, -, rfl⟩ := c.onStream_eq_some stepped
      have failed := c.modify_apart s.id (f := fun s => { s.fail cause with upload := .idle })
        (by exact fun _ out => out)
      left
      unfold uploadFails
      simp only
      split
      · exact failed.trans (resetStream_apart _ _ _)
      · exact failed
  | close =>
      obtain rfl := Option.some.inj stepped
      exact .inl c.close_apart
  | closeFlushed =>
      simp only [step] at stepped
      split at stepped
      · obtain rfl := Option.some.inj stepped
        exact .inl (c.destroy_apart _)
      · cases stepped
  | malformed code message streamId =>
      obtain rfl := Option.some.inj stepped
      exact .inl (c.connectionError_apart _)
  | lose cause =>
      obtain rfl := Option.some.inj stepped
      exact .inl (c.destroy_apart cause)

/-! ## What arrives -/

/-- Every stream has been given what was read. -/
def Given (c : Conn H) (read : List ReadBlock) : Prop :=
  ∀ s ∈ c.streams, Handed read s ∧ Unfailed s

/-- The inbound side of a session, of whose frames `frames` were read. -/
structure Reads (c : Conn H) (frames : List Frame) (a : Assembly BlockHead) : Prop where
  blocks : headerBlocks frames = some a
  begins : frames <+: c.received
  current : c.closed = false → frames = c.received ∧ c.Aligned a
  given : c.Given (H.readBlocks a.whole).2

structure Inbound (c : Conn H) : Prop where
  numbered : Numbered c
  down : c.Down
  reads : ∃ frames a, Reads c frames a

theorem start_inbound (H : Hpack) (w : Windows) : Inbound (Conn.start H w) where
  numbered := start_numbered H w
  down := fun shut => nomatch shut
  reads := ⟨[], {}, rfl, List.prefix_rfl, fun _ => ⟨rfl, rfl, rfl⟩, fun _ inside => nomatch inside⟩

theorem Given.drop {c c' : Conn H} {read : List ReadBlock} (given : c.Given read)
    (out : Stream → Prop) [DecidablePred out] (f : Stream → Stream) (cause : Cause)
    (streams : c'.streams = c.streams.map fun s => if out s then dropped cause (f s) else s)
    (keeps : ∀ s, face (f s) = face s) : c'.Given read := by
  intro s' inside
  rw [streams] at inside
  obtain ⟨s, member, rfl⟩ := List.mem_map.1 inside
  split
  · exact ⟨((given s member).1.of_face (keeps s)).dropped cause, fun live => nomatch live⟩
  · exact given s member

theorem Given.resetStream {c : Conn H} {read : List ReadBlock} (given : c.Given read) (id : Nat)
    (code : ErrorCode) : (c.resetStream id code).Given read := by
  cases found : c.get id with
  | none =>
      rw [c.resetStream_of_missing code found]
      intro s inside
      rw [send_streams] at inside
      exact given s inside
  | some s =>
      have streams := c.resetStream_streams code found
      rw [Keyed.update] at streams
      exact given.drop (·.id = id) Stream.discardBuffered _ streams fun _ => rfl

theorem Given.connectionError {c : Conn H} {read : List ReadBlock} (given : c.Given read)
    (cause : Cause) : (c.connectionError cause).Given read := by
  unfold Conn.connectionError
  simp only
  generalize hello : Frame.goaway _ _ _ = f
  have told : (c.send f).Given read := by
    intro s inside
    rw [send_streams] at inside
    exact given s inside
  by_cases down : (c.send f).closed = true
  · rw [destroy_of_closed _ down]
    exact told
  · exact told.drop (·.inMap = true) id cause (destroy_streams _ (by simpa using down) cause) fun _ => rfl

/-- A frame that completes a block decodes it. -/
theorem dispatch_completing {c : Conn H} {f : Frame} {pb : PendingHeaderBlock}
    (complete : c.completing f = some pb) :
    c.dispatch f = { c with pendingHeaderBlock := some pb }.completeHeaderBlock pb := by
  have stored : ∀ {pb' : PendingHeaderBlock}, completing.sized pb' = some pb →
      c.acceptHeaderBlock pb' true = { c with pendingHeaderBlock := some pb }.completeHeaderBlock pb := by
    intro pb' fits
    unfold completing.sized at fits
    split at fits
    · cases fits
    · rename_i small
      obtain rfl := Option.some.inj fits
      simp only [acceptHeaderBlock, small, if_false, if_true]
  unfold completing at complete
  split at complete
  · rename_i pending
    split at complete
    · rename_i own
      obtain rfl := own
      simp only [dispatch, pending, if_true]
      exact stored complete
    · cases complete
  · rename_i pending
    simp only [dispatch, pending]
    exact stored complete
  · rename_i pending
    simp only [dispatch, pending]
    exact stored complete
  · cases complete

/-- A promise gives a stream nothing. -/
theorem Given.push {c : Conn H} {read : List ReadBlock} (given : c.Given read) {f : Frame}
    {pb : PendingHeaderBlock} (complete : c.completing f = some pb) (kind : pb.kind = .push) :
    (c.onFrame f).Given read := by
  have still : ((c.arrive f).dispatch f).1.streams = c.streams := by
    rw [dispatch_completing (c := c.arrive f) complete, completeHeaderBlock]
    simp only
    split
    · rfl
    · rw [kind]
      exact send_streams _ _
  have told : ((c.arrive f).dispatch f).1.Given read := by
    intro s inside
    rw [still] at inside
    exact given s inside
  obtain ⟨_, done⟩ | ⟨_, _, _, _, done⟩ | ⟨_, _, _, done⟩ := c.onFrame_cases f
  · rw [done]
    exact told
  · rw [done]
    exact told.resetStream _ _
  · rw [done]
    exact told.connectionError _

/-- Every event but a block that reaches its stream. -/
theorem Given.step {c c' : Conn H} {w : Windows} {e : Event} {read : List ReadBlock}
    (given : c.Given read) (numbered : Numbered c) (stepped : c.step w e = some c')
    (blocks : ∀ f pb hpack headers s, e = .recv f → c.completing f = some pb →
      H.decode c.hpack pb.fragments.flatten = (hpack, .ok headers) → c.get pb.streamId = some s →
      Handed read (s.receiveHeaders headers pb.endStream) ∧
        Unfailed (s.receiveHeaders headers pb.endStream)) : c'.Given read := by
  refine forall_step numbered.1 stepped (fun s member s' effect => ?_) fun q => ?_
  · obtain ⟨old, stays⟩ := given s member
    exact effect.delivered old stays fun f pb hpack headers => blocks f pb hpack headers s
  · refine ⟨⟨?_, ?_, fun has => nomatch has⟩, fun _ got => nomatch got⟩
    · exact fun head is => nomatch is
    · rintro ⟨head, is⟩
      cases is

end Conn

theorem readBlocks_prefix {H : Hpack} {blocks more : List (BlockHead × Bytes)}
    (begins : blocks <+: more) : (H.readBlocks blocks).2 <+: (H.readBlocks more).2 := by
  obtain ⟨rest, rfl⟩ := begins
  induction rest using List.reverseRecOn with
  | nil => rw [List.append_nil]
  | append_singleton rest b ih =>
      rw [← List.append_assoc, H.readBlocks_snoc]
      exact ih.trans (List.prefix_append _ _)

theorem headerBlocks_snoc {frames : List Frame} {a a' : Assembly BlockHead}
    (blocks : headerBlocks frames = some a) {f : Frame}
    (taken : a.take BlockHead.streamId f.token = some a') :
    headerBlocks (frames ++ [f]) = some a' := by
  rw [headerBlocks, assemble, List.map_append, List.map_singleton, Assembly.takeAll_snoc]
  rw [headerBlocks, assemble] at blocks
  rw [blocks, Option.bind_some, taken]

namespace Conn

/-- A frame that the reading of the blocks takes. -/
theorem Reads.onFrame {c : Conn H} {frames : List Frame} {a a' : Assembly BlockHead}
    (reads : Reads c frames a) {w : Windows} (numbered : Numbered c) (up : c.closed = false)
    {f : Frame} (taken : a.take BlockHead.streamId f.token = some a') :
    Reads (c.onFrame f) (frames ++ [f]) a' := by
  obtain ⟨rfl, aligned⟩ := reads.current up
  have log : (c.onFrame f).received = c.received ++ [f] := (c.onFrame_onward f).received
  have longer := readBlocks_prefix (H := H) (Assembly.take_whole taken)
  have given : c.Given (H.readBlocks a'.whole).2 := fun s member =>
    ⟨(reads.given s member).1.more longer, (reads.given s member).2⟩
  refine ⟨headerBlocks_snoc reads.blocks taken, by rw [log], fun still => ⟨log.symm, ?_⟩, ?_⟩
  · rcases onFrame_aligned aligned f with down | ⟨b, same, after⟩
    · rw [down] at still
      cases still
    · rw [taken] at same
      obtain rfl := Option.some.inj same
      exact after
  · by_cases promise : ∃ pb, c.completing f = some pb ∧ pb.kind = .push
    · obtain ⟨pb, complete, kind⟩ := promise
      exact given.push complete kind
    · refine given.step (w := w) (e := .recv f) numbered rfl fun g pb hpack headers s is complete decoded found => ?_
      cases is
      obtain ⟨-, own, live⟩ := c.get_eq_some found
      have kind : pb.kind = .response := by
        cases kind : pb.kind with
        | response => rfl
        | push => exact absurd ⟨pb, complete, kind⟩ promise
      have same := completing_take aligned complete
      rw [taken] at same
      obtain rfl := Option.some.inj same
      have read : (H.readBlocks (a.whole ++ [pb.message])).2 =
          (H.readBlocks a.whole).2 ++ [(pb.message.1, .ok headers)] := by
        have result : (H.decode (H.readBlocks a.whole).1 pb.message.2).2 = .ok headers := by
          rw [← aligned.2]
          exact congrArg Prod.snd decoded
        rw [H.readBlocks_snoc, Hpack.readBlock, result]
      change Handed (H.readBlocks (a.whole ++ [pb.message])).2 _ ∧ _
      rw [read]
      exact (reads.given s (c.get_eq_some found).1).1.receiveHeaders
        (reads.given s (c.get_eq_some found).1).2 live (b := pb.message.1) own.symm kind headers

theorem received_of_local {c c' : Conn H} {w : Windows} {e : Event} (numbered : Numbered c)
    (stepped : c.step w e = some c') (here : ∀ f, e ≠ .recv f) : c'.received = c.received := by
  have unlogged : c.logged e = c := by
    cases e with
    | recv f => exact absurd rfl (here f)
    | _ => rfl
  rcases step_streams numbered.1 stepped with ⟨-, onward⟩ | ⟨-, -, q, -, -, received⟩
  · rw [onward.received, unlogged]
  · exact received

/-- One frame, on a connection that is up or down. -/
theorem Inbound.onFrame {c : Conn H} {w : Windows} (inbound : Inbound c) (f : Frame) :
    Inbound (c.onFrame f) := by
  obtain ⟨numbered, down, frames, a, reads⟩ := inbound
  have stepped : c.step w (.recv f) = some (c.onFrame f) := rfl
  have begins : frames <+: (c.onFrame f).received := by
    rw [(c.onFrame_onward f).received]
    exact reads.begins.trans (List.prefix_append _ _)
  refine ⟨step_numbered numbered stepped, (c.onFrame_outward f).down down, ?_⟩
  cases up : c.closed with
  | true =>
      have still := (c.onFrame_onward f).closed up
      refine ⟨frames, a, reads.blocks, begins, fun open_ => ?_, ?_⟩
      · rw [still] at open_
        cases open_
      · refine reads.given.step numbered stepped fun g pb hpack headers s _ _ _ found => ?_
        obtain ⟨member, -, live⟩ := c.get_eq_some found
        rw [down up s member] at live
        cases live
  | false =>
      cases taken : a.take BlockHead.streamId f.token with
      | some a' => exact ⟨_, a', reads.onFrame (w := w) numbered up taken⟩
      | none =>
          obtain ⟨rfl, aligned⟩ := reads.current up
          refine ⟨c.received, a, reads.blocks, begins, fun open_ => ?_, ?_⟩
          · rcases onFrame_aligned aligned f with shut | ⟨a', same, -⟩
            · rw [shut] at open_
              cases open_
            · rw [taken] at same
              cases same
          · refine reads.given.step numbered stepped fun g pb hpack headers s is complete _ _ => ?_
            cases is
            rw [completing_take aligned complete] at taken
            cases taken

/-! ## A stream is opened -/

theorem foldl_send {c : Conn H} (up : c.closed = false) (frames : List Frame) :
    frames.foldl send c = { c with sent := c.sent ++ frames } := by
  induction frames generalizing c with
  | nil => rw [List.foldl_nil, List.append_nil]
  | cons f frames ih =>
      have one : c.send f = { c with sent := c.sent ++ [f] } := by
        rw [send, if_neg (by simp [up])]
      rw [List.foldl_cons, one]
      refine (ih (c := { c with sent := c.sent ++ [f] }) up).trans ?_
      simp only [List.append_assoc, List.singleton_append]

/-- The frames of a header block. -/
def headerFrames (size id : Nat) (block : Bytes) (endStream : Bool) : List Frame :=
  if block.length ≤ size then [.headers id block endStream true]
  else
    .headers id (block.take size) endStream false ::
      continuations id size block.length (block.drop size)

theorem sendHeaders_eq {c : Conn H} (up : c.closed = false) (id : Nat) (block : Bytes)
    (endStream : Bool) : c.sendHeaders id block endStream =
      { c with sent := c.sent ++ headerFrames c.remote.maxFrameSize id block endStream } := by
  unfold sendHeaders headerFrames
  simp only
  split
  · exact foldl_send up [_]
  · exact foldl_send up (_ :: _)

theorem continuations_tokens (id size fuel : Nat) (rest : Bytes) :
    (continuations id size fuel rest).map Frame.token = pieces id size fuel rest := by
  induction fuel generalizing rest with
  | zero => rfl
  | succ fuel ih =>
      cases rest with
      | nil => rfl
      | cons byte rest => exact congrArg (_ :: ·) (ih _)

/-- However small the frames, a block is read as one. -/
theorem takeAll_headerFrames {a : Assembly BlockHead} (idle : a.begun = none) {size : Nat}
    (positive : 0 < size) (id : Nat) (block : Bytes) (endStream : Bool) :
    a.takeAll BlockHead.streamId ((headerFrames size id block endStream).map Frame.token) =
      some { whole := a.whole ++ [({ streamId := id, kind := .response, endStream }, block)] } := by
  obtain ⟨whole, begun⟩ := a
  obtain rfl : begun = none := idle
  unfold headerFrames
  split
  · rfl
  · rename_i long
    have left : block.drop size ≠ [] := by
      rw [ne_eq, List.drop_eq_nil_iff]
      exact long
    rw [List.map_cons, continuations_tokens]
    have joined := @takeAll_pieces _ _ _ BlockHead.streamId
      { streamId := id, kind := .response, endStream } (block.take size) _ positive block.length _
      (by rw [List.length_drop]; exact Nat.sub_le _ _) left whole
    rw [List.take_append_drop] at joined
    exact joined

/-- A request opens its stream: one more stream, one more block, and nothing read. -/
theorem openStream_fields {c : Conn H} (up : c.closed = false) (w : Windows) (r : Nat) (q : Request) :
    (c.openStream w r q).pendingHeaderBlock = c.pendingHeaderBlock ∧
      (c.openStream w r q).hpack = c.hpack ∧
      (c.openStream w r q).remote = c.remote ∧
      (c.openStream w r q).sent =
        c.sent ++ headerFrames c.remote.maxFrameSize c.nextStreamId q.block (!q.hasBody) ∧
      (c.openStream w r q).requests =
        c.requests.modify r fun q => { q with phase := .opened c.nextStreamId } := by
  have up' : (c.withStream w q).closed = false := up
  rw [openStream_eq, sendHeaders_eq up']
  exact ⟨rfl, rfl, rfl, rfl, rfl⟩

/-- **One event.** -/
theorem step_inbound {c c' : Conn H} {w : Windows} {e : Event} (inbound : Inbound c)
    (stepped : c.step w e = some c') : Inbound c' := by
  by_cases heard : ∃ f, e = .recv f
  · obtain ⟨f, rfl⟩ := heard
    obtain rfl := Option.some.inj stepped
    exact inbound.onFrame (w := w) f
  have here : ∀ f, e ≠ .recv f := fun f is => heard ⟨f, is⟩
  obtain ⟨numbered, down, frames, a, reads⟩ := inbound
  have received := received_of_local numbered stepped here
  have given := reads.given.step numbered stepped fun f _ _ _ _ is => absurd is (here f)
  have numbered' := step_numbered numbered stepped
  rcases step_apart stepped with apart | ⟨f, is, -⟩ | ⟨r, q, -, -, up, rfl⟩
  · refine ⟨numbered', apart.down down, frames, a, reads.blocks, received ▸ reads.begins,
      fun up' => ?_, given⟩
    have up : c.closed = false := by
      cases up : c.closed with
      | false => rfl
      | true =>
          rw [step_closed numbered up stepped] at up'
          cases up'
    obtain ⟨same, aligned⟩ := reads.current up
    exact ⟨same.trans received.symm, aligned.apart apart⟩
  · exact absurd is (here f)
  · obtain ⟨pending, hpack, -⟩ := openStream_fields up w r q
    obtain ⟨same, aligned⟩ := reads.current up
    refine ⟨numbered', fun shut => ?_, frames, a, reads.blocks, received ▸ reads.begins, fun _ => ?_,
      given⟩
    · rw [openStream_closed, up] at shut
      cases shut
    · refine ⟨same.trans received.symm, ?_⟩
      rw [Aligned, pending, hpack]
      exact aligned

theorem inbound_of_reaches {w : Windows} {c : Conn H}
    (reached : (sessionMachine H w).Reaches Machine.always c) : Inbound c :=
  Machine.Steps.invariant Inbound (fun _ _ _ inbound _ stepped => step_inbound inbound stepped) reached
    (start_inbound H w)

/-- **Header blocks in.**  In every run the blocks of the inbound frames are decoded one after
the other, each once and none skipped, while the connection is up.  The head a stream
resolves with is a list that was sent on that stream, and its trailers are a later one. -/
theorem heads_of_reaches {w : Windows} {c : Conn H}
    (reached : (sessionMachine H w).Reaches Machine.always c) :
    ∃ frames a, frames <+: c.received ∧ headerBlocks frames = some a ∧
      (c.closed = false → frames = c.received ∧ c.hpack = (H.readBlocks a.whole).1) ∧
      ∀ s ∈ c.streams, Handed (H.readBlocks a.whole).2 s := by
  obtain ⟨-, -, frames, a, reads⟩ := inbound_of_reaches reached
  exact ⟨frames, a, reads.begins, reads.blocks,
    fun up => ⟨(reads.current up).1, (reads.current up).2.2⟩, fun s member => (reads.given s member).1⟩

end Conn

/-- A request whose response ends with trailers; the response is cut in two. -/
def trailedAnswer : List Event :=
  [.request [0x88] false, .ready 0, .recv (.headers 1 [] false false),
    .recv (.continuation 1 [0x88] true), .recv (.headers 1 [0x88] true true)]

def afterTrailers : Conn statusOnly :=
  ((sessionMachine statusOnly smallWindows).run Machine.always
    (sessionMachine statusOnly smallWindows).init trailedAnswer).get rfl

theorem afterTrailers_reached :
    (sessionMachine statusOnly smallWindows).Reaches Machine.always afterTrailers :=
  Machine.steps_of_run trailedAnswer rfl

theorem heads_of_reaches_trailers :
    afterTrailers.streams.map (fun s => s.trailers.isSome) = [true] ∧
    ∃ frames a, frames <+: afterTrailers.received ∧ headerBlocks frames = some a ∧
      (afterTrailers.closed = false → frames = afterTrailers.received ∧
        afterTrailers.hpack = (statusOnly.readBlocks a.whole).1) ∧
      ∀ s ∈ afterTrailers.streams, Conn.Handed (statusOnly.readBlocks a.whole).2 s :=
  ⟨rfl, Conn.heads_of_reaches afterTrailers_reached⟩

end GrpcBridge.H2
