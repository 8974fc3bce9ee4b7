/-
# H2.ReceiveCredit -- no receive credit is lost or invented

The connection's receive window and every unread byte add up to the configured
window, a live stream's window and its unread bytes add up to the initial stream
window, and both windows are what the peer can compute from the frames alone.  Every
event of the session keeps the accounts of `H2.Ledger` (`step_kept`) unless it tears
the connection down; `conserved_of_reaches` is the statement over runs.
-/
import GrpcBridge.H2.Ledger
import GrpcBridge.H2.Steps
import Mathlib.Algebra.BigOperators.Ring.Finset

namespace GrpcBridge.H2

open GrpcBridge.Theory

set_option autoImplicit false

variable {H : Hpack}

namespace Conn

section Operations

variable {w : Windows} {c c' : Conn H}

/-! ## Resets and DATA -/

/-- A stream is changed without touching its account and then reset. -/
theorem Credit.reset_of_modify (credit : Credit w c) (opened : c.closed = false) {s : Stream}
    (found : c.get s.id = some s) {f : Stream → Stream}
    (keeps : ∀ s, (f s).id = s.id ∧ (f s).inMap = s.inMap)
    (recvWindow : (f s).recvWindow = s.recvWindow)
    (recvBuffered : (f s).recvBuffered = s.recvBuffered) (code : ErrorCode) :
    Credit w ((c.modify s.id f).resetStream s.id code) := by
  have member := (c.get_eq_some found).1
  have sound := credit.sound s member
  have changed := c.get_modify found keeps
  have streams := c.modify_resetStream_streams found keeps code
  have ledger := (Ledger.modify c s.id f s.id).trans
    ((c.modify s.id f).resetStream_ledger opened code changed (recvBuffered ▸ sound.buffered))
  rw [Int.zero_add, Int.zero_add] at ledger
  refine credit.exchange member streams (fun s => (keeps s).1) ledger ?_ ?_ ?_
  · simp [dropped, Stream.fail, Stream.discardBuffered, recvBuffered]
  · have := credit.available
    have := sound.buffered
    omega
  · exact sound.emptied ledger.nextStreamId (keeps s).1 recvWindow rfl rfl rfl

theorem Credit.resetStream (credit : Credit w c) (opened : c.closed = false) (id : Nat)
    (code : ErrorCode) : Credit w (c.resetStream id code) := by
  cases found : c.get id with
  | none =>
      rw [c.resetStream_of_missing code found]
      exact credit.same (c.send_streams _) (.send c (fun _ => rfl) 0)
  | some s =>
      obtain ⟨member, rfl, _⟩ := c.get_eq_some found
      have reset := credit.reset_of_modify opened found (f := id) (fun _ => ⟨rfl, rfl⟩) rfl rfl code
      rwa [c.modify_id] at reset

theorem acceptData_ledger (opened : c.closed = false) {f : DataFrame} {s : Stream}
    (distinct : (c.streams.map Stream.id).Nodup) (found : c.get f.streamId = some s)
    (started : s.remoteClosed = false) (proper : f.streamId ≠ 0) :
    Ledger c ((c.arrive (.data f)).acceptData f)
      (-f.flowControlledLength + f.padding) f.streamId (-f.flowControlledLength + f.padding) := by
  let received := (c.arrive (.data f)).charge f
  let charged := received.modify f.streamId fun s =>
    { s with recvWindow := s.recvWindow - f.flowControlledLength }
  have arrived : Ledger c received (-f.flowControlledLength) f.streamId (-f.flowControlledLength) :=
    charge_ledger rfl rfl rfl rfl rfl
  have charge := arrived.then (.modify received f.streamId
    (fun s => { s with recvWindow := s.recvWindow - f.flowControlledLength }) f.streamId)
  obtain ⟨member, same, inMap⟩ := charged.get_eq_some (received.get_modify found fun _ => ⟨rfl, rfl⟩)
  have returned := charged.replenishRecv_ledger opened (n := f.padding) (Int.natCast_nonneg _)
    (received.modify_distinct distinct f.streamId fun _ => rfl) member (same ▸ proper)
  rw [if_pos (by simp [(c.get_eq_some found).2.2, started]), same] at returned
  exact ((charge.trans returned).then (.modify _ _ _ _)).then (peerEnds_ledger _ _ _ _)

theorem Credit.acceptData (credit : Credit w c) (opened : c.closed = false) {f : DataFrame}
    {s : Stream} (found : c.get f.streamId = some s) (started : s.remoteClosed = false)
    (room : ¬ c.connRecvAvailable < (f.flowControlledLength : Int))
    (fits : ¬ s.recvWindow < (f.flowControlledLength : Int)) :
    Credit w ((c.arrive (.data f)).acceptData f) := by
  obtain ⟨member, same, inMap⟩ := c.get_eq_some found
  have sound := credit.sound s member
  obtain ⟨whole, recvEnded, recvError, bodyDone⟩ := sound.live inMap started
  have length : (f.flowControlledLength : Int) = f.data.length + f.padding := by
    simp [DataFrame.flowControlledLength]
  have ledger := acceptData_ledger opened credit.distinct found started (same ▸ sound.proper)
  let received := c.arrive (.data f)
  have streams := received.acceptData_streams credit.distinct found
  rw [received.granting_of_opened opened (Int.natCast_nonneg _), ← same] at streams
  rw [← same] at ledger
  refine credit.exchange member streams (accepted_id f _) ledger ?_ ?_ ?_
  · rw [accepted_eq f _ inMap started bodyDone]
    simp only
    omega
  · omega
  · have told := sound.told inMap
    have unread := sound.unread
    rw [accepted_eq f _ inMap started bodyDone]
    refine ⟨sound.odd, ledger.nextStreamId.symm ▸ sound.old, ?_, ?_, ?_, ?_, ?_⟩
    · have chunk : (if f.data = [] then [] else [f.data]).flatten = f.data := by
        split <;> simp_all
      simp only [List.flatten_append, List.length_append, chunk]
      omega
    · simp only
      omega
    · simp only
      omega
    · intro _
      have := ledger.stream sound.proper
      simp only
      omega
    · intro _ still
      refine ⟨?_, by simpa [recvEnded] using still, recvError, bodyDone⟩
      simp only
      omega

/-- The connection's credit for a DATA frame that is not delivered is returned at once. -/
theorem bounce_ledger (opened : c.closed = false) (f : DataFrame) :
    Ledger c ((c.arrive (.data f)).bounce f) 0 f.streamId (-f.flowControlledLength) := by
  let received := (c.arrive (.data f)).charge f
  have arrived : Ledger c received (-f.flowControlledLength) f.streamId (-f.flowControlledLength) :=
    charge_ledger rfl rfl rfl rfl rfl
  have both := arrived.trans
    (received.replenishConnection_ledger opened (Int.natCast_nonneg f.flowControlledLength)
      f.streamId)
  rwa [Int.add_left_neg, Int.add_zero] at both

/-- DATA that its stream may not take resets the stream. -/
theorem Credit.refuseData (credit : Credit w c) (opened : c.closed = false) {f : DataFrame}
    {s : Stream} (found : c.get f.streamId = some s) (code : ErrorCode) :
    Credit w (((c.arrive (.data f)).bounce f).resetStream f.streamId code) := by
  obtain ⟨member, same, _⟩ := c.get_eq_some found
  have sound := credit.sound s member
  have returned := bounce_ledger opened f
  have kept : ((c.arrive (.data f)).bounce f).streams = c.streams :=
    replenishConnectionWindow_streams _ _
  have still := (c.get_congr kept f.streamId).trans found
  have ledger := returned.trans
    (resetStream_ledger _ (returned.closed.trans opened) code still sound.buffered)
  have streams := resetStream_streams _ code still
  rw [Int.zero_add] at ledger
  rw [kept] at streams
  rw [← same] at ledger streams ⊢
  refine credit.exchange member streams (fun _ => rfl) ledger ?_ ?_ ?_
  · simp [dropped, Stream.fail, Stream.discardBuffered]
  · have := credit.available
    have := sound.buffered
    omega
  · exact sound.emptied ledger.nextStreamId rfl rfl rfl rfl rfl

/-- DATA on a stream that has left the map, or that never was on this side. -/
theorem Credit.strayData (credit : Credit w c) {f : DataFrame}
    (missing : c.get f.streamId = none) {highestPromised : Nat}
    (known : isIdleInboundStream f.streamId c.nextStreamId highestPromised = false)
    (streams : c'.streams = c.streams)
    (ledger : Ledger c c' 0 f.streamId (-f.flowControlledLength)) : Credit w c' := by
  have odd : f.streamId % 2 = 1 → f.streamId < c.nextStreamId := by
    intro odd
    have proper : f.streamId ≠ 0 := by omega
    simpa [isIdleInboundStream, proper, odd] using known
  refine credit.inert (g := id) (by rw [streams, List.map_id]) (fun s _ => .refl s)
    (by rw [ledger.available, Int.add_zero]) ledger.nextStreamId
    (by rw [ledger.connection, Int.add_zero]) ?_ ?_
  · intro s member inMap
    apply ledger.others s.id (credit.sound s member).proper
    intro same
    rw [c.get_eq_none missing s member same] at inMap
    cases inMap
  · intro id later parity
    apply ledger.others id (by omega)
    rintro rfl
    have := odd parity
    omega

/-! ## Inbound frames -/

/-- The invariant of a connection that may be down. -/
def Kept (w : Windows) (c : Conn H) : Prop := c.closed = true ∨ Credit w c

theorem receiveDataFrame_kept (credit : Credit w c) (opened : c.closed = false) (f : DataFrame) :
    tearsDown ((c.arrive (.data f)).receiveDataFrame f).2 = true ∨
      Kept w ((c.arrive (.data f)).receiveDataFrame f).1 := by
  rw [receiveDataFrame_eq]
  split
  · exact .inl rfl
  · rename_i room
    have looked : (c.arrive (.data f)).get f.streamId = c.get f.streamId := rfl
    cases found : c.get f.streamId with
    | some s =>
        rw [looked, found]
        right
        simp only
        split
        · exact .inr (credit.refuseData opened found _)
        split
        · exact .inr (credit.refuseData opened found _)
        · rename_i started fits
          exact .inr (credit.acceptData opened found (by simpa using started) room fits)
    | none =>
        rw [looked, found]
        simp only
        split
        · exact .inl rfl
        · rename_i known
          have ledger := bounce_ledger opened f
          rw [ledger.nextStreamId] at known
          have streams : (((c.arrive (.data f)).bounce f).send
              (.rstStream f.streamId (errorCodeValue .streamClosed))).streams = c.streams := by
            rw [send_streams]
            exact replenishConnectionWindow_streams _ _
          exact .inr (.inr (credit.strayData found (by simpa using known) streams
            (ledger.then (.send _ (fun _ => rfl) _))))

theorem Credit.receiveRstStream (credit : Credit w c) (opened : c.closed = false)
    (id errorCode : Nat) : Credit w (c.receiveRstStream id errorCode) := by
  cases found : c.get id with
  | none =>
      rw [Conn.receiveRstStream, found]
      exact credit
  | some s =>
      have streams := c.receiveRstStream_streams errorCode found
      obtain ⟨member, rfl, _⟩ := c.get_eq_some found
      have sound := credit.sound s member
      have ledger : Ledger c (c.receiveRstStream s.id errorCode) s.recvBuffered s.id 0 := by
        rw [Conn.receiveRstStream, found]
        exact (((c.discard_ledger opened sound.buffered s.id).then (.modify _ _ _ _)).then
          (.modify _ _ _ _)).then (.wake _ _)
      refine credit.exchange member streams (fun _ => rfl) ledger ?_ ?_ ?_
      · simp [Stream.receiveReset, Stream.fail, Stream.discardBuffered]
      · have := credit.available
        have := sound.buffered
        omega
      · exact sound.emptied ledger.nextStreamId rfl rfl rfl rfl rfl

theorem halfClosed_inert (s : Stream) (headers : List Header) (endStream : Bool) :
    Inert s (halfClosed endStream (s.receiveHeaders headers endStream)) := by
  rw [receiveHeaders_eq]
  cases endStream with
  | false =>
      simp only [halfClosed, Bool.or_false, Bool.false_eq_true, if_false]
      repeat' split
      all_goals exact ⟨rfl, rfl, rfl, rfl, fun h => h, fun _ h => ⟨h, rfl, rfl, rfl⟩⟩
  | true =>
      simp only [halfClosed, Bool.or_true, if_true, retired]
      repeat' split
      all_goals constructor <;> simp_all

theorem Credit.completeHeaderBlock (credit : Credit w c) (pb : PendingHeaderBlock) :
    Credit w (c.completeHeaderBlock pb).1 := by
  have moved : ∀ hpack, Credit w (c.decoded hpack) :=
    fun hpack => credit.of_fields rfl rfl rfl rfl rfl rfl
  obtain ⟨hpack, ⟨_, _, _, done⟩ | done | ⟨headers, _, _, _, done⟩ | done⟩ :=
    c.completeHeaderBlock_cases pb
  · rw [done]
    exact moved hpack
  · let promised : Conn H :=
      { c.decoded hpack with highestPromised := max c.highestPromised pb.promisedStreamId }
    have noted : Ledger (c.decoded hpack) promised 0 0 0 := .of_fields rfl rfl rfl rfl rfl
    rw [done]
    exact (moved hpack).same (send_streams promised _) (noted.then (.send _ (fun _ => rfl) 0))
  · rw [done]
    refine (moved hpack).inert_of_ledger (g := fun s => if s.id = pb.streamId then
      halfClosed pb.endStream (s.receiveHeaders headers pb.endStream) else s) ?_ ?_ ?_
    · rw [peerEnds_streams, modify_streams, Keyed.update_update]
      · rfl
      · intro s
        simp
      · exact modify_distinct _ credit.distinct _ fun s => by simp
    · intro s _
      split
      · exact halfClosed_inert s headers pb.endStream
      · exact .refl s
    · exact (Ledger.modify (c.decoded hpack) _ _ 0).then (peerEnds_ledger _ _ _ _)
  · rw [done]
    exact moved hpack

theorem acceptHeaderBlock_kept (credit : Credit w c) (pb : PendingHeaderBlock)
    (endHeaders : Bool) : tearsDown (c.acceptHeaderBlock pb endHeaders).2 = true ∨
      Credit w (c.acceptHeaderBlock pb endHeaders).1 := by
  have moved : Credit w { c with pendingHeaderBlock := some pb } :=
    credit.of_fields rfl rfl rfl rfl rfl rfl
  unfold acceptHeaderBlock
  simp only
  split
  · exact .inl rfl
  split
  · exact .inr (moved.completeHeaderBlock pb)
  · exact .inr moved

theorem applyRemoteSettings_ledger (settings : Settings) :
    Ledger c (c.applyRemoteSettings settings).1 0 0 0 := by
  have rest : ∀ c : Conn H, Ledger c (applyRemoteSettings.applyRest c settings).1 0 0 0 := by
    intro c
    unfold applyRemoteSettings.applyRest
    simp only
    split
    · rename_i limit _
      let limited : Conn H :=
        { c with
          remote :=
            { c.remote with
              headerTableSize := settings.headerTableSize.getD c.remote.headerTableSize
              enablePush := settings.enablePush.getD c.remote.enablePush
              maxConcurrentStreams := some limit } }
      have quiet : Ledger c limited 0 0 0 := .of_fields rfl rfl rfl rfl rfl
      exact quiet.then (.wake _ _)
    · exact .of_fields rfl rfl rfl rfl rfl
  have limits : ∀ c : Conn H, Ledger c (applyRemoteSettings.applyLimits c settings).1 0 0 0 := by
    intro c
    unfold applyRemoteSettings.applyLimits
    split
    · split
      · exact .of_fields rfl rfl rfl rfl rfl
      · rename_i size _ _
        let sized : Conn H := { c with remote := { c.remote with maxFrameSize := size } }
        have quiet : Ledger c sized 0 0 0 := .of_fields rfl rfl rfl rfl rfl
        exact quiet.then (rest sized)
    · exact rest c
  unfold applyRemoteSettings
  split
  · split
    · exact .of_fields rfl rfl rfl rfl rfl
    · rename_i size _ _
      let sized : Conn H :=
        { c with
          remote := { c.remote with initialWindowSize := size }
          streams := c.streams.map fun s =>
            if s.inMap then
              { s with sendWindow := s.sendWindow + ((size : Int) - c.remote.initialWindowSize) }
            else s }
      have quiet : Ledger c sized 0 0 0 := .of_fields rfl rfl rfl rfl rfl
      exact quiet.then (limits sized)
  · exact limits c

theorem Credit.applyRemoteSettings (credit : Credit w c) (settings : Settings) :
    Credit w (c.applyRemoteSettings settings).1 := by
  obtain ⟨delta, streams⟩ := c.applyRemoteSettings_streams settings
  refine credit.inert_of_ledger streams ?_ (applyRemoteSettings_ledger settings)
  intro s _
  unfold adjusted
  split <;> exact ⟨rfl, rfl, rfl, rfl, fun h => h, fun _ h => ⟨h, rfl, rfl, rfl⟩⟩

theorem receiveWindowUpdate_kept (credit : Credit w c) (opened : c.closed = false)
    (id increment : Nat) : tearsDown (c.receiveWindowUpdate id increment).2 = true ∨
      Credit w (c.receiveWindowUpdate id increment).1 := by
  unfold receiveWindowUpdate
  split
  · split
    · exact .inl rfl
    · exact .inr (credit.resetStream opened id _)
  right
  split
  · exact credit.of_fields rfl rfl rfl rfl rfl rfl
  split
  · refine credit.inert_of_ledger rfl ?_ (.modify c id _ 0)
    intro s _
    split <;> exact ⟨rfl, rfl, rfl, rfl, fun h => h, fun _ h => ⟨h, rfl, rfl, rfl⟩⟩
  · exact credit

theorem dropped_inert (cause : Cause) (s : Stream) : Inert s (dropped cause s) := by
  constructor <;> simp [dropped, Stream.fail]

theorem receiveGoaway_kept (credit : Credit w c) (lastStreamId errorCode : Nat) :
    Kept w (c.receiveGoaway lastStreamId errorCode) := by
  rw [receiveGoaway_eq]
  simp only
  split
  · exact .inl (destroy_closed _ _)
  right
  let going : Conn H :=
    { c with
      goawayReceived := true
      streams := c.streams.map (excluded ((errorCodeName errorCode).getD .noError) lastStreamId) }
  have quiet : Ledger c going 0 0 0 := .of_fields rfl rfl rfl rfl rfl
  refine credit.inert_of_ledger (exclude_streams _ _ _) ?_ (quiet.then (.wake _ _))
  intro s _
  unfold excluded
  split
  · exact dropped_inert _ s
  · exact .refl s

/-- Every frame but DATA, which is charged. -/
theorem dispatch_kept (credit : Credit w c) (opened : c.closed = false) {f : Frame}
    (plain : ∀ d, f ≠ .data d) :
    tearsDown (c.dispatch f).2 = true ∨ Kept w (c.dispatch f).1 := by
  unfold dispatch
  split
  · split
    · exact (acceptHeaderBlock_kept credit _ _).imp_right .inr
    · exact .inl rfl
  · exact .inl rfl
  · exact .inl rfl
  · exact .inr (.inr credit)
  · have applied := credit.applyRemoteSettings ‹Settings›
    rcases outcome : c.applyRemoteSettings ‹Settings› with ⟨c', _ | cause⟩
    · rw [outcome] at applied
      simp only [outcome]
      exact .inr (.inr (applied.same (send_streams _ _) (.send _ (fun _ => rfl) 0)))
    · have torn := (c.applyRemoteSettings_tearsDown ‹Settings› cause (by rw [outcome])).1
      simp only [outcome]
      exact .inl torn
  · exact (acceptHeaderBlock_kept credit _ _).imp_right .inr
  · exact (acceptHeaderBlock_kept credit _ _).imp_right .inr
  · exact absurd rfl (plain _)
  · exact .inr (.inr (credit.receiveRstStream opened _ _))
  · exact (receiveWindowUpdate_kept credit opened _ _).imp_right .inr
  · split
    · exact .inr (.inr credit)
    · exact .inr (.inr (credit.same (send_streams _ _) (.send _ (fun _ => rfl) 0)))
  · exact .inr (receiveGoaway_kept credit _ _)
  · exact .inr (.inr credit)

theorem Kept.resetStream (kept : Kept w c) (id : Nat) (code : ErrorCode) :
    Kept w (c.resetStream id code) := by
  by_cases down : c.closed = true
  · exact .inl ((c.resetStream_onward id code).closed down)
  · exact .inr ((kept.resolve_left down).resetStream (by simpa using down) id code)

theorem Credit.arrive (credit : Credit w c) {f : Frame} (plain : ∀ d, f ≠ .data d) :
    Credit w (c.arrive f) := by
  have free : ∀ id, f.spends id = 0 := by
    intro id
    cases f with
    | data d => exact absurd rfl (plain d)
    | _ => rfl
  have same : ∀ id, (c.arrive f).balance id = c.balance id := by
    intro id
    have charged : (c.arrive f).balance id = c.balance id - f.spends id :=
      balance_of_receive rfl rfl
    rw [charged, free, Int.sub_zero]
  exact credit.inert (g := id) (List.map_id _).symm (fun s _ => .refl s) rfl rfl (same 0)
    (fun s _ _ => same s.id) fun id _ _ => same id

theorem onFrame_kept (credit : Credit w c) (opened : c.closed = false) (f : Frame) :
    Kept w (c.onFrame f) := by
  have settled : tearsDown ((c.arrive f).dispatch f).2 = true ∨
      Kept w ((c.arrive f).dispatch f).1 := by
    by_cases isData : ∃ d, f = .data d
    · obtain ⟨d, rfl⟩ := isData
      cases pending : c.pendingHeaderBlock with
      | none =>
          have plain : (c.arrive (.data d)).dispatch (.data d) =
              (c.arrive (.data d)).receiveDataFrame d := by
            simp only [dispatch, arrive, pending]
          rw [plain]
          exact receiveDataFrame_kept credit opened d
      | some pb =>
          left
          simp [dispatch, arrive, pending, tearsDown, protocolError]
    · have plain : ∀ d, f ≠ .data d := fun d same => isData ⟨d, same⟩
      exact dispatch_kept (credit.arrive plain) opened plain
  obtain ⟨nothing, done⟩ | ⟨error, id, thrown, ofStream, done⟩ | ⟨cause, _, _, done⟩ :=
    c.onFrame_cases f
  · rw [done]
    exact settled.resolve_left (by simp [nothing, tearsDown])
  · rw [done]
    exact (settled.resolve_left (by simp [thrown, tearsDown, ofStream])).resetStream id error.code
  · rw [done]
    exact .inl (connectionError_closed _ _)

/-! ## Requests and bodies -/

theorem continuations_silent (id maxFrameSize fuel : Nat) (rest : Bytes) :
    ∀ f ∈ continuations id maxFrameSize fuel rest, Silent f := by
  induction fuel generalizing rest with
  | zero => simp [continuations]
  | succ fuel ih =>
      cases rest with
      | nil => simp [continuations]
      | cons b rest =>
          rw [continuations]
          intro f member
          rcases List.mem_cons.1 member with rfl | later
          · intro _
            rfl
          · exact ih _ f later
          · simp

theorem sendHeaders_ledger (c : Conn H) (id : Nat) (block : Bytes) (endStream : Bool) (k : Nat) :
    Ledger c (c.sendHeaders id block endStream) 0 k 0 := by
  refine .of_same (c.sendHeaders_same id block endStream) ?_ k
  intro id
  unfold sendHeaders
  simp only
  split
  · exact c.send_silent (fun _ => rfl) id
  · rw [foldl_send_balance _ (continuations_silent _ _ _ _), c.send_silent fun _ => rfl]

theorem Credit.openStream (credit : Credit w c) (r : Nat) (q : Request) :
    Credit w (c.openStream w r q) := by
  have ledger := sendHeaders_ledger (c.withStream w q) c.nextStreamId q.block (!q.hasBody) 0
  have same : ∀ id, (c.openStream w r q).balance id = c.balance id := by
    intro id
    rcases Nat.eq_zero_or_pos id with rfl | positive
    · exact ledger.connection.trans (Int.add_zero _)
    · exact ledger.others id (by omega) (by omega)
  have next : (c.openStream w r q).nextStreamId = c.nextStreamId + 2 := ledger.nextStreamId
  have available : (c.openStream w r q).connRecvAvailable = c.connRecvAvailable :=
    ledger.available.trans (Int.add_zero _)
  have parity := credit.parity
  have unused := credit.fresh c.nextStreamId (Nat.le_refl _) parity
  refine ⟨?_, by omega, ?_, ?_, available ▸ credit.available, ?_, ?_⟩
  · rw [openStream_streams, List.map_append, List.map_cons, List.map_nil]
    refine List.nodup_append.2 ⟨credit.distinct, List.nodup_singleton _, ?_⟩
    intro id inside other isNew same
    obtain ⟨s, member, rfl⟩ := List.mem_map.1 inside
    have old := (credit.sound s member).old
    have new : other = c.nextStreamId := by simpa [newStream] using isNew
    omega
  · have total := credit.total
    rw [buffered] at total ⊢
    rw [openStream_streams, available]
    simpa [newStream] using total
  · rw [available, same]
    exact credit.told
  · intro id later odd
    rw [same]
    exact credit.fresh id (by omega) odd
  · intro s member
    rw [openStream_streams] at member
    rcases List.mem_append.1 member with old | new
    · have sound := credit.sound s old
      refine ⟨sound.odd, by have := sound.old; omega, sound.unread, sound.window, sound.bound, ?_,
        sound.live⟩
      rw [same]
      exact sound.told
    · obtain rfl : s = c.newStream w q := by simpa using new
      refine ⟨parity, by simp [newStream, next], rfl, ?_, ?_, ?_, ?_⟩
      · exact Int.natCast_nonneg _
      · simp [newStream]
      · intro _
        rw [same]
        simp [newStream, unused]
      · simp [newStream]

theorem Credit.admitRequest (credit : Credit w c) (r : Nat) (q : Request) :
    Credit w (c.admitRequest w r q) := by
  obtain ⟨cause, _, done⟩ | ⟨_, _, _, done⟩ | ⟨_, _, _, done⟩ := c.admitRequest_cases w r q
  · rw [done]
    exact credit.of_fields rfl rfl rfl rfl rfl rfl
  · rw [done]
    exact credit.openStream r q
  · rw [done]
    exact credit.of_fields rfl rfl rfl rfl rfl rfl

theorem Credit.abort (credit : Credit w c) (opened : c.closed = false) (r : Nat) (q : Request)
    (reason : Cause) : Credit w (c.abort r q reason) := by
  let marked : Conn H :=
    { c with requests := c.requests.modify r fun q => { q with aborted := some reason } }
  have moved : Credit w marked := credit.of_fields rfl rfl rfl rfl rfl rfl
  unfold Conn.abort
  simp only
  split
  · exact moved.of_fields rfl rfl rfl rfl rfl rfl
  · rename_i id _
    unfold abortStream
    split
    · rename_i known
      obtain ⟨s, found⟩ := Option.isSome_iff_exists.1 known
      obtain ⟨_, rfl, _⟩ := marked.get_eq_some found
      exact moved.reset_of_modify opened found (f := (·.fail reason)) (fun _ => ⟨rfl, rfl⟩) rfl
        rfl .cancel
    · exact moved
  · exact moved

theorem consume_ledger (credit : Credit w c) (opened : c.closed = false) {s : Stream}
    (member : s ∈ c.streams) {f : Stream → Stream} (keeps : ∀ s, (f s).id = s.id) {n : Int}
    (counts : 0 ≤ n) :
    Ledger c ((c.modify s.id f).replenishRecvWindow s.id n) n s.id
      (if (f s).inMap && !(f s).remoteClosed then n else 0) := by
  have sound := credit.sound s member
  have granted := (c.modify s.id f).replenishRecv_ledger opened counts
    (c.modify_distinct credit.distinct s.id keeps) (c.mem_modify member f)
    (by rw [keeps]; exact sound.proper)
  rw [keeps] at granted
  have both := (Ledger.modify c s.id f s.id).trans granted
  rwa [Int.zero_add, Int.zero_add] at both

/-- The account of a stream after its consumer took `n` bytes. -/
theorem Sound.consume {s t : Stream} (sound : Sound w c s) {n : Int}
    (ledger : Ledger c c' n s.id (if t.inMap && !t.remoteClosed then n else 0))
    (id : t.id = s.id) (inMap : t.inMap = s.inMap) (remoteClosed : t.remoteClosed = s.remoteClosed)
    (recvWindow : t.recvWindow = s.recvWindow) (counts : 0 ≤ n)
    (recvBuffered : t.recvBuffered = s.recvBuffered - n)
    (unread : (t.recvQueue.flatten.length : Int) = t.recvBuffered)
    (live : s.inMap = true → s.remoteClosed = false →
      t.recvEnded = false ∧ t.recvError = none ∧ t.bodyDone = false) :
    Sound w c' (credited n t) := by
  have bound := sound.bound
  have window := sound.window
  have told := ledger.stream sound.proper
  have old := ledger.nextStreamId ▸ sound.old
  unfold credited
  split
  · rename_i still
    rw [if_pos still] at told
    obtain ⟨mapped, started⟩ : s.inMap = true ∧ s.remoteClosed = false := by
      simpa [inMap, remoteClosed] using still
    obtain ⟨whole, _⟩ := sound.live mapped started
    have before := sound.told mapped
    refine ⟨id ▸ sound.odd, by simpa [id] using old, unread, ?_, ?_, ?_, ?_⟩
    · simp only
      omega
    · simp only
      omega
    · intro _
      simp only [id]
      omega
    · intro _ _
      exact ⟨by simp only; omega, live mapped started⟩
  · rename_i idle
    rw [if_neg idle, Int.add_zero] at told
    refine ⟨id ▸ sound.odd, by simpa [id] using old, unread, ?_, ?_, ?_, ?_⟩
    · omega
    · omega
    · intro mapped
      rw [id, recvWindow, told]
      exact sound.told (inMap ▸ mapped)
    · intro mapped started
      simp [mapped, started] at idle

/-- What a pull takes from a sound stream, and that it leaves a live one alone. -/
theorem Sound.pull {s : Stream} (sound : Sound w c s) :
    s.pullBody.1.inMap = s.inMap ∧ s.pullBody.1.remoteClosed = s.remoteClosed ∧
      s.pullBody.1.recvWindow = s.recvWindow ∧ 0 ≤ s.pullBody.2 ∧
      s.pullBody.1.recvBuffered = s.recvBuffered - s.pullBody.2 ∧
      (s.pullBody.1.recvQueue.flatten.length : Int) = s.pullBody.1.recvBuffered ∧
      (s.inMap = true → s.remoteClosed = false → s.pullBody.1.recvEnded = false ∧
        s.pullBody.1.recvError = none ∧ s.pullBody.1.bodyDone = false) := by
  have unread := sound.unread
  unfold Stream.pullBody
  cases queue : s.recvQueue with
  | cons chunk rest =>
      rw [queue, List.flatten_cons, List.length_append] at unread
      refine ⟨rfl, rfl, rfl, Int.natCast_nonneg _, rfl, ?_, ?_⟩
      · simp only
        omega
      · intro mapped started
        exact (sound.live mapped started).2
  | nil =>
      cases failed : s.recvError with
      | some cause =>
          refine ⟨rfl, rfl, rfl, Int.le_refl 0, (Int.sub_zero _).symm, by simpa [queue] using unread,
            ?_⟩
          intro mapped started
          have := (sound.live mapped started).2.2.1
          simp [failed] at this
      | none =>
          simp only
          split
          · rename_i ended
            refine ⟨rfl, rfl, rfl, Int.le_refl 0, (Int.sub_zero _).symm,
              by simpa [queue] using unread, ?_⟩
            intro mapped started
            have := (sound.live mapped started).2.1
            simp [ended] at this
          · exact ⟨rfl, rfl, rfl, Int.le_refl 0, (Int.sub_zero _).symm,
              by simpa [queue] using unread, fun mapped started => (sound.live mapped started).2⟩

theorem Credit.readBody (credit : Credit w c) (opened : c.closed = false) {s : Stream}
    (member : s ∈ c.streams) : Credit w (c.readBody s) := by
  have sound := credit.sound s member
  obtain ⟨inMap, remoteClosed, recvWindow, counts, recvBuffered, unread, live⟩ := sound.pull
  have streams := c.consume_streams credit.distinct member (f := (·.pullBody.1)) pullBody_id
    s.pullBody.2
  have ledger := consume_ledger credit opened member (f := (·.pullBody.1)) pullBody_id counts
  rw [c.granting_of_opened opened counts] at streams
  refine credit.exchange member streams ?_ ledger ?_ ?_ ?_
  · intro s
    rw [credited_id, pullBody_id]
  · rw [credited_recvBuffered, recvBuffered]
    omega
  · have := credit.available
    omega
  · exact sound.consume ledger (pullBody_id s) inMap remoteClosed recvWindow counts recvBuffered
      unread live

theorem Credit.cancelBody (credit : Credit w c) (opened : c.closed = false) {s : Stream}
    (member : s ∈ c.streams) : Credit w (c.cancelBody s) := by
  have sound := credit.sound s member
  have counts := sound.buffered
  have available := credit.available
  have streams := c.consume_streams credit.distinct member (f := Stream.cancelBody) (fun _ => rfl)
    s.recvBuffered
  have ledger := consume_ledger credit opened member (f := Stream.cancelBody) (fun _ => rfl) counts
  rw [c.granting_of_opened opened counts] at streams
  unfold Conn.cancelBody
  generalize (c.modify s.id Stream.cancelBody).replenishRecvWindow s.id s.recvBuffered = returned
    at streams ledger
  have inside : credited s.recvBuffered s.cancelBody ∈ returned.streams := by
    rw [streams, Keyed.mem_update]
    exact ⟨s, member, if_pos rfl⟩
  have distinct : (returned.streams.map Stream.id).Nodup := by
    rw [streams, Keyed.map_key_update _ fun s => by rw [credited_id]; rfl]
    exact credit.distinct
  simp only
  split
  · rename_i resets
    obtain ⟨wanted, known⟩ : s.cancelIsLive = true ∧ returned.has s.id = true := by
      simpa using resets
    obtain ⟨t, found⟩ := Option.isSome_iff_exists.1 known
    obtain ⟨present, same, _⟩ := returned.get_eq_some found
    obtain rfl : t = credited s.recvBuffered s.cancelBody :=
      List.inj_on_of_nodup_map distinct present inside (by rw [same, credited_id]; rfl)
    have reset := returned.resetStream_streams .cancel found
    have both := ledger.trans (returned.resetStream_ledger (ledger.closed.trans opened) .cancel found
      (by rw [credited_recvBuffered]; exact Int.le_refl 0))
    rw [streams, Keyed.update_update _ fun s => by rw [credited_id]; rfl] at reset
    have grown := credited_recvWindow counts s.cancelBody
    have window := sound.window
    have same : s.cancelBody.recvWindow = s.recvWindow := rfl
    rw [credited_recvBuffered] at both
    refine credit.exchange member reset ?_ both ?_ ?_ ?_
    · intro s
      exact credited_id _ s.cancelBody
    · simp [dropped, Stream.fail, Stream.discardBuffered, Stream.cancelBody]
    · simp only [Stream.cancelBody]
      omega
    · refine sound.off both.nextStreamId (credited_id _ _) ?_ ?_ rfl rfl
      · simp only [dropped, Stream.fail, Stream.discardBuffered, Function.comp]
        omega
      · simp only [dropped, Stream.fail, Stream.discardBuffered, Function.comp]
        omega
  · rename_i stays
    refine credit.exchange member streams (fun s => by rw [credited_id]; rfl) ledger ?_ ?_ ?_
    · rw [credited_recvBuffered]
      exact (Int.sub_zero _).symm
    · omega
    · refine sound.consume ledger rfl rfl rfl rfl counts (Int.sub_self _).symm rfl ?_
      intro mapped started
      obtain ⟨_, recvEnded, recvError, bodyDone⟩ := sound.live mapped started
      have known := returned.get_of_mem distinct inside (by rw [credited_inMap]; exact mapped)
      rw [credited_id] at known
      change returned.get s.id = _ at known
      simp [Stream.cancelIsLive, recvEnded, recvError, bodyDone, has, known] at stays

theorem Credit.uploadSlice (credit : Credit w c) (s : Stream) (slice : Bytes) :
    Credit w (c.uploadSlice s slice) := by
  let spent : Conn H := { c with connSendWindow := c.connSendWindow - slice.length }
  have quiet : Ledger c spent 0 0 0 := .of_fields rfl rfl rfl rfl rfl
  refine credit.inert_of_ledger (send_streams _ _) ?_
    ((quiet.then (.modify _ _ _ _)).then (.send _ (fun _ => rfl) 0))
  intro t _
  split <;> exact ⟨rfl, rfl, rfl, rfl, fun h => h, fun _ h => ⟨h, rfl, rfl, rfl⟩⟩

theorem Credit.uploadEnds (credit : Credit w c) (s : Stream) : Credit w (c.uploadEnds s) := by
  unfold Conn.uploadEnds
  split
  · refine credit.inert_of_ledger rfl ?_ (.modify _ _ _ _)
    intro t _
    split <;> exact ⟨rfl, rfl, rfl, rfl, fun h => h, fun _ h => ⟨h, rfl, rfl, rfl⟩⟩
  · refine credit.inert_of_ledger (send_streams _ _) ?_
      ((Ledger.modify _ _ _ _).then (.send _ (fun _ => rfl) 0))
    intro t _
    split <;> exact ⟨rfl, rfl, rfl, rfl, fun h => h, fun _ h => ⟨h, rfl, rfl, rfl⟩⟩

theorem Credit.uploadFlushed (credit : Credit w c) (s : Stream) :
    Credit w (c.uploadFlushed s) := by
  refine credit.inert_of_ledger (g := fun t => if t.id = s.id then
    retired { t with upload := .idle, localClosed := true } else t) ?_ ?_
    ((Ledger.modify c _ _ _).then (retireIfFullyClosed_ledger _ _ _))
  · rw [Conn.uploadFlushed, retireIfFullyClosed_streams, modify_streams, Keyed.update_update]
    · rfl
    · intro _
      rfl
    · exact c.modify_distinct credit.distinct _ fun _ => rfl
  · intro t _
    unfold retired
    repeat' split
    all_goals constructor <;> simp_all

theorem Credit.uploadFails (credit : Credit w c) (opened : c.closed = false) {s : Stream}
    (member : s ∈ c.streams) (cause : Cause) : Credit w (c.uploadFails s cause) := by
  let failed (s : Stream) : Stream := { s.fail cause with upload := .idle }
  unfold Conn.uploadFails
  simp only
  by_cases mapped : s.inMap = true
  · have found := c.get_of_mem credit.distinct member mapped
    have known : (c.modify s.id failed).has s.id = true := by
      rw [has, c.get_modify (f := failed) found fun _ => ⟨rfl, rfl⟩]
      rfl
    rw [if_pos known]
    exact credit.reset_of_modify opened found (f := failed) (fun _ => ⟨rfl, rfl⟩) rfl rfl .cancel
  · have inert : ∀ t ∈ c.streams, Inert t (if t.id = s.id then failed t else t) := by
      intro t inside
      split
      · rename_i same
        obtain rfl := List.inj_on_of_nodup_map credit.distinct inside member same
        constructor <;> simp [failed, Stream.fail, mapped]
      · exact .refl t
    have moved : Credit w (c.modify s.id failed) :=
      credit.inert_of_ledger rfl inert (.modify _ _ _ _)
    split
    · exact moved.resetStream opened s.id .cancel
    · exact moved

/-! ## Runs -/

theorem step_kept {e : Event} (numbered : Numbered c) (kept : Kept w c)
    (stepped : c.step w e = some c') : Kept w c' := by
  by_cases down : c.closed = true
  · exact .inl (step_closed numbered down stepped)
  have credit := kept.resolve_left down
  have opened : c.closed = false := by simpa using down
  cases e with
  | request block hasBody =>
      obtain rfl := Option.some.inj stepped
      exact .inr (credit.of_fields rfl rfl rfl rfl rfl rfl)
  | ready r =>
      obtain ⟨q, _, _, rfl⟩ := c.onRequest_eq_some stepped
      exact .inr (credit.admitRequest r q)
  | readyFails r =>
      obtain ⟨q, _, _, rfl⟩ := c.onRequest_eq_some stepped
      exact .inr (credit.of_fields rfl rfl rfl rfl rfl rfl)
  | resume r =>
      obtain ⟨q, _, _, rfl⟩ := c.onRequest_eq_some stepped
      exact .inr (credit.admitRequest r q)
  | abort r =>
      simp only [step] at stepped
      repeat' split at stepped
      · cases stepped
      · obtain rfl := Option.some.inj stepped
        exact .inr (credit.abort opened r _ _)
      · cases stepped
  | recv frame =>
      obtain rfl := Option.some.inj stepped
      exact onFrame_kept credit opened frame
  | read id =>
      obtain ⟨s, member, _, _, rfl⟩ := c.onStream_eq_some stepped
      exact .inr (credit.readBody opened member)
  | cancel id =>
      obtain ⟨s, member, _, _, rfl⟩ := c.onStream_eq_some stepped
      exact .inr (credit.cancelBody opened member)
  | upload id slice =>
      obtain ⟨s, _, _, _, rfl⟩ := c.onStream_eq_some stepped
      exact .inr (credit.uploadSlice s slice)
  | uploadEnds id =>
      obtain ⟨s, _, _, _, rfl⟩ := c.onStream_eq_some stepped
      exact .inr (credit.uploadEnds s)
  | uploadFlushed id =>
      obtain ⟨s, _, _, _, rfl⟩ := c.onStream_eq_some stepped
      exact .inr (credit.uploadFlushed s)
  | uploadFails id cause =>
      obtain ⟨s, member, _, _, rfl⟩ := c.onStream_eq_some stepped
      exact .inr (credit.uploadFails opened member cause)
  | close =>
      obtain rfl := Option.some.inj stepped
      exact .inr (credit.same c.close_same.streams (.of_same c.close_same c.close_balance 0))
  | closeFlushed =>
      simp only [step] at stepped
      split at stepped
      · obtain rfl := Option.some.inj stepped
        exact .inl (destroy_closed _ _)
      · cases stepped
  | malformed code message streamId =>
      obtain rfl := Option.some.inj stepped
      exact .inl (connectionError_closed _ _)
  | lose cause =>
      obtain rfl := Option.some.inj stepped
      exact .inl (destroy_closed _ _)

theorem start_credit (H : Hpack) (w : Windows) : Credit w (Conn.start H w) := by
  have least := w.validConnectionWindow.1
  have granted : ∀ id, (Conn.start H w).balance id =
      if id = 0 then (w.connRecvWindow : Int) - specInitialWindow else 0 := by
    intro id
    unfold balance Conn.start
    by_cases grown : specInitialWindow < w.connRecvWindow
    · by_cases connection : id = 0
      · subst connection
        simp only [grown, if_true, Frame.grants, List.map_cons, List.map_nil, List.sum_cons,
          List.sum_nil]
        omega
      · simp [grown, Frame.grants, connection, Ne.symm connection]
    · have equal : w.connRecvWindow = specInitialWindow := by omega
      by_cases connection : id = 0 <;> simp [equal, Frame.grants, connection]
  refine ⟨List.nodup_nil, rfl, ?_, ?_, ?_, ?_, ?_⟩
  · simp [buffered, Conn.start]
  · rw [granted, if_pos rfl]
    simp [Conn.start]
  · exact Int.natCast_nonneg _
  · intro id _ odd
    rw [granted, if_neg (by omega)]
  · intro s member
    cases member

end Operations

/-- The receive windows of an open connection. -/
structure Conserved (w : Windows) (c : Conn H) : Prop where
  /-- Window and unread bytes add up to the configured connection window. -/
  connection : c.connRecvAvailable + (c.streams.map Stream.recvBuffered).sum = w.connRecvWindow
  stream : ∀ s ∈ c.streams, s.inMap = true → s.remoteClosed = false →
    s.recvWindow + s.recvBuffered = w.localInitialWindow
  /-- The connection window is what the peer was told. -/
  connectionTold : c.connRecvAvailable = specInitialWindow + c.balance 0
  streamTold : ∀ s ∈ c.streams, s.inMap = true →
    s.recvWindow = w.localInitialWindow + c.balance s.id
  connectionBound : 0 ≤ c.connRecvAvailable ∧ c.connRecvAvailable ≤ w.connRecvWindow
  streamBound : ∀ s ∈ c.streams, 0 ≤ s.recvWindow ∧ s.recvWindow ≤ w.localInitialWindow
  /-- Unread data never exceeds either window. -/
  unread : (c.streams.map fun s => s.recvQueue.flatten.length).sum ≤ w.connRecvWindow ∧
    ∀ s ∈ c.streams, s.recvQueue.flatten.length ≤ w.localInitialWindow

theorem Credit.conserved {w : Windows} {c : Conn H} (credit : Credit w c) : Conserved w c := by
  have total := credit.total
  have counted :
      (((c.streams.map fun s => s.recvQueue.flatten.length).sum : Nat) : Int) = c.buffered := by
    rw [Nat.cast_list_sum, List.map_map, buffered]
    exact congrArg List.sum (List.map_congr_left fun s member => (credit.sound s member).unread)
  refine ⟨total, ?_, credit.told, ?_, ⟨credit.available, by omega⟩, ?_, ?_, ?_⟩
  · intro s member mapped started
    exact ((credit.sound s member).live mapped started).1
  · exact fun s member => (credit.sound s member).told
  · intro s member
    have sound := credit.sound s member
    have := sound.bound
    have := sound.buffered
    exact ⟨sound.window, by omega⟩
  · have := credit.available
    omega
  · intro s member
    have sound := credit.sound s member
    have := sound.bound
    have := sound.window
    have := sound.unread
    omega

/-- **Receive credit is conserved.**  In every run of an open connection -- inbound
frames in any order, interleaved with requests, uploads, body reads, cancels and
aborts -- no receive credit is lost or returned twice. -/
theorem conserved_of_reaches {w : Windows} {c : Conn H}
    (reached : (sessionMachine H w).Reaches Machine.always c) (opened : c.closed = false) :
    Conserved w c := by
  have kept : Numbered c ∧ Kept w c := by
    refine Machine.Steps.invariant (fun c => Numbered c ∧ Kept w c) ?_ reached
      ⟨start_numbered H w, .inr (start_credit H w)⟩
    rintro c e c' ⟨numbered, kept⟩ _ stepped
    exact ⟨step_numbered numbered stepped, step_kept numbered kept stepped⟩
  exact (kept.2.resolve_left (by simp [opened])).conserved

end Conn

/-! ## A download that is padded, half read and reset -/

/-- A decoder that knows the one block `:status 200`. -/
def statusOnly : Hpack where
  State := Unit
  init := ()
  decode _ block :=
    if block = [0x88] then ((), .ok [{ name := ":status", value := "200" }])
    else ((), .error { code := .compressionError, message := "unknown block", ofStream := false })

def smallWindows : Windows where
  localInitialWindow := 10
  connRecvWindow := 70000
  validWindow := by decide
  validConnectionWindow := by decide

/-- Two requests; the first body is read once and its stream then exceeds its window. -/
def paddedDownload : List Event :=
  [.request [0x82] false, .ready 0, .request [0x82] false, .ready 1,
    .recv (.headers 1 [0x88] false true),
    .recv (.data { streamId := 1, data := [1, 2, 3], padding := 2, endStream := false }),
    .recv (.data { streamId := 1, data := [4, 5], endStream := false }),
    .recv (.data { streamId := 3, data := [6], endStream := false }),
    .read 1,
    .recv (.data { streamId := 1, data := List.replicate 9 7, endStream := false })]

theorem conserved_paddedDownload :
    ∃ c : Conn statusOnly, (sessionMachine statusOnly smallWindows).run Machine.always
        (sessionMachine statusOnly smallWindows).init paddedDownload = some c ∧
      c.closed = false ∧ c.connRecvAvailable = 69999 ∧ Conn.Conserved smallWindows c := by
  refine ⟨_, rfl, rfl, rfl, ?_⟩
  exact Conn.conserved_of_reaches (Machine.steps_of_run paddedDownload rfl) rfl

end GrpcBridge.H2
