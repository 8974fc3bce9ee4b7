/-
# H2.SendCredit -- accounts of the send windows

A send window is the account `H2.Ledger` keeps, seen from the other side: the peer's
WINDOW_UPDATE frames put credit on it and the DATA frames of uploads spend it.
`allowance` reads both off the frames alone.

Almost every operation is `Still`: it uploads nothing and moves no send window of a
stream in the map.  What is left is the peer's WINDOW_UPDATE and SETTINGS, and the slice
of a pump, which keep the windows within the peer's credit (`SendCredit`).  The credit of
the connection is exact while it is up; on a stream, WINDOW_UPDATE may come before the
stream is opened, and is lost.
-/
import GrpcBridge.H2.ReceiveCredit

namespace GrpcBridge.H2

open GrpcBridge.Theory

set_option autoImplicit false

variable {H : Hpack}

/-- The steps of the body pumps. -/
def Event.ofPump : Event → Bool
  | .upload _ _ => true
  | .uploadEnds _ => true
  | .uploadFlushed _ => true
  | .uploadFails _ _ => true
  | _ => false

namespace Conn

/-- DATA bytes sent on stream `id`; the connection is stream `0`. -/
def uploaded (c : Conn H) (id : Nat) : Int := (c.sent.map (Frame.spends id)).sum

/-- Credit the peer granted on stream `id`. -/
def credit (c : Conn H) (id : Nat) : Int := (c.received.map (Frame.grants id)).sum

def allowance (c : Conn H) (id : Nat) : Int := c.credit id - c.uploaded id

theorem grants_nonneg (id : Nat) (f : Frame) : 0 ≤ f.grants id := by
  cases f with
  | windowUpdate streamId increment =>
      rw [Frame.grants]
      split
      · exact Int.natCast_nonneg _
      · exact Int.le_refl 0
  | _ => exact Int.le_refl 0

theorem credit_nonneg (c : Conn H) (id : Nat) : 0 ≤ c.credit id := by
  rw [credit]
  induction c.received with
  | nil => exact Int.le_refl 0
  | cons f rest ih =>
      rw [List.map_cons, List.sum_cons]
      exact Int.add_nonneg (grants_nonneg id f) ih

/-! ## Level operations -/

/-- Nothing is uploaded, and no send window in use moves. -/
structure Level (c c' : Conn H) : Prop where
  window : c'.connSendWindow = c.connSendWindow
  initial : c'.remote.initialWindowSize = c.remote.initialWindowSize
  uploaded : ∀ id, c'.uploaded id = c.uploaded id
  kept : ∀ s' ∈ c'.streams, s'.inMap = true →
    ∃ s ∈ c.streams, s.inMap = true ∧ s.id = s'.id ∧ s.sendWindow = s'.sendWindow

/-- What the pump of a stream has made of its state. -/
def pump (s : Stream) : Nat × Upload × Bool := (s.id, s.upload, s.localClosed)

/-- The DATA frame a frame is. -/
def asData : Frame → Option DataFrame
  | .data f => some f
  | _ => none

/-- The pumps stay where they are, and send nothing. -/
structure Rest (c c' : Conn H) : Prop where
  pumps : c'.streams.map pump = c.streams.map pump
  datas : c'.sent.filterMap asData = c.sent.filterMap asData

structure Still (c c' : Conn H) : Prop extends Level c c', Rest c c'

theorem Level.trans {a b d : Conn H} (first : Level a b) (second : Level b d) : Level a d where
  window := second.window.trans first.window
  initial := second.initial.trans first.initial
  uploaded := fun id => (second.uploaded id).trans (first.uploaded id)
  kept := by
    intro s'' inside live
    obtain ⟨s', inside, live, id, window⟩ := second.kept s'' inside live
    obtain ⟨s, inside, live, id', window'⟩ := first.kept s' inside live
    exact ⟨s, inside, live, id'.trans id, window'.trans window⟩

theorem Rest.trans {a b d : Conn H} (first : Rest a b) (second : Rest b d) : Rest a d :=
  ⟨second.pumps.trans first.pumps, second.datas.trans first.datas⟩

theorem Still.trans {a b d : Conn H} (first : Still a b) (second : Still b d) : Still a d where
  toLevel := first.toLevel.trans second.toLevel
  toRest := first.toRest.trans second.toRest

/-- Fields the accounts do not read. -/
theorem Still.of_fields {c c' : Conn H} (streams : c'.streams = c.streams)
    (window : c'.connSendWindow = c.connSendWindow)
    (initial : c'.remote.initialWindowSize = c.remote.initialWindowSize)
    (sent : c'.sent = c.sent) : Still c c' where
  window := window
  initial := initial
  uploaded := by
    intro id
    rw [Conn.uploaded, sent, Conn.uploaded]
  kept := by
    intro s inside live
    exact ⟨s, streams ▸ inside, live, rfl, rfl⟩
  pumps := by rw [streams]
  datas := by rw [sent]

/-- Fields the accounts do not read are set first. -/
theorem Still.after {c c₁ c' : Conn H} (still : Still c₁ c') (streams : c₁.streams = c.streams)
    (window : c₁.connSendWindow = c.connSendWindow)
    (initial : c₁.remote.initialWindowSize = c.remote.initialWindowSize)
    (sent : c₁.sent = c.sent) : Still c c' :=
  (Still.of_fields streams window initial sent).trans still

/-- A change of a stream that leaves its send window alone, or takes it out of the map. -/
def Unspent (f : Stream → Stream) : Prop :=
  ∀ s, (f s).id = s.id ∧ ((f s).inMap = true → s.inMap = true ∧ s.sendWindow = (f s).sendWindow)

def Idle (f : Stream → Stream) : Prop := Unspent f ∧ ∀ s, pump (f s) = pump s

theorem Idle.of_same {f : Stream → Stream}
    (same : ∀ s, pump (f s) = pump s ∧ (f s).inMap = s.inMap ∧ s.sendWindow = (f s).sendWindow) :
    Idle f := by
  refine ⟨fun s => ⟨congrArg Prod.fst (same s).1, fun live => ?_⟩, fun s => (same s).1⟩
  exact ⟨(same s).2.1 ▸ live, (same s).2.2⟩

variable (c : Conn H)

theorem Still.refl : Still c c := .of_fields rfl rfl rfl rfl

theorem arrive_still (f : Frame) : Still c (c.arrive f) := .of_fields rfl rfl rfl rfl

theorem map_still {f : Stream → Stream} (idle : Idle f) :
    Still c { c with streams := c.streams.map f } where
  window := rfl
  initial := rfl
  uploaded := fun _ => rfl
  kept := by
    intro s' inside live
    obtain ⟨s, member, rfl⟩ := List.mem_map.1 inside
    obtain ⟨inMap, window⟩ := (idle.1 s).2 live
    exact ⟨s, member, inMap, (idle.1 s).1.symm, window⟩
  pumps := by
    rw [List.map_map]
    exact List.map_congr_left fun s _ => idle.2 s
  datas := rfl

theorem modify_level (id : Nat) {f : Stream → Stream} (unspent : Unspent f) :
    Level c (c.modify id f) where
  window := rfl
  initial := rfl
  uploaded := fun _ => rfl
  kept := by
    intro s' inside live
    obtain ⟨s, member, rfl⟩ := Keyed.mem_update.1 inside
    split at live
    · rename_i same
      obtain ⟨inMap, window⟩ := (unspent s).2 live
      rw [if_pos same]
      exact ⟨s, member, inMap, (unspent s).1.symm, window⟩
    · rename_i other
      rw [if_neg other]
      exact ⟨s, member, live, rfl, rfl⟩

theorem modify_still (id : Nat) {f : Stream → Stream} (idle : Idle f) :
    Still c (c.modify id f) where
  toLevel := c.modify_level id idle.1
  pumps := by
    rw [modify_streams, Keyed.update, List.map_map]
    refine List.map_congr_left fun s _ => ?_
    rw [Function.comp_apply]
    split
    · exact idle.2 s
    · rfl
  datas := rfl

/-- A frame that carries no upload. -/
def Empty (f : Frame) : Prop := ∀ id, f.spends id = 0

theorem send_level {f : Frame} (empty : Empty f) : Level c (c.send f) := by
  unfold send
  split
  · exact (Still.refl c).toLevel
  · refine ⟨rfl, rfl, ?_, fun s inside live => ⟨s, inside, live, rfl, rfl⟩⟩
    intro id
    simp only [uploaded, List.map_append, List.sum_append, List.map_cons, List.map_nil,
      List.sum_cons, List.sum_nil, empty id]
    omega

theorem empty_of_plain {f : Frame} (plain : asData f = none) : Empty f := by
  cases f with
  | data f => cases plain
  | _ => exact fun _ => rfl

theorem send_still {f : Frame} (plain : asData f = none) : Still c (c.send f) where
  toLevel := c.send_level (empty_of_plain plain)
  pumps := by rw [send_streams]
  datas := by
    unfold send
    split
    · rfl
    · rw [List.filterMap_append, List.filterMap_cons_none plain, List.filterMap_nil, List.append_nil]

theorem foldl_send_still {frames : List Frame} (plain : ∀ f ∈ frames, asData f = none) :
    Still c (frames.foldl send c) := by
  induction frames generalizing c with
  | nil => exact .refl c
  | cons f frames ih =>
      exact (c.send_still (plain f List.mem_cons_self)).trans
        (ih (c.send f) fun g member => plain g (List.mem_cons_of_mem f member))

theorem close_still : Still c c.close := by
  unfold close
  split
  · exact .refl c
  · exact (c.send_still rfl).trans (.of_fields rfl rfl rfl rfl)

theorem wakeStreamSlots_still : Still c c.wakeStreamSlots := by
  unfold wakeStreamSlots
  simp only
  split
  · exact c.close_still.trans (.of_fields rfl rfl rfl rfl)
  · exact .of_fields rfl rfl rfl rfl

theorem replenishConnectionWindow_still (n : Int) : Still c (c.replenishConnectionWindow n) := by
  unfold replenishConnectionWindow
  split
  · exact .refl c
  · exact .after (send_still _ rfl) rfl rfl rfl rfl

theorem replenishRecvWindow_still (id : Nat) (n : Int) : Still c (c.replenishRecvWindow id n) := by
  unfold replenishRecvWindow
  split
  · exact .refl c
  · refine Still.trans ?_ (replenishConnectionWindow_still _ n)
    repeat' split
    · exact .refl c
    · refine (c.modify_still id ?_).trans (send_still _ rfl)
      exact .of_same fun _ => ⟨rfl, rfl, rfl⟩
    · exact .refl c

theorem discard_still (s : Stream) : Still c (c.discard s) := by
  refine (c.modify_still s.id ?_).trans (replenishConnectionWindow_still _ _)
  exact .of_same fun _ => ⟨rfl, rfl, rfl⟩

theorem fail_idle (cause : Cause) : Idle fun s => s.fail cause := .of_same fun _ => ⟨rfl, rfl, rfl⟩

theorem gone_idle : Idle fun s => { s with inMap := false } :=
  ⟨fun _ => ⟨rfl, fun live => nomatch live⟩, fun _ => rfl⟩

theorem resetStream_still (id : Nat) (code : ErrorCode) : Still c (c.resetStream id code) := by
  have told : Still c (c.send (.rstStream id (errorCodeValue code))) := c.send_still rfl
  unfold resetStream
  simp only
  split
  · exact (((told.trans (discard_still _ _)).trans (modify_still _ id gone_idle)).trans
      (wakeStreamSlots_still _)).trans (modify_still _ id (fail_idle _))
  · exact told

theorem retireIfFullyClosed_still (id : Nat) : Still c (c.retireIfFullyClosed id) := by
  unfold retireIfFullyClosed
  repeat' split
  · exact (c.modify_still id gone_idle).trans (wakeStreamSlots_still _)
  · exact .refl c
  · exact .refl c

theorem peerEnds_still (id : Nat) (endStream : Bool) : Still c (c.peerEnds id endStream) := by
  unfold peerEnds
  split
  · refine (c.modify_still id ?_).trans (retireIfFullyClosed_still _ id)
    exact .of_same fun _ => ⟨rfl, rfl, rfl⟩
  · exact .refl c

theorem destroy_still (cause : Cause) : Still c (c.destroy cause) := by
  unfold destroy
  split
  · exact .refl c
  · have gone : Idle fun s => if s.inMap then { s.fail cause with inMap := false } else s := by
      refine ⟨fun s => ?_, fun s => ?_⟩
      · dsimp only
        split
        · exact ⟨rfl, fun live => nomatch live⟩
        · exact ⟨rfl, fun live => ⟨live, rfl⟩⟩
      · dsimp only
        split <;> rfl
    exact (c.map_still gone).trans (.after (wakeStreamSlots_still _) rfl rfl rfl rfl)

theorem connectionError_still (cause : Cause) : Still c (c.connectionError cause) :=
  (c.send_still rfl).trans (destroy_still _ cause)

/-! ## Inbound frames -/

theorem receiveHeaders_idle (raw : List Header) (endStream : Bool) :
    Idle fun s => s.receiveHeaders raw endStream := by
  refine .of_same fun s => ?_
  rw [receiveHeaders_eq]
  repeat' split
  all_goals exact ⟨rfl, rfl, rfl⟩

theorem receiveData_idle (data : Bytes) (endStream : Bool) :
    Idle fun s => s.receiveData data endStream := by
  refine .of_same fun s => ?_
  rw [receiveData_eq]
  exact ⟨rfl, rfl, rfl⟩

theorem completeHeaderBlock_still (pb : PendingHeaderBlock) :
    Still c (c.completeHeaderBlock pb).1 := by
  have start : ∀ hpack, Still c (c.decoded hpack) := fun _ => .of_fields rfl rfl rfl rfl
  obtain ⟨hpack, ⟨_, _, _, done⟩ | done | ⟨_, _, _, _, done⟩ | done⟩ :=
    c.completeHeaderBlock_cases pb
  · rw [done]
    exact start hpack
  · rw [done]
    exact (start hpack).trans (.after (send_still _ rfl) rfl rfl rfl rfl)
  · rw [done]
    exact ((start hpack).trans (modify_still _ _ (receiveHeaders_idle _ _))).trans
      (peerEnds_still _ _ _)
  · rw [done]
    exact start hpack

theorem acceptHeaderBlock_still (pb : PendingHeaderBlock) (endHeaders : Bool) :
    Still c (c.acceptHeaderBlock pb endHeaders).1 := by
  have stored : Still c { c with pendingHeaderBlock := some pb } := .of_fields rfl rfl rfl rfl
  unfold acceptHeaderBlock
  simp only
  repeat' split
  · exact stored
  · exact stored.trans (completeHeaderBlock_still _ pb)
  · exact stored

theorem bounce_still (f : DataFrame) : Still c (c.bounce f) :=
  .after (replenishConnectionWindow_still (c.charge f) _) rfl rfl rfl rfl

theorem acceptData_still (f : DataFrame) : Still c (c.acceptData f) := by
  have charged : Still c (c.charge f) := .of_fields rfl rfl rfl rfl
  refine (((charged.trans (modify_still _ _ ?_)).trans (replenishRecvWindow_still _ _ _)).trans
    (modify_still _ _ (receiveData_idle _ _))).trans (peerEnds_still _ _ _)
  exact .of_same fun _ => ⟨rfl, rfl, rfl⟩

theorem receiveDataFrame_still (f : DataFrame) : Still c (c.receiveDataFrame f).1 := by
  rw [receiveDataFrame_eq]
  repeat' split
  · exact .refl c
  · exact (c.bounce_still f).trans (resetStream_still _ _ _)
  · exact (c.bounce_still f).trans (resetStream_still _ _ _)
  · exact c.acceptData_still f
  · exact c.bounce_still f
  · exact (c.bounce_still f).trans (send_still _ rfl)

theorem receiveGoaway_still (lastStreamId errorCode : Nat) :
    Still c (c.receiveGoaway lastStreamId errorCode) := by
  have gone : Idle (excluded ((errorCodeName errorCode).getD .noError) lastStreamId) := by
    refine ⟨fun s => ?_, fun s => ?_⟩
    · unfold excluded
      split
      · exact ⟨rfl, fun live => nomatch live⟩
      · exact ⟨rfl, fun live => ⟨live, rfl⟩⟩
    · unfold excluded
      split <;> rfl
  have excludes : Still c (c.exclude ((errorCodeName errorCode).getD .noError) lastStreamId) :=
    (c.map_still gone).trans (.after (wakeStreamSlots_still _) rfl rfl rfl rfl)
  rw [receiveGoaway_eq]
  simp only
  split
  · exact excludes.trans (destroy_still _ _)
  · exact excludes

/-- Every frame but SETTINGS and WINDOW_UPDATE is still. -/
theorem dispatch_still {f : Frame} (settings : ∀ ack s, f ≠ .settings ack s)
    (update : ∀ id n, f ≠ .windowUpdate id n) : Still c (c.dispatch f).1 := by
  unfold dispatch
  split
  · split
    · exact c.acceptHeaderBlock_still _ _
    · exact .refl c
  · exact .refl c
  · exact .refl c
  · exact absurd rfl (settings _ _)
  · exact absurd rfl (settings _ _)
  · exact c.acceptHeaderBlock_still _ _
  · exact c.acceptHeaderBlock_still _ _
  · exact c.receiveDataFrame_still _
  · unfold receiveRstStream
    split
    · refine (((c.discard_still _).trans (modify_still _ _ ?_)).trans (modify_still _ _ gone_idle)).trans
        (wakeStreamSlots_still _)
      exact .of_same fun _ => ⟨rfl, rfl, rfl⟩
    · exact .refl c
  · exact absurd rfl (update _ _)
  · split
    · exact .refl c
    · exact c.send_still rfl
  · exact c.receiveGoaway_still _ _
  · exact .refl c

/-- The catch of `onBytes` is still. -/
theorem onFrame_still_after (f : Frame) : Still ((c.arrive f).dispatch f).1 (c.onFrame f) := by
  obtain ⟨_, done⟩ | ⟨_, _, _, _, done⟩ | ⟨_, _, _, done⟩ := c.onFrame_cases f
  · rw [done]
    exact .refl _
  · rw [done]
    exact resetStream_still _ _ _
  · rw [done]
    exact connectionError_still _ _

theorem sendHeaders_still (id : Nat) (block : Bytes) (endStream : Bool) :
    Still c (c.sendHeaders id block endStream) := by
  have later : ∀ id maxFrameSize fuel rest, ∀ f ∈ continuations id maxFrameSize fuel rest,
      asData f = none := by
    intro id maxFrameSize fuel rest f member
    induction fuel generalizing rest with
    | zero => cases member
    | succ fuel ih =>
        cases rest with
        | nil => cases member
        | cons b rest =>
            rcases List.mem_cons.1 member with rfl | member
            · rfl
            · exact ih _ member
  unfold sendHeaders
  simp only
  split
  · exact c.send_still rfl
  · exact (c.send_still rfl).trans (foldl_send_still _ (later _ _ _ _))

/-! ## The accounts -/

/-- The send windows are within the credit of the peer. -/
structure SendCredit (c : Conn H) : Prop where
  window : 0 ≤ c.connSendWindow
  within : c.connSendWindow ≤ specInitialWindow + c.allowance 0
  exact : c.closed = false → c.connSendWindow = specInitialWindow + c.allowance 0
  fresh : ∀ id, c.nextStreamId ≤ id → c.uploaded id = 0
  streams : ∀ s ∈ c.streams, s.inMap = true →
    s.sendWindow ≤ c.remote.initialWindowSize + c.allowance s.id

variable {c} {c' : Conn H}

/-- Inbound frames add what they grant. -/
theorem credit_arrive (f : Frame) (id : Nat) : (c.arrive f).credit id = c.credit id + f.grants id := by
  simp only [arrive, credit, List.map_append, List.sum_append, List.map_cons, List.map_nil,
    List.sum_cons, List.sum_nil, Int.add_zero]

/-- Credit that comes and is not taken up leaves the windows within it. -/
theorem SendCredit.gains (sound : SendCredit c) (level : Level c c')
    (next : c'.nextStreamId = c.nextStreamId) (more : ∀ id, c.credit id ≤ c'.credit id)
    (exactly : c'.closed = false → c.closed = false ∧ c'.credit 0 = c.credit 0) :
    SendCredit c' := by
  have within := sound.within
  refine ⟨level.window ▸ sound.window, ?_, ?_, ?_, ?_⟩
  · have := more 0
    rw [allowance] at within ⊢
    rw [level.window, level.uploaded]
    omega
  · intro up
    obtain ⟨up, same⟩ := exactly up
    rw [level.window, allowance, level.uploaded, same]
    exact sound.exact up
  · intro id fresh
    rw [level.uploaded]
    exact sound.fresh id (next ▸ fresh)
  · intro s' inside live
    obtain ⟨s, member, inMap, id, window⟩ := level.kept s' inside live
    have bound := sound.streams s member inMap
    have := more s.id
    rw [allowance] at bound ⊢
    rw [← id, ← window, level.uploaded, level.initial]
    omega

theorem SendCredit.level (sound : SendCredit c) (level : Level c c') (onward : Onward c c') :
    SendCredit c' := by
  have same : ∀ id, c'.credit id = c.credit id := by
    intro id
    rw [credit, onward.received, credit]
  refine sound.gains level onward.nextStreamId (fun id => Int.le_of_eq (same id).symm) ?_
  intro up
  refine ⟨?_, same 0⟩
  cases down : c.closed with
  | false => rfl
  | true => exact absurd (onward.closed down) (by simp [up])

theorem SendCredit.still (sound : SendCredit c) (still : Still c c') (onward : Onward c c') :
    SendCredit c' := sound.level still.toLevel onward

/-- A frame that grants nothing is only logged. -/
theorem SendCredit.arrive (sound : SendCredit c) {f : Frame} (silent : ∀ id, f.grants id = 0) :
    SendCredit (c.arrive f) := by
  have same : ∀ id, (c.arrive f).credit id = c.credit id := by
    intro id
    rw [credit_arrive, silent, Int.add_zero]
  exact sound.gains (c.arrive_still f).toLevel rfl (fun id => Int.le_of_eq (same id).symm)
    fun up => ⟨up, same 0⟩

/-! ## SETTINGS -/

theorem applyLimits_still (c : Conn H) (settings : Settings) :
    Still c (applyRemoteSettings.applyLimits c settings).1 := by
  have rest : ∀ c : Conn H, Still c (applyRemoteSettings.applyRest c settings).1 := by
    intro c
    unfold applyRemoteSettings.applyRest
    simp only
    split
    · exact .after (wakeStreamSlots_still _) rfl rfl rfl rfl
    · exact .of_fields rfl rfl rfl rfl
  unfold applyRemoteSettings.applyLimits
  repeat' split
  · exact .refl c
  · exact .after (rest _) rfl rfl rfl rfl
  · exact rest c

/-- A new initial window moves the windows of the streams by as much as their credit. -/
theorem SendCredit.resize (sound : SendCredit c) (size : Nat) :
    SendCredit
      { c with
        remote := { c.remote with initialWindowSize := size }
        streams := c.streams.map (adjusted (size - c.remote.initialWindowSize)) } := by
  refine ⟨sound.window, sound.within, sound.exact, sound.fresh, ?_⟩
  intro s' inside live
  obtain ⟨s, member, rfl⟩ := List.mem_map.1 inside
  unfold adjusted at live ⊢
  split at live
  · rename_i inMap
    have bound := sound.streams s member inMap
    rw [if_pos inMap]
    change s.sendWindow + ((size : Int) - c.remote.initialWindowSize) ≤ (size : Int) + c.allowance s.id
    omega
  · rename_i out
    exact absurd live out

theorem SendCredit.applyRemoteSettings (sound : SendCredit c) (settings : Settings) :
    SendCredit (c.applyRemoteSettings settings).1 := by
  have limits : ∀ {c : Conn H}, SendCredit c →
      Onward c (applyRemoteSettings.applyLimits c settings).1 →
      SendCredit (applyRemoteSettings.applyLimits c settings).1 :=
    fun sound onward => sound.still (applyLimits_still _ settings) onward
  have onward := c.applyRemoteSettings_onward settings
  unfold Conn.applyRemoteSettings at onward ⊢
  split
  · rename_i size chosen
    rw [chosen] at onward
    simp only at onward
    split
    · exact sound
    · rename_i fits
      rw [if_neg fits] at onward
      refine limits (sound.resize size) ⟨onward.nextStreamId, onward.received, onward.closed⟩
  · rename_i unchosen
    rw [unchosen] at onward
    exact limits sound onward

theorem SendCredit.settings (sound : SendCredit c) (ack : Bool) (settings : Settings) :
    SendCredit (c.dispatch (.settings ack settings)).1 := by
  unfold dispatch
  cases c.pendingHeaderBlock with
  | some pb => exact sound
  | none =>
      cases ack with
      | true => exact sound
      | false =>
          have applied := sound.applyRemoteSettings settings
          rcases outcome : c.applyRemoteSettings settings with ⟨c₁, _ | cause⟩
          · rw [outcome] at applied
            simp only [outcome]
            exact applied.still (send_still _ rfl) (send_same _ _).onward
          · rw [outcome] at applied
            simp only [outcome]
            exact applied

/-! ## WINDOW_UPDATE -/

theorem onFrame_of_fine {f : Frame} (fine : ((c.arrive f).dispatch f).2 = none) :
    c.onFrame f = ((c.arrive f).dispatch f).1 := by
  obtain ⟨_, done⟩ | ⟨_, _, thrown, _⟩ | ⟨_, thrown, _⟩ := c.onFrame_cases f
  · exact done
  · rw [thrown] at fine
    cases fine
  · rw [thrown] at fine
    cases fine

theorem receiveWindowUpdate_stream {id increment : Nat} (positive : increment ≠ 0) (proper : id ≠ 0) :
    c.receiveWindowUpdate id increment = (c, none) ∨ c.receiveWindowUpdate id increment =
      (c.modify id fun s => { s with sendWindow := s.sendWindow + increment }, none) := by
  rw [receiveWindowUpdate, if_neg positive, if_neg proper]
  split
  · exact .inr rfl
  · exact .inl rfl

/-- Between the frames of a header block the frame tears the connection down. -/
theorem SendCredit.torn (sound : SendCredit c) {id increment : Nat} {pb : PendingHeaderBlock}
    (pending : c.pendingHeaderBlock = some pb) :
    SendCredit (c.onFrame (.windowUpdate id increment)) := by
  let f : Frame := .windowUpdate id increment
  have thrown : (c.arrive f).dispatch f =
      (c.arrive f, protocolError "expected CONTINUATION frame") := by
    simp only [f, dispatch, Conn.arrive, pending]
  have down : c.onFrame f = (c.arrive f).connectionError
      (.h2 { code := .protocolError, message := "expected CONTINUATION frame" }) := by
    rw [onFrame, thrown]
    rfl
  rw [down]
  refine sound.gains ((c.arrive_still f).trans (connectionError_still _ _)).toLevel
    (connectionError_onward _ _).nextStreamId ?_ ?_
  · intro k
    have same : ((c.arrive f).connectionError
        (.h2 { code := .protocolError, message := "expected CONTINUATION frame" })).credit k =
          (c.arrive f).credit k := by
      rw [Conn.credit, (connectionError_onward (c.arrive f) _).received, Conn.credit]
    rw [same, credit_arrive]
    exact Int.le_add_of_nonneg_right (grants_nonneg k f)
  · intro up
    rw [connectionError_closed] at up
    cases up

/-- A zero increment grants nothing and is refused. -/
theorem SendCredit.zeroUpdate (sound : SendCredit c) (id : Nat) :
    SendCredit (c.onFrame (.windowUpdate id 0)) := by
  let f : Frame := .windowUpdate id 0
  have silent : ∀ k, f.grants k = 0 := by
    intro k
    simp only [f, Frame.grants, Int.ofNat_zero, ite_self]
  have level : Still (c.arrive f) ((c.arrive f).dispatch f).1 := by
    unfold dispatch
    cases (c.arrive f).pendingHeaderBlock with
    | some pb => exact .refl _
    | none =>
        simp only [f, receiveWindowUpdate, if_true]
        split
        · exact .refl _
        · exact resetStream_still _ _ _
  exact (sound.arrive silent).still (level.trans (c.onFrame_still_after f)) (c.onFrame_onward f)

theorem SendCredit.connectionUpdate (sound : SendCredit c) {increment : Nat}
    (idle : c.pendingHeaderBlock = none) (positive : increment ≠ 0) :
    SendCredit (c.onFrame (.windowUpdate 0 increment)) := by
  let f : Frame := .windowUpdate 0 increment
  have dispatched : (c.arrive f).dispatch f =
      ({ c.arrive f with connSendWindow := c.connSendWindow + increment }, none) := by
    simp only [f, dispatch, Conn.arrive, idle, receiveWindowUpdate, positive, if_false, if_true]
  have fine : ((c.arrive f).dispatch f).2 = none := by rw [dispatched]
  have granted : (c.arrive f).credit 0 = c.credit 0 + increment := by
    rw [credit_arrive]
    simp only [f, Frame.grants, if_true]
  have window := sound.window
  have within := sound.within
  rw [allowance] at within
  rw [onFrame_of_fine fine, dispatched]
  refine ⟨by change 0 ≤ c.connSendWindow + (increment : Int); omega, ?_, ?_, sound.fresh, ?_⟩
  · change c.connSendWindow + (increment : Int) ≤
      specInitialWindow + ((c.arrive f).credit 0 - c.uploaded 0)
    omega
  · intro up
    have exactly := sound.exact up
    rw [allowance] at exactly
    change c.connSendWindow + (increment : Int) =
      specInitialWindow + ((c.arrive f).credit 0 - c.uploaded 0)
    omega
  · intro s member live
    have bound := sound.streams s member live
    have more := grants_nonneg s.id f
    rw [allowance] at bound
    change s.sendWindow ≤ (c.remote.initialWindowSize : Int) +
      ((c.arrive f).credit s.id - c.uploaded s.id)
    rw [credit_arrive]
    omega

theorem SendCredit.streamUpdate (sound : SendCredit c) {id increment : Nat}
    (idle : c.pendingHeaderBlock = none) (positive : increment ≠ 0) (proper : id ≠ 0) :
    SendCredit (c.onFrame (.windowUpdate id increment)) := by
  let f : Frame := .windowUpdate id increment
  have elsewhere : (c.arrive f).credit 0 = c.credit 0 := by
    rw [credit_arrive]
    simp only [f, Frame.grants, proper, if_false, Int.add_zero]
  have logged : SendCredit (c.arrive f) := by
    refine sound.gains (c.arrive_still f).toLevel rfl ?_ fun up => ⟨up, elsewhere⟩
    intro k
    rw [credit_arrive]
    exact Int.le_add_of_nonneg_right (grants_nonneg k f)
  have dispatched : (c.arrive f).dispatch f = (c.arrive f).receiveWindowUpdate id increment := by
    simp only [f, dispatch, Conn.arrive, idle]
  obtain done | done := (c.arrive f).receiveWindowUpdate_stream positive proper
  · rw [done] at dispatched
    rw [onFrame_of_fine (by rw [dispatched]), dispatched]
    exact logged
  · rw [done] at dispatched
    rw [onFrame_of_fine (by rw [dispatched]), dispatched]
    refine ⟨logged.window, logged.within, logged.exact, logged.fresh, ?_⟩
    refine Keyed.forall_update logged.streams ?_
    intro s member same live
    have bound := sound.streams s member live
    rw [allowance] at bound
    have granted : (c.arrive f).credit s.id = c.credit s.id + increment := by
      rw [credit_arrive]
      simp only [f, Frame.grants, same, if_true]
    change s.sendWindow + (increment : Int) ≤ (c.remote.initialWindowSize : Int) +
      ((c.arrive f).credit s.id - c.uploaded s.id)
    omega

/-- The credit of an increment goes to its window, or the frame is refused, or no stream
of the map takes it. -/
theorem SendCredit.windowUpdate (sound : SendCredit c) (id increment : Nat) :
    SendCredit (c.onFrame (.windowUpdate id increment)) := by
  by_cases zero : increment = 0
  · subst zero
    exact sound.zeroUpdate id
  cases pending : c.pendingHeaderBlock with
  | some pb => exact sound.torn pending
  | none =>
      by_cases connection : id = 0
      · subst connection
        exact sound.connectionUpdate pending zero
      · exact sound.streamUpdate pending zero connection

theorem onFrame_sendCredit (sound : SendCredit c) (f : Frame) : SendCredit (c.onFrame f) := by
  cases f with
  | settings ack settings =>
      have logged : SendCredit (c.arrive (.settings ack settings)) := sound.arrive fun _ => rfl
      have onward := c.onFrame_onward (.settings ack settings)
      have before := (c.arrive (.settings ack settings)).dispatch_onward (.settings ack settings)
      refine (logged.settings ack settings).still (c.onFrame_still_after _) ?_
      refine ⟨onward.nextStreamId.trans before.nextStreamId.symm,
        onward.received.trans before.received.symm, ?_⟩
      intro down
      obtain ⟨_, done⟩ | ⟨_, _, _, _, done⟩ | ⟨_, _, _, done⟩ :=
        c.onFrame_cases (.settings ack settings)
      · rw [done]
        exact down
      · rw [done]
        exact (resetStream_onward _ _ _).closed down
      · rw [done]
        exact (connectionError_onward _ _).closed down
  | windowUpdate id increment => exact sound.windowUpdate id increment
  | _ =>
      refine (sound.arrive fun _ => rfl).still (Still.trans (dispatch_still _ ?_ ?_)
        (c.onFrame_still_after _)) (c.onFrame_onward _)
      · intro _ _ same
        cases same
      · intro _ _ same
        cases same

/-! ## Requests and bodies -/

/-- A new stream starts with the initial window and has uploaded nothing. -/
theorem SendCredit.withStream (sound : SendCredit c) (w : Windows) (q : Request) :
    SendCredit (c.withStream w q) := by
  refine ⟨sound.window, sound.within, sound.exact, ?_, ?_⟩
  · intro id fresh
    have later : c.nextStreamId + 2 ≤ id := fresh
    exact sound.fresh id (by omega)
  · intro s inside live
    rcases List.mem_append.1 inside with old | new
    · exact sound.streams s old live
    · obtain rfl : s = c.newStream w q := by simpa using new
      have none := sound.fresh c.nextStreamId (Nat.le_refl _)
      have some := c.credit_nonneg c.nextStreamId
      change (c.remote.initialWindowSize : Int) ≤ c.remote.initialWindowSize +
        (c.credit c.nextStreamId - c.uploaded c.nextStreamId)
      omega

theorem SendCredit.admitRequest (sound : SendCredit c) (w : Windows) (r : Nat) (q : Request) :
    SendCredit (c.admitRequest w r q) := by
  obtain ⟨_, _, done⟩ | ⟨_, _, _, done⟩ | ⟨_, _, _, done⟩ := c.admitRequest_cases w r q
  · rw [done]
    exact sound.still (.of_fields rfl rfl rfl rfl) ⟨rfl, rfl, fun down => down⟩
  · rw [done, openStream_eq]
    refine (sound.withStream w q).still
      ((sendHeaders_still _ _ _ _).trans (.of_fields rfl rfl rfl rfl)) ?_
    exact (sendHeaders_same (c.withStream w q) _ _ _).onward.trans ⟨rfl, rfl, fun down => down⟩
  · rw [done]
    exact sound.still (.of_fields rfl rfl rfl rfl) ⟨rfl, rfl, fun down => down⟩

theorem abort_still (c : Conn H) (r : Nat) (q : Request) (reason : Cause) :
    Still c (c.abort r q reason) := by
  unfold abort abortStream
  simp only
  split
  · exact .of_fields rfl rfl rfl rfl
  · split
    · exact .after ((modify_still _ _ (fail_idle reason)).trans (resetStream_still _ _ _)) rfl rfl rfl
        rfl
    · exact .of_fields rfl rfl rfl rfl
  · exact .of_fields rfl rfl rfl rfl

theorem readBody_still (c : Conn H) (s : Stream) : Still c (c.readBody s) := by
  refine (modify_still c s.id ?_).trans (replenishRecvWindow_still _ _ _)
  refine .of_same fun t => ?_
  unfold Stream.pullBody
  repeat' split
  all_goals exact ⟨rfl, rfl, rfl⟩

theorem cancelBody_still (c : Conn H) (s : Stream) : Still c (c.cancelBody s) := by
  have idle : Idle Stream.cancelBody := .of_same fun _ => ⟨rfl, rfl, rfl⟩
  have returned := (modify_still c s.id idle).trans (replenishRecvWindow_still _ s.id s.recvBuffered)
  unfold cancelBody
  simp only
  split
  · exact returned.trans (resetStream_still _ _ _)
  · exact returned

theorem uploadEnds_level (c : Conn H) (s : Stream) : Level c (c.uploadEnds s) := by
  have unspent : ∀ upload, Unspent fun s => { s with upload } :=
    fun _ _ => ⟨rfl, fun live => ⟨live, rfl⟩⟩
  unfold uploadEnds
  split
  · exact c.modify_level s.id (unspent .idle)
  · refine (c.modify_level s.id (unspent .ending)).trans (send_level _ ?_)
    intro id
    simp only [Frame.spends, DataFrame.flowControlledLength, List.length_nil, Nat.add_zero,
      Int.ofNat_zero, ite_self]

theorem uploadFlushed_level (c : Conn H) (s : Stream) : Level c (c.uploadFlushed s) := by
  refine (c.modify_level s.id ?_).trans (retireIfFullyClosed_still _ _).toLevel
  exact fun _ => ⟨rfl, fun live => ⟨live, rfl⟩⟩

theorem uploadFails_level (c : Conn H) (s : Stream) (cause : Cause) : Level c (c.uploadFails s cause) := by
  have unspent : Unspent fun s => { s.fail cause with upload := .idle } :=
    fun _ => ⟨rfl, fun live => ⟨live, rfl⟩⟩
  have failed := c.modify_level s.id unspent
  unfold uploadFails
  simp only
  split
  · exact failed.trans (resetStream_still _ _ _).toLevel
  · exact failed

/-! ## Slices -/

/-- A slice is paid from both windows. -/
theorem uploaded_uploadSlice (opened : c.closed = false) (s : Stream) (slice : Bytes) (id : Nat) :
    (c.uploadSlice s slice).uploaded id =
      c.uploaded id + if id = 0 ∨ s.id = id then (slice.length : Int) else 0 := by
  have up : ({ c with connSendWindow := c.connSendWindow - slice.length }.modify s.id
      fun s => { s with sendWindow := s.sendWindow - slice.length }).closed = false := opened
  simp only [uploadSlice, send, up, Bool.false_eq_true, if_false, uploaded, List.map_append,
    List.sum_append, List.map_cons, List.map_nil, List.sum_cons, List.sum_nil, Frame.spends,
    DataFrame.flowControlledLength, Nat.add_zero, Int.add_zero]
  rfl

theorem canUpload_iff {s : Stream} {slice : Bytes} : c.canUpload s slice = true ↔
    c.closed = false ∧ s.sendClosed = false ∧ 0 < slice.length ∧
      (slice.length : Int) ≤ c.connSendWindow ∧ (slice.length : Int) ≤ s.sendWindow ∧
      slice.length ≤ c.remote.maxFrameSize := by
  simp only [canUpload, Bool.and_eq_true, Bool.not_eq_true', decide_eq_true_eq, and_assoc]

theorem SendCredit.uploadSlice (sound : SendCredit c) {s : Stream} {slice : Bytes}
    (proper : ∀ t ∈ c.streams, t.id ≠ 0) (member : s ∈ c.streams) (below : s.id < c.nextStreamId)
    (able : c.canUpload s slice = true) :
    SendCredit (c.uploadSlice s slice) := by
  obtain ⟨opened, -, -, connection, -, -⟩ := canUpload_iff.1 able
  have spent := uploaded_uploadSlice opened s slice
  have same := send_same ({ c with connSendWindow := c.connSendWindow - slice.length }.modify s.id
    fun s => { s with sendWindow := s.sendWindow - slice.length })
    (.data { streamId := s.id, data := slice, endStream := false })
  have window : (c.uploadSlice s slice).connSendWindow = c.connSendWindow - slice.length := by
    unfold Conn.uploadSlice send
    split <;> rfl
  have remote : (c.uploadSlice s slice).remote = c.remote := by
    unfold Conn.uploadSlice send
    split <;> rfl
  have credits : ∀ id, (c.uploadSlice s slice).allowance id =
      c.allowance id - if id = 0 ∨ s.id = id then (slice.length : Int) else 0 := by
    intro id
    have logged : (c.uploadSlice s slice).credit id = c.credit id := by
      rw [Conn.credit]
      exact congrArg (fun l => (l.map (Frame.grants id)).sum) same.received
    rw [allowance, logged, spent, allowance]
    omega
  have whole := credits 0
  rw [if_pos (.inl rfl)] at whole
  have within := sound.within
  have exactly := sound.exact opened
  refine ⟨by rw [window]; omega, by rw [window]; omega, fun _ => by rw [window]; omega, ?_, ?_⟩
  · intro id fresh
    have later : c.nextStreamId ≤ id := same.nextStreamId ▸ fresh
    have := proper s member
    rw [spent, if_neg (by omega), Int.add_zero]
    exact sound.fresh id later
  · intro s' inside
    rw [remote, credits]
    have streams : (c.uploadSlice s slice).streams = Keyed.update Stream.id s.id
        (fun s => { s with sendWindow := s.sendWindow - slice.length }) c.streams := same.streams
    rw [streams] at inside
    obtain ⟨t, old, rfl⟩ := Keyed.mem_update.1 inside
    have named := proper t old
    split
    · rename_i own
      intro live
      have bound := sound.streams t old live
      dsimp only at live ⊢
      rw [if_pos (.inr own.symm)]
      omega
    · rename_i other
      intro live
      have bound := sound.streams t old live
      rw [if_neg (by omega)]
      omega

/-! ## Runs -/

theorem step_sendCredit {w : Windows} {e : Event} (numbered : Numbered c) (kept : Kept w c)
    (sound : SendCredit c) (stepped : c.step w e = some c') : SendCredit c' := by
  cases e with
  | request block hasBody =>
      obtain rfl := Option.some.inj stepped
      exact sound.still (.of_fields rfl rfl rfl rfl) ⟨rfl, rfl, fun down => down⟩
  | ready r =>
      obtain ⟨q, _, _, rfl⟩ := c.onRequest_eq_some stepped
      exact sound.admitRequest w r q
  | readyFails r =>
      obtain ⟨q, _, _, rfl⟩ := c.onRequest_eq_some stepped
      exact sound.still (.of_fields rfl rfl rfl rfl) ⟨rfl, rfl, fun down => down⟩
  | resume r =>
      obtain ⟨q, _, _, rfl⟩ := c.onRequest_eq_some stepped
      exact sound.admitRequest w r q
  | abort r reason =>
      simp only [step] at stepped
      repeat' split at stepped
      · cases stepped
      · obtain rfl := Option.some.inj stepped
        exact sound.still (c.abort_still r _ reason) (c.abort_onward r _ reason)
      · cases stepped
  | recv frame =>
      obtain rfl := Option.some.inj stepped
      exact onFrame_sendCredit sound frame
  | read id =>
      obtain ⟨s, _, _, _, rfl⟩ := c.onStream_eq_some stepped
      exact sound.still (c.readBody_still s)
        ((c.modify_onward _ _).trans (replenishRecvWindow_onward _ _ _))
  | cancel id =>
      obtain ⟨s, _, _, _, rfl⟩ := c.onStream_eq_some stepped
      exact sound.still (c.cancelBody_still s) (c.cancelBody_onward s)
  | upload id slice =>
      obtain ⟨s, member, _, enabled, rfl⟩ := c.onStream_eq_some stepped
      have able : c.canUpload s slice = true := by
        simp only [Bool.and_eq_true] at enabled
        exact enabled.2
      have credit := kept.resolve_left (by simp [(canUpload_iff.1 able).1])
      exact sound.uploadSlice (fun t inside => (credit.sound t inside).proper) member
        (numbered.2 s member) able
  | uploadEnds id =>
      obtain ⟨s, _, _, _, rfl⟩ := c.onStream_eq_some stepped
      refine sound.level (c.uploadEnds_level s) ?_
      unfold uploadEnds
      split
      · exact c.modify_onward _ _
      · exact (c.modify_onward _ _).trans (send_same _ _).onward
  | uploadFlushed id =>
      obtain ⟨s, _, _, _, rfl⟩ := c.onStream_eq_some stepped
      exact sound.level (c.uploadFlushed_level s)
        ((c.modify_onward _ _).trans (retireIfFullyClosed_onward _ _))
  | uploadFails id cause =>
      obtain ⟨s, _, _, _, rfl⟩ := c.onStream_eq_some stepped
      exact sound.level (c.uploadFails_level s cause) (c.uploadFails_onward s cause)
  | close =>
      obtain rfl := Option.some.inj stepped
      exact sound.still c.close_still c.close_same.onward
  | closeFlushed =>
      simp only [step] at stepped
      split at stepped
      · obtain rfl := Option.some.inj stepped
        exact sound.still (c.destroy_still _) (c.destroy_onward _)
      · cases stepped
  | malformed code message streamId =>
      obtain rfl := Option.some.inj stepped
      exact sound.still (c.connectionError_still _) (c.connectionError_onward _)
  | lose cause =>
      obtain rfl := Option.some.inj stepped
      exact sound.still (c.destroy_still _) (c.destroy_onward _)

theorem start_sendCredit (H : Hpack) (w : Windows) : SendCredit (Conn.start H w) := by
  have nothing : ∀ id, (Conn.start H w).uploaded id = 0 := by
    intro id
    unfold uploaded Conn.start
    by_cases grown : specInitialWindow < w.connRecvWindow <;> simp [grown, Frame.spends]
  have zero : (Conn.start H w).allowance 0 = 0 := by
    rw [allowance, nothing]
    rfl
  have window : (Conn.start H w).connSendWindow = specInitialWindow := rfl
  refine ⟨by rw [window]; exact Int.natCast_nonneg _, by rw [window, zero]; omega,
    fun _ => by rw [window, zero]; omega, fun id _ => nothing id, ?_⟩
  intro s member
  cases member

/-! ## Pumps -/

theorem map_pump_eq {g : Stream → Stream} (streams : List Stream)
    (same : ∀ s, pump (g s) = pump s) : (streams.map g).map pump = streams.map pump := by
  rw [List.map_map]
  exact List.map_congr_left fun s _ => same s

theorem update_pump_eq {g : Stream → Stream} (id : Nat) (streams : List Stream)
    (same : ∀ s, pump (g s) = pump s) :
    (Keyed.update Stream.id id g streams).map pump = streams.map pump := by
  refine map_pump_eq streams fun s => ?_
  split
  · exact same s
  · rfl

theorem applyRemoteSettings_rest (c : Conn H) (settings : Settings) :
    Rest c (c.applyRemoteSettings settings).1 where
  pumps := by
    obtain ⟨delta, moved⟩ := c.applyRemoteSettings_streams settings
    rw [moved]
    refine map_pump_eq c.streams fun s => ?_
    unfold adjusted
    split <;> rfl
  datas := by
    unfold applyRemoteSettings
    repeat' split
    · rfl
    · exact (applyLimits_still _ settings).datas
    · exact (applyLimits_still _ settings).datas

theorem settings_rest (c : Conn H) (ack : Bool) (settings : Settings) :
    Rest c (c.dispatch (.settings ack settings)).1 := by
  unfold dispatch
  cases c.pendingHeaderBlock with
  | some pb => exact ⟨rfl, rfl⟩
  | none =>
      cases ack with
      | true => exact ⟨rfl, rfl⟩
      | false =>
          have applied := c.applyRemoteSettings_rest settings
          rcases outcome : c.applyRemoteSettings settings with ⟨c₁, _ | cause⟩
          · rw [outcome] at applied
            simp only [outcome]
            exact applied.trans (send_still _ rfl).toRest
          · rw [outcome] at applied
            simp only [outcome]
            exact applied

theorem windowUpdate_rest (c : Conn H) (id increment : Nat) :
    Rest c (c.dispatch (.windowUpdate id increment)).1 := by
  unfold dispatch
  cases c.pendingHeaderBlock with
  | some pb => exact ⟨rfl, rfl⟩
  | none =>
      simp only [receiveWindowUpdate]
      repeat' split
      · exact ⟨rfl, rfl⟩
      · exact (resetStream_still _ _ _).toRest
      · exact ⟨rfl, rfl⟩
      · exact ⟨update_pump_eq id c.streams fun _ => rfl, rfl⟩
      · exact ⟨rfl, rfl⟩

/-- Inbound frames move no pump. -/
theorem onFrame_rest (c : Conn H) (f : Frame) : Rest c (c.onFrame f) := by
  have logged : Rest c (c.arrive f) := ⟨rfl, rfl⟩
  refine (logged.trans ?_).trans (c.onFrame_still_after f).toRest
  cases f with
  | settings ack settings => exact settings_rest _ ack settings
  | windowUpdate id increment => exact windowUpdate_rest _ id increment
  | _ =>
      refine (dispatch_still _ ?_ ?_).toRest
      · intro _ _ same
        cases same
      · intro _ _ same
        cases same

/-- A stream was opened, and nothing else happened to the pumps. -/
def Starts (w : Windows) (c c' : Conn H) : Prop :=
  ∃ q, c'.streams = c.streams ++ [c.newStream w q] ∧
    c'.sent.filterMap asData = c.sent.filterMap asData

theorem admitRequest_rest (c : Conn H) (w : Windows) (r : Nat) (q : Request) :
    Rest c (c.admitRequest w r q) ∨ Starts w c (c.admitRequest w r q) := by
  obtain ⟨_, _, done⟩ | ⟨_, _, _, done⟩ | ⟨_, _, _, done⟩ := c.admitRequest_cases w r q
  · rw [done]
    exact .inl ⟨rfl, rfl⟩
  · rw [done]
    exact .inr ⟨q, c.openStream_streams w r q, (sendHeaders_still (c.withStream w q) _ _ _).datas⟩
  · rw [done]
    exact .inl ⟨rfl, rfl⟩

/-- **Only pumps move pumps.**  Any other event leaves them all, or starts one. -/
theorem step_rest {w : Windows} {e : Event} (other : e.ofPump = false)
    (stepped : c.step w e = some c') : Rest c c' ∨ Starts w c c' := by
  cases e with
  | request block hasBody =>
      obtain rfl := Option.some.inj stepped
      exact .inl ⟨rfl, rfl⟩
  | ready r =>
      obtain ⟨q, _, _, rfl⟩ := c.onRequest_eq_some stepped
      exact c.admitRequest_rest w r q
  | readyFails r =>
      obtain ⟨q, _, _, rfl⟩ := c.onRequest_eq_some stepped
      exact .inl ⟨rfl, rfl⟩
  | resume r =>
      obtain ⟨q, _, _, rfl⟩ := c.onRequest_eq_some stepped
      exact c.admitRequest_rest w r q
  | abort r reason =>
      simp only [step] at stepped
      repeat' split at stepped
      · cases stepped
      · obtain rfl := Option.some.inj stepped
        exact .inl (c.abort_still r _ reason).toRest
      · cases stepped
  | recv frame =>
      obtain rfl := Option.some.inj stepped
      exact .inl (c.onFrame_rest frame)
  | read id =>
      obtain ⟨s, _, _, _, rfl⟩ := c.onStream_eq_some stepped
      exact .inl (c.readBody_still s).toRest
  | cancel id =>
      obtain ⟨s, _, _, _, rfl⟩ := c.onStream_eq_some stepped
      exact .inl (c.cancelBody_still s).toRest
  | upload id slice => cases other
  | uploadEnds id => cases other
  | uploadFlushed id => cases other
  | uploadFails id cause => cases other
  | close =>
      obtain rfl := Option.some.inj stepped
      exact .inl c.close_still.toRest
  | closeFlushed =>
      simp only [step] at stepped
      split at stepped
      · obtain rfl := Option.some.inj stepped
        exact .inl (c.destroy_still _).toRest
      · cases stepped
  | malformed code message streamId =>
      obtain rfl := Option.some.inj stepped
      exact .inl (c.connectionError_still _).toRest
  | lose cause =>
      obtain rfl := Option.some.inj stepped
      exact .inl (c.destroy_still _).toRest

theorem uploadSlice_pumps (c : Conn H) (s : Stream) (slice : Bytes) :
    (c.uploadSlice s slice).streams.map pump = c.streams.map pump := by
  rw [uploadSlice, send_streams]
  exact update_pump_eq s.id c.streams fun _ => rfl

/-- What the pump of stream `s` does to it. -/
theorem uploadEnds_pumps (c : Conn H) (s : Stream) : (c.uploadEnds s).streams.map pump =
    (Keyed.update Stream.id s.id (fun t => { t with
      upload := if c.closed || s.sendClosed || !c.has s.id then .idle else .ending })
      c.streams).map pump := by
  unfold uploadEnds
  split
  · rfl
  · rw [send_streams]
    rfl

theorem uploadFlushed_pumps (c : Conn H) (s : Stream) : (c.uploadFlushed s).streams.map pump =
    (Keyed.update Stream.id s.id (fun t => { t with upload := .idle, localClosed := true })
      c.streams).map pump :=
  (retireIfFullyClosed_still _ _).pumps

theorem uploadFails_pumps (c : Conn H) (s : Stream) (cause : Cause) :
    (c.uploadFails s cause).streams.map pump =
      (Keyed.update Stream.id s.id (fun t => { t with upload := .idle }) c.streams).map pump := by
  have failed : (c.modify s.id fun s => { s.fail cause with upload := .idle }).streams.map pump =
      (Keyed.update Stream.id s.id (fun t => { t with upload := .idle }) c.streams).map pump := by
    simp only [modify_streams, Keyed.update, List.map_map]
    refine List.map_congr_left fun t _ => ?_
    simp only [Function.comp_apply]
    split <;> rfl
  unfold uploadFails
  simp only
  split
  · exact (resetStream_still _ _ _).pumps.trans failed
  · exact failed

/-! ## The streams that upload -/

/-- Only failed and finished streams have left the map. -/
def Gone (s : Stream) : Prop := s.inMap = false → s.sendClosed = true ∨ s.localClosed = true

theorem Gone.retired {s : Stream} (gone : Gone s) : Gone (retired s) := by
  unfold Conn.retired
  split
  · rename_i both
    rw [Bool.and_eq_true] at both
    exact fun _ => .inr both.1
  · exact gone

theorem Gone.halfClosed {s : Stream} (gone : Gone s) (endStream : Bool) :
    Gone (halfClosed endStream s) := by
  unfold Conn.halfClosed
  split
  · exact Gone.retired (s := { s with remoteClosed := true }) gone
  · exact gone

theorem Gone.credited {s : Stream} (gone : Gone s) (n : Int) : Gone (credited n s) := by
  obtain ⟨recvWindow, credit⟩ := credited_eq n s
  rw [credit]
  exact gone

theorem Gone.effect {e : Event} {s s' : Stream} (gone : Gone s) (effect : Effect c e s s') :
    Gone s' := by
  cases effect with
  | keep => exact gone
  | windows => exact gone
  | @data f _ n taken =>
      refine Gone.halfClosed ?_ _
      rw [receiveData_eq]
      exact Gone.credited (s := { s with recvWindow := s.recvWindow - f.flowControlledLength }) gone n
  | headers complete decoded found =>
      refine Gone.halfClosed ?_ _
      rw [receiveHeaders_eq]
      repeat' split
      all_goals exact gone
  | pulled n able =>
      refine Gone.credited ?_ n
      unfold Stream.pullBody
      repeat' split
      all_goals exact gone
  | cancelled n stays => exact Gone.credited (s := s.cancelBody) gone n
  | flushed => exact Gone.retired fun _ => .inr rfl
  | _ => exact fun _ => .inl rfl

theorem step_opened {w : Windows} {e : Event} (distinct : (c.streams.map Stream.id).Nodup)
    (before : ∀ s ∈ c.streams, s.upload ≠ .idle → s.localClosed = false)
    (stepped : c.step w e = some c') :
    ∀ s ∈ c'.streams, s.upload ≠ .idle → s.localClosed = false := by
  -- A pump is its stream's before the event, or was moved there by the event.
  have kept : ∀ {streams : List Stream}, (∀ s ∈ streams, s.upload ≠ .idle → s.localClosed = false) →
      c'.streams.map pump = streams.map pump →
      ∀ s ∈ c'.streams, s.upload ≠ .idle → s.localClosed = false := by
    intro streams all same s' inside
    have pumped : pump s' ∈ streams.map pump := same ▸ List.mem_map_of_mem inside
    obtain ⟨s, member, equal⟩ := List.mem_map.1 pumped
    simp only [pump, Prod.mk.injEq] at equal
    rw [← equal.2.1, ← equal.2.2]
    exact all s member
  cases other : e.ofPump with
  | false =>
      rcases step_rest other stepped with rest | ⟨q, opens, _⟩
      · exact kept before rest.pumps
      · rw [opens]
        intro s inside
        rcases List.mem_append.1 inside with old | new
        · exact before s old
        · obtain rfl : s = c.newStream w q := by simpa using new
          simp only [newStream]
          cases q.hasBody <;> simp
  | true =>
      cases e with
      | upload id slice =>
          obtain ⟨s, _, _, _, rfl⟩ := c.onStream_eq_some stepped
          exact kept before (c.uploadSlice_pumps s slice)
      | uploadEnds id =>
          obtain ⟨s, member, rfl, pumping, rfl⟩ := c.onStream_eq_some stepped
          refine kept ?_ (c.uploadEnds_pumps s)
          refine Keyed.forall_update before fun t inside same _ => ?_
          obtain rfl := List.inj_on_of_nodup_map distinct inside member same
          exact before t member (by simp [of_decide_eq_true pumping])
      | uploadFlushed id =>
          obtain ⟨s, _, _, _, rfl⟩ := c.onStream_eq_some stepped
          refine kept ?_ (c.uploadFlushed_pumps s)
          exact Keyed.forall_update before fun t _ _ busy => absurd rfl busy
      | uploadFails id cause =>
          obtain ⟨s, _, _, _, rfl⟩ := c.onStream_eq_some stepped
          refine kept ?_ (c.uploadFails_pumps s cause)
          exact Keyed.forall_update before fun t _ _ busy => absurd rfl busy
      | _ => cases other

/-- The invariants of a run that the send side needs. -/
structure Uploads (w : Windows) (c : Conn H) : Prop where
  numbered : Numbered c
  kept : Kept w c
  credit : SendCredit c
  opened : ∀ s ∈ c.streams, s.upload ≠ .idle → s.localClosed = false
  gone : ∀ s ∈ c.streams, Gone s

theorem start_uploads (H : Hpack) (w : Windows) : Uploads w (Conn.start H w) where
  numbered := start_numbered H w
  kept := .inr (start_credit H w)
  credit := start_sendCredit H w
  opened := fun _ member => nomatch member
  gone := fun _ member => nomatch member

theorem step_uploads {w : Windows} {e : Event} (sound : Uploads w c)
    (stepped : c.step w e = some c') : Uploads w c' where
  numbered := step_numbered sound.numbered stepped
  kept := step_kept sound.numbered sound.kept stepped
  credit := step_sendCredit sound.numbered sound.kept sound.credit stepped
  opened := step_opened sound.numbered.1 sound.opened stepped
  gone :=
    forall_step sound.numbered.1 stepped (fun s member _ effect => (sound.gone s member).effect effect)
      fun _ live => nomatch live

theorem uploads_of_reaches {w : Windows} (reached : (sessionMachine H w).Reaches Machine.always c) :
    Uploads w c :=
  Machine.Steps.invariant (Uploads w) (fun _ _ _ sound _ stepped => step_uploads sound stepped)
    reached (start_uploads H w)

/-- A stream whose pump may send is in the map. -/
theorem Uploads.inMap {w : Windows} (sound : Uploads w c) {s : Stream} (member : s ∈ c.streams)
    (pumping : s.upload ≠ .idle) (opened : s.sendClosed = false) : s.inMap = true := by
  cases out : s.inMap with
  | true => rfl
  | false =>
      have half := sound.opened s member pumping
      rcases sound.gone s member out with failed | finished
      · exact absurd failed (by simp [opened])
      · exact absurd finished (by simp [half])

/-- **Send credit.**  In every run the bytes uploaded on a connection are within what the
peer granted on it, and while it is up its window is exactly what is left.  A slice that
goes out on a stream is within the credit of that stream under the initial window in
force, and fits a frame. -/
theorem uploads_within_credit {w : Windows}
    (reached : (sessionMachine H w).Reaches Machine.always c) :
    c.uploaded 0 ≤ specInitialWindow + c.credit 0 ∧
      (c.closed = false → c.connSendWindow = specInitialWindow + c.credit 0 - c.uploaded 0) ∧
      ∀ id slice c', c.step w (.upload id slice) = some c' →
        c'.uploaded id ≤ c'.remote.initialWindowSize + c'.credit id ∧
          slice.length ≤ c'.remote.maxFrameSize := by
  have sound := uploads_of_reaches reached
  have window := sound.credit.window
  have within := sound.credit.within
  rw [allowance] at within
  refine ⟨by omega, ?_, ?_⟩
  · intro up
    have exactly := sound.credit.exact up
    rw [allowance] at exactly
    omega
  · intro id slice c' stepped
    obtain ⟨s, member, rfl, enabled, done⟩ := c.onStream_eq_some stepped
    simp only [Bool.and_eq_true, decide_eq_true_eq] at enabled
    obtain ⟨pumping, able⟩ := enabled
    obtain ⟨opened, running, -, -, fits, framed⟩ := canUpload_iff.1 able
    have live := sound.inMap member (by simp [pumping]) running
    have after := step_uploads sound stepped
    have remote : c'.remote = c.remote := by
      rw [done]
      unfold uploadSlice send
      split <;> rfl
    have mine := after.credit.streams { s with sendWindow := s.sendWindow - slice.length } (by
      rw [done, uploadSlice, send_streams]
      exact mem_modify c member fun s => { s with sendWindow := s.sendWindow - slice.length }) live
    rw [allowance] at mine
    dsimp only at mine
    exact ⟨by omega, remote ▸ framed⟩

end Conn

/-- An upload whose stream gets more credit after its first slice. -/
def creditedUpload : List Event :=
  [.request [0x88] true, .ready 0, .upload 1 [1, 2, 3], .recv (.windowUpdate 1 10)]

theorem uploads_within_credit_upload : ∃ c : Conn statusOnly,
    (sessionMachine statusOnly smallWindows).run Machine.always
      (Conn.start statusOnly smallWindows) creditedUpload = some c ∧
    c.uploaded 0 = 3 ∧ c.uploaded 0 ≤ specInitialWindow + c.credit 0 :=
  ⟨_, rfl, rfl, (Conn.uploads_within_credit (Machine.steps_of_run creditedUpload rfl)).1⟩

end GrpcBridge.H2
