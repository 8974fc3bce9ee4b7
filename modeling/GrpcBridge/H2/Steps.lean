/-
# H2.Steps -- what one event can do to a stream

`step_streams` inverts a step of the session once: an event opens one new stream, or
acts on the existing streams one by one, and `Effect` lists everything it can do to
one of them, with the guard of the branch that does it.  An invariant of single
streams is then a case analysis over `Effect` and never looks at an operation again.
-/
import GrpcBridge.H2.Effects

namespace GrpcBridge.H2

open GrpcBridge.Theory

set_option autoImplicit false

variable {H : Hpack}

namespace Conn

/-- The header block a frame completes. -/
def completing (c : Conn H) (f : Frame) : Option PendingHeaderBlock :=
  match c.pendingHeaderBlock, f with
  | some pb, .continuation streamId fragment true =>
      if pb.streamId = streamId then
        sized
          { pb with fragments := pb.fragments ++ [fragment], size := pb.size + fragment.length }
      else none
  | none, .headers streamId fragment endStream true =>
      sized
        { streamId, kind := .response, endStream, fragments := [fragment], size := fragment.length }
  | none, .pushPromise streamId promisedStreamId fragment true =>
      sized
        { streamId, kind := .push, endStream := false, promisedStreamId, fragments := [fragment]
          size := fragment.length }
  | _, _ => none
where
  sized (pb : PendingHeaderBlock) : Option PendingHeaderBlock :=
    if maxHeaderBlockSize < pb.size then none else some pb

/-- A DATA frame its stream takes. -/
def accepts (c : Conn H) (f : DataFrame) (s : Stream) : Bool :=
  c.pendingHeaderBlock.isNone && decide (c.get f.streamId = some s) && !s.remoteClosed &&
    decide ((f.flowControlledLength : Int) ≤ c.connRecvAvailable) &&
    decide ((f.flowControlledLength : Int) ≤ s.recvWindow)

/-- What the decoder has against a header block. -/
def blockError (c : Conn H) (pb : PendingHeaderBlock) : Option HpackError :=
  match (H.decode c.hpack pb.fragments.flatten).2 with
  | .error e => some e
  | .ok _ => none

/-- The header block a frame completes, and what the decoder has against it. -/
def rejected (c : Conn H) (f : Frame) : Option (PendingHeaderBlock × HpackError) :=
  (c.completing f).bind fun pb => (c.blockError pb).map (pb, ·)

/-- A frame that is an error of the connection. -/
def breaks (c : Conn H) (f : Frame) : Bool :=
  match c.pendingHeaderBlock, f with
  | some pb, .continuation streamId fragment _ =>
      decide (pb.streamId ≠ streamId) ||
        decide (maxHeaderBlockSize < pb.size + fragment.length) || garbled
  | some _, _ => true
  | none, .continuation _ _ _ => true
  | none, .headers _ fragment _ _ => decide (maxHeaderBlockSize < fragment.length) || garbled
  | none, .pushPromise _ _ fragment _ => decide (maxHeaderBlockSize < fragment.length) || garbled
  | none, .settings false settings =>
      settings.initialWindowSize.any (fun size => decide (2147483647 < size)) ||
        settings.maxFrameSize.any fun size => decide (size < 16384 ∨ 16777215 < size)
  | none, .data f =>
      decide (c.connRecvAvailable < f.flowControlledLength) ||
        !c.has f.streamId && isIdleInboundStream f.streamId c.nextStreamId c.highestPromised
  | none, .windowUpdate streamId increment => decide (increment = 0) && decide (streamId = 0)
  | none, _ => false
where
  garbled : Bool := (c.rejected f).any fun r => !r.2.ofStream

/-- A frame after which this side resets stream `id`, if it takes the frame at all. -/
def mayReset (c : Conn H) (f : Frame) (id : Nat) : Bool :=
  match f with
  | .data f => decide (f.streamId = id)
  | .windowUpdate streamId increment => decide (streamId = id) && decide (increment = 0)
  | f => (c.rejected f).any fun r => r.2.ofStream && decide (r.1.streamId = id)

/-- An event that tears the connection down. -/
def mayTear (c : Conn H) : Event → Bool
  | .recv (.goaway lastStreamId errorCode debugData) =>
      c.breaks (.goaway lastStreamId errorCode debugData) || decide (errorCode ≠ 0)
  | .recv f => c.breaks f
  | .malformed _ _ _ => true
  | .closeFlushed => true
  | .lose _ => true
  | _ => false

/-- The connection once an inbound frame is logged. -/
def logged (c : Conn H) : Event → Conn H
  | .recv f => c.arrive f
  | _ => c

@[simp] theorem logged_nextStreamId (c : Conn H) (e : Event) :
    (c.logged e).nextStreamId = c.nextStreamId := by
  cases e <;> rfl

@[simp] theorem logged_closed (c : Conn H) (e : Event) : (c.logged e).closed = c.closed := by
  cases e <;> rfl

/-- What an event can do to a stream that exists. -/
inductive Effect (c : Conn H) : Event → Stream → Stream → Prop
  | keep {e : Event} {s : Stream} : Effect c e s s
  | windows {e : Event} {s : Stream} (sendWindow recvWindow : Int) (upload : Upload) :
      Effect c e s { s with sendWindow, recvWindow, upload }
  | data {f : DataFrame} {s : Stream} (n : Int) (taken : c.accepts f s = true) :
      Effect c (.recv (.data f)) s (accepted f n s)
  | headers {f : Frame} {pb : PendingHeaderBlock} {hpack : H.State} {headers : List Header}
      {s : Stream} (complete : c.completing f = some pb)
      (decoded : H.decode c.hpack pb.fragments.flatten = (hpack, .ok headers))
      (found : c.get pb.streamId = some s) (kind : pb.kind = .response) :
      Effect c (.recv f) s (halfClosed pb.endStream (s.receiveHeaders headers pb.endStream))
  | reset {f : Frame} {s : Stream} (cause : Cause) (bare : cause.evidence = none)
      (live : s.inMap = true) (may : c.mayReset f s.id = true) :
      Effect c (.recv f) s (dropped cause s.discardBuffered)
  | peerReset {s : Stream} (errorCode : Nat) (live : s.inMap = true) :
      Effect c (.recv (.rstStream s.id errorCode)) s
        { s.discardBuffered.receiveReset errorCode with inMap := false }
  | excluded {s : Stream} {lastStreamId errorCode : Nat} {debugData : Bytes} (cause : Cause)
      (refused : cause.evidence = some .refused) (live : s.inMap = true)
      (later : lastStreamId < s.id) :
      Effect c (.recv (.goaway lastStreamId errorCode debugData)) s (dropped cause s)
  | torn {e : Event} {s : Stream} (sendWindow : Int) (cause : Cause)
      (raised : e = .lose cause ∨ cause.evidence = none) (live : s.inMap = true)
      (may : c.mayTear e = true) : Effect c e s (dropped cause { s with sendWindow })
  | pulled {s : Stream} (n : Int) (able : readable s = true) :
      Effect c (.read s.id) s (credited n s.pullBody.1)
  | cancelled {s : Stream} (n : Int) (stays : (s.cancelIsLive && s.inMap) = false) :
      Effect c (.cancel s.id) s (credited n s.cancelBody)
  | cancelReset {s : Stream} (n : Int) (cause : Cause) (bare : cause.evidence = none) :
      Effect c (.cancel s.id) s (dropped cause (credited n s.cancelBody).discardBuffered)
  | aborted {r : Nat} {q : Request} {s : Stream} (reason cause : Cause)
      (asked : c.requests[r]? = some q) (opened : q.phase = .opened s.id) (live : s.inMap = true) :
      Effect c (.abort r reason) s (dropped cause (s.fail reason).discardBuffered)
  | flushed {s : Stream} :
      Effect c (.uploadFlushed s.id) s (retired { s with upload := .idle, localClosed := true })
  | uploadFailed {s : Stream} (raised : Cause) (gone : s.inMap = false) :
      Effect c (.uploadFails s.id raised) s { s.fail raised with upload := .idle }
  | uploadReset {s : Stream} (raised cause : Cause) (live : s.inMap = true) :
      Effect c (.uploadFails s.id raised) s
        (dropped cause { s.fail raised with upload := .idle }.discardBuffered)

/-- The streams after an event that opens none. -/
def Acts (c : Conn H) (e : Event) (c' : Conn H) : Prop :=
  ∃ g, c'.streams = c.streams.map g ∧ ∀ s ∈ c.streams, Effect c e s (g s)

theorem Effect.id {c : Conn H} {e : Event} {s s' : Stream} (effect : Effect c e s s') :
    s'.id = s.id := by
  cases effect with
  | data => exact accepted_id _ _ _
  | headers => simp
  | pulled =>
      rw [credited_id, pullBody_id]
  | cancelled => exact credited_id _ _
  | cancelReset => exact credited_id _ _
  | flushed => exact retired_id _
  | _ => rfl

section Acts

variable {c c' : Conn H} {e : Event}

theorem Acts.same (streams : c'.streams = c.streams) : Acts c e c' :=
  ⟨id, by rw [streams, List.map_id], fun _ _ => .keep⟩

theorem unmoved : c.streams = c.streams.map (adjusted 0) := by
  rw [List.map_congr_left fun s _ => adjusted_zero s, List.map_id']

theorem Acts.update (distinct : (c.streams.map Stream.id).Nodup) {s : Stream}
    (member : s ∈ c.streams) {f : Stream → Stream}
    (streams : c'.streams = Keyed.update Stream.id s.id f c.streams) (effect : Effect c e s (f s)) :
    Acts c e c' := by
  refine ⟨_, streams, ?_⟩
  intro t inside
  split
  · rename_i same
    rw [List.inj_on_of_nodup_map distinct inside member same]
    exact effect
  · exact .keep

/-- Every mapped stream is dropped by a teardown. -/
theorem Acts.destroy (streams : ∃ delta, c'.streams = c.streams.map (adjusted delta))
    (may : c.mayTear e = true) {cause : Cause} (raised : e = .lose cause ∨ cause.evidence = none) :
    Acts c e (c'.destroy cause) := by
  obtain ⟨delta, streams⟩ := streams
  by_cases down : c'.closed = true
  · rw [c'.destroy_of_closed down]
    refine ⟨_, streams, ?_⟩
    intro s _
    unfold adjusted
    split
    · exact .windows _ s.recvWindow s.upload
    · exact .keep
  · refine ⟨fun s => if (adjusted delta s).inMap then dropped cause (adjusted delta s)
      else adjusted delta s, ?_, ?_⟩
    · rw [c'.destroy_streams (by simpa using down), streams, List.map_map]
      rfl
    · intro s _
      beta_reduce
      by_cases live : s.inMap = true
      · have moved : adjusted delta s = { s with sendWindow := s.sendWindow + delta } := by
          simp [adjusted, live]
        rw [moved, if_pos live]
        exact .torn _ cause raised live may
      · have fixed : adjusted delta s = s := by simp [adjusted, live]
        rw [fixed, if_neg live]
        exact .keep

theorem Acts.resetStream (distinct : (c.streams.map Stream.id).Nodup) {f : Frame}
    (streams : c'.streams = c.streams) {id : Nat} (may : c.mayReset f id = true)
    (code : ErrorCode) : Acts c (.recv f) (c'.resetStream id code) := by
  cases found : c'.get id with
  | none =>
      rw [c'.resetStream_of_missing code found]
      exact .same ((c'.send_streams _).trans streams)
  | some s =>
      have reset := c'.resetStream_streams code found
      obtain ⟨member, rfl, live⟩ := c'.get_eq_some found
      rw [streams] at member reset
      exact .update distinct member reset (.reset _ rfl live may)

/-! ## Inbound frames -/

/-- What the dispatch of a frame leaves: streams it acted on, a connection to tear
down, or one stream to reset. -/
def Outcome (c : Conn H) (f : Frame) (r : Conn H × Option Cause) : Prop :=
  (r.2 = none ∧ Acts c (.recv f) r.1) ∨
  (tearsDown r.2 = true ∧ (∀ cause ∈ r.2, cause.evidence = none) ∧ c.mayTear (.recv f) = true ∧
    ∃ delta, r.1.streams = c.streams.map (adjusted delta)) ∨
  ∃ error id, r.2 = some (.h2 error) ∧ error.streamId = some id ∧ r.1.streams = c.streams ∧
    c.mayReset f id = true

theorem Outcome.acts {f : Frame} {c₁ : Conn H} (acts : Acts c (.recv f) c₁) :
    Outcome c f (c₁, none) := .inl ⟨rfl, acts⟩

theorem Outcome.tears {f : Frame} {c₁ : Conn H} {cause : Cause}
    (streams : c₁.streams = c.streams) (torn : tearsDown (some cause) = true)
    (bare : cause.evidence = none) (may : c.mayTear (.recv f) = true) :
    Outcome c f (c₁, some cause) := by
  refine .inr (.inl ⟨torn, ?_, may, 0, streams.trans unmoved⟩)
  rintro _ ⟨⟩
  exact bare

theorem completeHeaderBlock_error {pb : PendingHeaderBlock} {error : H2Error}
    (thrown : (c.completeHeaderBlock pb).2 = some (.h2 error)) :
    ∃ e, c.blockError pb = some e ∧
      error.streamId = if e.ofStream then some pb.streamId else none := by
  rcases outcome : H.decode c.hpack pb.fragments.flatten with ⟨hpack, _ | headers⟩
  · rename_i e
    simp only [completeHeaderBlock, outcome, Option.some.injEq, Cause.h2.injEq] at thrown
    exact ⟨e, by rw [blockError, outcome], by rw [← thrown]⟩
  · simp only [completeHeaderBlock, outcome] at thrown
    repeat' split at thrown
    all_goals cases thrown

theorem acceptHeaderBlock_outcome (distinct : (c.streams.map Stream.id).Nodup) {f : Frame}
    (pb : PendingHeaderBlock) (endHeaders : Bool)
    (complete : endHeaders = true → c.completing f = completing.sized pb)
    (oversized : maxHeaderBlockSize < pb.size → c.mayTear (.recv f) = true)
    (garbled : (∃ r, c.rejected f = some r ∧ r.2.ofStream = false) → c.mayTear (.recv f) = true)
    (resets : ∀ r, c.rejected f = some r → r.2.ofStream = true →
      c.mayReset f r.1.streamId = true) :
    Outcome c f ((c.arrive f).acceptHeaderBlock pb endHeaders) := by
  unfold acceptHeaderBlock
  simp only
  split
  · rename_i large
    exact .tears rfl rfl rfl (oversized large)
  split
  · rename_i small ended
    have completes : c.completing f = some pb := by
      rw [complete ended, completing.sized, if_neg small]
    obtain ⟨hpack, ⟨error, bare, -, done⟩ | done | ⟨headers, decoded, kind, known, done⟩ | done⟩ :=
      { c.arrive f with pendingHeaderBlock := some pb }.completeHeaderBlock_cases pb
    · obtain ⟨e, refused, ofStream⟩ := completeHeaderBlock_error (by rw [done])
      have refused : c.rejected f = some (pb, e) := by
        rw [rejected, completes, Option.bind_some, show c.blockError pb = some e from refused]
        rfl
      rw [done]
      cases stream : e.ofStream with
      | false =>
          have connection : error.streamId = none := by rw [ofStream, stream]; rfl
          exact .tears rfl (by simp [tearsDown, connection]) bare (garbled ⟨_, refused, stream⟩)
      | true =>
          have stream' : error.streamId = some pb.streamId := by rw [ofStream, stream]; rfl
          exact .inr (.inr ⟨error, _, rfl, stream', rfl, resets _ refused stream⟩)
    · rw [done]
      exact .acts (.same (send_streams _ _))
    · rw [done]
      obtain ⟨s, found⟩ := Option.isSome_iff_exists.1 known
      have found : c.get pb.streamId = some s := found
      obtain ⟨member, same, _⟩ := c.get_eq_some found
      refine .acts (.update distinct member (f := fun s =>
        halfClosed pb.endStream (s.receiveHeaders headers pb.endStream)) ?_
        (.headers completes decoded found kind))
      rw [same, peerEnds_streams, modify_streams, Keyed.update_update]
      · rfl
      · intro s
        simp
      · exact modify_distinct _ distinct _ fun s => by simp
    · rw [done]
      exact .acts (.same rfl)
  · exact .acts (.same rfl)

theorem bounce_highestPromised (f : DataFrame) :
    (c.bounce f).highestPromised = c.highestPromised := by
  unfold bounce replenishConnectionWindow send
  repeat' split
  all_goals rfl

theorem receiveDataFrame_outcome (distinct : (c.streams.map Stream.id).Nodup)
    (pending : c.pendingHeaderBlock = none) (f : DataFrame) :
    Outcome c (.data f) ((c.arrive (.data f)).receiveDataFrame f) := by
  have may : c.mayReset (.data f) f.streamId = true := by simp [mayReset]
  have kept : ((c.arrive (.data f)).bounce f).streams = c.streams :=
    replenishConnectionWindow_streams _ _
  have looked : (c.arrive (.data f)).get f.streamId = c.get f.streamId := rfl
  rw [receiveDataFrame_eq]
  split
  · rename_i exceeds
    have exceeds : c.connRecvAvailable < f.flowControlledLength := exceeds
    exact .tears rfl rfl rfl (by simp [mayTear, breaks, pending, exceeds])
  rename_i room
  cases found : c.get f.streamId with
  | some s =>
      rw [looked, found]
      simp only
      split
      · exact .acts (.resetStream distinct kept may _)
      split
      · exact .acts (.resetStream distinct kept may _)
      · rename_i started fits
        obtain ⟨member, same, _⟩ := c.get_eq_some found
        have room : (f.flowControlledLength : Int) ≤ c.connRecvAvailable := by
          simpa [arrive] using room
        have taken : c.accepts f s = true := by
          simpa [accepts, pending, found, room, started] using fits
        have streams := (c.arrive (.data f)).acceptData_streams distinct found
        rw [← same] at streams
        exact .acts (.update distinct member streams (.data _ taken))
  | none =>
      rw [looked, found]
      simp only
      split
      · rename_i idle
        have bounced := bounce_onward (c.arrive (.data f)) f
        rw [bounced.nextStreamId, bounce_highestPromised] at idle
        have idle : isIdleInboundStream f.streamId c.nextStreamId c.highestPromised = true := idle
        exact .tears kept rfl rfl (by simp [mayTear, breaks, pending, has, found, idle])
      · exact .acts (.same ((send_streams _ _).trans kept))

theorem receiveGoaway_acts (lastStreamId errorCode : Nat) (debugData : Bytes) :
    Acts c (.recv (.goaway lastStreamId errorCode debugData))
      ((c.arrive (.goaway lastStreamId errorCode debugData)).receiveGoaway lastStreamId
        errorCode) := by
  let code := (errorCodeName errorCode).getD .noError
  let e : Event := .recv (.goaway lastStreamId errorCode debugData)
  have effect : ∀ s : Stream, Effect c e s (excluded code lastStreamId s) := by
    intro s
    unfold excluded
    split
    · rename_i out
      obtain ⟨live, later⟩ : s.inMap = true ∧ lastStreamId < s.id := by simpa using out
      exact .excluded _ rfl live later
    · exact .keep
  have streams := (c.arrive (.goaway lastStreamId errorCode debugData)).exclude_streams code
    lastStreamId
  rw [receiveGoaway_eq]
  simp only
  split
  · rename_i fatal
    have may : c.mayTear e = true := by simp [e, mayTear, fatal]
    generalize (c.arrive (.goaway lastStreamId errorCode debugData)).exclude code lastStreamId =
      going at streams
    by_cases down : going.closed = true
    · rw [going.destroy_of_closed down]
      exact ⟨_, streams, fun s _ => effect s⟩
    · rw [Acts, going.destroy_streams (by simpa using down), streams, List.map_map]
      refine ⟨_, rfl, ?_⟩
      intro s _
      simp only [Function.comp]
      split
      · rename_i live
        have kept : excluded code lastStreamId s = s := by
          unfold excluded at live ⊢
          split
          · rename_i out
            rw [if_pos out] at live
            cases live
          · rfl
        rw [kept] at live ⊢
        exact .torn s.sendWindow _ (.inr rfl) live may
      · exact effect s
  · exact ⟨_, streams, fun s _ => effect s⟩

theorem receiveRstStream_acts (distinct : (c.streams.map Stream.id).Nodup) (id errorCode : Nat) :
    Acts c (.recv (.rstStream id errorCode))
      ((c.arrive (.rstStream id errorCode)).receiveRstStream id errorCode) := by
  cases found : c.get id with
  | none =>
      have missing : (c.arrive (.rstStream id errorCode)).get id = none := found
      rw [receiveRstStream, missing]
      exact .same rfl
  | some s =>
      have streams := (c.arrive (.rstStream id errorCode)).receiveRstStream_streams errorCode found
      obtain ⟨member, rfl, live⟩ := c.get_eq_some found
      exact .update distinct member streams (.peerReset errorCode live)

theorem receiveWindowUpdate_outcome (distinct : (c.streams.map Stream.id).Nodup)
    (pending : c.pendingHeaderBlock = none) (id increment : Nat) : Outcome c (.windowUpdate id increment)
      ((c.arrive (.windowUpdate id increment)).receiveWindowUpdate id increment) := by
  unfold receiveWindowUpdate
  split
  · rename_i zero
    split
    · rename_i connection
      exact .tears rfl rfl rfl (by simp [mayTear, breaks, pending, zero, connection])
    · have streams : (c.arrive (.windowUpdate id increment)).streams = c.streams := rfl
      exact .acts (.resetStream distinct streams (by simp [mayReset, zero]) _)
  split
  · exact .acts (.same rfl)
  split
  · refine .acts ⟨_, rfl, ?_⟩
    intro s _
    beta_reduce
    split
    · exact .windows _ s.recvWindow s.upload
    · exact .keep
  · exact .acts (.same rfl)

/-- What is refused of settings. -/
theorem applyRemoteSettings_refuses (settings : Settings) (cause : Cause)
    (thrown : (c.applyRemoteSettings settings).2 = some cause) :
    (settings.initialWindowSize.any fun size => decide (2147483647 < size)) = true ∨
      (settings.maxFrameSize.any fun size => decide (size < 16384 ∨ 16777215 < size)) = true := by
  have rest : ∀ c : Conn H, (applyRemoteSettings.applyRest c settings).2 = none := by
    intro c
    unfold applyRemoteSettings.applyRest
    split <;> rfl
  have limits : ∀ c : Conn H, (applyRemoteSettings.applyLimits c settings).2 = some cause →
      (settings.maxFrameSize.any fun size => decide (size < 16384 ∨ 16777215 < size)) = true := by
    intro c
    unfold applyRemoteSettings.applyLimits
    split
    · rename_i size given
      split
      · rename_i outside
        intro _
        simp [given, outside]
      · simp [rest]
    · simp [rest]
  unfold applyRemoteSettings at thrown
  split at thrown
  · rename_i size given
    split at thrown
    · rename_i large
      exact .inl (by simp [given, large])
    · exact .inr (limits _ thrown)
  · exact .inr (limits _ thrown)

theorem settings_outcome (pending : c.pendingHeaderBlock = none) (settings : Settings) :
    Outcome c (.settings false settings)
      (match (c.arrive (.settings false settings)).applyRemoteSettings settings with
        | (c, some cause) => (c, some cause)
        | (c, none) => (c.send (.settings true {}), none)) := by
  obtain ⟨delta, streams⟩ :=
    (c.arrive (.settings false settings)).applyRemoteSettings_streams settings
  rcases applied : (c.arrive (.settings false settings)).applyRemoteSettings settings with
    ⟨c', _ | cause⟩
  · rw [applied] at streams
    refine .acts ⟨_, (send_streams _ _).trans streams, ?_⟩
    intro s _
    unfold adjusted
    split
    · exact .windows _ s.recvWindow s.upload
    · exact .keep
  · obtain ⟨torn, bare⟩ := applyRemoteSettings_tearsDown _ settings cause (by rw [applied])
    have refused := applyRemoteSettings_refuses (c := c.arrive (.settings false settings)) settings
      cause (by rw [applied])
    have may : c.mayTear (.recv (.settings false settings)) = true := by
      simpa [mayTear, breaks, pending] using refused
    rw [applied] at streams
    refine .inr (.inl ⟨torn, ?_, may, delta, streams⟩)
    rintro _ ⟨⟩
    exact bare

theorem dispatch_outcome (distinct : (c.streams.map Stream.id).Nodup) (f : Frame) :
    Outcome c f ((c.arrive f).dispatch f) := by
  cases pending : c.pendingHeaderBlock with
  | some pb =>
      have still : (c.arrive f).pendingHeaderBlock = some pb := pending
      unfold dispatch
      rw [still]
      cases f with
      | continuation streamId fragment endHeaders =>
          simp only
          split
          · rename_i same
            refine acceptHeaderBlock_outcome distinct _ _ ?_ ?_ ?_ ?_
            · rintro rfl
              simp only [completing, pending, if_pos same]
            · intro large
              simp [mayTear, breaks, pending, large]
            · rintro ⟨r, refused, connection⟩
              simp [mayTear, breaks, breaks.garbled, pending, refused, connection]
            · intro r refused stream
              simp [mayReset, refused, stream]
          · rename_i other
            exact .tears rfl rfl rfl (by simp [mayTear, breaks, pending, other])
      | _ => exact .tears rfl rfl rfl (by simp [mayTear, breaks, pending])
  | none =>
      have still : (c.arrive f).pendingHeaderBlock = none := pending
      unfold dispatch
      rw [still]
      cases f with
      | continuation streamId fragment endHeaders =>
          exact .tears rfl rfl rfl (by simp [mayTear, breaks, pending])
      | data f => exact receiveDataFrame_outcome distinct pending f
      | headers streamId fragment endStream endHeaders =>
          refine acceptHeaderBlock_outcome distinct _ _ ?_ ?_ ?_ ?_
          · rintro rfl
            simp only [completing, pending]
          · intro large
            simp [mayTear, breaks, pending, large]
          · rintro ⟨r, refused, connection⟩
            simp [mayTear, breaks, breaks.garbled, pending, refused, connection]
          · intro r refused stream
            simp [mayReset, refused, stream]
      | pushPromise streamId promisedStreamId fragment endHeaders =>
          refine acceptHeaderBlock_outcome distinct _ _ ?_ ?_ ?_ ?_
          · rintro rfl
            simp only [completing, pending]
          · intro large
            simp [mayTear, breaks, pending, large]
          · rintro ⟨r, refused, connection⟩
            simp [mayTear, breaks, breaks.garbled, pending, refused, connection]
          · intro r refused stream
            simp [mayReset, refused, stream]
      | priority streamId => exact .acts (.same rfl)
      | rstStream streamId errorCode =>
          exact .acts (receiveRstStream_acts distinct streamId errorCode)
      | settings ack settings =>
          cases ack with
          | true => exact .acts (.same rfl)
          | false => exact settings_outcome pending settings
      | ping ack opaqueData =>
          cases ack with
          | true => exact .acts (.same rfl)
          | false => exact .acts (.same (send_streams _ _))
      | goaway lastStreamId errorCode debugData =>
          exact .acts (receiveGoaway_acts lastStreamId errorCode debugData)
      | windowUpdate streamId increment =>
          exact receiveWindowUpdate_outcome distinct pending streamId increment

theorem onFrame_acts (distinct : (c.streams.map Stream.id).Nodup) (f : Frame) :
    Acts c (.recv f) (c.onFrame f) := by
  obtain ⟨nothing, done⟩ | ⟨error, id, thrown, ofStream, done⟩ | ⟨cause, raised, torn, done⟩ :=
    c.onFrame_cases f
  · rw [done]
    rcases dispatch_outcome distinct f with ⟨_, acts⟩ | ⟨tears, _⟩ | ⟨_, _, raised, _⟩
    · exact acts
    · rw [nothing] at tears
      cases tears
    · rw [nothing] at raised
      cases raised
  · rw [done]
    rcases dispatch_outcome distinct f with ⟨calm, _⟩ | ⟨tears, _⟩ |
      ⟨raised, id', same, ofStream', streams, may⟩
    · rw [thrown] at calm
      cases calm
    · rw [thrown] at tears
      simp [tearsDown, ofStream] at tears
    · rw [thrown] at same
      cases same
      rw [ofStream] at ofStream'
      cases ofStream'
      exact .resetStream distinct streams may _
  · rw [done]
    rcases dispatch_outcome distinct f with ⟨calm, _⟩ | ⟨_, bare, may, streams⟩ |
      ⟨_, id', same, ofStream', _⟩
    · rw [calm] at torn
      cases torn
    · exact .destroy (by simpa using streams) may (.inr (bare cause raised))
    · rw [same] at torn
      simp [tearsDown, ofStream'] at torn

/-! ## Requests and bodies -/

theorem abort_acts (distinct : (c.streams.map Stream.id).Nodup) {r : Nat} {q : Request}
    (asked : c.requests[r]? = some q) (reason : Cause) :
    Acts c (.abort r reason) (c.abort r q reason) := by
  unfold abort
  simp only
  split
  · exact .same rfl
  · rename_i id opened
    unfold abortStream
    split
    · rename_i known
      obtain ⟨s, found⟩ := Option.isSome_iff_exists.1 known
      have streams := modify_resetStream_streams _ found (f := (·.fail reason))
        (fun _ => ⟨rfl, rfl⟩) .cancel
      obtain ⟨member, rfl, live⟩ := get_eq_some _ found
      exact .update distinct member streams (.aborted reason _ asked opened live)
    · exact .same rfl
  · exact .same rfl

theorem readBody_acts (distinct : (c.streams.map Stream.id).Nodup) {s : Stream}
    (member : s ∈ c.streams) (able : readable s = true) : Acts c (.read s.id) (c.readBody s) := by
  have streams := c.consume_streams distinct member (f := (·.pullBody.1)) pullBody_id s.pullBody.2
  exact .update distinct member streams (.pulled _ able)

theorem cancelBody_acts (distinct : (c.streams.map Stream.id).Nodup) {s : Stream}
    (member : s ∈ c.streams) : Acts c (.cancel s.id) (c.cancelBody s) := by
  have streams := c.consume_streams distinct member (f := Stream.cancelBody) (fun _ => rfl)
    s.recvBuffered
  unfold cancelBody
  generalize (c.modify s.id Stream.cancelBody).replenishRecvWindow s.id s.recvBuffered = returned
    at streams
  have inside : credited (c.granting s.recvBuffered) s.cancelBody ∈ returned.streams := by
    rw [streams, Keyed.mem_update]
    exact ⟨s, member, if_pos rfl⟩
  have kept : (returned.streams.map Stream.id).Nodup := by
    rw [streams, Keyed.map_key_update _ fun s => by rw [credited_id]; rfl]
    exact distinct
  simp only
  split
  · rename_i resets
    obtain ⟨_, known⟩ : s.cancelIsLive = true ∧ returned.has s.id = true := by
      simpa using resets
    obtain ⟨t, found⟩ := Option.isSome_iff_exists.1 known
    have reset := returned.resetStream_streams .cancel found
    rw [streams, Keyed.update_update _ fun s => by rw [credited_id]; rfl] at reset
    exact .update distinct member reset (.cancelReset _ _ rfl)
  · rename_i stays
    refine .update distinct member streams (.cancelled _ ?_)
    cases live : s.inMap with
    | false => exact Bool.and_false _
    | true =>
        have known := returned.get_of_mem kept inside (by rw [credited_inMap]; exact live)
        rw [credited_id] at known
        change returned.get s.id = _ at known
        simpa [has, known] using stays

theorem uploadFails_acts (distinct : (c.streams.map Stream.id).Nodup) {s : Stream}
    (member : s ∈ c.streams) (cause : Cause) :
    Acts c (.uploadFails s.id cause) (c.uploadFails s cause) := by
  let failed (s : Stream) : Stream := { s.fail cause with upload := .idle }
  unfold uploadFails
  simp only
  cases live : s.inMap with
  | true =>
      have found := c.get_of_mem distinct member live
      have known : (c.modify s.id failed).has s.id = true := by
        rw [has, c.get_modify (f := failed) found fun _ => ⟨rfl, rfl⟩]
        rfl
      have streams := c.modify_resetStream_streams (f := failed) found (fun _ => ⟨rfl, rfl⟩) .cancel
      rw [if_pos known]
      exact .update distinct member streams (.uploadReset cause _ live)
  | false =>
      have unknown : ¬ (c.modify s.id failed).has s.id = true := by
        rw [has, c.get_modify_eq s.id (f := failed) fun _ => ⟨rfl, rfl⟩,
          c.get_of_gone distinct member live]
        exact Bool.false_ne_true
      rw [if_neg unknown]
      exact .update distinct member rfl (.uploadFailed cause live)

theorem uploadFlushed_acts (distinct : (c.streams.map Stream.id).Nodup) {s : Stream}
    (member : s ∈ c.streams) : Acts c (.uploadFlushed s.id) (c.uploadFlushed s) := by
  have streams : (c.uploadFlushed s).streams = Keyed.update Stream.id s.id
      (fun s => retired { s with upload := .idle, localClosed := true }) c.streams := by
    rw [uploadFlushed, retireIfFullyClosed_streams, modify_streams, Keyed.update_update]
    · rfl
    · intro _
      rfl
    · exact c.modify_distinct distinct _ fun _ => rfl
  exact .update distinct member streams .flushed

theorem admitRequest_streams {w : Windows} {r : Nat} {q : Request} :
    (Acts c e (c.admitRequest w r q) ∧ Onward c (c.admitRequest w r q)) ∨
      (c.closed = false ∧ (c.admitRequest w r q).closed = false ∧
        (c.admitRequest w r q).streams = c.streams ++ [c.newStream w q] ∧
        (c.admitRequest w r q).nextStreamId = c.nextStreamId + 2 ∧
        (c.admitRequest w r q).received = c.received) := by
  obtain ⟨_, _, done⟩ | ⟨opened, _, _, done⟩ | ⟨_, _, _, done⟩ := c.admitRequest_cases w r q
  · rw [done]
    exact .inl ⟨.same rfl, rfl, rfl, fun down => down⟩
  · rw [done]
    exact .inr ⟨opened, (c.openStream_closed w r q).trans opened, c.openStream_streams w r q,
      (sendHeaders_same (c.withStream w q) _ _ _).nextStreamId,
      (sendHeaders_same (c.withStream w q) _ _ _).received⟩
  · rw [done]
    exact .inl ⟨.same rfl, rfl, rfl, fun down => down⟩

/-- **One event.**  It acts on the streams one by one, or opens a stream on a
connection that is up. -/
theorem step_streams {w : Windows} (distinct : (c.streams.map Stream.id).Nodup)
    (stepped : c.step w e = some c') :
    (Acts c e c' ∧ Onward (c.logged e) c') ∨
      (c.closed = false ∧ c'.closed = false ∧
        ∃ q, c'.streams = c.streams ++ [c.newStream w q] ∧
          c'.nextStreamId = c.nextStreamId + 2 ∧ c'.received = c.received) := by
  cases e with
  | request block hasBody =>
      obtain rfl := Option.some.inj stepped
      exact .inl ⟨.same rfl, rfl, rfl, fun down => down⟩
  | ready r =>
      obtain ⟨q, _, _, rfl⟩ := c.onRequest_eq_some stepped
      exact admitRequest_streams.imp_right fun ⟨up, still, opens⟩ => ⟨up, still, q, opens⟩
  | readyFails r =>
      obtain ⟨q, _, _, rfl⟩ := c.onRequest_eq_some stepped
      exact .inl ⟨.same rfl, rfl, rfl, fun down => down⟩
  | resume r =>
      obtain ⟨q, _, _, rfl⟩ := c.onRequest_eq_some stepped
      exact admitRequest_streams.imp_right fun ⟨up, still, opens⟩ => ⟨up, still, q, opens⟩
  | abort r reason =>
      simp only [step] at stepped
      repeat' split at stepped
      · cases stepped
      · obtain rfl := Option.some.inj stepped
        exact .inl ⟨abort_acts distinct ‹_› reason, c.abort_onward r _ reason⟩
      · cases stepped
  | recv frame =>
      obtain rfl := Option.some.inj stepped
      exact .inl ⟨onFrame_acts distinct frame, c.onFrame_onward frame⟩
  | read id =>
      obtain ⟨s, member, rfl, able, rfl⟩ := c.onStream_eq_some stepped
      exact .inl ⟨readBody_acts distinct member able,
        (c.modify_onward _ _).trans (replenishRecvWindow_onward _ _ _)⟩
  | cancel id =>
      obtain ⟨s, member, rfl, _, rfl⟩ := c.onStream_eq_some stepped
      exact .inl ⟨cancelBody_acts distinct member, c.cancelBody_onward s⟩
  | upload id slice =>
      obtain ⟨s, member, rfl, _, rfl⟩ := c.onStream_eq_some stepped
      refine .inl ⟨⟨_, send_streams _ _, ?_⟩, .after (send_same _ _).onward rfl rfl rfl⟩
      intro t _
      beta_reduce
      split
      · exact .windows _ t.recvWindow t.upload
      · exact .keep
  | uploadEnds id =>
      obtain ⟨s, member, rfl, _, rfl⟩ := c.onStream_eq_some stepped
      left
      unfold uploadEnds
      split
      · exact ⟨.update distinct member rfl (.windows s.sendWindow s.recvWindow .idle),
          c.modify_onward _ _⟩
      · exact ⟨.update distinct member (send_streams _ _)
          (.windows s.sendWindow s.recvWindow .ending),
          (c.modify_onward _ _).trans (send_same _ _).onward⟩
  | uploadFlushed id =>
      obtain ⟨s, member, rfl, _, rfl⟩ := c.onStream_eq_some stepped
      exact .inl ⟨uploadFlushed_acts distinct member,
        (c.modify_onward _ _).trans (retireIfFullyClosed_onward _ _)⟩
  | uploadFails id cause =>
      obtain ⟨s, member, rfl, _, rfl⟩ := c.onStream_eq_some stepped
      exact .inl ⟨uploadFails_acts distinct member cause, c.uploadFails_onward s cause⟩
  | close =>
      obtain rfl := Option.some.inj stepped
      exact .inl ⟨.same c.close_same.streams, c.close_same.onward⟩
  | closeFlushed =>
      simp only [step] at stepped
      split at stepped
      · obtain rfl := Option.some.inj stepped
        exact .inl ⟨.destroy ⟨0, unmoved⟩ rfl (.inr rfl), c.destroy_onward _⟩
      · cases stepped
  | malformed code message streamId =>
      obtain rfl := Option.some.inj stepped
      have streams := c.send_streams (.goaway c.highestPromised (errorCodeValue code) [])
      exact .inl ⟨.destroy ⟨0, streams.trans unmoved⟩ rfl (.inr rfl), c.connectionError_onward _⟩
  | lose cause =>
      obtain rfl := Option.some.inj stepped
      exact .inl ⟨.destroy ⟨0, unmoved⟩ rfl (.inl rfl), c.destroy_onward _⟩

/-- **Invariants of single streams.**  What every effect of an event gives, and a new
stream has, every stream has after the event. -/
theorem forall_step {w : Windows} {P : Stream → Prop} (distinct : (c.streams.map Stream.id).Nodup)
    (stepped : c.step w e = some c')
    (effects : ∀ s ∈ c.streams, ∀ s', Effect c e s s' → P s')
    (opens : ∀ q, P (c.newStream w q)) : ∀ s ∈ c'.streams, P s := by
  intro s' inside
  rcases step_streams distinct stepped with ⟨⟨g, streams, effect⟩, _⟩ | ⟨_, _, q, streams, _⟩
  · rw [streams] at inside
    obtain ⟨s, member, rfl⟩ := List.mem_map.1 inside
    exact effects s member _ (effect s member)
  · rw [streams] at inside
    rcases List.mem_append.1 inside with old | new
    · exact effects s' old s' .keep
    · obtain rfl : s' = c.newStream w q := by simpa using new
      exact opens q

/-! ## Distinct stream ids -/

/-- Streams have distinct ids below the next one. -/
def Numbered (c : Conn H) : Prop :=
  (c.streams.map Stream.id).Nodup ∧ ∀ s ∈ c.streams, s.id < c.nextStreamId

theorem start_numbered (H : Hpack) (w : Windows) : Numbered (Conn.start H w) := by
  refine ⟨List.nodup_nil, ?_⟩
  intro s member
  cases member

theorem step_numbered {w : Windows} (numbered : Numbered c) (stepped : c.step w e = some c') :
    Numbered c' := by
  obtain ⟨distinct, below⟩ := numbered
  rcases step_streams distinct stepped with ⟨⟨g, streams, effect⟩, onward⟩ |
    ⟨_, _, q, streams, next, _⟩
  · have ids : c'.streams.map Stream.id = c.streams.map Stream.id := by
      rw [streams, List.map_map]
      exact List.map_congr_left fun s member => (effect s member).id
    refine ⟨ids ▸ distinct, ?_⟩
    intro t inside
    rw [streams] at inside
    obtain ⟨s, member, rfl⟩ := List.mem_map.1 inside
    rw [(effect s member).id, onward.nextStreamId, logged_nextStreamId]
    exact below s member
  · rw [Numbered, streams, next]
    refine ⟨?_, ?_⟩
    · rw [List.map_append, List.map_cons, List.map_nil]
      refine List.nodup_append.2 ⟨distinct, List.nodup_singleton _, ?_⟩
      intro id old other new same
      obtain ⟨s, member, rfl⟩ := List.mem_map.1 old
      have := below s member
      have : other = c.nextStreamId := by simpa [newStream] using new
      omega
    · intro s inside
      rcases List.mem_append.1 inside with old | new
      · have := below s old
        omega
      · obtain rfl : s = c.newStream w q := by simpa using new
        simp [newStream]

theorem step_closed {w : Windows} (numbered : Numbered c) (down : c.closed = true)
    (stepped : c.step w e = some c') : c'.closed = true := by
  rcases step_streams numbered.1 stepped with ⟨_, onward⟩ | ⟨up, _⟩
  · exact onward.closed ((c.logged_closed e).trans down)
  · rw [down] at up
    cases up

end Acts

end Conn

end GrpcBridge.H2
