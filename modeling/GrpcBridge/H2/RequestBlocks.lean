/-
# H2.RequestBlocks -- the header blocks a session sends

A request has one header block on the wire, on its own stream and whole: no frame comes
between its HEADERS and its CONTINUATION frames, however small the peer's frames are.
`Holds` follows a request with its stream from one event to the next, and
`headers_of_reaches` reads the blocks off the frames sent.  No frame outgrows its length
field either, so that a decoder never loses its place (`takeFrame_of_reaches`).
-/
import GrpcBridge.H2.CodecRoundTrip
import GrpcBridge.H2.HeaderBlocks

namespace GrpcBridge.H2

open GrpcBridge.Theory GrpcBridge.Theory.Fragments

set_option autoImplicit false

variable {H : Hpack}

/-- The connection sends its HEADERS without a priority. -/
theorem encodeBody_weight {f : WireFrame}
    (bare : ∀ id fragment endStream endHeaders priority,
      f ≠ .headers id fragment endStream endHeaders (some priority)) :
    (encodeBody f).payload.length ≤ f.toFrame.weight := by
  have word := BigEndian.bytes_length 4
  cases f with
  | headers id fragment endStream endHeaders priority =>
      cases priority with
      | none => exact Nat.le_refl _
      | some priority => exact absurd rfl (bare id fragment endStream endHeaders priority)
  | data => exact Nat.le_refl _
  | continuation => exact Nat.le_refl _
  | settings ack s => exact encodeSettings_le s
  | priority id p => simp [encodeBody, encodePriority, WireFrame.toFrame, Frame.weight]
  | rstStream id code => simp [encodeBody, WireFrame.toFrame, Frame.weight]
  | pushPromise id promised fragment endHeaders =>
      simp [encodeBody, WireFrame.toFrame, Frame.weight, Nat.add_comm]
  | ping ack data =>
      simp only [encodeBody, WireFrame.toFrame, Frame.weight]
      split <;> simp [*]
  | goaway last code debugData =>
      simp only [encodeBody, WireFrame.toFrame, Frame.weight, List.length_append, word]
      omega
  | windowUpdate id increment => simp [encodeBody, WireFrame.toFrame, Frame.weight]

namespace Conn

/-! ## What is sent -/

/-- Request `r` has stream `id`, and its own header block. -/
def Holds (c : Conn H) (r id : Nat) (block : Bytes) (hasBody : Bool) : Prop :=
  ∃ q, c.requests[r]? = some q ∧ q.phase = .opened id ∧ q.block = block ∧ q.hasBody = hasBody

section Holds

variable {c c' : Conn H} {r id : Nat} {block : Bytes} {hasBody : Bool}

theorem Holds.same (holds : c.Holds r id block hasBody) (requests : c'.requests = c.requests) :
    c'.Holds r id block hasBody := by
  rw [Holds, requests]
  exact holds

theorem Holds.stays (holds : c.Holds r id block hasBody) (admission : Admission c)
    (stays : Stays c c') : c'.Holds r id block hasBody := by
  rcases stays with quiet | roused
  · exact holds.same quiet.requests
  obtain ⟨q, asked, opened, said⟩ := holds
  have outside : r ∉ c.streamSlotWaiters := by
    intro inside
    have parked := (admission.parked r).1 inside
    rw [phaseOf, asked, Option.map_some, opened] at parked
    cases parked
  refine ⟨q, ?_, opened, said⟩
  rw [roused.requests, wakeWaiters, List.getElem?_mapIdx, asked, Option.map_some, if_neg outside]

/-- Another request goes on, or this one is marked. -/
theorem Holds.modify (holds : c.Holds r id block hasBody) {k : Nat} {f : Request → Request}
    (requests : c'.requests = c.requests.modify k f)
    (keeps : ∀ q, c.requests[k]? = some q → q.phase = .opened id →
      (f q).phase = q.phase ∧ (f q).block = q.block ∧ (f q).hasBody = q.hasBody) :
    c'.Holds r id block hasBody := by
  obtain ⟨q, asked, opened, said, body⟩ := holds
  by_cases own : k = r
  · subst own
    obtain ⟨phase, same, also⟩ := keeps q asked opened
    refine ⟨f q, ?_, phase.trans opened, same.trans said, also.trans body⟩
    rw [requests, List.getElem?_modify, asked]
    exact congrArg some (if_pos rfl)
  · refine ⟨q, ?_, opened, said, body⟩
    rw [requests, List.getElem?_modify, asked]
    exact congrArg some (if_neg own)

theorem Holds.abort (holds : c.Holds r id block hasBody) (admission : Admission c) {k : Nat}
    {q : Request} (asked : c.requests[k]? = some q) (reason : Cause) :
    (c.abort k q reason).Holds r id block hasBody := by
  have marked : (c.marked k reason).Holds r id block hasBody :=
    holds.modify rfl fun _ _ _ => ⟨rfl, rfl, rfl⟩
  have noted : Admission (c.marked k reason) :=
    admission.of_same rfl (fun k => by rw [phaseOf_marked]) rfl rfl rfl (Nat.le_refl _)
  cases phase : q.phase with
  | parked =>
      rw [abort_of_parked phase]
      refine marked.modify rfl fun q' asked' opened => ?_
      have parked : (c.marked k reason).phaseOf k = some .parked := by
        rw [phaseOf_marked, phaseOf, asked, Option.map_some, phase]
      rw [phaseOf, asked', Option.map_some, opened] at parked
      cases parked
  | opened j =>
      have reaches : c.abort k q reason = (c.marked k reason).abortStream j reason := by
        simp only [Conn.abort, phase, Conn.marked]
      rw [reaches]
      exact marked.stays noted (abortStream_stays _ j reason)
  | settingUp =>
      have reaches : c.abort k q reason = c.marked k reason := by
        simp only [Conn.abort, phase, Conn.marked]
      exact reaches ▸ marked
  | woken =>
      have reaches : c.abort k q reason = c.marked k reason := by
        simp only [Conn.abort, phase, Conn.marked]
      exact reaches ▸ marked
  | failed cause =>
      have reaches : c.abort k q reason = c.marked k reason := by
        simp only [Conn.abort, phase, Conn.marked]
      exact reaches ▸ marked

/-- A request keeps the stream it has. -/
theorem Holds.step {w : Windows} {e : Event} (holds : c.Holds r id block hasBody)
    (admission : Admission c) (stepped : c.step w e = some c') : c'.Holds r id block hasBody := by
  have moves : ∀ {k : Nat} {q : Request} {phase : RequestPhase} {d : Conn H},
      c.requests[k]? = some q → (q.phase = .settingUp ∨ q.phase = .woken) →
      d.requests = c.requests.modify k (fun q => { q with phase }) → d.Holds r id block hasBody := by
    intro k q phase d asked before requests
    refine holds.modify requests fun q' asked' opened => ?_
    rw [asked] at asked'
    obtain rfl := Option.some.inj asked'
    rcases before with settingUp | woken
    · rw [opened] at settingUp
      cases settingUp
    · rw [opened] at woken
      cases woken
  rcases step_requests stepped with stays | ⟨q, -, -, rfl⟩ | ⟨k, q, asked, phase, rfl⟩ |
    ⟨k, q, asked, phase, rfl⟩ | ⟨k, q, reason, ⟨asked, -, -⟩, rfl⟩
  · exact holds.stays admission stays
  · obtain ⟨q', asked, kept⟩ := holds
    refine ⟨q', ?_, kept⟩
    rw [List.getElem?_append_left (List.getElem?_eq_some_iff.1 asked).1]
    exact asked
  · obtain ⟨cause, -, done⟩ | ⟨up, -, -, done⟩ | ⟨-, -, -, done⟩ := c.admitRequest_cases w k q
    · rw [done]
      exact moves asked phase rfl
    · rw [done]
      exact moves asked phase (openStream_fields up w k q).2.2.2.2
    · rw [done]
      exact moves asked phase rfl
  · exact moves asked (.inl phase) rfl
  · exact holds.abort admission asked reason

end Holds

theorem continuations_light (id size fuel : Nat) (rest : Bytes) :
    ∀ f ∈ continuations id size fuel rest, f.weight ≤ size := by
  induction fuel generalizing rest with
  | zero => exact fun _ inside => nomatch inside
  | succ fuel ih =>
      cases rest with
      | nil => exact fun _ inside => nomatch inside
      | cons byte rest =>
          intro f inside
          rcases List.mem_cons.1 inside with rfl | later
          · exact List.length_take_le _ _
          · exact ih _ f later

/-- A header block is cut to the frame size. -/
theorem headerFrames_light (size id : Nat) (block : Bytes) (endStream : Bool) :
    ∀ f ∈ headerFrames size id block endStream, f.weight ≤ size := by
  unfold headerFrames
  split
  · rename_i short
    intro f inside
    rw [List.mem_singleton.1 inside]
    exact short
  · intro f inside
    rcases List.mem_cons.1 inside with rfl | later
    · exact List.length_take_le _ _
    · exact continuations_light _ _ _ _ f later

/-- The outbound side of a session: `a` are its blocks. -/
structure Outbound (c : Conn H) (a : Assembly BlockHead) : Prop where
  admission : Admission c
  ordered : Ordered c
  framed : c.Framed
  blocks : headerBlocks c.sent = some a
  light : ∀ f ∈ c.sent, f.weight ≤ longestPayload
  idle : a.begun = none
  ids : a.whole.map (fun b => b.1.streamId) = c.streams.map Stream.id
  owners : ∀ b ∈ a.whole, ∃ r, c.Holds r b.1.streamId b.2 (!b.1.endStream)

theorem headerBlocks_append {frames more : List Frame} {a : Assembly BlockHead}
    (blocks : headerBlocks frames = some a) :
    headerBlocks (frames ++ more) = a.takeAll BlockHead.streamId (more.map Frame.token) := by
  rw [headerBlocks, assemble] at blocks
  rw [headerBlocks, assemble, List.map_append, Assembly.takeAll_append, blocks, Option.bind_some]

theorem opens_of_plain {f : Frame} (plain : f.token = .other) : f.opens = none := by
  cases f with
  | headers => cases plain
  | _ => rfl

/-- An event that sends no block. -/
theorem Outbound.outward {c c' : Conn H} {w : Windows} {e : Event} {a : Assembly BlockHead}
    (outbound : Outbound c a) (stepped : c.step w e = some c') (outward : Outward c c') :
    Outbound c' a := by
  obtain ⟨more, sent, plain⟩ := outward.sent
  have ordered := step_ordered outbound.ordered stepped
  have headers : c'.headersSent = c.headersSent := by
    have none_opens : more.filterMap Frame.opens = [] :=
      List.filterMap_eq_nil_iff.2 fun f inside => opens_of_plain (plain f inside).1
    rw [headersSent, sent, List.filterMap_append, none_opens, List.append_nil]
    rfl
  refine ⟨step_admission outbound.admission stepped, ordered, outward.framed outbound.framed, ?_,
    fun f inside => ?_, outbound.idle, ?_, fun b inside => ?_⟩
  · rw [sent, headerBlocks_append outbound.blocks]
    refine Assembly.takeAll_others outbound.idle fun token inside => ?_
    obtain ⟨f, member, rfl⟩ := List.mem_map.1 inside
    exact (plain f member).1
  · rw [sent] at inside
    rcases List.mem_append.1 inside with old | new
    · exact outbound.light f old
    · exact (plain f new).2 outbound.framed
  · rw [← ordered.headers, headers, outbound.ordered.headers]
    exact outbound.ids
  · obtain ⟨r, holds⟩ := outbound.owners b inside
    exact ⟨r, holds.step outbound.admission stepped⟩

/-- **One event.** -/
theorem step_outbound {c c' : Conn H} {w : Windows} {e : Event} {a : Assembly BlockHead}
    (outbound : Outbound c a) (stepped : c.step w e = some c') : ∃ a', Outbound c' a' := by
  rcases step_apart stepped with apart | ⟨f, rfl, rfl⟩ | ⟨r, q, asked, phase, up, rfl⟩
  · exact ⟨a, outbound.outward stepped apart.toOutward⟩
  · refine ⟨a, outbound.outward stepped ?_⟩
    exact (c.arrive_apart f).toOutward.trans (c.onFrame_outward f)
  · obtain ⟨-, -, remote, sent, requests⟩ := openStream_fields up w r q
    let opened : BlockHead := { streamId := c.nextStreamId, kind := .response, endStream := !q.hasBody }
    refine ⟨{ whole := a.whole ++ [(opened, q.block)] }, step_admission outbound.admission stepped,
      step_ordered outbound.ordered stepped, ?_, ?_, fun f inside => ?_, rfl, ?_, ?_⟩
    · rw [Framed, remote]
      exact outbound.framed
    · rw [sent, headerBlocks_append outbound.blocks]
      exact takeAll_headerFrames outbound.idle outbound.framed.1 _ _ _
    · rw [sent] at inside
      rcases List.mem_append.1 inside with old | new
      · exact outbound.light f old
      · exact Nat.le_trans (headerFrames_light _ _ _ _ f new) outbound.framed.2
    · rw [List.map_append, openStream_streams, List.map_append, outbound.ids]
      rfl
    · intro b inside
      rcases List.mem_append.1 inside with old | new
      · obtain ⟨k, holds⟩ := outbound.owners b old
        exact ⟨k, holds.step outbound.admission stepped⟩
      · rw [List.mem_singleton.1 new]
        refine ⟨r, { q with phase := .opened c.nextStreamId }, ?_, rfl, rfl, (Bool.not_not _).symm⟩
        rw [requests, List.getElem?_modify, asked]
        exact congrArg some (if_pos rfl)

theorem start_outbound (H : Hpack) (w : Windows) : Outbound (Conn.start H w) {} := by
  have plain : ∀ f ∈ (Conn.start H w).sent, f.plain = true := by
    intro f member
    simp only [Conn.start] at member
    split at member
    · rcases List.mem_cons.1 member with rfl | grown
      · rfl
      · rw [List.mem_singleton.1 grown]
        rfl
    · rw [List.mem_singleton.1 member]
      rfl
  have framed : 0 < 16384 ∧ 16384 ≤ longestPayload := by decide
  refine ⟨start_admission H w, start_ordered H w, framed, ?_, fun f inside => ?_, rfl, rfl,
    fun _ inside => absurd inside List.not_mem_nil⟩
  · refine Assembly.takeAll_others rfl fun token inside => ?_
    obtain ⟨f, member, rfl⟩ := List.mem_map.1 inside
    exact (Frame.plain_spec (plain f member)).1
  · exact Nat.le_trans (Frame.plain_spec (plain f inside)).2 (by decide)

theorem outbound_of_reaches {w : Windows} {c : Conn H}
    (reached : (sessionMachine H w).Reaches Machine.always c) : ∃ a, Outbound c a :=
  Machine.Steps.invariant (fun c : Conn H => ∃ a, Outbound c a)
    (fun _ _ _ ⟨_, outbound⟩ _ stepped => step_outbound outbound stepped) reached
    ⟨_, start_outbound H w⟩

/-- **Header blocks out.**  In every run the frames sent are read as one whole block for each
stream, in the order of the streams, with no frame inside a block; and the block of a stream
is that of the request which has it. -/
theorem headers_of_reaches {w : Windows} {c : Conn H}
    (reached : (sessionMachine H w).Reaches Machine.always c) :
    ∃ a, headerBlocks c.sent = some a ∧ a.begun = none ∧
      a.whole.map (fun b => b.1.streamId) = c.streams.map Stream.id ∧
      ∀ b ∈ a.whole, ∃ (r : Nat) (q : Request), c.requests[r]? = some q ∧
        q.phase = .opened b.1.streamId ∧ b.2 = q.block ∧ b.1.endStream = !q.hasBody := by
  obtain ⟨a, outbound⟩ := outbound_of_reaches reached
  refine ⟨a, outbound.blocks, outbound.idle, outbound.ids, fun b inside => ?_⟩
  obtain ⟨r, q, asked, opened, block, body⟩ := outbound.owners b inside
  exact ⟨r, q, asked, opened, block.symm, by rw [body, Bool.not_not]⟩

/-- **Frame lengths.**  No frame that a session sends is longer than its length field can
say: whatever is written behind it, a decoder takes its bytes and no others. -/
theorem takeFrame_of_reaches {w : Windows} {c : Conn H}
    (reached : (sessionMachine H w).Reaches Machine.always c) {f : WireFrame}
    (sent : f.toFrame ∈ c.sent)
    (bare : ∀ id fragment endStream endHeaders priority,
      f ≠ .headers id fragment endStream endHeaders (some priority)) (more : Bytes) :
    let b := encodeBody f
    takeFrame longestPayload (serializeFrame f ++ more) =
      (parsePayload b.typeId b.flags (low31 b.streamId) b.payload).map
        fun frame => some (frame, more) := by
  obtain ⟨a, outbound⟩ := outbound_of_reaches reached
  have fits := Nat.le_trans (encodeBody_weight bare) (outbound.light _ sent)
  exact takeFrame_body fits (Nat.lt_succ_of_le fits) more

end Conn

/-- A header block longer than a frame of the peer. -/
def longBlock : Bytes := List.replicate 16385 0x88

/-- A request that is open, and one with a long block and a body that waits for the connection. -/
def longRequest : List Event := [.request [0x88] false, .ready 0, .request longBlock true]

def beforeLong : Conn statusOnly :=
  ((sessionMachine statusOnly smallWindows).run Machine.always
    (sessionMachine statusOnly smallWindows).init longRequest).get rfl

def afterLong : Conn statusOnly :=
  beforeLong.openStream smallWindows 1 { block := longBlock, hasBody := true }

theorem afterLong_reached :
    (sessionMachine statusOnly smallWindows).Reaches Machine.always afterLong := by
  have before : (sessionMachine statusOnly smallWindows).Reaches Machine.always beforeLong :=
    Machine.steps_of_run longRequest rfl
  exact .tail (e := .ready 1) before trivial rfl

/-- The long block is cut in two. -/
theorem headerFrames_longBlock : Conn.headerFrames 16384 3 longBlock false =
    [.headers 3 (List.replicate 16384 0x88) false false, .continuation 3 [0x88] true] := by
  have length : longBlock.length = 16384 + 1 := List.length_replicate
  have first : longBlock.take 16384 = List.replicate 16384 0x88 := List.take_replicate
  have rest : longBlock.drop 16384 = [0x88] := List.drop_replicate
  rw [Conn.headerFrames, if_neg (by rw [length]; decide), first, rest, length, Conn.continuations]
  · rfl
  · exact List.cons_ne_nil _ _

theorem headers_of_reaches_long :
    afterLong.sent = (Conn.start statusOnly smallWindows).sent ++
      [.headers 1 [0x88] true true, .headers 3 (List.replicate 16384 0x88) false false,
        .continuation 3 [0x88] true] ∧
    afterLong.streams.map Stream.id = [1, 3] ∧
    ∃ a, headerBlocks afterLong.sent = some a ∧ a.begun = none ∧
      a.whole.map (fun b => b.1.streamId) = afterLong.streams.map Stream.id ∧
      ∀ b ∈ a.whole, ∃ (r : Nat) (q : Request), afterLong.requests[r]? = some q ∧
        q.phase = .opened b.1.streamId ∧ b.2 = q.block ∧ b.1.endStream = !q.hasBody := by
  refine ⟨?_, ?_, Conn.headers_of_reaches afterLong_reached⟩
  · have before : beforeLong.sent =
        (Conn.start statusOnly smallWindows).sent ++ [.headers 1 [0x88] true true] := rfl
    have sent := (Conn.openStream_fields (show beforeLong.closed = false from rfl) smallWindows 1
      { block := longBlock, hasBody := true }).2.2.2.1
    rw [show beforeLong.remote.maxFrameSize = 16384 from rfl,
      show beforeLong.nextStreamId = 3 from rfl, before] at sent
    refine sent.trans ?_
    rw [Bool.not_true, headerFrames_longBlock, List.append_assoc]
    rfl
  · rw [afterLong, Conn.openStream_streams, List.map_append]
    rfl

end GrpcBridge.H2
