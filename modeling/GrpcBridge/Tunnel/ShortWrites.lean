/-
# Tunnel.ShortWrites -- what an upstream that writes as it likes has received

`relay`, its payload loop and `writeAll` are three loops around one `Write`, which takes
as many bytes as it likes and may fail.  `calls`, `payloadCalls`, `turnCalls` and
`loopCalls` are the `Write` calls that these loops make, each with what it returned and
the connection behind its counter as the call left it: between two of them neither the
connection nor the counter changes.

A `Trace` says what every such moment looks like: a prefix of the inner stream, counted
to the byte, and no call after one that failed or took nothing.  Traces compose when the
first of them is whole, and the loops are composed of traces.
-/
import GrpcBridge.Tunnel.Transparency

namespace GrpcBridge.Tunnel

set_option autoImplicit false

open GrpcBridge.Theory
open GrpcBridge.Theory.WebSocket (mask)

/-! ## The calls -/

/-- One `Write` of the upstream connection, when it has returned. -/
structure Call where
  result : Written
  after : CountedConn
deriving DecidableEq, Repr

/-- It failed, or took nothing. -/
def Call.Bad (c : Call) : Prop := c.result.error ≠ none ∨ c.result.count = 0

instance (c : Call) : Decidable c.Bad := inferInstanceAs (Decidable (_ ∨ _))

/-- The calls of `writeAll`. -/
def calls (w : CountedConn) (p : Bytes) : List Call :=
  match p with
  | [] => []
  | b :: rest =>
      match w.write (b :: rest) with
      | (⟨n, some e⟩, w) => [⟨⟨n, some e⟩, w⟩]
      | (⟨0, none⟩, w) => [⟨⟨0, none⟩, w⟩]
      | (⟨n + 1, none⟩, w) => ⟨⟨n + 1, none⟩, w⟩ :: calls w ((b :: rest).drop (n + 1))
termination_by p.length
decreasing_by
  rw [List.length_drop, List.length_cons]
  omega

namespace Relay

/-- The calls of the payload loop from `offset` on. -/
def payloadCalls (h : Head) (key : Bytes) (offset : Nat) (r : Relay) : List Call :=
  if more : offset < h.length then
    have := chunk_pos more
    match r.reader.readFull (chunk h offset) with
    | .error _ => []
    | .ok (masked, reader) =>
        let p := mask key offset masked
        let r := { r with reader := reader, buf := p ++ r.buf.drop (chunk h offset) }
        if h.control then payloadCalls h key (offset + chunk h offset) r
        else
          match writeAll r.upstream p with
          | (some _, _) => calls r.upstream p
          | (none, upstream) =>
              calls r.upstream p ++
                payloadCalls h key (offset + chunk h offset) { r with upstream := upstream }
  else []
termination_by h.length - offset

/-- The calls of one turn. -/
def turnCalls (r : Relay) : List Call :=
  match readHead r.reader with
  | .error _ => []
  | .ok (h, reader) =>
      match fragment r.fragmented h with
      | .error _ => []
      | .ok fragmented =>
          match reader.readFull 4 with
          | .error _ => []
          | .ok (key, reader) =>
              payloadCalls h key 0 { r with reader := reader, fragmented := fragmented }

/-- The calls of the loop of `relay`. -/
def loopCalls (r : Relay) : List Call :=
  match _turned : turn r with
  | (some _, _) => turnCalls r
  | (none, next) => turnCalls r ++ loopCalls next
termination_by r.reader.bytes.length
decreasing_by exact turn_length _turned

theorem loopCalls_of_end {r next : Relay} {e : RelayError} (turned : turn r = (some e, next)) :
    loopCalls r = turnCalls r := by
  rw [loopCalls]
  split
  · rfl
  · rename_i other
    rw [turned] at other
    cases other

theorem loopCalls_of_turn {r next : Relay} (turned : turn r = (none, next)) :
    loopCalls r = turnCalls r ++ loopCalls next := by
  rw [loopCalls]
  split
  · rename_i other
    rw [turned] at other
    cases other
  · rename_i other
    rw [turned] at other
    cases other
    rfl

end Relay

/-! ## Traces -/

/-- From `w` on, the connection has taken a prefix of `q` and the counter its length. -/
def Forwarded (w : CountedConn) (q : Bytes) (after : CountedConn) : Prop :=
  ∃ sent, sent <+: q ∧ after.conn.accepted = w.conn.accepted ++ sent ∧
    after.bytes = w.bytes + sent.length

/-- From `w` on, the connection has taken all of `q`. -/
def Whole (w : CountedConn) (q : Bytes) (after : CountedConn) : Prop :=
  after.conn.accepted = w.conn.accepted ++ q ∧ after.bytes = w.bytes + q.length

structure Trace (w : CountedConn) (q : Bytes) (cs : List Call) (last : CountedConn) : Prop where
  moments : ∀ c ∈ cs, Forwarded w q c.after
  ends : last = (cs.getLast?.map Call.after).getD w
  stops : ∀ before c later, cs = before ++ c :: later → c.Bad → later = []

variable {w middle last : CountedConn} {p q : Bytes} {cs ds : List Call}

theorem Whole.forwarded (whole : Whole w q last) : Forwarded w q last :=
  ⟨q, List.prefix_rfl, whole⟩

theorem Whole.append (first : Whole w p middle) (second : Whole middle q last) :
    Whole w (p ++ q) last := by
  refine ⟨?_, ?_⟩
  · rw [second.1, first.1, List.append_assoc]
  · rw [second.2, first.2, List.length_append, Nat.add_assoc]

theorem Forwarded.extend (forwarded : Forwarded w p last) : Forwarded w (p ++ q) last := by
  obtain ⟨sent, isPrefix, rest⟩ := forwarded
  exact ⟨sent, isPrefix.trans (List.prefix_append p q), rest⟩

theorem Forwarded.behind (first : Whole w p middle) (second : Forwarded middle q last) :
    Forwarded w (p ++ q) last := by
  obtain ⟨sent, isPrefix, accepted, counted⟩ := second
  refine ⟨p ++ sent, (List.prefix_append_right_inj p).2 isPrefix, ?_, ?_⟩
  · rw [accepted, first.1, List.append_assoc]
  · rw [counted, first.2, List.length_append, Nat.add_assoc]

namespace Trace

theorem nil (w : CountedConn) (q : Bytes) : Trace w q [] w where
  moments := by rintro _ ⟨⟩
  ends := rfl
  stops := by
    intro before c later split
    cases before <;> cases split

/-- The state that the calls leave is itself such a moment. -/
theorem forwarded (trace : Trace w q cs last) : Forwarded w q last := by
  rw [trace.ends]
  cases ended : cs.getLast? with
  | none => exact ⟨[], List.nil_prefix, (List.append_nil _).symm, rfl⟩
  | some c => exact trace.moments c (List.mem_of_getLast? ended)

/-- Nothing is forwarded after a bad call. -/
theorem stopped (trace : Trace w q cs last) {before later : List Call} {c : Call}
    (split : cs = before ++ c :: later) (bad : c.Bad) : later = [] ∧ last = c.after := by
  obtain rfl := trace.stops before c later split bad
  refine ⟨rfl, ?_⟩
  rw [trace.ends, split, List.getLast?_concat]
  rfl

theorem extend (trace : Trace w p cs last) : Trace w (p ++ q) cs last :=
  { trace with moments := fun c member => (trace.moments c member).extend }

/-- One call after another, when the first have taken everything. -/
theorem append (first : Trace w p cs middle) (fine : ∀ c ∈ cs, ¬ c.Bad)
    (whole : Whole w p middle) (second : Trace middle q ds last) :
    Trace w (p ++ q) (cs ++ ds) last where
  moments := by
    intro c member
    obtain early | late := List.mem_append.1 member
    · exact (first.moments c early).extend
    · exact (second.moments c late).behind whole
  ends := by
    rw [second.ends, first.ends, List.getLast?_append]
    cases ds.getLast? <;> rfl
  stops := by
    intro before c later split bad
    obtain ⟨more, rfl, rest⟩ | ⟨more, rfl, rest⟩ := List.append_eq_append_iff.1 split
    · exact second.stops more c later rest bad
    · cases more with
      | nil => exact second.stops [] c later rest.symm bad
      | cons d more =>
          obtain ⟨rfl, _⟩ := List.cons.inj rest
          exact absurd bad (fine c (by simp))

end Trace

/-! ## writeAll -/

theorem write_whole {result : Written} {after : CountedConn}
    (written : w.write p = (result, after)) : Whole w (p.take result.count) after := by
  have accepted := Writer.write_accepted w p
  have count := Writer.write_count w p
  have written' : Writer.write w p = (result, after) := written
  rw [written'] at accepted count
  refine ⟨accepted, ?_⟩
  have counted : after.bytes = w.bytes + result.count := by
    unfold CountedConn.write at written
    cases written
    rfl
  rw [counted, List.length_take, Nat.min_eq_left count]

/-- One call on its own. -/
theorem write_trace {result : Written} {after : CountedConn}
    (written : w.write p = (result, after)) :
    Trace w (p.take result.count) [⟨result, after⟩] after where
  moments := by
    intro c member
    obtain rfl := List.mem_singleton.1 member
    exact (write_whole written).forwarded
  ends := rfl
  stops := by
    intro before c later split _
    cases before with
    | nil => exact (List.cons.inj split).2.symm
    | cons d before => simp at split

/-- What came of handing `q` to the connection: it is `fine` and has taken everything
without a bad call, or there was one. -/
structure Sends (w : CountedConn) (q : Bytes) (cs : List Call) (last : CountedConn)
    (fine : Prop) : Prop where
  trace : Trace w q cs last
  all : fine → (∀ c ∈ cs, ¬ c.Bad) ∧ Whole w q last
  bad : ¬ fine → ∃ c ∈ cs, c.Bad

namespace Sends

variable {fine before : Prop}

theorem append (first : Sends w p cs middle before) (passed : before)
    (second : Sends middle q ds last fine) : Sends w (p ++ q) (cs ++ ds) last fine where
  trace := first.trace.append (first.all passed).1 (first.all passed).2 second.trace
  all fine := by
    obtain ⟨good, whole⟩ := first.all passed
    obtain ⟨good', whole'⟩ := second.all fine
    refine ⟨?_, whole.append whole'⟩
    intro c member
    obtain early | late := List.mem_append.1 member
    · exact good c early
    · exact good' c late
  bad failed := by
    obtain ⟨c, member, bad⟩ := second.bad failed
    exact ⟨c, List.mem_append_right cs member, bad⟩

/-- What is left when it stops stays unsent. -/
theorem cut (first : Sends w p cs last before) (stopped : ¬ before) (failed : ¬ fine) :
    Sends w (p ++ q) cs last fine where
  trace := first.trace.extend
  all passed := absurd passed failed
  bad _ := first.bad stopped

theorem nil (w : CountedConn) : Sends w [] [] w True where
  trace := .nil w []
  all _ := ⟨by rintro _ ⟨⟩, (List.append_nil _).symm, rfl⟩
  bad failed := absurd trivial failed

end Sends

theorem write_sends {result : Written} {after : CountedConn}
    (written : w.write p = (result, after)) :
    Sends w (p.take result.count) [⟨result, after⟩] after (¬ Call.Bad ⟨result, after⟩) where
  trace := write_trace written
  all fine := by
    refine ⟨?_, write_whole written⟩
    intro c member
    obtain rfl := List.mem_singleton.1 member
    exact fine
  bad failed := ⟨_, List.mem_singleton_self _, not_not.1 failed⟩

/-- A bad call ends `writeAll`. -/
theorem write_stops {result : Written} {after : CountedConn} {fine : Prop}
    (written : w.write p = (result, after)) (bad : Call.Bad ⟨result, after⟩) (failed : ¬ fine) :
    Sends w p [⟨result, after⟩] after fine := by
  have stopped := (write_sends written).cut (q := p.drop result.count) (not_not.2 bad) failed
  rwa [List.take_append_drop] at stopped

theorem writeAll_sends (w : CountedConn) (p : Bytes) :
    Sends w p (calls w p) (writeAll w p).2 ((writeAll w p).1 = none) := by
  fun_induction writeAll w p with
  | case1 w =>
      rw [calls]
      simpa using Sends.nil w
  | case2 w b rest n e after written =>
      have written : w.write (b :: rest) = (⟨n, some e⟩, after) := written
      have made : calls w (b :: rest) = [⟨⟨n, some e⟩, after⟩] := by rw [calls, written]
      rw [made]
      exact write_stops written (.inl (by rintro ⟨⟩)) (by rintro ⟨⟩)
  | case3 w b rest after written =>
      have written : w.write (b :: rest) = (⟨0, none⟩, after) := written
      have made : calls w (b :: rest) = [⟨⟨0, none⟩, after⟩] := by rw [calls, written]
      rw [made]
      exact write_stops written (.inr rfl) (by rintro ⟨⟩)
  | case4 w b rest n after written ih =>
      have written : w.write (b :: rest) = (⟨n + 1, none⟩, after) := written
      have made : calls w (b :: rest) =
          [⟨⟨n + 1, none⟩, after⟩] ++ calls after ((b :: rest).drop (n + 1)) := by
        rw [calls, written]
        rfl
      have fine : ¬ Call.Bad ⟨⟨n + 1, none⟩, after⟩ := by simp [Call.Bad]
      have both := (write_sends written).append fine ih
      rw [List.take_append_drop] at both
      rw [made]
      exact both

/-! ## The payload loop -/

namespace Relay

/-- What carrying a data frame leaves of the relay's own state. -/
structure Passed (rest : Bytes) (r after : Relay) : Prop where
  reader : after.reader = ⟨rest, r.reader.broken⟩
  buffer : after.buf.length = r.buf.length
  fragmented : after.fragmented = r.fragmented
  socket : after.socket = r.socket

section Chunk

variable {h : Head} {key p : Bytes} {offset : Nat} {r : Relay} {reader : Source}
  {upstream : CountedConn} (more : offset < h.length)
  (read : r.reader.readFull (chunk h offset) = .ok (mask key offset p, reader))
  (data : h.control = false)

include more read data

theorem payload_stop {e : NetError} (wrote : writeAll r.upstream p = (some e, upstream)) :
    payload h key offset r = (some (.write e), { r with
      reader := reader
      buf := p ++ r.buf.drop (chunk h offset)
      upstream := upstream }) := by
  rw [payload, dif_pos more]
  simp only [read, data, WebSocket.mask_mask, wrote, Bool.false_eq_true, if_false]

theorem payloadCalls_stop {e : NetError} (wrote : writeAll r.upstream p = (some e, upstream)) :
    payloadCalls h key offset r = calls r.upstream p := by
  rw [payloadCalls, dif_pos more]
  simp only [read, data, WebSocket.mask_mask, wrote, Bool.false_eq_true, if_false]

theorem payloadCalls_step (wrote : writeAll r.upstream p = (none, upstream)) :
    payloadCalls h key offset r = calls r.upstream p ++
      payloadCalls h key (offset + chunk h offset) { r with
        reader := reader
        buf := p ++ r.buf.drop (chunk h offset)
        upstream := upstream } := by
  rw [payloadCalls, dif_pos more]
  simp only [read, data, WebSocket.mask_mask, wrote, Bool.false_eq_true, if_false]

end Chunk

/-- **The chunks of a data frame**, as far as the connection takes them. -/
theorem payload_sends (h : Head) (key : Bytes) (data : h.control = false) (q rest : Bytes)
    (offset : Nat) (r : Relay) (whole : offset + q.length = h.length)
    (wired : r.reader.bytes = mask key offset q ++ rest) (buffer : r.buf.length = bufferSize) :
    Sends r.upstream q (payloadCalls h key offset r) (payload h key offset r).2.upstream
        ((payload h key offset r).1 = none) ∧
      ((payload h key offset r).1 = none → Passed rest r (payload h key offset r).2) := by
  induction remaining : q.length using Nat.strongRecOn generalizing q offset r with
  | _ size ih =>
      by_cases more : offset < h.length
      · have positive := chunk_pos more
        have count_le : chunk h offset ≤ q.length := by
          rw [chunk]
          omega
        have read := readFull_chunk wired count_le
        have sends := writeAll_sends r.upstream (q.take (chunk h offset))
        cases wrote : writeAll r.upstream (q.take (chunk h offset)) with
        | mk failed upstream =>
            rw [wrote] at sends
            cases failed with
            | some e =>
                rw [payload_stop more read data wrote, payloadCalls_stop more read data wrote]
                refine ⟨?_, by rintro ⟨⟩⟩
                have unfit : ¬ some (RelayError.write e) = none := by rintro ⟨⟩
                have stopped := sends.cut (q := q.drop (chunk h offset)) (by rintro ⟨⟩) unfit
                rwa [List.take_append_drop] at stopped
            | none =>
                have within : chunk h offset ≤ bufferSize := Nat.min_le_left _ _
                have kept : (q.take (chunk h offset) ++ r.buf.drop (chunk h offset)).length =
                    r.buf.length := by
                  rw [List.length_append, List.length_take_of_le count_le, List.length_drop, buffer]
                  omega
                obtain ⟨later, passed⟩ := ih (q.drop (chunk h offset)).length
                  (by rw [List.length_drop]; omega) (q.drop (chunk h offset))
                  (offset + chunk h offset)
                  { r with
                    reader := ⟨mask key (offset + chunk h offset) (q.drop (chunk h offset)) ++ rest,
                      r.reader.broken⟩
                    buf := q.take (chunk h offset) ++ r.buf.drop (chunk h offset)
                    upstream := upstream }
                  (by rw [List.length_drop]; omega) rfl (kept.trans buffer) rfl
                rw [payload_step more read data wrote, payloadCalls_step more read data wrote]
                have both := sends.append rfl later
                rw [List.take_append_drop] at both
                refine ⟨both, fun fine => ?_⟩
                exact { passed fine with buffer := (passed fine).buffer.trans kept }
      · have nothing : q = [] := List.length_eq_zero_iff.1 (by omega)
        subst nothing
        rw [payload, dif_neg more, payloadCalls, dif_neg more]
        refine ⟨by simpa using Sends.nil r.upstream, fun _ => ⟨?_, rfl, rfl, rfl⟩⟩
        exact congrArg (Source.mk · r.reader.broken) (wired.trans (List.nil_append rest))

/-- A control payload is not forwarded. -/
theorem payloadCalls_control (h : Head) (key : Bytes) (control : h.control = true) (offset : Nat)
    (r : Relay) : payloadCalls h key offset r = [] := by
  fun_induction payloadCalls h key offset r with
  | case1 => rfl
  | case2 _ _ _ _ _ _ _ _ _ _ ih => exact ih
  | case3 _ _ _ _ _ _ _ _ _ data => exact absurd control data
  | case4 _ _ _ _ _ _ _ _ _ data => exact absurd control data
  | case5 => rfl

/-! ## One turn -/

/-- What a turn starts from. -/
structure Aligned (inside : Bool) (r : Relay) : Prop where
  fragmented : r.fragmented = inside
  buffer : r.buf.length = bufferSize

theorem Aligned.of_passed {inside : Bool} {rest : Bytes} {r next : Relay}
    (buffer : r.buf.length = bufferSize) (passed : Passed rest { r with fragmented := inside } next) :
    Aligned inside next :=
  ⟨passed.fragmented, passed.buffer.trans buffer⟩

theorem Aligned.buffered {inside : Bool} {r : Relay} (aligned : Aligned inside r) (p rest : Bytes)
    (short : p.length ≤ 125) : Aligned inside (r.buffered p rest) := by
  refine ⟨aligned.fragmented, ?_⟩
  have small : 125 ≤ bufferSize := by decide
  show (p ++ r.buf.drop p.length).length = bufferSize
  rw [List.length_append, List.length_drop, aligned.buffer]
  omega

section Turn

variable {f : WebSocket.Frame} {key : WebSocket.MaskingKey} {inside after : Bool} {rest : Bytes}
  {r : Relay} (ok : Admissible f key) (fragmented : r.fragmented = inside)
  (fragments : fragment inside (head f) = .ok after) (wired : r.reader.bytes = f.encode ++ rest)

include ok fragmented fragments wired

theorem turnCalls_eq :
    turnCalls r = payloadCalls (head f) key.bytes 0 { r with
      reader := ⟨mask key.bytes 0 f.payload ++ rest, r.reader.broken⟩
      fragmented := after } := by
  have headRead := readHead_encode ok rest r.reader.broken
  rw [← wired] at headRead
  simp only [turnCalls, headRead, fragmented, fragments, Source.readFull_append key.bytes_length]

/-- A turn on a data frame. -/
theorem turn_sends (data : (head f).control = false) (buffer : r.buf.length = bufferSize) :
    Sends r.upstream f.payload (turnCalls r) (turn r).2.upstream ((turn r).1 = none) ∧
      ((turn r).1 = none → Passed rest { r with fragmented := after } (turn r).2) := by
  have headRead := readHead_encode ok rest r.reader.broken
  rw [← wired] at headRead
  have turned : turn r = payload (head f) key.bytes 0 { r with
      reader := ⟨mask key.bytes 0 f.payload ++ rest, r.reader.broken⟩
      fragmented := after } := by
    simp only [turn, headRead, fragmented, fragments, Source.readFull_append key.bytes_length,
      data, Bool.false_eq_true, if_false]
    generalize payload _ _ _ _ = ran
    obtain ⟨_ | e, next⟩ := ran
    · rfl
    · rfl
  rw [turned, turnCalls_eq ok fragmented fragments wired]
  obtain ⟨sends, passed⟩ := payload_sends (head f) key.bytes data f.payload rest 0
    { r with
      reader := ⟨mask key.bytes 0 f.payload ++ rest, r.reader.broken⟩
      fragmented := after }
    (Nat.zero_add _) rfl buffer
  exact ⟨sends, fun fine => { passed fine with }⟩

theorem turnCalls_control (control : (head f).control = true) : turnCalls r = [] := by
  rw [turnCalls_eq ok fragmented fragments wired, payloadCalls_control _ _ control]

end Turn

/-! ## Whole sequences -/

/-- The client's side of the tunnel does not end the loop: nothing has to be written to
it, or it can be written to. -/
def Answerable (frames : List ClientFrame) (s : Socket) : Prop :=
  frames.filterMap ClientFrame.ping? = [] ∨ s.closeSent = false ∧ s.conn.Healthy

/-- What `relay` has done to the upstream connection when it returns. -/
structure Forwards (frames : List ClientFrame) (r : Relay) : Prop where
  trace : Trace r.upstream (frames.flatMap ClientFrame.inner) (loopCalls r) (loop r).2.upstream
  whole : (∀ c ∈ loopCalls r, ¬ c.Bad) → Answerable frames r.socket →
    Whole r.upstream (frames.flatMap ClientFrame.inner) (loop r).2.upstream

/-- A control frame behind which the loop goes on. -/
theorem Forwards.control {f : ClientFrame} {frames : List ClientFrame} {r next : Relay}
    (turned : turn r = (none, next)) (silent : turnCalls r = []) (empty : f.inner = [])
    (same : next.upstream = r.upstream)
    (answerable : Answerable (f :: frames) r.socket → Answerable frames next.socket)
    (rest : Forwards frames next) : Forwards (f :: frames) r := by
  have inner : (f :: frames).flatMap ClientFrame.inner = frames.flatMap ClientFrame.inner := by
    rw [List.flatMap_cons, empty, List.nil_append]
  have made : loopCalls r = loopCalls next := by
    rw [loopCalls_of_turn turned, silent, List.nil_append]
  constructor
  · rw [inner, made, loop_of_turn turned, ← same]
    exact rest.trace
  · intro good able
    rw [made] at good
    rw [inner, loop_of_turn turned, ← same]
    exact rest.whole good (answerable able)

/-- A control frame that ends the loop. -/
theorem Forwards.ended {frames : List ClientFrame} {r next : Relay} {e : RelayError}
    (turned : turn r = (some e, next)) (silent : turnCalls r = [])
    (same : next.upstream = r.upstream)
    (last : Answerable frames r.socket → frames.flatMap ClientFrame.inner = []) :
    Forwards frames r := by
  constructor
  · rw [loopCalls_of_end turned, silent, loop_of_end turned, same]
    exact .nil _ _
  · intro _ able
    rw [last able, loop_of_end turned, same]
    exact ⟨(List.append_nil _).symm, rfl⟩

/-- What a ping leaves of the client's side. -/
theorem Answerable.ping {key : WebSocket.MaskingKey} {p : Bytes} {frames : List ClientFrame}
    {s : Socket} (able : Answerable (.ping key p :: frames) s) :
    (s.writeFrame 10 p).1 = none ∧ Answerable frames (s.writeFrame 10 p).2 := by
  obtain silent | ⟨unclosed, healthy⟩ := able
  · cases silent
  · obtain ⟨socket, written, wrote⟩ := s.writeFrame_healthy 10 p unclosed healthy
    rw [written]
    exact ⟨rfl, .inr ⟨wrote.closeSent, wrote.healthy⟩⟩

theorem loop_forwards {inside : Bool} {frames : List ClientFrame} (profile : Profile inside frames)
    (r : Relay) (aligned : Aligned inside r)
    (wired : r.reader.bytes = WebSocket.encodeAll (frames.map ClientFrame.wire)) :
    Forwards frames r := by
  induction profile generalizing r with
  | nil =>
      refine .ended (turn_nil wired) ?_ rfl (fun _ => rfl)
      simp only [turnCalls, readHead_nil wired]
  | @data inside fin key p rest limit _ ih =>
      obtain ⟨sends, passed⟩ := turn_sends (ClientFrame.admissible_data limit) aligned.fragmented
        (fragment_data inside fin key p) wired (ClientFrame.control_data inside fin key p)
        aligned.buffer
      cases turned : turn r with
      | mk failed next =>
          rw [turned] at sends passed
          cases failed with
          | some e =>
              -- the loop ends with the bad call, and the frames behind it stay unread
              obtain ⟨c, member, bad⟩ := sends.bad (by rintro ⟨⟩)
              constructor
              · rw [loopCalls_of_end turned, loop_of_end turned]
                exact sends.trace.extend
              · intro good _
                rw [loopCalls_of_end turned] at good
                exact absurd bad (good c member)
          | none =>
              have passed := passed rfl
              obtain ⟨fine, whole⟩ := sends.all rfl
              have later := ih next (.of_passed aligned.buffer passed)
                (by rw [passed.reader]; rfl)
              constructor
              · rw [loopCalls_of_turn turned, loop_of_turn turned]
                exact sends.trace.append fine whole later.trace
              · intro good able
                rw [loopCalls_of_turn turned] at good
                rw [loop_of_turn turned]
                refine whole.append (later.whole (fun c member => ?_) ?_)
                · exact good c (List.mem_append_right _ member)
                · rw [passed.socket]
                  exact able
  | @ping inside key p rest short _ ih =>
      have admissible : Admissible (ClientFrame.ping key p).wire key :=
        ClientFrame.admissible_control rfl short
      have turned := (turn_control admissible rfl aligned.fragmented rfl wired).trans
        (respond_ping_eq r p _)
      have silent := turnCalls_control admissible aligned.fragmented rfl wired rfl
      cases wrote : (r.socket.writeFrame 10 p).1 with
      | some e =>
          rw [wrote] at turned
          refine .ended turned silent rfl fun able => ?_
          rw [able.ping.1] at wrote
          cases wrote
      | none =>
          rw [wrote] at turned
          exact .control turned silent rfl rfl (fun able => able.ping.2)
            (ih _ ⟨aligned.fragmented, (aligned.buffered p [] short).buffer⟩ rfl)
  | @pong inside key p rest short _ ih =>
      have admissible : Admissible (ClientFrame.pong key p).wire key :=
        ClientFrame.admissible_control rfl short
      have turned := turn_control admissible rfl aligned.fragmented rfl wired
      have silent := turnCalls_control admissible aligned.fragmented rfl wired rfl
      obtain ⟨renewals, answered⟩ := respond_pong
        (r.buffered p (WebSocket.encodeAll (rest.map ClientFrame.wire))) p.length
      exact .control (turned.trans answered) silent rfl rfl id
        (ih _ ⟨aligned.fragmented, (aligned.buffered p [] short).buffer⟩ rfl)
  | @close inside key p short valid =>
      have admissible : Admissible (ClientFrame.close key p).wire key :=
        ClientFrame.admissible_control rfl short
      have turned := (turn_control admissible rfl aligned.fragmented rfl wired).trans
        (respond_close_eq r _ (admitClose_of_valid valid))
      have silent := turnCalls_control admissible aligned.fragmented rfl wired rfl
      exact .ended turned silent rfl (fun _ => rfl)

end Relay

/-- **Short writes lose nothing and are counted exactly.**  Whatever the upstream
connection does with each `Write`, it has at every moment a prefix of the inner stream and
the counter its length; it has all of it if no call fails or takes nothing and the client
can be answered; and the first call that does is the last. -/
theorem relay_forwards (frames : List ClientFrame) (profile : Profile false frames) (s : Socket)
    (upstream : CountedConn) (broken : Bool) :
    let stream := frames.flatMap ClientFrame.inner
    let reader : Source := ⟨WebSocket.encodeAll (frames.map ClientFrame.wire), broken⟩
    let cs := Relay.loopCalls { reader := reader, upstream := upstream, socket := s }
    let last := (s.relay reader upstream).2.upstream
    (∀ c ∈ cs, Forwarded upstream stream c.after) ∧ Forwarded upstream stream last ∧
      ((∀ c ∈ cs, ¬ c.Bad) → Relay.Answerable frames s → Whole upstream stream last) ∧
      ∀ before c later, cs = before ++ c :: later → c.Bad → later = [] ∧ last = c.after := by
  intro stream reader cs last
  have aligned : Relay.Aligned false
      { reader := reader, upstream := upstream, socket := s } :=
    ⟨rfl, List.length_replicate⟩
  have forwards := Relay.loop_forwards profile _ aligned rfl
  exact ⟨forwards.trace.moments, forwards.trace.forwarded, forwards.whole,
    fun _ _ _ split bad => forwards.trace.stopped split bad⟩

/-- An upstream connection that takes three bytes, then two with an error. -/
theorem relay_forwards_failing :
    let upstream : CountedConn := { conn := { script := [⟨3, none⟩, ⟨2, some .failed⟩] } }
    Forwarded upstream [111, 112, 97, 113, 117, 101, 32, 98, 121, 116, 101, 115]
      (Socket.relay {} ⟨WebSocket.encodeAll (opaqueBytes.map ClientFrame.wire), false⟩
        upstream).2.upstream := by
  intro upstream
  have profile : Profile false opaqueBytes :=
    .data (by decide) (.ping (by decide) (.data (by decide) (.close (by decide) (.inl rfl))))
  exact (relay_forwards opaqueBytes profile {} upstream false).2.1

end GrpcBridge.Tunnel
