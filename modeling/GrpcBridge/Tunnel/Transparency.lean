/-
# Tunnel.Transparency -- the relay hands a conforming client's bytes through unchanged

The tunnel profile is a grammar of client frames (`Profile`): binary messages cut
into fragments, pings and pongs between the fragments, and at most one close,
which is last.  For every sequence of it, every mask and every pattern of short
writes, `relay_transparent` says what the two connections have received when
`relay` returns: upstream the data payloads and nothing else, the client one pong
for each ping and then the echoed close.

The argument is one lemma per kind of frame about one turn of the loop.  The
turns of data frames rest on `payload_data`, the loop over 16 KiB chunks, whose
invariant is that what is left on the wire is the rest of the payload masked from
the current offset.
-/
import GrpcBridge.Tunnel.Relay

namespace GrpcBridge.Tunnel

set_option autoImplicit false

open GrpcBridge.Theory
open GrpcBridge.Theory.WebSocket (MaskingKey mask)

/-! ## The profile -/

inductive ClientFrame where
  /-- `continues` tells a continuation frame from the first frame of a message. -/
  | data (continues fin : Bool) (key : MaskingKey) (payload : Bytes)
  | ping (key : MaskingKey) (payload : Bytes)
  | pong (key : MaskingKey) (payload : Bytes)
  | close (key : MaskingKey) (payload : Bytes)
deriving DecidableEq, Repr

namespace ClientFrame

def key : ClientFrame → MaskingKey
  | .data _ _ key _ | .ping key _ | .pong key _ | .close key _ => key

def payload : ClientFrame → Bytes
  | .data _ _ _ p | .ping _ p | .pong _ p | .close _ p => p

def opcode : ClientFrame → UInt8
  | .data continues _ _ _ => if continues then 0 else 2
  | .close _ _ => 8
  | .ping _ _ => 9
  | .pong _ _ => 10

def fin : ClientFrame → Bool
  | .data _ fin _ _ => fin
  | _ => true

/-- The frame on the wire, with its minimal length form and its own mask. -/
def wire (f : ClientFrame) : WebSocket.Frame :=
  { fin := f.fin, opcode := f.opcode, key := some f.key, payload := f.payload }

/-- The bytes of the inner stream that a frame carries. -/
def inner : ClientFrame → Bytes
  | .data _ _ _ p => p
  | _ => []

def ping? : ClientFrame → Option Bytes
  | .ping _ p => some p
  | _ => none

def close? : ClientFrame → Option Bytes
  | .close _ p => some p
  | _ => none

end ClientFrame

/-- No payload, or a status code that may appear on the wire and a UTF-8 reason. -/
def ClosePayload (p : Bytes) : Prop :=
  p = [] ∨ ∃ code reason, p = BigEndian.bytes 2 code ++ reason ∧ code < 65536 ∧
    (code ∈ [1000, 1001, 1002, 1003, 1007, 1008, 1009, 1010, 1011, 1012, 1013, 1014] ∨
      (3000 ≤ code ∧ code ≤ 4999)) ∧ utf8Valid reason

/-- Frame sequences of the tunnel profile, inside a fragmented message or not. -/
inductive Profile : Bool → List ClientFrame → Prop
  | nil {inside : Bool} : Profile inside []
  | data {inside fin : Bool} {key : MaskingKey} {p : Bytes} {rest : List ClientFrame} :
      p.length ≤ maxFrame → Profile (!fin) rest → Profile inside (.data inside fin key p :: rest)
  | ping {inside : Bool} {key : MaskingKey} {p : Bytes} {rest : List ClientFrame} :
      p.length ≤ 125 → Profile inside rest → Profile inside (.ping key p :: rest)
  | pong {inside : Bool} {key : MaskingKey} {p : Bytes} {rest : List ClientFrame} :
      p.length ≤ 125 → Profile inside rest → Profile inside (.pong key p :: rest)
  | close {inside : Bool} {key : MaskingKey} {p : Bytes} :
      p.length ≤ 125 → ClosePayload p → Profile inside [.close key p]

/-! ## Reading a head -/

theorem Source.readFull_append {p rest : Bytes} {n : Nat} (length : p.length = n) (broken : Bool) :
    Source.readFull ⟨p ++ rest, broken⟩ n = .ok (p, ⟨rest, broken⟩) := by
  subst length
  rw [readFull, if_pos (by simp), List.take_left, List.drop_left]

theorem Source.readFull_of_split {n : Nat} {input p rest : Bytes} (broken : Bool)
    (parts : WebSocket.split n input = some (p, rest)) :
    Source.readFull ⟨input, broken⟩ n = .ok (p, ⟨rest, broken⟩) := by
  simp only [WebSocket.split] at parts
  split at parts
  · rename_i enough
    cases parts
    rw [readFull, if_pos enough]
  · cases parts

theorem canonical_of_extended {least n : Nat} {field rest after : Bytes} (broken : Bool)
    (parts : WebSocket.extended least field rest = some (n, after)) :
    canonical least (field, ⟨rest, broken⟩) = .ok (n, ⟨after, broken⟩) := by
  simp only [WebSocket.extended] at parts
  split at parts
  · cases parts
  · rename_i needed
    cases parts
    rw [canonical, if_neg needed]

/-- The reader's length forms are those of the format. -/
theorem readLength_of_decode {b : UInt8} {input rest : Bytes} {n : Nat} (broken : Bool)
    (decoded : WebSocket.decodeLength b input = some (n, rest)) :
    readLength ⟨input, broken⟩ b = .ok (n, ⟨rest, broken⟩) := by
  simp only [WebSocket.decodeLength] at decoded
  rw [readLength]
  split at decoded
  · rename_i medium
    obtain ⟨⟨field, after⟩, taken, kept⟩ := Option.bind_eq_some_iff.1 decoded
    rw [if_pos medium, Source.readFull_of_split broken taken]
    exact canonical_of_extended broken kept
  · rename_i notMedium
    rw [if_neg notMedium]
    split at decoded
    · rename_i large
      obtain ⟨⟨field, after⟩, taken, kept⟩ := Option.bind_eq_some_iff.1 decoded
      rw [if_pos large, Source.readFull_of_split broken taken]
      exact canonical_of_extended broken kept
    · rename_i notLarge
      cases decoded
      rw [if_neg notLarge]

/-- The limits that the head of a frame is checked against. -/
structure Admissible (f : WebSocket.Frame) (key : MaskingKey) : Prop where
  keyed : f.key = some key
  opcode : f.opcode < 16
  limit : f.payload.length ≤ maxFrame
  control : 8 ≤ f.opcode → f.fin = true ∧ f.payload.length ≤ 125

def head (f : WebSocket.Frame) : Head := ⟨f.fin, f.opcode, f.payload.length⟩

theorem admitLength_head {f : WebSocket.Frame} {key : MaskingKey} (ok : Admissible f key) :
    admitLength (head f) = .ok () := by
  have limit := ok.limit
  rw [admitLength, if_neg (show ¬ (head f).length > maxFrame from Nat.not_lt.2 limit), if_neg]
  intro refused
  rw [Bool.and_eq_true, Bool.or_eq_true, Bool.not_eq_true', decide_eq_true_iff] at refused
  obtain ⟨fin, short⟩ := ok.control (of_decide_eq_true refused.1)
  rcases refused.2 with unfinished | long
  · rw [show (head f).fin = f.fin from rfl, fin] at unfinished
    cases unfinished
  · exact absurd short (Nat.not_le.2 long)

theorem readHead_encode {f : WebSocket.Frame} {key : MaskingKey} (ok : Admissible f key)
    (rest : Bytes) (broken : Bool) :
    readHead ⟨f.encode ++ rest, broken⟩ =
      .ok (head f, ⟨key.bytes ++ (mask key.bytes 0 f.payload ++ rest), broken⟩) := by
  have short : f.payload.length < 2 ^ 63 :=
    Nat.lt_of_le_of_lt ok.limit (by decide)
  obtain ⟨reserved, fin, opcode⟩ := WebSocket.first_bits f ok.opcode
  obtain ⟨b, field, shape, bit, lengthRead⟩ := WebSocket.encode_second f short rest
  have masked : b &&& 0x80 ≠ 0 := by
    rw [bit, WebSocket.Frame.maskBit, ok.keyed]
    exact (by decide : (0x80 : UInt8) ≠ 0)
  have body : f.body ++ rest = key.bytes ++ (mask key.bytes 0 f.payload ++ rest) := by
    rw [WebSocket.Frame.body, ok.keyed, List.append_assoc]
  have bits : admitBits f.first b = .ok () := by
    rw [admitBits, if_neg]
    rintro (set | unmasked)
    · exact set reserved
    · exact masked unmasked
  rw [shape, readHead, show f.first :: b :: (field ++ (f.body ++ rest)) =
    [f.first, b] ++ (field ++ (f.body ++ rest)) from rfl,
    Source.readFull_append (p := [f.first, b]) (n := 2) rfl]
  simp only [Fallible.bind_ok, List.getD_cons_zero, List.getD_cons_succ]
  rw [bits, Fallible.bind_ok, readLength_of_decode broken lengthRead]
  simp only [Fallible.bind_ok, fin, opcode]
  rw [show (⟨f.fin, f.opcode, f.payload.length⟩ : Head) = head f from rfl, admitLength_head ok,
    Fallible.bind_ok, body]
  rfl

/-! ## The payload loop -/

namespace Relay

/-- What carrying `q` upstream changes: the reader is at `rest`, and the buffer holds anything. -/
structure Carried (q rest : Bytes) (r after : Relay) : Prop where
  reader : after.reader = ⟨rest, r.reader.broken⟩
  buffer : after.buf.length = r.buf.length
  fragmented : after.fragmented = r.fragmented
  socket : after.socket = r.socket
  healthy : after.upstream.conn.Healthy
  accepted : after.upstream.conn.accepted = r.upstream.conn.accepted ++ q

theorem writeAll_counted (w : CountedConn) (p : Bytes) (healthy : w.conn.Healthy) :
    ∃ after, writeAll w p = (none, after) ∧ after.conn.Healthy ∧
      after.conn.accepted = w.conn.accepted ++ p := by
  obtain ⟨fine, still, all⟩ :=
    @writeAll_progress CountedConn _ (fun w => w.conn.Healthy)
      (fun w p healthy => Conn.write_progress w.conn p healthy) w p healthy
  exact ⟨_, Prod.ext fine rfl, still, all⟩

theorem payload_step {h : Head} {key p : Bytes} {offset : Nat} {r : Relay} {reader : Source}
    {upstream : CountedConn} (more : offset < h.length)
    (read : r.reader.readFull (chunk h offset) = .ok (mask key offset p, reader))
    (data : h.control = false) (wrote : writeAll r.upstream p = (none, upstream)) :
    payload h key offset r = payload h key (offset + chunk h offset)
      { r with
        reader := reader
        buf := p ++ r.buf.drop (chunk h offset)
        upstream := upstream } := by
  rw [payload, dif_pos more]
  simp only [read, data, WebSocket.mask_mask, wrote, Bool.false_eq_true, if_false]

/-- The next chunk of a payload, and what is then on the wire. -/
theorem readFull_chunk {key q rest : Bytes} {offset count : Nat} {r : Relay}
    (wired : r.reader.bytes = mask key offset q ++ rest) (enough : count ≤ q.length) :
    r.reader.readFull count = .ok (mask key offset (q.take count),
      ⟨mask key (offset + count) (q.drop count) ++ rest, r.reader.broken⟩) := by
  have taken : (q.take count).length = count := List.length_take_of_le enough
  have cut : mask key offset q ++ rest = mask key offset (q.take count) ++
      (mask key (offset + count) (q.drop count) ++ rest) := by
    have split := WebSocket.mask_append key offset (q.take count) (q.drop count)
    rw [List.take_append_drop, taken] at split
    rw [split, List.append_assoc]
  rw [show r.reader = ⟨r.reader.bytes, r.reader.broken⟩ from rfl, wired, cut]
  exact Source.readFull_append (by rw [WebSocket.mask_length, taken]) _

/-- **The chunks of a data frame are its payload**, whatever the mask and the
boundaries: from `offset` on, the wire holds the rest masked from that phase. -/
theorem payload_data (h : Head) (key : Bytes) (data : h.control = false) (q rest : Bytes)
    (offset : Nat) (r : Relay) (whole : offset + q.length = h.length)
    (wired : r.reader.bytes = mask key offset q ++ rest) (buffer : r.buf.length = bufferSize)
    (healthy : r.upstream.conn.Healthy) :
    ∃ after, payload h key offset r = (none, after) ∧ Carried q rest r after := by
  induction remaining : q.length using Nat.strongRecOn generalizing q offset r with
  | _ size ih =>
      by_cases more : offset < h.length
      · have positive := chunk_pos more
        have count_le : chunk h offset ≤ q.length := by
          rw [chunk]
          omega
        have taken : (q.take (chunk h offset)).length = chunk h offset :=
          List.length_take_of_le count_le
        have read := readFull_chunk wired count_le
        obtain ⟨upstream, wrote, still, accepted⟩ :=
          writeAll_counted r.upstream (q.take (chunk h offset)) healthy
        have within : chunk h offset ≤ bufferSize := Nat.min_le_left _ _
        have kept : (q.take (chunk h offset) ++ r.buf.drop (chunk h offset)).length =
            r.buf.length := by
          rw [List.length_append, taken, List.length_drop, buffer]
          omega
        obtain ⟨after, ran, carried⟩ := ih (q.drop (chunk h offset)).length
          (by rw [List.length_drop]; omega) (q.drop (chunk h offset)) (offset + chunk h offset)
          { r with
            reader := ⟨mask key (offset + chunk h offset) (q.drop (chunk h offset)) ++ rest,
              r.reader.broken⟩
            buf := q.take (chunk h offset) ++ r.buf.drop (chunk h offset)
            upstream := upstream }
          (by rw [List.length_drop]; omega) rfl (kept.trans buffer) still rfl
        refine ⟨after, (payload_step more read data wrote).trans ran, ?_⟩
        exact { carried with
          buffer := carried.buffer.trans kept
          accepted := by
            rw [carried.accepted, accepted, List.append_assoc, List.take_append_drop] }
      · have nothing : q = [] := List.length_eq_zero_iff.1 (by omega)
        subst nothing
        refine ⟨r, by rw [payload, dif_neg more], ?_, rfl, rfl, rfl, healthy,
          (List.append_nil _).symm⟩
        exact congrArg (Source.mk · r.reader.broken) (wired.trans (List.nil_append rest))

/-- A control payload fits one chunk and is left at the front of the buffer. -/
theorem payload_control (h : Head) (key : Bytes) (control : h.control = true) (p rest : Bytes)
    (r : Relay) (whole : p.length = h.length) (short : p.length ≤ bufferSize)
    (wired : r.reader.bytes = mask key 0 p ++ rest) :
    payload h key 0 r = (none, { r with
      reader := ⟨rest, r.reader.broken⟩
      buf := p ++ r.buf.drop p.length }) := by
  by_cases more : 0 < h.length
  · have all : chunk h 0 = p.length := by
      rw [chunk]
      omega
    have read : r.reader.readFull p.length = .ok (mask key 0 p, ⟨rest, r.reader.broken⟩) := by
      rw [show r.reader = ⟨r.reader.bytes, r.reader.broken⟩ from rfl, wired]
      exact Source.readFull_append (WebSocket.mask_length ..) _
    rw [payload, dif_pos more]
    simp only [all, read, control, WebSocket.mask_mask, if_true]
    rw [payload, dif_neg (by omega)]
  · have nothing : p = [] := List.length_eq_zero_iff.1 (by omega)
    subst nothing
    rw [payload, dif_neg more]
    refine congrArg (Prod.mk none) ?_
    obtain ⟨⟨bytes, broken⟩, _⟩ := r
    cases wired
    rfl

/-! ## One turn per kind of frame -/

/-- What a turn starts from. -/
structure Ready (inside : Bool) (r : Relay) : Prop where
  fragmented : r.fragmented = inside
  buffer : r.buf.length = bufferSize
  unclosed : r.socket.closeSent = false
  client : r.socket.conn.Healthy
  upstream : r.upstream.conn.Healthy

theorem turn_data {f : WebSocket.Frame} {key : MaskingKey} {inside after : Bool} {rest : Bytes}
    {r : Relay} (ok : Admissible f key) (data : (head f).control = false) (ready : Ready inside r)
    (fragments : fragment inside (head f) = .ok after) (wired : r.reader.bytes = f.encode ++ rest) :
    ∃ next, turn r = (none, next) ∧
      Carried f.payload rest { r with fragmented := after } next := by
  have headRead := readHead_encode ok rest r.reader.broken
  rw [← wired] at headRead
  obtain ⟨next, ran, carried⟩ := payload_data (head f) key.bytes data f.payload rest 0
    { r with
      reader := ⟨mask key.bytes 0 f.payload ++ rest, r.reader.broken⟩
      fragmented := after }
    (Nat.zero_add _) rfl ready.buffer ready.upstream
  refine ⟨next, ?_, { carried with }⟩
  simp only [turn, headRead, ready.fragmented, fragments, Source.readFull_append key.bytes_length, ran,
    data, Bool.false_eq_true, if_false]

/-- The state in which a control frame is answered: read, and its payload in the buffer. -/
def buffered (p rest : Bytes) (r : Relay) : Relay :=
  { r with
    reader := ⟨rest, r.reader.broken⟩
    buf := p ++ r.buf.drop p.length }

theorem Ready.buffered {inside : Bool} {r : Relay} (ready : Ready inside r) (p rest : Bytes)
    (short : p.length ≤ 125) : Ready inside (r.buffered p rest) := by
  refine { ready with buffer := ?_ }
  have small : 125 ≤ bufferSize := by decide
  show (p ++ r.buf.drop p.length).length = bufferSize
  rw [List.length_append, List.length_drop, ready.buffer]
  omega

theorem turn_control {f : WebSocket.Frame} {key : MaskingKey} {inside : Bool} {rest : Bytes}
    {r : Relay} (ok : Admissible f key) (control : (head f).control = true)
    (fragmented : r.fragmented = inside) (fragments : fragment inside (head f) = .ok inside)
    (wired : r.reader.bytes = f.encode ++ rest) :
    turn r = respond (head f) (r.buffered f.payload rest) := by
  have headRead := readHead_encode ok rest r.reader.broken
  rw [← wired] at headRead
  have short : f.payload.length ≤ bufferSize :=
    Nat.le_trans (ok.control (of_decide_eq_true control)).2 (by decide)
  have ran := payload_control (head f) key.bytes control f.payload rest
    { r with reader := ⟨mask key.bytes 0 f.payload ++ rest, r.reader.broken⟩ } rfl short rfl
  simp only [turn, headRead, fragmented, fragments, Source.readFull_append key.bytes_length]
  rw [← fragmented, ran]
  simp only [control, if_true, buffered]

theorem take_buffered (p rest : Bytes) (r : Relay) : (r.buffered p rest).buf.take p.length = p :=
  List.take_left

/-- The pong of a ping, whatever the client's connection does with it. -/
theorem respond_ping_eq (r : Relay) (p rest : Bytes) :
    respond ⟨true, 9, p.length⟩ (r.buffered p rest) =
      ((r.socket.writeFrame 10 p).1.map .write,
        { r.buffered p rest with socket := (r.socket.writeFrame 10 p).2 }) := by
  simp only [respond, take_buffered]
  rw [if_neg (by decide), if_pos trivial]
  rfl

theorem respond_close_eq (r : Relay) {p : Bytes} (rest : Bytes) (valid : admitClose p = .ok ()) :
    respond ⟨true, 8, p.length⟩ (r.buffered p rest) =
      (some .eof, { r.buffered p rest with socket := (r.socket.writeFrame 8 p).2 }) := by
  simp only [respond, take_buffered, valid, if_true]
  rfl

theorem respond_ping {inside : Bool} {r : Relay} {p rest : Bytes} (ready : Ready inside r) :
    ∃ socket, respond ⟨true, 9, p.length⟩ (r.buffered p rest) =
        (none, { r.buffered p rest with socket := socket }) ∧ Socket.Wrote 10 p r.socket socket := by
  obtain ⟨socket, written, wrote⟩ :=
    r.socket.writeFrame_healthy 10 p ready.unclosed ready.client
  refine ⟨socket, ?_, wrote⟩
  rw [respond_ping_eq, written]
  rfl

theorem respond_pong (r : Relay) (n : Nat) :
    ∃ renewals, respond ⟨true, 10, n⟩ r = (none, { r with renewals := renewals }) := by
  simp only [respond]
  rw [if_neg (by decide), if_neg (by decide)]
  split
  · exact ⟨_, rfl⟩
  · exact ⟨r.renewals, rfl⟩

theorem respond_close {inside : Bool} {r : Relay} {p rest : Bytes} (ready : Ready inside r)
    (valid : admitClose p = .ok ()) :
    ∃ socket, respond ⟨true, 8, p.length⟩ (r.buffered p rest) =
        (some .eof, { r.buffered p rest with socket := socket }) ∧
      Socket.Wrote 8 p r.socket socket := by
  obtain ⟨socket, written, wrote⟩ := r.socket.writeFrame_healthy 8 p ready.unclosed ready.client
  refine ⟨socket, ?_, wrote⟩
  rw [respond_close_eq r rest valid, written]

end Relay

theorem validClose_of_listed {code : Nat}
    (listed : code ∈ [1000, 1001, 1002, 1003, 1007, 1008, 1009, 1010, 1011, 1012, 1013, 1014] ∨
      (3000 ≤ code ∧ code ≤ 4999)) : validClose code = true := by
  simp only [List.mem_cons, List.not_mem_nil, or_false] at listed
  simp only [validClose, Bool.or_eq_true, Bool.and_eq_true, decide_eq_true_eq, ge_iff_le]
  omega

theorem admitClose_of_valid {p : Bytes} (valid : ClosePayload p) : admitClose p = .ok () := by
  rcases valid with rfl | ⟨code, reason, rfl, fits, listed, text⟩
  · rfl
  · have width := BigEndian.bytes_length 2 code
    rw [admitClose, if_neg (by rw [List.length_append, width]; omega), if_neg]
    rintro ⟨_, refused⟩
    rw [List.take_left' width, List.drop_left' width, BigEndian.value_bytes_of_lt fits,
      validClose_of_listed listed, text] at refused
    cases refused

/-! ## Whole sequences -/

theorem ClientFrame.opcode_lt (f : ClientFrame) : f.opcode < 16 := by
  cases f with
  | data continues _ _ _ =>
      cases continues with
      | false => exact (by decide : (2 : UInt8) < 16)
      | true => exact (by decide : (0 : UInt8) < 16)
  | ping _ _ => exact (by decide : (9 : UInt8) < 16)
  | pong _ _ => exact (by decide : (10 : UInt8) < 16)
  | close _ _ => exact (by decide : (8 : UInt8) < 16)

theorem ClientFrame.control_data (continues fin : Bool) (key : MaskingKey) (p : Bytes) :
    (head (ClientFrame.data continues fin key p).wire).control = false := by
  cases continues with
  | false => exact (by decide : decide ((8 : UInt8) ≤ 2) = false)
  | true => exact (by decide : decide ((8 : UInt8) ≤ 0) = false)

theorem ClientFrame.admissible_data {continues fin : Bool} {key : MaskingKey} {p : Bytes}
    (limit : p.length ≤ maxFrame) : Admissible (ClientFrame.data continues fin key p).wire key where
  keyed := rfl
  opcode := opcode_lt _
  limit := limit
  control high := absurd high (of_decide_eq_false (control_data continues fin key p))

theorem ClientFrame.admissible_control {f : ClientFrame} (unfragmented : f.fin = true)
    (short : f.payload.length ≤ 125) : Admissible f.wire f.key where
  keyed := rfl
  opcode := opcode_lt f
  limit := Nat.le_trans short (by decide)
  control _ := ⟨unfragmented, short⟩

theorem fragment_data (inside fin : Bool) (key : MaskingKey) (p : Bytes) :
    fragment inside (head (ClientFrame.data inside fin key p).wire) = .ok (!fin) := by
  cases inside with
  | false => rfl
  | true => cases fin <;> rfl

namespace Relay

/-- What the client is sent: a pong for each ping, then the echo of the close. -/
def replies (frames : List ClientFrame) : List WebSocket.Frame :=
  (frames.filterMap ClientFrame.ping?).map (Socket.frame 10) ++
    (frames.filterMap ClientFrame.close?).map (Socket.frame 8)

/-- What `relay` has done when it returns, for a reader that holds `frames`. -/
structure Relayed (frames : List ClientFrame) (r : Relay) (ended : RelayError × Relay) : Prop where
  upstream : ended.2.upstream.conn.accepted =
    r.upstream.conn.accepted ++ frames.flatMap ClientFrame.inner
  client : ended.2.socket.conn.accepted =
    r.socket.conn.accepted ++ WebSocket.encodeAll (replies frames)
  result : ended.1 =
    if r.reader.broken = true ∧ frames.filterMap ClientFrame.close? = [] then .read else .eof

/-- A frame that does not end the loop, before frames that the loop is right about. -/
theorem Relayed.cons {f : ClientFrame} {frames : List ClientFrame} {r next : Relay}
    (turned : turn r = (none, next)) (goesOn : f.close? = none)
    (reader : next.reader.broken = r.reader.broken)
    (upstream : next.upstream.conn.accepted = r.upstream.conn.accepted ++ f.inner)
    (client : next.socket.conn.accepted =
      r.socket.conn.accepted ++ WebSocket.encodeAll (f.ping?.toList.map (Socket.frame 10)))
    (rest : Relayed frames next (loop next)) : Relayed (f :: frames) r (loop r) := by
  have split : replies (f :: frames) =
      f.ping?.toList.map (Socket.frame 10) ++ replies frames := by
    rw [replies, List.filterMap_cons_none goesOn]
    cases answered : f.ping? with
    | none => rw [List.filterMap_cons_none answered]; rfl
    | some p => rw [List.filterMap_cons_some answered]; rfl
  rw [loop_of_turn turned]
  constructor
  · rw [rest.upstream, upstream, List.flatMap_cons, List.append_assoc]
  · rw [rest.client, client, split, WebSocket.encodeAll, WebSocket.encodeAll, WebSocket.encodeAll,
      List.flatMap_append, List.append_assoc]
  · rw [rest.result, reader, List.filterMap_cons_none goesOn]

theorem readHead_nil {reader : Source} (wired : reader.bytes = []) :
    readHead reader = .error (if reader.broken then .read else .eof) := by
  rw [readHead, Source.readFull, wired, if_neg (by decide), Fallible.bind_error, Source.ended]
  rfl

theorem turn_nil {r : Relay} (wired : r.reader.bytes = []) :
    turn r = (some (if r.reader.broken then .read else .eof), r) := by
  simp only [turn, readHead_nil wired]

theorem loop_profile {inside : Bool} {frames : List ClientFrame} (profile : Profile inside frames)
    (r : Relay) (ready : Ready inside r)
    (wired : r.reader.bytes = WebSocket.encodeAll (frames.map ClientFrame.wire)) :
    Relayed frames r (loop r) := by
  induction profile generalizing r with
  | nil =>
      rw [loop_of_end (turn_nil wired)]
      exact ⟨(List.append_nil _).symm, (List.append_nil _).symm, by simp⟩
  | @data inside fin key p rest limit _ ih =>
      obtain ⟨next, turned, carried⟩ := turn_data (ClientFrame.admissible_data limit)
        (ClientFrame.control_data inside fin key p) ready (fragment_data inside fin key p) wired
      refine Relayed.cons turned rfl (by rw [carried.reader]) carried.accepted ?_
        (ih next ⟨carried.fragmented, carried.buffer.trans ready.buffer, ?_, ?_, carried.healthy⟩
          (by rw [carried.reader]; rfl))
      · rw [carried.socket]
        exact (List.append_nil _).symm
      · rw [carried.socket]
        exact ready.unclosed
      · rw [carried.socket]
        exact ready.client
  | @ping inside key p rest short _ ih =>
      have turned := turn_control (f := (ClientFrame.ping key p).wire)
        (ClientFrame.admissible_control rfl short) rfl ready.fragmented rfl wired
      obtain ⟨socket, answered, wrote⟩ := respond_ping ready
      refine Relayed.cons (turned.trans answered) rfl rfl (List.append_nil _).symm ?_
        (ih _ { ready.buffered p (WebSocket.encodeAll (rest.map ClientFrame.wire)) short with
          unclosed := wrote.closeSent
          client := wrote.healthy } rfl)
      exact wrote.accepted.trans (congrArg _ (List.append_nil _).symm)
  | @pong inside key p rest short _ ih =>
      have turned := turn_control (f := (ClientFrame.pong key p).wire)
        (ClientFrame.admissible_control rfl short) rfl ready.fragmented rfl wired
      obtain ⟨renewals, answered⟩ := respond_pong (r.buffered p _) p.length
      exact Relayed.cons (turned.trans answered) rfl rfl (List.append_nil _).symm
        (List.append_nil _).symm
        (ih _ { ready.buffered p (WebSocket.encodeAll (rest.map ClientFrame.wire)) short with } rfl)
  | @close inside key p short valid =>
      have turned := turn_control (f := (ClientFrame.close key p).wire)
        (ClientFrame.admissible_control rfl short) rfl ready.fragmented rfl wired
      obtain ⟨socket, answered, wrote⟩ := respond_close ready (admitClose_of_valid valid)
      rw [loop_of_end (turned.trans answered)]
      refine ⟨(List.append_nil _).symm,
        wrote.accepted.trans (congrArg _ (List.append_nil _).symm), ?_⟩
      exact (if_neg fun none => List.cons_ne_nil p [] none.2).symm

end Relay

theorem Profile.closes_le_one {inside : Bool} {frames : List ClientFrame}
    (profile : Profile inside frames) : (frames.filterMap ClientFrame.close?).length ≤ 1 := by
  induction profile with
  | nil => exact Nat.zero_le 1
  | data _ _ ih => exact ih
  | ping _ _ ih => exact ih
  | pong _ _ ih => exact ih
  | close _ _ => exact Nat.le_refl 1

/-- **Relay transparency.**  When `relay` returns after a sequence of the profile,
upstream has received exactly the unmasked data payloads in order, and the client
one pong with the payload of each ping in order and then, if there was a close,
one close frame that echoes it.  It returns `io.EOF` for a close or an orderly end
of the stream. -/
theorem relay_transparent (frames : List ClientFrame) (profile : Profile false frames) (s : Socket)
    (unclosed : s.closeSent = false) (client : s.conn.Healthy) (upstream : CountedConn)
    (healthy : upstream.conn.Healthy) (broken : Bool) :
    let ended := s.relay ⟨WebSocket.encodeAll (frames.map ClientFrame.wire), broken⟩ upstream
    ended.2.upstream.conn.accepted =
        upstream.conn.accepted ++ frames.flatMap ClientFrame.inner ∧
      ended.2.socket.conn.accepted = s.conn.accepted ++ WebSocket.encodeAll
        ((frames.filterMap ClientFrame.ping?).map (Socket.frame 10) ++
          (frames.filterMap ClientFrame.close?).map (Socket.frame 8)) ∧
      (frames.filterMap ClientFrame.close?).length ≤ 1 ∧
      ended.1 = if broken = true ∧ frames.filterMap ClientFrame.close? = [] then .read else .eof := by
  intro ended
  have start : Relay.Ready false
      { reader := ⟨WebSocket.encodeAll (frames.map ClientFrame.wire), broken⟩
        upstream := upstream
        socket := s } :=
    { fragmented := rfl
      buffer := List.length_replicate
      unclosed := unclosed
      client := client
      upstream := healthy }
  have relayed := Relay.loop_profile profile _ start rfl
  exact ⟨relayed.upstream, relayed.client, profile.closes_le_one, relayed.result⟩

/-- A message in two fragments with a ping between them, and a close without a payload. -/
def opaqueBytes : List ClientFrame :=
  let key : MaskingKey := ⟨3, 5, 7, 11⟩
  [.data false false key [111, 112, 97, 113, 117, 101, 32], .ping key [112, 105, 110, 103],
    .data true true key [98, 121, 116, 101, 115], .close key []]

/-- Both connections take the bytes in small pieces at first. -/
theorem relay_transparent_opaqueBytes :
    let ended := Socket.relay { conn := { script := [⟨1, none⟩, ⟨3, none⟩] } }
      ⟨WebSocket.encodeAll (opaqueBytes.map ClientFrame.wire), false⟩
      { conn := { script := [⟨2, none⟩, ⟨1, none⟩] } }
    ended.2.upstream.conn.accepted =
        [111, 112, 97, 113, 117, 101, 32, 98, 121, 116, 101, 115] ∧
      ended.2.socket.conn.accepted = [0x8a, 4, 112, 105, 110, 103, 0x88, 0] ∧
      ended.1 = .eof := by
  intro ended
  have profile : Profile false opaqueBytes :=
    .data (by decide) (.ping (by decide) (.data (by decide) (.close (by decide) (.inl rfl))))
  obtain ⟨up, down, _, result⟩ := relay_transparent opaqueBytes profile
    { conn := { script := [⟨1, none⟩, ⟨3, none⟩] } } rfl (by decide)
    { conn := { script := [⟨2, none⟩, ⟨1, none⟩] } } (by decide) false
  exact ⟨up.trans (by decide), down.trans (by decide), result⟩

end GrpcBridge.Tunnel
