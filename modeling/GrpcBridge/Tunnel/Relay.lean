/-
# Tunnel.Relay -- the client-to-upstream half of a tunnel

`socket.relay` of cmd/bridge/main.go: a hand-written reader of masked client
frames.  One turn of its loop is `Relay.turn`, cut at the places where the
source reads from the connection; a turn either goes on to the next frame or
ends `relay` with an error, `io.EOF` included.

The state keeps what outlives a turn: the reader, the 16 KiB buffer that data
chunks and control payloads share, the fragmentation flag, both connections, and
how often an "alive" pong has moved the read deadline.

The reader is the bytes the client sends and what follows the last of them.
When they arrive only decides when a turn happens.
-/
import GrpcBridge.Theory.Fallible
import GrpcBridge.Tunnel.Socket

namespace GrpcBridge.Tunnel

set_option autoImplicit false

open GrpcBridge.Theory

/-- The payload of the bridge's own pings. -/
def alive : Bytes := "alive".toUTF8.data.toList

def bufferSize : Nat := 16 * 1024

def maxFrame : Nat := 1 <<< 20

/-! ## Errors -/

/-- The protocol errors of `relay`. -/
inductive Violation where
  | reservedOrUnmasked
  | noncanonicalLength
  | frameLimit
  | invalidControl
  | unexpectedContinuation
  | interleavedMessage
  | unsupportedOpcode
  | closePayload
  | closeCode
deriving DecidableEq, Repr

def Violation.message : Violation → String
  | .reservedOrUnmasked => "reserved bits or missing mask"
  | .noncanonicalLength => "noncanonical length"
  | .frameLimit => "frame limit"
  | .invalidControl => "invalid control frame"
  | .unexpectedContinuation => "unexpected continuation"
  | .interleavedMessage => "interleaved data message"
  | .unsupportedOpcode => "unsupported opcode"
  | .closePayload => "invalid close payload"
  | .closeCode => "invalid close code or UTF-8"

inductive RelayError where
  | eof
  | unexpectedEof
  | read
  | write (error : NetError)
  | violation (v : Violation)
deriving DecidableEq, Repr

/-! ## Reading -/

/-- The bytes still to come, and whether the connection then fails or ends. -/
structure Source where
  bytes : Bytes
  broken : Bool := false
deriving DecidableEq, Repr

namespace Source

/-- The error of a `Read` after the last byte, when `io.ReadFull` has got `got` of its bytes. -/
def ended (s : Source) (got : Bytes) : RelayError :=
  if s.broken then .read else if got = [] then .eof else .unexpectedEof

/-- `io.ReadFull` into a slice of length `n`. -/
def readFull (s : Source) (n : Nat) : Except RelayError (Bytes × Source) :=
  if n ≤ s.bytes.length then .ok (s.bytes.take n, { s with bytes := s.bytes.drop n })
  else .error (s.ended s.bytes)

end Source

/-! ## One frame -/

/-- What the first bytes of a frame say. -/
structure Head where
  fin : Bool
  op : UInt8
  length : Nat
deriving DecidableEq, Repr

def Head.control (h : Head) : Bool := 8 ≤ h.op

/-- An extended length, refused when a shorter form holds it. -/
def canonical (least : Nat) (read : Bytes × Source) : Except RelayError (Nat × Source) :=
  if BigEndian.value read.1 < least then .error (.violation .noncanonicalLength)
  else .ok (BigEndian.value read.1, read.2)

def readLength (reader : Source) (b : UInt8) : Except RelayError (Nat × Source) :=
  if (b &&& 127).toNat = 126 then reader.readFull 2 >>= canonical 126
  else if (b &&& 127).toNat = 127 then reader.readFull 8 >>= canonical 65536
  else .ok ((b &&& 127).toNat, reader)

/-- Reserved bits are clear and the mask bit is set. -/
def admitBits (first second : UInt8) : Except RelayError Unit :=
  if first &&& 0x70 ≠ 0 ∨ second &&& 0x80 = 0 then .error (.violation .reservedOrUnmasked)
  else .ok ()

/-- The limits on a frame's length: of any frame, and of a control frame. -/
def admitLength (h : Head) : Except RelayError Unit :=
  if h.length > maxFrame then .error (.violation .frameLimit)
  else if h.control && (!h.fin || h.length > 125) then .error (.violation .invalidControl)
  else .ok ()

def readHead (reader : Source) : Except RelayError (Head × Source) := do
  let (h, reader) ← reader.readFull 2
  let first := h.getD 0 0
  let second := h.getD 1 0
  admitBits first second
  let (length, reader) ← readLength reader second
  let head : Head := ⟨first &&& 0x80 != 0, first &&& 15, length⟩
  admitLength head
  return (head, reader)

/-- The switch on the opcode: whether a message is open after this frame. -/
def fragment (fragmented : Bool) (h : Head) : Except RelayError Bool :=
  if h.op = 0 then
    if !fragmented then .error (.violation .unexpectedContinuation)
    else .ok (if h.fin then false else fragmented)
  else if h.op = 2 then
    if fragmented then .error (.violation .interleavedMessage)
    else .ok (!h.fin)
  else if h.op = 8 ∨ h.op = 9 ∨ h.op = 10 then .ok fragmented
  else .error (.violation .unsupportedOpcode)

def validClose (c : Nat) : Bool :=
  (c ≥ 3000 && c ≤ 4999) ||
    (c ≥ 1000 && c ≤ 1014 && c ≠ 1004 && c ≠ 1005 && c ≠ 1006)

/-- `utf8.Valid` -/
def utf8Valid (p : Bytes) : Bool := ByteArray.validateUTF8 ⟨p.toArray⟩

/-- The checks on the payload of a close frame. -/
def admitClose (p : Bytes) : Except RelayError Unit :=
  if p.length = 1 then .error (.violation .closePayload)
  else if 2 ≤ p.length ∧ (!validClose (BigEndian.value (p.take 2)) || !utf8Valid (p.drop 2)) then
    .error (.violation .closeCode)
  else .ok ()

/-! ## The loop -/

structure Relay where
  reader : Source
  buf : Bytes := List.replicate bufferSize 0
  fragmented : Bool := false
  upstream : CountedConn
  socket : Socket
  /-- Read deadlines set for "alive" pongs. -/
  renewals : Nat := 0
deriving DecidableEq, Repr

namespace Relay

/-- How many bytes the next turn of the payload loop reads: what the buffer takes of the rest. -/
def chunk (h : Head) (offset : Nat) : Nat := min bufferSize (h.length - offset)

theorem chunk_pos {h : Head} {offset : Nat} (more : offset < h.length) : 0 < chunk h offset := by
  have positive : 0 < bufferSize := by decide
  rw [chunk]
  omega

/-- The payload loop from `offset` on: read a chunk, unmask it, forward it. -/
def payload (h : Head) (key : Bytes) (offset : Nat) (r : Relay) : Option RelayError × Relay :=
  if more : offset < h.length then
    have := chunk_pos more
    match r.reader.readFull (chunk h offset) with
    | .error e => (some e, r)
    | .ok (masked, reader) =>
        let p := WebSocket.mask key offset masked
        let r := { r with reader := reader, buf := p ++ r.buf.drop (chunk h offset) }
        if h.control then payload h key (offset + chunk h offset) r
        else
          match writeAll r.upstream p with
          | (some e, upstream) => (some (.write e), { r with upstream := upstream })
          | (none, upstream) =>
              payload h key (offset + chunk h offset) { r with upstream := upstream }
  else (none, r)
termination_by h.length - offset

/-- What a control frame is answered with, and whether it ends the loop. -/
def respond (h : Head) (r : Relay) : Option RelayError × Relay :=
  let p := r.buf.take h.length
  if h.op = 8 then
    match admitClose p with
    | .error e => (some e, r)
    | .ok () => (some .eof, { r with socket := (r.socket.writeFrame 8 p).2 })
  else if h.op = 9 then
    let (result, socket) := r.socket.writeFrame 10 p
    (result.map .write, { r with socket := socket })
  else if h.op = 10 ∧ p = alive then
    (none, { r with renewals := r.renewals + 1 })
  else (none, r)

/-- One turn of the loop: a whole frame, or the error that ends `relay`. -/
def turn (r : Relay) : Option RelayError × Relay :=
  match readHead r.reader with
  | .error e => (some e, r)
  | .ok (h, reader) =>
      match fragment r.fragmented h with
      | .error e => (some e, { r with reader := reader })
      | .ok fragmented =>
          match reader.readFull 4 with
          | .error e => (some e, { r with reader := reader, fragmented := fragmented })
          | .ok (key, reader) =>
              match payload h key 0 { r with reader := reader, fragmented := fragmented } with
              | (some e, r) => (some e, r)
              | (none, r) => if h.control then respond h r else (none, r)

end Relay

/-! ## Every turn that goes on has read something -/

theorem Source.readFull_length {s after : Source} {n : Nat} {p : Bytes}
    (read : s.readFull n = .ok (p, after)) : after.bytes.length + n = s.bytes.length := by
  simp only [readFull] at read
  split at read
  · cases read
    rw [List.length_drop]
    omega
  · cases read

theorem canonical_length {s after : Source} {width least n : Nat}
    (read : (s.readFull width >>= canonical least) = .ok (n, after)) :
    after.bytes.length ≤ s.bytes.length := by
  obtain ⟨⟨p, rest⟩, taken, kept⟩ := Fallible.bind_eq_ok.1 read
  have shorter := Source.readFull_length taken
  simp only [canonical] at kept
  split at kept <;> cases kept
  omega

theorem readLength_length {s after : Source} {b : UInt8} {n : Nat}
    (read : readLength s b = .ok (n, after)) : after.bytes.length ≤ s.bytes.length := by
  simp only [readLength] at read
  split at read
  · exact canonical_length read
  · split at read
    · exact canonical_length read
    · cases read
      exact Nat.le_refl _

theorem readHead_length {s after : Source} {h : Head} (read : readHead s = .ok (h, after)) :
    after.bytes.length < s.bytes.length := by
  obtain ⟨⟨p, rest⟩, taken, read⟩ := Fallible.bind_eq_ok.1 read
  obtain ⟨_, _, read⟩ := Fallible.bind_eq_ok.1 read
  obtain ⟨⟨n, tail⟩, lengthRead, read⟩ := Fallible.bind_eq_ok.1 read
  obtain ⟨_, _, read⟩ := Fallible.bind_eq_ok.1 read
  cases read
  have bits := Source.readFull_length taken
  have shorter := readLength_length lengthRead
  omega

namespace Relay

theorem payload_length (h : Head) (key : Bytes) (offset : Nat) (r : Relay) :
    (payload h key offset r).2.reader.bytes.length ≤ r.reader.bytes.length := by
  fun_induction payload h key offset r with
  | case1 offset r _ _ e _ => exact Nat.le_refl _
  | case2 offset r _ _ masked reader taken p next _ ih =>
      have shorter := Source.readFull_length taken
      exact Nat.le_trans ih (show reader.bytes.length ≤ r.reader.bytes.length by omega)
  | case3 offset r _ _ masked reader taken p next _ e upstream _ =>
      have shorter := Source.readFull_length taken
      show reader.bytes.length ≤ r.reader.bytes.length
      omega
  | case4 offset r _ _ masked reader taken p next _ upstream _ ih =>
      have shorter := Source.readFull_length taken
      exact Nat.le_trans ih (show reader.bytes.length ≤ r.reader.bytes.length by omega)
  | case5 offset r _ => exact Nat.le_refl _

theorem payload_socket (h : Head) (key : Bytes) (offset : Nat) (r : Relay) :
    (payload h key offset r).2.socket = r.socket := by
  fun_induction payload h key offset r with
  | case1 | case3 | case5 => rfl
  | case2 _ _ _ _ _ _ _ _ _ _ ih => exact ih
  | case4 _ _ _ _ _ _ _ _ _ _ _ _ ih => exact ih

theorem respond_reader (h : Head) (r : Relay) : (respond h r).2.reader = r.reader := by
  simp only [respond]
  split
  · split <;> rfl
  · split
    · rfl
    · split <;> rfl

theorem turn_length {r next : Relay} (turned : turn r = (none, next)) :
    next.reader.bytes.length < r.reader.bytes.length := by
  simp only [turn] at turned
  split at turned
  · cases turned
  · rename_i h reader headRead
    have headShorter := readHead_length headRead
    split at turned
    · cases turned
    · rename_i fragmented _
      split at turned
      · cases turned
      · rename_i key body keyRead
        have keyShorter := Source.readFull_length keyRead
        have payloadShorter := payload_length h key 0
          { r with reader := body, fragmented := fragmented }
        split at turned
        · cases turned
        · rename_i after payloadRead
          rw [payloadRead] at payloadShorter
          dsimp only at payloadShorter
          have same : next.reader = after.reader := by
            split at turned
            · rw [← respond_reader h after, turned]
            · cases turned
              rfl
          rw [same]
          omega

/-- The loop of `relay`. -/
def loop (r : Relay) : RelayError × Relay :=
  match _turned : turn r with
  | (some e, next) => (e, next)
  | (none, next) => loop next
termination_by r.reader.bytes.length
decreasing_by exact turn_length _turned

theorem loop_of_end {r next : Relay} {e : RelayError} (turned : turn r = (some e, next)) :
    loop r = (e, next) := by
  rw [loop]
  split <;> rename_i other <;> rw [turned] at other <;> cases other
  rfl

theorem loop_of_turn {r next : Relay} (turned : turn r = (none, next)) :
    loop r = loop next := by
  rw [loop]
  split <;> rename_i other <;> rw [turned] at other <;> cases other
  rfl

end Relay

def Socket.relay (s : Socket) (reader : Source) (upstream : CountedConn) : RelayError × Relay :=
  Relay.loop { reader := reader, upstream := upstream, socket := s }

end GrpcBridge.Tunnel
