/-
# Tunnel.Socket -- connections, writeAll and the frames the bridge writes

The write side of cmd/bridge/main.go: `writeAll`, `socket.writeFrame` and
`socket.closeWith`, with `countedWriter` and `countedConn` of metrics.go.

A connection is the bytes it has accepted and a script of what its next `Write`
calls do, any count with or without an error; past the end of the script it
takes everything.  A finite run makes finitely many calls, so every behaviour of
a connection in a run is some script.  `Healthy` scripts are those in which no
call errs and none takes nothing, however short its writes are, and under them
`writeAll` delivers the whole slice (`writeAll_progress`).

Deadlines only choose when a call returns an error, so they are part of the
script.
-/
import GrpcBridge.Theory.WebSocket

namespace GrpcBridge.Tunnel

set_option autoImplicit false

open GrpcBridge.Theory

abbrev Bytes := List UInt8

/-- Errors of a connection: `net.ErrClosed`, `io.ErrShortWrite`, anything else. -/
inductive NetError where
  | closed
  | shortWrite
  | failed
deriving DecidableEq, Repr

/-! ## io.Writer -/

/-- What one `Write` returns. -/
structure Written where
  count : Nat
  error : Option NetError := none
deriving DecidableEq, Repr

/-- `io.Writer` with its contract: a call takes the first `count` bytes of what it is given. -/
class Writer (ω : Type) where
  write : ω → Bytes → Written × ω
  accepted : ω → Bytes
  write_count : ∀ w p, (write w p).1.count ≤ p.length
  write_accepted : ∀ w p, accepted (write w p).2 = accepted w ++ p.take (write w p).1.count

open Writer (write accepted)

def writeAll {ω : Type} [Writer ω] (w : ω) (p : Bytes) : Option NetError × ω :=
  match p with
  | [] => (none, w)
  | b :: rest =>
      match write w (b :: rest) with
      | (⟨_, some e⟩, w) => (some e, w)
      | (⟨0, none⟩, w) => (some .shortWrite, w)
      | (⟨n + 1, none⟩, w) => writeAll w ((b :: rest).drop (n + 1))
termination_by p.length
decreasing_by
  rw [List.length_drop, List.length_cons]
  omega

/-- **A writer that always takes something takes everything.** -/
theorem writeAll_progress {ω : Type} [Writer ω] {healthy : ω → Prop}
    (progress : ∀ w p, healthy w → p ≠ [] → (write w p).1.error = none ∧
      0 < (write w p).1.count ∧ healthy (write w p).2)
    (w : ω) (p : Bytes) (start : healthy w) :
    (writeAll w p).1 = none ∧ healthy (writeAll w p).2 ∧
      accepted (writeAll w p).2 = accepted w ++ p := by
  fun_induction writeAll w p with
  | case1 w => exact ⟨rfl, start, (List.append_nil _).symm⟩
  | case2 w b rest n e after written =>
      have clean := (progress w (b :: rest) start (List.cons_ne_nil _ _)).1
      rw [written] at clean
      cases clean
  | case3 w b rest after written =>
      have positive := (progress w (b :: rest) start (List.cons_ne_nil _ _)).2.1
      rw [written] at positive
      exact absurd positive (Nat.lt_irrefl 0)
  | case4 w b rest after n written ih =>
      have kept := (progress w (b :: rest) start (List.cons_ne_nil _ _)).2.2
      have taken := Writer.write_accepted w (b :: rest)
      rw [written] at kept taken
      obtain ⟨fine, still, all⟩ := ih kept
      refine ⟨fine, still, ?_⟩
      rw [all, taken, List.append_assoc, List.take_append_drop]

/-- `writeAll` hands over a prefix of its slice, and all of it if it returns nil. -/
theorem writeAll_prefix {ω : Type} [Writer ω] (w : ω) (p : Bytes) :
    ∃ sent rest, p = sent ++ rest ∧ accepted (writeAll w p).2 = accepted w ++ sent ∧
      ((writeAll w p).1 = none → rest = []) := by
  fun_induction writeAll w p with
  | case1 w => exact ⟨[], [], rfl, (List.append_nil _).symm, fun _ => rfl⟩
  | case2 w b rest n e after written =>
      have taken := Writer.write_accepted w (b :: rest)
      rw [written] at taken
      exact ⟨_, _, (List.take_append_drop n _).symm, taken, fun done => nomatch done⟩
  | case3 w b rest after written =>
      have taken := Writer.write_accepted w (b :: rest)
      rw [written] at taken
      exact ⟨_, _, (List.take_append_drop 0 _).symm, taken, fun done => nomatch done⟩
  | case4 w b rest n after written ih =>
      have taken := Writer.write_accepted w (b :: rest)
      rw [written] at taken
      obtain ⟨sent, unsent, parts, more, all⟩ := ih
      refine ⟨(b :: rest).take (n + 1) ++ sent, unsent, ?_, ?_, all⟩
      · rw [List.append_assoc, ← parts, List.take_append_drop]
      · rw [more, taken, List.append_assoc]

/-! ## Connections -/

structure Conn where
  accepted : Bytes := []
  script : List Written := []
deriving DecidableEq, Repr

def Conn.write (c : Conn) (p : Bytes) : Written × Conn :=
  match c.script with
  | [] => (⟨p.length, none⟩, { c with accepted := c.accepted ++ p })
  | ⟨n, e⟩ :: script => (⟨min n p.length, e⟩, ⟨c.accepted ++ p.take n, script⟩)

instance : Writer Conn where
  write := Conn.write
  accepted := Conn.accepted
  write_count c p := by
    rw [Conn.write]
    split
    · exact Nat.le_refl _
    · exact Nat.min_le_right _ _
  write_accepted c p := by
    rw [Conn.write]
    split
    · rw [List.take_length]
    · rw [← List.take_eq_take_min]

/-- No later call returns an error or takes nothing. -/
def Conn.Healthy (c : Conn) : Prop := ∀ w ∈ c.script, w.error = none ∧ 0 < w.count

instance (c : Conn) : Decidable c.Healthy := inferInstanceAs (Decidable (∀ _ ∈ _, _))

theorem Conn.write_progress (c : Conn) (p : Bytes) (healthy : c.Healthy) (some : p ≠ []) :
    (c.write p).1.error = none ∧ 0 < (c.write p).1.count ∧ (c.write p).2.Healthy := by
  have long : 0 < p.length := List.length_pos_iff.2 some
  obtain ⟨taken, script⟩ := c
  cases script with
  | nil => exact ⟨rfl, long, healthy⟩
  | cons next script =>
      obtain ⟨clean, positive⟩ := healthy next List.mem_cons_self
      exact ⟨clean, Nat.lt_min.2 ⟨positive, long⟩,
        fun w later => healthy w (List.mem_cons_of_mem _ later)⟩

/-- A connection behind a byte counter: `countedWriter` and `countedConn`. -/
structure CountedConn where
  conn : Conn := {}
  bytes : Nat := 0
deriving DecidableEq, Repr

/-- Count bytes accepted by the destination writer, including partial writes. -/
def CountedConn.write (w : CountedConn) (p : Bytes) : Written × CountedConn :=
  let (result, conn) := w.conn.write p
  (result, ⟨conn, w.bytes + result.count⟩)

instance : Writer CountedConn where
  write := CountedConn.write
  accepted w := w.conn.accepted
  write_count w p := Writer.write_count w.conn p
  write_accepted w p := Writer.write_accepted w.conn p

/-! ## socket -/

structure Socket where
  conn : Conn := {}
  closeSent : Bool := false
  /-- The `toClient` counter, when there is one. -/
  downstreamBytes : Option Nat := none
  /-- History: the frames whose `writeFrame` has returned nil, in lock order. -/
  sent : List WebSocket.Frame := []
deriving DecidableEq, Repr

namespace Socket

/-- The frame that a `writeFrame` stands for: unmasked and unfragmented. -/
def frame (op : UInt8) (p : Bytes) : WebSocket.Frame :=
  { fin := true, opcode := op, key := none, payload := p }

/-- The two, four or ten header bytes of `writeFrame`. -/
def header (op : UInt8) (length : Nat) : Bytes :=
  if length < 126 then [0x80 ||| op, UInt8.ofNat length]
  else if length ≤ 65535 then [0x80 ||| op, 126] ++ BigEndian.bytes 2 length
  else [0x80 ||| op, 127] ++ BigEndian.bytes 8 length

/-- The payload of `writeFrame`: binary frames pass through the counter. -/
def writePayload (s : Socket) (op : UInt8) (p : Bytes) : Option NetError × Socket :=
  match s.downstreamBytes with
  | some bytes =>
      if op = 2 then
        let (result, counted) := writeAll (CountedConn.mk s.conn bytes) p
        (result, { s with conn := counted.conn, downstreamBytes := some counted.bytes })
      else
        let (result, conn) := writeAll s.conn p
        (result, { s with conn := conn })
  | none =>
      let (result, conn) := writeAll s.conn p
      (result, { s with conn := conn })

/-- One frame, under `writeMu`.  A close frame ends the WebSocket write side. -/
def writeFrame (s : Socket) (op : UInt8) (p : Bytes) : Option NetError × Socket :=
  if s.closeSent then (some .closed, s)
  else
    let s := { s with closeSent := s.closeSent || op == 8 }
    match writeAll s.conn (header op p.length) with
    | (some e, conn) => (some e, { s with conn := conn })
    | (none, conn) =>
        match writePayload { s with conn := conn } op p with
        | (some e, s) => (some e, s)
        | (none, s) => (none, { s with sent := s.sent ++ [frame op p] })

def closeWith (s : Socket) (code : UInt16) : Option NetError × Socket :=
  s.writeFrame 8 (BigEndian.bytes 2 code.toNat)

/-! ## What a frame looks like on the wire -/

theorem header_append (op : UInt8) (p : Bytes) :
    header op p.length ++ p = (frame op p).encode := by
  rw [header, WebSocket.Frame.encode, WebSocket.Frame.lengthField]
  simp only [frame, WebSocket.Frame.first, WebSocket.Frame.maskBit, WebSocket.Frame.body]
  by_cases short : p.length < 126
  · simp [short]
  · by_cases medium : p.length ≤ 65535
    · simp [short, medium]
    · simp [short, medium]

theorem writePayload_healthy (s : Socket) (op : UInt8) (p : Bytes) (healthy : s.conn.Healthy) :
    ∃ after, s.writePayload op p = (none, after) ∧ after.conn.Healthy ∧
      after.conn.accepted = s.conn.accepted ++ p ∧ after.closeSent = s.closeSent ∧
      after.sent = s.sent := by
  have plain := writeAll_progress Conn.write_progress s.conn p healthy
  simp only [writePayload]
  split
  · rename_i bytes _
    split
    · have counted := @writeAll_progress CountedConn _ (fun w => w.conn.Healthy)
        (fun w p healthy => Conn.write_progress w.conn p healthy) ⟨s.conn, bytes⟩ p healthy
      exact ⟨_, Prod.ext counted.1 rfl, counted.2.1, counted.2.2, rfl, rfl⟩
    · exact ⟨_, Prod.ext plain.1 rfl, plain.2.1, plain.2.2, rfl, rfl⟩
  · exact ⟨_, Prod.ext plain.1 rfl, plain.2.1, plain.2.2, rfl, rfl⟩

theorem writeFrame_closed (s : Socket) (op : UInt8) (p : Bytes) (closed : s.closeSent = true) :
    s.writeFrame op p = (some .closed, s) := by
  rw [writeFrame, if_pos closed]

/-- What a frame that goes out whole does to the socket. -/
structure Wrote (op : UInt8) (p : Bytes) (s after : Socket) : Prop where
  healthy : after.conn.Healthy
  accepted : after.conn.accepted = s.conn.accepted ++ (frame op p).encode
  closeSent : after.closeSent = (op == 8)
  sent : after.sent = s.sent ++ [frame op p]

/-- **On a healthy connection, a frame goes out whole unless a close has gone out before.** -/
theorem writeFrame_healthy (s : Socket) (op : UInt8) (p : Bytes) (unclosed : s.closeSent = false)
    (healthy : s.conn.Healthy) :
    ∃ after, s.writeFrame op p = (none, after) ∧ Wrote op p s after := by
  obtain ⟨sent, still, wrote⟩ :=
    writeAll_progress Conn.write_progress s.conn (header op p.length) healthy
  generalize headed : writeAll s.conn (header op p.length) = first at sent still wrote
  obtain ⟨result, conn⟩ := first
  subst sent
  have begun : conn.accepted = s.conn.accepted ++ header op p.length := wrote
  obtain ⟨after, ended, kept, whole, flag, log⟩ :=
    writePayload_healthy { s with conn := conn, closeSent := false || op == 8 } op p still
  refine ⟨{ after with sent := after.sent ++ [frame op p] }, ?_, kept, ?_, ?_, ?_⟩
  · rw [writeFrame, unclosed, if_neg Bool.false_ne_true]
    simp only [headed, ended]
  · rw [← header_append, ← List.append_assoc, ← begun]
    exact whole
  · exact flag.trans (Bool.false_or _)
  · exact congrArg (· ++ [frame op p]) log

end Socket

end GrpcBridge.Tunnel
