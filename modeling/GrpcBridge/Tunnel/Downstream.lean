/-
# Tunnel.Downstream -- what the client receives under every interleaving

For every interleaving of the pump, the ticker and the handler, and for a client
connection whose writes succeed however short they are, `downstream_of_reaches`:
the bytes on the wire decode to exactly the frames whose `writeFrame` returned
nil, in lock order; at most one of them is a close, and it is the last; and the
binary payloads are the bytes the pump has read, all of them unless somebody else
has ended the write side.

The socket's part of the invariant (`Ordered`) is kept by every `writeFrame`,
whoever calls it.  The pump's part (`Account`) is kept by every step of another
goroutine because only the pump writes binary frames.
-/
import GrpcBridge.Tunnel.Transparency
import GrpcBridge.Tunnel.Writers

namespace GrpcBridge.Tunnel

set_option autoImplicit false

open GrpcBridge.Theory

/-! ## The socket -/

/-- The write side ends with its only close, once that has been sent. -/
def Terminal (closeSent : Bool) (sent : List WebSocket.Frame) : Prop :=
  ∃ before, (∀ f ∈ before, f.opcode ≠ 8) ∧
    if closeSent then ∃ close, close.opcode = 8 ∧ sent = before ++ [close] else sent = before

structure Ordered (s : Socket) : Prop where
  healthy : s.conn.Healthy
  wire : s.conn.accepted = WebSocket.encodeAll s.sent
  server : ∀ f ∈ s.sent, f.Fits ∧ f.fin = true ∧ f.key = none
  terminal : Terminal s.closeSent s.sent

theorem Ordered.decodes {s : Socket} (ordered : Ordered s) :
    WebSocket.decodeAll s.conn.accepted = some s.sent := by
  rw [ordered.wire]
  exact WebSocket.decodeAll_encodeAll s.sent fun f inside => (ordered.server f inside).1

/-- The two outcomes of a `writeFrame` on a healthy connection. -/
theorem Ordered.writeFrame_cases {s : Socket} (ordered : Ordered s) (op : UInt8) (p : Bytes) :
    (s.closeSent = true ∧ s.writeFrame op p = (some .closed, s)) ∨
      (s.closeSent = false ∧
        ∃ after, s.writeFrame op p = (none, after) ∧ Socket.Wrote op p s after) := by
  cases closed : s.closeSent with
  | true => exact .inl ⟨rfl, s.writeFrame_closed op p closed⟩
  | false => exact .inr ⟨rfl, s.writeFrame_healthy op p closed ordered.healthy⟩

theorem Terminal.append {sent : List WebSocket.Frame} (terminal : Terminal false sent)
    (op : UInt8) (p : Bytes) : Terminal (op == 8) (sent ++ [Socket.frame op p]) := by
  obtain ⟨before, data, rfl⟩ := terminal
  by_cases close : op = 8
  · subst close
    exact ⟨sent, data, Socket.frame 8 p, rfl, rfl⟩
  · refine ⟨sent ++ [Socket.frame op p], ?_, ?_⟩
    · intro f inside
      rcases List.mem_append.1 inside with earlier | last
      · exact data f earlier
      · rw [List.mem_singleton.1 last]
        exact close
    · rw [beq_false_of_ne close]
      rfl

theorem Ordered.wrote {s after : Socket} {op : UInt8} {p : Bytes} (ordered : Ordered s)
    (unclosed : s.closeSent = false) (wrote : Socket.Wrote op p s after)
    (fits : (Socket.frame op p).Fits) : Ordered after where
  healthy := wrote.healthy
  wire := by
    rw [wrote.accepted, wrote.sent, ordered.wire, WebSocket.encodeAll_concat]
  server f inside := by
    rw [wrote.sent] at inside
    rcases List.mem_append.1 inside with earlier | last
    · exact ordered.server f earlier
    · rw [List.mem_singleton.1 last]
      exact ⟨fits, rfl, rfl⟩
  terminal := by
    have terminal := ordered.terminal
    rw [unclosed] at terminal
    rw [wrote.sent, wrote.closeSent]
    exact terminal.append op p

/-! ## The other goroutines -/

/-- The bytes of the inner stream that have gone out. -/
def binary (sent : List WebSocket.Frame) : Bytes :=
  (sent.filter fun f => f.opcode == 2).flatMap WebSocket.Frame.payload

theorem binary_append (sent : List WebSocket.Frame) (op : UInt8) (p : Bytes) :
    binary (sent ++ [Socket.frame op p]) = binary sent ++ if op = 2 then p else [] := by
  rw [binary, List.filter_append, List.flatMap_append, ← binary]
  by_cases data : op = 2
  · subst data
    simp [Socket.frame]
  · simp [Socket.frame, data]

/-- What a goroutine other than the pump can do to the socket in one step. -/
inductive Control (s : Socket) : Socket → Prop
  | idle : Control s s
  | write {op : UInt8} {p : Bytes} : op = 8 ∨ op = 9 ∨ op = 10 → p.length < 2 ^ 63 →
      Control s (s.writeFrame op p).2

/-- What the pump's account needs of the other goroutines. -/
structure Spared (s after : Socket) : Prop where
  ordered : Ordered after
  binary : binary after.sent = binary s.sent
  closed : after.closeSent = false → s.closeSent = false

theorem Control.spares {s after : Socket} (control : Control s after) (ordered : Ordered s) :
    Spared s after := by
  cases control with
  | idle => exact ⟨ordered, rfl, id⟩
  | @write op p kind short =>
      rcases ordered.writeFrame_cases op p with ⟨_, closed⟩ | ⟨unclosed, after, written, wrote⟩
      · rw [closed]
        exact ⟨ordered, rfl, id⟩
      · have small : op < 16 ∧ op ≠ 2 := by
          rcases kind with rfl | rfl | rfl <;> decide
        rw [written]
        refine ⟨ordered.wrote unclosed wrote ⟨small.1, short⟩, ?_, fun _ => unclosed⟩
        show Tunnel.binary after.sent = _
        rw [wrote.sent, binary_append, if_neg small.2, List.append_nil]

namespace Relay

theorem readHead_limit {s after : Source} {h : Head} (read : readHead s = .ok (h, after)) :
    h.length ≤ maxFrame := by
  obtain ⟨_, _, read⟩ := Fallible.bind_eq_ok.1 read
  obtain ⟨_, _, read⟩ := Fallible.bind_eq_ok.1 read
  obtain ⟨⟨n, tail⟩, _, read⟩ := Fallible.bind_eq_ok.1 read
  obtain ⟨_, admitted, read⟩ := Fallible.bind_eq_ok.1 read
  cases read
  simp only [admitLength] at admitted
  split at admitted
  · cases admitted
  · rename_i within
    exact Nat.not_lt.1 within

theorem respond_control (h : Head) (r : Relay) (limit : h.length ≤ maxFrame) :
    Control r.socket (respond h r).2.socket := by
  have short : (r.buf.take h.length).length < 2 ^ 63 :=
    Nat.lt_of_le_of_lt (Nat.le_trans (List.length_take_le ..) limit) (by decide)
  simp only [respond]
  split
  · split
    · exact .idle
    · exact .write (.inl rfl) short
  · split
    · exact .write (.inr (.inr rfl)) short
    · split <;> exact .idle

/-- A turn of `relay` writes at most one frame, a pong or a close. -/
theorem turn_control_socket (r : Relay) : Control r.socket r.turn.2.socket := by
  simp only [turn]
  split
  · exact .idle
  · rename_i h reader headRead
    split
    · exact .idle
    · rename_i fragmented _
      split
      · exact .idle
      · rename_i key body _
        have untouched := payload_socket h key 0 { r with reader := body, fragmented := fragmented }
        split
        · rename_i carried
          rw [carried] at untouched
          rw [untouched]
          exact .idle
        · rename_i next carried
          rw [carried] at untouched
          split
          · have answered := respond_control h next (readHead_limit headRead)
            rw [show next.socket = r.socket from untouched] at answered
            exact answered
          · rw [show next.socket = r.socket from untouched]
            exact .idle

end Relay

/-! ## The pump -/

/-- What has gone out against what the pump has read. -/
structure Account (pump : Pump) (read : Bytes) (s : Socket) : Prop where
  behind : binary s.sent <+: read
  /-- While the write side is open, only the chunk in hand is missing. -/
  level : s.closeSent = false → binary s.sent ++ pump.pending = read
  running : s.closeSent = false → ∀ closed, pump ≠ .returned closed
  own : pump = .returned true → binary s.sent = read

theorem Account.spared {pump : Pump} {read : Bytes} {s after : Socket} (account : Account pump read s)
    (spared : Spared s after) : Account pump read after where
  behind := by
    rw [spared.binary]
    exact account.behind
  level unclosed := by
    rw [spared.binary]
    exact account.level (spared.closed unclosed)
  running unclosed := account.running (spared.closed unclosed)
  own closed := by
    rw [spared.binary]
    exact account.own closed

/-- After a close of somebody else, the pump can only give up. -/
theorem Account.ended {pump after : Pump} {read : Bytes} {s : Socket}
    (account : Account pump read s) (closed : s.closeSent = true) (other : after ≠ .returned true) :
    Account after read s where
  behind := account.behind
  level unclosed := Bool.noConfusion (closed.symm.trans unclosed)
  running unclosed := Bool.noConfusion (closed.symm.trans unclosed)
  own returned := absurd returned other

/-- The pump's own frame takes the chunk out of its hands. -/
theorem Account.wrote {chunk : Bytes} {failed : Bool} {next : Pump} {read : Bytes} {s after : Socket}
    (account : Account (.writing chunk failed) read s) (unclosed : s.closeSent = false)
    (wrote : Socket.Wrote 2 chunk s after) (empty : next.pending = [])
    (goesOn : ∀ closed, next ≠ .returned closed) : Account next read after := by
  have all : binary after.sent = read := by
    rw [wrote.sent, binary_append, if_pos rfl]
    exact account.level unclosed
  refine ⟨?_, ?_, fun _ => goesOn, fun returned => absurd returned (goesOn true)⟩
  · simp [all]
  · intro _
    rw [all, empty, List.append_nil]

/-- The pump's own close comes after everything it has read. -/
theorem Account.closed {p read : Bytes} {s after : Socket} (account : Account .closing read s)
    (unclosed : s.closeSent = false) (wrote : Socket.Wrote 8 p s after) :
    Account (.returned true) read after := by
  have all : binary after.sent = read := by
    rw [wrote.sent, binary_append, if_neg (by decide)]
    exact account.level unclosed
  refine ⟨?_, ?_, ?_, fun _ => all⟩
  · simp [all]
  · intro open'
    exact Bool.noConfusion (wrote.closeSent.symm.trans open')
  · intro open'
    exact Bool.noConfusion (wrote.closeSent.symm.trans open')

structure Sound (w : Writers) : Prop where
  ordered : Ordered w.socket
  account : Account w.pump w.read w.socket
  /-- A chunk in hand came out of one `Read`. -/
  short : w.pump.pending.length < 2 ^ 63

theorem Sound.control {w : Writers} (sound : Sound w) {after : Writers}
    (control : Control w.socket after.socket) (pump : after.pump = w.pump)
    (read : after.read = w.read) : Sound after := by
  have spared := control.spares sound.ordered
  refine ⟨spared.ordered, ?_, ?_⟩
  · rw [pump, read]
    exact sound.account.spared spared
  · rw [pump]
    exact sound.short

namespace Writers

theorem step_read {size : Nat} (fits : size < 2 ^ 63) {w : Writers} (sound : Sound w) {chunk : Bytes}
    {failed : Bool} (reading : w.pump = .reading) (within : chunk.length ≤ size) :
    Sound { w with
      read := w.read ++ chunk
      pump := if chunk ≠ [] then .writing chunk failed
        else if failed then .closing else .reading } := by
  have pending : (if chunk ≠ [] then Pump.writing chunk failed
      else if failed then .closing else .reading).pending = chunk := by
    by_cases empty : chunk = []
    · subst empty
      cases failed <;> rfl
    · rw [if_pos empty]
      rfl
  refine ⟨sound.ordered, ⟨?_, ?_, ?_, ?_⟩, ?_⟩
  · exact sound.account.behind.trans (List.prefix_append _ _)
  · intro unclosed
    have level := sound.account.level unclosed
    rw [reading] at level
    rw [pending, ← level]
    exact congrArg (· ++ chunk) (List.append_nil _).symm
  · intro _ closed
    by_cases empty : chunk = []
    · subst empty
      cases failed <;> exact Pump.noConfusion
    · rw [if_pos empty]
      exact Pump.noConfusion
  · intro returned
    by_cases empty : chunk = []
    · subst empty
      cases failed <;> cases returned
    · rw [if_pos empty] at returned
      cases returned
  · rw [pending]
    omega

theorem step_pump {size : Nat} {w next : Writers} (sound : Sound w)
    (stepped : step size w .pump = some next) : Sound next := by
  simp only [step] at stepped
  split at stepped
  · rename_i chunk failed writing
    have account := sound.account
    have short := sound.short
    rw [writing] at account short
    rcases sound.ordered.writeFrame_cases 2 chunk with
      ⟨closed, refused⟩ | ⟨unclosed, after, written, wrote⟩
    · rw [refused] at stepped
      cases stepped
      exact ⟨sound.ordered, account.ended closed (by decide : Pump.returned false ≠ .returned true),
        (by decide : 0 < 2 ^ 63)⟩
    · rw [written] at stepped
      cases stepped
      have fits : (Socket.frame 2 chunk).Fits := ⟨(by decide : (2 : UInt8) < 16), short⟩
      refine ⟨sound.ordered.wrote unclosed wrote fits, account.wrote unclosed wrote ?_ ?_, ?_⟩
      · cases failed <;> rfl
      · cases failed <;> exact fun _ => Pump.noConfusion
      · cases failed <;> exact (by decide : 0 < 2 ^ 63)
  · cases stepped

theorem step_pumpClose {size : Nat} {w next : Writers} (sound : Sound w)
    (stepped : step size w .pumpClose = some next) : Sound next := by
  simp only [step] at stepped
  split at stepped
  · rename_i closing
    have account := sound.account
    rw [closing] at account
    rw [Socket.closeWith] at stepped
    rcases sound.ordered.writeFrame_cases 8 (BigEndian.bytes 2 (1011 : UInt16).toNat) with
      ⟨closed, refused⟩ | ⟨unclosed, after, written, wrote⟩
    · rw [refused] at stepped
      cases stepped
      exact ⟨sound.ordered, account.ended closed (by decide : Pump.returned false ≠ .returned true),
        (by decide : 0 < 2 ^ 63)⟩
    · rw [written] at stepped
      cases stepped
      exact ⟨sound.ordered.wrote unclosed wrote (by decide), account.closed unclosed wrote,
        (by decide : 0 < 2 ^ 63)⟩
  · cases stepped

/-- **Every step keeps the stream sound.** -/
theorem step_sound {size : Nat} (fits : size < 2 ^ 63) {w next : Writers} (e : Writing)
    (sound : Sound w) (stepped : step size w e = some next) : Sound next := by
  cases e with
  | read chunk failed =>
      simp only [step] at stepped
      split at stepped
      · rename_i allowed
        cases stepped
        exact step_read fits sound allowed.1 allowed.2
      · cases stepped
  | pump => exact step_pump sound stepped
  | pumpClose => exact step_pumpClose sound stepped
  | tick =>
      simp only [step] at stepped
      split at stepped
      · cases stepped
        exact sound.control (.write (.inr (.inl rfl)) (by decide)) rfl rfl
      · cases stepped
  | done =>
      simp only [step] at stepped
      split at stepped
      · cases stepped
        exact sound.control .idle rfl rfl
      · cases stepped
  | relay =>
      have control := w.relay.turn_control_socket
      simp only [step] at stepped
      split at stepped
      · split at stepped
        · rename_i turned
          cases stepped
          rw [turned] at control
          exact sound.control control rfl rfl
        · rename_i turned
          cases stepped
          rw [turned] at control
          exact sound.control control rfl rfl
        · rename_i turned
          cases stepped
          rw [turned] at control
          exact sound.control control rfl rfl
      · cases stepped
  | relayClose =>
      simp only [step] at stepped
      split at stepped
      · cases stepped
        exact sound.control (.write (.inl rfl) (by decide)) rfl rfl
      · cases stepped

theorem machine_sound {size : Nat} (fits : size < 2 ^ 63) {reader : Source} {upstream : CountedConn}
    {writes : List Written} {counter : Option Nat}
    (succeed : ∀ w ∈ writes, w.error = none ∧ 0 < w.count) {w : Writers}
    (reached : (machine size reader upstream writes counter).Reaches Machine.always w) :
    Sound w := by
  refine reached.invariant Sound (fun _ e _ sound _ stepped => step_sound fits e sound stepped) ?_
  refine ⟨⟨succeed, rfl, ?_, [], ?_, rfl⟩, ⟨List.prefix_rfl, ?_, ?_, ?_⟩, (by decide : 0 < 2 ^ 63)⟩
  · intro f inside
    cases inside
  · intro f inside
    cases inside
  · intro _
    rfl
  · intro _ _
    exact Pump.noConfusion
  · intro returned
    cases returned

end Writers

theorem Terminal.last {closeSent : Bool} {sent before after : List WebSocket.Frame}
    {close : WebSocket.Frame} (terminal : Terminal closeSent sent) (kind : close.opcode = 8)
    (split : sent = before ++ close :: after) : after = [] := by
  obtain ⟨data, none, rest⟩ := terminal
  have absent : close ∉ data := fun inside => none close inside kind
  cases closeSent with
  | false =>
      rw [if_neg Bool.false_ne_true, split] at rest
      rw [← rest] at absent
      exact absurd (List.mem_append_right before List.mem_cons_self) absent
  | true =>
      obtain ⟨last, _, ended⟩ := rest
      rcases List.eq_nil_or_concat after with nothing | ⟨between, final, rfl⟩
      · exact nothing
      · rw [split, show before ++ close :: between.concat final =
          before ++ close :: between ++ [final] by simp] at ended
        have same := (List.append_inj' ended rfl).1
        rw [← same] at absent
        exact absurd (List.mem_append_right before List.mem_cons_self) absent

theorem Terminal.unclosed {closeSent : Bool} {sent : List WebSocket.Frame}
    (terminal : Terminal closeSent sent) (none : ∀ f ∈ sent, f.opcode ≠ 8) : closeSent = false := by
  obtain ⟨before, _, rest⟩ := terminal
  cases closeSent with
  | false => rfl
  | true =>
      obtain ⟨close, kind, rfl⟩ := rest
      exact absurd kind (none close (List.mem_append_right before (List.mem_singleton_self close)))

/-- **The downstream WebSocket stream.**  In every state of every interleaving, with
a pump buffer of any size, the bytes the client has been sent decode to exactly the
frames whose `writeFrame` returned nil, unmasked and with FIN set; nothing follows a
close; and the binary payloads are a prefix of what the pump has read, and all of it
but the chunk in its hands as long as no close has been sent or the pump sent it. -/
theorem downstream_of_reaches (size : Nat) (fits : size < 2 ^ 63) (reader : Source)
    (upstream : CountedConn) (writes : List Written) (counter : Option Nat)
    (succeed : ∀ w ∈ writes, w.error = none ∧ 0 < w.count) (w : Writers)
    (reached : (Writers.machine size reader upstream writes counter).Reaches Machine.always w) :
    WebSocket.decodeAll w.socket.conn.accepted = some w.socket.sent ∧
      (∀ f ∈ w.socket.sent, f.fin = true ∧ f.key = none) ∧
      (∀ before close after, w.socket.sent = before ++ close :: after → close.opcode = 8 →
        after = []) ∧
      binary w.socket.sent <+: w.read ∧
      ((∀ f ∈ w.socket.sent, f.opcode ≠ 8) ∨ w.pump = .returned true →
        binary w.socket.sent ++ w.pump.pending = w.read) := by
  have sound := Writers.machine_sound fits succeed reached
  refine ⟨sound.ordered.decodes, fun f inside => (sound.ordered.server f inside).2, ?_,
    sound.account.behind, ?_⟩
  · intro before close after split kind
    exact sound.ordered.terminal.last kind split
  · rintro (none | own)
    · exact sound.account.level (sound.ordered.terminal.unclosed none)
    · rw [sound.account.own own, own]
      exact List.append_nil _

/-- The upstream answers and ends; the client connection takes single bytes at first. -/
def answered : List Writing :=
  [.read [104, 105] false, .tick, .pump, .read [33] true, .pump, .pumpClose, .tick]

/-- The handler echoes a close while the pump holds a chunk, which is then lost. -/
def closedByClient : List Writing :=
  [.read [104, 105] false, .relay, .pump]

def answeredTunnel : Machine Writers Writing :=
  Writers.machine bufferSize ⟨[], false⟩ {} [⟨1, none⟩, ⟨1, none⟩] (some 0)

theorem answered_sends : (answeredTunnel.run Machine.always answeredTunnel.init answered).map
    (fun w => (w.socket.conn.accepted, w.pump)) =
      some ([0x89, 5, 97, 108, 105, 118, 101, 0x82, 2, 104, 105, 0x82, 1, 33, 0x88, 2, 3, 243],
        .returned true) := by
  decide +kernel

theorem downstream_answered : ∃ w, answeredTunnel.Reaches Machine.always w ∧
    w.socket.conn.accepted ≠ [] ∧ w.pump = .returned true ∧
    WebSocket.decodeAll w.socket.conn.accepted = some w.socket.sent ∧
    binary w.socket.sent = w.read := by
  obtain ⟨w, ran, seen⟩ := Option.map_eq_some_iff.1 answered_sends
  obtain ⟨wire, pump⟩ := Prod.mk.inj seen
  have reached := Machine.steps_of_run answered ran
  have stream := downstream_of_reaches bufferSize (by decide) ⟨[], false⟩ {} [⟨1, none⟩, ⟨1, none⟩]
    (some 0) (by decide) w reached
  have all := stream.2.2.2.2 (.inr pump)
  rw [pump] at all
  exact ⟨w, reached, by rw [wire]; decide, pump, stream.1, (List.append_nil _).symm.trans all⟩

def closingClient : Source :=
  ⟨(ClientFrame.close ⟨3, 5, 7, 11⟩ [3, 232]).wire.encode, false⟩

def closingTunnel : Machine Writers Writing :=
  Writers.machine bufferSize closingClient {} [] none

/-- A close that the pump did not send cuts the stream short. -/
example : (closingTunnel.run Machine.always closingTunnel.init closedByClient).map
    (fun w => (w.socket.conn.accepted, w.read)) =
      some ([0x88, 2, 3, 232], [104, 105]) := by
  decide +kernel

end GrpcBridge.Tunnel
