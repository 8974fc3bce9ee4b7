/-
# Tunnel.Writers -- the goroutines that share one client socket

The established part of `gateway.ServeHTTP` (cmd/bridge/main.go): the pump reads
the upstream and writes binary frames, the ticker writes pings, and the handler
runs `relay`, which writes pongs and the echoed close, and then sends a 1002
close if `relay` failed.  `writeFrame` holds `writeMu` from its check of
`closeSent` to its last byte, so each call is one step; what a goroutine does
between two calls touches nothing that the others use, and is part of the step
that follows it.

An event is the next step of one goroutine.  An upstream `Read` may return any
chunk that fits the pump's buffer, with or without an error; the client's bytes
and the behaviour of both connections are those of the initial state.
-/
import GrpcBridge.Theory.Machine
import GrpcBridge.Tunnel.Relay

namespace GrpcBridge.Tunnel

set_option autoImplicit false

open GrpcBridge.Theory

/-- Where the upstream pump is. -/
inductive Pump where
  | reading
  /-- It has read a chunk and waits for `writeMu`; `failed` is the error of that `Read`. -/
  | writing (chunk : Bytes) (failed : Bool)
  /-- The last `Read` failed; it is about to send 1011. -/
  | closing
  /-- It has returned; `closed` tells whether its `closeWith` returned nil. -/
  | returned (closed : Bool)
deriving DecidableEq, Repr

/-- The chunk that the pump still waits to write. -/
def Pump.pending : Pump → Bytes
  | .writing chunk _ => chunk
  | _ => []

/-- Where the handler is: in `relay`, about to send 1002, or past its writes. -/
inductive Handler where
  | relaying
  | failing
  | returned
deriving DecidableEq, Repr

structure Writers where
  /-- The state of `relay`; its socket is the shared one. -/
  relay : Relay
  pump : Pump := .reading
  handler : Handler := .relaying
  ticking : Bool := true
  /-- History: all bytes the pump has read from upstream. -/
  read : Bytes := []
deriving DecidableEq, Repr

inductive Writing where
  /-- `upstream.Read` returns. -/
  | read (chunk : Bytes) (failed : Bool)
  /-- The pump's `writeFrame(2, buf[:n])`. -/
  | pump
  /-- The pump's `closeWith(1011)`. -/
  | pumpClose
  /-- The ticker's `writeFrame(9, "alive")`. -/
  | tick
  /-- `done` is closed, and the ticker returns. -/
  | done
  /-- One turn of `relay`. -/
  | relay
  /-- `closeWith(1002)` after `relay` has failed. -/
  | relayClose
deriving DecidableEq, Repr

namespace Writers

def socket (w : Writers) : Socket := w.relay.socket

def withSocket (w : Writers) (s : Socket) : Writers :=
  { w with relay := { w.relay with socket := s } }

def step (size : Nat) (w : Writers) : Writing → Option Writers
  | .read chunk failed =>
      if w.pump = .reading ∧ chunk.length ≤ size then
        some { w with
          read := w.read ++ chunk
          pump := if chunk ≠ [] then .writing chunk failed else if failed then .closing else .reading }
      else none
  | .pump =>
      match w.pump with
      | .writing chunk failed =>
          match w.socket.writeFrame 2 chunk with
          | (none, s) => some { w.withSocket s with pump := if failed then .closing else .reading }
          | (some _, s) => some { w.withSocket s with pump := .returned false }
      | _ => none
  | .pumpClose =>
      if w.pump = .closing then
        let (result, s) := w.socket.closeWith 1011
        some { w.withSocket s with pump := .returned (result = none) }
      else none
  | .tick =>
      if w.ticking then
        let (result, s) := w.socket.writeFrame 9 alive
        some { w.withSocket s with ticking := result = none }
      else none
  | .done =>
      match w.handler, w.pump with
      | .returned, .returned _ => some { w with ticking := false }
      | _, _ => none
  | .relay =>
      if w.handler = .relaying then
        match w.relay.turn with
        | (none, r) => some { w with relay := r }
        | (some .eof, r) => some { w with relay := r, handler := .returned }
        | (some _, r) => some { w with relay := r, handler := .failing }
      else none
  | .relayClose =>
      if w.handler = .failing then
        some { w.withSocket (w.socket.closeWith 1002).2 with handler := .returned }
      else none

/-- A tunnel whose pump has a buffer of `size` bytes, from the moment its socket is made;
`writes` is what the client connection does with the frames. -/
def machine (size : Nat) (reader : Source) (upstream : CountedConn) (writes : List Written)
    (counter : Option Nat) : Machine Writers Writing where
  init :=
    { relay :=
        { reader := reader
          upstream := upstream
          socket := { conn := { script := writes }, downstreamBytes := counter } } }
  step := step size

end Writers

end GrpcBridge.Tunnel
