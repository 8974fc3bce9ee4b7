/-
# H2.Stream -- receive side and body of one HTTP/2 stream

`H2Stream` (web/src/h2/stream.ts), with the state of its body's reader: the bytes
the consumer has taken and how the body ended for it.  The methods are as in the
source; the callbacks they make into the connection (`onConsume`, `onCancel`) are
returned as data and carried out by `H2.Connection`.

`pullBody` parks when there is nothing to hand over and starts again from the top
when it is woken, so a parked pull is a `pullBody` that has not happened yet.
-/
import GrpcBridge.H2.Frame

namespace GrpcBridge.H2

set_option autoImplicit false

/-- The `head` promise. -/
inductive Head where
  | pending
  | resolved (head : HeadHead)
  | rejected (cause : Cause)
deriving DecidableEq, Repr

/-- How the body ended for its consumer. -/
inductive BodyEnd where
  | closed
  | errored (cause : Cause)
  | cancelled
deriving DecidableEq, Repr

/-- The body pump of the request. -/
inductive Upload where
  /-- Bodyless, or the pump is over. -/
  | idle
  | pumping
  /-- The DATA frame with END_STREAM is on its way out. -/
  | ending
deriving DecidableEq, Repr

structure Stream where
  id : Nat
  /-- The stream is in the connection's `streams` map. -/
  inMap : Bool := true
  sendWindow : Int
  /-- `sendWindow.isClosed` -/
  sendClosed : Bool := false
  recvWindow : Int
  localClosed : Bool := false
  remoteClosed : Bool := false
  gotHead : Bool := false
  head : Head := .pending
  trailers : Option (List (String × String)) := none
  recvQueue : List Bytes := []
  recvBuffered : Int := 0
  recvEnded : Bool := false
  recvError : Option Cause := none
  bodyDone : Bool := false
  upload : Upload := .idle
  /-- Bytes the consumer has taken from the body. -/
  taken : Bytes := []
  bodyEnd : Option BodyEnd := none
deriving DecidableEq, Repr

namespace Stream

/-- An interim 1xx response is not the final response. -/
def interim (head : HeadHead) : Bool :=
  match head.status with
  | some status => decide (100 ≤ status) && decide (status < 200)
  | none => false

def endBody (s : Stream) : Stream := { s with recvEnded := true }

def receiveHeaders (s : Stream) (raw : List Header) (endStream : Bool) : Stream :=
  if s.gotHead then
    let s := { s with trailers := some (collectHeaders raw).headers }
    if endStream then s.endBody else s
  else
    let head := collectHeaders raw
    if interim head then s
    else
      let s := { s with gotHead := true, head := .resolved { head with endStream } }
      if endStream then s.endBody else s

def receiveData (s : Stream) (data : Bytes) (endStream : Bool) : Stream :=
  let s :=
    if 0 < data.length && !s.bodyDone then
      { s with recvQueue := s.recvQueue ++ [data], recvBuffered := s.recvBuffered + data.length }
    else s
  if endStream then { s with recvEnded := true } else s

/-- Drop unread data; its byte count is `recvBuffered` before. -/
def discardBuffered (s : Stream) : Stream := { s with recvQueue := [], recvBuffered := 0 }

def fail (s : Stream) (cause : Cause) : Stream :=
  { s with
    sendClosed := true
    gotHead := true
    head := if s.gotHead then s.head else .rejected cause
    recvError := s.recvError <|> some cause }

def receiveReset (s : Stream) (errorCode : Nat) : Stream :=
  let id := s.id
  let name := (errorCodeName errorCode).getD .protocolError
  s.fail (.h2
    { code := name
      message := s!"stream {id} reset by peer"
      streamId := some id
      retry := if name = .refusedStream then some .refused else none })

/-- One turn of the pull loop, with the byte count given to `onConsume`. -/
def pullBody (s : Stream) : Stream × Int :=
  match s.recvQueue with
  | chunk :: rest =>
      ({ s with
          recvQueue := rest
          recvBuffered := s.recvBuffered - chunk.length
          taken := s.taken ++ chunk }, chunk.length)
  | [] =>
      match s.recvError with
      | some cause => ({ s with bodyDone := true, bodyEnd := some (.errored cause) }, 0)
      | none =>
          if s.recvEnded then ({ s with bodyDone := true, bodyEnd := some .closed }, 0) else (s, 0)

/-- Only a stream that is still live is reset by its consumer's cancel. -/
def cancelIsLive (s : Stream) : Bool := !s.bodyDone && !s.recvEnded && s.recvError.isNone

/-- `cancelBody` up to the reset; the byte count given to `onConsume` is
`recvBuffered` before. -/
def cancelBody (s : Stream) : Stream :=
  { s with bodyDone := true, bodyEnd := some .cancelled, recvBuffered := 0, recvQueue := [] }

end Stream

end GrpcBridge.H2
