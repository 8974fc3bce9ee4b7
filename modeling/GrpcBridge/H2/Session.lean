/-
# H2.Session -- requests, bodies and the events of a connection

The client's side of `H2Connection`: `request` with its waits, the body pump, the
consumer of a response body, `close` and the loss of the transport.  `sessionMachine`
is every interleaving of these with inbound frames.

`request` is cut at its awaits.  Each continuation first runs `check`; there is no
await between a passing check and `openStream`.  The body and the abort signal of a
request reach its stream only through `request` itself: a body can be read or
cancelled once the head has resolved, because only then is there a response.
-/
import GrpcBridge.H2.Connection
import GrpcBridge.Theory.Machine

namespace GrpcBridge.H2

open GrpcBridge.Theory

set_option autoImplicit false

variable {H : Hpack}

namespace Conn

/-! ## Requests -/

def unsentError : H2Error :=
  { code := .refusedStream
    message := "request not sent on unavailable connection"
    retry := some .unsent }

/-- `check()`: what it throws. -/
def check (c : Conn H) (q : Request) : Option Cause :=
  match q.aborted with
  | some reason => some reason
  | none => if c.closed || c.goawayReceived then some (.h2 unsentError) else none

/-- The CONTINUATION frames of a header block that does not fit one frame. -/
def continuations (id maxFrameSize : Nat) : Nat → Bytes → List Frame
  | 0, _ => []
  | _ + 1, [] => []
  | fuel + 1, rest =>
      let next := rest.drop maxFrameSize
      .continuation id (rest.take maxFrameSize) next.isEmpty :: continuations id maxFrameSize fuel next

def sendHeaders (c : Conn H) (id : Nat) (block : Bytes) (endStream : Bool) : Conn H :=
  let maxFrameSize := c.remote.maxFrameSize
  if block.length ≤ maxFrameSize then c.send (.headers id block endStream true)
  else
    (continuations id maxFrameSize block.length (block.drop maxFrameSize)).foldl send
      (c.send (.headers id (block.take maxFrameSize) endStream false))

/-- The synchronous part of `request` after its last check. -/
def openStream (w : Windows) (c : Conn H) (r : Nat) (q : Request) : Conn H :=
  let id := c.nextStreamId
  let stream : Stream :=
    { id
      sendWindow := c.remote.initialWindowSize
      recvWindow := w.localInitialWindow
      localClosed := !q.hasBody
      upload := if q.hasBody then .pumping else .idle }
  ({ c with nextStreamId := id + 2, streams := c.streams ++ [stream] }.sendHeaders id q.block
    (!q.hasBody)).setPhase r (.opened id)

/-- The loop that waits for a stream slot, from a continuation of `request`. -/
def admitRequest (w : Windows) (c : Conn H) (r : Nat) (q : Request) : Conn H :=
  match c.check q with
  | some cause => c.setPhase r (.failed cause)
  | none =>
      if c.canOpenStream then c.openStream w r q
      else { c with streamSlotWaiters := c.streamSlotWaiters ++ [r] }.setPhase r .parked

/-- The abort listener of an open request. -/
def abortStream (c : Conn H) (id : Nat) (reason : Cause) : Conn H :=
  if c.has id then (c.modify id (·.fail reason)).resetStream id .cancel else c

/-- The abort event of the signal of request `r`. -/
def abort (c : Conn H) (r : Nat) (q : Request) (reason : Cause) : Conn H :=
  let c := { c with requests := c.requests.modify r fun q => { q with aborted := some reason } }
  match q.phase with
  | .parked => { c with streamSlotWaiters := c.streamSlotWaiters.erase r }.setPhase r .woken
  | .opened id => c.abortStream id reason
  | _ => c

/-! ## Bodies -/

/-- The consumer of stream `id`'s body asks for the next chunk. -/
def readBody (c : Conn H) (s : Stream) : Conn H :=
  (c.modify s.id fun s => s.pullBody.1).replenishRecvWindow s.id s.pullBody.2

/-- The consumer cancels the body of stream `id`. -/
def cancelBody (c : Conn H) (s : Stream) : Conn H :=
  let c := (c.modify s.id Stream.cancelBody).replenishRecvWindow s.id s.recvBuffered
  if s.cancelIsLive && c.has s.id then c.resetStream s.id .cancel else c

/-- The response of a stream whose head has resolved and whose body is open. -/
def readable (s : Stream) : Bool :=
  match s.head with
  | .resolved _ => !s.bodyDone
  | _ => false

/-- The pump sends one slice under both send windows. -/
def uploadSlice (c : Conn H) (s : Stream) (slice : Bytes) : Conn H :=
  { c with connSendWindow := c.connSendWindow - slice.length }.modify s.id
    (fun s => { s with sendWindow := s.sendWindow - slice.length }) |>.send
      (.data { streamId := s.id, data := slice, endStream := false })

def canUpload (c : Conn H) (s : Stream) (slice : Bytes) : Bool :=
  !c.closed && !s.sendClosed && decide (0 < slice.length) &&
    decide ((slice.length : Int) ≤ c.connSendWindow) &&
    decide ((slice.length : Int) ≤ s.sendWindow) && decide (slice.length ≤ c.remote.maxFrameSize)

/-- The request body is exhausted: half-close a stream that is still live. -/
def uploadEnds (c : Conn H) (s : Stream) : Conn H :=
  if c.closed || s.sendClosed || !c.has s.id then
    c.modify s.id fun s => { s with upload := .idle }
  else
    (c.modify s.id fun s => { s with upload := .ending }).send
      (.data { streamId := s.id, data := [], endStream := true })

/-- The END_STREAM of the pump was written. -/
def uploadFlushed (c : Conn H) (s : Stream) : Conn H :=
  (c.modify s.id fun s => { s with upload := .idle, localClosed := true }).retireIfFullyClosed s.id

/-- The pump throws. -/
def uploadFails (c : Conn H) (s : Stream) (cause : Cause) : Conn H :=
  let c := c.modify s.id fun s => { s.fail cause with upload := .idle }
  if c.has s.id then c.resetStream s.id .cancel else c

end Conn

/-! ## Events -/

inductive Event where
  /-- A call of `request`. -/
  | request (block : Bytes) (hasBody : Bool)
  /-- `await this.ready` resolves or rejects for request `r`. -/
  | ready (r : Nat)
  | readyFails (r : Nat)
  /-- A woken request goes on. -/
  | resume (r : Nat)
  | abort (r : Nat) (reason : Cause)
  | recv (frame : Frame)
  /-- The decoder of frames throws. -/
  | malformed (code : ErrorCode) (message : String) (streamId : Option Nat)
  | read (id : Nat)
  | cancel (id : Nat)
  | upload (id : Nat) (slice : Bytes)
  | uploadEnds (id : Nat)
  | uploadFlushed (id : Nat)
  | uploadFails (id : Nat) (cause : Cause)
  | close
  | closeFlushed
  /-- The transport ends or fails. -/
  | lose (cause : Cause)
deriving DecidableEq, Repr

/-- The stream object `id`, in the map or not. -/
def Conn.stream (c : Conn H) (id : Nat) : Option Stream := c.streams.find? fun s => s.id == id

/-- Run `f` on stream `id` if it exists and `enabled` there. -/
def Conn.onStream (c : Conn H) (id : Nat) (enabled : Stream → Bool) (f : Stream → Conn H) :
    Option (Conn H) :=
  match c.stream id with
  | some s => if enabled s then some (f s) else none
  | none => none

/-- Run `f` on request `r` if it is in `phase`. -/
def Conn.onRequest (c : Conn H) (r : Nat) (phase : RequestPhase) (f : Request → Conn H) :
    Option (Conn H) :=
  match c.requests[r]? with
  | some q => if q.phase = phase then some (f q) else none
  | none => none

def Conn.step (w : Windows) (c : Conn H) : Event → Option (Conn H)
  | .request block hasBody =>
      let q : Request := { block, hasBody }
      let phase := match c.check q with
        | some cause => .failed cause
        | none => .settingUp
      some { c with requests := c.requests ++ [{ q with phase }] }
  | .ready r => c.onRequest r .settingUp (c.admitRequest w r)
  | .readyFails r =>
      c.onRequest r .settingUp fun q =>
        c.setPhase r (.failed ((c.check q).getD
          (.h2 { code := .internalError, message := "connection setup failed" })))
  | .resume r => c.onRequest r .woken (c.admitRequest w r)
  | .abort r reason =>
      match c.requests[r]? with
      | some q => if q.aborted.isSome then none else some (c.abort r q reason)
      | none => none
  | .recv frame => some (c.onFrame frame)
  | .malformed code message streamId => some (c.connectionError (.h2 { code, message, streamId }))
  | .read id => c.onStream id Conn.readable c.readBody
  | .cancel id => c.onStream id Conn.readable c.cancelBody
  | .upload id slice =>
      c.onStream id (fun s => decide (s.upload = .pumping) && c.canUpload s slice)
        (c.uploadSlice · slice)
  | .uploadEnds id => c.onStream id (fun s => decide (s.upload = .pumping)) c.uploadEnds
  | .uploadFlushed id => c.onStream id (fun s => decide (s.upload = .ending)) c.uploadFlushed
  | .uploadFails id cause =>
      c.onStream id (fun s => decide (s.upload ≠ .idle)) (c.uploadFails · cause)
  | .close => some c.close
  | .closeFlushed =>
      if c.closing then
        some (c.destroy (.h2 { code := .noError, message := "connection closed by client" }))
      else none
  | .lose cause => some (c.destroy cause)

/-- The connection after its constructor: the connection window has been grown
past the default of the specification. -/
def Conn.start (H : Hpack) (w : Windows) : Conn H :=
  { connRecvAvailable := w.connRecvWindow
    hpack := H.init
    sent :=
      .settings false
        { headerTableSize := some 4096
          enablePush := some false
          initialWindowSize := some w.localInitialWindow
          maxFrameSize := some 16384
          maxHeaderListSize := some 65536 } ::
        if specInitialWindow < w.connRecvWindow then
          [.windowUpdate 0 (w.connRecvWindow - specInitialWindow)]
        else [] }

/-- Every interleaving of requests, bodies, inbound frames and teardown. -/
def sessionMachine (H : Hpack) (w : Windows) : Machine (Conn H) Event where
  init := Conn.start H w
  step := Conn.step w

end GrpcBridge.H2
