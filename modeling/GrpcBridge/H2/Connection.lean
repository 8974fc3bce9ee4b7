/-
# H2.Connection -- the client side of one HTTP/2 connection

`H2Connection` (web/src/h2/connection.ts) as `openChannel` builds it: without an
`onPush` handler, so a pushed stream is always refused and every stream of the
`streams` map was opened by `request`.

`Conn.streams` holds every stream ever opened, in order; the entries of the source's
`streams` map are those with `inMap`.  A stream that left the map is still an object
its consumer may read from.  `sent` is what was handed to the write path while the
connection was open and `received` every inbound frame.

`dispatch` returns the value it throws beside the state, because what it did before
the throw stays done; `onFrame` is one turn of the loop in `onBytes` that catches it.
The HPACK decoder is a parameter (`Hpack`): a state and a total function on header
blocks.  Calls of `request` are entries of `requests`, each parked at one of its
awaits.
-/
import GrpcBridge.H2.Stream
import GrpcBridge.Theory.Keyed

namespace GrpcBridge.H2

open GrpcBridge.Theory

set_option autoImplicit false

/-- An error of the HPACK decoder; a budget rejection concerns only its stream. -/
structure HpackError where
  code : ErrorCode
  message : String
  ofStream : Bool
deriving DecidableEq, Repr

/-- The HPACK decoder of one connection. -/
structure Hpack where
  State : Type
  init : State
  decode : State → Bytes → State × Except HpackError (List Header)

def specInitialWindow : Nat := 65535
def maxHeaderBlockSize : Nat := 1048576

/-- Receive windows the constructor accepts. -/
structure Windows where
  localInitialWindow : Nat := 1048576
  connRecvWindow : Nat := 67108864
  validWindow : localInitialWindow ≤ 2147483647
  validConnectionWindow : specInitialWindow ≤ connRecvWindow ∧ connRecvWindow ≤ 2147483647

structure RemoteSettings where
  initialWindowSize : Nat := specInitialWindow
  maxFrameSize : Nat := 16384
  headerTableSize : Nat := 4096
  enablePush : Bool := true
  /-- `none` is `Infinity`. -/
  maxConcurrentStreams : Option Nat := none
deriving DecidableEq, Repr

inductive BlockKind where
  | response
  | push
deriving DecidableEq, Repr

structure PendingHeaderBlock where
  streamId : Nat
  kind : BlockKind
  endStream : Bool
  promisedStreamId : Nat := 0
  fragments : List Bytes
  size : Nat
deriving DecidableEq, Repr

/-- Where a call of `request` stands. -/
inductive RequestPhase where
  /-- `await this.ready` -/
  | settingUp
  /-- In `streamSlotWaiters`. -/
  | parked
  /-- Its waiter was resolved; the continuation has not run. -/
  | woken
  /-- The stream is open; `await stream.head` and beyond. -/
  | opened (id : Nat)
  | failed (cause : Cause)
deriving DecidableEq, Repr

structure Request where
  /-- The encoded header block. -/
  block : Bytes
  hasBody : Bool
  /-- The reason of its signal, once that is aborted. -/
  aborted : Option Cause := none
  phase : RequestPhase := .settingUp
deriving DecidableEq, Repr

structure Conn (H : Hpack) where
  streams : List Stream := []
  nextStreamId : Nat := 1
  connSendWindow : Int := specInitialWindow
  connRecvAvailable : Int
  remote : RemoteSettings := {}
  streamSlotWaiters : List Nat := []
  pendingHeaderBlock : Option PendingHeaderBlock := none
  hpack : H.State
  closed : Bool := false
  closeError : Option Cause := none
  goawayReceived : Bool := false
  highestPromised : Nat := 0
  /-- A `close()` awaits the flush of its GOAWAY. -/
  closing : Bool := false
  requests : List Request := []
  sent : List Frame := []
  received : List Frame := []

namespace Conn

variable {H : Hpack}

/-! ## The map and the write path -/

/-- `this.streams.get(id)` -/
def get (c : Conn H) (id : Nat) : Option Stream :=
  c.streams.find? fun s => s.id == id && s.inMap

/-- `this.streams.has(id)` -/
def has (c : Conn H) (id : Nat) : Bool := (c.get id).isSome

/-- Act on the stream object `id`. -/
def modify (c : Conn H) (id : Nat) (f : Stream → Stream) : Conn H :=
  { c with streams := Keyed.update Stream.id id f c.streams }

/-- `this.streams.delete(id)` -/
def delete (c : Conn H) (id : Nat) : Conn H := c.modify id fun s => { s with inMap := false }

def send (c : Conn H) (f : Frame) : Conn H :=
  if c.closed then c else { c with sent := c.sent ++ [f] }

/-- The client-initiated streams in the map. -/
def activeStreams (c : Conn H) : Nat :=
  c.streams.countP fun s => s.inMap && s.id % 2 == 1

def canOpenStream (c : Conn H) : Bool :=
  match c.remote.maxConcurrentStreams with
  | none => true
  | some limit => decide (c.activeStreams < limit)

def setPhase (c : Conn H) (r : Nat) (phase : RequestPhase) : Conn H :=
  { c with requests := c.requests.modify r fun q => { q with phase } }

/-! ## Teardown -/

/-- `close()` up to its await. -/
def close (c : Conn H) : Conn H :=
  if c.closed then c
  else { c.send (.goaway c.highestPromised 0 []) with closing := true }

/-- Resolve every parked waiter. -/
def wakeWaiters (c : Conn H) : Conn H :=
  { c with
    streamSlotWaiters := []
    requests := c.requests.mapIdx fun r q =>
      if r ∈ c.streamSlotWaiters then { q with phase := .woken } else q }

def wakeStreamSlots (c : Conn H) : Conn H :=
  let c := if c.goawayReceived && !c.streams.any (·.inMap) && !c.closed then c.close else c
  c.wakeWaiters

def destroy (c : Conn H) (cause : Cause) : Conn H :=
  if c.closed then c
  else
    wakeStreamSlots
      { c with
        closed := true
        closeError := some cause
        streams := c.streams.map fun s =>
          if s.inMap then { s.fail cause with inMap := false } else s }

def replenishConnectionWindow (c : Conn H) (n : Int) : Conn H :=
  if c.closed || decide (n ≤ 0) then c
  else { c with connRecvAvailable := c.connRecvAvailable + n }.send (.windowUpdate 0 n.toNat)

def replenishRecvWindow (c : Conn H) (id : Nat) (n : Int) : Conn H :=
  if c.closed || decide (n ≤ 0) then c
  else
    let c :=
      match c.get id with
      | some s =>
          if s.remoteClosed then c
          else
            (c.modify id fun s => { s with recvWindow := s.recvWindow + n }).send
              (.windowUpdate id n.toNat)
      | none => c
    c.replenishConnectionWindow n

/-- Drop the unread data of stream `id` and return its connection credit. -/
def discard (c : Conn H) (s : Stream) : Conn H :=
  (c.modify s.id Stream.discardBuffered).replenishConnectionWindow s.recvBuffered

def resetStream (c : Conn H) (id : Nat) (code : ErrorCode) : Conn H :=
  let stream := c.get id
  let c := c.send (.rstStream id (errorCodeValue code))
  match stream with
  | some s =>
      let c := ((c.discard s).delete id).wakeStreamSlots
      c.modify id fun s =>
        s.fail (.h2 { code, message := s!"stream {id} reset", streamId := some id })
  | none => c

def retireIfFullyClosed (c : Conn H) (id : Nat) : Conn H :=
  match c.get id with
  | some s =>
      if s.localClosed && s.remoteClosed then (c.delete id).wakeStreamSlots else c
  | none => c

/-- A connection-level protocol error: GOAWAY then tear down. -/
def connectionError (c : Conn H) (cause : Cause) : Conn H :=
  let code :=
    match cause with
    | .h2 error => error.code
    | _ => .protocolError
  (c.send (.goaway c.highestPromised (errorCodeValue code) [])).destroy cause

/-! ## Inbound frames -/

def protocolError (message : String) : Option Cause :=
  some (.h2 { code := .protocolError, message })

def isIdleInboundStream (streamId nextLocalStreamId highestPromised : Nat) : Bool :=
  if streamId = 0 then true
  else if streamId % 2 = 1 then decide (nextLocalStreamId ≤ streamId)
  else decide (highestPromised < streamId)

def applyRemoteSettings (c : Conn H) (s : Settings) : Conn H × Option Cause :=
  match s.initialWindowSize with
  | some size =>
      if 2147483647 < size then
        (c, some (.h2
          { code := .flowControlError
            message := "SETTINGS_INITIAL_WINDOW_SIZE exceeds 2^31-1" }))
      else
        let delta : Int := size - c.remote.initialWindowSize
        applyLimits
          { c with
            remote := { c.remote with initialWindowSize := size }
            streams := c.streams.map fun s =>
              if s.inMap then { s with sendWindow := s.sendWindow + delta } else s }
          s
  | none => applyLimits c s
where
  applyLimits (c : Conn H) (s : Settings) : Conn H × Option Cause :=
    match s.maxFrameSize with
    | some size =>
        if size < 16384 ∨ 16777215 < size then
          (c, protocolError "SETTINGS_MAX_FRAME_SIZE out of range")
        else applyRest { c with remote := { c.remote with maxFrameSize := size } } s
    | none => applyRest c s
  applyRest (c : Conn H) (s : Settings) : Conn H × Option Cause :=
    let remote :=
      { c.remote with
        headerTableSize := s.headerTableSize.getD c.remote.headerTableSize
        enablePush := s.enablePush.getD c.remote.enablePush }
    match s.maxConcurrentStreams with
    | some limit =>
        (wakeStreamSlots
          { c with remote := { remote with maxConcurrentStreams := some limit } }, none)
    | none => ({ c with remote }, none)

/-- `handlePush` without an `onPush` handler. -/
def handlePush (c : Conn H) (promisedId : Nat) : Conn H :=
  { c with highestPromised := max c.highestPromised promisedId }.send
    (.rstStream promisedId (errorCodeValue .refusedStream))

def completeHeaderBlock (c : Conn H) (pb : PendingHeaderBlock) : Conn H × Option Cause :=
  let (hpack, decoded) := H.decode c.hpack pb.fragments.flatten
  let c := { c with pendingHeaderBlock := none, hpack }
  match decoded with
  | .error e =>
      (c, some (.h2
        { code := e.code
          message := e.message
          streamId := if e.ofStream then some pb.streamId else none }))
  | .ok headers =>
      match pb.kind with
      | .push => (c.handlePush pb.promisedStreamId, none)
      | .response =>
          if c.has pb.streamId then
            let c := c.modify pb.streamId fun s => s.receiveHeaders headers pb.endStream
            if pb.endStream then
              ((c.modify pb.streamId fun s => { s with remoteClosed := true }).retireIfFullyClosed
                pb.streamId, none)
            else (c, none)
          else (c, none)

/-- Store a header block, check its size and complete it at END_HEADERS. -/
def acceptHeaderBlock (c : Conn H) (pb : PendingHeaderBlock) (endHeaders : Bool) :
    Conn H × Option Cause :=
  let c := { c with pendingHeaderBlock := some pb }
  if maxHeaderBlockSize < pb.size then
    (c, some (.h2
      { code := .enhanceYourCalm, message := "header block exceeds the maximum size" }))
  else if endHeaders then c.completeHeaderBlock pb
  else (c, none)

def receiveDataFrame (c : Conn H) (f : DataFrame) : Conn H × Option Cause :=
  let flowBytes : Int := f.flowControlledLength
  if c.connRecvAvailable < flowBytes then
    (c, some (.h2
      { code := .flowControlError, message := "DATA exceeds connection receive window" }))
  else
    let stream := c.get f.streamId
    let c := { c with connRecvAvailable := c.connRecvAvailable - flowBytes }
    match stream with
    | some s =>
        if s.remoteClosed then
          ((c.replenishConnectionWindow flowBytes).resetStream f.streamId .streamClosed, none)
        else if s.recvWindow < flowBytes then
          ((c.replenishConnectionWindow flowBytes).resetStream f.streamId .flowControlError, none)
        else
          let c := c.modify f.streamId fun s => { s with recvWindow := s.recvWindow - flowBytes }
          let c := c.replenishRecvWindow f.streamId f.padding
          let c := c.modify f.streamId fun s => s.receiveData f.data f.endStream
          if f.endStream then
            ((c.modify f.streamId fun s => { s with remoteClosed := true }).retireIfFullyClosed
              f.streamId, none)
          else (c, none)
    | none =>
        let c := c.replenishConnectionWindow flowBytes
        if isIdleInboundStream f.streamId c.nextStreamId c.highestPromised then
          (c, protocolError "DATA received on an idle stream")
        else (c.send (.rstStream f.streamId (errorCodeValue .streamClosed)), none)

def receiveRstStream (c : Conn H) (streamId errorCode : Nat) : Conn H :=
  match c.get streamId with
  | some s =>
      (((c.discard s).modify streamId (·.receiveReset errorCode)).delete streamId).wakeStreamSlots
  | none => c

def receiveWindowUpdate (c : Conn H) (streamId increment : Nat) : Conn H × Option Cause :=
  if increment = 0 then
    if streamId = 0 then (c, protocolError "zero WINDOW_UPDATE")
    else (c.resetStream streamId .protocolError, none)
  else if streamId = 0 then ({ c with connSendWindow := c.connSendWindow + increment }, none)
  else if c.has streamId then
    (c.modify streamId fun s => { s with sendWindow := s.sendWindow + increment }, none)
  else (c, none)

def receiveGoaway (c : Conn H) (lastStreamId errorCode : Nat) : Conn H :=
  let code := (errorCodeName errorCode).getD .noError
  let c := wakeStreamSlots
    { c with
      goawayReceived := true
      streams := c.streams.map fun s =>
        if s.inMap && decide (lastStreamId < s.id) then
          { s.fail (.h2
              { code
                message := "GOAWAY excludes this stream"
                streamId := some s.id
                retry := some .refused }) with
            inMap := false }
        else s }
  if errorCode ≠ 0 then c.destroy (.h2 { code, message := "peer sent GOAWAY" }) else c

def dispatch (c : Conn H) (f : Frame) : Conn H × Option Cause :=
  match c.pendingHeaderBlock, f with
  | some pb, .continuation streamId fragment endHeaders =>
      if pb.streamId = streamId then
        c.acceptHeaderBlock
          { pb with fragments := pb.fragments ++ [fragment], size := pb.size + fragment.length }
          endHeaders
      else (c, protocolError "unexpected CONTINUATION")
  | some _, _ => (c, protocolError "expected CONTINUATION frame")
  | none, .continuation _ _ _ => (c, protocolError "unexpected CONTINUATION")
  | none, .settings true _ => (c, none)
  | none, .settings false settings =>
      match c.applyRemoteSettings settings with
      | (c, some cause) => (c, some cause)
      | (c, none) => (c.send (.settings true {}), none)
  | none, .headers streamId fragment endStream endHeaders =>
      c.acceptHeaderBlock
        { streamId, kind := .response, endStream, fragments := [fragment], size := fragment.length }
        endHeaders
  | none, .pushPromise streamId promisedStreamId fragment endHeaders =>
      c.acceptHeaderBlock
        { streamId, kind := .push, endStream := false, promisedStreamId, fragments := [fragment]
          size := fragment.length }
        endHeaders
  | none, .data f => c.receiveDataFrame f
  | none, .rstStream streamId errorCode => (c.receiveRstStream streamId errorCode, none)
  | none, .windowUpdate streamId increment => c.receiveWindowUpdate streamId increment
  | none, .ping ack opaqueData => (if ack then c else c.send (.ping true opaqueData), none)
  | none, .goaway lastStreamId errorCode _ => (c.receiveGoaway lastStreamId errorCode, none)
  | none, .priority _ => (c, none)

/-- Log an inbound frame. -/
def arrive (c : Conn H) (f : Frame) : Conn H := { c with received := c.received ++ [f] }

/-- One frame of `onBytes`. -/
def onFrame (c : Conn H) (f : Frame) : Conn H :=
  match (c.arrive f).dispatch f with
  | (c, none) => c
  | (c, some cause) =>
      match cause with
      | .h2 error =>
          match error.streamId with
          | some id => c.resetStream id error.code
          | none => c.connectionError cause
      | _ => c.connectionError cause

end Conn

end GrpcBridge.H2
