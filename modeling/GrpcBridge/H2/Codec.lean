/-
# H2.Codec -- frames on the wire

web/src/h2/frames/codec.ts.  `WireFrame` is the frame of frames/types.ts with all of its
fields; the connection sees the `Frame` that `toFrame` makes of it, without priorities and
with the padding counted.

`takeFrame` is one round of the loop in `FrameDecoder.push`: it waits for a frame that is
incomplete, throws, or takes one off the buffer, which is no frame when its type is unknown.
`FrameDecoder.push` is the incremental decoder that `Theory.Incremental` makes of it.
-/
import GrpcBridge.H2.Frame
import GrpcBridge.Theory.BigEndian
import GrpcBridge.Theory.Bits
import GrpcBridge.Theory.Fallible
import GrpcBridge.Theory.Incremental

namespace GrpcBridge.H2

open GrpcBridge.Theory
open GrpcBridge.Theory.Bits
open GrpcBridge.Theory.Incremental

set_option autoImplicit false

def frameHeaderSize : Nat := 9
def defaultMaxFrameSize : Nat := 16384

/-! ## Frames with all their fields -/

structure Priority where
  streamDependency : Nat
  /-- From 1 to 256. -/
  weight : Nat
  exclusive : Bool
deriving DecidableEq, Repr

inductive WireFrame where
  | data (streamId : Nat) (data : Bytes) (flowControlledLength : Option Nat) (endStream : Bool)
  | headers (streamId : Nat) (headerBlockFragment : Bytes) (endStream endHeaders : Bool)
      (priority : Option Priority)
  | priority (streamId : Nat) (priority : Priority)
  | rstStream (streamId errorCode : Nat)
  | settings (ack : Bool) (settings : Settings)
  | pushPromise (streamId promisedStreamId : Nat) (headerBlockFragment : Bytes) (endHeaders : Bool)
  | ping (ack : Bool) (opaqueData : Bytes)
  | goaway (lastStreamId errorCode : Nat) (debugData : Bytes)
  | windowUpdate (streamId windowSizeIncrement : Nat)
  | continuation (streamId : Nat) (headerBlockFragment : Bytes) (endHeaders : Bool)
deriving DecidableEq, Repr

namespace WireFrame

/-- What the connection looks at. -/
def toFrame : WireFrame → Frame
  | .data streamId bytes flowControlledLength endStream =>
      .data
        { streamId
          data := bytes
          padding := flowControlledLength.getD bytes.length - bytes.length
          endStream }
  | .headers streamId fragment endStream endHeaders _ =>
      .headers streamId fragment endStream endHeaders
  | .priority streamId _ => .priority streamId
  | .rstStream streamId errorCode => .rstStream streamId errorCode
  | .settings ack s => .settings ack s
  | .pushPromise streamId promisedStreamId fragment endHeaders =>
      .pushPromise streamId promisedStreamId fragment endHeaders
  | .ping ack opaqueData => .ping ack opaqueData
  | .goaway lastStreamId errorCode debugData => .goaway lastStreamId errorCode debugData
  | .windowUpdate streamId increment => .windowUpdate streamId increment
  | .continuation streamId fragment endHeaders => .continuation streamId fragment endHeaders

end WireFrame

/-! ## Serializing -/

/-- `v & 0x7fffffff` -/
def low31 (v : Nat) : Nat := v % 2 ^ 31

def flag (set : Bool) (bit : UInt8) : UInt8 := if set then bit else 0

/-- The five bytes of a priority. -/
def encodePriority (p : Priority) : Bytes :=
  BigEndian.bytes 4 (low31 p.streamDependency + if p.exclusive then 2 ^ 31 else 0) ++
    -- `(weight - 1) & 0xff`
    [UInt8.ofNat (p.weight + 255)]

/-- The settings that are there, in the order of `SETTINGS_IDS`. -/
def settingsEntries (s : Settings) : List (Nat × Nat) :=
  [(0x1, s.headerTableSize), (0x2, s.enablePush.map fun b => if b then 1 else 0),
    (0x3, s.maxConcurrentStreams), (0x4, s.initialWindowSize), (0x5, s.maxFrameSize),
    (0x6, s.maxHeaderListSize)].filterMap fun e => e.2.map fun value => (e.1, value)

def encodeSettings (s : Settings) : Bytes :=
  (settingsEntries s).flatMap fun e => BigEndian.bytes 2 e.1 ++ BigEndian.bytes 4 e.2

structure Body where
  typeId : UInt8
  flags : UInt8
  streamId : Nat
  payload : Bytes
deriving DecidableEq, Repr

def encodeBody : WireFrame → Body
  | .data streamId data _ endStream => ⟨0x0, flag endStream 0x1, streamId, data⟩
  | .headers streamId fragment endStream endHeaders none =>
      ⟨0x1, flag endHeaders 0x4 ||| flag endStream 0x1, streamId, fragment⟩
  | .headers streamId fragment endStream endHeaders (some priority) =>
      ⟨0x1, flag endHeaders 0x4 ||| flag endStream 0x1 ||| 0x20, streamId,
        encodePriority priority ++ fragment⟩
  | .priority streamId priority => ⟨0x2, 0, streamId, encodePriority priority⟩
  | .rstStream streamId errorCode => ⟨0x3, 0, streamId, BigEndian.bytes 4 errorCode⟩
  | .settings ack settings => ⟨0x4, flag ack 0x1, 0, encodeSettings settings⟩
  | .pushPromise streamId promisedStreamId fragment endHeaders =>
      ⟨0x5, flag endHeaders 0x4, streamId, BigEndian.bytes 4 (low31 promisedStreamId) ++ fragment⟩
  | .ping ack opaqueData =>
      ⟨0x6, flag ack 0x1, 0, if opaqueData.length = 8 then opaqueData else List.replicate 8 0⟩
  | .goaway lastStreamId errorCode debugData =>
      ⟨0x7, 0, 0,
        BigEndian.bytes 4 (low31 lastStreamId) ++ (BigEndian.bytes 4 errorCode ++ debugData)⟩
  | .windowUpdate streamId increment => ⟨0x8, 0, streamId, BigEndian.bytes 4 (low31 increment)⟩
  | .continuation streamId fragment endHeaders => ⟨0x9, flag endHeaders 0x4, streamId, fragment⟩

def Body.bytes (b : Body) : Bytes :=
  BigEndian.bytes 3 b.payload.length ++
    (b.typeId :: b.flags :: (BigEndian.bytes 4 (low31 b.streamId) ++ b.payload))

def serializeFrame (f : WireFrame) : Bytes := (encodeBody f).bytes

/-! ## Parsing a payload -/

/-- `u8`, `u16` and `u32` of a `ByteReader`. -/
def readUint (width : Nat) (r : Bytes) : Except Thrown (Nat × Bytes) :=
  if r.length < width then .error .range else .ok (BigEndian.value (r.take width), r.drop width)

def frameSizeError (message : String) (streamId : Option Nat := none) : Thrown :=
  .h2 { code := .frameSizeError, message, streamId }

def paddingError (message : String) : Thrown := .h2 { code := .protocolError, message }

def readPadded (padded : Bool) (r : Bytes) : Except Thrown Bytes :=
  if padded then do
    let (padLength, left) ← readUint 1 r
    if r.length < 1 + padLength then throw (paddingError "pad length exceeds frame payload")
    pure (left.take (r.length - 1 - padLength))
  else .ok r

/-- The five bytes of a priority. -/
def readPriority (r : Bytes) : Except Thrown (Priority × Bytes) := do
  let (dep, r) ← readUint 4 r
  let (weight, r) ← readUint 1 r
  pure
    ({ streamDependency := low31 dep, weight := weight + 1, exclusive := decide (2 ^ 31 ≤ dep) }, r)

/-- The Pad Length byte, when there is one. -/
def readPadLength (padded : Bool) (r : Bytes) : Except Thrown (Nat × Bytes) :=
  if padded then readUint 1 r else .ok (0, r)

/-- The priority of a HEADERS frame, when there is one. -/
def readHeadersPriority (prioritized : Bool) (r : Bytes) :
    Except Thrown (Option Priority × Bytes) :=
  if prioritized then do
    let (priority, r) ← readPriority r
    pure (some priority, r)
  else .ok (none, r)

/-- What is left of a header block fragment before its padding. -/
def cutPadding (what : String) (padLength : Nat) (r : Bytes) : Except Thrown Bytes :=
  if r.length < padLength then .error (paddingError what)
  else .ok (r.take (r.length - padLength))

/-- One setting; unknown ones are ignored. -/
def applySetting (s : Settings) (id value : Nat) : Settings :=
  match id with
  | 0x1 => { s with headerTableSize := some value }
  | 0x2 => { s with enablePush := some (value ≠ 0) }
  | 0x3 => { s with maxConcurrentStreams := some value }
  | 0x4 => { s with initialWindowSize := some value }
  | 0x5 => { s with maxFrameSize := some value }
  | 0x6 => { s with maxHeaderListSize := some value }
  | _ => s

def readSettings : Nat → Settings → Bytes → Except Thrown Settings
  | 0, s, _ => .ok s
  | count + 1, s, r => do
      let (id, r) ← readUint 2 r
      let (value, r) ← readUint 4 r
      readSettings count (applySetting s id value) r

/-- `none` is the `UnknownFrameType` that `push` catches. -/
def parsePayload (typeId flags : UInt8) (streamId : Nat) (payload : Bytes) :
    Except Thrown (Option WireFrame) :=
  match typeId.toNat with
  | 0x0 => do
      let data ← readPadded (has flags 0x8) payload
      pure (some (.data streamId data (some payload.length) (has flags 0x1)))
  | 0x1 => do
      let (padLength, r) ← readPadLength (has flags 0x8) payload
      let (priority, r) ← readHeadersPriority (has flags 0x20) r
      let fragment ← cutPadding "invalid HEADERS padding" padLength r
      pure (some (.headers streamId fragment (has flags 0x1) (has flags 0x4) priority))
  | 0x2 =>
      if payload.length ≠ 5 then .error (frameSizeError "PRIORITY must be 5 bytes" (some streamId))
      else do
        let (priority, _) ← readPriority payload
        pure (some (.priority streamId priority))
  | 0x3 =>
      if payload.length ≠ 4 then .error (frameSizeError "RST_STREAM must be 4 bytes")
      else do
        let (errorCode, _) ← readUint 4 payload
        pure (some (.rstStream streamId errorCode))
  | 0x4 =>
      if has flags 0x1 ∧ payload.length ≠ 0 then .error (frameSizeError "SETTINGS ACK must be empty")
      else if payload.length % 6 ≠ 0 then
        .error (frameSizeError "SETTINGS length not multiple of 6")
      else do
        let settings ← readSettings (payload.length / 6) {} payload
        pure (some (.settings (has flags 0x1) settings))
  | 0x5 => do
      let (padLength, r) ← readPadLength (has flags 0x8) payload
      let (promised, r) ← readUint 4 r
      let fragment ← cutPadding "invalid PUSH_PROMISE padding" padLength r
      pure (some (.pushPromise streamId (low31 promised) fragment (has flags 0x4)))
  | 0x6 =>
      if payload.length ≠ 8 then .error (frameSizeError "PING must be 8 bytes")
      else .ok (some (.ping (has flags 0x1) payload))
  | 0x7 =>
      if payload.length < 8 then .error (frameSizeError "GOAWAY too short")
      else do
        let (lastStreamId, r) ← readUint 4 payload
        let (errorCode, r) ← readUint 4 r
        pure (some (.goaway (low31 lastStreamId) errorCode r))
  | 0x8 =>
      if payload.length ≠ 4 then .error (frameSizeError "WINDOW_UPDATE must be 4 bytes")
      else do
        let (increment, _) ← readUint 4 payload
        pure (some (.windowUpdate streamId (low31 increment)))
  | 0x9 => .ok (some (.continuation streamId payload (has flags 0x4)))
  | _ => .ok none

/-! ## The decoder -/

/-- One round of `push` at the front of its buffer. -/
def takeFrame (maxFrameSize : Nat) (buf : Bytes) :
    Except Thrown (Option (Option WireFrame × Bytes)) :=
  if buf.length < frameHeaderSize then .ok none
  else
    let length := BigEndian.value (buf.take 3)
    if maxFrameSize < length then
      .error (frameSizeError s!"frame length {length} exceeds max {maxFrameSize}")
    else if buf.length < frameHeaderSize + length then .ok none
    else do
      let frame ← parsePayload (buf.getD 3 0) (buf.getD 4 0)
        (low31 (BigEndian.value ((buf.drop 5).take 4))) ((buf.drop frameHeaderSize).take length)
      pure (some (frame, buf.drop (frameHeaderSize + length)))

/-- What a round makes of a buffer that begins with a whole header. -/
theorem takeFrame_header {maxFrameSize : Nat} {head body : Bytes} (whole : head.length = 9) :
    takeFrame maxFrameSize (head ++ body) =
      let length := BigEndian.value (head.take 3)
      if maxFrameSize < length then
        .error (frameSizeError s!"frame length {length} exceeds max {maxFrameSize}")
      else if body.length < length then .ok none
      else
        (parsePayload (head.getD 3 0) (head.getD 4 0)
          (low31 (BigEndian.value ((head.drop 5).take 4))) (body.take length)).map
            fun frame => some (frame, body.drop length) := by
  have long : ¬ (head ++ body).length < frameHeaderSize := by
    rw [List.length_append, whole, frameHeaderSize]
    omega
  have length : (head ++ body).take 3 = head.take 3 :=
    List.take_append_of_le_length (by rw [whole]; decide)
  have byte : ∀ i, i < 9 → (head ++ body).getD i 0 = head.getD i 0 := by
    intro i inside
    rw [List.getD_append _ _ _ _ (by rwa [whole])]
  have id : ((head ++ body).drop 5).take 4 = (head.drop 5).take 4 := by
    rw [List.drop_append_of_le_length (by rw [whole]; decide),
      List.take_append_of_le_length (by rw [List.length_drop, whole])]
  have rest : ∀ n, (head ++ body).drop (frameHeaderSize + n) = body.drop n := by
    intro n
    rw [frameHeaderSize, ← whole, List.drop_length_add_append]
  have size : ∀ n, (head ++ body).length < frameHeaderSize + n ↔ body.length < n := by
    intro n
    rw [List.length_append, whole, frameHeaderSize]
    omega
  have front := rest 0
  rw [Nat.add_zero, List.drop_zero] at front
  simp only [takeFrame, long, if_false, length, byte 3 (by decide), byte 4 (by decide), id, rest,
    size, front]
  split
  · rfl
  · split
    · rfl
    · rw [bind_pure_comp]
      rfl

/-- A buffer is too short for a header, or begins with one. -/
theorem header_cases (buf : Bytes) :
    buf.length < 9 ∨ ∃ head body, buf = head ++ body ∧ head.length = 9 := by
  by_cases short : buf.length < 9
  · exact .inl short
  · exact .inr ⟨buf.take 9, buf.drop 9, (List.take_append_drop 9 buf).symm,
      by rw [List.length_take]; omega⟩

theorem takeFrame_short {maxFrameSize : Nat} {buf : Bytes} (short : buf.length < 9) :
    takeFrame maxFrameSize buf = .ok none := by
  exact if_pos short

/-- `FrameDecoder` is the incremental decoder of this. -/
def frameTaker (maxFrameSize : Nat) : Taker Thrown (Option WireFrame) where
  take := takeFrame maxFrameSize
  shorter := by
    intro b rest a took
    rcases header_cases b with short | ⟨head, body, rfl, whole⟩
    · rw [takeFrame_short short] at took
      cases took
    · rw [takeFrame_header whole] at took
      dsimp only at took
      split at took
      · cases took
      · split at took
        · cases took
        · obtain ⟨frame, -, same⟩ := Fallible.map_eq_ok.1 took
          cases same
          rw [List.length_drop, List.length_append, whole]
          omega
  stable := by
    intro b rest a more took
    rcases header_cases b with short | ⟨head, body, rfl, whole⟩
    · rw [takeFrame_short short] at took
      cases took
    · rw [takeFrame_header whole] at took
      dsimp only at took
      rw [List.append_assoc, takeFrame_header whole]
      dsimp only
      split at took
      · cases took
      · rename_i fits
        split at took
        · cases took
        · rename_i enough
          have longer : ¬ (body ++ more).length < BigEndian.value (head.take 3) := by
            rw [List.length_append]
            omega
          rw [if_neg fits, if_neg longer, List.take_append_of_le_length (by omega),
            List.drop_append_of_le_length (by omega)]
          obtain ⟨frame, parsed, same⟩ := Fallible.map_eq_ok.1 took
          cases same
          rw [parsed]
          rfl
  refuses := by
    intro b e more refused
    rcases header_cases b with short | ⟨head, body, rfl, whole⟩
    · rw [takeFrame_short short] at refused
      cases refused
    · rw [takeFrame_header whole] at refused
      dsimp only at refused
      rw [List.append_assoc, takeFrame_header whole]
      dsimp only
      split at refused
      · rename_i large
        rw [if_pos large]
        exact refused
      · rename_i fits
        split at refused
        · cases refused
        · rename_i enough
          have longer : ¬ (body ++ more).length < BigEndian.value (head.take 3) := by
            rw [List.length_append]
            omega
          rw [if_neg fits, if_neg longer, List.take_append_of_le_length (by omega)]
          cases parsed : parsePayload (head.getD 3 0) (head.getD 4 0)
              (low31 (BigEndian.value ((head.drop 5).take 4)))
              (body.take (BigEndian.value (head.take 3))) with
          | error thrown =>
              rw [parsed] at refused
              exact refused
          | ok frame =>
              rw [parsed] at refused
              cases refused

structure FrameDecoder where
  pending : Bytes := []
  maxFrameSize : Nat := defaultMaxFrameSize
deriving DecidableEq, Repr

/-- `push`: the frames a chunk completes, of those with a known type. -/
def FrameDecoder.push (d : FrameDecoder) (chunk : Bytes) :
    Except Thrown (List WireFrame × FrameDecoder) :=
  ((frameTaker d.maxFrameSize).push d.pending chunk).map fun taken =>
    (taken.1.filterMap id, { d with pending := taken.2 })

end GrpcBridge.H2
