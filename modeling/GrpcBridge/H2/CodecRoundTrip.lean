/-
# H2.CodecRoundTrip -- frames survive the wire

What `FrameDecoder` makes of the bytes of `serializeFrame`.  A field on the wire has a width,
so the frame that arrives is `onWire`: ids and increments without their top bit, codes and
settings modulo 2^32, a PING of another size as zeros.  A frame whose fields fit is its own
`onWire`, but for the length that flow control counts, which the decoder fills in.

The theorems are about whole streams.  Frames written one after the other arrive however the
transport cuts their bytes (`pushAll_serialize`).  On any other bytes the cuts do not
matter either, up to the chunk that is refused, and the decoder never holds a whole frame
back (`pushAll_chunks`).
-/
import GrpcBridge.H2.Codec

namespace GrpcBridge.H2

open GrpcBridge.Theory
open GrpcBridge.Theory.Bits
open GrpcBridge.Theory.Incremental

set_option autoImplicit false

/-! ## What arrives -/

def Priority.onWire (p : Priority) : Priority :=
  { streamDependency := low31 p.streamDependency
    weight := (p.weight + 255) % 256 + 1
    exclusive := p.exclusive }

def Settings.onWire (s : Settings) : Settings :=
  { headerTableSize := s.headerTableSize.map (· % 2 ^ 32)
    enablePush := s.enablePush
    maxConcurrentStreams := s.maxConcurrentStreams.map (· % 2 ^ 32)
    initialWindowSize := s.initialWindowSize.map (· % 2 ^ 32)
    maxFrameSize := s.maxFrameSize.map (· % 2 ^ 32)
    maxHeaderListSize := s.maxHeaderListSize.map (· % 2 ^ 32) }

namespace WireFrame

def onWire : WireFrame → WireFrame
  | .data streamId bytes _ endStream => .data (low31 streamId) bytes (some bytes.length) endStream
  | .headers streamId fragment endStream endHeaders p =>
      .headers (low31 streamId) fragment endStream endHeaders (p.map Priority.onWire)
  | .priority streamId p => .priority (low31 streamId) p.onWire
  | .rstStream streamId errorCode => .rstStream (low31 streamId) (errorCode % 2 ^ 32)
  | .settings ack s => .settings ack s.onWire
  | .pushPromise streamId promisedStreamId fragment endHeaders =>
      .pushPromise (low31 streamId) (low31 promisedStreamId) fragment endHeaders
  | .ping ack opaqueData =>
      .ping ack (if opaqueData.length = 8 then opaqueData else List.replicate 8 0)
  | .goaway lastStreamId errorCode debugData =>
      .goaway (low31 lastStreamId) (errorCode % 2 ^ 32) debugData
  | .windowUpdate streamId increment => .windowUpdate (low31 streamId) (low31 increment)
  | .continuation streamId fragment endHeaders => .continuation (low31 streamId) fragment endHeaders

/-- A frame whose payload the peer takes: no longer than its limit, than the length field
can say, and an acknowledgement without settings. -/
structure Encodable (maxFrameSize : Nat) (f : WireFrame) : Prop where
  fits : (encodeBody f).payload.length ≤ maxFrameSize
  sayable : (encodeBody f).payload.length < 2 ^ 24
  bareAck : ∀ s, f = .settings true s → s = {}

end WireFrame

/-! ## Reading what was written -/

theorem low31_lt (v : Nat) : low31 v < 2 ^ 31 := Nat.mod_lt _ (by decide)

theorem low31_low31 (v : Nat) : low31 (low31 v) = low31 v := Nat.mod_mod _ _

theorem value_low31 (v : Nat) : BigEndian.value (BigEndian.bytes 4 (low31 v)) = low31 v :=
  BigEndian.value_bytes_of_lt (Nat.lt_trans (low31_lt v) (by decide))

theorem readUint_bytes (width n : Nat) (rest : Bytes) :
    readUint width (BigEndian.bytes width n ++ rest) = .ok (n % 256 ^ width, rest) := by
  have length := BigEndian.bytes_length width n
  rw [readUint, if_neg (by rw [List.length_append, length]; omega), List.take_left' length,
    List.drop_left' length, BigEndian.value_bytes]

theorem readUint_byte (n : Nat) (rest : Bytes) :
    readUint 1 (UInt8.ofNat n :: rest) = .ok (n % 256, rest) := by
  have written : UInt8.ofNat n :: rest = BigEndian.bytes 1 n ++ rest := by
    rw [BigEndian.bytes, BigEndian.bytes, Nat.pow_zero, Nat.div_one, List.singleton_append]
  rw [written, readUint_bytes, Nat.pow_one]

theorem readPriority_encode (p : Priority) (rest : Bytes) :
    readPriority (encodePriority p ++ rest) = .ok (p.onWire, rest) := by
  have low := low31_lt p.streamDependency
  have word : (low31 p.streamDependency + if p.exclusive then 2 ^ 31 else 0) % 256 ^ 4 =
      low31 p.streamDependency + if p.exclusive then 2 ^ 31 else 0 := by
    apply Nat.mod_eq_of_lt
    split <;> omega
  have dependency : low31 (low31 p.streamDependency + if p.exclusive then 2 ^ 31 else 0) =
      low31 p.streamDependency := by
    split
    · exact (Nat.add_mod_right _ _).trans (low31_low31 _)
    · exact low31_low31 _
  have exclusive : decide (2 ^ 31 ≤ low31 p.streamDependency + if p.exclusive then 2 ^ 31 else 0) =
      p.exclusive := by
    cases p.exclusive
    · exact decide_eq_false (by simpa using low)
    · exact decide_eq_true (by simp)
  rw [encodePriority, List.append_assoc, readPriority, readUint_bytes, Fallible.bind_ok, word,
    List.singleton_append]
  simp only [readUint_byte, Fallible.bind_ok, dependency, exclusive]
  rfl

theorem readSettings_entries (entries : List (Nat × Nat)) (s : Settings) (rest : Bytes) :
    readSettings entries.length s
        (entries.flatMap (fun e => BigEndian.bytes 2 e.1 ++ BigEndian.bytes 4 e.2) ++ rest) =
      .ok (entries.foldl (fun s e => applySetting s (e.1 % 256 ^ 2) (e.2 % 256 ^ 4)) s) := by
  induction entries generalizing s with
  | nil => rfl
  | cons e entries ih =>
      rw [List.length_cons, List.flatMap_cons, readSettings, List.append_assoc, List.append_assoc,
        readUint_bytes, Fallible.bind_ok]
      simp only [readUint_bytes, Fallible.bind_ok, ih]
      rfl

theorem encodeSettings_length (s : Settings) :
    (encodeSettings s).length = 6 * (settingsEntries s).length := by
  rw [encodeSettings]
  induction settingsEntries s with
  | nil => rfl
  | cons e entries ih =>
      rw [List.flatMap_cons, List.length_append, ih, List.length_append, BigEndian.bytes_length,
        BigEndian.bytes_length, List.length_cons]
      omega

/-- There are six settings. -/
theorem encodeSettings_le (s : Settings) : (encodeSettings s).length ≤ 36 := by
  have six : (settingsEntries s).length ≤ 6 := List.length_filterMap_le _ _
  rw [encodeSettings_length]
  omega

/-- Setting by setting, nothing else is set. -/
theorem foldl_applySetting (s : Settings) :
    (settingsEntries s).foldl (fun s e => applySetting s (e.1 % 256 ^ 2) (e.2 % 256 ^ 4)) {} =
      s.onWire := by
  obtain ⟨a, b, c, d, e, f⟩ := s
  rcases b with _ | _ | _ <;> cases a <;> cases c <;> cases d <;> cases e <;> cases f <;> rfl

theorem readSettings_encode (s : Settings) :
    readSettings ((encodeSettings s).length / 6) {} (encodeSettings s) = .ok s.onWire := by
  have count : (encodeSettings s).length / 6 = (settingsEntries s).length := by
    rw [encodeSettings_length]
    omega
  have read := readSettings_entries (settingsEntries s) {} []
  rw [List.append_nil, foldl_applySetting] at read
  rw [count]
  exact read

/-! ## One frame -/

/-- The flags of a HEADERS frame. -/
theorem headers_flags (endStream endHeaders : Bool) :
    let flags := flag endHeaders 0x4 ||| flag endStream 0x1
    has flags 0x8 = false ∧ has flags 0x20 = false ∧ has flags 0x1 = endStream ∧
      has flags 0x4 = endHeaders ∧ has (flags ||| 0x20) 0x8 = false ∧
      has (flags ||| 0x20) 0x20 = true ∧ has (flags ||| 0x20) 0x1 = endStream ∧
      has (flags ||| 0x20) 0x4 = endHeaders := by
  cases endStream <;> cases endHeaders <;> decide

theorem single_flag (set : Bool) :
    has (flag set 0x1) 0x1 = set ∧ has (flag set 0x1) 0x8 = false ∧
      has (flag set 0x4) 0x4 = set ∧ has (flag set 0x4) 0x8 = false := by
  cases set <;> decide

theorem cutPadding_zero (what : String) (r : Bytes) : cutPadding what 0 r = .ok r := by
  rw [cutPadding, if_neg (Nat.not_lt_zero _), Nat.sub_zero, List.take_length]

theorem readPadLength_false (r : Bytes) : readPadLength false r = .ok (0, r) := rfl

theorem readHeadersPriority_false (r : Bytes) : readHeadersPriority false r = .ok (none, r) := rfl

theorem readHeadersPriority_true (p : Priority) (r : Bytes) :
    readHeadersPriority true (encodePriority p ++ r) = .ok (some p.onWire, r) := by
  rw [readHeadersPriority, if_pos rfl, readPriority_encode]
  rfl

theorem parsePayload_encodeBody (f : WireFrame) (bareAck : ∀ s, f = .settings true s → s = {}) :
    parsePayload (encodeBody f).typeId (encodeBody f).flags (low31 (encodeBody f).streamId)
      (encodeBody f).payload = .ok (some f.onWire) := by
  cases f with
  | data streamId bytes length endStream =>
      obtain ⟨one, padded, -, -⟩ := single_flag endStream
      simp only [encodeBody]
      show (readPadded (has (flag endStream 0x1) 0x8) bytes >>= _) = _
      rw [padded, one]
      rfl
  | headers streamId fragment endStream endHeaders priority =>
      obtain ⟨padded, bare, one, four, padded', prioritized, one', four'⟩ :=
        headers_flags endStream endHeaders
      cases priority with
      | none =>
          simp only [encodeBody]
          show (readPadLength (has (flag endHeaders 0x4 ||| flag endStream 0x1) 0x8) fragment >>=
            _) = _
          simp only [padded, bare, one, four, readPadLength_false, readHeadersPriority_false,
            Fallible.bind_ok, cutPadding_zero]
          rfl
      | some p =>
          simp only [encodeBody]
          show (readPadLength (has (flag endHeaders 0x4 ||| flag endStream 0x1 ||| 0x20) 0x8)
            (encodePriority p ++ fragment) >>= _) = _
          simp only [padded', prioritized, one', four', readPadLength_false,
            readHeadersPriority_true, Fallible.bind_ok, cutPadding_zero]
          rfl
  | priority streamId p =>
      have read := readPriority_encode p []
      rw [List.append_nil] at read
      simp only [encodeBody]
      show (readPriority (encodePriority p) >>= fun read =>
        pure (some (WireFrame.priority (low31 streamId) read.1))) = _
      rw [read]
      rfl
  | rstStream streamId errorCode =>
      have read := readUint_bytes 4 errorCode []
      rw [List.append_nil] at read
      simp only [encodeBody]
      show (readUint 4 (BigEndian.bytes 4 errorCode) >>= fun read =>
        pure (some (WireFrame.rstStream (low31 streamId) read.1))) = _
      rw [read]
      rfl
  | settings ack s =>
      obtain ⟨one, -, -, -⟩ := single_flag ack
      have empty : ¬ (has (flag ack 0x1) 0x1 = true ∧ (encodeSettings s).length ≠ 0) := by
        rw [one]
        rintro ⟨rfl, nonempty⟩
        rw [bareAck s rfl] at nonempty
        exact nonempty rfl
      have whole : (encodeSettings s).length % 6 = 0 := by
        rw [encodeSettings_length]
        omega
      simp only [encodeBody]
      show (if has (flag ack 0x1) 0x1 = true ∧ (encodeSettings s).length ≠ 0 then _
        else if (encodeSettings s).length % 6 ≠ 0 then _ else _) = _
      rw [if_neg empty, if_neg (not_not.2 whole), readSettings_encode, one]
      rfl
  | pushPromise streamId promised fragment endHeaders =>
      obtain ⟨-, -, four, padded⟩ := single_flag endHeaders
      have word : low31 (low31 promised % 256 ^ 4) = low31 promised := by
        rw [Nat.mod_eq_of_lt (Nat.lt_trans (low31_lt promised) (by decide)), low31_low31]
      simp only [encodeBody]
      show (readPadLength (has (flag endHeaders 0x4) 0x8)
        (BigEndian.bytes 4 (low31 promised) ++ fragment) >>= _) = _
      simp only [padded, four, readPadLength_false, readUint_bytes, Fallible.bind_ok, cutPadding_zero,
        word]
      rfl
  | ping ack opaqueData =>
      obtain ⟨one, -, -, -⟩ := single_flag ack
      have length : (if opaqueData.length = 8 then opaqueData else List.replicate 8 0).length = 8 := by
        split
        · assumption
        · exact List.length_replicate
      simp only [encodeBody]
      show (if (if opaqueData.length = 8 then opaqueData else List.replicate 8 0).length ≠ 8 then _
        else _) = _
      rw [if_neg (not_not.2 length), one]
      rfl
  | goaway lastStreamId errorCode debugData =>
      have word : low31 (low31 lastStreamId % 256 ^ 4) = low31 lastStreamId := by
        rw [Nat.mod_eq_of_lt (Nat.lt_trans (low31_lt lastStreamId) (by decide)), low31_low31]
      simp only [encodeBody]
      show (readUint 4 (BigEndian.bytes 4 (low31 lastStreamId) ++
        (BigEndian.bytes 4 errorCode ++ debugData)) >>= fun read => readUint 4 read.2 >>= fun more =>
          pure (some (WireFrame.goaway (low31 read.1) more.1 more.2))) = _
      simp only [readUint_bytes, Fallible.bind_ok, word]
      rfl
  | windowUpdate streamId increment =>
      have word : low31 (low31 increment % 256 ^ 4) = low31 increment := by
        rw [Nat.mod_eq_of_lt (Nat.lt_trans (low31_lt increment) (by decide)), low31_low31]
      have read := readUint_bytes 4 (low31 increment) []
      rw [List.append_nil] at read
      simp only [encodeBody]
      show (readUint 4 (BigEndian.bytes 4 (low31 increment)) >>= fun read =>
        pure (some (WireFrame.windowUpdate (low31 streamId) (low31 read.1)))) = _
      rw [read, Fallible.bind_ok, word]
      rfl
  | continuation streamId fragment endHeaders =>
      obtain ⟨-, -, four, -⟩ := single_flag endHeaders
      simp only [encodeBody]
      show Except.ok (some (WireFrame.continuation _ fragment (has (flag endHeaders 0x4) 0x4))) = _
      rw [four]
      rfl

/-- A body is read behind its own header. -/
theorem takeFrame_body {maxFrameSize : Nat} {b : Body} (fits : b.payload.length ≤ maxFrameSize)
    (sayable : b.payload.length < 2 ^ 24) (rest : Bytes) :
    takeFrame maxFrameSize (b.bytes ++ rest) =
      (parsePayload b.typeId b.flags (low31 b.streamId) b.payload).map
        fun frame => some (frame, rest) := by
  have split : b.bytes ++ rest =
      (BigEndian.bytes 3 b.payload.length ++
        (b.typeId :: b.flags :: BigEndian.bytes 4 (low31 b.streamId))) ++ (b.payload ++ rest) := by
    simp [Body.bytes]
  have three := BigEndian.bytes_length 3 b.payload.length
  have length : BigEndian.value (BigEndian.bytes 3 b.payload.length) = b.payload.length :=
    BigEndian.value_bytes_of_lt sayable
  have whole : (BigEndian.bytes 3 b.payload.length ++
      (b.typeId :: b.flags :: BigEndian.bytes 4 (low31 b.streamId))).length = 9 := by
    simp
  rw [split, takeFrame_header whole, List.take_left' three, length]
  dsimp only
  rw [if_neg (by omega), if_neg (by rw [List.length_append]; omega), List.take_left, List.drop_left,
    List.getD_append_right _ _ _ _ (by rw [three]), List.getD_append_right _ _ _ _ (by rw [three]; decide),
    three, List.drop_append, three]
  have id : (((BigEndian.bytes 3 b.payload.length).drop 5 ++
      (b.typeId :: b.flags :: BigEndian.bytes 4 (low31 b.streamId)).drop (5 - 3)).take 4) =
        BigEndian.bytes 4 (low31 b.streamId) := by
    rw [List.drop_of_length_le (by rw [three]; decide), List.nil_append]
    exact List.take_of_length_le (Nat.le_of_eq (BigEndian.bytes_length 4 _))
  rw [id, value_low31, low31_low31]
  rfl

theorem takeFrame_serialize {maxFrameSize : Nat} {f : WireFrame}
    (encodable : f.Encodable maxFrameSize) (rest : Bytes) :
    takeFrame maxFrameSize (serializeFrame f ++ rest) = .ok (some (some f.onWire, rest)) := by
  rw [serializeFrame, takeFrame_body encodable.fits encodable.sayable,
    parsePayload_encodeBody f encodable.bareAck]
  rfl

/-! ## Streams -/

/-- Chunk after chunk, until one throws: the frames handed out, and how it ends. -/
def FrameDecoder.pushAll (d : FrameDecoder) :
    List Bytes → List WireFrame × Except Thrown FrameDecoder
  | [] => ([], .ok d)
  | chunk :: chunks =>
      match d.push chunk with
      | .error e => ([], .error e)
      | .ok (frames, d) => (frames ++ (d.pushAll chunks).1, (d.pushAll chunks).2)

theorem FrameDecoder.pushAll_eq (d : FrameDecoder) (chunks : List Bytes) :
    d.pushAll chunks =
      (((frameTaker d.maxFrameSize).pushAll d.pending chunks).1.filterMap id,
        ((frameTaker d.maxFrameSize).pushAll d.pending chunks).2.map
          fun pending => { d with pending }) := by
  induction chunks generalizing d with
  | nil => rfl
  | cons chunk chunks ih =>
      rw [FrameDecoder.pushAll, FrameDecoder.push, Taker.pushAll]
      cases pushed : (frameTaker d.maxFrameSize).push d.pending chunk with
      | error e => rfl
      | ok taken =>
          simp only [Except.map, ih, List.filterMap_append]

theorem takeFrame_nil (maxFrameSize : Nat) : takeFrame maxFrameSize [] = .ok none :=
  takeFrame_short (by decide)

theorem drain_serialize {maxFrameSize : Nat} {frames : List WireFrame}
    (encodable : ∀ f ∈ frames, f.Encodable maxFrameSize) :
    (frameTaker maxFrameSize).drain (frames.flatMap serializeFrame) =
      (frames.map fun f => some f.onWire, .ok []) := by
  induction frames with
  | nil => exact Taker.drain_none (takeFrame_nil maxFrameSize)
  | cons f frames ih =>
      obtain ⟨first, later⟩ := List.forall_mem_cons.1 encodable
      have took : (frameTaker maxFrameSize).take
          (serializeFrame f ++ frames.flatMap serializeFrame) = _ := takeFrame_serialize first _
      rw [List.flatMap_cons, Taker.drain_some took, ih later]
      rfl

/-- **Frames over a transport.**  However the bytes of a sequence of frames are cut, the
decoder hands out these frames, in order, each once, and keeps nothing back. -/
theorem pushAll_serialize {maxFrameSize : Nat} {frames : List WireFrame}
    (encodable : ∀ f ∈ frames, f.Encodable maxFrameSize) {chunks : List Bytes}
    (cut : chunks.flatten = frames.flatMap serializeFrame) :
    ({ maxFrameSize } : FrameDecoder).pushAll chunks =
      (frames.map WireFrame.onWire, .ok { maxFrameSize }) := by
  have drained := drain_serialize encodable
  rw [← cut] at drained
  rw [FrameDecoder.pushAll_eq,
    @Taker.pushAll_eq _ _ _ _ [] (takeFrame_nil maxFrameSize) _ (congrArg Prod.snd drained),
    List.nil_append, drained]
  have known : ∀ frames : List WireFrame,
      (frames.map fun f => some f.onWire).filterMap id = frames.map WireFrame.onWire := by
    intro frames
    rw [List.filterMap_map]
    exact congrFun List.filterMap_eq_map frames
  rw [known]
  rfl

/-- Three frames, cut inside two headers and two payloads. -/
theorem pushAll_serialize_cut :
    ({ maxFrameSize := 16384 } : FrameDecoder).pushAll
        [[0, 0, 7, 1], [0x24, 0, 0, 0, 1, 0, 0, 0, 0, 15, 0x82], [0x86, 0, 0, 3, 0, 1, 0, 0],
          [0, 1, 1, 2], [3, 0, 0, 4, 3, 0, 0, 0, 0, 3, 0, 0, 0, 8]] =
      ([.headers 1 [0x82, 0x86] false true (some ⟨0, 16, false⟩), .data 1 [1, 2, 3] (some 3) true,
        .rstStream 3 8], .ok { maxFrameSize := 16384 }) := by
  have encodable : ∀ f ∈ [WireFrame.headers 1 [0x82, 0x86] false true (some ⟨0, 16, false⟩),
      .data 1 [1, 2, 3] (some 3) true, .rstStream 3 8], f.Encodable 16384 := by
    intro f member
    simp only [List.mem_cons, List.not_mem_nil, or_false] at member
    obtain rfl | rfl | rfl := member
    all_goals exact ⟨by decide, by decide, fun s other => by cases other⟩
  exact pushAll_serialize encodable (by decide)

/-- A buffer that waits is shorter than a frame. -/
theorem pending_lt {maxFrameSize : Nat} {buf : Bytes} (waits : takeFrame maxFrameSize buf = .ok none) :
    buf.length < frameHeaderSize + maxFrameSize := by
  rcases header_cases buf with short | ⟨head, body, rfl, whole⟩
  · exact Nat.lt_of_lt_of_le short (Nat.le_add_right _ _)
  · rw [takeFrame_header whole] at waits
    dsimp only at waits
    split at waits
    · cases waits
    · split at waits
      · rw [List.length_append, whole, frameHeaderSize]
        omega
      · obtain ⟨frame, -, same⟩ := Fallible.map_eq_ok.1 waits
        cases same

/-- **Chunks.**  Whatever bytes arrive, the decoder ends as it would on all of them at once.
What it hands out begins the frames of the whole string, and is all of them while nothing is
refused; then it also holds less than one frame back. -/
theorem pushAll_chunks (maxFrameSize : Nat) (chunks : List Bytes) :
    let result := ({ maxFrameSize } : FrameDecoder).pushAll chunks
    let whole := (frameTaker maxFrameSize).drain chunks.flatten
    result.1 <+: whole.1.filterMap id ∧
      result.2 = whole.2.map (fun pending => { pending, maxFrameSize }) ∧
      ∀ d, result.2 = .ok d →
        result.1 = whole.1.filterMap id ∧ d.pending.length < frameHeaderSize + maxFrameSize := by
  intro result whole
  obtain ⟨handed, ending⟩ := @Taker.pushAll_prefix _ _ (frameTaker maxFrameSize) []
    (takeFrame_nil maxFrameSize) chunks
  rw [List.nil_append] at handed ending
  have same : result = _ := FrameDecoder.pushAll_eq { maxFrameSize } chunks
  refine ⟨?_, ?_, ?_⟩
  · rw [same]
    exact handed.filterMap id
  · rw [same]
    exact congrArg (Except.map _) ending
  · intro d fine
    rw [same, ending] at fine
    obtain ⟨left, drained, rfl⟩ := Fallible.map_eq_ok.1 fine
    have all := @Taker.pushAll_eq _ _ (frameTaker maxFrameSize) [] left
      (takeFrame_nil maxFrameSize) chunks (by rw [List.nil_append]; exact drained)
    rw [List.nil_append] at all
    refine ⟨?_, pending_lt (Taker.take_left drained)⟩
    rw [same, all]

/-! ## What is accepted -/

/-- Fields that fit their width on the wire. -/
def Settings.InRange (s : Settings) : Prop := s.onWire = s

theorem readUint_cases {width n : Nat} {r rest : Bytes} (read : readUint width r = .ok (n, rest)) :
    n < 256 ^ width ∧ r.length = width + rest.length := by
  rw [readUint] at read
  split at read
  · cases read
  · rename_i enough
    cases read
    have bound := BigEndian.value_lt (r.take width)
    rw [List.length_take, Nat.min_eq_left (by omega)] at bound
    refine ⟨bound, ?_⟩
    rw [List.length_drop]
    omega

theorem readPriority_cases {r rest : Bytes} {p : Priority} (read : readPriority r = .ok (p, rest)) :
    p.onWire = p ∧ r.length = 5 + rest.length := by
  obtain ⟨⟨dep, r₁⟩, first, read⟩ := Fallible.bind_eq_ok.1 read
  obtain ⟨⟨weight, r₂⟩, second, read⟩ := Fallible.bind_eq_ok.1 read
  cases read
  obtain ⟨-, length⟩ := readUint_cases first
  obtain ⟨small, length'⟩ := readUint_cases second
  rw [Nat.pow_one] at small
  refine ⟨?_, by omega⟩
  have back : (weight + 1 + 255) % 256 + 1 = weight + 1 := by omega
  rw [Priority.onWire]
  simp only [low31_low31, back]

theorem applySetting_inRange {s : Settings} (range : s.InRange) (id : Nat) {value : Nat}
    (small : value < 2 ^ 32) : (applySetting s id value).InRange := by
  have kept : value % 2 ^ 32 = value := Nat.mod_eq_of_lt small
  obtain ⟨size, push, streams, window, frame, list⟩ := s
  simp only [Settings.InRange, Settings.onWire, Settings.mk.injEq, true_and] at range
  obtain ⟨a, c, d, e, f⟩ := range
  unfold applySetting
  split <;> simp only [Settings.InRange, Settings.onWire, Option.map_some, kept, a, c, d, e, f]

theorem length_filterMap_cons {α β : Type} (g : α → Option β) (a : α) (as : List α) :
    ((a :: as).filterMap g).length = (g a).toList.length + (as.filterMap g).length := by
  rw [List.filterMap_cons]
  cases g a with
  | none => exact (Nat.zero_add _).symm
  | some b => exact Nat.add_comm _ _

/-- One entry for each setting that is there. -/
theorem settingsEntries_length (s : Settings) :
    (settingsEntries s).length =
      s.headerTableSize.toList.length + (s.enablePush.toList.length +
        (s.maxConcurrentStreams.toList.length + (s.initialWindowSize.toList.length +
          (s.maxFrameSize.toList.length + s.maxHeaderListSize.toList.length)))) := by
  simp only [settingsEntries, length_filterMap_cons, Option.toList_map, List.length_map,
    List.filterMap_nil, List.length_nil, Nat.add_zero]

theorem applySetting_entries (s : Settings) (id value : Nat) :
    (settingsEntries (applySetting s id value)).length ≤ (settingsEntries s).length + 1 := by
  unfold applySetting
  split <;> simp only [settingsEntries_length, Option.toList_some, List.length_singleton] <;> omega

theorem readSettings_sound {count : Nat} {s result : Settings} {r : Bytes} (range : s.InRange)
    (read : readSettings count s r = .ok result) :
    result.InRange ∧ (settingsEntries result).length ≤ (settingsEntries s).length + count := by
  induction count generalizing s r with
  | zero =>
      cases read
      exact ⟨range, Nat.le_refl _⟩
  | succ count ih =>
      obtain ⟨⟨id, r₁⟩, -, read⟩ := Fallible.bind_eq_ok.1 read
      obtain ⟨⟨value, r₂⟩, second, read⟩ := Fallible.bind_eq_ok.1 read
      have small : value < 2 ^ 32 := (readUint_cases second).1
      obtain ⟨inRange, few⟩ := ih (applySetting_inRange range id small) read
      have one := applySetting_entries s id value
      exact ⟨inRange, by omega⟩

/-- The frame as it arrives without padding. -/
def WireFrame.unpadded : WireFrame → WireFrame
  | .data streamId bytes _ endStream => .data streamId bytes (some bytes.length) endStream
  | f => f

theorem low31_of_lt {v : Nat} (small : v < 2 ^ 31) : low31 v = v := Nat.mod_eq_of_lt small

theorem readPadded_le {padded : Bool} {r data : Bytes} (read : readPadded padded r = .ok data) :
    data.length ≤ r.length := by
  rw [readPadded] at read
  split at read
  · obtain ⟨⟨padLength, left⟩, first, read⟩ := Fallible.bind_eq_ok.1 read
    have length := (readUint_cases first).2
    by_cases short : r.length < 1 + padLength
    · simp only [short, if_true] at read
      cases read
    · simp only [short, if_false] at read
      cases read
      rw [List.length_take]
      omega
  · cases read
    exact Nat.le_refl _

theorem readPadLength_le {padded : Bool} {r rest : Bytes} {n : Nat}
    (read : readPadLength padded r = .ok (n, rest)) : rest.length ≤ r.length := by
  rw [readPadLength] at read
  split at read
  · have length := (readUint_cases read).2
    omega
  · cases read
    exact Nat.le_refl _

theorem cutPadding_le {what : String} {n : Nat} {r fragment : Bytes}
    (cut : cutPadding what n r = .ok fragment) : fragment.length ≤ r.length := by
  rw [cutPadding] at cut
  split at cut
  · cases cut
  · cases cut
    rw [List.length_take]
    exact Nat.min_le_right _ _

/-- **What is accepted.**  A frame that is parsed from a payload has fields that fit, and
written again it fits the same limit and is read as the same frame, without its padding. -/
theorem parsePayload_sound {typeId flags : UInt8} {streamId : Nat} {payload : Bytes}
    {f : WireFrame} (id : streamId < 2 ^ 31) (sayable : payload.length < 2 ^ 24)
    (parsed : parsePayload typeId flags streamId payload = .ok (some f)) :
    f.onWire = f.unpadded ∧ f.Encodable payload.length := by
  have same := low31_of_lt id
  have encodable : ∀ f : WireFrame, (encodeBody f).payload.length ≤ payload.length →
      (∀ s, f = .settings true s → s = {}) → f.Encodable payload.length :=
    fun f short bare => ⟨short, Nat.lt_of_le_of_lt short sayable, bare⟩
  rw [parsePayload] at parsed
  split at parsed
  · -- DATA
    obtain ⟨data, padded, parsed⟩ := Fallible.bind_eq_ok.1 parsed
    cases parsed
    exact ⟨congrArg (WireFrame.data · data (some data.length) _) same,
      encodable _ (readPadded_le padded) (fun s other => by cases other)⟩
  · -- HEADERS
    obtain ⟨⟨padLength, r₁⟩, first, parsed⟩ := Fallible.bind_eq_ok.1 parsed
    obtain ⟨⟨priority, r₂⟩, second, parsed⟩ := Fallible.bind_eq_ok.1 parsed
    obtain ⟨fragment, third, parsed⟩ := Fallible.bind_eq_ok.1 parsed
    cases parsed
    have length := readPadLength_le first
    have length' := cutPadding_le third
    rw [readHeadersPriority] at second
    split at second
    · obtain ⟨⟨p, r₃⟩, read, second⟩ := Fallible.bind_eq_ok.1 second
      cases second
      obtain ⟨back, five⟩ := readPriority_cases read
      refine ⟨?_, encodable _ ?_ (fun s other => by cases other)⟩
      · simp only [WireFrame.onWire, WireFrame.unpadded, same, Option.map_some, back]
      · have size : (encodePriority p).length = 5 := rfl
        simp only [encodeBody, List.length_append, size]
        omega
    · cases second
      refine ⟨?_, encodable _ ?_ (fun s other => by cases other)⟩
      · simp only [WireFrame.onWire, WireFrame.unpadded, same, Option.map_none]
      · simp only [encodeBody]
        omega
  · -- PRIORITY
    split at parsed
    · cases parsed
    · rename_i five
      obtain ⟨⟨p, r₁⟩, read, parsed⟩ := Fallible.bind_eq_ok.1 parsed
      cases parsed
      refine ⟨?_, encodable _ ?_ (fun s other => by cases other)⟩
      · simp only [WireFrame.onWire, WireFrame.unpadded, same, (readPriority_cases read).1]
      · exact Nat.le_of_eq (not_not.1 five).symm
  · -- RST_STREAM
    split at parsed
    · cases parsed
    · rename_i four
      obtain ⟨⟨errorCode, r₁⟩, read, parsed⟩ := Fallible.bind_eq_ok.1 parsed
      cases parsed
      have small : errorCode < 2 ^ 32 := (readUint_cases read).1
      refine ⟨?_, encodable _ ?_ (fun s other => by cases other)⟩
      · simp only [WireFrame.onWire, WireFrame.unpadded, same, Nat.mod_eq_of_lt small]
      · exact Nat.le_of_eq (not_not.1 four).symm
  · -- SETTINGS
    split at parsed
    · cases parsed
    · rename_i bare
      split at parsed
      · cases parsed
      · rename_i sixes
        obtain ⟨s, read, parsed⟩ := Fallible.bind_eq_ok.1 parsed
        cases parsed
        obtain ⟨range, few⟩ := readSettings_sound (by rfl) read
        refine ⟨congrArg (WireFrame.settings _) range, encodable _ ?_ ?_⟩
        · simp only [encodeBody, encodeSettings_length]
          have none : (settingsEntries {}).length = 0 := rfl
          omega
        · intro s' ack
          simp only [WireFrame.settings.injEq] at ack
          obtain ⟨one, rfl⟩ := ack
          have empty : payload.length = 0 := by
            by_contra nonempty
            exact bare ⟨one, nonempty⟩
          rw [empty] at read
          cases read
          rfl
  · -- PUSH_PROMISE
    obtain ⟨⟨padLength, r₁⟩, first, parsed⟩ := Fallible.bind_eq_ok.1 parsed
    obtain ⟨⟨promised, r₂⟩, second, parsed⟩ := Fallible.bind_eq_ok.1 parsed
    obtain ⟨fragment, third, parsed⟩ := Fallible.bind_eq_ok.1 parsed
    cases parsed
    have length := readPadLength_le first
    have length' := (readUint_cases second).2
    have length'' := cutPadding_le third
    refine ⟨?_, encodable _ ?_ (fun s other => by cases other)⟩
    · simp only [WireFrame.onWire, WireFrame.unpadded, same, low31_low31]
    · simp only [encodeBody, List.length_append, BigEndian.bytes_length]
      omega
  · -- PING
    split at parsed
    · cases parsed
    · rename_i eight
      cases parsed
      have size := not_not.1 eight
      refine ⟨?_, encodable _ ?_ (fun s other => by cases other)⟩
      · simp only [WireFrame.onWire, WireFrame.unpadded, size, if_true]
      · simp only [encodeBody, size, if_true]
        exact Nat.le_refl _
  · -- GOAWAY
    split at parsed
    · cases parsed
    · obtain ⟨⟨lastStreamId, r₁⟩, first, parsed⟩ := Fallible.bind_eq_ok.1 parsed
      obtain ⟨⟨errorCode, r₂⟩, second, parsed⟩ := Fallible.bind_eq_ok.1 parsed
      cases parsed
      have length := (readUint_cases first).2
      obtain ⟨small, length'⟩ := readUint_cases second
      have below : errorCode < 2 ^ 32 := small
      refine ⟨?_, encodable _ ?_ (fun s other => by cases other)⟩
      · simp only [WireFrame.onWire, WireFrame.unpadded, low31_low31, Nat.mod_eq_of_lt below]
      · simp only [encodeBody, List.length_append, BigEndian.bytes_length]
        omega
  · -- WINDOW_UPDATE
    split at parsed
    · cases parsed
    · rename_i four
      obtain ⟨⟨increment, r₁⟩, read, parsed⟩ := Fallible.bind_eq_ok.1 parsed
      cases parsed
      refine ⟨?_, encodable _ ?_ (fun s other => by cases other)⟩
      · simp only [WireFrame.onWire, WireFrame.unpadded, same, low31_low31]
      · exact Nat.le_of_eq (not_not.1 four).symm
  · -- CONTINUATION
    cases parsed
    exact ⟨congrArg (WireFrame.continuation · payload _) same,
      encodable _ (Nat.le_refl _) (fun s other => by cases other)⟩
  · cases parsed

theorem parsePayload_sound_padded :
    let f : WireFrame := .data 1 [104, 105] (some 5) true
    f.onWire = .data 1 [104, 105] (some 2) true ∧ f.Encodable 5 :=
  @parsePayload_sound 0x0 0x9 1 [2, 104, 105, 0, 0] _ (by decide) (by decide) rfl

end GrpcBridge.H2
