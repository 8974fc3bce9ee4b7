/-
# H2.HeaderLists -- header lists through a session

The session of H2.Session works with any decoder of header blocks.  `hpackDecoder` is the
one that the connection makes: an `HpackDecoder` with the table size of its SETTINGS, asked
for every block with the limits of web/src/h2/connection.ts.  A list that is over them resets
its stream; whatever else is thrown ends the connection, a `RangeError` at the end of a
truncated block with PROTOCOL_ERROR (`completeHeaderBlock_throws`).

With it the blocks of a session have a meaning.  The streams are given the header lists that
the peer meant (`lists_of_reaches`), and what is sent for a stream is read as the headers that
`buildRequestHeaders` made for its request (`requests_of_reaches`).
-/
import GrpcBridge.H2.HpackPeer
import GrpcBridge.H2.RequestBlocks

namespace GrpcBridge.H2

open GrpcBridge.Theory

set_option autoImplicit false

/-! ## The decoder of a connection -/

def defaultMaxHeaderListBytes : Nat := 65536
def defaultMaxHeaderCount : Nat := 256

/-- The limits for a block of stream `streamId`. -/
def decodeLimits (streamId : Nat) : HeaderDecodeLimits where
  maxHeaderListBytes := defaultMaxHeaderListBytes
  maxHeaderCount := defaultMaxHeaderCount
  streamId := some streamId

/-- What is thrown, as an `H2Error`; one that is none has the code of `connectionError`. -/
def Thrown.error : Thrown → H2Error
  | .h2 error => error
  | .range => { code := .protocolError, message := "Offset is outside the bounds of the DataView" }

/-- The stream that an error names is that of the block. -/
def HpackError.of (thrown : Thrown) : HpackError where
  code := thrown.error.code
  message := thrown.error.message
  ofStream := thrown.error.streamId.isSome

def hpackDecoder : Hpack where
  State := HpackDecoder
  init := .new defaultTableSize
  decode d block :=
    let (d, headers) := d.decode block (decodeLimits 0)
    (d, headers.mapError HpackError.of)

/-! ## What is thrown -/

/-- What a damaged block makes the decoder throw. -/
inductive Damaged : Thrown → Prop
  | range : Damaged .range
  | compression (message : String) : Damaged (compressionError message)

/-- It names no stream. -/
theorem Damaged.error_eq {e : Thrown} (damaged : Damaged e) :
    e.error = { code := e.error.code, message := e.error.message } := by
  cases damaged <;> rfl

theorem readRest_damaged {r : Bytes} {value shift : Nat} {e : Thrown}
    (failed : readRest value shift r = .error e) : Damaged e := by
  induction r generalizing value shift with
  | nil =>
      cases failed
      exact .range
  | cons byte r ih =>
      rw [readRest] at failed
      split at failed
      · cases failed
        exact .compression _
      · split at failed
        · exact ih failed
        · cases failed

theorem readInteger_damaged {r : Bytes} {prefixBits : Nat} {e : Thrown}
    (failed : readInteger prefixBits r = .error e) : Damaged e := by
  cases r with
  | nil =>
      cases failed
      exact .range
  | cons byte r =>
      rw [readInteger] at failed
      split at failed
      · cases failed
      · exact readRest_damaged failed

theorem peek_damaged {r : Bytes} {e : Thrown} (failed : peek r = .error e) : Damaged e := by
  cases r with
  | nil =>
      cases failed
      exact .range
  | cons byte r => cases failed

theorem huffmanDecode_damaged {input : Bytes} {e : Thrown} (failed : huffmanDecode input = .error e) :
    Damaged e := by
  have bit : ∀ {s : HuffmanScan} {b : Bool} {e : Thrown}, s.bit b = .error e → Damaged e := by
    intro s b e failed
    rw [HuffmanScan.bit] at failed
    split at failed
    · split at failed
      · cases failed
      · split at failed
        · cases failed
          exact .compression _
        · cases failed
    · cases failed
      exact .compression _
  have scan : ∀ {bits : List Bool} {s : HuffmanScan} {e : Thrown},
      bits.foldlM HuffmanScan.bit s = .error e → Damaged e := by
    intro bits
    induction bits with
    | nil =>
        intro s e failed
        cases failed
    | cons b bits ih =>
        intro s e failed
        rw [List.foldlM_cons] at failed
        obtain first | ⟨s', -, rest⟩ := Fallible.bind_eq_error.1 failed
        · exact bit first
        · exact ih rest
  obtain early | ⟨s, -, late⟩ := Fallible.bind_eq_error.1 failed
  · exact scan early
  · rw [HuffmanScan.finish] at late
    split at late
    · cases late
      exact .compression _
    · cases late

theorem readString_damaged {r : Bytes} {e : Thrown} (failed : readString r = .error e) :
    Damaged e := by
  obtain first | ⟨first, -, failed⟩ := Fallible.bind_eq_error.1 failed
  · exact peek_damaged first
  obtain integer | ⟨⟨length, rest⟩, -, failed⟩ := Fallible.bind_eq_error.1 failed
  · exact readInteger_damaged integer
  dsimp only at failed
  split at failed
  · cases failed
    exact .compression _
  · obtain bytes | ⟨bytes, -, failed⟩ := Fallible.bind_eq_error.1 failed
    · split at bytes
      · exact huffmanDecode_damaged bytes
      · cases bytes
    · cases failed

namespace HpackDecoder

variable {d : HpackDecoder} {e : Thrown}

theorem entryAt_damaged {index : Nat} (failed : d.entryAt index = .error e) : Damaged e := by
  rw [entryAt] at failed
  split at failed
  · cases failed
  · split at failed
    · cases failed
    · cases failed
      exact .compression _

theorem readLiteral_damaged {prefixBits : Nat} {r : Bytes}
    (failed : d.readLiteral prefixBits r = .error e) : Damaged e := by
  obtain integer | ⟨⟨nameIndex, rest⟩, -, failed⟩ := Fallible.bind_eq_error.1 failed
  · exact readInteger_damaged integer
  obtain name | ⟨⟨name, rest⟩, -, failed⟩ := Fallible.bind_eq_error.1 failed
  · rw [readName] at name
    split at name
    · exact readString_damaged name
    · obtain entry | ⟨entry, -, failed⟩ := Fallible.bind_eq_error.1 name
      · exact entryAt_damaged entry
      · cases failed
  obtain value | ⟨value, -, failed⟩ := Fallible.bind_eq_error.1 failed
  · exact readString_damaged value
  · cases failed

theorem decodeField_damaged {r : Bytes} (failed : d.decodeField r = .error e) : Damaged e := by
  obtain first | ⟨first, -, failed⟩ := Fallible.bind_eq_error.1 failed
  · exact peek_damaged first
  dsimp only at failed
  split at failed
  · obtain integer | ⟨⟨index, rest⟩, -, failed⟩ := Fallible.bind_eq_error.1 failed
    · exact readInteger_damaged integer
    dsimp only at failed
    split at failed
    · cases failed
      exact .compression _
    · obtain entry | ⟨entry, -, failed⟩ := Fallible.bind_eq_error.1 failed
      · exact entryAt_damaged entry
      · cases failed
  · split at failed
    · obtain literal | ⟨literal, -, failed⟩ := Fallible.bind_eq_error.1 failed
      · exact readLiteral_damaged literal
      · cases failed
    · split at failed
      · obtain integer | ⟨⟨newSize, rest⟩, -, failed⟩ := Fallible.bind_eq_error.1 failed
        · exact readInteger_damaged integer
        obtain size | ⟨applied, -, failed⟩ := Fallible.bind_eq_error.1 failed
        · rw [applyMaxSize] at size
          split at size
          · cases size
            exact .compression _
          · cases size
        · cases failed
      · obtain literal | ⟨literal, -, failed⟩ := Fallible.bind_eq_error.1 failed
        · exact readLiteral_damaged literal
        · cases failed

theorem decodeFields_damaged {limits : Option HeaderDecodeLimits} {fuel : Nat} {budget : Budget}
    {r : Bytes} (failed : (decodeFields limits fuel d budget r).2 = .error e) : Damaged e := by
  induction fuel generalizing d budget r with
  | zero => cases failed
  | succ fuel ih =>
      rw [decodeFields] at failed
      split at failed
      · cases failed
      · split at failed
        · rename_i field
          cases failed
          exact decodeField_damaged field
        · exact ih failed
        · exact ih failed

/-- A block without limits fails when it is damaged. -/
theorem decode_damaged {block : Bytes} (failed : (d.decode block none).2 = .error e) :
    e.error = { code := e.error.code, message := e.error.message } := by
  rw [decode] at failed
  split at failed
  · rename_i thrown
    cases failed
    exact (decodeFields_damaged (congrArg Prod.snd thrown)).error_eq
  · split at failed
    · cases failed
      rfl
    · cases failed

end HpackDecoder

theorem completeHeaderBlock_thrown {H : Hpack} (c : Conn H) (pb : PendingHeaderBlock) :
    (c.completeHeaderBlock pb).2 =
      match (H.decode c.hpack pb.fragments.flatten).2 with
      | .error e => some (.h2
          { code := e.code
            message := e.message
            streamId := if e.ofStream then some pb.streamId else none })
      | .ok _ => none := by
  rcases outcome : H.decode c.hpack pb.fragments.flatten with ⟨hpack, _ | headers⟩
  · simp only [Conn.completeHeaderBlock, outcome]
  · simp only [Conn.completeHeaderBlock, outcome]
    repeat' split
    all_goals rfl

theorem limit_streamId (streamId : Nat) (headers : List Header) :
    limit (some (decodeLimits streamId)) headers =
      if exceeds (decodeLimits 0) headers then .error (headerListTooLarge (decodeLimits streamId))
      else .ok headers := rfl

theorem decode_thrown (d : HpackDecoder) (block : Bytes) (streamId : Nat) :
    (match (hpackDecoder.decode d block).2 with
      | .error e => some (Cause.h2
          { code := e.code
            message := e.message
            streamId := if e.ofStream then some streamId else none })
      | .ok _ => none) =
      match (d.decode block (decodeLimits streamId)).2 with
      | .error e => some (.h2 e.error)
      | .ok _ => none := by
  simp only [hpackDecoder, HpackDecoder.decode_limits _ _ (some (decodeLimits _))]
  cases whole : (d.decode block none).2 with
  | error e =>
      have plain := HpackDecoder.decode_damaged whole
      rw [Fallible.bind_error, Fallible.bind_error]
      dsimp only [Except.mapError, HpackError.of]
      rw [plain]
      rfl
  | ok headers =>
      rw [Fallible.bind_ok, Fallible.bind_ok, limit_streamId, limit_streamId]
      by_cases large : exceeds (decodeLimits 0) headers = true
      · rw [if_pos large, if_pos large]
        rfl
      · rw [if_neg large, if_neg large]
        rfl

/-- **What is thrown.**  For a complete block the connection throws what `decode` throws with
the limits of its stream. -/
theorem completeHeaderBlock_throws (c : Conn hpackDecoder) (pb : PendingHeaderBlock) :
    (c.completeHeaderBlock pb).2 =
      match (HpackDecoder.decode c.hpack pb.fragments.flatten (decodeLimits pb.streamId)).2 with
      | .error e => some (.h2 e.error)
      | .ok _ => none :=
  (completeHeaderBlock_thrown c pb).trans (decode_thrown c.hpack _ _)

/-! ## Header lists in -/

/-- A block as the peer encodes it. -/
def onWire (b : BlockHead × List Representation) : BlockHead × Bytes := (b.1, blockBytes b.2)

/-- A block for which the peer meant `fields`. -/
def meant (b : BlockHead × List Representation) (fields : List OctetEntry) : ReadBlock :=
  (b.1, (limit (some (decodeLimits b.1.streamId)) (fields.map fun e => toHeader (view e))).mapError
    HpackError.of)

/-- Which stream the limits name is for the connection to say. -/
theorem mapError_limit (streamId : Nat) (headers : List Header) :
    (limit (some (decodeLimits streamId)) headers).mapError HpackError.of =
      (limit (some (decodeLimits 0)) headers).mapError HpackError.of := by
  rw [limit_streamId, limit_streamId]
  split <;> rfl

/-- The blocks of a connection, one after the other. -/
theorem readBlocks_eq (blocks : List (BlockHead × Bytes)) :
    (hpackDecoder.readBlocks blocks).2 =
      List.zipWith (fun b headers => (b.1, headers.mapError HpackError.of)) blocks
        ((HpackDecoder.new defaultTableSize).decodeBlocks
          (blocks.map fun b => (b.2, some (decodeLimits 0)))).2 := by
  have run : ∀ (d : HpackDecoder) (done : List ReadBlock),
      (blocks.foldl hpackDecoder.readBlock (d, done)).2 =
        done ++ List.zipWith (fun b headers => (b.1, headers.mapError HpackError.of)) blocks
          (d.decodeBlocks (blocks.map fun b => (b.2, some (decodeLimits 0)))).2 := by
    induction blocks with
    | nil => exact fun d done => (List.append_nil done).symm
    | cons b blocks ih =>
        intro d done
        rw [List.foldl_cons, List.map_cons, HpackDecoder.decodeBlocks, List.zipWith_cons_cons]
        refine (ih _ _).trans ?_
        rw [List.append_assoc]
        rfl
  exact run _ []

/-- **Header lists in.**  Behind a peer that begins with an empty table no larger than ours, every
stream of a run has been given the header lists that the peer meant, as far as the limits let
them through. -/
theorem lists_of_reaches {w : Windows} {c : Conn hpackDecoder}
    (reached : (sessionMachine hpackDecoder w).Reaches Machine.always c) :
    ∃ frames a, frames <+: c.received ∧ headerBlocks frames = some a ∧
      (c.closed = false → frames = c.received) ∧
      ∀ (peerMax : Nat) (blocks : List (BlockHead × List Representation)) (p : Peer)
        (fields : List (List OctetEntry)), peerMax ≤ defaultTableSize →
        (∀ b ∈ blocks, ∀ r ∈ b.2, r.Short) → a.whole = blocks.map onWire →
        Peer.sendBlocks { maxSize := peerMax } defaultTableSize (blocks.map Prod.snd) =
          some (p, fields) →
        ∀ s ∈ c.streams, Conn.Handed (List.zipWith meant blocks fields) s := by
  obtain ⟨frames, a, begins, whole, current, given⟩ := Conn.heads_of_reaches reached
  refine ⟨frames, a, begins, whole, fun up => (current up).1, ?_⟩
  intro peerMax blocks p fields smaller short written sent s member
  have read := @decodeBlocks_peer peerMax defaultTableSize smaller
    (blocks.map fun b => (b.2, some (decodeLimits 0))) (List.forall_mem_map.2 short) p fields
    (by rw [List.map_map]; exact sent)
  rw [List.map_map, List.zipWith_map_left] at read
  have lists : (hpackDecoder.readBlocks a.whole).2 = List.zipWith meant blocks fields := by
    rw [readBlocks_eq, written, List.map_map, List.zipWith_map_left]
    refine (congrArg (List.zipWith _ blocks) read).trans ?_
    rw [List.zipWith_zipWith_right, List.zipWith3_same_left]
    exact congrArg (fun f => List.zipWith f blocks fields)
      (funext fun b => funext fun list => congrArg (Prod.mk b.1) (mapError_limit _ _).symm)
  rw [← lists]
  exact given s member

/-! ## Header lists out -/

def forbiddenHeaders : List String :=
  ["connection", "host", "keep-alive", "proxy-connection", "transfer-encoding", "upgrade"]

/-- What `buildRequestHeaders` reads of an `H2RequestInit`. -/
structure RequestInit where
  method : Option String := none
  scheme : Option String := none
  authority : Option String := none
  path : Option String := none
  /-- What `normalizeHeaders` makes of the headers. -/
  headers : List (String × String) := []
deriving DecidableEq, Repr

section Build

variable (toUpperCase toLowerCase : String → String)

/-- One round of the loop in `buildRequestHeaders`. -/
def requestHeader (field : String × String) : Option SentHeader :=
  let name := toLowerCase field.1
  if name.toList.head? = some ':' ∨ name ∈ forbiddenHeaders then none
  else some { name, value := field.2, neverIndex := name = "authorization" || name = "cookie" }

def buildRequestHeaders (init : RequestInit) : List SentHeader :=
  [{ name := ":method", value := toUpperCase (init.method.getD "GET") },
    { name := ":scheme", value := init.scheme.getD "http" }] ++
  -- an empty authority is no authority
  (init.authority.filter (· ≠ "")).toList.map (fun value => { name := ":authority", value }) ++
  [{ name := ":path", value := init.path.getD "/" }] ++
  init.headers.filterMap (requestHeader toLowerCase)

/-- The pseudo-headers come first, and no header is one that HTTP/2 forbids. -/
theorem buildRequestHeaders_split (init : RequestInit) : ∃ pseudo rest,
    buildRequestHeaders toUpperCase toLowerCase init = pseudo ++ rest ∧
      (∀ h ∈ pseudo, h.name ∈ [":method", ":scheme", ":authority", ":path"]) ∧
      ∀ h ∈ rest, h.name.toList.head? ≠ some ':' ∧ h.name ∉ forbiddenHeaders := by
  refine ⟨_, _, rfl, ?_, ?_⟩
  · intro h inside
    simp only [List.mem_append, List.mem_cons, List.not_mem_nil, or_false, List.mem_map] at inside
    obtain ((rfl | rfl) | ⟨value, -, rfl⟩) | rfl := inside <;> simp
  · intro h inside
    obtain ⟨field, -, kept⟩ := List.mem_filterMap.1 inside
    rw [requestHeader] at kept
    split at kept
    · cases kept
    · rename_i plain
      cases kept
      exact not_or.1 plain

end Build

/-- The authority is left out when it is empty, and a credential is not to be indexed. -/
example : buildRequestHeaders String.toUpper String.toLower
      { method := some "post", authority := some "", path := some "/a.B/C",
        headers := [("Authorization", "x"), ("Host", "y"), (":path", "/"), ("TE", "trailers")] } =
    [{ name := ":method", value := "POST" }, { name := ":scheme", value := "http" },
      { name := ":path", value := "/a.B/C" },
      { name := "authorization", value := "x", neverIndex := true },
      { name := "te", value := "trailers" }] := by
  decide +kernel

namespace Conn

variable {H : Hpack}

theorem map_block_modify (requests : List Request) (k : Nat) {f : Request → Request}
    (same : ∀ q, (f q).block = q.block) :
    (requests.modify k f).map Request.block = requests.map Request.block := by
  refine List.ext_getElem? fun i => ?_
  rw [List.getElem?_map, List.getElem?_modify, List.getElem?_map]
  cases requests[i]? with
  | none => rfl
  | some q =>
      show some (if k = i then f q else q).block = some q.block
      split
      · rw [same]
      · rfl

theorem Stays.blocks {c c' : Conn H} (stays : Stays c c') :
    c'.requests.map Request.block = c.requests.map Request.block := by
  rcases stays with quiet | roused
  · rw [quiet.requests]
  · rw [roused.requests, wakeWaiters]
    refine List.ext_getElem? fun i => ?_
    rw [List.getElem?_map, List.getElem?_mapIdx, List.getElem?_map]
    cases c.requests[i]? with
    | none => rfl
    | some q =>
        rw [Option.map_some, Option.map_some, Option.map_some]
        split <;> rfl

theorem abort_blocks (c : Conn H) (r : Nat) (q : Request) (reason : Cause) :
    (c.abort r q reason).requests.map Request.block = c.requests.map Request.block := by
  have noted : (c.marked r reason).requests.map Request.block = c.requests.map Request.block :=
    map_block_modify _ _ fun _ => rfl
  simp only [Conn.abort]
  split
  · exact (map_block_modify _ r (f := fun q => { q with phase := .woken }) fun _ => rfl).trans noted
  · rename_i id _
    exact (Stays.blocks (abortStream_stays (c.marked r reason) id reason)).trans noted
  · exact noted

/-- A request keeps its block. -/
theorem step_blocks {c c' : Conn H} {w : Windows} {e : Event} (stepped : c.step w e = some c') :
    c'.requests.map Request.block = c.requests.map Request.block ∨
      ∃ block hasBody, e = .request block hasBody ∧
        c'.requests.map Request.block = c.requests.map Request.block ++ [block] := by
  rcases step_requests stepped with stays | ⟨q, ⟨-, asks⟩, -, rfl⟩ | ⟨r, q, -, -, rfl⟩ |
    ⟨r, q, -, -, rfl⟩ | ⟨r, q, reason, -, rfl⟩
  · exact .inl stays.blocks
  · exact .inr ⟨_, _, asks, List.map_append⟩
  · left
    obtain ⟨cause, -, done⟩ | ⟨up, -, -, done⟩ | ⟨-, -, -, done⟩ := c.admitRequest_cases w r q
    · rw [done]
      exact map_block_modify _ _ fun _ => rfl
    · rw [done, (openStream_fields up w r q).2.2.2.2]
      exact map_block_modify _ _ fun _ => rfl
    · rw [done]
      exact map_block_modify _ _ fun _ => rfl
  · exact .inl (map_block_modify _ _ fun _ => rfl)
  · exact .inl (c.abort_blocks r q reason)

end Conn

section Requests

variable (toUpperCase toLowerCase : String → String)

/-- The block that `request` sends for `init`, whose strings the encoder can hold. -/
def Encodes (init : RequestInit) (block : Bytes) : Prop :=
  (∀ h ∈ buildRequestHeaders toUpperCase toLowerCase init, Sendable toLowerCase h) ∧
    block = hpackEncode toLowerCase (buildRequestHeaders toUpperCase toLowerCase init)

/-- Requests are calls of `request`. -/
def Asks {H : Hpack} (_ : Conn H) (e : Event) : Prop :=
  ∀ block hasBody, e = .request block hasBody → ∃ init, Encodes toUpperCase toLowerCase init block

variable {toUpperCase toLowerCase}

/-- **Header lists out.**  In every run what is sent is one whole block for each stream, in the
order of the streams, and a decoder with any table reads it as the headers that were built for
the request which has the stream, as far as its limits let them through. -/
theorem requests_of_reaches {H : Hpack} {w : Windows} {c : Conn H}
    (reached : (sessionMachine H w).Reaches (Asks toUpperCase toLowerCase) c) :
    ∃ a, headerBlocks c.sent = some a ∧ a.begun = none ∧
      a.whole.map (fun b => b.1.streamId) = c.streams.map Stream.id ∧
      ∀ b ∈ a.whole, ∃ (r : Nat) (q : Request) (init : RequestInit), c.requests[r]? = some q ∧
        q.phase = .opened b.1.streamId ∧ Encodes toUpperCase toLowerCase init q.block ∧
        ∀ (d : HpackDecoder) (limits : Option HeaderDecodeLimits), d.decode b.2 limits =
          (d, limit limits ((buildRequestHeaders toUpperCase toLowerCase init).map
            fun h => toHeader (received toLowerCase h))) := by
  have made : ∀ block ∈ c.requests.map Request.block, ∃ init,
      Encodes toUpperCase toLowerCase init block := by
    refine reached.invariant (fun c : Conn H => ∀ block ∈ c.requests.map Request.block, ∃ init,
      Encodes toUpperCase toLowerCase init block) ?_ fun _ none_ => absurd none_ List.not_mem_nil
    intro c e c' made asks stepped
    obtain same | ⟨block, hasBody, rfl, grown⟩ := Conn.step_blocks stepped
    · rw [same]
      exact made
    · rw [grown]
      exact List.forall_mem_append.2 ⟨made, List.forall_mem_singleton.2 (asks _ _ rfl)⟩
  obtain ⟨a, blocks, idle, ids, owners⟩ :=
    Conn.headers_of_reaches (reached.mono fun _ _ _ => trivial)
  refine ⟨a, blocks, idle, ids, fun b inside => ?_⟩
  obtain ⟨r, q, asked, opened, own, -⟩ := owners b inside
  obtain ⟨init, sendable, written⟩ :=
    made q.block (List.mem_map.2 ⟨q, List.mem_of_getElem? asked, rfl⟩)
  refine ⟨r, q, init, asked, opened, ⟨sendable, written⟩, fun d limits => ?_⟩
  rw [own, written]
  exact decode_hpackEncode d sendable limits

end Requests

end GrpcBridge.H2
