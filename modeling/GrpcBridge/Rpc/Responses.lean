/-
# Rpc.Responses -- which responses a call succeeds on

`start` and `unary` of `createTunnelTransport` (web/src/transport.ts) from the moment the
response head is there, and `validateStatus` of web/src/framing.ts.  A response is what the
connection gives its stream until the consumer is at the end of the body: header blocks and
data, each with its END_STREAM flag.  The head, the chunks and `trailers()` are what
`H2.Stream` makes of them.

Four checks decide a call at different times: the head, the records, the trailers as
header fields, and the status, which is looked up in the trailers and then in the head.
`Complete` says what a finished gRPC response is.  There are three ways past the checks.
The lookup does not ask whether the head ended the stream (`StatusInHead`).  A stream keeps
as its trailers the last block behind the head, also one that did not end the stream
(`StatusAside`).  And `:status` is parsed and not compared (`LooseStatus`).

Only the error is modelled that the checks raise; an abort of the call replaces it.
-/
import GrpcBridge.H2.Stream
import GrpcBridge.Rpc.Framing

namespace GrpcBridge.Rpc

set_option autoImplicit false

open GrpcBridge.Theory
open GrpcBridge.Theory.RecordStream

abbrev Fields := List (String × String)

/-! ## What the stream is given -/

inductive Part where
  /-- A header block, decoded. -/
  | block (raw : List H2.Header) (endStream : Bool)
  | data (bytes : Bytes) (endStream : Bool)
deriving DecidableEq, Repr

namespace Part

def give (s : H2.Stream) : Part → H2.Stream
  | .block raw endStream => s.receiveHeaders raw endStream
  | .data bytes endStream => s.receiveData bytes endStream

def endStream : Part → Bool
  | .block _ endStream => endStream
  | .data _ endStream => endStream

end Part

/-- A new stream behind what it is given, before its consumer reads. -/
def received (parts : List Part) : H2.Stream :=
  parts.foldl Part.give { id := 1, sendWindow := 0, recvWindow := 0 }

/-- What `connection.request` resolves to, and what comes of it. -/
structure Response where
  /-- What the stream is given until the consumer is at the end of the body. -/
  parts : List Part
  head : H2.HeadHead
  resolved : (received parts).head = .resolved head
  /-- What the consumer takes from the body.  A reset drops what is still unread. -/
  chunks : List Bytes
  taken : chunks <+: (received parts).recvQueue
  /-- The body fails behind the chunks. -/
  failure : Option H2.Cause := none
  ended : failure = none → chunks = (received parts).recvQueue ∧ (received parts).recvEnded = true

/-- `trailers()` when the body has ended. -/
def Response.trailers (r : Response) : Option Fields := (received r.parts).trailers

inductive CallError where
  /-- A `ConnectError` with the number of its code. -/
  | connect (message : String) (code : Nat) (metadata : Fields)
  | framing (error : ConnectError)
  | body (cause : H2.Cause)
  /-- `fromBinary` throws. -/
  | decoding
  /-- `Headers` refuses a field. -/
  | typeError
deriving DecidableEq, Repr

/-- `Code.Unknown` -/
def unknown (message : String) : CallError := .connect message 2 []

/-- `Code.Unavailable` -/
def unavailable (message : String) : CallError := .connect message 14 []

/-- The functions of the runtime and of the protobuf library that a response goes through;
`none` when they throw. -/
structure Codec (M : Type) where
  fromBinary : Bytes → Option M
  decodeURIComponent : String → Option String

/-! ## The head -/

def grpcMedia : List Char := "application/grpc".toList

/-- `/^application\/grpc(?:[+;]|$)/i.test(value)` -/
def isGrpcContentType (value : String) : Bool :=
  let text := value.toList
  (text.take grpcMedia.length).map Char.toLower = grpcMedia &&
    match text.drop grpcMedia.length with
    | [] => true
    | c :: _ => c = '+' || c = ';'

/-- The characters of a field name. -/
def isTokenChar (c : Char) : Bool := c.isAlphanum || "!#$%&'*+-.^_`|~".toList.contains c

def isHttpWhitespace (c : Char) : Bool := c = '\t' || c = '\n' || c = '\r' || c = ' '

/-- A field that `Headers` takes: a token, and a value of Latin-1 characters that has no
NUL or newline when the whitespace around it is stripped. -/
def isField (field : String × String) : Bool :=
  let name := field.1.toList
  let value := field.2.toList
  let stripped := ((value.dropWhile isHttpWhitespace).reverse.dropWhile isHttpWhitespace).reverse
  name ≠ [] && name.all isTokenChar && value.all (fun c => c.toNat ≤ 0xFF) &&
    stripped.all fun c => c.toNat ≠ 0 && c ≠ '\n' && c ≠ '\r'

/-- `new Headers(fields)`, or `set` of one field after the other. -/
def newHeaders (fields : Fields) : Except CallError Fields :=
  if fields.all isField then .ok fields else .error .typeError

/-! ## The status -/

/-- `Number(raw)` for what `/^(?:[0-9]|1[0-6])$/` matches. -/
def statusCode (raw : String) : Option Nat := (List.range 17).find? fun code => toString code = raw

section Calls

variable {M : Type} (codec : Codec M)

def validateStatus (headers : Fields) (trailers : Option Fields) : Except CallError Unit :=
  let field name := (trailers.bind fun fields => fields.lookup name) <|> headers.lookup name
  match field "grpc-status" with
  | none => .error (unknown "Missing grpc-status")
  | some raw =>
      match statusCode raw with
      | none => .error (unknown "Invalid grpc-status")
      | some code =>
          if raw ≠ "0" then
            let encoded := (field "grpc-message").getD "RPC failed"
            .error (.connect ((codec.decodeURIComponent encoded).getD encoded) code
              (trailers.getD [] ++ headers))
          else .ok ()

/-! ## The messages -/

/-- `unframe` over a body that may fail behind its chunks. -/
def readBody (failure : Option H2.Cause) (s : Unframer) :
    List Bytes → List Bytes × Option CallError
  | [] =>
      ([], match failure with
        | some cause => some (.body cause)
        | none =>
            if s.offset ≠ 0 ∨ s.readingHeader = false then some (.framing truncatedRecord)
            else none)
  | value :: chunks =>
      match feed s value with
      | (records, .error e) => (records, some (.framing e))
      | (records, .ok s) =>
          let (later, error) := readBody failure s chunks
          (records ++ later, error)

/-- The loop over the records: what it yields, and whether `fromBinary` throws. -/
def decodeAll : List Bytes → List M × Option CallError
  | [] => ([], none)
  | bytes :: records =>
      match codec.fromBinary bytes with
      | none => ([], some .decoding)
      | some message =>
          let (later, error) := decodeAll records
          (message :: later, error)

/-- The generator `messages`: what its consumer sees, and the error it ends with. -/
def messages (r : Response) : List M × Option CallError :=
  let (records, error) := readBody r.failure .start r.chunks
  match decodeAll codec records, error with
  | (items, some e), _ => (items, some e)
  | (items, none), some e => (items, some e)
  | (items, none), none =>
      let ended := do
        let _ ← newHeaders (r.trailers.getD [])
        validateStatus codec r.head.headers r.trailers
      match ended with
      | .error e => (items, some e)
      | .ok _ => (items, none)

/-- `start` from the response on: the header, and what the message iterator gives. -/
def start (r : Response) : Except CallError (Fields × List M × Option CallError) := do
  let trailersOnly := r.head.endStream && (r.head.headers.lookup "grpc-status").isSome
  if r.head.status ≠ some 200 then
    let status := match r.head.status with
      | none => "NaN"
      | some status => toString status
    .error (unavailable s!"HTTP {status}")
  else if !isGrpcContentType ((r.head.headers.lookup "content-type").getD "") then
    .error (unknown "Invalid gRPC content type")
  else do
    if trailersOnly then validateStatus codec r.head.headers none
    let header ← newHeaders r.head.headers
    return (header, messages codec r)

/-- The loop of `unary` over the message iterator. -/
def collectMessage (message : Option M) (count : Nat) :
    List M → Option CallError → Except CallError (Option M × Nat)
  | [], none => .ok (message, count)
  | [], some e => .error e
  | item :: items, error =>
      if 1 < count + 1 then .error (unknown "Unary returned multiple messages")
      else collectMessage (some item) (count + 1) items error

def unary (r : Response) : Except CallError M := do
  let (_, items, error) ← start codec r
  let (message, count) ← collectMessage none 0 items error
  match message with
  | some message =>
      if count ≠ 1 then .error (unknown "Unary returned no message") else .ok message
  | none => .error (unknown "Unary returned no message")

/-- The message iterator of a streaming call ends without an error. -/
def StreamEnds (r : Response) : Prop := ∃ header items, start codec r = .ok (header, items, none)

end Calls

/-! ## What a finished response is -/

/-- `application/grpc`, or a variant of it behind a `+` or a `;`. -/
def GrpcContentType (value : String) : Prop :=
  ∃ media rest, value.toList = media ++ rest ∧ media.map Char.toLower = grpcMedia ∧
    (rest = [] ∨ ∃ more, rest = '+' :: more ∨ rest = ';' :: more)

/-- The bytes are those of these uncompressed records, of at most 1 MiB each. -/
def Records (bytes : Bytes) (records : List Bytes) : Prop :=
  ∃ framed, records.mapM frame = .ok framed ∧ framed.flatten = bytes

namespace Response

def contentType (r : Response) : String := (r.head.headers.lookup "content-type").getD ""

def headStatus (r : Response) : Option String := r.head.headers.lookup "grpc-status"

def trailersStatus (r : Response) : Option String :=
  r.trailers.bind fun fields => fields.lookup "grpc-status"

/-- The values of the `:status` fields of the head. -/
def statusFields (r : Response) : List String :=
  (r.head.raw.filter fun h => h.name = ":status").map H2.Header.value

/-- The fields of the block that ends the stream behind its head.  There is none if the head
or a DATA frame ends it. -/
def lastTrailers (r : Response) : Option Fields :=
  match r.parts.dropWhile fun p => !p.endStream with
  | .block raw _ :: _ =>
      if (received (r.parts.takeWhile fun p => !p.endStream)).gotHead then
        some (H2.collectHeaders raw).headers
      else none
  | _ => none

def lastStatus (r : Response) : Option String :=
  r.lastTrailers.bind fun fields => fields.lookup "grpc-status"

/-- A gRPC response that came to its end with the status OK, in the trailers or, when the
head is all there is, in the head. -/
structure Complete (r : Response) : Prop where
  status : r.statusFields = ["200"]
  contentType : GrpcContentType r.contentType
  closed : r.failure = none
  records : ∃ records, Records r.chunks.flatten records
  ok : r.lastStatus = some "0" ∨ r.head.endStream = true ∧ r.headStatus = some "0"

/-- What the checks other than the lookup of the status ask for. -/
structure WellFormed {M : Type} (codec : Codec M) (r : Response) (items : List M) : Prop where
  status : r.head.status = some 200
  contentType : GrpcContentType r.contentType
  fields : r.head.headers.all isField = true ∧ (r.trailers.getD []).all isField = true
  closed : r.failure = none
  records : ∃ records, Records r.chunks.flatten records ∧
    records.mapM codec.fromBinary = some items

/-- What the lookup of the status is content with. -/
def Approved (r : Response) : Prop :=
  (r.trailersStatus <|> r.headStatus) = some "0" ∧
    (r.head.endStream = true → r.headStatus.isSome = true → r.headStatus = some "0")

/-- The status OK stands in a head that does not end the stream, the trailers that are kept
have none, and those that end the stream are not OK. -/
def StatusInHead (r : Response) : Prop :=
  r.head.endStream = false ∧ r.headStatus = some "0" ∧ r.trailersStatus = none ∧
    r.lastStatus ≠ some "0"

/-- The status OK stands in a block behind the head that is not the one that ends the
stream, and nowhere else. -/
def StatusAside (r : Response) : Prop :=
  r.trailersStatus = some "0" ∧ r.lastStatus ≠ some "0" ∧
    (r.head.endStream = true → r.headStatus = none)

/-- The status of the HTTP response is read as 200, but is not the one field `200`, and the
lookup of the other is content. -/
def LooseStatus (r : Response) : Prop := r.statusFields ≠ ["200"] ∧ r.Approved

end Response

/-- A call succeeds only on a complete response: a streaming call, a unary call, which
returns the one record, and neither of them when a body ends without trailers. -/
def SucceedsOnlyComplete {M : Type} (codec : Codec M) (r : Response) : Prop :=
  (StreamEnds codec r → r.Complete) ∧
    (∀ message, unary codec r = .ok message →
      r.Complete ∧ ∃ data, Records r.chunks.flatten [data] ∧
        codec.fromBinary data = some message) ∧
    (r.head.endStream = false → r.lastTrailers = none →
      ¬ StreamEnds codec r ∧ ∀ message, unary codec r ≠ .ok message)

/-! ## The head -/

theorem isGrpcContentType_iff (value : String) :
    isGrpcContentType value = true ↔ GrpcContentType value := by
  constructor
  · intro matched
    simp only [isGrpcContentType, Bool.and_eq_true, decide_eq_true_eq] at matched
    refine ⟨value.toList.take grpcMedia.length, value.toList.drop grpcMedia.length,
      (List.take_append_drop _ _).symm, matched.1, ?_⟩
    split at matched
    · exact .inl ‹_›
    · rename_i c more rest
      obtain ⟨_, next⟩ := matched
      rw [rest]
      obtain plus | semicolon := Bool.or_eq_true_iff.1 next
      · exact .inr ⟨more, .inl (by rw [of_decide_eq_true plus])⟩
      · exact .inr ⟨more, .inr (by rw [of_decide_eq_true semicolon])⟩
  · rintro ⟨media, rest, text, same, next⟩
    have length : media.length = grpcMedia.length := by rw [← same, List.length_map]
    simp only [isGrpcContentType, text, ← length, List.take_left, List.drop_left, same,
      decide_true, Bool.true_and]
    obtain rfl | ⟨more, rfl | rfl⟩ := next
    · rfl
    · rfl
    · rfl

theorem newHeaders_eq_ok {fields taken : Fields} :
    newHeaders fields = .ok taken ↔ fields.all isField = true ∧ fields = taken := by
  unfold newHeaders
  split
  · rename_i accepted
    simp [accepted]
  · rename_i refused
    simp [refused]

/-! ## The records -/

/-- A header that is taken is what `frame` writes for its length. -/
theorem header_of_measure {header : Bytes} {length : Nat} (whole : header.length = 5)
    (measured : measure header = .ok length) :
    header = 0 :: BigEndian.bytes 4 length ∧ length ≤ maxMessage := by
  match header, whole with
  | [flag, b₃, b₂, b₁, b₀], _ =>
      unfold measure at measured
      split at measured
      · cases measured
      · rename_i zero
        split at measured
        · cases measured
        · rename_i small
          obtain rfl := Except.ok.inj measured
          have plain : flag = 0 := not_not.1 zero
          have bytes : BigEndian.bytes 4 (BigEndian.value [b₃, b₂, b₁, b₀]) = [b₃, b₂, b₁, b₀] :=
            BigEndian.bytes_value [b₃, b₂, b₁, b₀]
          exact ⟨by rw [plain]; exact congrArg _ bytes.symm, Nat.not_lt.1 small⟩

/-- A string that is read to its end is made of the frames of its records. -/
theorem records_of_parse {bytes : Bytes} {records : List Bytes}
    (clean : record.parse bytes = (records, .clean)) : Records bytes records := by
  induction size : bytes.length using Nat.strongRecOn generalizing bytes records with
  | ind n ih =>
      obtain ⟨rfl, rfl⟩ | ⟨header, body, rest, later, rfl, rfl, whole, measured, ended⟩ :=
        Format.parse_clean_cases clean
      · exact ⟨[], rfl, rfl⟩
      · have measured : grpcHeader header = .ok body.length := measured
        rw [← measure_eq whole] at measured
        obtain ⟨rfl, small⟩ := header_of_measure whole measured
        have shorter : rest.length < n := by
          simp only [List.length_append, List.length_cons] at size
          omega
        obtain ⟨framed, made, flat⟩ := ih _ shorter ended rfl
        refine ⟨(0 :: BigEndian.bytes 4 body.length ++ body) :: framed, ?_, ?_⟩
        · rw [List.mapM_cons, frame, if_neg (Nat.not_lt.2 small), made]
          rfl
        · rw [List.flatten_cons, flat, List.append_assoc]

theorem records_iff {bytes : Bytes} {records : List Bytes} :
    Records bytes records ↔ record.parse bytes = (records, .clean) := by
  constructor
  · rintro ⟨framed, made, rfl⟩
    exact parse_frames made
  · exact records_of_parse

/-- A body that is closed is read as `unframe` reads its chunks. -/
theorem readBody_closed (s : Unframer) (chunks : List Bytes) :
    readBody none s chunks = ((read s chunks).1, (read s chunks).2.map .framing) := by
  induction chunks generalizing s with
  | nil =>
      rw [readBody, read]
      split <;> rfl
  | cons value chunks ih =>
      rw [readBody, read]
      obtain ⟨records, result⟩ := feed s value
      cases result with
      | error e => rfl
      | ok s' =>
          dsimp only
          rw [ih s']

theorem readBody_failed (cause : H2.Cause) (s : Unframer) (chunks : List Bytes) :
    (readBody (some cause) s chunks).2 ≠ none := by
  induction chunks generalizing s with
  | nil =>
      rw [readBody]
      rintro ⟨⟩
  | cons value chunks ih =>
      rw [readBody]
      split
      · rintro ⟨⟩
      · rename_i records s' fed
        exact ih s'

/-- The records come to an end exactly when the body is closed and made of them. -/
theorem readBody_eq {failure : Option H2.Cause} {chunks records : List Bytes} :
    readBody failure .start chunks = (records, none) ↔
      failure = none ∧ Records chunks.flatten records := by
  cases failure with
  | some cause =>
      constructor
      · intro ended
        exact absurd (congrArg Prod.snd ended) (readBody_failed cause .start chunks)
      · rintro ⟨⟨⟩, _⟩
  | none =>
      rw [readBody_closed, read_eq_rest, Unframer.rest_start, records_iff]
      generalize record.parse chunks.flatten = parsed
      obtain ⟨found, ending⟩ := parsed
      cases ending with
      | clean => simp [thrown]
      | truncated => simp [thrown]
      | refused e => simp [thrown]

/-! ## The messages -/

section Calls

variable {M : Type} {codec : Codec M} {r : Response} {items : List M}

theorem decodeAll_eq {records : List Bytes} :
    decodeAll codec records = (items, none) ↔ records.mapM codec.fromBinary = some items := by
  induction records generalizing items with
  | nil => simp [decodeAll]
  | cons bytes records ih =>
      rw [decodeAll, List.mapM_cons]
      cases decoded : codec.fromBinary bytes with
      | none => simp
      | some message =>
          constructor
          · intro all
            obtain ⟨rfl, ended⟩ := Prod.mk.inj all
            rw [ih.1 (Prod.ext rfl ended)]
            rfl
          · intro all
            have all : (records.mapM codec.fromBinary).bind
                (fun later => some (message :: later)) = some items := all
            obtain ⟨later, decoded, same⟩ := Option.bind_eq_some_iff.1 all
            cases same
            rw [ih.2 decoded]

/-- One message is that of one record. -/
theorem record_of_message {records : List Bytes} {message : M}
    (decoded : records.mapM codec.fromBinary = some [message]) :
    ∃ data, records = [data] ∧ codec.fromBinary data = some message := by
  match records with
  | [] => simp at decoded
  | [data] => exact ⟨data, rfl, by simpa [Option.bind_eq_some_iff] using decoded⟩
  | first :: second :: rest => simp [List.mapM_cons, Option.bind_eq_some_iff] at decoded

theorem statusCode_zero : statusCode "0" = some 0 := by decide

theorem validateStatus_eq_ok {headers : Fields} {trailers : Option Fields} :
    validateStatus codec headers trailers = .ok () ↔
      ((trailers.bind fun fields => fields.lookup "grpc-status") <|>
        headers.lookup "grpc-status") = some "0" := by
  unfold validateStatus
  dsimp only
  cases found : (trailers.bind fun fields => fields.lookup "grpc-status") <|>
      headers.lookup "grpc-status" with
  | none => simp
  | some raw =>
      by_cases zero : raw = "0"
      · subst zero
        simp [statusCode_zero]
      · cases code : statusCode raw with
        | none => simp [zero, code]
        | some number => simp [zero, code]

/-- The message iterator ends without an error. -/
theorem messages_eq :
    messages codec r = (items, none) ↔
      r.failure = none ∧
      (∃ records, Records r.chunks.flatten records ∧
        records.mapM codec.fromBinary = some items) ∧
      (r.trailers.getD []).all isField = true ∧
      (r.trailersStatus <|> r.headStatus) = some "0" := by
  constructor
  · intro ended
    unfold messages at ended
    dsimp only at ended
    split at ended
    · cases ended
    · cases ended
    · rename_i found decoded read
      split at ended
      · cases ended
      · rename_i passed
        cases ended
        obtain ⟨taken, accepted, checked⟩ := Fallible.bind_eq_ok.1 passed
        obtain ⟨closed, whole⟩ := readBody_eq.1 (Prod.ext rfl read)
        exact ⟨closed, ⟨_, whole, decodeAll_eq.1 decoded⟩, (newHeaders_eq_ok.1 accepted).1,
          validateStatus_eq_ok.1 checked⟩
  · rintro ⟨closed, ⟨records, whole, decoded⟩, accepted, zero⟩
    have passed : (newHeaders (r.trailers.getD []) >>= fun _ =>
        validateStatus codec r.head.headers r.trailers) = .ok () :=
      Fallible.bind_eq_ok.2 ⟨_, newHeaders_eq_ok.2 ⟨accepted, rfl⟩, validateStatus_eq_ok.2 zero⟩
    unfold messages
    rw [readBody_eq.2 ⟨closed, whole⟩]
    dsimp only
    rw [decodeAll_eq.2 decoded]
    dsimp only
    rw [passed]

/-! ## The calls -/

/-- The end of `start`, behind the checks of the head. -/
theorem answered_eq {header : Fields} :
    (newHeaders r.head.headers >>= fun taken => .ok (taken, messages codec r)) =
        .ok (header, items, none) ↔
      (r.head.headers.all isField = true ∧ r.head.headers = header) ∧
        messages codec r = (items, none) := by
  rw [Fallible.bind_eq_ok, ← newHeaders_eq_ok]
  constructor
  · rintro ⟨taken, accepted, same⟩
    obtain ⟨rfl, ended⟩ := Prod.mk.inj (Except.ok.inj same)
    exact ⟨accepted, ended⟩
  · rintro ⟨accepted, ended⟩
    exact ⟨header, accepted, by rw [ended]⟩

/-- **What `start` lets through.**  The lookup of the status falls back to the head,
whether or not the head ends the stream. -/
theorem start_eq {header : Fields} :
    start codec r = .ok (header, items, none) ↔
      header = r.head.headers ∧ r.WellFormed codec items ∧ r.Approved := by
  have only : validateStatus codec r.head.headers none = .ok () ↔ r.headStatus = some "0" := by
    rw [validateStatus_eq_ok]
    rfl
  constructor
  · intro started
    unfold start at started
    dsimp only at started
    split at started
    · cases started
    · rename_i status
      split at started
      · cases started
      · rename_i content
        rw [Bool.not_eq_true, Bool.not_eq_false', isGrpcContentType_iff] at content
        have assemble : (r.head.headers.all isField = true ∧ r.head.headers = header) ∧
            messages codec r = (items, none) →
            header = r.head.headers ∧ r.WellFormed codec items ∧
              (r.trailersStatus <|> r.headStatus) = some "0" := by
          rintro ⟨⟨accepted, rfl⟩, ended⟩
          obtain ⟨closed, records, fields, zero⟩ := messages_eq.1 ended
          exact ⟨rfl, ⟨not_not.1 status, content, ⟨accepted, fields⟩, closed, records⟩, zero⟩
        split at started
        · obtain ⟨_, checked, started⟩ := Fallible.bind_eq_ok.1 started
          obtain ⟨same, wellFormed, zero⟩ := assemble (answered_eq.1 started)
          exact ⟨same, wellFormed, zero, fun _ _ => only.1 checked⟩
        · rename_i more
          obtain ⟨same, wellFormed, zero⟩ := assemble (answered_eq.1 started)
          refine ⟨same, wellFormed, zero, fun ends has => ?_⟩
          exact absurd (Bool.and_eq_true_iff.2 ⟨ends, has⟩) more
  · rintro ⟨rfl, wellFormed, zero, alone⟩
    have content : isGrpcContentType ((r.head.headers.lookup "content-type").getD "") = true :=
      (isGrpcContentType_iff _).2 wellFormed.contentType
    have answered := answered_eq.2 ⟨⟨wellFormed.fields.1, rfl⟩,
      messages_eq.2 ⟨wellFormed.closed, wellFormed.records, wellFormed.fields.2, zero⟩⟩
    unfold start
    dsimp only
    rw [if_neg (not_not.2 wellFormed.status), if_neg (by rw [content]; decide)]
    split
    · rename_i trailersOnly
      obtain ⟨ends, has⟩ := Bool.and_eq_true_iff.1 trailersOnly
      rw [only.2 (alone ends has), Fallible.bind_ok]
      exact answered
    · exact answered

theorem collectMessage_eq {error : Option CallError} {message : M} :
    collectMessage none 0 items error = .ok (some message, 1) ↔
      items = [message] ∧ error = none := by
  match items, error with
  | [], none => simp [collectMessage]
  | [], some e => simp [collectMessage]
  | [item], none => simp [collectMessage]
  | [item], some e => simp [collectMessage]
  | first :: second :: rest, error => simp [collectMessage]

/-- `unary` returns the only message of a stream that ends without an error. -/
theorem unary_eq {message : M} :
    unary codec r = .ok message ↔ ∃ header, start codec r = .ok (header, [message], none) := by
  constructor
  · intro returned
    unfold unary at returned
    obtain ⟨⟨header, items, error⟩, started, returned⟩ := Fallible.bind_eq_ok.1 returned
    obtain ⟨⟨found, count⟩, collected, returned⟩ := Fallible.bind_eq_ok.1 returned
    cases found with
    | none => cases returned
    | some found =>
        dsimp only at returned
        split at returned
        · cases returned
        · rename_i one
          cases returned
          rw [not_not.1 one] at collected
          obtain ⟨rfl, rfl⟩ := collectMessage_eq.1 collected
          exact ⟨header, started⟩
  · rintro ⟨header, started⟩
    unfold unary
    rw [started, Fallible.bind_ok]
    dsimp only
    rw [collectMessage_eq.2 ⟨rfl, rfl⟩]
    rfl

/-! ## The ways past the checks -/

theorem streamEnds_iff :
    StreamEnds codec r ↔ ∃ items, r.WellFormed codec items ∧ r.Approved := by
  constructor
  · rintro ⟨header, items, started⟩
    exact ⟨items, (start_eq.1 started).2⟩
  · rintro ⟨items, passed⟩
    exact ⟨_, items, start_eq.2 ⟨rfl, passed⟩⟩

/-- A status that the lookup is content with is in its place, or in one of two others. -/
theorem Response.Approved.place (approved : r.Approved) :
    (r.lastStatus = some "0" ∨ r.head.endStream = true ∧ r.headStatus = some "0") ∨
      r.StatusInHead ∨ r.StatusAside := by
  obtain ⟨found, alone⟩ := approved
  by_cases last : r.lastStatus = some "0"
  · exact .inl (.inl last)
  · cases ends : r.head.endStream with
    | false =>
        cases kept : r.trailersStatus with
        | none =>
            rw [kept] at found
            exact .inr (.inl ⟨ends, found, kept, last⟩)
        | some raw =>
            rw [kept] at found
            exact .inr (.inr ⟨kept.trans found, last, fun is => by rw [ends] at is; cases is⟩)
    | true =>
        cases inHead : r.headStatus with
        | some raw =>
            have zero := alone ends (by rw [inHead]; rfl)
            exact .inl (.inr ⟨rfl, by rw [← zero, inHead]⟩)
        | none =>
            rw [inHead] at found
            cases kept : r.trailersStatus with
            | none =>
                rw [kept] at found
                cases found
            | some raw =>
                rw [kept] at found
                exact .inr (.inr ⟨kept.trans found, last, fun _ => inHead⟩)

theorem Response.StatusInHead.approved (inHead : r.StatusInHead) : r.Approved := by
  obtain ⟨open_, zero, bare, -⟩ := inHead
  exact ⟨by rw [bare, zero]; rfl, fun _ _ => zero⟩

theorem Response.StatusAside.approved (aside : r.StatusAside) : r.Approved := by
  obtain ⟨zero, -, alone⟩ := aside
  refine ⟨by rw [zero]; rfl, fun ends has => ?_⟩
  rw [alone ends] at has
  cases has

/-- A response whose status is in the wrong place is not complete. -/
theorem Response.StatusInHead.not_complete (inHead : r.StatusInHead) : ¬ r.Complete := by
  obtain ⟨open_, -, -, last⟩ := inHead
  rintro ⟨-, -, -, -, zero | ⟨ends, -⟩⟩
  · exact last zero
  · rw [open_] at ends
    cases ends

theorem Response.StatusAside.not_complete (aside : r.StatusAside) : ¬ r.Complete := by
  obtain ⟨-, last, alone⟩ := aside
  rintro ⟨-, -, -, -, zero | ⟨ends, zero⟩⟩
  · exact last zero
  · rw [alone ends] at zero
    cases zero

/-- **A call succeeds only on a complete response**, unless everything about the response
is in order but the place of its status, or the text of its HTTP status. -/
theorem succeedsOnlyComplete_iff (codec : Codec M) (r : Response) :
    SucceedsOnlyComplete codec r ↔
      ¬ ((r.StatusInHead ∨ r.StatusAside ∨ r.LooseStatus) ∧
        ∃ items, r.WellFormed codec items) := by
  constructor
  · rintro ⟨streaming, -⟩ ⟨astray, items, wellFormed⟩
    have complete (approved : r.Approved) : r.Complete :=
      streaming (streamEnds_iff.2 ⟨items, wellFormed, approved⟩)
    obtain inHead | aside | ⟨loose, approved⟩ := astray
    · exact inHead.not_complete (complete inHead.approved)
    · exact aside.not_complete (complete aside.approved)
    · exact loose (complete approved).status
  · intro inOrder
    have streaming : StreamEnds codec r → r.Complete := by
      intro ends
      obtain ⟨items, wellFormed, approved⟩ := streamEnds_iff.1 ends
      obtain ⟨records, whole, -⟩ := wellFormed.records
      have status : r.statusFields = ["200"] := by
        by_contra loose
        exact inOrder ⟨.inr (.inr ⟨loose, approved⟩), items, wellFormed⟩
      obtain ok | inHead | aside := approved.place
      · exact ⟨status, wellFormed.contentType, wellFormed.closed, ⟨records, whole⟩, ok⟩
      · exact absurd ⟨.inl inHead, items, wellFormed⟩ inOrder
      · exact absurd ⟨.inr (.inl aside), items, wellFormed⟩ inOrder
    have single : ∀ message, unary codec r = .ok message → StreamEnds codec r := by
      intro message returned
      obtain ⟨header, started⟩ := unary_eq.1 returned
      exact ⟨header, _, started⟩
    refine ⟨streaming, fun message returned => ⟨streaming (single message returned), ?_⟩, ?_⟩
    · obtain ⟨header, started⟩ := unary_eq.1 returned
      obtain ⟨records, whole, decoded⟩ := (start_eq.1 started).2.1.records
      obtain ⟨data, rfl, same⟩ := record_of_message decoded
      exact ⟨data, whole, same⟩
    · intro open_ bare
      have never : ¬ StreamEnds codec r := by
        intro ends
        obtain last | ⟨ends, -⟩ := (streaming ends).ok
        · rw [Response.lastStatus, bare] at last
          cases last
        · rw [open_] at ends
          cases ends
      exact ⟨never, fun message returned => never (single message returned)⟩

end Calls

/-- A message is its bytes. -/
def rawCodec : Codec Bytes := ⟨some, some⟩

/-- A head that carries the status and leaves the stream open, a record, and END_STREAM on
its DATA frame: no trailers. -/
def cutBeforeTrailers : Response where
  parts :=
    [.block [⟨":status", "200"⟩, ⟨"content-type", "application/grpc"⟩, ⟨"grpc-status", "0"⟩] false,
      .data [0, 0, 0, 0, 2, 8, 1] true]
  head :=
    { endStream := false
      status := some 200
      headers := [("content-type", "application/grpc"), ("grpc-status", "0")]
      raw := [⟨":status", "200"⟩, ⟨"content-type", "application/grpc"⟩, ⟨"grpc-status", "0"⟩] }
  resolved := by decide +kernel
  chunks := [[0, 0, 0, 0, 2, 8, 1]]
  taken := by decide +kernel
  ended _ := by decide +kernel

/-- The same with the status in a block of its own between the head and the record. -/
def statusBeforeBody : Response where
  parts :=
    [.block [⟨":status", "200"⟩, ⟨"content-type", "application/grpc"⟩] false,
      .block [⟨"grpc-status", "0"⟩] false, .data [0, 0, 0, 0, 2, 8, 1] true]
  head :=
    { endStream := false
      status := some 200
      headers := [("content-type", "application/grpc")]
      raw := [⟨":status", "200"⟩, ⟨"content-type", "application/grpc"⟩] }
  resolved := by decide +kernel
  chunks := [[0, 0, 0, 0, 2, 8, 1]]
  taken := by decide +kernel
  ended _ := by decide +kernel

/-- Trailers in order behind a head whose `:status` goes on behind the number. -/
def statusWithText : Response where
  parts :=
    [.block [⟨":status", "200 OK"⟩, ⟨"content-type", "application/grpc"⟩] false,
      .data [0, 0, 0, 0, 2, 8, 1] false, .block [⟨"grpc-status", "0"⟩] true]
  head :=
    { endStream := false
      status := some 200
      headers := [("content-type", "application/grpc")]
      raw := [⟨":status", "200 OK"⟩, ⟨"content-type", "application/grpc"⟩] }
  resolved := by decide +kernel
  chunks := [[0, 0, 0, 0, 2, 8, 1]]
  taken := by decide +kernel
  ended _ := by decide +kernel

/-- All three are taken for a success, and none of them is one. -/
theorem astray_succeed :
    (unary rawCodec cutBeforeTrailers = .ok [8, 1] ∧
      ¬ SucceedsOnlyComplete rawCodec cutBeforeTrailers) ∧
    (unary rawCodec statusBeforeBody = .ok [8, 1] ∧
      ¬ SucceedsOnlyComplete rawCodec statusBeforeBody) ∧
    unary rawCodec statusWithText = .ok [8, 1] ∧
      ¬ SucceedsOnlyComplete rawCodec statusWithText := by
  have content : GrpcContentType "application/grpc" := (isGrpcContentType_iff _).1 (by decide)
  have record : Records [0, 0, 0, 0, 2, 8, 1] [[8, 1]] := ⟨_, rfl, rfl⟩
  have cut : cutBeforeTrailers.WellFormed rawCodec [[8, 1]] :=
    ⟨rfl, content, ⟨by decide, by decide +kernel⟩, rfl, _, record, rfl⟩
  have before : statusBeforeBody.WellFormed rawCodec [[8, 1]] :=
    ⟨rfl, content, ⟨by decide, by decide +kernel⟩, rfl, _, record, rfl⟩
  have loose : statusWithText.WellFormed rawCodec [[8, 1]] :=
    ⟨rfl, content, ⟨by decide, by decide +kernel⟩, rfl, _, record, rfl⟩
  have cutReturns : unary rawCodec cutBeforeTrailers = .ok [8, 1] :=
    unary_eq.2 ⟨_, start_eq.2 ⟨rfl, cut, by decide +kernel, by decide⟩⟩
  have beforeReturns : unary rawCodec statusBeforeBody = .ok [8, 1] :=
    unary_eq.2 ⟨_, start_eq.2 ⟨rfl, before, by decide +kernel, by decide⟩⟩
  have looseReturns : unary rawCodec statusWithText = .ok [8, 1] :=
    unary_eq.2 ⟨_, start_eq.2 ⟨rfl, loose, by decide +kernel, by decide⟩⟩
  refine ⟨⟨cutReturns, ?_⟩, ⟨beforeReturns, ?_⟩, looseReturns, ?_⟩
  · rintro ⟨-, -, never⟩
    exact (never rfl (by decide +kernel)).2 _ cutReturns
  · rintro ⟨-, -, never⟩
    exact (never rfl (by decide +kernel)).2 _ beforeReturns
  · rintro ⟨-, single, -⟩
    exact absurd (single _ looseReturns).1.status (by decide)

end GrpcBridge.Rpc
