/-
# Tunnel.Malformed -- where the relay stops on an arbitrary byte string

`Breach` lists what the tunnel profile forbids of the next client frame, and with
each rule the bytes that show it broken: the two header bytes for the reserved
bits and the mask, the length field as well for the other rules about a head, and
the whole frame for the payload of a close.  `Leading` is the frames that may come
before it.

Every byte string is legal frames and then one of four things, and one turn of
`relay` tells which (`turn_outcome`): another legal frame, a breach, a legal close,
or the beginning of a frame whose end is missing.  A turn can also fail on a write,
which no byte string can rule out; `relay_malformed` therefore holds for all
behaviours of both connections, and says when a write can fail.
-/
import GrpcBridge.Tunnel.Transparency

namespace GrpcBridge.Tunnel

set_option autoImplicit false

open GrpcBridge.Theory
open GrpcBridge.Theory.WebSocket (MaskingKey mask Announces Overlong)

/-! ## What the profile forbids -/

/-- Rules about a head, whose length field announces `n`. -/
inductive HeadBreach (inside : Bool) (a b : UInt8) (n : Nat) : Violation → Prop
  | overlong : Overlong b n → HeadBreach inside a b n .noncanonicalLength
  | limit : 1048576 < n → HeadBreach inside a b n .frameLimit
  | fragmentedControl : 8 ≤ a &&& 15 → a &&& 0x80 = 0 → HeadBreach inside a b n .invalidControl
  | longControl : 8 ≤ a &&& 15 → 125 < n → HeadBreach inside a b n .invalidControl
  | continuation : a &&& 15 = 0 → inside = false → HeadBreach inside a b n .unexpectedContinuation
  | interleaved : a &&& 15 = 2 → inside = true → HeadBreach inside a b n .interleavedMessage
  | opcode : a &&& 15 ∉ [0, 2, 8, 9, 10] → HeadBreach inside a b n .unsupportedOpcode

/-- Status codes that may appear on the wire. -/
def Listed (code : Nat) : Prop :=
  code ∈ [1000, 1001, 1002, 1003, 1007, 1008, 1009, 1010, 1011, 1012, 1013, 1014] ∨
    (3000 ≤ code ∧ code ≤ 4999)

inductive CloseBreach : Bytes → Violation → Prop
  | single {b : UInt8} : CloseBreach [b] .closePayload
  | code {code : Nat} {reason : Bytes} : code < 65536 → ¬ Listed code →
      CloseBreach (BigEndian.bytes 2 code ++ reason) .closeCode
  | reason {code : Nat} {reason : Bytes} : code < 65536 → utf8Valid reason = false →
      CloseBreach (BigEndian.bytes 2 code ++ reason) .closeCode

/-- The next frame breaks a rule, and the bytes that show it are there. -/
inductive Breach (inside : Bool) : Bytes → Violation → Prop
  | bits {a b : UInt8} {more : Bytes} : a &&& 0x70 ≠ 0 ∨ b &&& 0x80 = 0 →
      Breach inside (a :: b :: more) .reservedOrUnmasked
  | head {a b : UInt8} {field more : Bytes} {n : Nat} {v : Violation} : Announces b field n →
      HeadBreach inside a b n v → Breach inside (a :: b :: (field ++ more)) v
  | close {key : MaskingKey} {p more : Bytes} {v : Violation} : p.length ≤ 125 →
      CloseBreach p v → Breach inside ((ClientFrame.close key p).wire.encode ++ more) v

/-- A legal frame other than a close, and whether a message is open after it. -/
inductive Passes (inside : Bool) : ClientFrame → Bool → Prop
  | data {fin : Bool} {key : MaskingKey} {p : Bytes} : p.length ≤ maxFrame →
      Passes inside (.data inside fin key p) (!fin)
  | ping {key : MaskingKey} {p : Bytes} : p.length ≤ 125 → Passes inside (.ping key p) inside
  | pong {key : MaskingKey} {p : Bytes} : p.length ≤ 125 → Passes inside (.pong key p) inside

inductive Leading : Bool → List ClientFrame → Bool → Prop
  | nil {inside : Bool} : Leading inside [] inside
  | cons {inside between after : Bool} {f : ClientFrame} {frames : List ClientFrame} :
      Passes inside f between → Leading between frames after → Leading inside (f :: frames) after

theorem Breach.append {inside : Bool} {bytes : Bytes} {v : Violation} (breach : Breach inside bytes v)
    (more : Bytes) : Breach inside (bytes ++ more) v := by
  cases breach with
  | bits wrong => exact .bits wrong
  | head announced wrong =>
      rw [List.cons_append, List.cons_append, List.append_assoc]
      exact .head announced wrong
  | close short wrong =>
      rw [List.append_assoc]
      exact .close short wrong

/-! ## Reading a head -/

/-- Errors that only say that the bytes have come to an end. -/
def RelayError.Ended (e : RelayError) : Prop := e = .eof ∨ e = .unexpectedEof ∨ e = .read

theorem RelayError.Ended.not_write {e : RelayError} (ended : e.Ended) (error : NetError) :
    e ≠ .write error := by
  rcases ended with rfl | rfl | rfl
  · exact RelayError.noConfusion
  · exact RelayError.noConfusion
  · exact RelayError.noConfusion

theorem RelayError.Ended.not_violation {e : RelayError} (ended : e.Ended) (v : Violation) :
    e ≠ .violation v := by
  rcases ended with rfl | rfl | rfl
  · exact RelayError.noConfusion
  · exact RelayError.noConfusion
  · exact RelayError.noConfusion

theorem Source.ended_ended (s : Source) (got : Bytes) : (s.ended got).Ended := by
  rw [ended]
  split
  · exact .inr (.inr rfl)
  · split
    · exact .inl rfl
    · exact .inr (.inl rfl)

/-- `io.ReadFull` gets all it wants or comes to the end. -/
theorem Source.readFull_cases (s : Source) (n : Nat) :
    (∃ p rest, s.bytes = p ++ rest ∧ p.length = n ∧ s.readFull n = .ok (p, ⟨rest, s.broken⟩)) ∨
      (s.bytes.length < n ∧ ∃ e, e.Ended ∧ s.readFull n = .error e) := by
  by_cases enough : n ≤ s.bytes.length
  · refine .inl ⟨s.bytes.take n, s.bytes.drop n, (List.take_append_drop n _).symm,
      List.length_take_of_le enough, ?_⟩
    rw [readFull, if_pos enough]
  · refine .inr ⟨Nat.not_le.1 enough, _, s.ended_ended s.bytes, ?_⟩
    rw [readFull, if_neg enough]

/-- A whole length field is refused exactly when a shorter form would do. -/
theorem readLength_announced {b : UInt8} {field : Bytes} {n : Nat} (announced : Announces b field n)
    (rest : Bytes) (broken : Bool) :
    readLength ⟨field ++ rest, broken⟩ b =
      if Overlong b n then .error (.violation .noncanonicalLength) else .ok (n, ⟨rest, broken⟩) := by
  cases announced with
  | short low =>
      have shortest : ¬ Overlong b (b &&& 127).toNat := by
        rintro (⟨kind, _⟩ | ⟨kind, _⟩)
        · omega
        · omega
      rw [readLength, if_neg (by omega), if_neg (by omega), if_neg shortest, List.nil_append]
  | medium kind width =>
      rw [readLength, if_pos kind, Source.readFull_append width, Fallible.bind_ok, canonical]
      by_cases small : BigEndian.value field < 126
      · rw [if_pos small, if_pos (.inl ⟨kind, small⟩)]
      · rw [if_neg small, if_neg]
        rintro (⟨_, less⟩ | ⟨other, _⟩)
        · exact small less
        · omega
  | long kind width =>
      rw [readLength, if_neg (by omega), if_pos kind, Source.readFull_append width, Fallible.bind_ok,
        canonical]
      by_cases small : BigEndian.value field < 65536
      · rw [if_pos small, if_pos (.inr ⟨kind, small⟩)]
      · rw [if_neg small, if_neg]
        rintro (⟨other, _⟩ | ⟨_, less⟩)
        · omega
        · exact small less

/-- The length field is there, or the bytes end inside it. -/
theorem readLength_cases (s : Source) (b : UInt8) :
    (∃ field n rest, s.bytes = field ++ rest ∧ Announces b field n) ∨
      ∃ e, e.Ended ∧ readLength s b = .error e := by
  by_cases medium : (b &&& 127).toNat = 126
  · rcases s.readFull_cases 2 with ⟨field, rest, parts, width, _⟩ | ⟨_, e, ended, stopped⟩
    · exact .inl ⟨field, _, rest, parts, .medium medium width⟩
    · refine .inr ⟨e, ended, ?_⟩
      rw [readLength, if_pos medium, stopped, Fallible.bind_error]
  · by_cases long : (b &&& 127).toNat = 127
    · rcases s.readFull_cases 8 with ⟨field, rest, parts, width, _⟩ | ⟨_, e, ended, stopped⟩
      · exact .inl ⟨field, _, rest, parts, .long long width⟩
      · refine .inr ⟨e, ended, ?_⟩
        rw [readLength, if_neg medium, if_pos long, stopped, Fallible.bind_error]
    · have seven : ∀ b : UInt8, (b &&& 127).toNat < 128 := WebSocket.forall_byte (by decide +kernel)
      have low := seven b
      exact .inl ⟨[], _, s.bytes, rfl, .short (by omega)⟩

/-- A head that `relay` goes on from. -/
structure Opening (bytes : Bytes) (a b : UInt8) (field : Bytes) (n : Nat) (rest : Bytes) : Prop where
  wired : bytes = a :: b :: (field ++ rest)
  reserved : a &&& 0x70 = 0
  masked : b &&& 0x80 ≠ 0
  announced : Announces b field n
  shortest : ¬ Overlong b n
  limit : n ≤ maxFrame
  control : 8 ≤ a &&& 15 → a &&& 0x80 ≠ 0 ∧ n ≤ 125

/-- What `readHead` can return. -/
inductive HeadRead (s : Source) : Except RelayError (Head × Source) → Prop
  | ended {e : RelayError} : e.Ended → WebSocket.decode s.bytes = none → HeadRead s (.error e)
  | refused {v : Violation} : (∀ inside, Breach inside s.bytes v) → HeadRead s (.error (.violation v))
  | read {a b : UInt8} {field : Bytes} {n : Nat} {rest : Bytes} : Opening s.bytes a b field n rest →
      HeadRead s (.ok (⟨a &&& 0x80 != 0, a &&& 15, n⟩, ⟨rest, s.broken⟩))

theorem decode_eq_none_of_readLength {a b : UInt8} {rest : Bytes} {broken : Bool} {e : RelayError}
    (stopped : readLength ⟨rest, broken⟩ b = .error e) : WebSocket.decode (a :: b :: rest) = none := by
  have unread : WebSocket.decodeLength b rest = none := by
    cases decoded : WebSocket.decodeLength b rest with
    | none => rfl
    | some parts =>
        rw [readLength_of_decode broken decoded] at stopped
        cases stopped
  rw [WebSocket.decode, unread]
  split <;> rfl

theorem readHead_cons (a b : UInt8) (tail : Bytes) (broken : Bool) :
    readHead ⟨a :: b :: tail, broken⟩ = (do
      admitBits a b
      let (length, reader) ← readLength ⟨tail, broken⟩ b
      admitLength ⟨a &&& 0x80 != 0, a &&& 15, length⟩
      return (⟨a &&& 0x80 != 0, a &&& 15, length⟩, reader)) := by
  rw [readHead, show a :: b :: tail = [a, b] ++ tail from rfl,
    Source.readFull_append (p := [a, b]) (n := 2) rfl]
  rfl

/-- The limits on a length, and which of them is broken. -/
theorem admitLength_cases (fin : Bool) (op : UInt8) (n : Nat) :
    (admitLength ⟨fin, op, n⟩ = .ok () ∧ n ≤ maxFrame ∧ (8 ≤ op → fin = true ∧ n ≤ 125)) ∨
      ∃ v, admitLength ⟨fin, op, n⟩ = .error (.violation v) ∧
        ((v = .frameLimit ∧ maxFrame < n) ∨
          (v = .invalidControl ∧ 8 ≤ op ∧ (fin = false ∨ 125 < n))) := by
  rw [admitLength]
  by_cases limit : n > maxFrame
  · rw [if_pos limit]
    exact .inr ⟨_, rfl, .inl ⟨rfl, limit⟩⟩
  · rw [if_neg limit]
    by_cases wrong : 8 ≤ op ∧ (fin = false ∨ 125 < n)
    · rw [if_pos (by simpa [Head.control] using wrong)]
      exact .inr ⟨_, rfl, .inr ⟨rfl, wrong⟩⟩
    · rw [if_neg (by simpa [Head.control] using wrong)]
      refine .inl ⟨rfl, Nat.not_lt.1 limit, fun high => ?_⟩
      obtain ⟨finished, short⟩ := not_or.1 (not_and.1 wrong high)
      exact ⟨Bool.of_not_eq_false finished, Nat.not_lt.1 short⟩

/-- Behind a whole length field, a head is refused for a rule that it breaks or opens a frame. -/
theorem readHead_announced (a : UInt8) {b : UInt8} {field : Bytes} {n : Nat}
    (announced : Announces b field n) (rest : Bytes) (broken : Bool) :
    (∃ v, readHead ⟨a :: b :: (field ++ rest), broken⟩ = .error (.violation v) ∧
      ∀ inside, Breach inside (a :: b :: (field ++ rest)) v) ∨
    (readHead ⟨a :: b :: (field ++ rest), broken⟩ =
        .ok (⟨a &&& 0x80 != 0, a &&& 15, n⟩, ⟨rest, broken⟩) ∧
      Opening (a :: b :: (field ++ rest)) a b field n rest) := by
  rw [readHead_cons, admitBits]
  by_cases wrong : a &&& 0x70 ≠ 0 ∨ b &&& 0x80 = 0
  · rw [if_pos wrong]
    exact .inl ⟨_, rfl, fun _ => .bits wrong⟩
  · rw [if_neg wrong, Fallible.bind_ok, readLength_announced announced]
    obtain ⟨reserved, masked⟩ := not_or.1 wrong
    by_cases overlong : Overlong b n
    · rw [if_pos overlong]
      exact .inl ⟨_, rfl, fun _ => .head announced (.overlong overlong)⟩
    · rw [if_neg overlong, Fallible.bind_ok]
      dsimp only
      rcases admitLength_cases (a &&& 0x80 != 0) (a &&& 15) n with
        ⟨admitted, limit, control⟩ | ⟨v, stopped, refused⟩
      · rw [admitted]
        refine .inr ⟨rfl, rfl, of_not_not reserved, masked, announced, overlong, limit, ?_⟩
        intro high
        exact ⟨bne_iff_ne.1 (control high).1, (control high).2⟩
      · rw [stopped]
        refine .inl ⟨v, rfl, fun inside => .head announced ?_⟩
        rcases refused with ⟨rfl, long⟩ | ⟨rfl, high, unfinished | long⟩
        · exact .limit long
        · exact .fragmentedControl high (by simpa using unfinished)
        · exact .longControl high long

theorem readHead_read (s : Source) : HeadRead s (readHead s) := by
  obtain ⟨bytes, broken⟩ := s
  match bytes with
  | [] => exact .ended (Source.ended_ended _ _) rfl
  | [_] => exact .ended (Source.ended_ended _ _) rfl
  | a :: b :: tail =>
      rcases readLength_cases ⟨tail, broken⟩ b with
        ⟨field, n, rest, rfl, announced⟩ | ⟨e, ended, stopped⟩
      · rcases readHead_announced a announced rest broken with ⟨v, refused, breach⟩ | ⟨read, opening⟩
        · rw [refused]
          exact .refused breach
        · rw [read]
          exact .read opening
      · rw [readHead_cons, admitBits]
        by_cases wrong : a &&& 0x70 ≠ 0 ∨ b &&& 0x80 = 0
        · rw [if_pos wrong]
          exact .refused fun _ => .bits wrong
        · rw [if_neg wrong, Fallible.bind_ok, stopped]
          exact .ended ended (decode_eq_none_of_readLength stopped)

/-- The switch on the opcode refuses only what a rule forbids. -/
theorem fragment_cases (inside : Bool) (a b : UInt8) (n : Nat) :
    (∃ v, fragment inside ⟨a &&& 0x80 != 0, a &&& 15, n⟩ = .error (.violation v) ∧
      HeadBreach inside a b n v) ∨
    (∃ after, fragment inside ⟨a &&& 0x80 != 0, a &&& 15, n⟩ = .ok after ∧
      ((a &&& 15 = (if inside then 0 else 2) ∧ after = !(a &&& 0x80 != 0)) ∨
        (a &&& 15 ∈ [8, 9, 10] ∧ after = inside))) := by
  by_cases continues : a &&& 15 = 0
  · rw [fragment, if_pos continues]
    cases inside with
    | false => exact .inl ⟨_, rfl, .continuation continues rfl⟩
    | true => exact .inr ⟨_, rfl, .inl ⟨continues, by cases a &&& 0x80 != 0 <;> rfl⟩⟩
  · rw [fragment, if_neg continues]
    by_cases begins : a &&& 15 = 2
    · rw [if_pos begins]
      cases inside with
      | false => exact .inr ⟨_, rfl, .inl ⟨begins, rfl⟩⟩
      | true => exact .inl ⟨_, rfl, .interleaved begins rfl⟩
    · rw [if_neg begins]
      by_cases control : a &&& 15 = 8 ∨ a &&& 15 = 9 ∨ a &&& 15 = 10
      · rw [if_pos control]
        exact .inr ⟨_, rfl, .inr ⟨by simpa using control, rfl⟩⟩
      · rw [if_neg control]
        refine .inl ⟨_, rfl, .opcode ?_⟩
        simpa [continues, begins] using control

namespace Opening

variable {bytes field rest : Bytes} {a b : UInt8} {n : Nat} (opening : Opening bytes a b field n rest)

include opening

/-- The key and the payload that follow a head make it a frame. -/
theorem encode {key : MaskingKey} {p more : Bytes}
    (body : rest = key.bytes ++ (mask key.bytes 0 p ++ more)) (length : p.length = n) :
    bytes = WebSocket.Frame.encode ⟨a &&& 0x80 != 0, a &&& 15, some key, p⟩ ++ more := by
  rw [WebSocket.encode_of_parts opening.reserved opening.masked opening.announced opening.shortest key p
    length, opening.wired, body]
  simp only [List.cons_append, List.append_assoc]

/-- Nothing decodes before the key is there. -/
theorem decode_short (short : rest.length < 4) : WebSocket.decode bytes = none := by
  rw [opening.wired]
  exact WebSocket.decode_of_key_short opening.masked opening.announced opening.shortest short

/-- Nothing decodes before the payload is there. -/
theorem decode_unpaid {key : MaskingKey} {body : Bytes} (keyed : rest = key.bytes ++ body)
    (short : body.length < n) : WebSocket.decode bytes = none := by
  rw [opening.wired, keyed, WebSocket.decode_of_parts opening.reserved opening.masked
    opening.announced opening.shortest, WebSocket.split, if_neg (by omega), Option.map_none]

/-- A frame that begins with these bytes has their opcode, and a payload that they begin. -/
theorem payload_of_begun {key : MaskingKey} {q left missing : Bytes} {f : WebSocket.Frame}
    (body : rest = key.bytes ++ (mask key.bytes 0 q ++ left)) (fits : f.Fits)
    (begun : f.encode = bytes ++ missing) : f.opcode = a &&& 15 ∧ q <+: f.payload := by
  have decoded := WebSocket.decode_encode f fits []
  have shape : bytes ++ missing =
      a :: b :: (field ++ (key.bytes ++ (mask key.bytes 0 q ++ (left ++ missing)))) := by
    rw [opening.wired, body]
    simp only [List.cons_append, List.append_assoc]
  rw [List.append_nil, begun, shape, WebSocket.decode_of_parts opening.reserved opening.masked
    opening.announced opening.shortest] at decoded
  obtain ⟨⟨p, ended⟩, parts, made⟩ := Option.map_eq_some_iff.1 decoded
  obtain ⟨same, nothing⟩ := Prod.mk.inj made
  have all : p = mask key.bytes 0 q ++ (left ++ missing) := by
    have joined := WebSocket.split_parts parts
    rw [show ended = [] from nothing, List.append_nil] at joined
    exact joined.symm
  rw [← same]
  refine ⟨rfl, mask key.bytes (0 + q.length) (left ++ missing), ?_⟩
  show _ = mask key.bytes 0 p
  rw [all, WebSocket.mask_append key.bytes 0 (mask key.bytes 0 q), WebSocket.mask_mask,
    WebSocket.mask_length]

/-- A head that also passes the switch on the opcode breaks no rule. -/
theorem not_headBreach {inside after : Bool} {v : Violation}
    (kind : (a &&& 15 = (if inside then 0 else 2) ∧ after = !(a &&& 0x80 != 0)) ∨
      (a &&& 15 ∈ [8, 9, 10] ∧ after = inside)) : ¬ HeadBreach inside a b n v := by
  intro breach
  cases breach with
  | overlong wrong => exact opening.shortest wrong
  | limit long => exact absurd opening.limit (Nat.not_le.2 long)
  | fragmentedControl high unfinished => exact (opening.control high).1 unfinished
  | longControl high long => exact absurd (opening.control high).2 (Nat.not_le.2 long)
  | continuation continues outside =>
      rw [continues, outside] at kind
      rcases kind with ⟨begins, _⟩ | ⟨control, _⟩
      · exact absurd begins (by decide)
      · exact absurd control (by decide)
  | interleaved begins inside =>
      rw [begins, inside] at kind
      rcases kind with ⟨continues, _⟩ | ⟨control, _⟩
      · exact absurd continues (by decide)
      · exact absurd control (by decide)
  | opcode unknown =>
      rcases kind with ⟨data, _⟩ | ⟨control, _⟩
      · rw [data] at unknown
        cases inside with
        | false => exact unknown (by decide)
        | true => exact unknown (by decide)
      · exact unknown (List.mem_cons_of_mem _ (List.mem_cons_of_mem _ control))

end Opening

/-! ## The payload of a close -/

theorem validClose_iff (code : Nat) : validClose code = true ↔ Listed code := by
  constructor
  · intro valid
    simp only [validClose, Bool.or_eq_true, Bool.and_eq_true, decide_eq_true_eq, ge_iff_le] at valid
    simp only [Listed, List.mem_cons, List.not_mem_nil, or_false]
    omega
  · exact validClose_of_listed

theorem admitClose_cases (p : Bytes) :
    (admitClose p = .ok () ∧ ClosePayload p) ∨
      ∃ v, admitClose p = .error (.violation v) ∧ CloseBreach p v := by
  match p with
  | [] => exact .inl ⟨rfl, .inl rfl⟩
  | [_] => exact .inr ⟨_, rfl, .single⟩
  | a :: b :: reason =>
      have field : [a, b] = BigEndian.bytes 2 (BigEndian.value [a, b]) :=
        (BigEndian.bytes_value [a, b]).symm
      have shape : a :: b :: reason = BigEndian.bytes 2 (BigEndian.value [a, b]) ++ reason := by
        rw [← field]
        rfl
      have fits : BigEndian.value [a, b] < 65536 :=
        Nat.lt_of_lt_of_eq (BigEndian.value_lt [a, b]) (show 256 ^ 2 = 65536 by decide)
      rw [admitClose, if_neg (by simp)]
      by_cases wrong : 2 ≤ (a :: b :: reason).length ∧
          (!validClose (BigEndian.value ((a :: b :: reason).take 2)) ||
            !utf8Valid ((a :: b :: reason).drop 2)) = true
      · rw [if_pos wrong]
        refine .inr ⟨_, rfl, ?_⟩
        rw [shape]
        rcases Bool.or_eq_true_iff.1 wrong.2 with unlisted | garbled
        · refine .code fits fun listed => ?_
          rw [show (a :: b :: reason).take 2 = [a, b] from rfl, (validClose_iff _).2 listed] at unlisted
          cases unlisted
        · exact .reason fits (by simpa using garbled)
      · rw [if_neg wrong]
        have right := not_and.1 wrong (by simp)
        rw [Bool.or_eq_true_iff, not_or, Bool.not_eq_true', Bool.not_eq_true'] at right
        obtain ⟨valid, text⟩ := right
        exact .inl ⟨rfl, .inr ⟨_, reason, shape, fits,
          (validClose_iff _).1 (Bool.of_not_eq_false valid), Bool.of_not_eq_false text⟩⟩

theorem CloseBreach.refused {p : Bytes} {v : Violation} (breach : CloseBreach p v) :
    ¬ ClosePayload p := by
  have same : ∀ {code other : Nat} {reason text : Bytes}, code < 65536 → other < 65536 →
      BigEndian.bytes 2 code ++ reason = BigEndian.bytes 2 other ++ text →
      code = other ∧ reason = text := by
    intro code other reason text fits within shape
    obtain ⟨field, rest⟩ := List.append_inj shape (by simp)
    have value := congrArg BigEndian.value field
    rw [BigEndian.value_bytes_of_lt fits, BigEndian.value_bytes_of_lt within] at value
    exact ⟨value, rest⟩
  cases breach with
  | single =>
      rintro (none | ⟨code, reason, shape, _⟩)
      · cases none
      · have length := congrArg List.length shape
        rw [List.length_append, BigEndian.bytes_length, List.length_singleton] at length
        omega
  | code fits unlisted =>
      rintro (none | ⟨other, text, shape, within, listed, _⟩)
      · cases none
      · rw [(same fits within shape).1] at unlisted
        exact unlisted listed
  | reason fits garbled =>
      rintro (none | ⟨other, text, shape, within, _, valid⟩)
      · cases none
      · rw [(same fits within shape).2, valid] at garbled
        cases garbled

/-! ## The payload loop on any connection -/

namespace Relay

/-- A whole payload, or the end of the bytes inside it, or a failed write. -/
inductive Paid (h : Head) (key : Bytes) (offset : Nat) (r : Relay) : Option RelayError × Relay → Prop
  | whole {q : Bytes} {next : Relay} : r.reader.bytes = mask key offset q ++ next.reader.bytes →
      offset + q.length = h.length → next.buf.length = bufferSize →
      next.fragmented = r.fragmented →
      next.upstream.conn.accepted = r.upstream.conn.accepted ++ q → Paid h key offset r (none, next)
  | ended {e : RelayError} {q left : Bytes} {next : Relay} : e.Ended →
      r.reader.bytes = mask key offset q ++ left → offset + r.reader.bytes.length < h.length →
      next.upstream.conn.accepted = r.upstream.conn.accepted ++ q →
      Paid h key offset r (some e, next)
  | failed {e : NetError} {next : Relay} : Paid h key offset r (some (.write e), next)

theorem Paid.chunk {h : Head} {key : Bytes} {offset : Nat} {r : Relay} (p : Bytes) (next : Relay)
    {result : Option RelayError × Relay}
    (wired : r.reader.bytes = mask key offset p ++ next.reader.bytes)
    (accepted : next.upstream.conn.accepted = r.upstream.conn.accepted ++ p)
    (fragmented : next.fragmented = r.fragmented)
    (rest : Paid h key (offset + p.length) next result) : Paid h key offset r result := by
  cases rest with
  | @whole q last parts length buffer kept took =>
      refine .whole (q := p ++ q) ?_ ?_ buffer (kept.trans fragmented) ?_
      · rw [wired, parts, WebSocket.mask_append, List.append_assoc]
      · rw [List.length_append, ← Nat.add_assoc, length]
      · rw [took, accepted, List.append_assoc]
  | @ended e q left last ended parts short took =>
      refine .ended (q := p ++ q) ended (show _ = _ ++ left from ?_) ?_ ?_
      · rw [wired, parts, WebSocket.mask_append, List.append_assoc]
      · rw [wired, List.length_append, WebSocket.mask_length, ← Nat.add_assoc]
        exact short
      · rw [took, accepted, List.append_assoc]
  | failed => exact .failed

theorem payload_paid (h : Head) (key : Bytes) (data : h.control = false) (offset : Nat) (r : Relay)
    (within : offset ≤ h.length) (buffer : r.buf.length = bufferSize) :
    Paid h key offset r (payload h key offset r) := by
  fun_induction payload h key offset r with
  | case1 offset r more positive e read =>
      rcases r.reader.readFull_cases (chunk h offset) with ⟨_, _, _, _, whole⟩ | ⟨short, _, ended, stopped⟩
      · rw [read] at whole
        cases whole
      · rw [read] at stopped
        cases stopped
        have most : chunk h offset ≤ h.length - offset := Nat.min_le_right _ _
        exact .ended ended (List.nil_append _).symm (by omega) (List.append_nil _).symm
  | case2 offset r more positive masked reader read p next control ih =>
      rw [data] at control
      cases control
  | case3 offset r more positive masked reader read p next _ e upstream wrote => exact .failed
  | case4 offset r more positive masked reader read p next _ upstream wrote ih =>
      rcases r.reader.readFull_cases (chunk h offset) with ⟨taken, rest, parts, size, whole⟩ | ⟨_, _, _, stopped⟩
      · rw [read] at whole
        cases whole
        obtain ⟨sent, unsent, pieces, took, all⟩ := writeAll_prefix next.upstream p
        rw [wrote] at took all
        rw [all rfl, List.append_nil] at pieces
        have length : p.length = chunk h offset := by rw [WebSocket.mask_length, size]
        have most : chunk h offset ≤ h.length - offset := Nat.min_le_right _ _
        have kept : (p ++ r.buf.drop (chunk h offset)).length = bufferSize := by
          have least : chunk h offset ≤ bufferSize := Nat.min_le_left _ _
          rw [List.length_append, length, List.length_drop, buffer]
          omega
        refine Paid.chunk p { next with upstream := upstream } ?_ ?_ rfl ?_
        · show r.reader.bytes = mask key offset (mask key offset masked) ++ rest
          rw [WebSocket.mask_mask, parts]
        · rw [pieces]
          exact took
        · rw [length]
          exact ih (by omega) kept
      · rw [read] at stopped
        cases stopped
  | case5 offset r ended =>
      refine .whole (q := []) rfl ?_ buffer rfl (List.append_nil _).symm
      rw [List.length_nil]
      omega

/-- A control payload is read whole, or the bytes end inside it. -/
theorem payload_control_cases (h : Head) (key : Bytes) (control : h.control = true)
    (short : h.length ≤ 125) (r : Relay) :
    (∃ p rest, r.reader.bytes = mask key 0 p ++ rest ∧ p.length = h.length ∧
      payload h key 0 r = (none, r.buffered p rest)) ∨
    (r.reader.bytes.length < h.length ∧ ∃ e, e.Ended ∧ payload h key 0 r = (some e, r)) := by
  have small : 125 ≤ bufferSize := by decide
  rcases r.reader.readFull_cases h.length with ⟨masked, rest, parts, size, _⟩ | ⟨less, e, ended, stopped⟩
  · have length : (mask key 0 masked).length = h.length := by rw [WebSocket.mask_length, size]
    have wired : r.reader.bytes = mask key 0 (mask key 0 masked) ++ rest := by
      rw [WebSocket.mask_mask, parts]
    exact .inl ⟨mask key 0 masked, rest, wired, length,
      payload_control h key control _ rest r length (by omega) wired⟩
  · refine .inr ⟨less, e, ended, ?_⟩
    have all : chunk h 0 = h.length := by
      rw [chunk]
      omega
    rw [payload, dif_pos (by omega)]
    simp only [all, stopped]

/-! ## One turn on any bytes -/

/-- What one turn of the loop can come to. -/
inductive Outcome (r : Relay) : Option RelayError × Relay → Prop
  | frame {f : ClientFrame} {next : Relay} : Passes r.fragmented f next.fragmented →
      r.reader.bytes = f.wire.encode ++ next.reader.bytes → next.buf.length = bufferSize →
      next.upstream.conn.accepted = r.upstream.conn.accepted ++ f.inner → Outcome r (none, next)
  | breach {v : Violation} {next : Relay} : Breach r.fragmented r.reader.bytes v →
      next.upstream.conn.accepted = r.upstream.conn.accepted → Outcome r (some (.violation v), next)
  | closed {key : MaskingKey} {p more : Bytes} {next : Relay} : p.length ≤ 125 →
      r.reader.bytes = (ClientFrame.close key p).wire.encode ++ more → Outcome r (some .eof, next)
  | ended {e : RelayError} {q : Bytes} {next : Relay} : e.Ended →
      WebSocket.decode r.reader.bytes = none →
      (∀ (f : ClientFrame) (missing : Bytes), f.wire.encode = r.reader.bytes ++ missing → f.wire.Fits → q <+: f.inner) →
      next.upstream.conn.accepted = r.upstream.conn.accepted ++ q → Outcome r (some e, next)
  | failed {e : NetError} {next : Relay} : Outcome r (some (.write e), next)

/-- The bytes end where nothing has gone upstream yet. -/
theorem Outcome.nothing {r next : Relay} {e : RelayError} (ended : e.Ended)
    (unread : WebSocket.decode r.reader.bytes = none)
    (same : next.upstream.conn.accepted = r.upstream.conn.accepted) : Outcome r (some e, next) :=
  .ended ended unread (fun _ _ _ _ => List.nil_prefix) (same.trans (List.append_nil _).symm)

section Answer

variable {r : Relay} {key : MaskingKey} {p more : Bytes} (short : p.length ≤ 125)

include short

theorem close_outcome (encoded : r.reader.bytes = (ClientFrame.close key p).wire.encode ++ more) :
    Outcome r (respond ⟨true, 8, p.length⟩ (r.buffered p more)) := by
  rw [respond]
  simp only [take_buffered]
  rw [if_pos trivial]
  rcases admitClose_cases p with ⟨admitted, _⟩ | ⟨v, refused, breach⟩
  · rw [admitted]
    exact .closed short encoded
  · rw [refused]
    refine .breach ?_ rfl
    rw [encoded]
    exact .close short breach

theorem ping_outcome (encoded : r.reader.bytes = (ClientFrame.ping key p).wire.encode ++ more)
    (ready : (r.buffered p more).buf.length = bufferSize) :
    Outcome r (respond ⟨true, 9, p.length⟩ (r.buffered p more)) := by
  rw [respond]
  simp only [take_buffered]
  rw [if_neg (by decide), if_pos trivial]
  generalize (r.buffered p more).socket.writeFrame 10 p = written
  obtain ⟨result, socket⟩ := written
  cases result with
  | none => exact .frame (f := .ping key p) (.ping short) encoded ready (List.append_nil _).symm
  | some e => exact .failed

theorem pong_outcome (encoded : r.reader.bytes = (ClientFrame.pong key p).wire.encode ++ more)
    (ready : (r.buffered p more).buf.length = bufferSize) :
    Outcome r (respond ⟨true, 10, p.length⟩ (r.buffered p more)) := by
  obtain ⟨renewals, answered⟩ := respond_pong (r.buffered p more) p.length
  rw [answered]
  exact .frame (f := .pong key p) (.pong short) encoded ready (List.append_nil _).symm

end Answer

section Body

variable {r : Relay} {field rest body : Bytes} {a b : UInt8} {n : Nat} {key : MaskingKey}
  (opening : Opening r.reader.bytes a b field n rest) (keyed : rest = key.bytes ++ body)

include opening keyed

theorem data_outcome {after : Bool} (data : a &&& 15 = if r.fragmented then 0 else 2)
    (open_ : after = !(a &&& 0x80 != 0)) (buffer : r.buf.length = bufferSize) :
    Outcome r (match payload ⟨a &&& 0x80 != 0, a &&& 15, n⟩ key.bytes 0
        { r with reader := ⟨body, r.reader.broken⟩, fragmented := after } with
      | (some e, r) => (some e, r)
      | (none, r) =>
          if Head.control ⟨a &&& 0x80 != 0, a &&& 15, n⟩ then
            respond ⟨a &&& 0x80 != 0, a &&& 15, n⟩ r
          else (none, r)) := by
  have uncontrolled : Head.control ⟨a &&& 0x80 != 0, a &&& 15, n⟩ = false := by
    rw [Head.control, data]
    cases r.fragmented with
    | false => exact (by decide : decide ((8 : UInt8) ≤ 2) = false)
    | true => exact (by decide : decide ((8 : UInt8) ≤ 0) = false)
  have paid := payload_paid ⟨a &&& 0x80 != 0, a &&& 15, n⟩ key.bytes uncontrolled 0
    { r with reader := ⟨body, r.reader.broken⟩, fragmented := after } (Nat.zero_le _) buffer
  generalize payload _ key.bytes 0 _ = result at paid
  cases paid with
  | @whole q next wired length kept fragmented accepted =>
      dsimp only
      rw [if_neg (Bool.eq_false_iff.1 uncontrolled)]
      have body : body = mask key.bytes 0 q ++ next.reader.bytes := wired
      have size : q.length = n := (Nat.zero_add _).symm.trans length
      rw [body] at keyed
      have wire : (ClientFrame.data r.fragmented (a &&& 0x80 != 0) key q).wire =
          ⟨a &&& 0x80 != 0, a &&& 15, some key, q⟩ := by
        rw [data]
        rfl
      refine .frame (f := .data r.fragmented (a &&& 0x80 != 0) key q) ?_ ?_ kept accepted
      · rw [fragmented, open_]
        exact .data (Nat.le_trans (Nat.le_of_eq size) opening.limit)
      · rw [wire]
        exact opening.encode keyed size
  | @ended e q left next ended wired short accepted =>
      refine .ended ended (opening.decode_unpaid keyed ?_) ?_ accepted
      · simpa using short
      · intro f missing begun fits
        have body : body = mask key.bytes 0 q ++ left := wired
        rw [body] at keyed
        obtain ⟨opcode, front⟩ := opening.payload_of_begun keyed fits begun
        have low : ¬ 8 ≤ f.wire.opcode := by
          rw [opcode]
          exact of_decide_eq_false uncontrolled
        cases f with
        | data continues fin other p => exact front
        | ping other p => exact absurd (by decide : (8 : UInt8) ≤ 9) low
        | pong other p => exact absurd (by decide : (8 : UInt8) ≤ 10) low
        | close other p => exact absurd (by decide : (8 : UInt8) ≤ 8) low
  | failed => exact .failed

theorem control_outcome {after : Bool} (control : a &&& 15 ∈ [8, 9, 10])
    (open_ : after = r.fragmented) (buffer : r.buf.length = bufferSize) :
    Outcome r (match payload ⟨a &&& 0x80 != 0, a &&& 15, n⟩ key.bytes 0
        { r with reader := ⟨body, r.reader.broken⟩, fragmented := after } with
      | (some e, r) => (some e, r)
      | (none, r) =>
          if Head.control ⟨a &&& 0x80 != 0, a &&& 15, n⟩ then
            respond ⟨a &&& 0x80 != 0, a &&& 15, n⟩ r
          else (none, r)) := by
  subst open_
  have high : 8 ≤ a &&& 15 := by
    rcases List.mem_cons.1 control with close | others
    · rw [close]
      decide
    · rcases List.mem_cons.1 others with ping | pong
      · rw [ping]
        decide
      · rw [List.mem_singleton.1 pong]
        decide
  obtain ⟨finished, short⟩ := opening.control high
  rcases payload_control_cases ⟨a &&& 0x80 != 0, a &&& 15, n⟩ key.bytes (decide_eq_true high) short
      { r with reader := ⟨body, r.reader.broken⟩ } with
    ⟨p, more, wired, size, ran⟩ | ⟨less, e, ended, stopped⟩
  · rw [show body = _ from wired] at keyed
    have encoded := opening.encode keyed size
    have fin : (a &&& 0x80 != 0) = true := bne_iff_ne.2 finished
    have size : n = p.length := size.symm
    rw [ran]
    dsimp only
    rw [if_pos (show Head.control ⟨a &&& 0x80 != 0, a &&& 15, n⟩ = true from decide_eq_true high)]
    rw [fin] at encoded ⊢
    subst size
    have ready : ((r.buffered p more).buf).length = bufferSize := by
      have small : 125 ≤ bufferSize := by decide
      show (p ++ r.buf.drop p.length).length = bufferSize
      rw [List.length_append, List.length_drop, buffer]
      omega
    rcases List.mem_cons.1 control with close | others
    · rw [close] at encoded ⊢
      exact close_outcome short encoded
    · rcases List.mem_cons.1 others with ping | pong
      · rw [ping] at encoded ⊢
        exact ping_outcome short encoded ready
      · rw [List.mem_singleton.1 pong] at encoded ⊢
        exact pong_outcome short encoded ready
  · rw [stopped]
    exact .nothing ended (opening.decode_unpaid keyed less) rfl

end Body

theorem turn_outcome (r : Relay) (buffer : r.buf.length = bufferSize) : Outcome r (turn r) := by
  simp only [turn]
  have read := readHead_read r.reader
  generalize readHead r.reader = headRead at read
  cases read with
  | ended ended unread => exact .nothing ended unread rfl
  | refused breach => exact .breach (breach _) rfl
  | @read a b field n rest opening =>
      dsimp only
      rcases fragment_cases r.fragmented a b n with ⟨v, stopped, breach⟩ | ⟨after, fragments, kind⟩
      · rw [stopped]
        refine .breach ?_ rfl
        rw [opening.wired]
        exact .head opening.announced breach
      · rw [fragments]
        dsimp only
        rcases Source.readFull_cases ⟨rest, r.reader.broken⟩ 4 with
          ⟨keyed, body, parts, width, read⟩ | ⟨short, e, ended, stopped⟩
        · obtain ⟨key, rfl⟩ := MaskingKey.exists_bytes width
          rw [read]
          dsimp only at parts ⊢
          rcases kind with ⟨data, open_⟩ | ⟨control, open_⟩
          · exact data_outcome opening parts data open_ buffer
          · exact control_outcome opening parts control open_ buffer
        · rw [stopped]
          exact .nothing ended (opening.decode_short short) rfl

/-! ## No turn passes a breach -/

theorem turn_breach {r : Relay} {v : Violation} (breach : Breach r.fragmented r.reader.bytes v) :
    ∃ v, (turn r).1 = some (.violation v) := by
  obtain ⟨⟨bytes, broken⟩, buf, fragmented, upstream, socket, renewals⟩ := r
  dsimp only at breach
  cases breach with
  | @bits a b more wrong =>
      have refused : readHead ⟨a :: b :: more, broken⟩ =
          .error (.violation .reservedOrUnmasked) := by
        rw [readHead_cons, admitBits, if_pos wrong, Fallible.bind_error]
      exact ⟨.reservedOrUnmasked, by simp only [turn, refused]⟩
  | @head a b field more n v announced breach =>
      rcases readHead_announced a announced more broken with ⟨v, refused, _⟩ | ⟨read, opening⟩
      · exact ⟨v, by simp only [turn, refused]⟩
      · rcases fragment_cases fragmented a b n with ⟨v, stopped, _⟩ | ⟨after, _, kind⟩
        · exact ⟨v, by simp only [turn, read, stopped]⟩
        · exact absurd breach (opening.not_headBreach kind)
  | @close key p more v short breach =>
      have turned := turn_control (f := (ClientFrame.close key p).wire)
        (r := ⟨⟨(ClientFrame.close key p).wire.encode ++ more, broken⟩, buf, fragmented, upstream,
          socket, renewals⟩) (ClientFrame.admissible_control rfl short) rfl rfl rfl rfl
      rcases admitClose_cases p with ⟨_, valid⟩ | ⟨v, refused, _⟩
      · exact absurd valid breach.refused
      · refine ⟨v, ?_⟩
        rw [turned, respond]
        simp only [head, ClientFrame.wire, ClientFrame.opcode, ClientFrame.payload, take_buffered,
          refused, if_true]

/-- A relay in front of these bytes, whose connections take everything. -/
def fresh (inside : Bool) (bytes : Bytes) : Relay :=
  { reader := ⟨bytes, false⟩, fragmented := inside, upstream := {}, socket := {} }

theorem fresh_ready (inside : Bool) (bytes : Bytes) : Ready inside (fresh inside bytes) where
  fragmented := rfl
  buffer := List.length_replicate
  unclosed := rfl
  client _ inside := nomatch inside
  upstream _ inside := nomatch inside

/-- On connections that take everything, a legal frame is taken and the next turn is ready. -/
theorem turn_passes {inside after : Bool} {f : ClientFrame} (passes : Passes inside f after)
    {r : Relay} (ready : Ready inside r) {rest : Bytes} (wired : r.reader.bytes = f.wire.encode ++ rest) :
    ∃ next, turn r = (none, next) ∧ Ready after next := by
  cases passes with
  | @data fin key p limit =>
      obtain ⟨next, turned, carried⟩ := turn_data (ClientFrame.admissible_data limit)
        (ClientFrame.control_data inside fin key p) ready (fragment_data inside fin key p) wired
      refine ⟨next, turned, carried.fragmented, carried.buffer.trans ready.buffer, ?_, ?_,
        carried.healthy⟩
      · rw [carried.socket]
        exact ready.unclosed
      · rw [carried.socket]
        exact ready.client
  | @ping key p short =>
      have turned := turn_control (f := (ClientFrame.ping key p).wire)
        (ClientFrame.admissible_control rfl short) rfl ready.fragmented rfl wired
      obtain ⟨socket, answered, wrote⟩ := respond_ping ready
      exact ⟨_, turned.trans answered, { ready.buffered p rest short with
        unclosed := wrote.closeSent
        client := wrote.healthy }⟩
  | @pong key p short =>
      have turned := turn_control (f := (ClientFrame.pong key p).wire)
        (ClientFrame.admissible_control rfl short) rfl ready.fragmented rfl wired
      obtain ⟨renewals, answered⟩ := respond_pong (r.buffered p rest) p.length
      exact ⟨_, turned.trans answered, { ready.buffered p rest short with }⟩

end Relay

/-- A legal frame breaks no rule. -/
theorem Passes.not_breach {inside after : Bool} {f : ClientFrame} (passes : Passes inside f after)
    (rest : Bytes) (v : Violation) : ¬ Breach inside (f.wire.encode ++ rest) v := by
  intro breach
  obtain ⟨v, refused⟩ := Relay.turn_breach (r := .fresh inside (f.wire.encode ++ rest)) breach
  obtain ⟨next, turned, _⟩ := Relay.turn_passes passes (Relay.fresh_ready inside _) rfl
  rw [turned] at refused
  cases refused

theorem Passes.fits {inside after : Bool} {f : ClientFrame} (passes : Passes inside f after) :
    f.wire.Fits := by
  refine ⟨f.opcode_lt, ?_⟩
  cases passes with
  | data limit => exact Nat.lt_of_le_of_lt limit (by decide)
  | ping short => exact Nat.lt_of_le_of_lt short (by decide)
  | pong short => exact Nat.lt_of_le_of_lt short (by decide)

theorem ClientFrame.wire_injective {f g : ClientFrame} (same : f.wire = g.wire) : f = g := by
  obtain ⟨fin, opcode, key, payload⟩ := WebSocket.Frame.mk.inj same
  cases f with
  | data continues _ _ _ =>
      cases g with
      | data others _ _ _ =>
          cases fin
          cases key
          cases payload
          cases continues <;> cases others <;> first | rfl | cases opcode
      | ping _ _ | pong _ _ | close _ _ => cases continues <;> cases opcode
  | ping _ _ =>
      cases g with
      | data others _ _ _ => cases others <;> cases opcode
      | ping _ _ =>
          cases key
          cases payload
          rfl
      | pong _ _ | close _ _ => cases opcode
  | pong _ _ =>
      cases g with
      | data others _ _ _ => cases others <;> cases opcode
      | pong _ _ =>
          cases key
          cases payload
          rfl
      | ping _ _ | close _ _ => cases opcode
  | close _ _ =>
      cases g with
      | data others _ _ _ => cases others <;> cases opcode
      | close _ _ =>
          cases key
          cases payload
          rfl
      | ping _ _ | pong _ _ => cases opcode

/-- Two frames at the front of the same bytes are one frame. -/
theorem ClientFrame.unique {f g : ClientFrame} {rest more : Bytes} (fits : f.wire.Fits)
    (other : g.wire.Fits) (same : f.wire.encode ++ rest = g.wire.encode ++ more) :
    f = g ∧ rest = more := by
  have decoded := WebSocket.decode_encode f.wire fits rest
  rw [same, WebSocket.decode_encode g.wire other more] at decoded
  obtain ⟨wire, tail⟩ := Prod.mk.inj (Option.some.inj decoded)
  exact ⟨(wire_injective wire).symm, tail.symm⟩

theorem Passes.unique {inside after other : Bool} {f : ClientFrame} (passes : Passes inside f after)
    (again : Passes inside f other) : after = other := by
  cases passes <;> cases again <;> rfl

namespace Relay

/-! ## The loop -/

theorem close_fits {key : MaskingKey} {p : Bytes} (short : p.length ≤ 125) :
    (ClientFrame.close key p).wire.Fits :=
  ⟨(by decide : (8 : UInt8) < 16), Nat.lt_of_le_of_lt short (by decide)⟩

/-- In front of a legal frame, a turn takes that frame or fails on a write. -/
theorem turn_frame {r : Relay} (buffer : r.buf.length = bufferSize) {f : ClientFrame} {after : Bool}
    (passes : Passes r.fragmented f after) {rest : Bytes}
    (wired : r.reader.bytes = f.wire.encode ++ rest) :
    (∃ e next, turn r = (some (.write e), next)) ∨
      ∃ next, turn r = (none, next) ∧ next.fragmented = after ∧ next.buf.length = bufferSize ∧
        next.reader.bytes = rest ∧
        next.upstream.conn.accepted = r.upstream.conn.accepted ++ f.inner := by
  have outcome := turn_outcome r buffer
  generalize turn r = result at outcome
  cases outcome with
  | @frame g next other parts kept accepted =>
      obtain ⟨rfl, same⟩ := ClientFrame.unique passes.fits other.fits (wired.symm.trans parts)
      exact .inr ⟨next, rfl, (passes.unique other).symm, kept, same.symm, accepted⟩
  | breach breach _ =>
      rw [wired] at breach
      exact absurd breach (passes.not_breach rest _)
  | @closed key p more next short parts =>
      obtain ⟨rfl, _⟩ := ClientFrame.unique passes.fits (close_fits short) (wired.symm.trans parts)
      cases passes
  | ended _ unread _ _ =>
      rw [wired, WebSocket.decode_encode f.wire passes.fits] at unread
      cases unread
  | failed => exact .inl ⟨_, _, rfl⟩

/-- The loop takes the leading frames one by one, unless a write fails. -/
theorem loop_leading {inside after : Bool} {frames : List ClientFrame}
    (leading : Leading inside frames after) (r : Relay) (fragmented : r.fragmented = inside)
    (buffer : r.buf.length = bufferSize) {rest : Bytes}
    (wired : r.reader.bytes = WebSocket.encodeAll (frames.map ClientFrame.wire) ++ rest) :
    (∃ e, (loop r).1 = .write e) ∨
      ∃ next, loop r = loop next ∧ next.fragmented = after ∧ next.buf.length = bufferSize ∧
        next.reader.bytes = rest ∧
        next.upstream.conn.accepted =
          r.upstream.conn.accepted ++ frames.flatMap ClientFrame.inner := by
  induction leading generalizing r with
  | nil => exact .inr ⟨r, rfl, fragmented, buffer, wired, (List.append_nil _).symm⟩
  | @cons inside between after f frames passes _ ih =>
      subst fragmented
      rw [List.map_cons, WebSocket.encodeAll, List.flatMap_cons, List.append_assoc] at wired
      rcases turn_frame buffer passes wired with ⟨e, next, failed⟩ | ⟨next, turned, open_, kept, left, took⟩
      · exact .inl ⟨e, by rw [loop_of_end failed]⟩
      · rw [loop_of_turn turned]
        rcases ih next open_ kept left with failed | ⟨last, same, open_, kept, left, more⟩
        · exact .inl failed
        · refine .inr ⟨last, same, open_, kept, left, ?_⟩
          rw [more, took, List.flatMap_cons, List.append_assoc]

/-- What the loop stops at with a protocol error is a breach. -/
theorem loop_violation (r : Relay) (buffer : r.buf.length = bufferSize) {v : Violation}
    (stopped : (loop r).1 = .violation v) :
    ∃ frames after rest, Leading r.fragmented frames after ∧
      r.reader.bytes = WebSocket.encodeAll (frames.map ClientFrame.wire) ++ rest ∧
      Breach after rest v ∧ (loop r).2.upstream.conn.accepted =
        r.upstream.conn.accepted ++ frames.flatMap ClientFrame.inner := by
  fun_induction loop r with
  | case1 r e next turned =>
      have outcome := turn_outcome r buffer
      rw [turned] at outcome
      cases stopped
      cases outcome with
      | breach breach same =>
          exact ⟨[], r.fragmented, r.reader.bytes, .nil, rfl, breach, same.trans (List.append_nil _).symm⟩
      | ended ended _ _ _ => exact absurd rfl (ended.not_violation v)
  | case2 r next turned ih =>
      have outcome := turn_outcome r buffer
      rw [turned] at outcome
      cases outcome with
      | @frame f next passes parts kept accepted =>
          obtain ⟨frames, after, rest, leading, wired, breach, took⟩ := ih kept stopped
          refine ⟨f :: frames, after, rest, .cons passes leading, ?_, breach, ?_⟩
          · rw [parts, wired, List.map_cons, WebSocket.encodeAll, WebSocket.encodeAll,
              List.flatMap_cons, List.append_assoc]
          · rw [took, accepted, List.flatMap_cons, List.append_assoc]

theorem loop_breach (r : Relay) (buffer : r.buf.length = bufferSize) {v : Violation}
    (breach : Breach r.fragmented r.reader.bytes v) :
    ∃ v, Breach r.fragmented r.reader.bytes v ∧ (loop r).1 = .violation v ∧
      (loop r).2.upstream.conn.accepted = r.upstream.conn.accepted := by
  obtain ⟨v, refused⟩ := turn_breach breach
  have outcome := turn_outcome r buffer
  generalize turned : turn r = result at outcome
  rw [turned] at refused
  cases outcome with
  | breach breach same =>
      rw [loop_of_end turned]
      exact ⟨_, breach, rfl, same⟩
  | frame | closed | failed => cases refused
  | ended ended _ _ _ => exact absurd (Option.some.inj refused) (ended.not_violation v)

/-- Inside a legal frame, the loop stops without a protocol error. -/
theorem loop_unfinished (r : Relay) (buffer : r.buf.length = bufferSize) {f : ClientFrame}
    {after : Bool} (passes : Passes r.fragmented f after) {missing : Bytes}
    (begun : f.wire.encode = r.reader.bytes ++ missing) (some : missing ≠ []) :
    (∃ e, (loop r).1 = .write e) ∨
      ((∀ v, (loop r).1 ≠ .violation v) ∧ ∃ q, q <+: f.inner ∧
        (loop r).2.upstream.conn.accepted = r.upstream.conn.accepted ++ q) := by
  -- A frame that ends before `missing` would be `f` itself.
  have longer : ∀ {g : ClientFrame} {rest : Bytes}, g.wire.Fits →
      r.reader.bytes ≠ g.wire.encode ++ rest := by
    intro g rest fits whole
    rw [whole, List.append_assoc] at begun
    have same : f.wire.encode ++ [] = g.wire.encode ++ (rest ++ missing) := by
      rw [List.append_nil, begun]
    have ended := (ClientFrame.unique passes.fits fits same).2
    exact some (List.append_eq_nil_iff.1 ended.symm).2
  have outcome := turn_outcome r buffer
  generalize turned : turn r = result at outcome
  cases outcome with
  | frame other parts _ _ => exact absurd parts (longer other.fits)
  | breach breach _ =>
      have whole := breach.append missing
      rw [← begun, ← List.append_nil f.wire.encode] at whole
      exact absurd whole (passes.not_breach [] _)
  | closed short parts => exact absurd parts (longer (close_fits short))
  | @ended e q next ended _ part accepted =>
      rw [loop_of_end turned]
      exact .inr ⟨ended.not_violation, q, part f missing begun passes.fits, accepted⟩
  | failed =>
      rw [loop_of_end turned]
      exact .inl ⟨_, rfl⟩

/-! ## When a write can fail -/

theorem payload_not_write (h : Head) (key : Bytes) (offset : Nat) (r : Relay)
    (healthy : r.upstream.conn.Healthy) (error : NetError) :
    (payload h key offset r).1 ≠ some (.write error) := by
  fun_induction payload h key offset r with
  | case1 offset r more positive e read =>
      rcases r.reader.readFull_cases (chunk h offset) with ⟨_, _, _, _, whole⟩ | ⟨_, _, ended, stopped⟩
      · rw [read] at whole
        cases whole
      · rw [read] at stopped
        cases stopped
        exact fun same => ended.not_write error (Option.some.inj same)
  | case2 offset r more positive masked reader read p next control ih => exact ih healthy
  | case3 offset r more positive masked reader read p next _ e upstream wrote =>
      obtain ⟨after, all, _⟩ := writeAll_counted r.upstream p healthy
      rw [show writeAll r.upstream p = _ from wrote] at all
      cases all
  | case4 offset r more positive masked reader read p next _ upstream wrote ih =>
      obtain ⟨after, all, still, _⟩ := writeAll_counted r.upstream p healthy
      rw [show writeAll r.upstream p = _ from wrote] at all
      cases all
      exact ih still
  | case5 offset r ended => simp

theorem respond_not_write (h : Head) (r : Relay) (unclosed : r.socket.closeSent = false)
    (client : r.socket.conn.Healthy) (error : NetError) : (respond h r).1 ≠ some (.write error) := by
  simp only [respond]
  split
  · rcases admitClose_cases (r.buf.take h.length) with ⟨admitted, _⟩ | ⟨v, refused, _⟩
    · rw [admitted]
      simp
    · rw [refused]
      simp
  · split
    · obtain ⟨after, written, _⟩ := r.socket.writeFrame_healthy 10 (r.buf.take h.length) unclosed client
      rw [written]
      simp
    · split
      · simp
      · simp

theorem turn_not_write {inside : Bool} (r : Relay) (ready : Ready inside r) (error : NetError) :
    (turn r).1 ≠ some (.write error) := by
  simp only [turn]
  have read := readHead_read r.reader
  generalize readHead r.reader = headRead at read
  cases read with
  | ended ended _ => exact fun same => ended.not_write error (Option.some.inj same)
  | refused _ => simp
  | @read a b field n rest opening =>
      dsimp only
      rcases fragment_cases r.fragmented a b n with ⟨v, stopped, _⟩ | ⟨after, fragments, _⟩
      · rw [stopped]
        simp
      · rw [fragments]
        dsimp only
        rcases Source.readFull_cases ⟨rest, r.reader.broken⟩ 4 with
          ⟨key, body, _, _, read⟩ | ⟨_, e, ended, stopped⟩
        · rw [read]
          have clean := payload_not_write ⟨a &&& 0x80 != 0, a &&& 15, n⟩ key 0
            { r with reader := ⟨body, r.reader.broken⟩, fragmented := after } ready.upstream error
          have untouched := payload_socket ⟨a &&& 0x80 != 0, a &&& 15, n⟩ key 0
            { r with reader := ⟨body, r.reader.broken⟩, fragmented := after }
          dsimp only
          generalize payload _ key 0 _ = result at clean untouched
          obtain ⟨_ | e, next⟩ := result
          · have same : next.socket = r.socket := untouched
            dsimp only
            split
            · exact respond_not_write _ next (by rw [same, ready.unclosed])
                (by rw [same]; exact ready.client) error
            · simp
          · exact clean
        · rw [stopped]
          exact fun same => ended.not_write error (Option.some.inj same)

theorem loop_not_write {inside : Bool} (r : Relay) (ready : Ready inside r) (error : NetError) :
    (loop r).1 ≠ .write error := by
  fun_induction loop r generalizing inside with
  | case1 r e next turned =>
      intro same
      have clean := turn_not_write r ready error
      rw [turned] at clean
      exact clean (congrArg Option.some same)
  | case2 r next turned ih =>
      have outcome := turn_outcome r ready.buffer
      rw [turned] at outcome
      cases outcome with
      | frame passes parts _ _ =>
          rw [ready.fragmented] at passes
          obtain ⟨last, again, kept⟩ := turn_passes passes ready parts
          rw [turned] at again
          cases again
          exact ih kept

end Relay

/-- **Malformed client frames.**  For every byte string and every behaviour of the two
connections: a protocol error names a rule that the frame after some leading legal
frames breaks, and only the payloads of those have gone upstream; where such a frame
comes with the bytes that show its breach, `relay` stops there with a protocol error,
unless a write has failed before; inside an unfinished legal frame it stops with none,
and a prefix of that frame's payload may have gone upstream too.  No write fails on an
open socket and healthy connections. -/
theorem relay_malformed (s : Socket) (bytes : Bytes) (broken : Bool) (upstream : CountedConn) :
    let ended := s.relay ⟨bytes, broken⟩ upstream
    (∀ v, ended.1 = .violation v → ∃ frames after rest, Leading false frames after ∧
      bytes = WebSocket.encodeAll (frames.map ClientFrame.wire) ++ rest ∧ Breach after rest v ∧
      ended.2.upstream.conn.accepted =
        upstream.conn.accepted ++ frames.flatMap ClientFrame.inner) ∧
    (∀ frames after rest v, Leading false frames after →
      bytes = WebSocket.encodeAll (frames.map ClientFrame.wire) ++ rest → Breach after rest v →
      (∃ e, ended.1 = .write e) ∨
        ((∃ v, Breach after rest v ∧ ended.1 = .violation v) ∧
          ended.2.upstream.conn.accepted =
            upstream.conn.accepted ++ frames.flatMap ClientFrame.inner)) ∧
    (∀ frames after rest f between missing, Leading false frames after →
      bytes = WebSocket.encodeAll (frames.map ClientFrame.wire) ++ rest → Passes after f between →
      f.wire.encode = rest ++ missing → missing ≠ [] →
      (∃ e, ended.1 = .write e) ∨
        ((∀ v, ended.1 ≠ .violation v) ∧ ∃ q, q <+: f.inner ∧
          ended.2.upstream.conn.accepted =
            upstream.conn.accepted ++ frames.flatMap ClientFrame.inner ++ q)) ∧
    (s.closeSent = false → s.conn.Healthy → upstream.conn.Healthy → ∀ e, ended.1 ≠ .write e) := by
  intro ended
  have buffer : (List.replicate bufferSize (0 : UInt8)).length = bufferSize := List.length_replicate
  refine ⟨?_, ?_, ?_, ?_⟩
  · intro v stopped
    exact Relay.loop_violation _ buffer stopped
  · intro frames after rest v leading wired breach
    rcases Relay.loop_leading leading { reader := ⟨bytes, broken⟩, upstream := upstream, socket := s }
      rfl buffer wired with failed | ⟨next, same, rfl, kept, rfl, took⟩
    · exact .inl failed
    · obtain ⟨v, breach, stopped, nothing⟩ := Relay.loop_breach next kept breach
      rw [← same] at stopped nothing
      exact .inr ⟨⟨v, breach, stopped⟩, nothing.trans took⟩
  · intro frames after rest f between missing leading wired passes begun more
    rcases Relay.loop_leading leading { reader := ⟨bytes, broken⟩, upstream := upstream, socket := s }
      rfl buffer wired with failed | ⟨next, same, rfl, kept, rfl, took⟩
    · exact .inl failed
    · have stopped := Relay.loop_unfinished next kept passes begun more
      rw [← same] at stopped
      rcases stopped with failed | ⟨clean, q, front, accepted⟩
      · exact .inl failed
      · refine .inr ⟨clean, q, front, accepted.trans ?_⟩
        rw [took]
  · intro unclosed client healthy e
    exact @Relay.loop_not_write false _ ⟨rfl, buffer, unclosed, client, healthy⟩ e

/-- A binary frame that passes, and the head of a text frame behind it. -/
theorem relay_malformed_textFrame :
    let ended := Socket.relay {} ⟨(ClientFrame.data false true ⟨3, 5, 7, 11⟩ [104, 105]).wire.encode ++
      [0x81, 0x80], false⟩ {}
    (∃ v, ended.1 = .violation v) ∧ ended.2.upstream.conn.accepted = [104, 105] := by
  intro ended
  have leading : Leading false [.data false true ⟨3, 5, 7, 11⟩ [104, 105]] false :=
    .cons (.data (by decide)) .nil
  have breach : Breach false [0x81, 0x80] .unsupportedOpcode :=
    @Breach.head false 0x81 0x80 [] [] _ _ (.short (by decide)) (.opcode (by decide))
  obtain ⟨_, refused, _, clean⟩ := relay_malformed {}
    ((ClientFrame.data false true ⟨3, 5, 7, 11⟩ [104, 105]).wire.encode ++ [0x81, 0x80]) false {}
  rcases refused _ false [0x81, 0x80] _ leading rfl breach with ⟨e, failed⟩ | ⟨⟨v, _, stopped⟩, took⟩
  · exact absurd failed (clean rfl (by decide) (by decide) e)
  · exact ⟨⟨v, stopped⟩, took⟩

end GrpcBridge.Tunnel
