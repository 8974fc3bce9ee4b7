/-
# Rpc.Framing -- gRPC records in a stream of chunks

`frame` and `unframe` of web/src/framing.ts.  `unframe` fills one buffer at a time:
five header bytes, then a body of the announced length, from chunks that end
anywhere.  Between two turns of its inner loop the buffer has room, which is why a
turn always takes a byte; an `Unframer` carries that as a field.

The generator is modelled by what its consumer sees: the records in the order they
are yielded and the error it ends with, if any.

`unframe_eq_parse` compares it with the reader of whole strings, for every string and
every way of cutting it.  The comparison is made where the loop stands: `Unframer.rest`
is what that reader makes of the bytes still to come, given what the buffer holds, and
`feed_rest` is one chunk of it.
-/
import GrpcBridge.Theory.BigEndian
import GrpcBridge.Theory.Fallible
import GrpcBridge.Theory.RecordStream

namespace GrpcBridge.Rpc

set_option autoImplicit false

open GrpcBridge.Theory
open GrpcBridge.Theory.RecordStream

abbrev Bytes := List UInt8

/-- The codes of `ConnectError` that framing uses. -/
inductive Code where
  | resourceExhausted
  | unimplemented
  | dataLoss
deriving DecidableEq, Repr

structure ConnectError where
  message : String
  code : Code
deriving DecidableEq, Repr

def maxMessage : Nat := 1024 * 1024

def messageExceeds : ConnectError := ⟨"Message exceeds 1 MiB", .resourceExhausted⟩

def compressed : ConnectError := ⟨"Compressed messages are unsupported", .unimplemented⟩

def truncatedRecord : ConnectError := ⟨"Truncated gRPC record", .dataLoss⟩

def frame (data : Bytes) : Except ConnectError Bytes :=
  if maxMessage < data.length then .error messageExceeds
  else .ok (0 :: BigEndian.bytes 4 data.length ++ data)

/-! ## The incremental reader -/

/-- The locals of `unframe` at the head of its inner loop. -/
structure Unframer where
  current : Bytes
  offset : Nat
  readingHeader : Bool
  room : offset < current.length
  sized : readingHeader = true → current.length = 5

namespace Unframer

/-- A new buffer of five bytes for a header. -/
def start : Unframer := ⟨List.replicate 5 0, 0, true, by simp, by simp⟩

/-- A new buffer for a body. -/
def body (length : Nat) (positive : 0 < length) : Unframer :=
  ⟨List.replicate length 0, 0, false, by simpa using positive, nofun⟩

/-- How many bytes the next turn copies. -/
def count (s : Unframer) (value : Bytes) : Nat := min (s.current.length - s.offset) value.length

/-- `current.set(value.subarray(position, position + n), offset)` -/
def fill (s : Unframer) (value : Bytes) : Bytes :=
  s.current.take s.offset ++ value.take (s.count value) ++ s.current.drop (s.offset + s.count value)

@[simp] theorem fill_length (s : Unframer) (value : Bytes) :
    (s.fill value).length = s.current.length := by
  have room := s.room
  simp only [fill, count, List.length_append, List.length_take, List.length_drop]
  omega

/-- The state after a turn that does not fill the buffer. -/
def advance (s : Unframer) (value : Bytes)
    (unfilled : s.offset + s.count value < s.current.length) : Unframer where
  current := s.fill value
  offset := s.offset + s.count value
  readingHeader := s.readingHeader
  room := by simpa using unfilled
  sized := by simpa using s.sized

end Unframer

/-- The buffer is full: what a header announces, or the error it is refused with. -/
def measure (header : Bytes) : Except ConnectError Nat :=
  if header.getD 0 0 ≠ 0 then .error compressed
  else if maxMessage < BigEndian.value ((header.drop 1).take 4) then .error messageExceeds
  else .ok (BigEndian.value ((header.drop 1).take 4))

/-- The inner loop over the rest of one chunk: the records it yields, and the state it
leaves or the error it throws. -/
def feed (s : Unframer) (value : Bytes) : List Bytes × Except ConnectError Unframer :=
  if _more : value = [] then ([], .ok s)
  else
    let current := s.fill value
    let value' := value.drop (s.count value)
    if unfilled : s.offset + s.count value < s.current.length then feed (s.advance value unfilled) value'
    else if s.readingHeader then
      match measure current with
      | .error e => ([], .error e)
      | .ok length =>
          if positive : 0 < length then feed (.body length positive) value'
          else
            let (records, result) := feed .start value'
            ([] :: records, result)
    else
      let (records, result) := feed .start value'
      (current :: records, result)
termination_by value.length
decreasing_by
  all_goals
    have room := s.room
    have nonempty := List.length_pos_iff.2 _more
    simp only [Unframer.count, List.length_drop]
    omega

/-- The outer loop over the chunks. -/
def read (s : Unframer) : List Bytes → List Bytes × Option ConnectError
  | [] => ([], if s.offset ≠ 0 ∨ s.readingHeader = false then some truncatedRecord else none)
  | value :: chunks =>
      match feed s value with
      | (records, .error e) => (records, some e)
      | (records, .ok s) =>
          let (later, error) := read s chunks
          (records ++ later, error)

def unframe (chunks : List Bytes) : List Bytes × Option ConnectError := read .start chunks

/-! ## The reader of whole strings -/

/-- A zero byte and a 32-bit length of at most 1 MiB. -/
def grpcHeader : Bytes → Except ConnectError Nat
  | [flag, b₃, b₂, b₁, b₀] =>
      let length := b₃.toNat * 2 ^ 24 + b₂.toNat * 2 ^ 16 + b₁.toNat * 2 ^ 8 + b₀.toNat
      if flag ≠ 0 then .error compressed
      else if maxMessage < length then .error messageExceeds
      else .ok length
  | _ => .error truncatedRecord

def record : Format ConnectError := ⟨5, grpcHeader, by decide⟩

def thrown : Ending ConnectError → Option ConnectError
  | .clean => none
  | .truncated => some truncatedRecord
  | .refused e => some e

/-- The records of a whole string, and the error it ends with. -/
def parseRecords (bytes : Bytes) : List Bytes × Option ConnectError :=
  ((record.parse bytes).1, thrown (record.parse bytes).2)

/-! ## One chunk -/

theorem measure_eq {header : Bytes} (whole : header.length = 5) :
    measure header = grpcHeader header := by
  match header, whole with
  | [flag, b₃, b₂, b₁, b₀], _ =>
      have length : BigEndian.value [b₃, b₂, b₁, b₀] =
          b₃.toNat * 2 ^ 24 + b₂.toNat * 2 ^ 16 + b₁.toNat * 2 ^ 8 + b₀.toNat := by
        simp [BigEndian.value]
        omega
      simp [measure, grpcHeader, length]

namespace Unframer

/-- The bytes of the unfinished header or body. -/
def held (s : Unframer) : Bytes := s.current.take s.offset

/-- What the reader of whole strings makes of the bytes still to come. -/
def rest (s : Unframer) (bytes : Bytes) : List Bytes × Ending ConnectError :=
  if s.readingHeader then record.parse (s.held ++ bytes)
  else record.parseBody s.current.length (s.held ++ bytes)

@[simp] theorem rest_start (bytes : Bytes) : start.rest bytes = record.parse bytes := rfl

theorem rest_body {length : Nat} (positive : 0 < length) (bytes : Bytes) :
    (body length positive).rest bytes = record.parseBody length bytes := by
  simp [rest, body, held]

theorem held_advance (s : Unframer) (value : Bytes)
    (unfilled : s.offset + s.count value < s.current.length) :
    (s.advance value unfilled).held = s.held ++ value.take (s.count value) := by
  have room := s.room
  have exact_ : (s.current.take s.offset ++ value.take (s.count value)).length =
      s.offset + s.count value := by
    simp only [count, List.length_append, List.length_take]
    omega
  show (s.fill value).take (s.offset + s.count value) = _
  rw [fill, ← exact_, List.take_left]
  rfl

/-- A turn that does not fill the buffer only moves bytes into it. -/
theorem rest_advance (s : Unframer) (value bytes : Bytes)
    (unfilled : s.offset + s.count value < s.current.length) :
    (s.advance value unfilled).rest (value.drop (s.count value) ++ bytes) =
      s.rest (value ++ bytes) := by
  have same : (s.advance value unfilled).held ++ (value.drop (s.count value) ++ bytes) =
      s.held ++ (value ++ bytes) := by
    rw [held_advance, List.append_assoc, ← List.append_assoc (value.take _), List.take_append_drop]
  have length : (s.advance value unfilled).current.length = s.current.length := by simp [advance]
  have reading : (s.advance value unfilled).readingHeader = s.readingHeader := rfl
  rw [rest, rest, same, length, reading]

/-- A turn that fills the buffer has all of it in front of the rest. -/
theorem held_fill (s : Unframer) (value bytes : Bytes)
    (filled : ¬ s.offset + s.count value < s.current.length) :
    s.held ++ (value ++ bytes) = s.fill value ++ (value.drop (s.count value) ++ bytes) := by
  have past : s.current.drop (s.offset + s.count value) = [] := List.drop_of_length_le (by omega)
  rw [fill, past, List.append_nil, held, List.append_assoc, ← List.append_assoc (value.take _),
    List.take_append_drop]

end Unframer

/-- **One chunk.**  What the reader of whole strings finds from here on is what the
loop yields of this chunk, and then what it finds from where the loop stops. -/
theorem feed_rest (s : Unframer) (value bytes : Bytes) :
    s.rest (value ++ bytes) =
      match feed s value with
      | (records, .error e) => (records, .refused e)
      | (records, .ok s') => (records ++ (s'.rest bytes).1, (s'.rest bytes).2) := by
  fun_induction feed s value with
  | case1 s => simp
  | case2 s value some value' unfilled ih => rw [← s.rest_advance value bytes unfilled, ih]
  | case3 s value some current filled reading e refused =>
      have whole : current.length = record.width := by simpa [current, record] using s.sized reading
      rw [measure_eq whole] at refused
      rw [Unframer.rest, if_pos reading, s.held_fill value bytes filled]
      exact Format.parse_refused _ whole refused
  | case4 s value some current value' filled reading length measured positive ih =>
      have whole : current.length = record.width := by simpa [current, record] using s.sized reading
      rw [measure_eq whole] at measured
      rw [Unframer.rest, if_pos reading, s.held_fill value bytes filled, ← ih,
        Unframer.rest_body positive]
      exact Format.parse_measured _ whole measured
  | case5 s value some current value' filled reading length measured zero records result fed ih =>
      have whole : current.length = record.width := by simpa [current, record] using s.sized reading
      rw [measure_eq whole] at measured
      have none_ : length = 0 := by omega
      subst none_
      rw [Unframer.rest, if_pos reading, s.held_fill value bytes filled,
        Format.parse_measured _ whole measured]
      have after := @Format.parseBody_whole _ record [] (value' ++ bytes)
      rw [List.nil_append, List.length_nil] at after
      rw [after, ← Unframer.rest_start, ih, fed]
      cases result <;> simp
  | case6 s value some current value' filled reading records result fed ih =>
      have whole : s.current.length = current.length := by simp [current]
      rw [Unframer.rest, if_neg reading, s.held_fill value bytes filled, whole,
        Format.parseBody_whole, ← Unframer.rest_start, ih, fed]
      cases result <;> simp

/-! ## Every way of cutting a string -/

theorem rest_nil (s : Unframer) :
    s.rest [] = ([], if s.offset ≠ 0 ∨ s.readingHeader = false then .truncated else .clean) := by
  have room := s.room
  have short : s.held.length = s.offset := by
    simp only [Unframer.held, List.length_take]
    omega
  rw [Unframer.rest, List.append_nil]
  by_cases reading : s.readingHeader = true
  · have sized := s.sized reading
    by_cases begun : s.offset = 0
    · have empty : s.held = [] := List.eq_nil_of_length_eq_zero (short.trans begun)
      simp [reading, begun, empty]
    · have nonempty : s.held ≠ [] := fun empty => begun (by rw [← short, empty, List.length_nil])
      have cut : s.held.length < record.width := by
        show s.held.length < 5
        omega
      simp [reading, begun, Format.parse_short nonempty cut]
  · have cut : s.held.length < s.current.length := by omega
    simp [reading, Format.parseBody_short cut]

/-- The loop from where it stands is the reader of whole strings from there. -/
theorem read_eq_rest (s : Unframer) (chunks : List Bytes) :
    read s chunks = ((s.rest chunks.flatten).1, thrown (s.rest chunks.flatten).2) := by
  induction chunks generalizing s with
  | nil =>
      rw [List.flatten_nil, rest_nil, read]
      split <;> rfl
  | cons value chunks ih =>
      rw [List.flatten_cons, feed_rest, read]
      split
      · rename_i records e fed
        simp [thrown]
      · rename_i records s' fed
        simp [ih]

/-- A framed message is one record in front of whatever follows. -/
theorem parse_frame {data framed : Bytes} (made : frame data = .ok framed) (rest : Bytes) :
    record.parse (framed ++ rest) = (data :: (record.parse rest).1, (record.parse rest).2) := by
  unfold frame at made
  split at made
  · cases made
  · rename_i fits
    have small : data.length < 256 ^ 4 := by
      have : maxMessage < 256 ^ 4 := by decide
      omega
    obtain rfl := Except.ok.inj made
    have header : (0 :: BigEndian.bytes 4 data.length).length = record.width := by simp [record]
    have announced : measure (0 :: BigEndian.bytes 4 data.length) = .ok data.length := by
      simp [measure, BigEndian.value_bytes_of_lt small, List.take_of_length_le, fits]
    rw [measure_eq header] at announced
    rw [List.append_assoc, Format.parse_measured _ header announced, Format.parseBody_whole]

theorem parse_frames {messages framed : List Bytes} (made : messages.mapM frame = .ok framed) :
    record.parse framed.flatten = (messages, .clean) := by
  induction messages generalizing framed with
  | nil =>
      cases made
      simp
  | cons data messages ih =>
      rw [List.mapM_cons] at made
      obtain ⟨first, one, made⟩ := Fallible.bind_eq_ok.1 made
      obtain ⟨others, more, made⟩ := Fallible.bind_eq_ok.1 made
      cases made
      rw [List.flatten_cons, parse_frame one, ih more]

theorem frames_of_small {messages : List Bytes} (small : ∀ m ∈ messages, m.length ≤ maxMessage) :
    ∃ framed, messages.mapM frame = .ok framed := by
  induction messages with
  | nil => exact ⟨[], rfl⟩
  | cons data messages ih =>
      obtain ⟨others, more⟩ := ih fun m inside => small m (List.mem_cons_of_mem data inside)
      have fits : ¬ maxMessage < data.length := by
        have := small data List.mem_cons_self
        omega
      refine ⟨(0 :: BigEndian.bytes 4 data.length ++ data) :: others, ?_⟩
      rw [List.mapM_cons, frame, if_neg fits, more]
      rfl

/-- **The record stream.**  However a string is cut into chunks, the reader yields the
records of the whole string and ends as the string ends.  In particular messages of at
most 1 MiB can be framed, and are read back from every cut of their frames. -/
theorem unframe_eq_parse :
    (∀ chunks, unframe chunks = parseRecords chunks.flatten) ∧
      ∀ messages : List Bytes, (∀ m ∈ messages, m.length ≤ maxMessage) →
        ∃ framed, messages.mapM frame = .ok framed ∧
          ∀ chunks : List Bytes, chunks.flatten = framed.flatten →
            unframe chunks = (messages, none) := by
  have whole : ∀ chunks, unframe chunks = parseRecords chunks.flatten := by
    intro chunks
    rw [unframe, read_eq_rest]
    simp [parseRecords]
  refine ⟨whole, fun messages small => ?_⟩
  obtain ⟨framed, made⟩ := frames_of_small small
  refine ⟨framed, made, fun chunks cut => ?_⟩
  rw [whole, cut, parseRecords, parse_frames made]
  rfl

end GrpcBridge.Rpc
