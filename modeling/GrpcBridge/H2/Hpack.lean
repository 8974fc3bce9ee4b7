/-
# H2.Hpack -- header compression

web/src/h2/hpack/hpack.ts and static-table.ts: prefix integers, strings, the decoder with
its dynamic table and the stateless encoder.  A `ByteReader` is the bytes that remain in
front of it, and reading behind the end is the `RangeError` of a `DataView`.

Header text is a `String`, for no decoder of UTF-8 returns half a surrogate pair; `length`
is still counted in UTF-16 code units, as the source does.  Lower case is a parameter of
the encoder (`toLowerCase`): nothing here depends on what it does to a name.
-/
import GrpcBridge.H2.Huffman
import GrpcBridge.Theory.Utf8

namespace GrpcBridge.H2

open GrpcBridge.Theory
open GrpcBridge.Theory.Bits

set_option autoImplicit false

/-! ## Text -/

def encodeUtf8 (s : String) : Bytes := Text.utf8 s.toList

def decodeUtf8 (b : Bytes) : String := String.ofList (Utf8.decode b)

/-- `s.length` -/
def jsLength (s : String) : Nat := (Utf8.units s.toList).length

/-- The loop of `utf8Length` over the code units of a string. -/
def utf8LengthOf : List Nat → Nat
  | [] => 0
  | [code] => if code ≤ 0x7F then 1 else if code ≤ 0x7FF then 2 else 3
  | code :: next :: later =>
      if code ≤ 0x7F then utf8LengthOf (next :: later) + 1
      else if code ≤ 0x7FF then utf8LengthOf (next :: later) + 2
      else if (0xD800 ≤ code ∧ code ≤ 0xDBFF) ∧ 0xDC00 ≤ next ∧ next ≤ 0xDFFF then
        utf8LengthOf later + 4
      else utf8LengthOf (next :: later) + 3

def utf8Length (value : String) : Nat := utf8LengthOf (Utf8.units value.toList)

/-! ## Integers -/

/-- The groups of seven bits behind a full prefix. -/
def writeRest (rest : Nat) : Bytes :=
  if rest < 128 then [UInt8.ofNat rest]
  else UInt8.ofNat (rest % 128 + 128) :: writeRest (rest / 128)
termination_by rest
decreasing_by omega

def writeInteger (value prefixBits firstByteFlags : Nat) : Bytes :=
  let max := 2 ^ prefixBits - 1
  if value < max then [UInt8.ofNat (firstByteFlags ||| value)]
  else UInt8.ofNat (firstByteFlags ||| max) :: writeRest (value - max)

def readRest (value shift : Nat) : Bytes → Except Thrown (Nat × Bytes)
  | [] => .error .range
  | byte :: rest =>
      let value := value + byte.toNat % 128 * 2 ^ shift
      let shift := shift + 7
      if 42 < shift then .error (compressionError "integer overflow")
      else if 128 ≤ byte.toNat then readRest value shift rest
      else .ok (value, rest)

def readInteger (prefixBits : Nat) : Bytes → Except Thrown (Nat × Bytes)
  | [] => .error .range
  | byte :: rest =>
      let max := 2 ^ prefixBits - 1
      let value := byte.toNat &&& max
      if value < max then .ok (value, rest) else readRest value 0 rest

/-! ## Strings -/

def peek : Bytes → Except Thrown UInt8
  | [] => .error .range
  | byte :: _ => .ok byte

def writeString (s : String) : Bytes :=
  let raw := encodeUtf8 s
  if huffmanShorter raw then
    let encoded := huffmanEncode raw
    writeInteger encoded.length 7 0x80 ++ encoded
  else writeInteger raw.length 7 0x00 ++ raw

def readString (r : Bytes) : Except Thrown (String × Bytes) := do
  let first ← peek r
  let (length, r) ← readInteger 7 r
  if r.length < length then throw (compressionError "string length exceeds block")
  let bytes ← (if has first 0x80 then huffmanDecode (r.take length) else .ok (r.take length))
  pure (decodeUtf8 bytes, r.drop length)

/-! ## Tables -/

abbrev HeaderEntry := String × String

/-- `STATIC_TABLE` -/
def staticTable : List HeaderEntry := [
  (":authority", ""), (":method", "GET"), (":method", "POST"), (":path", "/"),
  (":path", "/index.html"), (":scheme", "http"), (":scheme", "https"), (":status", "200"),
  (":status", "204"), (":status", "206"), (":status", "304"), (":status", "400"),
  (":status", "404"), (":status", "500"), ("accept-charset", ""),
  ("accept-encoding", "gzip, deflate"), ("accept-language", ""), ("accept-ranges", ""),
  ("accept", ""), ("access-control-allow-origin", ""), ("age", ""), ("allow", ""),
  ("authorization", ""), ("cache-control", ""), ("content-disposition", ""),
  ("content-encoding", ""), ("content-language", ""), ("content-length", ""),
  ("content-location", ""), ("content-range", ""), ("content-type", ""), ("cookie", ""),
  ("date", ""), ("etag", ""), ("expect", ""), ("expires", ""), ("from", ""), ("host", ""),
  ("if-match", ""), ("if-modified-since", ""), ("if-none-match", ""), ("if-range", ""),
  ("if-unmodified-since", ""), ("last-modified", ""), ("link", ""), ("location", ""),
  ("max-forwards", ""), ("proxy-authenticate", ""), ("proxy-authorization", ""), ("range", ""),
  ("referer", ""), ("refresh", ""), ("retry-after", ""), ("server", ""), ("set-cookie", ""),
  ("strict-transport-security", ""), ("transfer-encoding", ""), ("user-agent", ""), ("vary", ""),
  ("via", ""), ("www-authenticate", "")]

def staticTableLength : Nat := staticTable.length

/-- The key of a pair in `staticPairToIndex`. -/
def pairKey (name value : String) : String := name ++ "\x00" ++ value

/-- `staticNameToIndex.get`: the first entry with the name. -/
def staticNameToIndex (name : String) : Option Nat :=
  ((staticTable.zipIdx 1).find? fun e => e.1.1 = name).map Prod.snd

/-- `staticPairToIndex.get`: the last entry set under the key. -/
def staticPairToIndex (key : String) : Option Nat :=
  ((staticTable.zipIdx 1).reverse.find? fun e => pairKey e.1.1 e.1.2 = key).map Prod.snd

/-- `ENTRY_OVERHEAD` -/
def entryOverhead : Nat := 32

/-- `DEFAULT_TABLE_SIZE` -/
def defaultTableSize : Nat := 4096

def entrySize (e : HeaderEntry) : Nat := jsLength e.1 + jsLength e.2 + entryOverhead

/-- Take entries from the old end while there is too much. -/
def popWhile (tooMuch : Int → Bool) : List HeaderEntry → Int → List HeaderEntry × Int
  | [], size => ([], size)
  | oldest :: newer, size =>
      if tooMuch size then popWhile tooMuch newer (size - entrySize oldest)
      else (oldest :: newer, size)

structure HpackDecoder where
  /-- Newest first. -/
  dynamic : List HeaderEntry := []
  size : Int := 0
  maxSize : Nat := defaultTableSize
  protocolMax : Nat := defaultTableSize
deriving DecidableEq, Repr

namespace HpackDecoder

/-- `new HpackDecoder(maxSize)` -/
def new (maxSize : Nat) : HpackDecoder := { maxSize, protocolMax := maxSize }

def evictWhile (d : HpackDecoder) (tooMuch : Int → Bool) : HpackDecoder :=
  let left := popWhile tooMuch d.dynamic.reverse d.size
  { d with dynamic := left.1.reverse, size := left.2 }

def entryAt (d : HpackDecoder) (index : Nat) : Except Thrown HeaderEntry :=
  if 1 ≤ index ∧ index ≤ staticTableLength then .ok (staticTable.getD (index - 1) ("", ""))
  else
    -- index 0 is the offset -62 in the dynamic table, where there is nothing
    match if index = 0 then none else d.dynamic[index - staticTableLength - 1]? with
    | some entry => .ok entry
    | none => .error (compressionError s!"invalid HPACK index {index}")

def insert (d : HpackDecoder) (entry : HeaderEntry) : HpackDecoder :=
  let d := d.evictWhile fun size => decide ((d.maxSize : Int) < size + entrySize entry)
  if entrySize entry ≤ d.maxSize then
    { d with dynamic := entry :: d.dynamic, size := d.size + entrySize entry }
  else { d with dynamic := [], size := 0 }

def applyMaxSize (d : HpackDecoder) (newSize : Nat) : Except Thrown HpackDecoder :=
  if d.protocolMax < newSize then
    .error (compressionError "dynamic table size update too large")
  else
    .ok ({ d with maxSize := newSize }.evictWhile fun size => decide ((newSize : Int) < size))

/-- The largest table size the peer was told. -/
def setProtocolMaxSize (d : HpackDecoder) (n : Nat) : HpackDecoder :=
  let d := { d with protocolMax := n }
  if n < d.maxSize then
    match d.applyMaxSize n with
    | .ok d => d
    | .error _ => d
  else d

/-! ## One field -/

/-- `nameIndex === 0 ? readString(r) : this.entryAt(nameIndex)[0]` -/
def readName (d : HpackDecoder) (nameIndex : Nat) (r : Bytes) :
    Except Thrown (String × Bytes) :=
  if nameIndex = 0 then readString r
  else do
    let entry ← d.entryAt nameIndex
    pure (entry.1, r)

def readLiteral (d : HpackDecoder) (prefixBits : Nat) (r : Bytes) :
    Except Thrown (HeaderEntry × Bytes) := do
  let (nameIndex, r) ← readInteger prefixBits r
  let (name, r) ← d.readName nameIndex r
  let (value, r) ← readString r
  pure ((name, value), r)

/-- One round of the loop in `decode`: the table, the field if there is one, and the rest.
What throws throws before it changes the table. -/
def decodeField (d : HpackDecoder) (r : Bytes) :
    Except Thrown (HpackDecoder × Option HeaderEntry × Bytes) := do
  let first ← peek r
  if has first 0x80 then
    let (index, r) ← readInteger 7 r
    if index = 0 then throw (compressionError "indexed field with index 0")
    let entry ← d.entryAt index
    pure (d, some entry, r)
  else if has first 0x40 then
    let (entry, r) ← d.readLiteral 6 r
    pure (d.insert entry, some entry, r)
  else if has first 0x20 then
    let (newSize, r) ← readInteger 5 r
    let d ← d.applyMaxSize newSize
    pure (d, none, r)
  else
    let (entry, r) ← d.readLiteral 4 r
    pure (d, some entry, r)

end HpackDecoder

/-! ## A block -/

structure HeaderDecodeLimits where
  maxHeaderListBytes : Nat
  maxHeaderCount : Nat
  streamId : Option Nat := none
deriving DecidableEq, Repr

/-- The header list and the budget of one call of `decode`. -/
structure Budget where
  headers : List Header := []
  headerListBytes : Nat := 0
  fieldCount : Nat := 0
  rejected : Bool := false
deriving DecidableEq, Repr

def fieldBytes (entry : HeaderEntry) : Nat :=
  utf8Length entry.1 + utf8Length entry.2 + entryOverhead

def overLimits (limits : Option HeaderDecodeLimits) (fieldCount nextBytes : Nat) : Bool :=
  match limits with
  | none => false
  | some limits => limits.maxHeaderCount ≤ fieldCount || limits.maxHeaderListBytes < nextBytes

def recordHeader (limits : Option HeaderDecodeLimits) (budget : Budget) (entry : HeaderEntry) :
    Budget :=
  if budget.rejected then budget
  else
    let nextBytes := budget.headerListBytes + fieldBytes entry
    let rejected := overLimits limits budget.fieldCount nextBytes
    { headers :=
        if rejected then budget.headers
        else budget.headers ++ [{ name := entry.1, value := entry.2 }]
      headerListBytes := nextBytes
      fieldCount := budget.fieldCount + 1
      rejected }

namespace HpackDecoder

/-- The loop of `decode`.  Every round takes a byte at least, so the length of the block is
enough fuel (`decodeFields_fuel`). -/
def decodeFields (limits : Option HeaderDecodeLimits) :
    Nat → HpackDecoder → Budget → Bytes → HpackDecoder × Except Thrown Budget
  | 0, d, budget, _ => (d, .ok budget)
  | fuel + 1, d, budget, r =>
      if r = [] then (d, .ok budget)
      else
        match d.decodeField r with
        | .error e => (d, .error e)
        | .ok (d, none, r) => decodeFields limits fuel d budget r
        | .ok (d, some entry, r) => decodeFields limits fuel d (recordHeader limits budget entry) r

def decode (d : HpackDecoder) (block : Bytes) (limits : Option HeaderDecodeLimits) :
    HpackDecoder × Except Thrown (List Header) :=
  match decodeFields limits block.length d {} block with
  | (d, .error e) => (d, .error e)
  | (d, .ok budget) =>
      if budget.rejected then
        (d, .error (.h2
          { code := .enhanceYourCalm
            message := "decoded header list exceeds configured limit"
            streamId := limits.bind (·.streamId) }))
      else (d, .ok budget.headers)

end HpackDecoder

/-! ## The loop runs to the end of the block -/

theorem readRest_shorter {r rest : Bytes} {value shift result : Nat}
    (read : readRest value shift r = .ok (result, rest)) : rest.length < r.length := by
  induction r generalizing value shift with
  | nil => cases read
  | cons byte r ih =>
      rw [readRest] at read
      split at read
      · cases read
      · split at read
        · exact Nat.lt_succ_of_lt (ih read)
        · cases read
          exact Nat.lt_succ_self _

theorem readInteger_shorter {prefixBits value : Nat} {r rest : Bytes}
    (read : readInteger prefixBits r = .ok (value, rest)) : rest.length < r.length := by
  cases r with
  | nil => cases read
  | cons byte r =>
      rw [readInteger] at read
      split at read
      · cases read
        exact Nat.lt_succ_self _
      · exact Nat.lt_succ_of_lt (readRest_shorter read)

theorem readString_shorter {r rest : Bytes} {s : String} (read : readString r = .ok (s, rest)) :
    rest.length < r.length := by
  obtain ⟨first, -, read⟩ := Fallible.bind_eq_ok.1 read
  obtain ⟨⟨length, left⟩, integer, read⟩ := Fallible.bind_eq_ok.1 read
  have shorter := readInteger_shorter integer
  dsimp only at read
  split at read
  · cases read
  · obtain ⟨bytes, -, read⟩ := Fallible.bind_eq_ok.1 read
    cases read
    rw [List.length_drop]
    omega

namespace HpackDecoder

theorem readLiteral_shorter {d : HpackDecoder} {prefixBits : Nat} {r rest : Bytes}
    {entry : HeaderEntry} (read : d.readLiteral prefixBits r = .ok (entry, rest)) :
    rest.length < r.length := by
  obtain ⟨⟨nameIndex, afterIndex⟩, integer, read⟩ := Fallible.bind_eq_ok.1 read
  obtain ⟨⟨name, afterName⟩, named, read⟩ := Fallible.bind_eq_ok.1 read
  obtain ⟨⟨value, afterValue⟩, string, read⟩ := Fallible.bind_eq_ok.1 read
  cases read
  have first := readInteger_shorter integer
  have last := readString_shorter string
  have middle : afterName.length ≤ afterIndex.length := by
    rw [readName] at named
    split at named
    · exact Nat.le_of_lt (readString_shorter named)
    · obtain ⟨found, -, named⟩ := Fallible.bind_eq_ok.1 named
      cases named
      exact Nat.le_refl _
  omega

/-- **What one round does**: a field, which may enter the table, or a size update. -/
theorem decodeField_cases {d d' : HpackDecoder} {r rest : Bytes} {field : Option HeaderEntry}
    (read : d.decodeField r = .ok (d', field, rest)) :
    rest.length < r.length ∧
      ((∃ entry, field = some entry ∧ (d' = d ∨ d' = d.insert entry)) ∨
        ∃ newSize, field = none ∧ d.applyMaxSize newSize = .ok d') := by
  obtain ⟨first, -, read⟩ := Fallible.bind_eq_ok.1 read
  dsimp only at read
  split at read
  · obtain ⟨⟨index, left⟩, integer, read⟩ := Fallible.bind_eq_ok.1 read
    dsimp only at read
    split at read
    · cases read
    · obtain ⟨entry, -, read⟩ := Fallible.bind_eq_ok.1 read
      cases read
      exact ⟨readInteger_shorter integer, .inl ⟨entry, rfl, .inl rfl⟩⟩
  · split at read
    · obtain ⟨⟨entry, left⟩, literal, read⟩ := Fallible.bind_eq_ok.1 read
      cases read
      exact ⟨readLiteral_shorter literal, .inl ⟨entry, rfl, .inr rfl⟩⟩
    · split at read
      · obtain ⟨⟨newSize, left⟩, integer, read⟩ := Fallible.bind_eq_ok.1 read
        obtain ⟨applied, size, read⟩ := Fallible.bind_eq_ok.1 read
        cases read
        exact ⟨readInteger_shorter integer, .inr ⟨newSize, rfl, size⟩⟩
      · obtain ⟨⟨entry, left⟩, literal, read⟩ := Fallible.bind_eq_ok.1 read
        cases read
        exact ⟨readLiteral_shorter literal, .inl ⟨entry, rfl, .inl rfl⟩⟩

variable {limits : Option HeaderDecodeLimits}

/-- Fuel for the bytes that are left is enough. -/
theorem decodeFields_fuel {fuel : Nat} {d : HpackDecoder} {budget : Budget} {r : Bytes}
    (enough : r.length ≤ fuel) :
    decodeFields limits fuel d budget r = decodeFields limits r.length d budget r := by
  induction fuel using Nat.strongRecOn generalizing d budget r with
  | _ fuel ih =>
      cases r with
      | nil => cases fuel <;> rfl
      | cons byte r =>
          cases fuel with
          | zero => exact absurd enough (Nat.not_succ_le_zero _)
          | succ fuel =>
              rw [List.length_cons] at enough
              rw [List.length_cons, decodeFields, decodeFields]
              cases field : d.decodeField (byte :: r) with
              | error e => rfl
              | ok next =>
                  obtain ⟨d', entry, rest⟩ := next
                  have shorter := (decodeField_cases field).1
                  rw [List.length_cons] at shorter
                  cases entry <;>
                    · dsimp only
                      rw [ih fuel (Nat.lt_succ_self _) (by omega),
                        ← ih r.length (by omega) (by omega)]

/-- The loop on all that is left. -/
def decodeRest (limits : Option HeaderDecodeLimits) (d : HpackDecoder) (budget : Budget)
    (r : Bytes) : HpackDecoder × Except Thrown Budget :=
  decodeFields limits r.length d budget r

theorem decodeRest_error {d : HpackDecoder} (budget : Budget) {r : Bytes} {e : Thrown}
    (some : r ≠ []) (failed : d.decodeField r = .error e) :
    decodeRest limits d budget r = (d, .error e) := by
  cases r with
  | nil => exact absurd rfl some
  | cons byte r => rw [decodeRest, List.length_cons, decodeFields, if_neg some, failed]

theorem decodeRest_step {d d' : HpackDecoder} (budget : Budget) {r rest : Bytes}
    {field : Option HeaderEntry} (read : d.decodeField r = .ok (d', field, rest)) :
    decodeRest limits d budget r =
      decodeRest limits d' (field.elim budget (recordHeader limits budget)) rest := by
  have shorter := (decodeField_cases read).1
  cases r with
  | nil => exact absurd shorter (Nat.not_lt_zero _)
  | cons byte r =>
      rw [List.length_cons] at shorter
      rw [decodeRest, List.length_cons, decodeFields, if_neg (by simp), read]
      cases field <;> exact decodeFields_fuel (by omega)

end HpackDecoder

/-! ## Encoding -/

/-- A header to send, and whether it must not be indexed. -/
structure SentHeader extends Header where
  neverIndex : Bool := false
deriving DecidableEq, Repr

variable (toLowerCase : String → String)

def encodeHeader (header : SentHeader) : Bytes :=
  let name := toLowerCase header.name
  match staticPairToIndex (pairKey name header.value) with
  | some pair => writeInteger pair 7 0x80
  | none =>
      let flags := if header.neverIndex then 0x10 else 0x00
      (match staticNameToIndex name with
        | some nameIndex => writeInteger nameIndex 4 flags
        | none => writeInteger 0 4 flags ++ writeString name) ++
        writeString header.value

/-- `HpackEncoder.encode` -/
def hpackEncode (headers : List SentHeader) : Bytes := headers.flatMap (encodeHeader toLowerCase)

end GrpcBridge.H2
