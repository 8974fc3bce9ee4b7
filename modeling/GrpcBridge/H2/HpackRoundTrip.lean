/-
# H2.HpackRoundTrip -- what the encoder writes, the decoder reads

A header block of `hpackEncode` is decoded to the headers it was made of whatever is in the
dynamic table of the decoder, and leaves that table alone (`decode_hpackEncode`).  What the
decoder makes of a header is `received`: its name in lower case, and neither string with a
byte order mark in front.

The static table is looked up under the name and the value with a U+0000 between them.  No
entry of the table has one, so a key that is found is the key of no other header
(`pairKey_inj`), and all that the encoder asks of a string is that it can hold it
(`Sendable`).
-/
import GrpcBridge.H2.HpackTable
import Mathlib.Data.List.Basic

namespace GrpcBridge.H2

open GrpcBridge.Theory
open GrpcBridge.Theory.Bits

set_option autoImplicit false

/-! ## Bits of the first byte -/

theorem has_80 (b : UInt8) : has b 0x80 = decide (128 ≤ b.toNat) := by
  have all : ∀ n : Fin 256, has (UInt8.ofNat n) 0x80 = decide (128 ≤ n.val) := by decide +kernel
  simpa using all ⟨b.toNat, b.toNat_lt⟩

theorem has_40 (b : UInt8) : has b 0x40 = decide (64 ≤ b.toNat % 128) := by
  have all : ∀ n : Fin 256, has (UInt8.ofNat n) 0x40 = decide (64 ≤ n.val % 128) := by
    decide +kernel
  simpa using all ⟨b.toNat, b.toNat_lt⟩

theorem has_20 (b : UInt8) : has b 0x20 = decide (32 ≤ b.toNat % 64) := by
  have all : ∀ n : Fin 256, has (UInt8.ofNat n) 0x20 = decide (32 ≤ n.val % 64) := by
    decide +kernel
  simpa using all ⟨b.toNat, b.toNat_lt⟩

/-! ## Integers -/

theorem readRest_writeRest (groups : Nat) (n value shift : Nat) (small : n < 128 ^ groups)
    (positive : 0 < groups) (room : shift + 7 * groups = 42) (rest : Bytes) :
    readRest value shift (writeRest n ++ rest) = .ok (value + n * 2 ^ shift, rest) := by
  induction groups generalizing n value shift with
  | zero => exact absurd positive (Nat.lt_irrefl 0)
  | succ groups ih =>
      rw [writeRest]
      split
      · rename_i last
        have byte : (UInt8.ofNat n).toNat = n := toNat_ofNat (by omega)
        rw [List.singleton_append, readRest, byte, Nat.mod_eq_of_lt last]
        rw [if_neg (by omega), if_neg (by omega)]
      · rename_i more
        have byte : (UInt8.ofNat (n % 128 + 128)).toNat = n % 128 + 128 :=
          toNat_ofNat (by omega)
        have left : n / 128 < 128 ^ groups := by
          rw [Nat.div_lt_iff_lt_mul (by decide)]
          rwa [Nat.pow_succ] at small
        have again : 0 < groups := by
          rcases Nat.eq_zero_or_pos groups with none | some
          · rw [none, Nat.zero_add, Nat.pow_one] at small
            omega
          · exact some
        have digit : (n % 128 + 128) % 128 = n % 128 := by omega
        have scale : 2 ^ (shift + 7) = 128 * 2 ^ shift := by
          rw [Nat.pow_add, Nat.mul_comm]
        have value' : value + n % 128 * 2 ^ shift + n / 128 * 2 ^ (shift + 7) =
            value + n * 2 ^ shift := by
          rw [scale, ← Nat.mul_assoc, Nat.add_assoc, ← Nat.add_mul]
          congr 2
          omega
        rw [List.cons_append, readRest, byte, digit]
        rw [if_neg (by omega), if_pos (by omega), ih _ _ _ left again (by omega), value']

/-- Flags above a prefix do not touch it. -/
theorem flags_or {prefixBits flags value : Nat} (above : flags % 2 ^ prefixBits = 0)
    (small : value < 2 ^ prefixBits) : flags ||| value = flags + value := by
  have whole : flags = (flags / 2 ^ prefixBits) <<< prefixBits := by
    rw [Nat.shiftLeft_eq, Nat.div_mul_cancel (Nat.dvd_of_mod_eq_zero above)]
  rw [whole, ← Nat.shiftLeft_add_eq_or_of_lt small]

section Integers

variable {prefixBits flags : Nat} (above : flags % 2 ^ prefixBits = 0)
  (fits : flags + 2 ^ prefixBits ≤ 256)

include above fits

/-- The first byte of an integer holds the flags and as much of it as fits. -/
theorem writeInteger_first (value : Nat) :
    ∃ first tail, writeInteger value prefixBits flags = first :: tail ∧
      first.toNat = flags + min value (2 ^ prefixBits - 1) := by
  have positive : 0 < 2 ^ prefixBits := Nat.pow_pos (by decide)
  rw [writeInteger]
  split
  · rename_i small
    refine ⟨_, _, rfl, ?_⟩
    rw [flags_or above (by omega), toNat_ofNat (by omega), Nat.min_eq_left (by omega)]
  · refine ⟨_, _, rfl, ?_⟩
    rw [flags_or above (by omega), toNat_ofNat (by omega), Nat.min_eq_right (by omega)]

theorem readInteger_writeInteger {value : Nat} (small : value < 2 ^ 42) (rest : Bytes) :
    readInteger prefixBits (writeInteger value prefixBits flags ++ rest) = .ok (value, rest) := by
  have positive : 0 < 2 ^ prefixBits := Nat.pow_pos (by decide)
  have low : ∀ v, v < 2 ^ prefixBits → (flags + v) % 2 ^ prefixBits = v := by
    intro v below
    rw [Nat.add_mod, above, Nat.zero_add, Nat.mod_mod, Nat.mod_eq_of_lt below]
  rw [writeInteger]
  split
  · rename_i short
    rw [flags_or above (by omega), List.singleton_append, readInteger,
      toNat_ofNat (by omega), Nat.and_two_pow_sub_one_eq_mod, low value (by omega)]
    rw [if_pos short]
  · rename_i long
    have groups : value - (2 ^ prefixBits - 1) < 128 ^ 6 := by
      have same : (128 : Nat) ^ 6 = 2 ^ 42 := by decide
      omega
    rw [flags_or above (by omega), List.cons_append, readInteger,
      toNat_ofNat (by omega), Nat.and_two_pow_sub_one_eq_mod,
      low (2 ^ prefixBits - 1) (by omega)]
    rw [if_neg (Nat.lt_irrefl _), readRest_writeRest 6 _ _ 0 groups (by decide) rfl]
    congr 2
    omega

end Integers

/-! ## Strings -/

/-- A string on the wire: its length with the Huffman flag, and its bytes. -/
def stringOnWire (huffman : Bool) (wire : Bytes) : Bytes :=
  writeInteger wire.length 7 (if huffman then 0x80 else 0x00) ++ wire

/-- What is read of a string that is complete. -/
theorem readString_wire (huffman : Bool) {wire text : Bytes} (short : wire.length < 2 ^ 42)
    (meant : (if huffman then huffmanDecode wire else .ok wire) = .ok text) (rest : Bytes) :
    readString (stringOnWire huffman wire ++ rest) = .ok (decodeUtf8 text, rest) := by
  have above : (if huffman then 0x80 else 0x00) % 2 ^ 7 = 0 := by cases huffman <;> rfl
  have fits : (if huffman then 0x80 else 0x00) + 2 ^ 7 ≤ 256 := by cases huffman <;> decide
  obtain ⟨first, tail, written, byte⟩ := writeInteger_first above fits wire.length
  have flag : has first 0x80 = huffman := by
    rw [has_80, byte]
    cases huffman
    · exact decide_eq_false (by simp only [Bool.false_eq_true, if_false]; omega)
    · exact decide_eq_true (by simp only [if_true]; omega)
  have head : peek (stringOnWire huffman wire ++ rest) = .ok first := by
    rw [stringOnWire, written]
    rfl
  have read : readInteger 7 (stringOnWire huffman wire ++ rest) = .ok (wire.length, wire ++ rest) := by
    rw [stringOnWire, List.append_assoc, readInteger_writeInteger above fits short]
  have enough : ¬ (wire ++ rest).length < wire.length := by
    rw [List.length_append]
    omega
  have bytes : (if has first 0x80 = true then huffmanDecode ((wire ++ rest).take wire.length)
      else .ok ((wire ++ rest).take wire.length)) = .ok text := by
    rw [flag, List.take_left]
    exact meant
  rw [readString, head, Fallible.bind_ok, read, Fallible.bind_ok]
  simp only [enough, if_false, List.drop_left, bytes]
  rfl

/-- The Huffman positions of the encoder do not run over. -/
def Fits (s : String) : Prop := encodedBitLength (encodeUtf8 s) + 7 < 2 ^ 32

instance (s : String) : Decidable (Fits s) := inferInstanceAs (Decidable (_ < _))

/-- The text without a byte order mark in front. -/
def withoutMark (s : String) : String := String.ofList (Utf8.dropMark s.toList)

theorem decodeUtf8_encodeUtf8 (s : String) : decodeUtf8 (encodeUtf8 s) = withoutMark s := by
  rw [decodeUtf8, encodeUtf8, Utf8.decode_utf8, withoutMark]

theorem length_le_bits (input : Bytes) : input.length ≤ encodedBitLength input := by
  rw [encodedBitLength_eq]
  induction input with
  | nil => exact Nat.zero_le _
  | cons byte input ih =>
      have long := (huffmanWord_bounds (Nat.le_of_lt byte.toNat_lt)).1
      rw [huffmanBits_cons, List.length_append, List.length_cons]
      omega

theorem huffmanEncode_length {input : Bytes} (fits : encodedBitLength input + 7 < 2 ^ 32) :
    (huffmanEncode input).length < 2 ^ 32 := by
  obtain ⟨k, small, written⟩ := bits_huffmanEncode fits
  have size := congrArg List.length written
  rw [bits_length, List.length_append, List.length_replicate, ← encodedBitLength_eq] at size
  omega

theorem readString_writeString {s : String} (fits : Fits s) (rest : Bytes) :
    readString (writeString s ++ rest) = .ok (withoutMark s, rest) := by
  rw [← decodeUtf8_encodeUtf8]
  rw [writeString]
  simp only
  split
  · have short := huffmanEncode_length fits
    exact readString_wire true (by omega) ((huffmanDecode_iff fits).2 rfl) rest
  · have short := length_le_bits (encodeUtf8 s)
    have below : encodedBitLength (encodeUtf8 s) + 7 < 2 ^ 32 := fits
    exact readString_wire false (by omega) rfl rest

/-! ## Representations -/

/-- A string literal as it stands in a block. -/
structure WireString where
  huffman : Bool
  wire : Bytes

namespace WireString

def bytes (s : WireString) : Bytes := stringOnWire s.huffman s.wire

/-- The octets it stands for. -/
def octets (s : WireString) : Except Thrown Bytes :=
  if s.huffman then huffmanDecode s.wire else .ok s.wire

end WireString

inductive WireName where
  | index (index : Nat)
  | literal (name : WireString)

/-- The three literal forms: only the first one enters the field in the table. -/
inductive Mode where
  | incremental
  | without
  | never
deriving DecidableEq, Repr

namespace Mode

def prefixBits : Mode → Nat
  | .incremental => 6
  | _ => 4

def flags : Mode → Nat
  | .incremental => 0x40
  | .without => 0x00
  | .never => 0x10

end Mode

/-- What a header block is a sequence of. -/
inductive Representation where
  | indexed (index : Nat)
  | literal (mode : Mode) (name : WireName) (value : WireString)
  | sizeUpdate (newSize : Nat)

namespace Representation

def bytes : Representation → Bytes
  | .indexed index => writeInteger index 7 0x80
  | .literal mode (.index index) value => writeInteger index mode.prefixBits mode.flags ++ value.bytes
  | .literal mode (.literal name) value =>
      writeInteger 0 mode.prefixBits mode.flags ++ (name.bytes ++ value.bytes)
  | .sizeUpdate newSize => writeInteger newSize 5 0x20

end Representation

section Fields

variable {d : HpackDecoder} (rest : Bytes)

/-- Reading an integer through its flags, which say what comes. -/
theorem begin_field (prefixBits flags : Nat) {value : Nat} (above : flags % 2 ^ prefixBits = 0)
    (fits : flags + 2 ^ prefixBits ≤ 256) (small : value < 2 ^ 42) (more : Bytes) :
    ∃ first, peek (writeInteger value prefixBits flags ++ more) = .ok first ∧
      first.toNat = flags + min value (2 ^ prefixBits - 1) ∧
      readInteger prefixBits (writeInteger value prefixBits flags ++ more) = .ok (value, more) := by
  obtain ⟨first, tail, written, byte⟩ := writeInteger_first above fits value
  refine ⟨first, ?_, byte, readInteger_writeInteger above fits small more⟩
  rw [written]
  rfl

theorem decodeField_indexed {index : Nat} {entry : HeaderEntry} (small : index < 2 ^ 42)
    (positive : index ≠ 0) (found : d.entryAt index = .ok entry) :
    d.decodeField (writeInteger index 7 0x80 ++ rest) = .ok (d, some entry, rest) := by
  obtain ⟨first, head, byte, read⟩ := begin_field 7 0x80 (by decide) (by decide) small rest
  have flag : has first 0x80 = true := by
    rw [has_80, byte]
    exact decide_eq_true (by omega)
  rw [HpackDecoder.decodeField, head, Fallible.bind_ok, flag, if_pos rfl, read, Fallible.bind_ok]
  simp only [positive, if_false, found]
  rfl

theorem decodeField_sizeUpdate {newSize : Nat} {d' : HpackDecoder} (small : newSize < 2 ^ 42)
    (applied : d.applyMaxSize newSize = .ok d') :
    d.decodeField (writeInteger newSize 5 0x20 ++ rest) = .ok (d', none, rest) := by
  obtain ⟨first, head, byte, read⟩ := begin_field 5 0x20 (by decide) (by decide) small rest
  have low : min newSize (2 ^ 5 - 1) ≤ 31 := Nat.min_le_right _ _
  have flag : has first 0x80 = false ∧ has first 0x40 = false ∧ has first 0x20 = true := by
    rw [has_80, has_40, has_20, byte]
    exact ⟨decide_eq_false (by omega), decide_eq_false (by omega), decide_eq_true (by omega)⟩
  rw [HpackDecoder.decodeField, head, Fallible.bind_ok, flag.1, flag.2.1, flag.2.2, if_neg (by decide),
    if_neg (by decide), if_pos rfl, read, Fallible.bind_ok]
  simp only [applied]
  rfl

/-- What a literal form leaves in the table. -/
def Mode.table (mode : Mode) (d : HpackDecoder) (entry : HeaderEntry) : HpackDecoder :=
  match mode with
  | .incremental => d.insert entry
  | _ => d

theorem decodeField_mode (mode : Mode) {nameIndex : Nat} (small : nameIndex < 2 ^ 42)
    {more : Bytes} {entry : HeaderEntry}
    (literal : d.readLiteral mode.prefixBits
      (writeInteger nameIndex mode.prefixBits mode.flags ++ more) = .ok (entry, rest)) :
    d.decodeField (writeInteger nameIndex mode.prefixBits mode.flags ++ more) =
      .ok (mode.table d entry, some entry, rest) := by
  obtain ⟨first, head, byte, -⟩ := begin_field mode.prefixBits mode.flags
    (by cases mode <;> rfl) (by cases mode <;> decide) small more
  rw [HpackDecoder.decodeField, head, Fallible.bind_ok]
  cases mode with
  | incremental =>
      have low : min nameIndex (2 ^ 6 - 1) ≤ 63 := Nat.min_le_right _ _
      have flag : has first 0x80 = false ∧ has first 0x40 = true := by
        rw [has_80, has_40, byte]
        simp only [Mode.flags, Mode.prefixBits]
        exact ⟨decide_eq_false (by omega), decide_eq_true (by omega)⟩
      rw [flag.1, flag.2, if_neg (by decide), if_pos rfl]
      simp only [Mode.prefixBits] at literal ⊢
      rw [literal]
      rfl
  | without =>
      have low : min nameIndex (2 ^ 4 - 1) ≤ 15 := Nat.min_le_right _ _
      have flag : has first 0x80 = false ∧ has first 0x40 = false ∧ has first 0x20 = false := by
        rw [has_80, has_40, has_20, byte]
        simp only [Mode.flags, Mode.prefixBits]
        exact ⟨decide_eq_false (by omega), decide_eq_false (by omega), decide_eq_false (by omega)⟩
      rw [flag.1, flag.2.1, flag.2.2, if_neg (by decide), if_neg (by decide), if_neg (by decide)]
      simp only [Mode.prefixBits] at literal ⊢
      rw [literal]
      rfl
  | never =>
      have low : min nameIndex (2 ^ 4 - 1) ≤ 15 := Nat.min_le_right _ _
      have flag : has first 0x80 = false ∧ has first 0x40 = false ∧ has first 0x20 = false := by
        rw [has_80, has_40, has_20, byte]
        simp only [Mode.flags, Mode.prefixBits]
        exact ⟨decide_eq_false (by omega), decide_eq_false (by omega), decide_eq_false (by omega)⟩
      rw [flag.1, flag.2.1, flag.2.2, if_neg (by decide), if_neg (by decide), if_neg (by decide)]
      simp only [Mode.prefixBits] at literal ⊢
      rw [literal]
      rfl

theorem readLiteral_index (mode : Mode) {index : Nat} {entry : HeaderEntry} {value : WireString}
    {octets : Bytes} (small : index < 2 ^ 42) (positive : index ≠ 0)
    (found : d.entryAt index = .ok entry) (short : value.wire.length < 2 ^ 42)
    (meant : value.octets = .ok octets) :
    d.readLiteral mode.prefixBits
        (writeInteger index mode.prefixBits mode.flags ++ (value.bytes ++ rest)) =
      .ok ((entry.1, decodeUtf8 octets), rest) := by
  have read := @readInteger_writeInteger mode.prefixBits mode.flags
    (by cases mode <;> rfl) (by cases mode <;> decide) _ small (value.bytes ++ rest)
  rw [HpackDecoder.readLiteral, read, Fallible.bind_ok]
  simp only [HpackDecoder.readName, positive, if_false, found, Fallible.bind_ok]
  rw [WireString.bytes, show (pure (entry.1, _) : Except Thrown (String × Bytes)) = .ok _ from rfl,
    Fallible.bind_ok, readString_wire _ short meant]
  rfl

theorem readLiteral_literal (mode : Mode) {name value : WireString} {nameOctets octets : Bytes}
    (nameShort : name.wire.length < 2 ^ 42) (nameMeant : name.octets = .ok nameOctets)
    (short : value.wire.length < 2 ^ 42) (meant : value.octets = .ok octets) :
    d.readLiteral mode.prefixBits
        (writeInteger 0 mode.prefixBits mode.flags ++ (name.bytes ++ (value.bytes ++ rest))) =
      .ok ((decodeUtf8 nameOctets, decodeUtf8 octets), rest) := by
  have read := @readInteger_writeInteger mode.prefixBits mode.flags
    (by cases mode <;> rfl) (by cases mode <;> decide) 0 (by decide)
    (name.bytes ++ (value.bytes ++ rest))
  rw [HpackDecoder.readLiteral, read, Fallible.bind_ok]
  simp only [HpackDecoder.readName, if_true]
  rw [WireString.bytes, readString_wire _ nameShort nameMeant, Fallible.bind_ok, WireString.bytes]
  simp only
  rw [readString_wire _ short meant]
  rfl

end Fields

/-! ## The static table -/

theorem staticTable_keys : ∀ e ∈ staticTable, '\x00' ∉ e.1.toList ∧ '\x00' ∉ e.2.toList ∧
    withoutMark e.1 = e.1 ∧ withoutMark e.2 = e.2 := by
  decide +kernel

theorem entryAt_static (d : HpackDecoder) {index : Nat} {entry : HeaderEntry}
    (member : (entry, index) ∈ staticTable.zipIdx 1) :
    d.entryAt index = .ok entry ∧ index ≠ 0 ∧ index < 2 ^ 42 ∧ entry ∈ staticTable := by
  obtain ⟨from_, upto, same⟩ := List.mem_zipIdx member
  have length : staticTable.length = 61 := by decide
  have inside : 1 ≤ index ∧ index ≤ staticTableLength := ⟨from_, by rw [staticTableLength]; omega⟩
  have there : index - 1 < staticTable.length := by omega
  refine ⟨?_, by omega, by omega, same ▸ List.getElem_mem _⟩
  rw [HpackDecoder.entryAt, if_pos inside, List.getD_eq_getElem _ _ there]
  exact congrArg Except.ok same.symm

/-- The key of an entry of the table is the key of no other pair. -/
theorem pairKey_inj {name value name' value' : String} (plain : '\x00' ∉ name.toList)
    (plain' : '\x00' ∉ value.toList) (same : pairKey name value = pairKey name' value') :
    name = name' ∧ value = value' := by
  have lists := congrArg String.toList same
  simp only [pairKey, String.toList_append] at lists
  have split :
      name.toList ++ '\x00' :: value.toList = name'.toList ++ '\x00' :: value'.toList := by
    simpa using lists
  obtain ⟨first, -, second⟩ := (List.append_cons_inj_of_notMem plain plain').1 split
  exact ⟨String.toList_inj.1 first, String.toList_inj.1 second⟩

/-! ## Header blocks -/

section Headers

variable (toLowerCase : String → String)

/-- A header whose strings the encoder can hold. -/
structure Sendable (h : SentHeader) : Prop where
  fitsName : Fits (toLowerCase h.name)
  fitsValue : Fits h.value

instance (h : SentHeader) : Decidable (Sendable toLowerCase h) :=
  decidable_of_iff (Fits (toLowerCase h.name) ∧ Fits h.value)
    ⟨fun ⟨a, b⟩ => ⟨a, b⟩, fun ⟨a, b⟩ => ⟨a, b⟩⟩

/-- What the decoder makes of a header. -/
def received (h : SentHeader) : HeaderEntry :=
  (withoutMark (toLowerCase h.name), withoutMark h.value)

/-- How a string is written. -/
def wireString (s : String) : WireString :=
  let raw := encodeUtf8 s
  if huffmanShorter raw then ⟨true, huffmanEncode raw⟩ else ⟨false, raw⟩

theorem wireString_bytes (s : String) : (wireString s).bytes = writeString s := by
  rw [wireString, writeString]
  split <;> rfl

theorem wireString_sound {s : String} (fits : Fits s) :
    (wireString s).wire.length < 2 ^ 42 ∧ (wireString s).octets = .ok (encodeUtf8 s) := by
  rw [wireString]
  split
  · have short := huffmanEncode_length fits
    exact ⟨by dsimp only; omega, (huffmanDecode_iff fits).2 rfl⟩
  · have short := length_le_bits (encodeUtf8 s)
    have below : encodedBitLength (encodeUtf8 s) + 7 < 2 ^ 32 := fits
    exact ⟨by dsimp only; omega, rfl⟩

variable {toLowerCase}

/-- One header, whatever is in the table. -/
theorem decodeField_encodeHeader (d : HpackDecoder) {h : SentHeader}
    (sendable : Sendable toLowerCase h) (rest : Bytes) :
    d.decodeField (encodeHeader toLowerCase h ++ rest) =
      .ok (d, some (received toLowerCase h), rest) := by
  have mode : ∃ mode : Mode, mode.prefixBits = 4 ∧
      mode.flags = (if h.neverIndex then 0x10 else 0x00) ∧ ∀ entry, mode.table d entry = d := by
    cases h.neverIndex
    · exact ⟨.without, rfl, rfl, fun _ => rfl⟩
    · exact ⟨.never, rfl, rfl, fun _ => rfl⟩
  obtain ⟨mode, four, flags, table⟩ := mode
  obtain ⟨short, meant⟩ := wireString_sound sendable.fitsValue
  have value : decodeUtf8 (encodeUtf8 h.value) = withoutMark h.value := decodeUtf8_encodeUtf8 _
  rw [encodeHeader]
  simp only [← flags, ← four, ← wireString_bytes]
  split
  · rename_i pair found
    rw [staticPairToIndex, Option.map_eq_some_iff] at found
    obtain ⟨⟨entry, index⟩, found, rfl⟩ := found
    have member := List.mem_of_find?_eq_some found
    rw [List.mem_reverse] at member
    obtain ⟨there, positive, small, inTable⟩ := entryAt_static d member
    obtain ⟨plain, plain', name, text⟩ := staticTable_keys entry inTable
    have key := List.find?_some found
    rw [decide_eq_true_eq] at key
    obtain ⟨same, same'⟩ := pairKey_inj plain plain' key
    have meaning : received toLowerCase h = entry := by
      rw [received, ← same, ← same', name, text]
    rw [decodeField_indexed rest small positive there, meaning]
  · split
    · rename_i nameIndex found
      rw [staticNameToIndex, Option.map_eq_some_iff] at found
      obtain ⟨⟨entry, index⟩, found, rfl⟩ := found
      obtain ⟨there, positive, small, inTable⟩ :=
        entryAt_static d (List.mem_of_find?_eq_some found)
      obtain ⟨-, -, name, -⟩ := staticTable_keys entry inTable
      have same := List.find?_some found
      rw [decide_eq_true_eq] at same
      have meaning : received toLowerCase h = (entry.1, withoutMark h.value) := by
        rw [received, ← same, name]
      have literal := readLiteral_index rest mode small positive there short meant
      rw [List.append_assoc, decodeField_mode rest mode small literal, table, value, meaning]
    · obtain ⟨nameShort, nameMeant⟩ := wireString_sound sendable.fitsName
      have literal := readLiteral_literal (d := d) rest mode nameShort nameMeant short meant
      rw [List.append_assoc, List.append_assoc, decodeField_mode rest mode (by decide) literal, table,
        value, decodeUtf8_encodeUtf8]
      rfl

/-- **Header blocks.**  A block of the encoder is read as the headers it was made of, as far
as the limits let them through, by a decoder with any table, which it leaves as it is. -/
theorem decode_hpackEncode (d : HpackDecoder) {headers : List SentHeader}
    (sendable : ∀ h ∈ headers, Sendable toLowerCase h) (limits : Option HeaderDecodeLimits) :
    d.decode (hpackEncode toLowerCase headers) limits =
      (d, limit limits (headers.map fun h => toHeader (received toLowerCase h))) := by
  have ran : ∀ budget, HpackDecoder.decodeRest limits d budget (hpackEncode toLowerCase headers) =
      (d, .ok ((headers.map (received toLowerCase)).foldl (recordHeader limits) budget)) := by
    induction headers with
    | nil => exact fun budget => rfl
    | cons h headers ih =>
        intro budget
        obtain ⟨first, later⟩ := List.forall_mem_cons.1 sendable
        rw [hpackEncode, List.flatMap_cons, ← hpackEncode,
          HpackDecoder.decodeRest_step budget (decodeField_encodeHeader d first _), Option.elim_some,
          ih later]
        rfl
  have read := HpackDecoder.decode_of_parsed
    (.ok (headers.map (received toLowerCase))) (ran {})
  rw [read, Except.map, Fallible.bind_ok, List.map_map]
  rfl

end Headers

theorem decode_hpackEncode_post :
    (HpackDecoder.new 4096).decode
        (hpackEncode String.toLower
          [{ name := ":method", value := "POST" }, { name := "Grpc-Timeout", value := "1S" }]) none =
      (HpackDecoder.new 4096,
        .ok [{ name := ":method", value := "POST" }, { name := "grpc-timeout", value := "1S" }]) := by
  have sendable : ∀ h ∈ [({ name := ":method", value := "POST" } : SentHeader),
      { name := "Grpc-Timeout", value := "1S" }], Sendable String.toLower h := by
    decide +kernel
  refine (decode_hpackEncode (HpackDecoder.new 4096) sendable none).trans ?_
  decide +kernel

end GrpcBridge.H2
