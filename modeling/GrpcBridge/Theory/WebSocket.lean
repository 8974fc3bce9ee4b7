/-
# Theory.WebSocket -- base frames of RFC 6455 and their unique decoding

A frame is its FIN bit, its four-bit opcode, the mask of a client frame and its
payload.  `encode` writes the smallest of the three length forms, and `decode`
reads one frame and refuses reserved bits and any longer length form, so that a
byte string decodes in at most one way: `decodeAll_encodeAll`.

Masking is its own inverse at every phase (`mask_mask`), and cutting a payload
moves the phase of what follows by the length of what was cut off
(`mask_append`); both are what a reader that unmasks in pieces relies on.
-/
import GrpcBridge.Theory.BigEndian

namespace GrpcBridge.Theory.WebSocket

set_option autoImplicit false

abbrev Bytes := List UInt8

/-! ## Masking -/

structure MaskingKey where
  k₀ : UInt8
  k₁ : UInt8
  k₂ : UInt8
  k₃ : UInt8
deriving DecidableEq, Repr

def MaskingKey.bytes (key : MaskingKey) : Bytes := [key.k₀, key.k₁, key.k₂, key.k₃]

theorem MaskingKey.bytes_length (key : MaskingKey) : key.bytes.length = 4 := rfl

theorem MaskingKey.exists_bytes {p : Bytes} (length : p.length = 4) :
    ∃ key : MaskingKey, key.bytes = p := by
  match p, length with
  | [k₀, k₁, k₂, k₃], _ => exact ⟨⟨k₀, k₁, k₂, k₃⟩, rfl⟩

/-- XOR with the key, whose first byte used is that of position `phase`. -/
def mask (key : Bytes) (phase : Nat) (p : Bytes) : Bytes :=
  p.mapIdx fun i b => b ^^^ key.getD ((phase + i) % 4) 0

@[simp] theorem mask_nil (key : Bytes) (phase : Nat) : mask key phase [] = [] := rfl

@[simp] theorem mask_length (key : Bytes) (phase : Nat) (p : Bytes) :
    (mask key phase p).length = p.length := by
  rw [mask, List.length_mapIdx]

@[simp] theorem mask_mask (key : Bytes) (phase : Nat) (p : Bytes) :
    mask key phase (mask key phase p) = p := by
  apply List.ext_getElem (by simp)
  intro i _ _
  simp only [mask, List.getElem_mapIdx]
  rw [UInt8.xor_assoc, UInt8.xor_self, UInt8.xor_zero]

/-- What follows a cut is masked from the phase the cut leaves. -/
theorem mask_append (key : Bytes) (phase : Nat) (p q : Bytes) :
    mask key phase (p ++ q) = mask key phase p ++ mask key (phase + p.length) q := by
  rw [mask, mask, mask, List.mapIdx_append]
  simp only [Nat.add_comm, Nat.add_left_comm]

/-! ## Frames -/

structure Frame where
  fin : Bool
  opcode : UInt8
  key : Option MaskingKey
  payload : Bytes
deriving DecidableEq, Repr

namespace Frame

/-- The opcode has four bits, and the top bit of a 64-bit length is zero. -/
def Fits (f : Frame) : Prop := f.opcode < 16 ∧ f.payload.length < 2 ^ 63

instance (f : Frame) : Decidable f.Fits := inferInstanceAs (Decidable (_ ∧ _))

def first (f : Frame) : UInt8 := (if f.fin then 0x80 else 0) ||| f.opcode

def maskBit (f : Frame) : UInt8 := if f.key.isSome then 0x80 else 0

/-- The second byte and the extended length, in the shortest form. -/
def lengthField (bit : UInt8) (length : Nat) : Bytes :=
  if length < 126 then [bit ||| UInt8.ofNat length]
  else if length ≤ 65535 then (bit ||| 126) :: BigEndian.bytes 2 length
  else (bit ||| 127) :: BigEndian.bytes 8 length

def body (f : Frame) : Bytes :=
  match f.key with
  | none => f.payload
  | some key => key.bytes ++ mask key.bytes 0 f.payload

def encode (f : Frame) : Bytes :=
  f.first :: lengthField f.maskBit f.payload.length ++ f.body

end Frame

def encodeAll (frames : List Frame) : Bytes := frames.flatMap Frame.encode

theorem encodeAll_concat (frames : List Frame) (f : Frame) :
    encodeAll (frames ++ [f]) = encodeAll frames ++ f.encode := by
  rw [encodeAll, encodeAll, List.flatMap_append, List.flatMap_singleton]

/-! ## Decoding -/

/-- The first `n` bytes and the rest, when there are so many. -/
def split (n : Nat) (input : Bytes) : Option (Bytes × Bytes) :=
  if n ≤ input.length then some (input.take n, input.drop n) else none

theorem split_append (p rest : Bytes) {n : Nat} (length : p.length = n) :
    split n (p ++ rest) = some (p, rest) := by
  rw [split, if_pos (by rw [List.length_append]; omega), ← length, List.take_left, List.drop_left]

theorem split_parts {n : Nat} {input p rest : Bytes} (parts : split n input = some (p, rest)) :
    input = p ++ rest := by
  simp only [split] at parts
  split at parts
  · cases parts
    exact (List.take_append_drop n input).symm
  · cases parts

/-- An extended length, which the form for lengths below `least` would not hold. -/
def extended (least : Nat) (field rest : Bytes) : Option (Nat × Bytes) :=
  if BigEndian.value field < least then none else some (BigEndian.value field, rest)

theorem extended_bytes {least width n : Nat} (fits : n < 256 ^ width) (needed : least ≤ n)
    (rest : Bytes) : extended least (BigEndian.bytes width n) rest = some (n, rest) := by
  rw [extended, BigEndian.value_bytes_of_lt fits, if_neg (by omega)]

/-- The length that the second byte announces; a form longer than needed is refused. -/
def decodeLength (b : UInt8) (input : Bytes) : Option (Nat × Bytes) :=
  if (b &&& 127).toNat = 126 then
    (split 2 input).bind fun parts => extended 126 parts.1 parts.2
  else if (b &&& 127).toNat = 127 then
    (split 8 input).bind fun parts => extended 65536 parts.1 parts.2
  else some ((b &&& 127).toNat, input)

def decodeKey (b : UInt8) (input : Bytes) : Option (Option MaskingKey × Bytes) :=
  if b &&& 0x80 = 0 then some (none, input)
  else
    match input with
    | k₀ :: k₁ :: k₂ :: k₃ :: rest => some (some ⟨k₀, k₁, k₂, k₃⟩, rest)
    | _ => none

def decode : Bytes → Option (Frame × Bytes)
  | a :: b :: input =>
      if a &&& 0x70 = 0 then
        (decodeLength b input).bind fun (length, rest) =>
          (decodeKey b rest).bind fun (key, rest) =>
            (split length rest).map fun (p, rest) =>
              ({ fin := a &&& 0x80 != 0
                 opcode := a &&& 15
                 key := key
                 payload := key.elim p fun key => mask key.bytes 0 p }, rest)
      else none
  | _ => none

theorem split_length {n : Nat} {input p rest : Bytes} (parts : split n input = some (p, rest)) :
    rest.length ≤ input.length := by
  simp only [split] at parts
  split at parts
  · cases parts
    rw [List.length_drop]
    omega
  · cases parts

theorem extended_length {least n : Nat} {input field after rest : Bytes} {width : Nat}
    (taken : split width input = some (field, after))
    (parts : extended least field after = some (n, rest)) : rest.length ≤ input.length := by
  simp only [extended] at parts
  split at parts <;> cases parts
  exact split_length taken

theorem decodeLength_length {b : UInt8} {input rest : Bytes} {n : Nat}
    (parts : decodeLength b input = some (n, rest)) : rest.length ≤ input.length := by
  simp only [decodeLength] at parts
  split at parts
  · obtain ⟨_, taken, kept⟩ := Option.bind_eq_some_iff.1 parts
    exact extended_length taken kept
  · split at parts
    · obtain ⟨_, taken, kept⟩ := Option.bind_eq_some_iff.1 parts
      exact extended_length taken kept
    · cases parts
      exact Nat.le_refl _

theorem decodeKey_length {b : UInt8} {input rest : Bytes} {key : Option MaskingKey}
    (parts : decodeKey b input = some (key, rest)) : rest.length ≤ input.length := by
  simp only [decodeKey] at parts
  split at parts
  · cases parts
    exact Nat.le_refl _
  · split at parts <;> cases parts
    simp only [List.length_cons]
    omega

theorem decode_length {f : Frame} {input after : Bytes} (decoded : decode input = some (f, after)) :
    after.length < input.length := by
  match input, decoded with
  | a :: b :: input, decoded =>
      simp only [decode] at decoded
      split at decoded
      · obtain ⟨⟨n, rest⟩, lengthRead, decoded⟩ := Option.bind_eq_some_iff.1 decoded
        obtain ⟨⟨key, body⟩, keyRead, decoded⟩ := Option.bind_eq_some_iff.1 decoded
        obtain ⟨⟨p, tail⟩, payloadRead, made⟩ := Option.map_eq_some_iff.1 decoded
        cases made
        have lengthShrinks := decodeLength_length lengthRead
        have keyShrinks := decodeKey_length keyRead
        have payloadShrinks := split_length payloadRead
        dsimp only at keyShrinks payloadShrinks
        simp only [List.length_cons]
        omega
      · cases decoded

/-- All frames of a byte string that ends where a frame ends. -/
def decodeAll (input : Bytes) : Option (List Frame) :=
  match input with
  | [] => some []
  | b :: rest =>
      match _decoded : decode (b :: rest) with
      | none => none
      | some (f, after) => (decodeAll after).map (f :: ·)
termination_by input.length
decreasing_by exact decode_length _decoded

/-! ## Round trip -/

theorem forall_byte {p : UInt8 → Prop} (each : ∀ b : BitVec 8, p (UInt8.ofBitVec b)) (b : UInt8) :
    p b :=
  each b.toBitVec

/-- The mask bit and the seven length bits do not meet. -/
theorem split_second : ∀ b : UInt8, b < 128 →
    ((0 ||| b) &&& 127 = b ∧ (0 ||| b) &&& 0x80 = 0) ∧
      ((0x80 ||| b) &&& 127 = b ∧ (0x80 ||| b) &&& 0x80 = 0x80) :=
  forall_byte (by decide +kernel)

/-- Neither do the FIN bit, the reserved bits and the opcode. -/
theorem split_first : ∀ b : UInt8, b < 16 →
    ((0 ||| b) &&& 0x70 = 0 ∧ (0 ||| b) &&& 0x80 = 0 ∧ (0 ||| b) &&& 15 = b) ∧
      ((0x80 ||| b) &&& 0x70 = 0 ∧ (0x80 ||| b) &&& 0x80 ≠ 0 ∧ (0x80 ||| b) &&& 15 = b) :=
  forall_byte (by decide +kernel)

theorem masked_second {bit b : UInt8} (masked : bit = 0 ∨ bit = 0x80) (small : b < 128) :
    (bit ||| b) &&& 127 = b ∧ (bit ||| b) &&& 0x80 = bit := by
  obtain ⟨unset, set⟩ := split_second b small
  rcases masked with rfl | rfl
  · exact unset
  · exact set

theorem decodeLength_lengthField {bit : UInt8} (masked : bit = 0 ∨ bit = 0x80) {n : Nat}
    (fits : n < 2 ^ 63) (rest : Bytes) :
    ∃ b field, Frame.lengthField bit n = b :: field ∧ b &&& 0x80 = bit ∧
      decodeLength b (field ++ rest) = some (n, rest) := by
  by_cases short : n < 126
  · have small : UInt8.ofNat n < 128 := by
      rw [UInt8.lt_iff_toNat_lt, UInt8.toNat_ofNat']
      simp only [UInt8.reduceToNat]
      omega
    obtain ⟨low, high⟩ := masked_second masked small
    refine ⟨_, [], by rw [Frame.lengthField, if_pos short], high, ?_⟩
    have read : ((bit ||| UInt8.ofNat n) &&& 127).toNat = n := by
      rw [low, UInt8.toNat_ofNat']
      omega
    rw [decodeLength, read, if_neg (by omega), if_neg (by omega), List.nil_append]
  · by_cases medium : n ≤ 65535
    · obtain ⟨low, high⟩ := masked_second masked (show (126 : UInt8) < 128 by decide)
      refine ⟨_, _, by rw [Frame.lengthField, if_neg short, if_pos medium], high, ?_⟩
      rw [decodeLength, low, if_pos (show UInt8.toNat 126 = 126 from rfl),
        split_append _ _ (BigEndian.bytes_length 2 n), Option.bind_some]
      exact extended_bytes (by omega) (by omega) rest
    · obtain ⟨low, high⟩ := masked_second masked (show (127 : UInt8) < 128 by decide)
      refine ⟨_, _, by rw [Frame.lengthField, if_neg short, if_neg medium], high, ?_⟩
      rw [decodeLength, low, if_neg (by decide), if_pos (show UInt8.toNat 127 = 127 from rfl),
        split_append _ _ (BigEndian.bytes_length 8 n), Option.bind_some]
      exact extended_bytes (by omega) (by omega) rest

theorem decodeKey_body (f : Frame) {b : UInt8} (bit : b &&& 0x80 = f.maskBit) (rest : Bytes) :
    ∃ masked, decodeKey b (f.body ++ rest) = some (f.key, masked ++ rest) ∧
      masked.length = f.payload.length ∧
      (f.key.elim masked fun key => mask key.bytes 0 masked) = f.payload := by
  cases keyed : f.key with
  | none =>
      refine ⟨f.payload, ?_, rfl, rfl⟩
      have unset : b &&& 0x80 = 0 := by
        rw [bit, Frame.maskBit, keyed]
        rfl
      simp only [decodeKey, unset, Frame.body, keyed, if_true]
  | some key =>
      refine ⟨mask key.bytes 0 f.payload, ?_, mask_length .., mask_mask ..⟩
      have set : b &&& 0x80 ≠ 0 := by
        rw [bit, Frame.maskBit, keyed, Option.isSome_some, if_pos rfl]
        decide
      simp only [decodeKey, set, Frame.body, keyed, if_false, MaskingKey.bytes, List.cons_append,
        List.nil_append]

theorem first_bits (f : Frame) (small : f.opcode < 16) :
    f.first &&& 0x70 = 0 ∧ (f.first &&& 0x80 != 0) = f.fin ∧ f.first &&& 15 = f.opcode := by
  obtain ⟨⟨r₀, h₀, o₀⟩, ⟨r₁, h₁, o₁⟩⟩ := split_first f.opcode small
  rw [Frame.first]
  cases f.fin with
  | false => exact ⟨r₀, by simpa using h₀, o₀⟩
  | true => exact ⟨r₁, by simpa using h₁, o₁⟩

/-- The second byte announces the mask and the length, and the body follows the length. -/
theorem encode_second (f : Frame) (short : f.payload.length < 2 ^ 63) (rest : Bytes) :
    ∃ b field, f.encode ++ rest = f.first :: b :: (field ++ (f.body ++ rest)) ∧
      b &&& 0x80 = f.maskBit ∧
      decodeLength b (field ++ (f.body ++ rest)) = some (f.payload.length, f.body ++ rest) := by
  have masked : f.maskBit = 0 ∨ f.maskBit = 0x80 := by
    rw [Frame.maskBit]
    cases f.key with
    | none => exact .inl rfl
    | some _ => exact .inr rfl
  obtain ⟨b, field, written, bit, lengthRead⟩ :=
    decodeLength_lengthField masked short (f.body ++ rest)
  refine ⟨b, field, ?_, bit, lengthRead⟩
  rw [Frame.encode, written]
  simp only [List.cons_append, List.append_assoc]

/-- **A frame is read back whole, and nothing after it is touched.** -/
theorem decode_encode (f : Frame) (fits : f.Fits) (rest : Bytes) :
    decode (f.encode ++ rest) = some (f, rest) := by
  obtain ⟨reserved, fin, opcode⟩ := first_bits f fits.1
  obtain ⟨b, field, shape, bit, lengthRead⟩ := encode_second f fits.2 rest
  obtain ⟨body, keyRead, length, plain⟩ := decodeKey_body f bit rest
  rw [shape, decode, if_pos reserved, lengthRead, Option.bind_some]
  simp only [keyRead, Option.bind_some, split_append _ _ length, Option.map_some, fin, opcode,
    plain]

theorem decodeAll_of_decode {input after : Bytes} {f : Frame}
    (decoded : decode input = some (f, after)) :
    decodeAll input = (decodeAll after).map (f :: ·) := by
  match input, decoded with
  | b :: rest, decoded =>
      rw [decodeAll]
      split
      · rename_i refused
        rw [decoded] at refused
        cases refused
      · rename_i read
        rw [decoded] at read
        cases read
        rfl

/-- **Concatenated frames decode to themselves.** -/
theorem decodeAll_encodeAll (frames : List Frame) (fits : ∀ f ∈ frames, f.Fits) :
    decodeAll (encodeAll frames) = some frames := by
  induction frames with
  | nil =>
      show decodeAll [] = some []
      rw [decodeAll]
  | cons f frames ih =>
      have read := decode_encode f (fits f List.mem_cons_self) (encodeAll frames)
      show decodeAll (f.encode ++ encodeAll frames) = _
      rw [decodeAll_of_decode read, ih fun g inside => fits g (List.mem_cons_of_mem f inside)]
      rfl

/-! ## Reading the two header bytes back -/

/-- The extended length field behind the second byte, and the length that they announce. -/
inductive Announces (b : UInt8) : Bytes → Nat → Prop
  | short : (b &&& 127).toNat < 126 → Announces b [] (b &&& 127).toNat
  | medium {field : Bytes} : (b &&& 127).toNat = 126 → field.length = 2 →
      Announces b field (BigEndian.value field)
  | long {field : Bytes} : (b &&& 127).toNat = 127 → field.length = 8 →
      Announces b field (BigEndian.value field)

/-- A shorter form would hold the length. -/
def Overlong (b : UInt8) (n : Nat) : Prop :=
  ((b &&& 127).toNat = 126 ∧ n < 126) ∨ ((b &&& 127).toNat = 127 ∧ n < 65536)

instance (b : UInt8) (n : Nat) : Decidable (Overlong b n) := inferInstanceAs (Decidable (_ ∨ _))

theorem rebuild_second : ∀ b : UInt8, (b &&& 0x80) ||| UInt8.ofNat (b &&& 127).toNat = b :=
  forall_byte (by decide +kernel)

theorem rebuild_first : ∀ a : UInt8, a &&& 0x70 = 0 →
    (if a &&& 0x80 != 0 then 0x80 else 0) ||| (a &&& 15) = a ∧ a &&& 15 < 16 :=
  forall_byte (by decide +kernel)

theorem mask_bit : ∀ b : UInt8, b &&& 0x80 ≠ 0 → b &&& 0x80 = 0x80 :=
  forall_byte (by decide +kernel)

/-- A length in its shortest form is written as it was read. -/
theorem lengthField_of_announces {b : UInt8} {field : Bytes} {n : Nat}
    (announced : Announces b field n) (shortest : ¬ Overlong b n) :
    Frame.lengthField (b &&& 0x80) n = b :: field := by
  have second := rebuild_second b
  cases announced with
  | short low => rw [Frame.lengthField, if_pos low, second]
  | medium kind width =>
      have needed : ¬ BigEndian.value field < 126 := fun small => shortest (.inl ⟨kind, small⟩)
      have fits := BigEndian.value_lt field
      rw [width] at fits
      have same := BigEndian.bytes_value field
      rw [width] at same
      rw [kind] at second
      rw [Frame.lengthField, if_neg needed, if_pos (by omega), same]
      exact congrArg (· :: field) second
  | long kind width =>
      have needed : ¬ BigEndian.value field < 65536 := fun small => shortest (.inr ⟨kind, small⟩)
      have same := BigEndian.bytes_value field
      rw [width] at same
      rw [kind] at second
      rw [Frame.lengthField, if_neg (by omega), if_neg (by omega), same]
      exact congrArg (· :: field) second

theorem decodeLength_of_announces {b : UInt8} {field : Bytes} {n : Nat}
    (announced : Announces b field n) (shortest : ¬ Overlong b n) (rest : Bytes) :
    decodeLength b (field ++ rest) = some (n, rest) := by
  cases announced with
  | short low =>
      rw [decodeLength, if_neg (by omega), if_neg (by omega), List.nil_append]
  | medium kind width =>
      have needed : ¬ BigEndian.value field < 126 := fun small => shortest (.inl ⟨kind, small⟩)
      rw [decodeLength, if_pos kind, split_append _ _ width, Option.bind_some, extended, if_neg needed]
  | long kind width =>
      have needed : ¬ BigEndian.value field < 65536 := fun small => shortest (.inr ⟨kind, small⟩)
      rw [decodeLength, if_neg (by omega), if_pos kind, split_append _ _ width, Option.bind_some,
        extended, if_neg needed]

/-- A masked frame behind a whole head: what is left to decode is its payload. -/
theorem decode_of_parts {a b : UInt8} {field : Bytes} {n : Nat} (reserved : a &&& 0x70 = 0)
    (masked : b &&& 0x80 ≠ 0) (announced : Announces b field n) (shortest : ¬ Overlong b n)
    (key : MaskingKey) (rest : Bytes) :
    decode (a :: b :: (field ++ (key.bytes ++ rest))) =
      (split n rest).map fun (p, rest) =>
        (⟨a &&& 0x80 != 0, a &&& 15, some key, mask key.bytes 0 p⟩, rest) := by
  rw [decode, if_pos reserved, decodeLength_of_announces announced shortest, Option.bind_some]
  simp only [decodeKey, masked, if_false, MaskingKey.bytes, List.cons_append, List.nil_append,
    Option.bind_some, Option.elim_some]

/-- Nothing decodes before the key is there. -/
theorem decode_of_key_short {a b : UInt8} {field : Bytes} {n : Nat} (masked : b &&& 0x80 ≠ 0)
    (announced : Announces b field n) (shortest : ¬ Overlong b n) {rest : Bytes}
    (short : rest.length < 4) : decode (a :: b :: (field ++ rest)) = none := by
  rw [decode, decodeLength_of_announces announced shortest, Option.bind_some]
  have unread : decodeKey b rest = none := by
    rw [decodeKey, if_neg masked]
    intro k₀ k₁ k₂ k₃ tail shape
    rw [shape] at short
    simp only [List.length_cons] at short
    omega
  simp only [unread, Option.bind_none, ite_self]

/-- Two header bytes, the length field, a key and the masked payload are a masked frame. -/
theorem encode_of_parts {a b : UInt8} {field : Bytes} {n : Nat} (reserved : a &&& 0x70 = 0)
    (masked : b &&& 0x80 ≠ 0) (announced : Announces b field n) (shortest : ¬ Overlong b n)
    (key : MaskingKey) (p : Bytes) (length : p.length = n) :
    Frame.encode ⟨a &&& 0x80 != 0, a &&& 15, some key, p⟩ =
      a :: b :: (field ++ (key.bytes ++ mask key.bytes 0 p)) := by
  have bit := mask_bit b masked
  have written := lengthField_of_announces announced shortest
  rw [bit] at written
  rw [Frame.encode, Frame.first, (rebuild_first a reserved).1, Frame.maskBit, Option.isSome_some,
    if_pos rfl, Frame.body, length, written]
  rfl

end GrpcBridge.Theory.WebSocket
