/-
# H2.Huffman -- the Huffman strings of HPACK

web/src/h2/hpack/huffman.ts.  `huffmanEncode` fills a zeroed buffer bit by bit and pads it
with ones; its positions and its length go through JavaScript's unsigned 32-bit shift.
`huffmanDecode` walks the trie of the table one bit at a time.

The two are inverse to each other: what the decoder accepts is exactly what the encoder
writes (`huffmanDecode_iff`).
-/
import GrpcBridge.H2.Frame
import GrpcBridge.H2.HuffmanTable
import GrpcBridge.Theory.Fallible

namespace GrpcBridge.H2

open GrpcBridge.Theory
open GrpcBridge.Theory.Bits
open GrpcBridge.Theory.PrefixCode

set_option autoImplicit false

/-! ## Encoding -/

/-- `x >>> 0` -/
def toUint32 (x : Nat) : Nat := x % 2 ^ 32

def encodedBitLength (input : Bytes) : Nat :=
  input.foldl (fun bits byte => bits + (huffmanCode byte.toNat).2) 0

/-- The buffer of `huffmanEncode` and how many bits it holds. -/
structure BitWriter where
  out : Bytes
  bitPos : Nat

namespace BitWriter

def one (w : BitWriter) : BitWriter :=
  { out := setBit w.out (toUint32 w.bitPos), bitPos := w.bitPos + 1 }

def bit (w : BitWriter) (b : Bool) : BitWriter :=
  if b then w.one else { w with bitPos := w.bitPos + 1 }

def symbol (w : BitWriter) (byte : UInt8) : BitWriter :=
  (huffmanWord byte.toNat).foldl bit w

/-- Pad the last byte with ones. -/
def pad : Nat → BitWriter → BitWriter
  | 0, w => w
  | rounds + 1, w => if w.bitPos % 8 = 0 then w else pad rounds w.one

end BitWriter

/-- The loop that pads ends after at most seven rounds. -/
def huffmanEncode (input : Bytes) : Bytes :=
  let out := List.replicate (toUint32 (encodedBitLength input + 7) / 8) 0
  ((input.foldl BitWriter.symbol { out, bitPos := 0 }).pad 8).out

def huffmanShorter (input : Bytes) : Bool :=
  decide (toUint32 (encodedBitLength input + 7) / 8 < input.length)

/-! ## Decoding -/

/-- `ROOT` -/
@[irreducible] def huffmanRoot : Trie Nat := Trie.ofList huffmanEntries

structure HuffmanScan where
  out : Bytes := []
  node : Trie Nat := huffmanRoot
  partialBits : Nat := 0
  partialAllOnes : Bool := true

def compressionError (message : String) : Thrown := .h2 { code := .compressionError, message }

def HuffmanScan.bit (s : HuffmanScan) (b : Bool) : Except Thrown HuffmanScan :=
  let partialAllOnes := s.partialAllOnes && b
  let next := s.node.child b
  if next.present then
    match next.symbol with
    | none => .ok { s with node := next, partialBits := s.partialBits + 1, partialAllOnes }
    | some symbol =>
        if symbol = huffmanEos then .error (compressionError "EOS symbol in Huffman stream")
        else .ok { out := s.out ++ [UInt8.ofNat symbol] }
  else .error (compressionError "invalid Huffman code")

def HuffmanScan.finish (s : HuffmanScan) : Except Thrown Bytes :=
  if s.node ≠ huffmanRoot ∧ (7 < s.partialBits ∨ s.partialAllOnes = false) then
    .error (compressionError "invalid Huffman padding")
  else .ok s.out

def huffmanDecode (input : Bytes) : Except Thrown Bytes :=
  (bits input).foldlM HuffmanScan.bit {} >>= HuffmanScan.finish

/-! ## The words of a byte string -/

/-- The bits of a string before the padding. -/
def huffmanBits (input : Bytes) : List Bool := input.flatMap fun byte => huffmanWord byte.toNat

@[simp] theorem huffmanBits_cons (byte : UInt8) (input : Bytes) :
    huffmanBits (byte :: input) = huffmanWord byte.toNat ++ huffmanBits input := rfl

@[simp] theorem huffmanBits_append (p q : Bytes) :
    huffmanBits (p ++ q) = huffmanBits p ++ huffmanBits q := List.flatMap_append

theorem huffmanWord_length (symbol : Nat) : (huffmanWord symbol).length = (huffmanCode symbol).2 :=
  natBits_length _ _

theorem encodedBitLength_eq (input : Bytes) :
    encodedBitLength input = (huffmanBits input).length := by
  have fold : ∀ (input : Bytes) (n : Nat),
      input.foldl (fun bits byte => bits + (huffmanCode byte.toNat).2) n =
        n + (huffmanBits input).length := by
    intro input
    induction input with
    | nil => exact fun n => rfl
    | cons byte input ih =>
        intro n
        rw [List.foldl_cons, ih, huffmanBits_cons, List.length_append, huffmanWord_length]
        omega
  rw [encodedBitLength, fold, Nat.zero_add]

theorem mem_huffmanEntries {word : List Bool} {symbol : Nat} :
    (word, symbol) ∈ huffmanEntries ↔ symbol ≤ 256 ∧ word = huffmanWord symbol := by
  rw [huffmanEntries, List.mem_map]
  constructor
  · rintro ⟨s, member, same⟩
    cases same
    rw [List.mem_range, huffmanCodes_length] at member
    exact ⟨by omega, rfl⟩
  · rintro ⟨small, rfl⟩
    refine ⟨symbol, ?_, rfl⟩
    rw [List.mem_range, huffmanCodes_length]
    omega

theorem huffmanRoot_present (path : List Bool) :
    (huffmanRoot.find path).present = true ↔ path = [] ∨ ∃ e ∈ huffmanEntries, path <+: e.1 := by
  delta huffmanRoot
  exact Trie.present_ofList path

theorem huffmanRoot_symbol (path : List Bool) (symbol : Nat) :
    (huffmanRoot.find path).symbol = some symbol ↔ symbol ≤ 256 ∧ path = huffmanWord symbol := by
  rw [← mem_huffmanEntries]
  delta huffmanRoot
  exact Trie.symbol_ofList huffmanEntries_free path symbol

/-- Inside a word the trie has a node without a symbol. -/
theorem huffmanRoot_inside {path rest : List Bool} {symbol : Nat} (small : symbol ≤ 256)
    (word : path ++ rest = huffmanWord symbol) (more : rest ≠ []) :
    (huffmanRoot.find path).present = true ∧ (huffmanRoot.find path).symbol = none := by
  have entry : (path ++ rest, symbol) ∈ huffmanEntries := mem_huffmanEntries.2 ⟨small, word⟩
  refine ⟨(huffmanRoot_present _).2 (.inr ⟨_, entry, List.prefix_append _ _⟩), ?_⟩
  delta huffmanRoot
  exact Trie.symbol_inside huffmanEntries_free entry more

/-- A word has from five to thirty bits. -/
theorem huffmanWord_bounds {symbol : Nat} (small : symbol ≤ 256) :
    5 ≤ (huffmanWord symbol).length ∧ (huffmanWord symbol).length ≤ 30 := by
  have inside : symbol < huffmanCodes.length := by
    rw [huffmanCodes_length]
    omega
  rw [huffmanWord_length, huffmanCode, List.getD_eq_getElem _ _ inside]
  exact (huffmanCodes_fit _ (List.getElem_mem inside)).2

theorem huffmanWord_eos : huffmanWord huffmanEos = List.replicate 30 true := by decide +kernel

/-! ## What the encoder writes -/

namespace BitWriter

/-- The buffer holds these bits and zeros behind them. -/
def Holds (w : BitWriter) (written : List Bool) : Prop :=
  w.bitPos = written.length ∧
    bits w.out = written ++ List.replicate (8 * w.out.length - written.length) false

theorem Holds.step {w : BitWriter} {written : List Bool} (holds : w.Holds written)
    (room : written.length < 8 * w.out.length) (fits : 8 * w.out.length < 2 ^ 32) (b : Bool) :
    (w.bit b).Holds (written ++ [b]) ∧ (w.bit b).out.length = w.out.length := by
  obtain ⟨position, content⟩ := holds
  have rest : List.replicate (8 * w.out.length - written.length) false =
      false :: List.replicate (8 * w.out.length - (written.length + 1)) false := by
    rw [← List.replicate_succ]
    congr 1
    omega
  cases b with
  | false =>
      refine ⟨⟨?_, ?_⟩, rfl⟩
      · rw [List.length_append, List.length_singleton, ← position]
        rfl
      · rw [List.length_append, List.length_singleton, List.append_assoc, List.singleton_append]
        rw [rest] at content
        exact content
  | true =>
      have index : toUint32 w.bitPos = written.length := by
        rw [position]
        exact Nat.mod_eq_of_lt (by omega)
      have length : (w.bit true).out.length = w.out.length := setBit_length _ _
      refine ⟨⟨?_, ?_⟩, length⟩
      · rw [List.length_append, List.length_singleton, ← position]
        rfl
      · have put : bits (w.bit true).out = (bits w.out).set written.length true := by
          show bits (setBit w.out (toUint32 w.bitPos)) = _
          rw [index]
          exact bits_setBit room
        rw [put, length, content, rest, List.set_append_right _ _ (Nat.le_refl _), Nat.sub_self,
          List.set_cons_zero, List.length_append, List.length_singleton, List.append_assoc,
          List.singleton_append]

theorem Holds.run {w : BitWriter} {written : List Bool} (holds : w.Holds written)
    (more : List Bool) (room : written.length + more.length ≤ 8 * w.out.length)
    (fits : 8 * w.out.length < 2 ^ 32) :
    (more.foldl bit w).Holds (written ++ more) ∧
      (more.foldl bit w).out.length = w.out.length := by
  induction more generalizing w written with
  | nil => simpa using holds
  | cons b more ih =>
      rw [List.length_cons] at room
      obtain ⟨next, length⟩ := holds.step (by omega) fits b
      obtain ⟨last, same⟩ := ih next (by rw [length]; simp; omega) (length ▸ fits)
      rw [List.append_assoc, List.singleton_append] at last
      exact ⟨last, same.trans length⟩

theorem Holds.pad {w : BitWriter} {written : List Bool} (holds : w.Holds written)
    (room : written.length ≤ 8 * w.out.length) (fits : 8 * w.out.length < 2 ^ 32) (rounds : Nat)
    (enough : written.length % 8 = 0 ∨ 8 - written.length % 8 ≤ rounds) :
    ∃ k, k ≤ 7 ∧ (written.length + k) % 8 = 0 ∧
      (pad rounds w).Holds (written ++ List.replicate k true) ∧
      (pad rounds w).out.length = w.out.length := by
  induction rounds generalizing w written with
  | zero => exact ⟨0, by omega, by omega, by rw [BitWriter.pad]; simpa using holds, rfl⟩
  | succ rounds ih =>
      rw [BitWriter.pad]
      by_cases whole : w.bitPos % 8 = 0
      · rw [if_pos whole]
        rw [holds.1] at whole
        exact ⟨0, by omega, by omega, by simpa using holds, rfl⟩
      · rw [if_neg whole]
        rw [holds.1] at whole
        obtain ⟨next, length⟩ := holds.step (by omega) fits true
        have size : (written ++ [true]).length = written.length + 1 := by simp
        obtain ⟨k, small, full, last, same⟩ :=
          ih (w := w.one) next (by rw [size]; exact length ▸ (by omega)) (length ▸ fits)
            (by rw [size]; omega)
        rw [List.append_assoc, List.singleton_append, ← List.replicate_succ] at last
        rw [size] at full
        exact ⟨k + 1, by omega, by omega, last, same.trans length⟩

end BitWriter

/-- The encoding is the words and up to seven ones, which fill the last byte. -/
theorem bits_huffmanEncode {input : Bytes} (fits : encodedBitLength input + 7 < 2 ^ 32) :
    ∃ k, k ≤ 7 ∧ bits (huffmanEncode input) = huffmanBits input ++ List.replicate k true := by
  have size : toUint32 (encodedBitLength input + 7) = encodedBitLength input + 7 :=
    Nat.mod_eq_of_lt fits
  have start : BitWriter.Holds
      { out := List.replicate ((encodedBitLength input + 7) / 8) 0, bitPos := 0 } [] := by
    refine ⟨rfl, ?_⟩
    rw [bits_replicate_zero, List.length_replicate]
    rfl
  have words : ∀ (input : Bytes) (w : BitWriter),
      input.foldl BitWriter.symbol w = (huffmanBits input).foldl BitWriter.bit w := by
    intro input
    induction input with
    | nil => exact fun w => rfl
    | cons byte input ih =>
        intro w
        rw [List.foldl_cons, ih, huffmanBits_cons, List.foldl_append]
        rfl
  rw [encodedBitLength_eq] at fits size start
  obtain ⟨written, length⟩ := start.run (huffmanBits input)
    (by rw [List.length_replicate, List.length_nil]; omega) (by rw [List.length_replicate]; omega)
  rw [List.nil_append] at written
  rw [List.length_replicate] at length
  obtain ⟨k, small, full, last, same⟩ :=
    written.pad (by rw [length]; omega) (by rw [length]; omega) 8 (by omega)
  refine ⟨k, small, ?_⟩
  have none : 8 * (BitWriter.pad 8 ((huffmanBits input).foldl BitWriter.bit
      { out := List.replicate (((huffmanBits input).length + 7) / 8) 0, bitPos := 0 })).out.length -
        (huffmanBits input ++ List.replicate k true).length = 0 := by
    rw [same, length, List.length_append, List.length_replicate]
    omega
  have content := last.2
  rw [none, List.replicate_zero, List.append_nil] at content
  rw [huffmanEncode, encodedBitLength_eq, size, words]
  exact content

/-! ## What the decoder accepts -/

namespace HuffmanScan

/-- These bits were read: the words of the output and then a path in the trie. -/
structure Reads (s : HuffmanScan) (read path : List Bool) : Prop where
  split : read = huffmanBits s.out ++ path
  node : s.node = huffmanRoot.find path
  length : s.partialBits = path.length
  ones : s.partialAllOnes = path.all id

theorem Reads.start : ({} : HuffmanScan).Reads [] [] := ⟨rfl, (Trie.find_nil _).symm, rfl, rfl⟩

theorem Reads.step {s t : HuffmanScan} {read path : List Bool} {b : Bool}
    (reads : s.Reads read path) (stepped : s.bit b = .ok t) :
    ∃ path', t.Reads (read ++ [b]) path' := by
  have next : s.node.child b = huffmanRoot.find (path ++ [b]) := by
    rw [Trie.find_concat, reads.node]
  simp only [bit, next] at stepped
  split at stepped
  · split at stepped
    · cases stepped
      refine ⟨path ++ [b], ?_, rfl, ?_, ?_⟩
      · rw [reads.split, List.append_assoc]
      · simp [reads.length]
      · simp [reads.ones]
    · rename_i symbol ends
      split at stepped
      · cases stepped
      · rename_i plain
        cases stepped
        obtain ⟨small, word⟩ := (huffmanRoot_symbol _ _).1 ends
        have below : symbol < 256 := by
          have other : symbol ≠ 256 := plain
          omega
        refine ⟨[], ?_, (Trie.find_nil _).symm, rfl, rfl⟩
        rw [reads.split, huffmanBits_append, huffmanBits_cons, UInt8.toNat_ofNat_of_lt' below,
          List.append_assoc, word, List.append_nil]
        exact congrArg (huffmanBits s.out ++ ·) (List.append_nil _).symm
  · cases stepped

theorem Reads.run {s t : HuffmanScan} {read path : List Bool} (more : List Bool)
    (reads : s.Reads read path) (ran : more.foldlM bit s = .ok t) :
    ∃ path', t.Reads (read ++ more) path' := by
  induction more generalizing s read path with
  | nil =>
      cases ran
      exact ⟨path, by simpa using reads⟩
  | cons b more ih =>
      rw [List.foldlM_cons] at ran
      obtain ⟨u, first, rest⟩ := Fallible.bind_eq_ok.1 ran
      obtain ⟨path', next⟩ := reads.step first
      obtain ⟨path'', last⟩ := ih next rest
      exact ⟨path'', by simpa using last⟩

/-- Inside a word the scan only walks on. -/
theorem walk {s : HuffmanScan} {path rest beyond : List Bool} {symbol : Nat}
    (small : symbol ≤ 256) (node : s.node = huffmanRoot.find path)
    (word : path ++ (rest ++ beyond) = huffmanWord symbol) (inside : beyond ≠ []) :
    rest.foldlM bit s = .ok
      { s with
        node := huffmanRoot.find (path ++ rest)
        partialBits := s.partialBits + rest.length
        partialAllOnes := s.partialAllOnes && rest.all id } := by
  induction rest generalizing s path with
  | nil => simp [← node, pure, Except.pure]
  | cons b rest ih =>
      have next : s.node.child b = huffmanRoot.find (path ++ [b]) := by
        rw [Trie.find_concat, node]
      have here : (path ++ [b]) ++ (rest ++ beyond) = huffmanWord symbol := by simpa using word
      obtain ⟨there, quiet⟩ := huffmanRoot_inside small here (by simp [inside])
      have stepped : s.bit b = .ok
          { s with
            node := huffmanRoot.find (path ++ [b])
            partialBits := s.partialBits + 1
            partialAllOnes := s.partialAllOnes && b } := by
        simp only [bit, next, there, quiet, if_true]
      rw [List.foldlM_cons, stepped, Fallible.bind_ok, ih rfl (by simpa using word)]
      congr 2
      · simp
      · simp only [List.length_cons]
        omega
      · simp [Bool.and_assoc]

/-- A whole word is one symbol of the output. -/
theorem emit (out : Bytes) (byte : UInt8) :
    (huffmanWord byte.toNat).foldlM bit { out } = .ok { out := out ++ [byte] } := by
  have small : byte.toNat ≤ 256 := Nat.le_of_lt byte.toNat_lt
  have long := (huffmanWord_bounds small).1
  have nonempty : huffmanWord byte.toNat ≠ [] := by
    intro empty
    rw [empty] at long
    exact absurd long (by decide)
  obtain ⟨first, last, word⟩ := (List.eq_nil_or_concat _).resolve_left nonempty
  rw [List.concat_eq_append] at word
  have ends : (huffmanRoot.find (first ++ [last])).symbol = some byte.toNat :=
    (huffmanRoot_symbol _ _).2 ⟨small, word.symm⟩
  have there : (huffmanRoot.find (first ++ [last])).present = true :=
    (huffmanRoot_present _).2
      (.inr ⟨_, mem_huffmanEntries.2 ⟨small, rfl⟩, word ▸ List.prefix_rfl⟩)
  have plain : byte.toNat ≠ huffmanEos := Nat.ne_of_lt byte.toNat_lt
  rw [word, List.foldlM_append, @walk _ [] _ _ _ small (Trie.find_nil _).symm word.symm (by simp),
    Fallible.bind_ok, List.foldlM_cons]
  simp only [bit, List.nil_append, ← Trie.find_concat, there, ends, plain, if_true, if_false,
    UInt8.ofNat_toNat]
  rfl

theorem emitAll (out input : Bytes) :
    (huffmanBits input).foldlM bit { out } = .ok { out := out ++ input } := by
  induction input generalizing out with
  | nil => simp [huffmanBits, pure, Except.pure]
  | cons byte input ih =>
      rw [huffmanBits_cons, List.foldlM_append, emit, Fallible.bind_ok, ih]
      simp

end HuffmanScan

/-- **What the decoder accepts**: the words of its result and at most seven ones. -/
theorem huffmanDecode_eq_ok (input out : Bytes) :
    huffmanDecode input = .ok out ↔
      ∃ k, k ≤ 7 ∧ bits input = huffmanBits out ++ List.replicate k true := by
  rw [huffmanDecode, Fallible.bind_eq_ok]
  constructor
  · rintro ⟨s, scanned, finished⟩
    obtain ⟨path, reads⟩ := HuffmanScan.Reads.start.run _ scanned
    rw [HuffmanScan.finish] at finished
    split at finished
    · cases finished
    · rename_i padded
      cases finished
      have short : path.length ≤ 7 ∧ path.all id = true := by
        by_cases empty : path = []
        · subst empty
          exact ⟨by decide, rfl⟩
        · have below : s.node ≠ huffmanRoot := by
            rw [reads.node]
            refine Trie.find_ne_self ?_ empty
            intro absent
            have there := (huffmanRoot_present []).2 (.inl rfl)
            rw [Trie.find_nil, absent] at there
            exact Bool.false_ne_true there
          rw [reads.length, reads.ones] at padded
          have few : ¬ 7 < path.length := fun long => padded ⟨below, .inl long⟩
          exact ⟨by omega, by simpa using fun one => padded ⟨below, .inr one⟩⟩
      have ones : path = List.replicate path.length true := by
        rw [List.eq_replicate_iff]
        exact ⟨rfl, by simpa using short.2⟩
      refine ⟨path.length, short.1, ?_⟩
      rw [← ones]
      simpa using reads.split
  · rintro ⟨k, small, read⟩
    have eos : List.replicate 30 true = List.replicate k true ++ List.replicate (30 - k) true := by
      rw [List.replicate_append_replicate, Nat.add_sub_cancel' (by omega)]
    have padding : (List.replicate k true).foldlM HuffmanScan.bit { out } = .ok
        { out
          node := huffmanRoot.find (List.replicate k true)
          partialBits := k
          partialAllOnes := true } := by
      have more : List.replicate (30 - k) true ≠ [] := by
        rw [ne_eq, List.replicate_eq_nil_iff]
        omega
      rw [@HuffmanScan.walk _ [] _ _ huffmanEos (Nat.le_refl _) (Trie.find_nil _).symm
        (by rw [List.nil_append, ← eos, huffmanWord_eos]) more]
      simp
    refine ⟨⟨out, huffmanRoot.find (List.replicate k true), k, true⟩, ?_, ?_⟩
    · rw [read, List.foldlM_append, HuffmanScan.emitAll, Fallible.bind_ok, List.nil_append]
      exact padding
    · rw [HuffmanScan.finish, if_neg]
      rintro ⟨_, long | zero⟩
      · exact absurd long (by simpa using small)
      · cases zero

/-- The padding is the one that fills the last byte. -/
theorem padding_unique {p q : List Bool} {j k : Nat} (small : j ≤ 7) (small' : k ≤ 7)
    (same : p = q) (full : (p ++ List.replicate j true).length % 8 = 0)
    (full' : (q ++ List.replicate k true).length % 8 = 0) : j = k := by
  subst same
  rw [List.length_append, List.length_replicate] at full full'
  omega

/-- **Huffman strings.**  A string that fits the positions of the encoder is decoded from
its encoding and from nothing else. -/
theorem huffmanDecode_iff {input out : Bytes} (fits : encodedBitLength out + 7 < 2 ^ 32) :
    huffmanDecode input = .ok out ↔ huffmanEncode out = input := by
  obtain ⟨k, small, encoded⟩ := bits_huffmanEncode fits
  rw [huffmanDecode_eq_ok]
  constructor
  · rintro ⟨j, small', read⟩
    have full := congrArg (fun b => b.length % 8) encoded
    have full' := congrArg (fun b => b.length % 8) read
    simp only [bits_length, Nat.mul_mod_right] at full full'
    have same := padding_unique small' small rfl full'.symm full.symm
    apply bits_inj
    rw [encoded, read, same]
  · rintro rfl
    exact ⟨k, small, encoded⟩

/-- The twelve bytes of `www.example.com`; most of its codes end inside a byte. -/
theorem huffmanDecode_iff_host :
    huffmanDecode [0xF1, 0xE3, 0xC2, 0xE5, 0xF2, 0x3A, 0x6B, 0xA0, 0xAB, 0x90, 0xF4, 0xFF] =
      .ok [119, 119, 119, 46, 101, 120, 97, 109, 112, 108, 101, 46, 99, 111, 109] :=
  (huffmanDecode_iff (by decide +kernel)).2 (by decide +kernel)

end GrpcBridge.H2
