/-
# Theory.Bits -- byte strings as bit strings

A byte is its eight bits, the most significant first, and a byte string is the bits of
its bytes in order (`bits`).  `setBit` turns one bit on in place, as a writer does that
fills a zeroed buffer; `bits_setBit` says what that is on the bit string.
-/
import Mathlib.Data.List.Basic
import Mathlib.Data.Nat.Bitwise
import Mathlib.Tactic.IntervalCases

namespace GrpcBridge.Theory.Bits

set_option autoImplicit false

/-- The low `width` bits of a number, the most significant first. -/
def natBits (width value : Nat) : List Bool := (List.range width).reverse.map value.testBit

def byteBits (b : UInt8) : List Bool := natBits 8 b.toNat

def bits (p : List UInt8) : List Bool := p.flatMap byteBits

/-- Turn the bit at `position` on; a position behind the end is ignored. -/
def setBit (p : List UInt8) (position : Nat) : List UInt8 :=
  p.modify (position / 8) fun b => b ||| 0x80 >>> UInt8.ofNat (position % 8)

/-- `byte & flag` as a condition. -/
def has (byte flag : UInt8) : Bool := byte &&& flag != 0

/-! ## Numbers -/

@[simp] theorem natBits_length (width value : Nat) : (natBits width value).length = width := by
  simp [natBits]

theorem natBits_get {width value i : Nat} (inside : i < (natBits width value).length) :
    (natBits width value)[i] = value.testBit (width - 1 - i) := by
  simp [natBits]

theorem natBits_inj {width a b : Nat} (small : a < 2 ^ width) (small' : b < 2 ^ width)
    (same : natBits width a = natBits width b) : a = b := by
  apply Nat.eq_of_testBit_eq
  intro i
  by_cases low : i < width
  · have inside : width - 1 - i < (natBits width a).length := by
      rw [natBits_length]
      omega
    have inside' : width - 1 - i < (natBits width b).length := by
      rw [natBits_length]
      omega
    have there : width - 1 - (width - 1 - i) = i := by omega
    have entry : (natBits width a)[width - 1 - i] = (natBits width b)[width - 1 - i] := by
      simp only [same]
    rwa [natBits_get inside, natBits_get inside', there] at entry
  · have high : 2 ^ width ≤ 2 ^ i := Nat.pow_le_pow_right (by decide) (by omega)
    rw [Nat.testBit_lt_two_pow (by omega), Nat.testBit_lt_two_pow (by omega)]

/-- The first bits of a number are those of what is left after shifting the others out. -/
theorem natBits_take {width value count : Nat} (fits : count ≤ width) :
    (natBits width value).take count = natBits count (value >>> (width - count)) := by
  apply List.ext_getElem
  · simp only [List.length_take, natBits_length]
    omega
  · intro i inside inside'
    rw [natBits_length] at inside'
    rw [List.getElem_take, natBits_get, natBits_get, Nat.testBit_shiftRight]
    congr 1
    omega

/-! ## Bytes -/

theorem toNat_ofNat {n : Nat} (small : n < 256) : (UInt8.ofNat n).toNat = n :=
  UInt8.toNat_ofNat_of_lt' small

@[simp] theorem byteBits_length (b : UInt8) : (byteBits b).length = 8 := natBits_length 8 _

theorem byteBits_inj {a b : UInt8} (same : byteBits a = byteBits b) : a = b :=
  UInt8.toNat_inj.1 (natBits_inj a.toNat_lt b.toNat_lt same)

@[simp] theorem bits_nil : bits [] = [] := rfl

@[simp] theorem bits_cons (b : UInt8) (p : List UInt8) : bits (b :: p) = byteBits b ++ bits p :=
  rfl

@[simp] theorem bits_append (p q : List UInt8) : bits (p ++ q) = bits p ++ bits q :=
  List.flatMap_append

@[simp] theorem bits_length (p : List UInt8) : (bits p).length = 8 * p.length := by
  induction p with
  | nil => rfl
  | cons b p ih =>
      rw [bits_cons, List.length_append, byteBits_length, ih, List.length_cons]
      omega

theorem bits_inj {p q : List UInt8} (same : bits p = bits q) : p = q := by
  induction p generalizing q with
  | nil =>
      have none := congrArg List.length same
      rw [bits_length, bits_length] at none
      exact (List.eq_nil_of_length_eq_zero (by simpa using none.symm)).symm
  | cons b p ih =>
      cases q with
      | nil =>
          have none := congrArg List.length same
          simp at none
      | cons c q =>
          obtain ⟨first, rest⟩ := List.append_inj same (by simp)
          rw [byteBits_inj first, ih rest]

theorem bits_replicate_zero (n : Nat) :
    bits (List.replicate n 0) = List.replicate (8 * n) false := by
  induction n with
  | zero => rfl
  | succ n ih =>
      rw [List.replicate_succ, bits_cons, ih, Nat.mul_succ, Nat.add_comm, ← List.replicate_append_replicate]
      rfl

/-- One bit of one byte. -/
theorem byteBits_or (b : UInt8) {k : Nat} (low : k < 8) :
    byteBits (b ||| 0x80 >>> UInt8.ofNat k) = (byteBits b).set k true := by
  have mask : (0x80 >>> UInt8.ofNat k : UInt8).toNat = 2 ^ (7 - k) := by
    interval_cases k <;> rfl
  apply List.ext_getElem
  · simp
  · intro i inside _
    rw [byteBits_length] at inside
    have entry : ∀ c : UInt8, (byteBits c)[i]? = some (c.toNat.testBit (7 - i)) := by
      intro c
      rw [List.getElem?_eq_getElem (by simpa using inside)]
      exact congrArg some (natBits_get _)
    apply Option.some.inj
    rw [← List.getElem?_eq_getElem, ← List.getElem?_eq_getElem, List.getElem?_set, entry, entry,
      UInt8.toNat_or, Nat.testBit_or, mask, Nat.testBit_two_pow]
    by_cases here : k = i
    · subst here
      simp [low]
    · have elsewhere : 7 - k ≠ 7 - i := by omega
      rw [if_neg here, decide_eq_false elsewhere, Bool.or_false]

theorem bits_setBit {p : List UInt8} {position : Nat} (inside : position < 8 * p.length) :
    bits (setBit p position) = (bits p).set position true := by
  induction p generalizing position with
  | nil => simp at inside
  | cons b p ih =>
      by_cases first : position < 8
      · have zero : position / 8 = 0 := by omega
        have low : position % 8 = position := by omega
        rw [setBit, zero, List.modify_zero_cons, bits_cons, low, byteBits_or b first, bits_cons,
          List.set_append_left _ _ (by simpa using first)]
      · have index : position / 8 = (position - 8) / 8 + 1 := by omega
        have low : position % 8 = (position - 8) % 8 := by omega
        have later : position - 8 < 8 * p.length := by
          rw [List.length_cons] at inside
          omega
        have tail := ih later
        rw [setBit] at tail
        rw [setBit, index, List.modify_succ_cons, bits_cons, low, tail, bits_cons,
          List.set_append_right _ _ (by simpa using first), byteBits_length]

@[simp] theorem setBit_length (p : List UInt8) (position : Nat) :
    (setBit p position).length = p.length := List.length_modify _ _ _

end GrpcBridge.Theory.Bits
