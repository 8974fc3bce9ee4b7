/-
# Theory.BigEndian -- fixed-width network byte order

`bytes width n` is what `PutUint16` and `PutUint64` write: the low `width` bytes
of `n`, the most significant first.  `value` reads any number of them back.
-/
import Mathlib.Algebra.Group.Nat.Defs
import Mathlib.Data.List.Basic

namespace GrpcBridge.Theory.BigEndian

set_option autoImplicit false

def bytes : Nat → Nat → List UInt8
  | 0, _ => []
  | width + 1, n => UInt8.ofNat (n / 256 ^ width) :: bytes width n

def value : List UInt8 → Nat
  | [] => 0
  | b :: rest => b.toNat * 256 ^ rest.length + value rest

@[simp] theorem bytes_length (width n : Nat) : (bytes width n).length = width := by
  induction width with
  | zero => rfl
  | succ width ih => rw [bytes, List.length_cons, ih]

/-- A field keeps its number modulo what the field can hold. -/
theorem value_bytes (width n : Nat) : value (bytes width n) = n % 256 ^ width := by
  induction width with
  | zero => rw [bytes, value, Nat.pow_zero, Nat.mod_one]
  | succ width ih =>
      have top : (UInt8.ofNat (n / 256 ^ width)).toNat = n / 256 ^ width % 256 := by simp
      rw [bytes, value, bytes_length, ih, top, Nat.mod_pow_succ, Nat.add_comm, Nat.mul_comm]

theorem value_bytes_of_lt {width n : Nat} (fits : n < 256 ^ width) :
    value (bytes width n) = n := by
  rw [value_bytes, Nat.mod_eq_of_lt fits]

theorem value_lt (p : List UInt8) : value p < 256 ^ p.length := by
  induction p with
  | nil => decide
  | cons b rest ih =>
      have digit : b.toNat < 256 := b.toNat_lt
      have top : b.toNat * 256 ^ rest.length + 256 ^ rest.length ≤ 256 * 256 ^ rest.length := by
        rw [← Nat.succ_mul]
        exact Nat.mul_le_mul_right _ digit
      rw [value, List.length_cons, Nat.pow_succ, Nat.mul_comm (256 ^ rest.length)]
      omega

/-- What a field cannot hold does not show in it. -/
theorem bytes_add_mul (width k n : Nat) : bytes width (k * 256 ^ width + n) = bytes width n := by
  induction width generalizing k with
  | zero => rfl
  | succ width ih =>
      have positive : 0 < 256 ^ width := Nat.pow_pos (by decide)
      have shape : k * 256 ^ (width + 1) + n = k * 256 * 256 ^ width + n := by
        rw [Nat.pow_succ, Nat.mul_comm (256 ^ width), Nat.mul_assoc]
      have digit : (k * 256 * 256 ^ width + n) / 256 ^ width = n / 256 ^ width + 256 * k := by
        rw [Nat.add_comm, Nat.add_mul_div_right _ _ positive, Nat.mul_comm k]
      have top : UInt8.ofNat (n / 256 ^ width + 256 * k) = UInt8.ofNat (n / 256 ^ width) := by
        apply UInt8.toNat_inj.1
        rw [UInt8.toNat_ofNat', UInt8.toNat_ofNat', Nat.add_mul_mod_self_left]
      rw [bytes, bytes, shape, digit, top, ih (k * 256)]

/-- A field is what its own number is written as. -/
theorem bytes_value (p : List UInt8) : bytes p.length (value p) = p := by
  induction p with
  | nil => rfl
  | cons b rest ih =>
      have low := value_lt rest
      have positive : 0 < 256 ^ rest.length := Nat.pow_pos (by decide)
      have high : (b.toNat * 256 ^ rest.length + value rest) / 256 ^ rest.length = b.toNat := by
        rw [Nat.add_comm, Nat.add_mul_div_right _ _ positive, Nat.div_eq_of_lt low, Nat.zero_add]
      rw [List.length_cons, bytes, value, high, UInt8.ofNat_toNat, bytes_add_mul, ih]

end GrpcBridge.Theory.BigEndian
