/-
# Theory.NumberText -- how JavaScript writes a number

`Number::toString` of a finite number.  A number other than zero is the shortest decimal
that is picked for it: a sign, the digits and the place of the point, and two numbers
never share one.  The decimal is written in one of four forms, by the place of its point.

`readMagnitude` reads each of the forms back, so the text determines the number
(`toText_injective`); only -0 is written as 0 is.

An integer is a number whose digits are its own up to the last that is not zero
(`Number.ofInt`), and is written with its own digits (`toText_ofInt`).
-/
import Mathlib.Algebra.Group.Nat.Defs
import Mathlib.Data.List.Basic
import Mathlib.Data.List.TakeWhile

namespace GrpcBridge.Theory.Serialization

set_option autoImplicit false

abbrev Text := List UInt16

/-- The code unit of an ASCII character. -/
def unit (c : Char) : UInt16 := UInt16.ofNat c.toNat

def literal (s : String) : Text := s.toList.map unit

def isDigit (u : UInt16) : Bool := unit '0' ≤ u && u ≤ unit '9'

/-! ## Numbers -/

/-- The decimal of a number: its sign, its digits and the place of the point in front of or
behind them.  The digits begin and end with one that is not zero. -/
structure Decimal where
  negative : Bool
  digits : Text
  point : Int
  isDigits : ∀ d ∈ digits, isDigit d = true
  nonempty : digits ≠ []
  first : digits.head? ≠ some (unit '0')
  last : digits.getLast? ≠ some (unit '0')
deriving DecidableEq, Repr

inductive Number where
  | zero
  | negativeZero
  | decimal (x : Decimal)
deriving DecidableEq, Repr

def zeros (n : Nat) : Text := List.replicate n (unit '0')

def naturalText (n : Nat) : Text := (Nat.toDigits 10 n).map unit

def exponentText (e : Int) : Text :=
  unit 'e' :: (if 0 ≤ e then unit '+' else unit '-') :: naturalText e.natAbs

/-- The first digit, and a point if there are more. -/
def mantissa : Text → Text
  | [] => []
  | [d] => [d]
  | d :: e :: rest => d :: unit '.' :: e :: rest

/-- The digits with the point in its place, in the four forms of `Number::toString`. -/
def magnitude (digits : Text) (point : Int) : Text :=
  if digits.length ≤ point ∧ point ≤ 21 then digits ++ zeros (point - digits.length).toNat
  else if 0 < point ∧ point ≤ 21 then
    digits.take point.toNat ++ unit '.' :: digits.drop point.toNat
  else if -6 < point ∧ point ≤ 0 then
    unit '0' :: unit '.' :: (zeros (-point).toNat ++ digits)
  else mantissa digits ++ exponentText (point - 1)

/-- `Number::toString` -/
def Number.toText : Number → Text
  | .zero | .negativeZero => [unit '0']
  | .decimal x =>
      if x.negative then unit '-' :: magnitude x.digits x.point else magnitude x.digits x.point

/-! ## Reading a number back -/

def readNatural (text : Text) : Nat :=
  Nat.ofDigitChars 10 (text.map fun u => Char.ofNat u.toNat) 0

/-- The digits and the point of a magnitude. -/
def readMagnitude (text : Text) : Text × Int :=
  match text.dropWhile (· ≠ unit 'e') with
  | _ :: sign :: exponent =>
      let e : Int := readNatural exponent
      ((text.takeWhile (· ≠ unit 'e')).filter (· ≠ unit '.'),
        1 + if sign = unit '-' then -e else e)
  | _ =>
      match text.dropWhile (· ≠ unit '.') with
      | [] => ((text.reverse.dropWhile (· = unit '0')).reverse, text.length)
      | _ :: fraction =>
          let whole := text.takeWhile (· ≠ unit '.')
          if whole = [unit '0'] then
            (fraction.dropWhile (· = unit '0'), -(fraction.takeWhile (· = unit '0')).length)
          else (whole ++ fraction, whole.length)

theorem digit_ne {d : UInt16} (digit : isDigit d = true) :
    d ≠ unit 'e' ∧ d ≠ unit '.' ∧ d ≠ unit '-' := by
  refine ⟨?_, ?_, ?_⟩ <;> rintro rfl <;> revert digit <;> decide

/-- A decimal digit is a code unit that is a digit, and is read back from it. -/
theorem digit_unit {c : Char} (digit : c.isDigit = true) :
    isDigit (unit c) = true ∧ Char.ofNat (unit c).toNat = c := by
  have bounds : 48 ≤ c.toNat ∧ c.toNat ≤ 57 := Char.isDigit_iff_toNat.1 digit
  have same : (unit c).toNat = c.toNat := by
    rw [unit, UInt16.toNat_ofNat', Nat.mod_eq_of_lt (by omega)]
  refine ⟨?_, by rw [same, Char.ofNat_toNat]⟩
  rw [isDigit, Bool.and_eq_true, decide_eq_true_eq, decide_eq_true_eq, UInt16.le_iff_toNat_le,
    UInt16.le_iff_toNat_le, same]
  exact bounds

theorem naturalText_digits (n : Nat) : ∀ d ∈ naturalText n, isDigit d = true := by
  intro d member
  obtain ⟨c, inside, rfl⟩ := List.mem_map.1 member
  exact (digit_unit (Nat.isDigit_of_mem_toDigits (by decide) (by decide) inside)).1

theorem readNatural_naturalText (n : Nat) : readNatural (naturalText n) = n := by
  have back : (naturalText n).map (fun u => Char.ofNat u.toNat) = Nat.toDigits 10 n := by
    rw [naturalText, List.map_map]
    refine (List.map_congr_left fun c inside => ?_).trans (List.map_id _)
    exact (digit_unit (Nat.isDigit_of_mem_toDigits (by decide) (by decide) inside)).2
  rw [readNatural, back, Nat.ofDigitChars_ten_toDigits]

theorem zeros_digits (n : Nat) : ∀ d ∈ zeros n, isDigit d = true := by
  intro d member
  rw [List.eq_of_mem_replicate member]
  decide

/-- The longest run of a kind, in front of something that is not of it. -/
theorem split_while {p : UInt16 → Bool} (run rest : Text) (inside : ∀ u ∈ run, p u = true)
    (boundary : ∀ u, rest.head? = some u → p u = false) :
    (run ++ rest).takeWhile p = run ∧ (run ++ rest).dropWhile p = rest := by
  rw [List.takeWhile_append_of_pos inside, List.dropWhile_append_of_pos inside]
  cases rest with
  | nil => simp
  | cons u rest => simp [boundary u rfl]

/-- The run up to a unit that it does not have. -/
theorem split_at (run rest : Text) {stop : UInt16} (absent : ∀ u ∈ run, u ≠ stop) :
    (run ++ stop :: rest).takeWhile (· ≠ stop) = run ∧
      (run ++ stop :: rest).dropWhile (· ≠ stop) = stop :: rest := by
  apply split_while
  · intro u member
    exact decide_eq_true (absent u member)
  · rintro _ ⟨⟩
    simp

theorem split_none {run : Text} {stop : UInt16} (absent : ∀ u ∈ run, u ≠ stop) :
    run.dropWhile (· ≠ stop) = [] := by
  have split := split_while (p := (decide <| · ≠ stop)) run []
    (fun u member => decide_eq_true (absent u member)) (by rintro _ ⟨⟩)
  rw [List.append_nil] at split
  exact split.2

theorem mantissa_units {digits : Text} : ∀ u ∈ mantissa digits, u ∈ digits ∨ u = unit '.' := by
  intro u member
  match digits with
  | [] => cases member
  | [d] => exact .inl member
  | d :: next :: rest =>
      simp only [mantissa, List.mem_cons] at member ⊢
      tauto

section Magnitude

variable {digits : Text} (isDigits : ∀ d ∈ digits, isDigit d = true)

include isDigits

theorem read_integer (last : digits.getLast? ≠ some (unit '0')) (n : Nat) :
    readMagnitude (digits ++ zeros n) = (digits, ((digits.length + n : Nat) : Int)) := by
  have all : ∀ d ∈ digits ++ zeros n, isDigit d = true := by
    intro d member
    obtain inside | zero := List.mem_append.1 member
    · exact isDigits d inside
    · exact zeros_digits n d zero
  have stripped := split_while (p := (decide <| · = unit '0')) (zeros n) digits.reverse
    (fun u member => decide_eq_true (List.eq_of_mem_replicate member)) (by
      intro u top
      rw [List.head?_reverse] at top
      exact decide_eq_false fun zero => last (top.trans (congrArg some zero)))
  have reversed : (digits ++ zeros n).reverse = zeros n ++ digits.reverse := by
    rw [List.reverse_append, zeros, List.reverse_replicate]
  unfold readMagnitude
  rw [split_none fun d member => (digit_ne (all d member)).1]
  dsimp only
  rw [split_none fun d member => (digit_ne (all d member)).2.1]
  dsimp only
  rw [reversed, stripped.2, List.reverse_reverse, List.length_append, zeros, List.length_replicate]

theorem read_point (first : digits.head? ≠ some (unit '0')) {n : Nat} (positive : 0 < n)
    (less : n < digits.length) :
    readMagnitude (digits.take n ++ unit '.' :: digits.drop n) = (digits, (n : Int)) := by
  have noExponent : ∀ u ∈ digits.take n ++ unit '.' :: digits.drop n, u ≠ unit 'e' := by
    intro u member
    obtain front | rfl | back := by simpa only [List.mem_append, List.mem_cons] using member
    · exact (digit_ne (isDigits u (List.mem_of_mem_take front))).1
    · decide
    · exact (digit_ne (isDigits u (List.mem_of_mem_drop back))).1
  have noPoint : ∀ u ∈ digits.take n, u ≠ unit '.' := fun u member =>
    (digit_ne (isDigits u (List.mem_of_mem_take member))).2.1
  have whole : digits.take n ≠ [unit '0'] := by
    intro zero
    have top : (digits.take n).head? = digits.head? := by
      rw [List.head?_take, if_neg (by omega)]
    apply first
    rw [← top, zero]
    rfl
  unfold readMagnitude
  rw [split_none noExponent]
  dsimp only
  rw [(split_at _ _ noPoint).2]
  dsimp only
  rw [(split_at _ _ noPoint).1, if_neg whole, List.take_append_drop, List.length_take_of_le (Nat.le_of_lt less)]

theorem read_fraction (first : digits.head? ≠ some (unit '0')) (n : Nat) :
    readMagnitude (unit '0' :: unit '.' :: (zeros n ++ digits)) = (digits, -(n : Int)) := by
  have noExponent : ∀ u ∈ unit '0' :: unit '.' :: (zeros n ++ digits), u ≠ unit 'e' := by
    intro u member
    obtain rfl | rfl | zero | inside := by
      simpa only [List.mem_append, List.mem_cons] using member
    · decide
    · decide
    · exact (digit_ne (zeros_digits n u zero)).1
    · exact (digit_ne (isDigits u inside)).1
  have stripped := split_while (p := (decide <| · = unit '0')) (zeros n) digits
    (fun u member => decide_eq_true (List.eq_of_mem_replicate member)) (by
      intro u top
      exact decide_eq_false fun zero => first (top.trans (congrArg some zero)))
  have noPoint : ∀ u ∈ [unit '0'], u ≠ unit '.' := by
    intro u member
    obtain rfl := List.mem_singleton.1 member
    decide
  have split := split_at [unit '0'] (zeros n ++ digits) noPoint
  unfold readMagnitude
  rw [split_none noExponent]
  dsimp only
  rw [show unit '0' :: unit '.' :: (zeros n ++ digits) =
    [unit '0'] ++ unit '.' :: (zeros n ++ digits) from rfl, split.2]
  dsimp only
  rw [split.1, if_pos rfl, stripped.1, stripped.2, zeros, List.length_replicate]

theorem filter_mantissa : (mantissa digits).filter (· ≠ unit '.') = digits := by
  have kept : digits.filter (· ≠ unit '.') = digits :=
    List.filter_eq_self.2 fun u member => decide_eq_true (digit_ne (isDigits u member)).2.1
  match digits with
  | [] => rfl
  | [d] => exact kept
  | d :: next :: rest =>
      simp only [mantissa, List.filter_cons] at kept ⊢
      simpa using kept

theorem read_exponent (e : Int) :
    readMagnitude (mantissa digits ++ exponentText e) = (digits, 1 + e) := by
  have noExponent : ∀ u ∈ mantissa digits, u ≠ unit 'e' := by
    intro u member
    obtain inside | rfl := mantissa_units u member
    · exact (digit_ne (isDigits u inside)).1
    · decide
  unfold readMagnitude
  rw [exponentText, (split_at _ _ noExponent).2]
  dsimp only
  rw [(split_at _ _ noExponent).1, filter_mantissa isDigits, readNatural_naturalText]
  congr 2
  by_cases positive : 0 ≤ e
  · rw [if_pos positive, if_neg (by decide)]
    omega
  · rw [if_neg positive, if_pos rfl]
    omega

theorem readMagnitude_magnitude (nonempty : digits ≠ [])
    (first : digits.head? ≠ some (unit '0')) (last : digits.getLast? ≠ some (unit '0'))
    (point : Int) : readMagnitude (magnitude digits point) = (digits, point) := by
  have positive := List.length_pos_iff.2 nonempty
  unfold magnitude
  split
  · rw [read_integer isDigits last]
    congr 1
    omega
  · split
    · rw [read_point isDigits first (by omega) (by omega)]
      congr 1
      omega
    · split
      · rw [read_fraction isDigits first]
        congr 1
        omega
      · rw [read_exponent isDigits]
        congr 1
        omega

end Magnitude

/-- The units of the text of a number. -/
def isNumeric (u : UInt16) : Bool :=
  isDigit u || u = unit '.' || u = unit 'e' || u = unit '+' || u = unit '-'

theorem numeric_of_digit {d : UInt16} (digit : isDigit d = true) : isNumeric d = true := by
  simp [isNumeric, digit]

section Decimals

variable {digits : Text} (isDigits : ∀ d ∈ digits, isDigit d = true)

include isDigits

theorem magnitude_numeric (point : Int) : ∀ u ∈ magnitude digits point, isNumeric u = true := by
  have zero : ∀ n, ∀ u ∈ zeros n, isNumeric u = true := fun n u member =>
    numeric_of_digit (zeros_digits n u member)
  have digit : ∀ u ∈ digits, isNumeric u = true := fun u member =>
    numeric_of_digit (isDigits u member)
  intro u member
  unfold magnitude at member
  split at member
  · obtain inside | inside := List.mem_append.1 member
    · exact digit u inside
    · exact zero _ u inside
  · split at member
    · obtain inside | rfl | inside := by simpa only [List.mem_append, List.mem_cons] using member
      · exact digit u (List.mem_of_mem_take inside)
      · decide
      · exact digit u (List.mem_of_mem_drop inside)
    · split at member
      · obtain rfl | rfl | inside | inside := by
          simpa only [List.mem_append, List.mem_cons] using member
        · decide
        · decide
        · exact zero _ u inside
        · exact digit u inside
      · obtain inside | inside := List.mem_append.1 member
        · obtain inside | rfl := mantissa_units u inside
          · exact digit u inside
          · decide
        · obtain rfl | rfl | inside := by simpa only [exponentText, List.mem_cons] using inside
          · decide
          · split <;> decide
          · exact numeric_of_digit (naturalText_digits _ u inside)

theorem magnitude_head (nonempty : digits ≠ []) (point : Int) :
    ∃ d rest, magnitude digits point = d :: rest ∧ isDigit d = true := by
  obtain ⟨d, more, rfl⟩ := List.exists_cons_of_ne_nil nonempty
  have digit := isDigits d List.mem_cons_self
  unfold magnitude
  split
  · exact ⟨d, _, rfl, digit⟩
  · split
    · rename_i inside
      obtain ⟨n, point⟩ : ∃ n, point.toNat = n + 1 := ⟨point.toNat - 1, by omega⟩
      rw [point]
      exact ⟨d, _, rfl, digit⟩
    · split
      · exact ⟨unit '0', _, rfl, by decide⟩
      · cases more with
        | nil => exact ⟨d, _, rfl, digit⟩
        | cons next rest => exact ⟨d, _, rfl, digit⟩

end Decimals

namespace Number

theorem toText_decimal (x : Decimal) : (decimal x).toText =
    if x.negative then unit '-' :: magnitude x.digits x.point else magnitude x.digits x.point :=
  rfl

theorem toText_numeric (x : Number) : ∀ u ∈ x.toText, isNumeric u = true := by
  intro u member
  cases x with
  | zero | negativeZero =>
      obtain rfl := List.mem_singleton.1 member
      decide
  | decimal x =>
      rw [toText_decimal] at member
      split at member
      · obtain rfl | inside := List.mem_cons.1 member
        · decide
        · exact magnitude_numeric x.isDigits x.point u inside
      · exact magnitude_numeric x.isDigits x.point u member

/-- A sign, or a digit. -/
theorem toText_head (x : Number) :
    ∃ d rest, x.toText = d :: rest ∧ (isDigit d = true ∨ d = unit '-') := by
  cases x with
  | zero | negativeZero => exact ⟨unit '0', [], rfl, .inl (by decide)⟩
  | decimal x =>
      rw [toText_decimal]
      split
      · exact ⟨unit '-', _, rfl, .inr rfl⟩
      · obtain ⟨d, rest, text, digit⟩ := magnitude_head x.isDigits x.nonempty x.point
        exact ⟨d, rest, text, .inl digit⟩

theorem decimal_eq {x y : Decimal} (sign : x.negative = y.negative)
    (same : magnitude x.digits x.point = magnitude y.digits y.point) : x = y := by
  have read := congrArg readMagnitude same
  rw [readMagnitude_magnitude x.isDigits x.nonempty x.first x.last,
    readMagnitude_magnitude y.isDigits y.nonempty y.first y.last] at read
  obtain ⟨digits, point⟩ := Prod.mk.inj read
  obtain ⟨⟩ := x
  obtain ⟨⟩ := y
  simp_all

/-- No decimal is written as zero. -/
theorem decimal_ne_zero (x : Decimal) : (decimal x).toText ≠ [unit '0'] := by
  intro zero
  rw [toText_decimal] at zero
  split at zero
  · revert zero
    simp [show unit '-' ≠ unit '0' by decide]
  · have read := congrArg readMagnitude zero
    rw [readMagnitude_magnitude x.isDigits x.nonempty x.first x.last] at read
    exact x.nonempty ((Prod.mk.inj read).1.trans (by decide))

theorem toText_injective {x y : Number} (finite : x ≠ negativeZero) (finite' : y ≠ negativeZero)
    (same : x.toText = y.toText) : x = y := by
  cases x with
  | negativeZero => exact absurd rfl finite
  | zero =>
      cases y with
      | negativeZero => exact absurd rfl finite'
      | zero => rfl
      | decimal y => exact absurd same.symm (decimal_ne_zero y)
  | decimal x =>
      cases y with
      | negativeZero => exact absurd rfl finite'
      | zero => exact absurd same (decimal_ne_zero x)
      | decimal y =>
          obtain ⟨d, rest, text, digit⟩ := magnitude_head x.isDigits x.nonempty x.point
          obtain ⟨d', rest', text', digit'⟩ := magnitude_head y.isDigits y.nonempty y.point
          rw [toText_decimal, toText_decimal] at same
          cases sign : x.negative with
          | true =>
              cases sign' : y.negative with
              | true =>
                  simp only [sign, sign', if_true, List.cons.injEq, true_and] at same
                  rw [decimal_eq (sign.trans sign'.symm) same]
              | false =>
                  simp only [sign, sign', if_true, Bool.false_eq_true, if_false, text'] at same
                  exact absurd (List.cons.inj same).1.symm (digit_ne digit').2.2
          | false =>
              cases sign' : y.negative with
              | true =>
                  simp only [sign, sign', if_true, Bool.false_eq_true, if_false, text] at same
                  exact absurd (List.cons.inj same).1 (digit_ne digit).2.2
              | false =>
                  simp only [sign, sign', Bool.false_eq_true, if_false] at same
                  rw [decimal_eq (sign.trans sign'.symm) same]

end Number

/-! ## Integers -/

/-- The digits up to the last one that is not zero. -/
def significant (digits : Text) : Text := (digits.reverse.dropWhile (· = unit '0')).reverse

/-- What was cut off is zeros. -/
theorem significant_zeros (digits : Text) :
    significant digits ++ zeros (digits.length - (significant digits).length) = digits := by
  have split := List.takeWhile_append_dropWhile (p := (decide <| · = unit '0')) (l := digits.reverse)
  have run : digits.reverse.takeWhile (· = unit '0') =
      zeros (digits.reverse.takeWhile (· = unit '0')).length :=
    List.eq_replicate_of_mem fun u member => by
      have zero := List.mem_takeWhile_imp member
      exact of_decide_eq_true zero
  have whole : significant digits ++ (digits.reverse.takeWhile (· = unit '0')).reverse = digits := by
    rw [significant, ← List.reverse_append, split, List.reverse_reverse]
  rw [run, zeros, List.reverse_replicate] at whole
  have lengths := congrArg List.length whole
  rw [List.length_append, List.length_replicate] at lengths
  have count : digits.length - (significant digits).length =
      (digits.reverse.takeWhile (· = unit '0')).length := by omega
  rw [count]
  exact whole

theorem significant_length (digits : Text) : (significant digits).length ≤ digits.length := by
  have lengths := congrArg List.length (significant_zeros digits)
  rw [List.length_append] at lengths
  omega

theorem significant_subset {digits : Text} {d : UInt16} (member : d ∈ significant digits) :
    d ∈ digits := by
  rw [← significant_zeros digits]
  exact List.mem_append_left _ member

theorem significant_last (digits : Text) : (significant digits).getLast? ≠ some (unit '0') := by
  intro zero
  rw [significant, List.getLast?_reverse] at zero
  have other := List.head?_dropWhile_not (decide <| · = unit '0') digits.reverse
  rw [zero] at other
  cases other

theorem significant_first {digits : Text} (nonempty : digits ≠ [])
    (first : digits.head? ≠ some (unit '0')) :
    significant digits ≠ [] ∧ (significant digits).head? ≠ some (unit '0') := by
  have whole := significant_zeros digits
  cases kept : significant digits with
  | nil =>
      rw [kept, List.nil_append] at whole
      rw [← whole] at first nonempty
      cases count : digits.length - ([] : Text).length with
      | zero => exact absurd (by rw [count]; rfl) nonempty
      | succ n => exact absurd (by rw [count]; rfl) first
  | cons d rest =>
      rw [kept, List.cons_append] at whole
      rw [← whole] at first
      exact ⟨List.cons_ne_nil _ _, first⟩

/-- A positive number does not begin with a zero. -/
theorem toDigits_first {n : Nat} (positive : 0 < n) : (Nat.toDigits 10 n).head? ≠ some '0' := by
  induction n using Nat.strongRecOn with
  | ind n ih =>
      by_cases small : n < 10
      · have digits : ∀ m < 10, 0 < m → [m.digitChar].head? ≠ some '0' := by decide
        rw [Nat.toDigits_of_lt_base small]
        exact digits n small positive
      · have more : 0 < n / 10 := by omega
        rw [Nat.toDigits_of_base_le (by decide) (by omega),
          List.head?_append_of_ne_nil _ Nat.toDigits_ne_nil]
        exact ih (n / 10) (by omega) more

theorem naturalText_first {n : Nat} (positive : 0 < n) :
    naturalText n ≠ [] ∧ (naturalText n).head? ≠ some (unit '0') := by
  have first := toDigits_first positive
  have digit : ∀ c ∈ Nat.toDigits 10 n, c.isDigit = true := fun c member =>
    Nat.isDigit_of_mem_toDigits (by decide) (by decide) member
  unfold naturalText
  cases digits : Nat.toDigits 10 n with
  | nil => exact absurd digits Nat.toDigits_ne_nil
  | cons c rest =>
      rw [digits] at first digit
      refine ⟨List.cons_ne_nil _ _, ?_⟩
      intro zero
      have back := (digit_unit (digit c List.mem_cons_self)).2
      rw [Option.some.inj zero] at back
      exact first (congrArg some back.symm)

namespace Number

/-- The number that an integer is. -/
def ofInt (n : Int) : Number :=
  if zero : n = 0 then .zero
  else
    have positive : 0 < n.natAbs := Int.natAbs_pos.2 zero
    have first := naturalText_first positive
    .decimal {
      negative := n < 0
      digits := significant (naturalText n.natAbs)
      point := (naturalText n.natAbs).length
      isDigits := fun d member => naturalText_digits n.natAbs d (significant_subset member)
      nonempty := (significant_first first.1 first.2).1
      first := (significant_first first.1 first.2).2
      last := significant_last _ }

/-- The text of an integer, when it is not so long that it has an exponent. -/
theorem toText_ofInt {n : Int} (short : (naturalText n.natAbs).length ≤ 21) :
    (ofInt n).toText = if n < 0 then unit '-' :: naturalText n.natAbs else naturalText n.natAbs := by
  by_cases zero : n = 0
  · subst zero
    rfl
  · have text : magnitude (significant (naturalText n.natAbs)) (naturalText n.natAbs).length =
        naturalText n.natAbs := by
      have less := significant_length (naturalText n.natAbs)
      have count : (((naturalText n.natAbs).length : Int) -
          (significant (naturalText n.natAbs)).length).toNat =
          (naturalText n.natAbs).length - (significant (naturalText n.natAbs)).length := by omega
      rw [magnitude, if_pos ⟨by omega, by omega⟩, count, significant_zeros]
    rw [ofInt, dif_neg zero, toText_decimal]
    dsimp only
    rw [text]
    simp only [decide_eq_true_eq]

theorem ofInt_injective {m n : Int} (same : ofInt m = ofInt n) : m = n := by
  unfold ofInt at same
  split at same
  · rename_i zero
    split at same
    · rename_i zero'
      rw [zero, zero']
    · cases same
  · split at same
    · cases same
    · have parts := Number.decimal.inj same
      have sign : decide (m < 0) = decide (n < 0) := congrArg Decimal.negative parts
      have digits : significant (naturalText m.natAbs) = significant (naturalText n.natAbs) :=
        congrArg Decimal.digits parts
      have point : ((naturalText m.natAbs).length : Int) = (naturalText n.natAbs).length :=
        congrArg Decimal.point parts
      have text : naturalText m.natAbs = naturalText n.natAbs := by
        rw [← significant_zeros (naturalText m.natAbs), ← significant_zeros (naturalText n.natAbs),
          digits, Int.ofNat.inj point]
      have size := congrArg readNatural text
      rw [readNatural_naturalText, readNatural_naturalText] at size
      have signs : m < 0 ↔ n < 0 := by simpa using sign
      omega

end Number

end GrpcBridge.Theory.Serialization
