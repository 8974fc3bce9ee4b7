/-
# Theory.Utf8 -- decoding UTF-8 that may be damaged

The decoder of the Encoding Standard as `TextDecoder` runs it when it is not fatal: every
maximal damaged part becomes one replacement character, and one leading byte order mark is
dropped.  A byte that cannot go on a character is read again as the first byte of the next
one.

A string measured in UTF-16 code units, as a JavaScript string is, is never longer than
the bytes it was decoded from (`units_decode_le`).
-/
import GrpcBridge.Theory.Text

namespace GrpcBridge.Theory.Utf8

set_option autoImplicit false

abbrev Bytes := List UInt8

def replacement : Char := Char.ofNat 0xFFFD

def byteOrderMark : Char := Char.ofNat 0xFEFF

/-- A character whose first bytes were read: how many are to come, between which bounds
the next one lies, and the bits so far. -/
structure Partial where
  toCome : Nat
  lower : Nat
  upper : Nat
  codePoint : Nat
deriving DecidableEq, Repr

/-- A byte where a character begins. -/
def lead (n : Nat) : List Char × Option Partial :=
  if n < 0x80 then ([Char.ofNat n], none)
  else if 0xC2 ≤ n ∧ n ≤ 0xDF then ([], some ⟨1, 0x80, 0xBF, n - 0xC0⟩)
  else if 0xE0 ≤ n ∧ n ≤ 0xEF then
    -- no overlong form and no surrogate
    ([], some ⟨2, if n = 0xE0 then 0xA0 else 0x80, if n = 0xED then 0x9F else 0xBF, n - 0xE0⟩)
  else if 0xF0 ≤ n ∧ n ≤ 0xF4 then
    ([], some ⟨3, if n = 0xF0 then 0x90 else 0x80, if n = 0xF4 then 0x8F else 0xBF, n - 0xF0⟩)
  else ([replacement], none)

def next : Option Partial → UInt8 → List Char × Option Partial
  | none, b => lead b.toNat
  | some p, b =>
      if p.lower ≤ b.toNat ∧ b.toNat ≤ p.upper then
        let codePoint := 64 * p.codePoint + b.toNat % 64
        if p.toCome = 1 then ([Char.ofNat codePoint], none)
        else ([], some ⟨p.toCome - 1, 0x80, 0xBF, codePoint⟩)
      else (replacement :: (lead b.toNat).1, (lead b.toNat).2)

def decodeFrom : Option Partial → Bytes → List Char
  | none, [] => []
  | some _, [] => [replacement]
  | p, b :: rest => (next p b).1 ++ decodeFrom (next p b).2 rest

def dropMark (text : List Char) : List Char :=
  match text with
  | c :: rest => if c = byteOrderMark then rest else text
  | [] => []

/-- `new TextDecoder("utf-8", { fatal: false }).decode` -/
def decode (bytes : Bytes) : List Char := dropMark (decodeFrom none bytes)

/-- The UTF-16 code units of a character. -/
def codeUnits (c : Char) : List Nat :=
  if c.toNat < 0x10000 then [c.toNat]
  else [0xD800 + (c.toNat - 0x10000) / 0x400, 0xDC00 + (c.toNat - 0x10000) % 0x400]

def units (text : List Char) : List Nat := text.flatMap codeUnits

/-! ## Text that is not damaged -/

theorem val_lt (c : Char) :
    c.val.toNat < 0x110000 ∧ (c.val.toNat < 0xD800 ∨ 0xDFFF < c.val.toNat) := by
  have valid : c.val.toNat < 0xD800 ∨ 0xDFFF < c.val.toNat ∧ c.val.toNat < 0x110000 := c.valid
  omega

theorem decodeFrom_cons (p : Option Partial) (b : UInt8) (rest : Bytes) :
    decodeFrom p (b :: rest) = (next p b).1 ++ decodeFrom (next p b).2 rest := by
  cases p <;> rfl

theorem decodeFrom_lead {b : UInt8} {p : Partial} (begins : lead b.toNat = ([], some p))
    (rest : Bytes) : decodeFrom none (b :: rest) = decodeFrom (some p) rest := by
  rw [decodeFrom_cons, next, begins, List.nil_append]

theorem decodeFrom_more {b : UInt8} {p : Partial} (more : p.toCome ≠ 1)
    (inside : p.lower ≤ b.toNat ∧ b.toNat ≤ p.upper) (rest : Bytes) :
    decodeFrom (some p) (b :: rest) =
      decodeFrom (some ⟨p.toCome - 1, 0x80, 0xBF, 64 * p.codePoint + b.toNat % 64⟩) rest := by
  rw [decodeFrom_cons, next, if_pos inside, if_neg more, List.nil_append]

theorem decodeFrom_last {b : UInt8} {p : Partial} (last : p.toCome = 1)
    (inside : p.lower ≤ b.toNat ∧ b.toNat ≤ p.upper) (rest : Bytes) :
    decodeFrom (some p) (b :: rest) =
      Char.ofNat (64 * p.codePoint + b.toNat % 64) :: decodeFrom none rest := by
  rw [decodeFrom_cons, next, if_pos inside, if_pos last, List.singleton_append]

/-- A character is decoded from its own bytes. -/
theorem decodeFrom_char (c : Char) (rest : Bytes) :
    decodeFrom none (String.utf8EncodeChar c ++ rest) = c :: decodeFrom none rest := by
  obtain ⟨small, valid⟩ := val_lt c
  have back : Char.ofNat c.val.toNat = c := Char.ofNat_toNat c
  have byte : ∀ n, n < 256 → (UInt8.ofNat n).toNat = n := fun n below =>
    UInt8.toNat_ofNat_of_lt' below
  rw [String.utf8EncodeChar]
  generalize c.val.toNat = v at small valid back
  split
  · -- one byte
    have ascii : lead (UInt8.ofNat v).toNat = ([c], none) := by
      rw [byte v (by omega), lead, if_pos (by omega), back]
    rw [List.singleton_append, decodeFrom_cons, next, ascii, List.singleton_append]
  · split
    · -- two bytes
      have first := byte (v / 64 % 0x20 + 0xc0) (by omega)
      have second := byte (v % 0x40 + 0x80) (by omega)
      have begins : lead (UInt8.ofNat (v / 64 % 0x20 + 0xc0)).toNat =
          ([], some ⟨1, 0x80, 0xBF, v / 64⟩) := by
        have same : v / 64 % 0x20 + 0xc0 - 0xC0 = v / 64 := by omega
        rw [first, lead, if_neg (by omega), if_pos (by omega), same]
      rw [List.cons_append, List.singleton_append, decodeFrom_lead begins,
        decodeFrom_last rfl (by rw [second]; dsimp only; omega), second]
      have value : 64 * (v / 64) + (v % 0x40 + 0x80) % 64 = v := by omega
      rw [value, back]
    · split
      · -- three bytes
        have first := byte (v / 4096 % 0x10 + 0xe0) (by omega)
        have second := byte (v / 64 % 0x40 + 0x80) (by omega)
        have third := byte (v % 0x40 + 0x80) (by omega)
        have begins : lead (UInt8.ofNat (v / 4096 % 0x10 + 0xe0)).toNat =
            ([], some ⟨2, if v / 4096 = 0 then 0xA0 else 0x80, if v / 4096 = 13 then 0x9F else 0xBF,
              v / 4096⟩) := by
          have same : v / 4096 % 0x10 = v / 4096 := by omega
          rw [first, lead, if_neg (by omega), if_neg (by omega), if_pos (by omega), same,
            Nat.add_sub_cancel]
          simp only [Nat.add_eq_right, Nat.reduceEqDiff]
        rw [List.cons_append, List.cons_append, List.singleton_append, decodeFrom_lead begins,
          decodeFrom_more (by dsimp only; decide) (by rw [second]; dsimp only; split <;> split <;> omega),
          decodeFrom_last rfl (by rw [third]; dsimp only; omega), second, third]
        have value : 64 * (64 * (v / 4096) + (v / 64 % 0x40 + 0x80) % 64) +
            (v % 0x40 + 0x80) % 64 = v := by omega
        rw [value, back]
      · -- four bytes
        have first := byte (v / 262144 % 0x08 + 0xf0) (by omega)
        have second := byte (v / 4096 % 0x40 + 0x80) (by omega)
        have third := byte (v / 64 % 0x40 + 0x80) (by omega)
        have fourth := byte (v % 0x40 + 0x80) (by omega)
        have begins : lead (UInt8.ofNat (v / 262144 % 0x08 + 0xf0)).toNat =
            ([], some ⟨3, if v / 262144 = 0 then 0x90 else 0x80,
              if v / 262144 = 4 then 0x8F else 0xBF, v / 262144⟩) := by
          have same : v / 262144 % 0x08 = v / 262144 := by omega
          rw [first, lead, if_neg (by omega), if_neg (by omega), if_neg (by omega),
            if_pos (by omega), same, Nat.add_sub_cancel]
          simp only [Nat.add_eq_right, Nat.reduceEqDiff]
        rw [List.cons_append, List.cons_append, List.cons_append, List.singleton_append,
          decodeFrom_lead begins,
          decodeFrom_more (by dsimp only; decide) (by rw [second]; dsimp only; split <;> split <;> omega),
          decodeFrom_more (by dsimp only; decide) (by rw [third]; dsimp only; omega),
          decodeFrom_last rfl (by rw [fourth]; dsimp only; omega), second, third, fourth]
        have value : 64 * (64 * (64 * (v / 262144) + (v / 4096 % 0x40 + 0x80) % 64) +
            (v / 64 % 0x40 + 0x80) % 64) + (v % 0x40 + 0x80) % 64 = v := by omega
        rw [value, back]

theorem decodeFrom_utf8 (text : List Char) (rest : Bytes) :
    decodeFrom none (Text.utf8 text ++ rest) = text ++ decodeFrom none rest := by
  induction text with
  | nil => rfl
  | cons c text ih =>
      rw [Text.utf8, List.flatMap_cons, List.append_assoc, decodeFrom_char, ← Text.utf8, ih]
      rfl

/-- Decoding takes encoding back, but for a byte order mark in front. -/
theorem decode_utf8 (text : List Char) : decode (Text.utf8 text) = dropMark text := by
  have read := decodeFrom_utf8 text []
  rw [List.append_nil, decodeFrom, List.append_nil] at read
  rw [decode, read]

/-! ## Lengths -/

theorem codeUnits_length (c : Char) : 1 ≤ (codeUnits c).length ∧ (codeUnits c).length ≤ 2 := by
  rw [codeUnits]
  split
  · exact ⟨Nat.le_refl 1, Nat.le_succ 1⟩
  · exact ⟨Nat.le_succ 1, Nat.le_refl 2⟩

theorem units_cons (c : Char) (text : List Char) :
    units (c :: text) = codeUnits c ++ units text := rfl

theorem lead_units (n : Nat) :
    (units (lead n).1).length + (if (lead n).2.isSome then 1 else 0) ≤ 1 := by
  have ascii : ∀ n : Fin 0x80, (codeUnits (Char.ofNat n)).length = 1 := by decide
  rw [lead]
  split
  · rename_i small
    simp [units, ascii ⟨n, small⟩]
  · split
    · exact Nat.le_refl 1
    · split
      · exact Nat.le_refl 1
      · split
        · exact Nat.le_refl 1
        · decide

/-- What was read of a character counts for one unit. -/
theorem units_decodeFrom_le (p : Option Partial) (bytes : Bytes) :
    (units (decodeFrom p bytes)).length ≤ bytes.length + (if p.isSome then 1 else 0) := by
  induction bytes generalizing p with
  | nil =>
      cases p with
      | none => decide
      | some _ => exact Nat.le_refl 1
  | cons b rest ih =>
      have later := ih (next p b).2
      have first : (units (next p b).1).length + (if (next p b).2.isSome then 1 else 0) ≤
          1 + (if p.isSome then 1 else 0) := by
        cases p with
        | none => exact lead_units b.toNat
        | some p =>
            rw [next]
            split
            · split
              · have two := (codeUnits_length (Char.ofNat (64 * p.codePoint + b.toNat % 64))).2
                simp [units, two]
              · simp [units]
            · have begins := lead_units b.toNat
              have one : (codeUnits replacement).length = 1 := by decide
              simp only [units_cons, List.length_append, one, Option.isSome_some, if_true]
              omega
      have parts : units (decodeFrom p (b :: rest)) =
          units (next p b).1 ++ units (decodeFrom (next p b).2 rest) := by
        rw [decodeFrom_cons]
        exact List.flatMap_append
      rw [parts, List.length_append, List.length_cons]
      omega

theorem units_dropMark_le (text : List Char) : (units (dropMark text)).length ≤ (units text).length := by
  rw [dropMark.eq_def]
  split
  · split
    · rw [units_cons, List.length_append]
      omega
    · exact Nat.le_refl _
  · exact Nat.le_refl _

/-- No more code units than bytes. -/
theorem units_decode_le (bytes : Bytes) : (units (decode bytes)).length ≤ bytes.length :=
  Nat.le_trans (units_dropMark_le _) (units_decodeFrom_le none bytes)

end GrpcBridge.Theory.Utf8
