/-
# H2.HpackTable -- the decoder over a connection

What stays true of one `HpackDecoder` from block to block, also across blocks that fail.

* The dynamic table is counted right and fits the size in force, which is never above what
  the peer was told (`table_sound_of_reaches`).
* The limits of a call never reach the table: with them and without them the decoder goes
  through the same states, and a block that decodes is refused exactly when its header
  list is over the limits (`decodeBlocks_limits`).  So one refused response does not shift
  the indexes of the responses after it.
-/
import GrpcBridge.H2.Hpack
import GrpcBridge.Theory.Eviction
import GrpcBridge.Theory.Machine
import Mathlib.Data.List.Induction

namespace GrpcBridge.H2

open GrpcBridge.Theory
open GrpcBridge.Theory.Eviction

set_option autoImplicit false

namespace HpackDecoder

/-! ## The size of the table -/

/-- The table is counted, and it fits what the peer was told. -/
structure Sound (d : HpackDecoder) : Prop where
  counted : d.size = total entrySize d.dynamic
  fits : total entrySize d.dynamic ≤ d.maxSize
  allowed : d.maxSize ≤ d.protocolMax

/-- The loop that evicts leaves what fits. -/
theorem popWhile_fitting {tooMuch : Int → Bool} {limit : Nat}
    (heavy : ∀ size, tooMuch size = decide ((limit : Int) < size)) (oldestFirst : List HeaderEntry)
    {size : Int} (counted : size = total entrySize oldestFirst.reverse) :
    popWhile tooMuch oldestFirst size =
      ((fitting entrySize limit oldestFirst.reverse).reverse,
        (total entrySize (fitting entrySize limit oldestFirst.reverse) : Int)) := by
  induction oldestFirst generalizing size with
  | nil =>
      rw [popWhile, counted]
      rfl
  | cons oldest newer ih =>
      rw [popWhile, heavy]
      have weight : total entrySize (oldest :: newer).reverse =
          total entrySize newer.reverse + entrySize oldest := by
        rw [List.reverse_cons, total_append, total_cons, total_nil, Nat.add_zero]
      rw [weight] at counted
      split
      · rename_i heavy
        rw [decide_eq_true_eq] at heavy
        rw [ih (by omega), List.reverse_cons, fitting_concat]
        rw [← List.reverse_cons, weight]
        omega
      · rename_i light
        rw [decide_eq_true_eq] at light
        have stays : fitting entrySize limit (oldest :: newer).reverse =
            (oldest :: newer).reverse := fitting_of_le (by rw [weight]; omega)
        rw [stays, List.reverse_reverse, counted, weight]

/-- Inserting evicts what has no place beside the new entry. -/
theorem insert_eq {d : HpackDecoder} (counted : d.size = total entrySize d.dynamic)
    (entry : HeaderEntry) :
    d.insert entry =
      if entrySize entry ≤ d.maxSize then
        { d with
          dynamic := entry :: fitting entrySize (d.maxSize - entrySize entry) d.dynamic
          size := total entrySize (entry :: fitting entrySize (d.maxSize - entrySize entry) d.dynamic) }
      else { d with dynamic := [], size := 0 } := by
  rw [insert]
  by_cases fits : entrySize entry ≤ d.maxSize
  · have heavy : ∀ size : Int, decide ((d.maxSize : Int) < size + entrySize entry) =
        decide (((d.maxSize - entrySize entry : Nat) : Int) < size) := by
      intro size
      congr 1
      exact propext (by omega)
    have weighed : d.size = total entrySize d.dynamic.reverse.reverse := by
      rw [List.reverse_reverse, counted]
    have left := popWhile_fitting heavy d.dynamic.reverse weighed
    rw [List.reverse_reverse] at left
    simp only [evictWhile, left, fits, if_true, List.reverse_reverse, total_cons]
    congr 1
    omega
  · simp only [evictWhile, fits, if_false]

theorem applyMaxSize_eq {d d' : HpackDecoder} (counted : d.size = total entrySize d.dynamic)
    {newSize : Nat} (applied : d.applyMaxSize newSize = .ok d') :
    newSize ≤ d.protocolMax ∧
      d' =
        { d with
          maxSize := newSize
          dynamic := fitting entrySize newSize d.dynamic
          size := total entrySize (fitting entrySize newSize d.dynamic) } := by
  rw [applyMaxSize] at applied
  split at applied
  · cases applied
  · rename_i allowed
    cases applied
    refine ⟨by omega, ?_⟩
    rw [evictWhile, popWhile_fitting (fun _ => rfl) d.dynamic.reverse
      (by rw [List.reverse_reverse, counted]), List.reverse_reverse, List.reverse_reverse]

theorem Sound.new (maxSize : Nat) : (HpackDecoder.new maxSize).Sound :=
  ⟨rfl, Nat.zero_le _, Nat.le_refl _⟩

theorem Sound.insert {d : HpackDecoder} (sound : d.Sound) (entry : HeaderEntry) :
    (d.insert entry).Sound := by
  rw [insert_eq sound.counted]
  split
  · rename_i fits
    have kept : total entrySize (fitting entrySize (d.maxSize - entrySize entry) d.dynamic) ≤
        d.maxSize - entrySize entry := total_fitting_le _ _
    exact ⟨rfl, by rw [total_cons]; dsimp only; omega, sound.allowed⟩
  · exact ⟨rfl, Nat.zero_le _, sound.allowed⟩

theorem Sound.applyMaxSize {d d' : HpackDecoder} (sound : d.Sound) {newSize : Nat}
    (applied : d.applyMaxSize newSize = .ok d') : d'.Sound := by
  obtain ⟨allowed, rfl⟩ := applyMaxSize_eq sound.counted applied
  exact ⟨rfl, total_fitting_le _ _, allowed⟩

theorem Sound.setProtocolMaxSize {d : HpackDecoder} (sound : d.Sound) (n : Nat) :
    (d.setProtocolMaxSize n).Sound := by
  rw [HpackDecoder.setProtocolMaxSize]
  split
  · cases applied : ({ d with protocolMax := n } : HpackDecoder).applyMaxSize n with
    | error e =>
        rw [HpackDecoder.applyMaxSize, if_neg (Nat.lt_irrefl n)] at applied
        cases applied
    | ok d' =>
        obtain ⟨allowed, rfl⟩ :=
          applyMaxSize_eq (d := { d with protocolMax := n }) sound.counted applied
        exact ⟨rfl, total_fitting_le _ _, allowed⟩
  · rename_i small
    exact ⟨sound.counted, sound.fits, Nat.le_of_not_lt small⟩

theorem Sound.decodeField {d d' : HpackDecoder} {r rest : Bytes} {field : Option HeaderEntry}
    (sound : d.Sound) (read : d.decodeField r = .ok (d', field, rest)) : d'.Sound := by
  obtain ⟨-, ⟨entry, -, rfl | rfl⟩ | ⟨newSize, -, applied⟩⟩ := decodeField_cases read
  · exact sound
  · exact sound.insert entry
  · exact sound.applyMaxSize applied

/-! ## Parsing and counting -/

/-- One block as its loop parses it, whatever is counted on the way. -/
theorem decodeRest_parses (d : HpackDecoder) (r : Bytes) :
    ∃ d' parsed, (d.Sound → d'.Sound) ∧ ∀ limits budget,
      decodeRest limits d budget r =
        (d', (parsed : Except Thrown (List HeaderEntry)).map
          (·.foldl (recordHeader limits) budget)) := by
  have bounded : ∀ n, ∀ (d : HpackDecoder) (r : Bytes), r.length ≤ n →
      ∃ d' parsed, (d.Sound → d'.Sound) ∧ ∀ limits budget, decodeRest limits d budget r =
        (d', (parsed : Except Thrown (List HeaderEntry)).map
          (·.foldl (recordHeader limits) budget)) := by
    intro n
    induction n with
    | zero =>
        intro d r short
        have empty := List.eq_nil_of_length_eq_zero (Nat.le_zero.1 short)
        subst empty
        exact ⟨d, .ok [], id, fun _ _ => rfl⟩
    | succ n ih =>
        intro d r short
        by_cases empty : r = []
        · subst empty
          exact ⟨d, .ok [], id, fun _ _ => rfl⟩
        · cases read : d.decodeField r with
          | error e => exact ⟨d, .error e, id, fun _ budget => decodeRest_error budget empty read⟩
          | ok next =>
              obtain ⟨d₁, field, rest⟩ := next
              have shorter := (decodeField_cases read).1
              obtain ⟨d', parsed, sound, same⟩ := ih d₁ rest (by omega)
              have kept : d.Sound → d'.Sound := fun start => sound (start.decodeField read)
              cases field with
              | none =>
                  refine ⟨d', parsed, kept, fun limits budget => ?_⟩
                  rw [decodeRest_step budget read]
                  exact same limits budget
              | some entry =>
                  refine ⟨d', parsed.map (entry :: ·), kept, fun limits budget => ?_⟩
                  rw [decodeRest_step budget read, Option.elim_some, same]
                  cases parsed <;> rfl
  exact bounded r.length d r (Nat.le_refl _)

end HpackDecoder

/-- The octets a header counts for. -/
def headerBytes (h : Header) : Nat :=
  (encodeUtf8 h.name).length + (encodeUtf8 h.value).length + entryOverhead

def exceeds (limits : HeaderDecodeLimits) (headers : List Header) : Bool :=
  decide (limits.maxHeaderCount < headers.length) ||
    decide (limits.maxHeaderListBytes < total headerBytes headers)

def headerListTooLarge (limits : HeaderDecodeLimits) : Thrown :=
  .h2
    { code := .enhanceYourCalm
      message := "decoded header list exceeds configured limit"
      streamId := limits.streamId }

/-- What is made of a whole header list. -/
def limit (limits : Option HeaderDecodeLimits) (headers : List Header) :
    Except Thrown (List Header) :=
  match limits with
  | none => .ok headers
  | some limits => if exceeds limits headers then .error (headerListTooLarge limits) else .ok headers

theorem utf8LengthOf_cons {code : Nat} (other : ¬ (0xD800 ≤ code ∧ code ≤ 0xDBFF))
    (rest : List Nat) :
    utf8LengthOf (code :: rest) =
      utf8LengthOf rest + if code ≤ 0x7F then 1 else if code ≤ 0x7FF then 2 else 3 := by
  cases rest with
  | nil =>
      rw [utf8LengthOf, utf8LengthOf, Nat.zero_add]
  | cons next later =>
      rw [utf8LengthOf]
      simp only [other, false_and, if_false]
      split
      · rfl
      · split <;> rfl

/-- The count of code units is the count of octets. -/
theorem utf8Length_eq (s : String) : utf8Length s = (encodeUtf8 s).length := by
  rw [utf8Length, encodeUtf8]
  induction s.toList with
  | nil => rfl
  | cons c text ih =>
      obtain ⟨small, valid⟩ := Utf8.val_lt c
      rw [Utf8.units_cons, Text.utf8, List.flatMap_cons, ← Text.utf8, List.length_append, ← ih,
        String.utf8EncodeChar, Utf8.codeUnits]
      have same : c.toNat = c.val.toNat := rfl
      rw [same]
      generalize c.val.toNat = v at small valid
      by_cases plane : v < 0x10000
      · rw [if_pos plane, List.singleton_append, utf8LengthOf_cons (by omega)]
        by_cases one : v ≤ 0x7F
        · rw [if_pos one, if_pos one, List.length_singleton, Nat.add_comm]
        · rw [if_neg one, if_neg one]
          by_cases two : v ≤ 0x7FF
          · rw [if_pos two, if_pos two, Nat.add_comm]
            rfl
          · have three : v ≤ 0xFFFF := by omega
            rw [if_neg two, if_neg two, if_pos three, Nat.add_comm]
            rfl
      · have one : ¬ v ≤ 0x7F := by omega
        have two : ¬ v ≤ 0x7FF := by omega
        have three : ¬ v ≤ 0xFFFF := by omega
        rw [if_neg plane, if_neg one, if_neg two, if_neg three, List.cons_append,
          List.singleton_append, utf8LengthOf]
        rw [if_neg (by omega), if_neg (by omega), if_pos (by omega), Nat.add_comm]
        rfl

def toHeader (entry : HeaderEntry) : Header := { name := entry.1, value := entry.2 }

theorem fieldBytes_eq (entry : HeaderEntry) : fieldBytes entry = headerBytes (toHeader entry) := by
  rw [fieldBytes, headerBytes, utf8Length_eq, utf8Length_eq]
  rfl

/-- Counting field by field refuses exactly the lists that are over the limits. -/
theorem recordHeader_foldl (limits : Option HeaderDecodeLimits) (entries : List HeaderEntry) :
    let budget := entries.foldl (recordHeader limits) {}
    let headers := entries.map toHeader
    let exceeded := limits.any fun l => exceeds l headers
    budget.rejected = exceeded ∧
      (exceeded = false → budget.headers = headers ∧
        budget.headerListBytes = total headerBytes headers ∧ budget.fieldCount = headers.length) := by
  induction entries using List.reverseRecOn with
  | nil =>
      refine ⟨?_, fun _ => ⟨rfl, rfl, rfl⟩⟩
      cases limits with
      | none => rfl
      | some l => simp [exceeds]
  | append_singleton entries entry ih =>
      obtain ⟨rejected, counts⟩ := ih
      simp only [List.foldl_append, List.foldl_cons, List.foldl_nil, List.map_append, List.map_cons,
        List.map_nil]
      generalize entries.foldl (recordHeader limits) {} = budget at rejected counts
      generalize entries.map toHeader = headers at rejected counts
      have grows : (limits.any fun l => exceeds l headers) = true →
          (limits.any fun l => exceeds l (headers ++ [toHeader entry])) = true := by
        cases limits with
        | none => exact id
        | some l =>
            simp only [Option.any_some, exceeds, Bool.or_eq_true, decide_eq_true_eq, total_append,
              total_cons, total_nil, List.length_append, List.length_singleton]
            omega
      rw [recordHeader]
      cases before : limits.any fun l => exceeds l headers with
      | true =>
          rw [before] at rejected
          rw [if_pos rejected, grows before]
          exact ⟨rejected, fun fine => by cases fine⟩
      | false =>
          rw [before] at rejected
          obtain ⟨list, bytes, count⟩ := counts before
          have step : overLimits limits budget.fieldCount
              (budget.headerListBytes + fieldBytes entry) =
                limits.any fun l => exceeds l (headers ++ [toHeader entry]) := by
            cases limits with
            | none => rfl
            | some l =>
                simp only [Option.any_some, exceeds, Bool.or_eq_false_iff, decide_eq_false_iff_not]
                  at before
                simp only [overLimits, Option.any_some, exceeds, count, bytes, fieldBytes_eq,
                  total_append, total_cons, total_nil, List.length_append, List.length_singleton]
                congr 1
                congr 1
                exact propext (by omega)
          rw [if_neg (by simp [rejected])]
          simp only [step]
          refine ⟨trivial, fun fine => ⟨?_, ?_, ?_⟩⟩
          · rw [fine, list]
            rfl
          · rw [bytes, fieldBytes_eq, total_append]
            rfl
          · rw [count, List.length_append]
            rfl

namespace HpackDecoder

/-- What is made of a block that was parsed. -/
theorem decode_of_parsed {d d' : HpackDecoder} {block : Bytes} {limits : Option HeaderDecodeLimits}
    (parsed : Except Thrown (List HeaderEntry))
    (ran : decodeRest limits d {} block =
      (d', parsed.map (·.foldl (recordHeader limits) {}))) :
    d.decode block limits = (d', parsed.map (·.map toHeader) >>= limit limits) := by
  rw [decodeRest] at ran
  rw [decode, ran]
  cases parsed with
  | error e => rfl
  | ok entries =>
      obtain ⟨rejected, counts⟩ := recordHeader_foldl limits entries
      simp only [Except.map, Fallible.bind_ok]
      rw [rejected]
      cases limits with
      | none => exact congrArg (fun h => (d', Except.ok h)) (counts rfl).1
      | some l =>
          simp only [limit, Option.any_some] at counts ⊢
          by_cases exceeded : exceeds l (entries.map toHeader) = true
          · rw [if_pos exceeded, if_pos exceeded]
            rfl
          · rw [if_neg exceeded, if_neg exceeded, (counts (by simpa using exceeded)).1]

/-- **One block.**  The limits decide what is made of the header list, and nothing else. -/
theorem decode_limits (d : HpackDecoder) (block : Bytes) (limits : Option HeaderDecodeLimits) :
    d.decode block limits = ((d.decode block none).1, (d.decode block none).2 >>= limit limits) := by
  obtain ⟨d', parsed, -, same⟩ := decodeRest_parses d block
  rw [decode_of_parsed parsed (same limits {}), decode_of_parsed parsed (same none {})]
  cases parsed <;> rfl

theorem Sound.decode {d : HpackDecoder} (sound : d.Sound) (block : Bytes)
    (limits : Option HeaderDecodeLimits) : (d.decode block limits).1.Sound := by
  obtain ⟨d', parsed, kept, same⟩ := decodeRest_parses d block
  have ran := same limits {}
  rw [decodeRest] at ran
  rw [HpackDecoder.decode, ran]
  cases parsed with
  | error e => exact kept sound
  | ok entries =>
      simp only [Except.map]
      split <;> exact kept sound

/-! ## Runs -/

/-- What is called on a decoder. -/
inductive Call where
  | decode (block : Bytes) (limits : Option HeaderDecodeLimits)
  | setProtocolMaxSize (n : Nat)

def step (d : HpackDecoder) : Call → Option HpackDecoder
  | .decode block limits => some (d.decode block limits).1
  | .setProtocolMaxSize n => some (d.setProtocolMaxSize n)

def machine (maxSize : Nat) : Machine HpackDecoder Call := ⟨new maxSize, step⟩

/-- **The table over a connection.**  Whatever blocks arrive, damaged ones and refused ones
among them, the table is counted and fits. -/
theorem table_sound_of_reaches {maxSize : Nat} {d : HpackDecoder}
    (reaches : (machine maxSize).Reaches Machine.always d) : d.Sound := by
  refine Machine.Steps.invariant Sound ?_ reaches (Sound.new maxSize)
  intro d call d' sound _ stepped
  cases call with
  | decode block limits =>
      cases stepped
      exact sound.decode block limits
  | setProtocolMaxSize n =>
      cases stepped
      exact sound.setProtocolMaxSize n

theorem table_sound_of_reaches_damaged :
    ((HpackDecoder.new 64).decode [0x40, 1, 97, 1, 98, 0xFF] none).1.Sound :=
  @table_sound_of_reaches 64 _
    (.tail (e := .decode [0x40, 1, 97, 1, 98, 0xFF] none) .refl trivial rfl)

/-- The blocks of a connection, each with its limits, and what is made of them. -/
def decodeBlocks (d : HpackDecoder) :
    List (Bytes × Option HeaderDecodeLimits) →
      HpackDecoder × List (Except Thrown (List Header))
  | [] => (d, [])
  | (block, limits) :: blocks =>
      let first := d.decode block limits
      let later := decodeBlocks first.1 blocks
      (later.1, first.2 :: later.2)

/-- **Limits over a connection.**  The decoder ends with the table it would have without
any limit, and each block is what it would be, unless its own list is over its limits. -/
theorem decodeBlocks_limits (d : HpackDecoder) (blocks : List (Bytes × Option HeaderDecodeLimits)) :
    d.decodeBlocks blocks =
      ((d.decodeBlocks (blocks.map fun b => (b.1, none))).1,
        List.zipWith (fun b result => result >>= limit b.2) blocks
          (d.decodeBlocks (blocks.map fun b => (b.1, none))).2) := by
  induction blocks generalizing d with
  | nil => rfl
  | cons b blocks ih =>
      obtain ⟨block, limits⟩ := b
      rw [List.map_cons, decodeBlocks, decodeBlocks, decode_limits d block limits, ih]
      rfl

end HpackDecoder

end GrpcBridge.H2
