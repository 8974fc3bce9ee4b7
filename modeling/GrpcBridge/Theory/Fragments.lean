/-
# Theory.Fragments -- messages that are cut into fragments

A message is a first fragment and then further ones of the same owner, the last of them
marked, with nothing between them.  `assemble` reads the messages of a stream of tokens and
refuses one that breaks this.
-/
import Mathlib.Data.List.Basic

namespace GrpcBridge.Theory.Fragments

set_option autoImplicit false

inductive Token (κ ι : Type) where
  | first (key : κ) (bytes : List UInt8) (final : Bool)
  | more (owner : ι) (bytes : List UInt8) (final : Bool)
  | other
deriving DecidableEq, Repr

/-- The messages read, and one that is not finished. -/
structure Assembly (κ : Type) where
  whole : List (κ × List UInt8) := []
  begun : Option (κ × List UInt8) := none
deriving DecidableEq, Repr

variable {κ ι : Type} [DecidableEq ι] (owner : κ → ι)

namespace Assembly

def put (a : Assembly κ) (key : κ) (bytes : List UInt8) (final : Bool) : Assembly κ :=
  if final then { whole := a.whole ++ [(key, bytes)] } else { a with begun := some (key, bytes) }

def take (a : Assembly κ) (t : Token κ ι) : Option (Assembly κ) :=
  match a.begun, t with
  | none, .first key bytes final => some (a.put key bytes final)
  | none, .other => some a
  | some (key, before), .more id bytes final =>
      if owner key = id then some (a.put key (before ++ bytes) final) else none
  | _, _ => none

def takeAll (a : Assembly κ) : List (Token κ ι) → Option (Assembly κ)
  | [] => some a
  | t :: ts => (a.take owner t).bind (takeAll · ts)

variable {owner} {a b : Assembly κ}

theorem takeAll_append (a : Assembly κ) (ts us : List (Token κ ι)) :
    a.takeAll owner (ts ++ us) = (a.takeAll owner ts).bind fun b => b.takeAll owner us := by
  induction ts generalizing a with
  | nil => rfl
  | cons t ts ih =>
      rw [List.cons_append, takeAll, takeAll, Option.bind_assoc]
      congr 1
      funext b
      exact ih b

theorem takeAll_snoc (a : Assembly κ) (ts : List (Token κ ι)) (t : Token κ ι) :
    a.takeAll owner (ts ++ [t]) = (a.takeAll owner ts).bind fun b => b.take owner t := by
  rw [takeAll_append]
  congr 1
  funext b
  cases taken : b.take owner t with
  | none => rw [takeAll, taken, Option.bind_none]
  | some c => rw [takeAll, taken, Option.bind_some, takeAll]

/-- Other tokens may come between two messages. -/
theorem takeAll_others (idle : a.begun = none) {ts : List (Token κ ι)}
    (others : ∀ t ∈ ts, t = .other) : a.takeAll owner ts = some a := by
  induction ts with
  | nil => rfl
  | cons t ts ih =>
      obtain ⟨rfl, later⟩ := List.forall_mem_cons.1 others
      have passed : a.take owner (Token.other : Token κ ι) = some a := by
        unfold take
        rw [idle]
      rw [takeAll, passed, Option.bind_some]
      exact ih later

theorem put_whole (a : Assembly κ) (key : κ) (bytes : List UInt8) (final : Bool) :
    a.whole <+: (a.put key bytes final).whole := by
  unfold put
  split
  · exact List.prefix_append _ _
  · exact List.prefix_rfl

/-- What was read stays read. -/
theorem take_whole {t : Token κ ι} (taken : a.take owner t = some b) : a.whole <+: b.whole := by
  unfold take at taken
  split at taken
  · obtain rfl := Option.some.inj taken
    exact a.put_whole _ _ _
  · obtain rfl := Option.some.inj taken
    exact List.prefix_rfl
  · split at taken
    · obtain rfl := Option.some.inj taken
      exact a.put_whole _ _ _
    · cases taken
  · cases taken

end Assembly

/-- The messages of a stream from its beginning. -/
def assemble (ts : List (Token κ ι)) : Option (Assembly κ) := Assembly.takeAll owner {} ts

variable {owner}

/-! ## Cutting a message -/

/-- The fragments behind the first, each of up to `size` bytes. -/
def pieces (id : ι) (size : Nat) : Nat → List UInt8 → List (Token κ ι)
  | 0, _ => []
  | _ + 1, [] => []
  | fuel + 1, rest =>
      .more id (rest.take size) (rest.drop size).isEmpty :: pieces id size fuel (rest.drop size)

/-- A message is read behind any part of it. -/
theorem takeAll_pieces (key : κ) (before : List UInt8) {size : Nat} (positive : 0 < size)
    {fuel : Nat} {rest : List UInt8} (enough : rest.length ≤ fuel) (some_left : rest ≠ [])
    (whole : List (κ × List UInt8)) :
    Assembly.takeAll owner { whole, begun := some (key, before) }
        (pieces (owner key) size fuel rest) =
      some { whole := whole ++ [(key, before ++ rest)] } := by
  induction fuel generalizing before rest with
  | zero => exact absurd (List.length_eq_zero_iff.1 (Nat.le_zero.1 enough)) some_left
  | succ fuel ih =>
      obtain ⟨byte, tail, rfl⟩ := List.exists_cons_of_ne_nil some_left
      rw [pieces.eq_def]
      simp only [Assembly.takeAll, Assembly.take, if_true, Option.bind_some]
      by_cases last : (byte :: tail).drop size = []
      · have all : (byte :: tail).take size = byte :: tail :=
          List.take_of_length_le (List.drop_eq_nil_iff.1 last)
        rw [last, all]
        cases fuel <;> rfl
      · have shorter : ((byte :: tail).drop size).length ≤ fuel := by
          rw [List.length_drop]
          rw [List.length_cons] at enough ⊢
          omega
        rw [List.isEmpty_eq_false_iff.2 last]
        refine (ih (before ++ (byte :: tail).take size) shorter last).trans ?_
        rw [List.append_assoc, List.take_append_drop]

end GrpcBridge.Theory.Fragments
