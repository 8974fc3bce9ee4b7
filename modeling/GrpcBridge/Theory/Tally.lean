/-
# Theory.Tally -- who has a property, when one party at a time changes

The parties of a concurrent system are a finite family of states.  `tally has f`
is the set of those whose state has a property.  When the state of one party is
replaced, the set stays the same, gains that party or loses it, and these are the
only facts that the accounting of a shared counter or a shared set needs.  A sum over
the parties changes by what that party contributes (`sum_update_add`).
-/
import Mathlib.Algebra.BigOperators.Group.Finset.Basic
import Mathlib.Data.Fintype.Basic
import Mathlib.Data.Finset.Card

namespace GrpcBridge.Theory

set_option autoImplicit false

universe u v

variable {ι : Type u} [Fintype ι] {α : Type v}

def tally (has : α → Prop) [DecidablePred has] (f : ι → α) : Finset ι :=
  Finset.univ.filter fun i => has (f i)

variable {has : α → Prop} [DecidablePred has] {f : ι → α}

@[simp] theorem mem_tally {i : ι} : i ∈ tally has f ↔ has (f i) := by
  rw [tally, Finset.mem_filter, and_iff_right (Finset.mem_univ i)]

theorem tally_eq_empty (nobody : ∀ i, ¬ has (f i)) : tally has f = ∅ := by
  rw [tally, Finset.filter_eq_empty_iff]
  exact fun i _ => nobody i

variable [DecidableEq ι]

theorem tally_update_keep {i : ι} {a : α} (same : has a ↔ has (f i)) :
    tally has (Function.update f i a) = tally has f := by
  ext j
  rw [mem_tally, mem_tally]
  by_cases own : j = i
  · subst own
    rw [Function.update_self, same]
  · rw [Function.update_of_ne own]

theorem tally_update_gain {i : ι} {a : α} (gained : has a) :
    tally has (Function.update f i a) = insert i (tally has f) := by
  ext j
  rw [mem_tally, Finset.mem_insert, mem_tally]
  by_cases own : j = i
  · subst own
    rw [Function.update_self]
    exact ⟨fun _ => .inl rfl, fun _ => gained⟩
  · rw [Function.update_of_ne own, or_iff_right own]

theorem tally_update_lose {i : ι} {a : α} (lost : ¬ has a) :
    tally has (Function.update f i a) = (tally has f).erase i := by
  ext j
  rw [mem_tally, Finset.mem_erase, mem_tally]
  by_cases own : j = i
  · subst own
    rw [Function.update_self]
    exact ⟨fun held => absurd held lost, fun both => absurd rfl both.1⟩
  · rw [Function.update_of_ne own, and_iff_right own]

theorem card_tally_gain {i : ι} {a : α} (before : ¬ has (f i)) (gained : has a) :
    (tally has (Function.update f i a)).card = (tally has f).card + 1 := by
  rw [tally_update_gain gained, Finset.card_insert_of_notMem (by rwa [mem_tally])]

theorem card_tally_lose {i : ι} {a : α} (before : has (f i)) (lost : ¬ has a) :
    (tally has (Function.update f i a)).card + 1 = (tally has f).card := by
  rw [tally_update_lose lost, Finset.card_erase_add_one (by rwa [mem_tally])]

theorem sum_update_add {M : Type} [AddCommMonoid M] (value : α → M) (i : ι) (a : α) :
    (∑ j, value (Function.update f i a j)) + value (f i) = (∑ j, value (f j)) + value a := by
  have others : ∑ j ∈ Finset.univ.erase i, value (Function.update f i a j) =
      ∑ j ∈ Finset.univ.erase i, value (f j) := by
    apply Finset.sum_congr rfl
    intro j member
    rw [Function.update_of_ne (Finset.ne_of_mem_erase member)]
  rw [← Finset.add_sum_erase _ _ (Finset.mem_univ i), others,
    ← Finset.add_sum_erase Finset.univ (fun j => value (f j)) (Finset.mem_univ i),
    Function.update_self]
  ac_rfl

end GrpcBridge.Theory
