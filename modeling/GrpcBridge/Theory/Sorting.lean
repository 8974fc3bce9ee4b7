/-
# Theory.Sorting -- sorting by a comparator of keys

`Array.prototype.sort` is stable, and calls a comparator whose sign says which of two keys
comes first.  A comparator that finds only equal keys the same leaves no choice where the keys of
a list are unique: the sorted list is the same for every order of the list (`sort_congr`).
-/
import Mathlib.Data.List.Perm.Basic
import Mathlib.Data.List.Sort

namespace GrpcBridge.Theory.Sorting

set_option autoImplicit false

variable {α β κ : Type}

/-- A comparator with the laws of a linear order. -/
structure Comparator (κ : Type) where
  compare : κ → κ → Int
  trans : ∀ a b c, compare a b ≤ 0 → compare b c ≤ 0 → compare a c ≤ 0
  total : ∀ a b, compare a b ≤ 0 ∨ compare b a ≤ 0
  antisymm : ∀ a b, compare a b ≤ 0 → compare b a ≤ 0 → a = b

/-- No two elements of the list have one key. -/
def Unique (key : α → κ) (xs : List α) : Prop :=
  ∀ a ∈ xs, ∀ b ∈ xs, key a = key b → a = b

theorem unique_of_nodup {key : α → κ} {xs : List α} (distinct : (xs.map key).Nodup) :
    Unique key xs := fun _ member _ member' same =>
  List.inj_on_of_nodup_map distinct member member' same

/-- Lists of the same elements, whose keys stand in the same order. -/
theorem eq_of_keys {key : α → κ} {xs ys : List α} (perm : xs.Perm ys) (unique : Unique key xs)
    (keys : xs.map key = ys.map key) : xs = ys := by
  apply List.ext_getElem perm.length_eq
  intro i before before'
  apply unique
  · exact List.getElem_mem before
  · exact perm.mem_iff.2 (List.getElem_mem before')
  · have here := List.getElem_of_eq keys (by rwa [List.length_map])
    rwa [List.getElem_map, List.getElem_map] at here

namespace Comparator

variable (c : Comparator κ) (key : α → κ)

def sort (xs : List α) : List α := xs.mergeSort fun a b => c.compare (key a) (key b) ≤ 0

variable {c key}

theorem sort_perm (xs : List α) : (c.sort key xs).Perm xs := List.mergeSort_perm _ _

theorem mem_sort {xs : List α} {a : α} : a ∈ c.sort key xs ↔ a ∈ xs := (sort_perm xs).mem_iff

theorem sort_sorted (xs : List α) :
    (c.sort key xs).Pairwise fun a b => c.compare (key a) (key b) ≤ 0 := by
  have trans : ∀ x y z : α, decide (c.compare (key x) (key y) ≤ 0) = true →
      decide (c.compare (key y) (key z) ≤ 0) = true →
      decide (c.compare (key x) (key z) ≤ 0) = true := by
    intro x y z
    simp only [decide_eq_true_eq]
    exact c.trans _ _ _
  have total : ∀ x y : α, (decide (c.compare (key x) (key y) ≤ 0) ||
      decide (c.compare (key y) (key x) ≤ 0)) = true := by
    intro x y
    simp only [Bool.or_eq_true, decide_eq_true_eq]
    exact c.total _ _
  exact (List.pairwise_mergeSort trans total xs).imp fun le => of_decide_eq_true le

/-- Where keys are distinct, no key is found after one that it comes before. -/
theorem sort_strict {xs : List α} (distinct : (xs.map key).Nodup) :
    (c.sort key xs).Pairwise fun a b => ¬ c.compare (key b) (key a) ≤ 0 := by
  have different : (c.sort key xs).Pairwise fun a b => key a ≠ key b := by
    have perm : (c.sort key xs).Perm xs := sort_perm xs
    exact List.pairwise_map.1 ((perm.map key).nodup_iff.2 distinct)
  refine (List.Pairwise.and (sort_sorted xs) different).imp ?_
  rintro a b ⟨le, other⟩ ge
  exact other (c.antisymm _ _ le ge)

/-- Sorted lists of the same elements are the same list. -/
theorem sorted_unique {xs ys : List α} (perm : xs.Perm ys) (unique : Unique key xs)
    (sorted : xs.Pairwise fun a b => c.compare (key a) (key b) ≤ 0)
    (sorted' : ys.Pairwise fun a b => c.compare (key a) (key b) ≤ 0) : xs = ys := by
  refine perm.eq_of_pairwise ?_ sorted sorted'
  intro a b member member' le ge
  exact unique a member b (perm.mem_iff.2 member') (c.antisymm _ _ le ge)

theorem sort_of_sorted {xs : List α}
    (sorted : xs.Pairwise fun a b => c.compare (key a) (key b) ≤ 0) : c.sort key xs = xs :=
  List.mergeSort_of_pairwise (sorted.imp fun le => decide_eq_true le)

/-- **The order of the list does not matter** where keys are unique. -/
theorem sort_congr {xs ys : List α} (perm : xs.Perm ys) (unique : Unique key xs) :
    c.sort key xs = c.sort key ys := by
  refine sorted_unique ((sort_perm xs).trans (perm.trans (sort_perm ys).symm)) ?_
    (sort_sorted xs) (sort_sorted ys)
  intro a member b member' same
  exact unique a (mem_sort.1 member) b (mem_sort.1 member') same

theorem sort_eq_iff {xs ys : List α} (unique : Unique key xs) :
    c.sort key xs = c.sort key ys ↔ xs.Perm ys := by
  constructor
  · intro same
    have perm : (c.sort key xs).Perm ys := by
      rw [same]
      exact sort_perm ys
    exact (sort_perm xs).symm.trans perm
  · intro perm
    exact sort_congr perm unique

/-- Sorting commutes with a map that keeps the keys. -/
theorem sort_map {key' : β → κ} {f : α → β} {xs : List α}
    (keeps : ∀ a ∈ xs, key' (f a) = key a) : c.sort key' (xs.map f) = (c.sort key xs).map f := by
  symm
  apply List.map_mergeSort
  intro a member b member'
  rw [keeps a member, keeps b member']

/-- The images of a list, in any order, under the keys of what they are images of. -/
theorem sort_rearranged {key' : β → κ} {f : α → β} {xs : List α} {ys : List β}
    (perm : ys.Perm (xs.map f)) (unique : Unique key xs) (keeps : ∀ a ∈ xs, key' (f a) = key a) :
    c.sort key' ys = (c.sort key xs).map f := by
  have images : Unique key' (xs.map f) := by
    intro b member b' member' same
    obtain ⟨a, inside, rfl⟩ := List.mem_map.1 member
    obtain ⟨a', inside', rfl⟩ := List.mem_map.1 member'
    rw [keeps a inside, keeps a' inside'] at same
    rw [unique a inside a' inside' same]
  rw [← sort_congr perm.symm images, sort_map keeps]

/-- A list that has the images of another, under keys that are distinct in both. -/
theorem sort_images {key' : β → κ} {f : α → β} {xs : List α} {ys : List β}
    (distinct : (xs.map key).Nodup) (distinct' : (ys.map key').Nodup)
    (keeps : ∀ a ∈ xs, key' (f a) = key a) (images : ∀ b, b ∈ ys ↔ ∃ a ∈ xs, f a = b) :
    c.sort key' ys = (c.sort key xs).map f := by
  have keys : (xs.map f).map key' = xs.map key := by
    rw [List.map_map]
    exact List.map_congr_left keeps
  have nodup : (xs.map f).Nodup := List.Nodup.of_map key' (keys ▸ distinct)
  have perm : ys.Perm (xs.map f) := by
    rw [List.perm_ext_iff_of_nodup distinct'.of_map nodup]
    intro b
    rw [images, List.mem_map]
  exact sort_rearranged perm (unique_of_nodup distinct) keeps

end Comparator

end GrpcBridge.Theory.Sorting
