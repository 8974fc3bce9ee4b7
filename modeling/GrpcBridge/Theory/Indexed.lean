/-
# Theory.Indexed -- tables addressed by position

A table of objects in creation order, in which an object is its position.  An object is
replaced (`set`) or changed (`modify`) where it stands.  What is found afterwards is what
was found before, changed at that position, and a count over the table changes by that
object alone.
-/
import Mathlib.Data.List.Basic

namespace GrpcBridge.Theory.Indexed

set_option autoImplicit false

variable {α : Type} {l : List α}

theorem found_modify {i j : Nat} {f : α → α} {y : α} (found : (l.modify i f)[j]? = some y) :
    ∃ x, l[j]? = some x ∧ y = if i = j then f x else x := by
  rw [List.getElem?_modify] at found
  obtain ⟨x, was, same⟩ := Option.map_eq_some_iff.1 found
  exact ⟨x, was, same.symm⟩

theorem found_modify_self {i : Nat} {f : α → α} {x : α} (found : l[i]? = some x) :
    (l.modify i f)[i]? = some (f x) := by
  rw [List.getElem?_modify, found]
  exact congrArg some (if_pos rfl)

theorem found_append {i : Nat} {x y : α} (found : (l ++ [x])[i]? = some y) :
    l[i]? = some y ∨ i = l.length ∧ y = x := by
  rw [List.getElem?_append] at found
  split at found
  · exact .inl found
  · obtain ⟨rfl, position⟩ : y = x ∧ i - l.length = 0 := by
      obtain ⟨bound, rfl⟩ := List.getElem?_eq_some_iff.1 found
      rw [List.length_singleton] at bound
      exact ⟨List.getElem_singleton bound, by omega⟩
    exact .inr ⟨by omega, rfl⟩

theorem found_set {i j : Nat} {x y : α} (found : (l.set i x)[j]? = some y) :
    l[j]? = some y ∨ i = j ∧ y = x := by
  rw [List.getElem?_set] at found
  split at found
  · split at found
    · exact .inr ⟨‹_›, (Option.some.inj found).symm⟩
    · cases found
  · exact .inl found

/-! ## What a change leaves as it was -/

theorem map_modify {β : Type} {g : α → β} {f : α → α} (same : ∀ x, g (f x) = g x) (i : Nat) :
    (l.modify i f).map g = l.map g := by
  induction l generalizing i with
  | nil => rw [List.modify_nil]
  | cons head tail ih =>
      cases i with
      | zero => rw [List.modify_zero_cons, List.map_cons, List.map_cons, same]
      | succ i => rw [List.modify_succ_cons, List.map_cons, List.map_cons, ih]

theorem map_set {β : Type} {g : α → β} {i : Nat} {x y : α} (found : l[i]? = some x)
    (same : g y = g x) : (l.set i y).map g = l.map g := by
  obtain ⟨bound, rfl⟩ := List.getElem?_eq_some_iff.1 found
  rw [List.map_set, same, ← List.getElem_map g (h := by rw [List.length_map]; exact bound)]
  exact List.set_getElem_self _

/-! ## Counts -/

theorem countP_set_add (p : α → Bool) {i : Nat} {x : α} (found : l[i]? = some x) (y : α) :
    (l.set i y).countP p + (p x).toNat = l.countP p + (p y).toNat := by
  induction l generalizing i with
  | nil => cases found
  | cons head tail ih =>
      cases i with
      | zero =>
          cases found
          rw [List.set_cons_zero, List.countP_cons, List.countP_cons]
          cases p x <;> cases p y <;> simp
      | succ i =>
          have rest := ih (i := i) found
          rw [List.set_cons_succ, List.countP_cons, List.countP_cons]
          omega

theorem countP_modify {p : α → Bool} {f : α → α} (same : ∀ x, p (f x) = p x) (i : Nat) :
    (l.modify i f).countP p = l.countP p := by
  induction l generalizing i with
  | nil => rw [List.modify_nil]
  | cons head tail ih =>
      cases i with
      | zero => rw [List.modify_zero_cons, List.countP_cons, List.countP_cons, same]
      | succ i => rw [List.modify_succ_cons, List.countP_cons, List.countP_cons, ih]

end GrpcBridge.Theory.Indexed
