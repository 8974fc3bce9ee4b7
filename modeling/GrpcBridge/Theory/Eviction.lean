/-
# Theory.Eviction -- what a bounded table keeps

A table lists its entries newest first, every entry has a weight, and entries leave at the
old end.  What is left under a limit is the longest beginning of the list that fits
(`fitting`).

Two tables that follow the same insertions need not weigh an entry alike.  When one of
them never finds an entry heavier than the other does, it keeps at least as much: the
other table stays a beginning of it (`fitting_prefix_fitting`).
-/
import Mathlib.Data.List.Basic

namespace GrpcBridge.Theory.Eviction

set_option autoImplicit false

universe u v

variable {α : Type u} (weight : α → Nat)

def total : List α → Nat
  | [] => 0
  | e :: rest => weight e + total rest

/-- The longest beginning that fits. -/
def fitting : Nat → List α → List α
  | _, [] => []
  | limit, e :: rest => if weight e ≤ limit then e :: fitting (limit - weight e) rest else []

variable {weight}

@[simp] theorem total_nil : total weight [] = 0 := rfl

@[simp] theorem total_cons (e : α) (rest : List α) :
    total weight (e :: rest) = weight e + total weight rest := rfl

theorem total_append (p q : List α) :
    total weight (p ++ q) = total weight p + total weight q := by
  induction p with
  | nil => exact (Nat.zero_add _).symm
  | cons e p ih => rw [List.cons_append, total_cons, ih, total_cons, Nat.add_assoc]

theorem total_fitting_le (limit : Nat) (entries : List α) :
    total weight (fitting weight limit entries) ≤ limit := by
  induction entries generalizing limit with
  | nil => exact Nat.zero_le _
  | cons e rest ih =>
      rw [fitting]
      split
      · have tail := ih (limit - weight e)
        rw [total_cons]
        omega
      · exact Nat.zero_le _

/-- What fits as it is stays. -/
theorem fitting_of_le {limit : Nat} {entries : List α} (fits : total weight entries ≤ limit) :
    fitting weight limit entries = entries := by
  induction entries generalizing limit with
  | nil => rfl
  | cons e rest ih =>
      rw [total_cons] at fits
      rw [fitting, if_pos (by omega), ih (by omega)]

/-- When the table is too heavy its oldest entry does not stay. -/
theorem fitting_concat {limit : Nat} {newer : List α} {oldest : α}
    (heavy : limit < total weight (newer ++ [oldest])) :
    fitting weight limit (newer ++ [oldest]) = fitting weight limit newer := by
  induction newer generalizing limit with
  | nil =>
      rw [List.nil_append, total_cons, total_nil] at heavy
      have large : ¬ weight oldest ≤ limit := by omega
      rw [List.nil_append, fitting.eq_def]
      simp only [large, if_false]
      rfl
  | cons e newer ih =>
      rw [List.cons_append, total_cons] at heavy
      rw [List.cons_append, fitting, fitting]
      split
      · rw [ih (by omega)]
      · rfl

/-- **The lighter table keeps more.** -/
theorem fitting_prefix_fitting {β : Type v} {heavier : β → Nat} {view : β → α}
    (lighter : ∀ e, weight (view e) ≤ heavier e) {limit limit' : Nat} (room : limit ≤ limit')
    {theirs : List β} {ours : List α} (before : theirs.map view <+: ours) :
    (fitting heavier limit theirs).map view <+: fitting weight limit' ours := by
  induction theirs generalizing limit limit' ours with
  | nil => exact List.nil_prefix
  | cons e theirs ih =>
      rw [fitting]
      split
      · rename_i fits
        have less := lighter e
        cases ours with
        | nil => exact absurd before (by simp)
        | cons f ours =>
            obtain ⟨same, later⟩ := List.cons_prefix_cons.1 before
            subst same
            rw [fitting, if_pos (by omega), List.map_cons]
            exact List.cons_prefix_cons.2 ⟨rfl, ih (by omega) later⟩
      · exact List.nil_prefix

end GrpcBridge.Theory.Eviction
