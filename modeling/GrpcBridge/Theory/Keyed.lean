/-
# Theory.Keyed -- lists of records with distinct keys

A table of objects that are never forgotten is a list in creation order; an object
is addressed by its key.  `update` acts on the entry of one key.  With distinct keys
it touches one entry, so a sum over the table changes by that entry alone
(`sum_update`).
-/
import Mathlib.Algebra.BigOperators.Group.List.Basic
import Mathlib.Data.List.Nodup
import Mathlib.Tactic.Ring

namespace GrpcBridge.Theory.Keyed

set_option autoImplicit false

variable {α κ : Type} [DecidableEq κ] (key : α → κ)

/-- Act on the entry with key `k`. -/
def update (k : κ) (f : α → α) (l : List α) : List α :=
  l.map fun x => if key x = k then f x else x

variable {key}

theorem mem_update {k : κ} {f : α → α} {l : List α} {y : α} :
    y ∈ update key k f l ↔ ∃ x ∈ l, (if key x = k then f x else x) = y := by
  simp [update]

/-- A property every entry had, and the changed entry has, every entry has. -/
theorem forall_update {P : α → Prop} {k : κ} {f : α → α} {l : List α} (all : ∀ x ∈ l, P x)
    (changed : ∀ x ∈ l, key x = k → P (f x)) : ∀ y ∈ update key k f l, P y := by
  intro y member
  obtain ⟨x, inside, rfl⟩ := mem_update.1 member
  split
  · exact changed x inside ‹_›
  · exact all x inside

theorem map_key_update {k : κ} {f : α → α} (l : List α) (keeps : ∀ x, key (f x) = key x) :
    (update key k f l).map key = l.map key := by
  simp only [update, List.map_map]
  apply List.map_congr_left
  intro x _
  simp only [Function.comp]
  split
  · exact keeps x
  · rfl

theorem update_update {k : κ} {f g : α → α} (l : List α) (keeps : ∀ x, key (f x) = key x) :
    update key k g (update key k f l) = update key k (g ∘ f) l := by
  simp only [update, List.map_map]
  apply List.map_congr_left
  intro x _
  by_cases same : key x = k <;> simp [same, keeps]

theorem update_of_fixed {k : κ} {f : α → α} {l : List α} (fixed : ∀ x ∈ l, key x = k → f x = x) :
    update key k f l = l := by
  have same : ∀ x ∈ l, (if key x = k then f x else x) = id x := by
    intro x member
    split
    · exact fixed x member ‹_›
    · rfl
  rw [update, List.map_congr_left same, List.map_id]

theorem update_of_absent {k : κ} {f : α → α} {l : List α} (absent : ∀ x ∈ l, key x ≠ k) :
    update key k f l = l :=
  update_of_fixed fun x member same => absurd same (absent x member)

/-- With distinct keys only the entry itself counts. -/
theorem update_congr {l : List α} (distinct : (l.map key).Nodup) {x : α} (member : x ∈ l)
    {f g : α → α} (same : f x = g x) : update key (key x) f l = update key (key x) g l := by
  apply List.map_congr_left
  intro y inside
  split
  · rw [List.inj_on_of_nodup_map distinct inside member ‹_›, same]
  · rfl

theorem update_of_entry {l : List α} (distinct : (l.map key).Nodup) {x : α} (member : x ∈ l)
    {f : α → α} (fixed : f x = x) : update key (key x) f l = l := by
  rw [update_congr distinct member (show f x = id x from fixed)]
  exact update_of_fixed fun _ _ _ => rfl

/-- A sum over the table changes by the changed entry. -/
theorem sum_update {l : List α} (distinct : (l.map key).Nodup) {x : α} (member : x ∈ l)
    (f : α → α) (g : α → Int) :
    ((update key (key x) f l).map g).sum = (l.map g).sum + g (f x) - g x := by
  induction l with
  | nil => cases member
  | cons y l ih =>
      rw [List.map_cons, List.nodup_cons] at distinct
      simp only [update, List.map_cons, List.sum_cons] at ih ⊢
      rcases List.mem_cons.1 member with rfl | inTail
      · have absent : ∀ z ∈ l, key z ≠ key x := by
          intro z inside same
          exact distinct.1 (same ▸ List.mem_map_of_mem inside)
        have tail := update_of_absent (f := f) absent
        rw [update] at tail
        rw [if_pos rfl, tail]
        ring
      · have other : key y ≠ key x := by
          intro same
          exact distinct.1 (same ▸ List.mem_map_of_mem inTail)
        rw [if_neg other, ih distinct.2 inTail]
        ring

end GrpcBridge.Theory.Keyed
