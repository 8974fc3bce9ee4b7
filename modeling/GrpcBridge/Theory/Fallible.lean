/-
# Theory.Fallible -- taking apart the success of a fallible computation

A sequence of `Except` steps succeeds exactly when each of them does, with the
value handed on.  Proofs about such a sequence peel its steps off one at a time
with `bind_eq_ok`, and run it forward with `bind_ok`; what it raises, one of its steps
raises (`bind_eq_error`).  A computation for each element of a
list succeeds when all of them do (`mapM_ok_iff`).
-/
import Mathlib.Data.List.Basic
import Mathlib.Data.List.Forall2

namespace GrpcBridge.Theory.Fallible

set_option autoImplicit false

universe u v

variable {ε : Type u} {α β : Type v}

@[simp] theorem bind_ok (a : α) (f : α → Except ε β) : ((Except.ok a : Except ε α) >>= f) = f a :=
  rfl

@[simp] theorem bind_error (e : ε) (f : α → Except ε β) :
    ((Except.error e : Except ε α) >>= f) = .error e :=
  rfl

theorem bind_eq_ok {x : Except ε α} {f : α → Except ε β} {b : β} :
    x >>= f = .ok b ↔ ∃ a, x = .ok a ∧ f a = .ok b := by
  cases x with
  | error e =>
      constructor
      · intro failed
        cases failed
      · rintro ⟨_, failed, _⟩
        cases failed
  | ok a =>
      constructor
      · intro rest
        exact ⟨a, rfl, rest⟩
      · rintro ⟨_, same, rest⟩
        cases same
        exact rest

theorem bind_eq_error {x : Except ε α} {f : α → Except ε β} {e : ε} :
    x >>= f = .error e ↔ x = .error e ∨ ∃ a, x = .ok a ∧ f a = .error e := by
  cases x with
  | error e' =>
      constructor
      · intro raised
        exact .inl (congrArg _ (Except.error.inj raised))
      · rintro (first | ⟨_, worked, _⟩)
        · exact congrArg _ (Except.error.inj first)
        · cases worked
  | ok a =>
      constructor
      · intro rest
        exact .inr ⟨a, rfl, rest⟩
      · rintro (first | ⟨_, same, rest⟩)
        · cases first
        · cases same
          exact rest

theorem map_eq_ok {x : Except ε α} {f : α → β} {b : β} :
    x.map f = .ok b ↔ ∃ a, x = .ok a ∧ f a = b := by
  cases x with
  | error e =>
      constructor
      · intro failed
        cases failed
      · rintro ⟨_, failed, _⟩
        cases failed
  | ok a =>
      constructor
      · intro same
        exact ⟨a, rfl, Except.ok.inj same⟩
      · rintro ⟨_, same, rfl⟩
        cases same
        rfl

theorem succeeds_bind {x : Except ε α} {f : α → Except ε β} :
    (∃ b, x >>= f = .ok b) ↔ ∃ a, x = .ok a ∧ ∃ b, f a = .ok b := by
  constructor
  · rintro ⟨b, all⟩
    obtain ⟨a, first, rest⟩ := bind_eq_ok.1 all
    exact ⟨a, first, b, rest⟩
  · rintro ⟨a, first, b, rest⟩
    exact ⟨b, bind_eq_ok.2 ⟨a, first, rest⟩⟩

/-- What is done with a value afterwards does not fail. -/
theorem succeeds_map {x : Except ε α} {g : α → β} :
    (∃ b, (x >>= fun a => pure (g a)) = .ok b) ↔ ∃ a, x = .ok a := by
  rw [succeeds_bind]
  exact exists_congr fun a => and_iff_left ⟨_, rfl⟩

/-- An error that no step raises is not raised. -/
theorem bind_ne_error {x : Except ε α} {f : α → Except ε β} {e : ε} (first : x ≠ .error e)
    (then_ : ∀ a, x = .ok a → f a ≠ .error e) : x >>= f ≠ .error e := by
  cases x with
  | error _ =>
      intro raised
      exact first (congrArg _ (Except.error.inj raised))
  | ok a => exact then_ a rfl

/-! ## Sequences -/

theorem mapM_eq_ok {f : α → Except ε β} {xs : List α} {ys : List β} :
    xs.mapM f = .ok ys ↔ List.Forall₂ (fun x y => f x = .ok y) xs ys := by
  induction xs generalizing ys with
  | nil =>
      rw [List.mapM_nil, List.forall₂_nil_left_iff]
      constructor
      · intro same
        cases same
        rfl
      · rintro rfl
        rfl
  | cons x xs ih =>
      rw [List.mapM_cons, bind_eq_ok]
      constructor
      · rintro ⟨y, first, rest⟩
        obtain ⟨ys, others, same⟩ := bind_eq_ok.1 rest
        cases same
        exact .cons first (ih.1 others)
      · intro all
        cases all with
        | cons first others => exact ⟨_, first, bind_eq_ok.2 ⟨_, ih.2 others, rfl⟩⟩

/-- A sequence succeeds when each of its members does. -/
theorem mapM_ok_iff {f : α → Except ε β} {xs : List α} :
    (∃ ys, xs.mapM f = .ok ys) ↔ ∀ x ∈ xs, ∃ y, f x = .ok y := by
  induction xs with
  | nil => exact iff_of_true ⟨[], rfl⟩ fun x member => absurd member List.not_mem_nil
  | cons x xs ih =>
      rw [List.forall_mem_cons, ← ih]
      constructor
      · rintro ⟨ys, all⟩
        rw [List.mapM_cons] at all
        obtain ⟨y, first, rest⟩ := bind_eq_ok.1 all
        obtain ⟨ys, others, _⟩ := bind_eq_ok.1 rest
        exact ⟨⟨y, first⟩, ⟨ys, others⟩⟩
      · rintro ⟨⟨y, first⟩, ⟨ys, others⟩⟩
        refine ⟨y :: ys, ?_⟩
        rw [List.mapM_cons, first, bind_ok, others, bind_ok]
        rfl

theorem mapM_congr {f g : α → Except ε β} {xs : List α} (same : ∀ x ∈ xs, f x = g x) :
    xs.mapM f = xs.mapM g := by
  induction xs with
  | nil => rfl
  | cons x xs ih =>
      rw [List.mapM_cons, List.mapM_cons, same x List.mem_cons_self,
        ih fun y member => same y (List.mem_cons_of_mem _ member)]

end GrpcBridge.Theory.Fallible
