/-
# Theory.Machine -- runs of a partial transition function

The components of the bridge are event-driven: an interleaving of their
callbacks, goroutines and peers is a list of events, and an event that cannot
occur in a state has no successor there.  A `Machine` is an initial state and
such a partial step function.

`Steps allowed` is reachability along steps that all meet `allowed`; a property
of every run is `Reaches (fun _ _ => True)`, and a property of the runs in which
some branch is never taken puts that branch's guard in `allowed`.
`Steps.invariant` is the one induction over runs: every safety result of the
development is an initial-state lemma and a step lemma given to it.
-/
import Mathlib.Data.List.Basic

namespace GrpcBridge.Theory

set_option autoImplicit false

universe u v

/-- An initial state and a partial step function on events. -/
structure Machine (σ : Type u) (ε : Type v) where
  init : σ
  step : σ → ε → Option σ

namespace Machine

variable {σ : Type u} {ε : Type v} (M : Machine σ ε)

/-- Reachability from `s` along steps that meet `allowed` in the state they leave. -/
inductive Steps (allowed : σ → ε → Prop) (s : σ) : σ → Prop
  | refl : Steps allowed s s
  | tail {t u : σ} {e : ε} : Steps allowed s t → allowed t e → M.step t e = some u →
      Steps allowed s u

/-- The states of the runs whose steps all meet `allowed`. -/
def Reaches (allowed : σ → ε → Prop) (s : σ) : Prop :=
  M.Steps allowed M.init s

/-- No restriction on the steps of a run. -/
def always : σ → ε → Prop := fun _ _ => True

instance (s : σ) (e : ε) : Decidable (always s e) := isTrue trivial

/-- The state after a list of events, if each of them can occur and is allowed. -/
def run (allowed : σ → ε → Prop) [∀ s e, Decidable (allowed s e)] : σ → List ε → Option σ
  | s, [] => some s
  | s, e :: es => if allowed s e then (M.step s e).bind fun t => run allowed t es else none

variable {M}

/-- **Invariant rule.**  What one allowed step keeps, every allowed run keeps. -/
theorem Steps.invariant {allowed : σ → ε → Prop} (inv : σ → Prop)
    (keep : ∀ s e t, inv s → allowed s e → M.step s e = some t → inv t)
    {s t : σ} (steps : M.Steps allowed s t) (start : inv s) : inv t := by
  induction steps with
  | refl => exact start
  | tail _ permitted stepped ih => exact keep _ _ _ ih permitted stepped

theorem Steps.mono {allowed wider : σ → ε → Prop} (weaken : ∀ s e, allowed s e → wider s e)
    {s t : σ} (steps : M.Steps allowed s t) : M.Steps wider s t := by
  induction steps with
  | refl => exact .refl
  | tail _ permitted stepped ih => exact .tail ih (weaken _ _ permitted) stepped

theorem Steps.trans {allowed : σ → ε → Prop} {s t u : σ} (first : M.Steps allowed s t)
    (second : M.Steps allowed t u) : M.Steps allowed s u := by
  induction second with
  | refl => exact first
  | tail _ permitted stepped ih => exact .tail ih permitted stepped

theorem Steps.head {allowed : σ → ε → Prop} {s t u : σ} {e : ε} (permitted : allowed s e)
    (stepped : M.step s e = some t) (rest : M.Steps allowed t u) : M.Steps allowed s u :=
  Steps.trans (.tail .refl permitted stepped) rest

theorem run_always_cons {s t : σ} {e : ε} (es : List ε) (stepped : M.step s e = some t) :
    M.run always s (e :: es) = M.run always t es := by
  rw [run, if_pos (show always s e from trivial), stepped, Option.bind_some]

/-- An evaluated event list is a run. -/
theorem steps_of_run {allowed : σ → ε → Prop} [∀ s e, Decidable (allowed s e)] {s t : σ}
    (es : List ε) (ran : M.run allowed s es = some t) : M.Steps allowed s t := by
  induction es generalizing s with
  | nil =>
      cases ran
      exact .refl
  | cons e es ih =>
      simp only [run] at ran
      split at ran
      · rename_i permitted
        obtain ⟨middle, stepped, rest⟩ := Option.bind_eq_some_iff.1 ran
        exact Steps.head permitted stepped (ih rest)
      · cases ran

end Machine

end GrpcBridge.Theory
