/-
# Theory.TokenBucket -- a bucket that is credited for successes and charged for failures

A bucket holds between zero and `limit` tokens and starts full.  A success adds `ratio`, a
failure takes one away, and both are cut off at the ends.  A failure may be granted
something (a retry) when more than half of the bucket is left after the charge.

The tokens that were not cut off pay for the grants: tokens and grants together stay below
the initial filling and the credits (`spent`), and at a grant at least half of the filling
is still there.  So the grants stay below the other half and the credits (`load`), in
whatever order the charges come.
-/
import Mathlib.Algebra.Order.Field.Basic
import Mathlib.Tactic.Linarith
import Mathlib.Tactic.Push

namespace GrpcBridge.Theory

set_option autoImplicit false

universe u

variable {K : Type u} [Field K] [LinearOrder K] [IsStrictOrderedRing K]

/-- A bucket of `tokens` after `credits` successes and `grants` grants. -/
structure Bounded (limit ratio tokens : K) (credits grants : ℕ) : Prop where
  nonneg : 0 ≤ tokens
  le_limit : tokens ≤ limit
  spent : tokens + grants ≤ limit + credits * ratio
  load : (grants : K) < limit / 2 + credits * ratio

namespace Bounded

variable {limit ratio tokens : K} {credits grants : ℕ}

theorem full (positive : 0 < limit) (ratio : K) : Bounded limit ratio limit 0 0 := by
  refine ⟨positive.le, le_refl limit, ?_, ?_⟩
  · simp
  · simpa using half_pos positive

theorem credit (bounded : Bounded limit ratio tokens credits grants) (positive : 0 < ratio) :
    Bounded limit ratio (min limit (tokens + ratio)) (credits + 1) grants := by
  obtain ⟨nonneg, le_limit, spent, load⟩ := bounded
  have added : min limit (tokens + ratio) ≤ tokens + ratio := min_le_right _ _
  refine ⟨le_min (nonneg.trans le_limit) (by linarith), min_le_left _ _, ?_, ?_⟩
  · push_cast
    linarith
  · push_cast
    linarith

theorem charge (bounded : Bounded limit ratio tokens credits grants) :
    Bounded limit ratio (max 0 (tokens - 1)) credits grants := by
  obtain ⟨nonneg, le_limit, spent, load⟩ := bounded
  have less : max 0 (tokens - 1) ≤ tokens := max_le nonneg (by linarith)
  refine ⟨le_max_left _ _, less.trans le_limit, ?_, load⟩
  linarith

/-- A charge that leaves more than half of the bucket is charged in full. -/
theorem grant (bounded : Bounded limit ratio tokens credits grants)
    (enough : limit / 2 < max 0 (tokens - 1)) :
    Bounded limit ratio (max 0 (tokens - 1)) credits (grants + 1) := by
  obtain ⟨nonneg, le_limit, spent, load⟩ := bounded
  have half : 0 ≤ limit / 2 := div_nonneg (nonneg.trans le_limit) zero_le_two
  have whole : max 0 (tokens - 1) = tokens - 1 := by
    apply max_eq_right
    by_contra short
    rw [max_eq_left (not_le.1 short).le] at enough
    linarith
  rw [whole] at enough ⊢
  refine ⟨half.trans enough.le, by linarith, ?_, ?_⟩
  · push_cast
    linarith
  · push_cast
    linarith

end Bounded

end GrpcBridge.Theory
