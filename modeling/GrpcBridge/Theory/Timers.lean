/-
# Theory.Timers -- setTimeout, and a clock that advances at any time

A timer that is armed with a delay fires at some moment after the delay, not before.  The
delay is kept as a whole number of milliseconds in 32 bits: of 10.9 the fraction is cut off,
and one above 2147483647 overflows, so that the timer can fire as soon as it is armed.  What
`setTimeout` keeps as it is (`Timer.Kept`) is a whole number within the bound.

Times are rationals, in milliseconds, as a clock with fractions reads them.  A step either
lets the clock advance or happens at the present moment, so a program that reads the clock
twice may read two times.
-/
import Mathlib.Data.Rat.Floor
import Mathlib.Tactic.Linarith

namespace GrpcBridge.Theory

set_option autoImplicit false

/-- The longest delay that `setTimeout` keeps. -/
def maxDelay : ℚ := 2147483647

structure Timer where
  armed : ℚ
  delay : ℚ
deriving DecidableEq

namespace Timer

/-- The earliest moment at which a timer can fire. -/
def due (t : Timer) : ℚ := if t.delay ≤ maxDelay then t.armed + ⌊t.delay⌋ else t.armed

/-- A delay that is kept as it is. -/
def Kept (delay : ℚ) : Prop := delay ≤ maxDelay ∧ (⌊delay⌋ : ℚ) = delay

instance (delay : ℚ) : Decidable (Kept delay) := inferInstanceAs (Decidable (_ ∧ _))

theorem due_of_le {t : Timer} (short : t.delay ≤ maxDelay) : t.due = t.armed + ⌊t.delay⌋ :=
  if_pos short

theorem due_of_lt {t : Timer} (long : maxDelay < t.delay) : t.due = t.armed :=
  if_neg (not_le.2 long)

theorem due_of_kept {t : Timer} (kept : Kept t.delay) : t.due = t.armed + t.delay := by
  rw [due_of_le kept.1, kept.2]

theorem armed_le_due {t : Timer} (positive : 0 ≤ t.delay) : t.armed ≤ t.due := by
  obtain short | long := le_or_gt t.delay maxDelay
  · have floor : (0 : ℚ) ≤ ⌊t.delay⌋ := by exact_mod_cast Int.floor_nonneg.2 positive
    rw [due_of_le short]
    linarith
  · exact (due_of_lt long).ge

/-- Whatever else is lost of a delay, the timer can fire before it is over. -/
theorem due_lt {t : Timer} (positive : 0 < t.delay) (cut : ¬ Kept t.delay) :
    t.due < t.armed + t.delay := by
  obtain short | long := le_or_gt t.delay maxDelay
  · have below : (⌊t.delay⌋ : ℚ) < t.delay :=
      lt_of_le_of_ne (Int.floor_le t.delay) fun whole => cut ⟨short, whole⟩
    rw [due_of_le short]
    linarith
  · rw [due_of_lt long]
    linarith

end Timer

end GrpcBridge.Theory
