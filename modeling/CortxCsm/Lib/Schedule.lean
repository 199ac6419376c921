/-
# `CortxCsm.Lib.Schedule` — jobs that are due at a time and wait for each other

Job `n` is due at `due n` and takes `length n`; it begins when it is due and the one before it
is over.  So the beginning of a job is explained by an earlier one that began when it was due,
with no pause since:

    begins n = max over k ≤ n of  due k + length k + … + length (n - 1)

The two halves hold by themselves where a job may begin late (`le_begins`) or its due time is
an upper bound only (`begins_le`).
-/
import Mathlib.Algebra.BigOperators.Intervals
import Mathlib.Algebra.Order.BigOperators.Group.Finset

namespace Schedule

open Finset

variable {α : Type} [AddCommGroup α] [LinearOrder α] [IsOrderedAddMonoid α]
variable {due length begins : ℕ → α}

/-- No job is early, or begins while another one is at work. -/
theorem le_begins (hdue : ∀ n, due n ≤ begins n)
    (hafter : ∀ n, begins n + length n ≤ begins (n + 1)) (k n : ℕ) (hk : k ≤ n) :
    due k + ∑ i ∈ Ico k n, length i ≤ begins n := by
  induction n, hk using Nat.le_induction with
  | base =>
      rw [Ico_self, sum_empty, add_zero]
      exact hdue k
  | succ n hk ih =>
      rw [sum_Ico_succ_top hk, ← add_assoc]
      exact (add_le_add_left ih (length n)).trans (hafter n)

/-- A job that begins after it is due waited for those before it, back to one that did not
wait. -/
theorem begins_le (hfirst : begins 0 ≤ due 0)
    (hnext : ∀ n, begins (n + 1) ≤ due (n + 1) ∨ begins (n + 1) ≤ begins n + length n) (n : ℕ) :
    ∃ k ≤ n, begins n ≤ due k + ∑ i ∈ Ico k n, length i := by
  induction n with
  | zero => exact ⟨0, le_refl 0, by rwa [Ico_self, sum_empty, add_zero]⟩
  | succ n ih =>
      rcases hnext n with hdue | hafter
      · exact ⟨n + 1, le_refl _, by rwa [Ico_self, sum_empty, add_zero]⟩
      · obtain ⟨k, hk, hbegins⟩ := ih
        refine ⟨k, Nat.le_succ_of_le hk, hafter.trans ?_⟩
        rw [sum_Ico_succ_top hk, ← add_assoc]
        exact add_le_add_left hbegins (length n)

variable (due length) in
/-- Jobs that are over before the next one is due all begin when they are due. -/
theorem begins_le_due (hfirst : begins 0 ≤ due 0)
    (hnext : ∀ n, begins (n + 1) ≤ due (n + 1) ∨ begins (n + 1) ≤ begins n + length n)
    (hshort : ∀ n, due n + length n ≤ due (n + 1)) (n : ℕ) : begins n ≤ due n := by
  induction n with
  | zero => exact hfirst
  | succ n ih =>
      rcases hnext n with hdue | hafter
      · exact hdue
      · exact hafter.trans ((add_le_add_left ih (length n)).trans (hshort n))

end Schedule
