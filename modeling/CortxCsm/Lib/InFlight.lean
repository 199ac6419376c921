/-
# `CortxCsm.Lib.InFlight` — counting the coroutines in flight

In a run from a start where nothing is called, finitely many coroutines have been
called, so those in flight can be counted.  A step changes the set by the coroutine
that takes it, or not at all.
-/
import CortxCsm.Lib.Coroutine
import Mathlib.Data.Set.Card

namespace Config

variable {ι Op : Type} {Ans : Op → Type} {σ ε α ρ : Type}

/-- The calls in flight. -/
def inFlight (c : Config ι Op Ans σ ε α) : Set ι := {i | (c.thread i).InFlight}

theorem mem_inFlight {c : Config ι Op Ans σ ε α} {i : ι} :
    i ∈ c.inFlight ↔ (c.thread i).InFlight := Iff.rfl

theorem inFlight_start (s : σ) : (start s : Config ι Op Ans σ ε α).inFlight = ∅ := by
  ext i
  exact ⟨fun h => absurd rfl h.1, fun h => h.elim⟩

variable [DecidableEq ι] {M : Machine Op Ans σ ε ρ} {prog : ι → Coro Op Ans σ ε α}

/-- Whether another coroutine is in flight is not touched. -/
theorem mem_inFlight_step_ne {c : Config ι Op Ans σ ε α} {i j : ι} (h : j ≠ i) :
    j ∈ (step M prog c (.run i)).inFlight ↔ j ∈ c.inFlight := by
  rw [mem_inFlight, mem_inFlight, step_thread_ne h]

theorem finite_step {c : Config ι Op Ans σ ε α} (h : c.inFlight.Finite) (i : ι) :
    (step M prog c (.run i)).inFlight.Finite := by
  refine (h.insert i).subset fun j hj => ?_
  by_cases hji : j = i
  · exact Or.inl hji
  · exact Or.inr ((mem_inFlight_step_ne hji).mp hj)

variable {c : Config ι Op Ans σ ε α} {i : ι}

theorem inFlight_step_of_same
    (h : i ∈ (step M prog c (.run i)).inFlight ↔ i ∈ c.inFlight) :
    (step M prog c (.run i)).inFlight = c.inFlight := by
  ext j
  by_cases hj : j = i
  · rw [hj]
    exact h
  · exact mem_inFlight_step_ne hj

theorem ncard_step_of_arrives (hfin : c.inFlight.Finite) (h : i ∉ c.inFlight)
    (h' : i ∈ (step M prog c (.run i)).inFlight) :
    (step M prog c (.run i)).inFlight.ncard = c.inFlight.ncard + 1 := by
  have hset : (step M prog c (.run i)).inFlight = insert i c.inFlight := by
    ext j
    rw [Set.mem_insert_iff]
    by_cases hj : j = i
    · rw [hj]
      exact iff_of_true h' (Or.inl rfl)
    · rw [mem_inFlight_step_ne hj, or_iff_right hj]
  rw [hset, Set.ncard_insert_of_notMem h hfin]

theorem ncard_step_of_leaves (hfin : c.inFlight.Finite) (h : i ∈ c.inFlight)
    (h' : i ∉ (step M prog c (.run i)).inFlight) :
    (step M prog c (.run i)).inFlight.ncard + 1 = c.inFlight.ncard := by
  have hset : (step M prog c (.run i)).inFlight = c.inFlight \ {i} := by
    ext j
    rw [Set.mem_sdiff, Set.mem_singleton_iff]
    by_cases hj : j = i
    · rw [hj]
      exact iff_of_false h' fun hn => hn.2 rfl
    · rw [mem_inFlight_step_ne hj, and_iff_left hj]
  rw [hset, Set.ncard_sdiff_singleton_add_one h hfin]

end Config
