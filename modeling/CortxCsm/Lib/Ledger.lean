/-
# `CortxCsm.Lib.Ledger` — what a machine accounts for

A machine takes items in (`gain`) and keeps an `account` of them: the items it has handed on,
then those it still owes.  A step that loses nothing only appends its gain; a step that loses
something leaves a shorter account, in the old order.

**Proved here.**

    the account is in order, and nothing is in it twice         (`sublist_run`)
    nothing is missing exactly when no step of the run loses    (`account_run_iff`)
-/
import CortxCsm.Lib.Run
import Mathlib.Data.List.Flatten

namespace Ledger

open Run

variable {σ κ β : Type} {step : σ → κ → σ} {account : σ → List β} {gain : κ → List β}

/-- What a run takes in. -/
def gains (gain : κ → List β) (calls : List κ) : List β := calls.flatMap gain

@[simp] theorem gains_nil : gains gain [] = [] := rfl

@[simp] theorem gains_cons (c : κ) (calls : List κ) :
    gains gain (c :: calls) = gain c ++ gains gain calls := rfl

/-- The steps of the calls in `P`, from states in `Inv`, stay there and drop items at most. -/
structure Orderly (step : σ → κ → σ) (account : σ → List β) (gain : κ → List β)
    (Inv : σ → Prop) (P : κ → Prop) : Prop where
  inv : ∀ s c, P c → Inv s → Inv (step s c)
  sublist : ∀ s c, P c → Inv s → (account (step s c)).Sublist (account s ++ gain c)

variable {Inv : σ → Prop} {P : κ → Prop}

theorem sublist_run (h : Orderly step account gain Inv P) {calls : List κ}
    (hP : ∀ c ∈ calls, P c) : ∀ {s : σ}, Inv s →
      (account (run step s calls)).Sublist (account s ++ gains gain calls) := by
  induction calls with
  | nil =>
      intro s _
      rw [gains_nil, List.append_nil]
      exact List.Sublist.refl _
  | cons c calls ih =>
      intro s hs
      have hc := hP c List.mem_cons_self
      have hrest := ih (fun c' hc' => hP c' (List.mem_cons_of_mem c hc')) (h.inv s c hc hs)
      rw [gains_cons, ← List.append_assoc]
      exact hrest.trans ((h.sublist s c hc hs).append_right _)

/-- The account grows by exactly what the run takes in, if and only if none of its steps
loses anything. -/
theorem account_run_iff (h : Orderly step account gain Inv P) {loses : σ → κ → Prop}
    (hexact : ∀ s c, P c → Inv s → (account (step s c) = account s ++ gain c ↔ ¬ loses s c))
    {calls : List κ} (hP : ∀ c ∈ calls, P c) : ∀ {s : σ}, Inv s →
      (account (run step s calls) = account s ++ gains gain calls ↔
        ∀ v ∈ visits step s calls, ¬ loses v.1 v.2) := by
  induction calls with
  | nil =>
      intro s _
      rw [gains_nil, List.append_nil]
      exact iff_of_true rfl fun v hv => absurd hv List.not_mem_nil
  | cons c calls ih =>
      intro s hs
      have hc := hP c List.mem_cons_self
      have hrest := fun c' hc' => hP c' (List.mem_cons_of_mem c hc')
      have hnext := h.inv s c hc hs
      have hsub := h.sublist s c hc hs
      rw [visits, List.forall_mem_cons, ← hexact s c hc hs, ← ih hrest hnext, gains_cons,
        ← List.append_assoc]
      constructor
      · intro hall
        -- two inclusions make up the equality, so neither drops an item
        have hlater : (account (run step (step s c) calls)).Sublist
            (account (step s c) ++ gains gain calls) := sublist_run h hrest hnext
        have hall' : account (run step (step s c) calls) =
            account s ++ gain c ++ gains gain calls := hall
        have hlen := hlater.length_le
        have hlen' := hsub.length_le
        have htotal := congrArg List.length hall'
        rw [List.length_append] at hlen
        rw [List.length_append] at htotal
        have hnow : account (step s c) = account s ++ gain c := hsub.eq_of_length (by omega)
        exact ⟨hnow, by rw [hall', hnow]⟩
      · rintro ⟨hnow, hthen⟩
        show account (run step (step s c) calls) = _
        rw [hthen, hnow]

end Ledger
