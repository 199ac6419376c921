/-
# `CortxCsm.Lib.Raising` — code that changes a state and may raise

`Raising σ ε α` is a function of the state that ends with a value or with an exception, and
with a state either way: what is done before an exception stays done.

`Keeps I p` says that `p` leaves the invariant whichever way it ends.  Such facts are put
together with the rules below; what a value is, is said by rewriting with `bind_ok` and
`bind_error`.
-/
import Mathlib.Init

abbrev Raising (σ ε : Type) := ExceptT ε (StateM σ)

namespace Raising

variable {σ ε α β : Type}

theorem bind_apply (p : Raising σ ε α) (f : α → Raising σ ε β) (s : σ) :
    (p >>= f) s = match p s with
      | (.ok a, s') => f a s'
      | (.error e, s') => (.error e, s') := by
  show (match p s with | (r, s') => ExceptT.bindCont f r s') = _
  rcases p s with ⟨r, s'⟩
  cases r with
  | ok a => rfl
  | error e => rfl

theorem bind_ok {p : Raising σ ε α} {f : α → Raising σ ε β} {s s' : σ} {a : α}
    (h : p s = (.ok a, s')) : (p >>= f) s = f a s' := by
  rw [bind_apply, h]

theorem bind_error {p : Raising σ ε α} {f : α → Raising σ ε β} {s s' : σ} {e : ε}
    (h : p s = (.error e, s')) : (p >>= f) s = (.error e, s') := by
  rw [bind_apply, h]

/-- A handler goes on in the state that the exception was raised in. -/
theorem catch_apply (p : Raising σ ε α) (f : ε → Raising σ ε α) (s : σ) :
    (tryCatch p f) s = match p s with
      | (.ok a, s') => (.ok a, s')
      | (.error e, s') => f e s' := by
  show (ExceptT.tryCatch p f) s = _
  unfold ExceptT.tryCatch
  rcases h : p s with ⟨r, s'⟩
  cases r with
  | ok a =>
      simp only [ExceptT.mk, bind, StateT.bind, h]
      rfl
  | error e => simp only [ExceptT.mk, bind, StateT.bind, h]

/-- Code without a state, taken apart. -/
theorem bind_eq_ok {p : Except ε α} {f : α → Except ε β} {b : β} (h : p >>= f = .ok b) :
    ∃ a, p = .ok a ∧ f a = .ok b := by
  cases p with
  | ok a => exact ⟨a, rfl, h⟩
  | error e => cases h

/-- Code that does not look at the state. -/
def ofExcept : Except ε α → Raising σ ε α
  | .ok a => pure a
  | .error e => throw e

/-! ## What is kept either way -/

/-- `p` leaves `I` if it finds it. -/
def Keeps (I : σ → Prop) (p : Raising σ ε α) : Prop := ∀ s, I s → I (p s).2

namespace Keeps

variable {I : σ → Prop}

theorem after {p : Raising σ ε α} (h : Keeps I p) {s s' : σ} {r : Except ε α} (hs : I s)
    (hp : p s = (r, s')) : I s' := by
  have hs' := h s hs
  rw [hp] at hs'
  exact hs'

theorem ret (a : α) : Keeps I (pure a : Raising σ ε α) := fun _ h => h

theorem raise (e : ε) : Keeps I (throw e : Raising σ ε α) := fun _ h => h

theorem ofExcept (r : Except ε α) : Keeps I (ofExcept r : Raising σ ε α) := by
  cases r with
  | ok a => exact ret a
  | error e => exact raise e

theorem bind {p : Raising σ ε α} {f : α → Raising σ ε β} (hp : Keeps I p)
    (hf : ∀ a, Keeps I (f a)) : Keeps I (p >>= f) := by
  intro s hs
  have hs' := hp s hs
  rw [bind_apply]
  rcases h : p s with ⟨r, s'⟩
  rw [h] at hs'
  cases r with
  | ok a => exact hf a s' hs'
  | error e => exact hs'

theorem ite {cond : Prop} [Decidable cond] {p q : Raising σ ε α} (hp : cond → Keeps I p)
    (hq : ¬ cond → Keeps I q) : Keeps I (if cond then p else q) := by
  split
  · rename_i h
    exact hp h
  · rename_i h
    exact hq h

/-- What is read is the state that `I` holds of. -/
theorem read {f : σ → Raising σ ε β} (h : ∀ s, I s → I (f s s).2) :
    Keeps I ((get : Raising σ ε σ) >>= f) := by
  intro s hs
  exact h s hs

end Keeps

end Raising
