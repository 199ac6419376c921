/-
# `CortxCsm.Lib.Outline` — proof outlines for interleaved coroutines

A rely-guarantee logic for the runs of `CortxCsm.Lib.Coroutine`.  A `Contract`
fixes, for a whole family of coroutines,

* `inv`, what holds between any two steps, of the world and of a ghost value,
* `rely i`, what coroutine `i` may count on about the steps of the others,
* `may i op`, what is assumed of the runs under study when `i`'s operation `op`
  happens (`fun _ _ _ => True` when nothing is).

What `i` owes in return is not a separate field: it is the rely of everybody
else (`guar`).  The ghost value is chosen by the prover at every step, so it can
count, name owners or remember what has been committed; the programs do not
see it.

`wp` reads a coroutine from top to bottom.  Between two suspension points it
computes with the actual world, so code that the event loop runs in one piece
is reasoned about in one piece and owes nothing in the middle; at a suspension
it owes the invariant and its guarantee since the last boundary, and goes on
from any world its rely allows.  Both readings of a boundary — before the
operation and after it — are there, as in `Config.step`.

**Proved here.**

    wp of a bind and of a `finally`                            (`wp_bind`, `wp_ensure`)
    a thread's outline survives what its rely allows           (`Outlines.stable`)
    a step of the thread keeps its outline and its guarantee   (`Outlines.step`)
    outlines for all threads hold along every admitted run     (`Outlined.run`)
-/
import CortxCsm.Lib.Coroutine

/-- Invariant, rely, and what is assumed of a run (see the header). -/
structure Contract (ι Op : Type) (Ans : Op → Type) (σ ε Γ : Type) where
  inv : World ι Op Ans σ ε → Γ → Prop
  rely : ι → World ι Op Ans σ ε × Γ → World ι Op Ans σ ε × Γ → Prop
  may : ι → Op → World ι Op Ans σ ε → Prop
  refl : ∀ i a, rely i a a
  trans : ∀ i a b c, rely i a b → rely i b c → rely i a c

namespace Contract

variable {ι Op : Type} {Ans : Op → Type} {σ ε Γ α β ρ : Type}
variable (K : Contract ι Op Ans σ ε Γ) (M : Machine Op Ans σ ε ρ) (i : ι)

/-- What thread `i` owes: every other thread's rely. -/
def guar (a b : World ι Op Ans σ ε × Γ) : Prop := ∀ j, j ≠ i → K.rely j a b

theorem guar_refl (a : World ι Op Ans σ ε × Γ) : K.guar i a a := fun j _ => K.refl j a

/-- Suspended on `op` at the boundary `(w, x)`: whenever the operation happens, the
boundary after it is met, and from any later boundary the rest `N` is. -/
def Answers (op : Op)
    (N : Except ε (Ans op) → World ι Op Ans σ ε × Γ → World ι Op Ans σ ε → Prop)
    (w : World ι Op Ans σ ε) (x : Γ) : Prop :=
  ∀ w₁ x₁, K.inv w₁ x₁ → K.rely i (w, x) (w₁, x₁) → K.may i op w₁ →
    ∀ r s', M.exec op w₁.state = some (r, s') →
      ∃ x₂, K.inv (w₁.answer i op r s') x₂ ∧
        K.guar i (w₁, x₁) (w₁.answer i op r s', x₂) ∧
        ∀ w₃ x₃, K.inv w₃ x₃ → K.rely i (w₁.answer i op r s', x₂) (w₃, x₃) →
          N r (w₃, x₃) w₃

/-- `wp Q p b w`: from the world `w`, the last boundary being `b`, thread `i` running
`p` meets its obligations and ends in `Q`. -/
def wp (Q : Except ε α → World ι Op Ans σ ε × Γ → World ι Op Ans σ ε → Prop) :
    Coro Op Ans σ ε α → World ι Op Ans σ ε × Γ → World ι Op Ans σ ε → Prop
  | .ret a, b, w => Q (.ok a) b w
  | .raise e, b, w => Q (.error e) b w
  | .sync u k, b, w => wp Q (k w.state) b { w with state := u w.state }
  | .await op k, b, w =>
      ∃ x, K.inv w x ∧ K.guar i b (w, x) ∧ K.Answers M i op (fun r => wp Q (k r)) w x

variable {K M i}

theorem Answers.mono {op : Op}
    {N N' : Except ε (Ans op) → World ι Op Ans σ ε × Γ → World ι Op Ans σ ε → Prop}
    (h : ∀ r b w, N r b w → N' r b w) {w : World ι Op Ans σ ε} {x : Γ}
    (ha : K.Answers M i op N w x) : K.Answers M i op N' w x := by
  intro w₁ x₁ hi hr hm r s' he
  obtain ⟨x₂, h₂, hg, hk⟩ := ha w₁ x₁ hi hr hm r s' he
  exact ⟨x₂, h₂, hg, fun w₃ x₃ h₃ hr₃ => h _ _ _ (hk w₃ x₃ h₃ hr₃)⟩

theorem wp_mono {Q Q' : Except ε α → World ι Op Ans σ ε × Γ → World ι Op Ans σ ε → Prop}
    (h : ∀ r b w, Q r b w → Q' r b w) {p : Coro Op Ans σ ε α} {b : World ι Op Ans σ ε × Γ}
    {w : World ι Op Ans σ ε} (hp : K.wp M i Q p b w) : K.wp M i Q' p b w := by
  induction p generalizing b w with
  | ret a => exact h _ _ _ hp
  | raise e => exact h _ _ _ hp
  | sync u k ih => exact ih w.state hp
  | await op k ih =>
      obtain ⟨x, hi, hg, ha⟩ := hp
      exact ⟨x, hi, hg, ha.mono fun r b w hk => ih r hk⟩

theorem wp_congr {Q Q' : Except ε α → World ι Op Ans σ ε × Γ → World ι Op Ans σ ε → Prop}
    (h : ∀ r b w, Q r b w ↔ Q' r b w) {p : Coro Op Ans σ ε α} {b : World ι Op Ans σ ε × Γ}
    {w : World ι Op Ans σ ε} : K.wp M i Q p b w ↔ K.wp M i Q' p b w :=
  ⟨wp_mono fun r b w => (h r b w).mp, wp_mono fun r b w => (h r b w).mpr⟩

/-! ## Rules -/

section Rules
variable {Q : Except ε α → World ι Op Ans σ ε × Γ → World ι Op Ans σ ε → Prop}
variable {b : World ι Op Ans σ ε × Γ} {w : World ι Op Ans σ ε}

/-- What a bind asks of its first part. -/
def andThen (K : Contract ι Op Ans σ ε Γ) (M : Machine Op Ans σ ε ρ) (i : ι)
    (Q : Except ε β → World ι Op Ans σ ε × Γ → World ι Op Ans σ ε → Prop)
    (f : α → Coro Op Ans σ ε β) :
    Except ε α → World ι Op Ans σ ε × Γ → World ι Op Ans σ ε → Prop
  | .ok a => K.wp M i Q (f a)
  | .error e => Q (.error e)

theorem wp_graft {Q : Except ε β → World ι Op Ans σ ε × Γ → World ι Op Ans σ ε → Prop}
    {k : Except ε α → Coro Op Ans σ ε β} {p : Coro Op Ans σ ε α} {b : World ι Op Ans σ ε × Γ}
    {w : World ι Op Ans σ ε} :
    K.wp M i Q (p.graft k) b w ↔ K.wp M i (fun r => K.wp M i Q (k r)) p b w := by
  induction p generalizing b w with
  | ret a => exact Iff.rfl
  | raise e => exact Iff.rfl
  | sync u n ih => exact ih w.state
  | await op n ih =>
      refine exists_congr fun x => and_congr_right fun _ => and_congr_right fun _ => ⟨?_, ?_⟩
      · exact fun ha => ha.mono fun r _ _ hk => (ih r).mp hk
      · exact fun ha => ha.mono fun r _ _ hk => (ih r).mpr hk

theorem wp_bind' {Q : Except ε β → World ι Op Ans σ ε × Γ → World ι Op Ans σ ε → Prop}
    {f : α → Coro Op Ans σ ε β} {p : Coro Op Ans σ ε α} {b : World ι Op Ans σ ε × Γ}
    {w : World ι Op Ans σ ε} :
    K.wp M i Q (p.bind f) b w ↔ K.wp M i (K.andThen M i Q f) p b w := by
  rw [Coro.graft_bind, wp_graft]
  exact wp_congr fun r _ _ => by cases r <;> exact Iff.rfl

@[simp] theorem wp_bind {Q : Except ε β → World ι Op Ans σ ε × Γ → World ι Op Ans σ ε → Prop}
    {p : Coro Op Ans σ ε α} {f : α → Coro Op Ans σ ε β} :
    K.wp M i Q (p >>= f) b w ↔ K.wp M i (K.andThen M i Q f) p b w := wp_bind'

/-- How a `finally` clause ends: the body's `r` stands unless the clause itself raises. -/
def afterFinally (Q : Except ε α → World ι Op Ans σ ε × Γ → World ι Op Ans σ ε → Prop)
    (r : Except ε α) : Except ε Unit → World ι Op Ans σ ε × Γ → World ι Op Ans σ ε → Prop
  | .ok () => Q r
  | .error e => Q (.error e)

theorem wp_ensure {fin : Coro Op Ans σ ε Unit} {p : Coro Op Ans σ ε α} :
    K.wp M i Q (p.ensure fin) b w ↔
      K.wp M i (fun r => K.wp M i (afterFinally Q r) fin) p b w := by
  rw [Coro.graft_ensure, wp_graft]
  refine wp_congr fun r _ _ => ?_
  cases r with
  | ok a => exact wp_bind'.trans (wp_congr fun r _ _ => by cases r <;> exact Iff.rfl)
  | error e => exact wp_bind'.trans (wp_congr fun r _ _ => by cases r <;> exact Iff.rfl)

end Rules

/-! ## Outlines of threads -/

variable (K M i)

/-- The others' steps keep `P`. -/
def Stable (P : World ι Op Ans σ ε × Γ → Prop) : Prop :=
  ∀ a b, P a → K.rely i a b → P b

/-- How the code before a coroutine's end is left: at a boundary, with `Fin`. -/
def Ends (Fin : Except ε α → World ι Op Ans σ ε × Γ → Prop) (r : Except ε α)
    (b : World ι Op Ans σ ε × Γ) (w : World ι Op Ans σ ε) : Prop :=
  ∃ x, K.inv w x ∧ K.guar i b (w, x) ∧ Fin r (w, x)

/-- Thread `i`, whose program is `p₀`, keeps its contract from the boundary `a` on: it has
`Pre` until it is called, and `Fin` once it has ended. -/
def Outlines (p₀ : Coro Op Ans σ ε α) (Pre : World ι Op Ans σ ε × Γ → Prop)
    (Fin : Except ε α → World ι Op Ans σ ε × Γ → Prop) :
    Thread Op Ans σ ε α → World ι Op Ans σ ε × Γ → Prop
  | .idle, a => Pre a ∧ ∀ b : World ι Op Ans σ ε × Γ, K.inv b.1 b.2 → Pre b →
      K.wp M i (K.Ends i Fin) p₀ b b.1
  | .waiting (.ret v), a => Fin (.ok v) a
  | .waiting (.raise e), a => Fin (.error e) a
  | .waiting (.sync _ _), _ => False
  | .waiting (.await op k), a =>
      K.Answers M i op (fun r => K.wp M i (K.Ends i Fin) (k r)) a.1 a.2
  | .answered p, a => ∀ b : World ι Op Ans σ ε × Γ, K.inv b.1 b.2 → K.rely i a b →
      K.wp M i (K.Ends i Fin) p b b.1

variable {K M i}
variable {p₀ : Coro Op Ans σ ε α} {Pre : World ι Op Ans σ ε × Γ → Prop}
  {Fin : Except ε α → World ι Op Ans σ ε × Γ → Prop}

/-- An outline survives what its rely allows, if the conditions at its two ends do. -/
theorem Outlines.stable (hpre : K.Stable i Pre) (hfin : ∀ r, K.Stable i (Fin r))
    {a b : World ι Op Ans σ ε × Γ} (hr : K.rely i a b) :
    ∀ {t : Thread Op Ans σ ε α}, K.Outlines M i p₀ Pre Fin t a → K.Outlines M i p₀ Pre Fin t b
  | .idle, h => ⟨hpre _ _ h.1 hr, h.2⟩
  | .waiting (.ret _), h => hfin _ _ _ h hr
  | .waiting (.raise _), h => hfin _ _ _ h hr
  | .waiting (.await _ _), h => fun w₁ x₁ hi hbc => h w₁ x₁ hi (K.trans i a b _ hr hbc)
  | .answered _, h => fun c hc hbc => h c hc (K.trans i a b c hr hbc)

/-- The code up to the next suspension reaches it at a boundary. -/
theorem wp_advance {p : Coro Op Ans σ ε α} {b : World ι Op Ans σ ε × Γ}
    {w : World ι Op Ans σ ε} (h : K.wp M i (K.Ends i Fin) p b w) :
    ∃ x, K.inv { w with state := (p.advance w.state).2 } x ∧
      K.guar i b ({ w with state := (p.advance w.state).2 }, x) ∧
      K.Outlines M i p₀ Pre Fin (.waiting (p.advance w.state).1)
        ({ w with state := (p.advance w.state).2 }, x) := by
  induction p generalizing w with
  | ret a => exact h
  | raise e => exact h
  | await op k _ => exact h
  | sync u k ih => exact ih w.state h

/-- A step of the thread itself. -/
theorem Outlines.step {t : Thread Op Ans σ ε α} {w : World ι Op Ans σ ε} {x : Γ}
    (h : K.Outlines M i p₀ Pre Fin t (w, x)) (hi : K.inv w x)
    (hm : ∀ op, t.pending = some op → K.may i op w) :
    ∃ x', K.inv (t.step M i p₀ w).2 x' ∧ K.guar i (w, x) ((t.step M i p₀ w).2, x') ∧
      K.Outlines M i p₀ Pre Fin (t.step M i p₀ w).1 ((t.step M i p₀ w).2, x') := by
  match t, h, hm with
  | .idle, h, _ => exact wp_advance (h.2 (w, x) hi h.1)
  | .waiting (.ret _), h, _ => exact ⟨x, hi, K.guar_refl i _, h⟩
  | .waiting (.raise _), h, _ => exact ⟨x, hi, K.guar_refl i _, h⟩
  | .answered _, h, _ => exact wp_advance (h (w, x) hi (K.refl i _))
  | .waiting (.await op k), h, hm =>
      simp only [Thread.step]
      cases he : M.exec op w.state with
      | none => exact ⟨x, hi, K.guar_refl i _, h⟩
      | some rs =>
          obtain ⟨x₂, h₂, hg, hk⟩ := h w x hi (K.refl i _) (hm op rfl) rs.1 rs.2 he
          exact ⟨x₂, h₂, hg, fun b hb hrb => hk b.1 b.2 hb hrb⟩

/-! ## Outlines of a family -/

variable (K M)

/-- The invariant holds and every thread has its outline, for some ghost value. -/
def Outlined (prog : ι → Coro Op Ans σ ε α) (Pre : ι → World ι Op Ans σ ε × Γ → Prop)
    (Fin : ι → Except ε α → World ι Op Ans σ ε × Γ → Prop) (c : Config ι Op Ans σ ε α) : Prop :=
  ∃ x, K.inv c.world x ∧
    ∀ i, K.Outlines M i (prog i) (Pre i) (Fin i) (c.thread i) (c.world, x)

/-- What the environment does keeps the invariant, and every thread's assertions. -/
def AllowsEnv : Prop :=
  ∀ w x r, K.inv w x → ∃ x', K.inv { w with state := M.env r w.state } x' ∧
    ∀ i, K.rely i (w, x) ({ w with state := M.env r w.state }, x')

variable {K M}
variable [DecidableEq ι] {prog : ι → Coro Op Ans σ ε α}
  {Pre : ι → World ι Op Ans σ ε × Γ → Prop}
  {Fin : ι → Except ε α → World ι Op Ans σ ε × Γ → Prop}

theorem Outlined.step (hpre : ∀ i, K.Stable i (Pre i)) (hfin : ∀ i r, K.Stable i (Fin i r))
    (henv : K.AllowsEnv M) {c : Config ι Op Ans σ ε α} {a : Act ι ρ}
    (h : K.Outlined M prog Pre Fin c) (ha : Config.AtOps K.may c a) :
    K.Outlined M prog Pre Fin (c.step M prog a) := by
  obtain ⟨x, hi, ht⟩ := h
  cases a with
  | run i =>
      obtain ⟨x', hi', hg, ho⟩ := (ht i).step hi ha
      refine ⟨x', hi', fun j => ?_⟩
      by_cases hj : j = i
      · subst hj
        rw [Config.step_thread_self]
        exact ho
      · rw [Config.step_thread_ne hj]
        exact (ht j).stable (hpre j) (hfin j) (hg j hj)
  | env r =>
      obtain ⟨x', hi', hr⟩ := henv c.world x r hi
      exact ⟨x', hi', fun j => (ht j).stable (hpre j) (hfin j) (hr j)⟩

/-- **Soundness.**  Outlines hold along every run of admitted steps. -/
theorem Outlined.run (hpre : ∀ i, K.Stable i (Pre i)) (hfin : ∀ i r, K.Stable i (Fin i r))
    (henv : K.AllowsEnv M) {c : Config ι Op Ans σ ε α} {as : List (Act ι ρ)}
    (h : K.Outlined M prog Pre Fin c) (ha : Config.Along M prog (Config.AtOps K.may) c as) :
    K.Outlined M prog Pre Fin (c.run M prog as) :=
  Config.run_induction (fun _ _ => Outlined.step hpre hfin henv) h ha

end Contract
