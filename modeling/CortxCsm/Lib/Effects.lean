/-
# `CortxCsm.Lib.Effects` — what programs can do to the state

`R s s'` says that `s'` is one of the states that `s` may come to.  A program is `Within` the
relation when none of its own stretches and none of the operations it awaits leads out of it,
whatever it is answered; nothing else about the program is needed to know that a run of such
programs, interleaved in any way, stays within the relation too.

**Proved here.**

    a program is within a relation when its parts are   (`Within.bind`, `.ensure`, …)
    a run stays within it from any moment on            (`within_run`)
-/
import CortxCsm.Lib.Coroutine

namespace Coro

variable {Op : Type} {Ans : Op → Type} {σ ε ρ α β : Type}

/-- Whatever is answered, the program takes no state out of `R`. -/
inductive Within (M : Machine Op Ans σ ε ρ) (R : σ → σ → Prop) {α : Type} :
    Coro Op Ans σ ε α → Prop
  | ret (a : α) : Within M R (.ret a)
  | raise (e : ε) : Within M R (.raise e)
  | sync {u : σ → σ} {k : σ → Coro Op Ans σ ε α} (hu : ∀ s, R s (u s))
      (hk : ∀ s, Within M R (k s)) : Within M R (.sync u k)
  | await {op : Op} {k : Except ε (Ans op) → Coro Op Ans σ ε α}
      (hop : ∀ s r s', M.exec op s = some (r, s') → R s s')
      (hk : ∀ r, Within M R (k r)) : Within M R (.await op k)

namespace Within

variable {M : Machine Op Ans σ ε ρ} {R : σ → σ → Prop}

theorem bind {p : Coro Op Ans σ ε β} {f : β → Coro Op Ans σ ε α} (hp : Within M R p)
    (hf : ∀ b, Within M R (f b)) : Within M R (p >>= f) := by
  induction hp with
  | ret b => exact hf b
  | raise e => exact .raise e
  | sync hu _ ih => exact .sync hu ih
  | await hop _ ih => exact .await hop ih

theorem map {f : β → α} {p : Coro Op Ans σ ε β} (hp : Within M R p) : Within M R (f <$> p) :=
  hp.bind fun b => .ret (f b)

theorem ensure {p : Coro Op Ans σ ε α} {fin : Coro Op Ans σ ε Unit} (hp : Within M R p)
    (hfin : Within M R fin) : Within M R (p.ensure fin) := by
  induction hp with
  | ret a => exact hfin.bind fun _ => .ret a
  | raise e => exact hfin.bind fun _ => .raise e
  | sync hu _ ih => exact .sync hu ih
  | await hop _ ih => exact .await hop ih

theorem call {op : Op} (h : ∀ s r s', M.exec op s = some (r, s') → R s s') :
    Within M R (Coro.call op) := by
  refine .await h fun r => ?_
  cases r with
  | ok a => exact .ret a
  | error e => exact .raise e

theorem write {u : σ → σ} (h : ∀ s, R s (u s)) : Within M R (Coro.write u) :=
  .sync h fun _ => .ret ()

theorem raiseIf {cond : Prop} [Decidable cond] {e : ε} : Within M R (raiseIf cond e) := by
  unfold Coro.raiseIf
  split
  · exact .raise e
  · exact .ret ()

end Within

theorem within_advance {M : Machine Op Ans σ ε ρ} {R : σ → σ → Prop} (hrefl : ∀ s, R s s)
    (htrans : ∀ {a b c}, R a b → R b c → R a c) {p : Coro Op Ans σ ε α} (hp : Within M R p) :
    ∀ s, R s (p.advance s).2 ∧ Within M R (p.advance s).1 := by
  induction hp with
  | ret a => exact fun s => ⟨hrefl s, .ret a⟩
  | raise e => exact fun s => ⟨hrefl s, .raise e⟩
  | sync hu _ ih => exact fun s => ⟨htrans (hu s) (ih s _).1, (ih s _).2⟩
  | await hop hk => exact fun s => ⟨hrefl s, .await hop hk⟩

end Coro

section

variable {ι Op : Type} {Ans : Op → Type} {σ ε ρ α : Type}

/-- What is left of a coroutine is within the relation. -/
inductive Thread.Within (M : Machine Op Ans σ ε ρ) (R : σ → σ → Prop) :
    Thread Op Ans σ ε α → Prop
  | idle : Thread.Within M R .idle
  | waiting {p : Coro Op Ans σ ε α} (h : Coro.Within M R p) : Thread.Within M R (.waiting p)
  | answered {p : Coro Op Ans σ ε α} (h : Coro.Within M R p) : Thread.Within M R (.answered p)

namespace Config

variable [DecidableEq ι] {M : Machine Op Ans σ ε ρ} {prog : ι → Coro Op Ans σ ε α}
  {R : σ → σ → Prop}

omit [DecidableEq ι] in
theorem within_thread (hrefl : ∀ s, R s s) (htrans : ∀ {a b c}, R a b → R b c → R a c) {i : ι}
    {p₀ : Coro Op Ans σ ε α} (hprog : Coro.Within M R p₀) {t : Thread Op Ans σ ε α}
    (ht : t.Within M R) (w : World ι Op Ans σ ε) :
    R w.state (t.step M i p₀ w).2.state ∧ (t.step M i p₀ w).1.Within M R := by
  cases ht with
  | idle =>
      obtain ⟨hstate, hleft⟩ := Coro.within_advance hrefl htrans hprog w.state
      exact ⟨hstate, .waiting hleft⟩
  | answered h =>
      obtain ⟨hstate, hleft⟩ := Coro.within_advance hrefl htrans h w.state
      exact ⟨hstate, .waiting hleft⟩
  | waiting h =>
      cases h with
      | ret a => exact ⟨hrefl _, .waiting (.ret a)⟩
      | raise e => exact ⟨hrefl _, .waiting (.raise e)⟩
      | sync hu hk => exact ⟨hrefl _, .waiting (.sync hu hk)⟩
      | @await op k hop hk =>
          simp only [Thread.step]
          cases he : M.exec op w.state with
          | none => exact ⟨hrefl _, .waiting (.await hop hk)⟩
          | some rs => exact ⟨hop _ _ _ he, .answered (hk rs.1)⟩

/-- Programs within a reflexive and transitive relation keep every run within it. -/
theorem within_run (hrefl : ∀ s, R s s) (htrans : ∀ {a b c}, R a b → R b c → R a c)
    (henv : ∀ r s, R s (M.env r s)) (hprog : ∀ i, Coro.Within M R (prog i)) (s : σ)
    (as bs : List (Act ι ρ)) :
    R (run M prog (.start s) as).state (run M prog (.start s) (as ++ bs)).state := by
  have hstep : ∀ (s₀ : σ) (c : Config ι Op Ans σ ε α) (a : Act ι ρ),
      (R s₀ c.state ∧ ∀ i, (c.thread i).Within M R) → True →
        R s₀ (step M prog c a).state ∧ ∀ i, ((step M prog c a).thread i).Within M R := by
    rintro s₀ c a ⟨hstate, hthreads⟩ _
    cases a with
    | env r => exact ⟨htrans hstate (henv r c.state), hthreads⟩
    | run i =>
        obtain ⟨hnext, hleft⟩ := within_thread hrefl htrans (hprog i) (hthreads i) c.world
        refine ⟨htrans hstate hnext, fun j => ?_⟩
        by_cases hj : j = i
        · rw [hj, step_thread_self]
          exact hleft
        · rw [step_thread_ne hj]
          exact hthreads j
  have halong : ∀ (c : Config ι Op Ans σ ε α) (as : List (Act ι ρ)),
      Along M prog (fun _ _ => True) c as := along_of_forall fun _ _ => trivial
  obtain ⟨-, hthreads⟩ := run_induction (hstep s) (c := .start s) ⟨hrefl s, fun _ => .idle⟩
    (halong (.start s) as)
  rw [run_append]
  exact (run_induction (hstep _) ⟨hrefl _, hthreads⟩ (halong _ bs)).1

end Config

end
