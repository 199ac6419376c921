/-
# `CortxCsm.Lib.Triple` — pre- and postconditions over a contract

`K.Triple M i P p R E`: whenever thread `i` stands at a boundary with `P`, running
`p` keeps the contract `K`, and the piece is left at a boundary with `R a` if it
returns `a` and with `E e` if it raises `e`.  An assertion speaks of the world and
the ghost value.

A triple never mentions the last boundary: `At` hides it, so the pieces of a method
are proved one by one and joined by `Triple.bind`.  Assertions that stand while a
coroutine is suspended have to be `Stable`, that is, kept by its rely.

**Proved here.**

    return, raise, bind, map, consequence                     (`Triple.bind`, …)
    the shared state between two suspensions                  (`Triple.read`, `Triple.write`)
    an awaited operation                                      (`Triple.call`)
    `finally`, `except` and a loop over a list                (`Triple.ensure`, `Triple.handle`, `Triple.forM`)
    triples for all threads hold along every admitted run     (`Triple.run`)
    also where a thread is called only when it may be         (`Triple.run_entering`)
    an invariant of the state alone                           (`Contract.ofInvariant`)
-/
import CortxCsm.Lib.Outline

namespace Contract

variable {ι Op : Type} {Ans : Op → Type} {σ ε Γ α β ρ : Type}
variable (K : Contract ι Op Ans σ ε Γ) (M : Machine Op Ans σ ε ρ) (i : ι)

/-! ## Assertions -/

/-- Thread `i` may suspend here: since the boundary `b` it has kept the contract, and `P`. -/
def At (P : World ι Op Ans σ ε × Γ → Prop) (b : World ι Op Ans σ ε × Γ)
    (w : World ι Op Ans σ ε) : Prop :=
  ∃ x, K.inv w x ∧ K.guar i b (w, x) ∧ P (w, x)

/-- The two ways out. -/
def post (R : α → World ι Op Ans σ ε × Γ → Prop) (E : ε → World ι Op Ans σ ε × Γ → Prop) :
    Except ε α → World ι Op Ans σ ε × Γ → Prop
  | .ok a => R a
  | .error e => E e

def Triple (P : World ι Op Ans σ ε × Γ → Prop) (p : Coro Op Ans σ ε α)
    (R : α → World ι Op Ans σ ε × Γ → Prop) (E : ε → World ι Op Ans σ ε × Γ → Prop) : Prop :=
  ∀ b w, K.At i P b w → K.wp M i (K.Ends i (post R E)) p b w

variable {K M i}
variable {P P' : World ι Op Ans σ ε × Γ → Prop} {R R' : α → World ι Op Ans σ ε × Γ → Prop}
variable {E E' : ε → World ι Op Ans σ ε × Γ → Prop}

theorem guar_trans {a b c : World ι Op Ans σ ε × Γ} (h : K.guar i a b) (h' : K.guar i b c) :
    K.guar i a c := fun j hj => K.trans j a b c (h j hj) (h' j hj)

theorem At.mono {b : World ι Op Ans σ ε × Γ} {w : World ι Op Ans σ ε}
    (hP : ∀ a, K.inv a.1 a.2 → P a → P' a) (h : K.At i P b w) : K.At i P' b w := by
  obtain ⟨x, hi, hg, hp⟩ := h
  exact ⟨x, hi, hg, hP _ hi hp⟩

theorem Stable.and {P Q : World ι Op Ans σ ε × Γ → Prop} (hP : K.Stable i P)
    (hQ : K.Stable i Q) : K.Stable i fun a => P a ∧ Q a :=
  fun a b h hr => ⟨hP a b h.1 hr, hQ a b h.2 hr⟩

theorem Stable.const (p : Prop) : K.Stable i fun _ => p := fun _ _ h _ => h

theorem Stable.imp {P : World ι Op Ans σ ε × Γ → Prop} (p : Prop) (hP : K.Stable i P) :
    K.Stable i fun a => p → P a := fun a b h hr hp => hP a b (h hp) hr

theorem Stable.all {κ : Type} {P : κ → World ι Op Ans σ ε × Γ → Prop}
    (hP : ∀ k, K.Stable i (P k)) : K.Stable i fun a => ∀ k, P k a :=
  fun a b h hr k => hP k a b (h k) hr

theorem Stable.exists {κ : Type} {P : κ → World ι Op Ans σ ε × Γ → Prop}
    (hP : ∀ k, K.Stable i (P k)) : K.Stable i fun a => ∃ k, P k a := by
  rintro a b ⟨k, h⟩ hr
  exact ⟨k, hP k a b h hr⟩

/-! ## Structure -/

namespace Triple

theorem conseq {p : Coro Op Ans σ ε α} (h : K.Triple M i P p R E)
    (hP : ∀ a, K.inv a.1 a.2 → P' a → P a) (hR : ∀ v a, K.inv a.1 a.2 → R v a → R' v a)
    (hE : ∀ e a, K.inv a.1 a.2 → E e a → E' e a) : K.Triple M i P' p R' E' := by
  intro b w hat
  refine wp_mono (fun r b w hr => ?_) (h b w (hat.mono hP))
  obtain ⟨x, hi, hg, hp⟩ := hr
  refine ⟨x, hi, hg, ?_⟩
  cases r with
  | ok v => exact hR v _ hi hp
  | error e => exact hE e _ hi hp

theorem pre {p : Coro Op Ans σ ε α} (h : K.Triple M i P p R E)
    (hP : ∀ a, K.inv a.1 a.2 → P' a → P a) : K.Triple M i P' p R E :=
  h.conseq hP (fun _ _ _ hr => hr) (fun _ _ _ he => he)

theorem weaken {p : Coro Op Ans σ ε α} (h : K.Triple M i P p R E)
    (hR : ∀ v a, K.inv a.1 a.2 → R v a → R' v a)
    (hE : ∀ e a, K.inv a.1 a.2 → E e a → E' e a) : K.Triple M i P p R' E' :=
  h.conseq (fun _ _ hp => hp) hR hE

theorem ret {v : α} (h : ∀ a, K.inv a.1 a.2 → P a → R v a) :
    K.Triple M i P (.ret v) R E := by
  rintro b w ⟨x, hi, hg, hp⟩
  exact ⟨x, hi, hg, h _ hi hp⟩

theorem raise {e : ε} (h : ∀ a, K.inv a.1 a.2 → P a → E e a) :
    K.Triple M i P (.raise e) R E := by
  rintro b w ⟨x, hi, hg, hp⟩
  exact ⟨x, hi, hg, h _ hi hp⟩

theorem bind {S : β → World ι Op Ans σ ε × Γ → Prop} {p : Coro Op Ans σ ε β}
    {f : β → Coro Op Ans σ ε α} (hp : K.Triple M i P p S E)
    (hf : ∀ v, K.Triple M i (S v) (f v) R E) : K.Triple M i P (p >>= f) R E := by
  intro b w hat
  rw [wp_bind]
  refine wp_mono (fun r b w hr => ?_) (hp b w hat)
  cases r with
  | ok v => exact hf v b w hr
  | error e => exact hr

theorem map {S : β → World ι Op Ans σ ε × Γ → Prop} {f : α → β} {p : Coro Op Ans σ ε α}
    (hp : K.Triple M i P p (fun v => S (f v)) E) : K.Triple M i P (f <$> p) S E := by
  rw [← bind_pure_comp]
  exact hp.bind fun v => ret fun _ _ h => h

theorem raiseIf {cond : Prop} [Decidable cond] {e : ε}
    {R : Unit → World ι Op Ans σ ε × Γ → Prop} (he : cond → ∀ a, K.inv a.1 a.2 → P a → E e a)
    (hok : ¬ cond → ∀ a, K.inv a.1 a.2 → P a → R () a) :
    K.Triple M i P (Coro.raiseIf cond e) R E := by
  unfold Coro.raiseIf
  split
  · rename_i h
    exact raise (he h)
  · rename_i h
    exact ret (hok h)

/-- `if cond: raise e` before the rest. -/
theorem guard {cond : Prop} [Decidable cond] {e : ε} {f : Unit → Coro Op Ans σ ε α}
    (he : cond → ∀ a, K.inv a.1 a.2 → P a → E e a)
    (hf : ¬ cond → K.Triple M i P (f ()) R E) :
    K.Triple M i P (Coro.raiseIf cond e >>= f) R E := by
  by_cases h : cond
  · refine (raiseIf (R := fun _ _ => False) he fun hn => absurd h hn).bind fun _ => ?_
    rintro b w ⟨_, _, _, hf⟩
    exact hf.elim
  · exact (raiseIf (R := fun _ => P) he fun _ _ _ hp => hp).bind fun _ => hf h

/-- A precondition that fixes facts outside the state. -/
theorem of_fact {p : Coro Op Ans σ ε α} {q : Prop}
    (hp : ∀ a, K.inv a.1 a.2 → P a → q) (h : q → K.Triple M i P p R E) :
    K.Triple M i P p R E := by
  intro b w hat
  obtain ⟨x, hi, hg, hpx⟩ := hat
  exact h (hp _ hi hpx) b w ⟨x, hi, hg, hpx⟩

/-- A precondition with a witness. -/
theorem of_exists {κ : Type} {P : κ → World ι Op Ans σ ε × Γ → Prop} {p : Coro Op Ans σ ε α}
    (h : ∀ k, K.Triple M i (P k) p R E) : K.Triple M i (fun a => ∃ k, P k a) p R E := by
  rintro b w ⟨x, hi, hg, k, hk⟩
  exact h k b w ⟨x, hi, hg, hk⟩

/-! ## Between two suspensions -/

theorem read {f : σ → α} (h : ∀ w x, K.inv w x → P (w, x) → R (f w.state) (w, x)) :
    K.Triple M i P (Coro.read f) R E := by
  rintro b w ⟨x, hi, hg, hp⟩
  exact ⟨x, hi, hg, h w x hi hp⟩

/-- A piece whose first step is a read. -/
theorem read_bind {f : σ → β} {g : β → Coro Op Ans σ ε α}
    {S : β → World ι Op Ans σ ε × Γ → Prop}
    (h : ∀ w x, K.inv w x → P (w, x) → S (f w.state) (w, x))
    (hg : ∀ v, K.Triple M i (S v) (g v) R E) : K.Triple M i P (Coro.read f >>= g) R E :=
  (read h).bind hg

/-- One step of `sync` code that changes the state, with a new ghost value. -/
theorem sync {u : σ → σ} {f : σ → α}
    (h : ∀ w x, K.inv w x → P (w, x) → ∃ x', K.inv { w with state := u w.state } x' ∧
      K.guar i (w, x) ({ w with state := u w.state }, x') ∧
        R (f w.state) ({ w with state := u w.state }, x')) :
    K.Triple M i P (Coro.sync u fun s => .ret (f s)) R E := by
  rintro b w ⟨x, hi, hg, hp⟩
  obtain ⟨x', hi', hg', hr⟩ := h w x hi hp
  exact ⟨x', hi', guar_trans hg hg', hr⟩

theorem write {u : σ → σ} {R : Unit → World ι Op Ans σ ε × Γ → Prop}
    (h : ∀ w x, K.inv w x → P (w, x) → ∃ x', K.inv { w with state := u w.state } x' ∧
      K.guar i (w, x) ({ w with state := u w.state }, x') ∧
        R () ({ w with state := u w.state }, x')) :
    K.Triple M i P (Coro.write u) R E := sync h

/-! ## Suspensions -/

/-- A suspension whose answers are told apart by `N`. -/
theorem await {op : Op} {k : Except ε (Ans op) → Coro Op Ans σ ε α}
    {N : Except ε (Ans op) → World ι Op Ans σ ε × Γ → Prop} (hP : K.Stable i P)
    (hN : ∀ r, K.Stable i (N r))
    (hop : ∀ w x r s', K.inv w x → P (w, x) → K.may i op w → M.exec op w.state = some (r, s') →
      ∃ x', K.inv (w.answer i op r s') x' ∧ K.guar i (w, x) (w.answer i op r s', x') ∧
        N r (w.answer i op r s', x'))
    (hk : ∀ r, K.Triple M i (N r) (k r) R E) : K.Triple M i P (.await op k) R E := by
  rintro b w ⟨x, hi, hg, hp⟩
  refine ⟨x, hi, hg, ?_⟩
  intro w₁ x₁ hi₁ hr₁ hm r s' he
  obtain ⟨x₂, hi₂, hg₂, hn⟩ := hop w₁ x₁ r s' hi₁ (hP _ _ hp hr₁) hm he
  refine ⟨x₂, hi₂, hg₂, fun w₃ x₃ hi₃ hr₃ => ?_⟩
  exact hk r _ _ ⟨x₃, hi₃, K.guar_refl i _, hN r _ _ hn hr₃⟩

theorem call {op : Op} {R : Ans op → World ι Op Ans σ ε × Γ → Prop} (hP : K.Stable i P)
    (hR : ∀ v, K.Stable i (R v)) (hE : ∀ e, K.Stable i (E e))
    (hop : ∀ w x r s', K.inv w x → P (w, x) → K.may i op w → M.exec op w.state = some (r, s') →
      ∃ x', K.inv (w.answer i op r s') x' ∧ K.guar i (w, x) (w.answer i op r s', x') ∧
        post R E r (w.answer i op r s', x')) :
    K.Triple M i P (Coro.call op) R E := by
  refine await (N := post R E) hP (fun r => ?_) hop fun r => ?_
  · cases r with
    | ok v => exact hR v
    | error e => exact hE e
  · cases r with
    | ok v => exact ret fun _ _ h => h
    | error e => exact raise fun _ _ h => h

/-! ## `finally`, `except` and loops -/

theorem ensure {fin : Coro Op Ans σ ε Unit} {p : Coro Op Ans σ ε α}
    (hp : K.Triple M i P p R' E') (hok : ∀ v, K.Triple M i (R' v) fin (fun _ => R v) E)
    (herr : ∀ e, K.Triple M i (E' e) fin (fun _ => E e) E) :
    K.Triple M i P (p.ensure fin) R E := by
  intro b w hat
  rw [wp_ensure]
  refine wp_mono (fun r b w hr => ?_) (hp b w hat)
  cases r with
  | ok v =>
      refine wp_mono (fun r' b w hr' => ?_) (hok v b w hr)
      cases r' with
      | ok u => exact hr'
      | error e => exact hr'
  | error e =>
      refine wp_mono (fun r' b w hr' => ?_) (herr e b w hr)
      cases r' with
      | ok u => exact hr'
      | error e' => exact hr'

/-- `except`. -/
theorem handle {h : ε → Coro Op Ans σ ε α} {p : Coro Op Ans σ ε α} (hp : K.Triple M i P p R E')
    (hh : ∀ e, K.Triple M i (E' e) (h e) R E) : K.Triple M i P (p.handle h) R E := by
  intro b w hat
  rw [Coro.graft_handle, wp_graft]
  refine wp_mono (fun r b w hr => ?_) (hp b w hat)
  cases r with
  | ok v => exact hr
  | error e => exact hh e b w hr

/-- `J xs` before the iterations over `xs`. -/
theorem forM {f : β → Coro Op Ans σ ε Unit} {J : List β → World ι Op Ans σ ε × Γ → Prop}
    (hcons : ∀ y ys, K.Triple M i (J (y :: ys)) (f y) (fun _ => J ys) E) :
    ∀ ys, K.Triple M i (J ys) (ys.forM f) (fun _ => J []) E
  | [] => ret fun _ _ h => h
  | y :: ys => by
      rw [List.forM_eq_forM, List.forM_cons]
      exact (hcons y ys).bind fun _ => forM hcons ys

end Triple

/-! ## Runs -/

/-- What is known of a thread at a boundary: `P` until it is called, and its
postcondition once it has ended. -/
def Standing (P : World ι Op Ans σ ε × Γ → Prop) (R : α → World ι Op Ans σ ε × Γ → Prop)
    (E : ε → World ι Op Ans σ ε × Γ → Prop) : Thread Op Ans σ ε α →
      World ι Op Ans σ ε × Γ → Prop
  | .idle, a => P a
  | .waiting (.ret v), a => R v a
  | .waiting (.raise e), a => E e a
  | _, _ => True

/-- **Runs.**  If every thread's program has a triple, then along every admitted run the
invariant holds, and what is known of each thread. -/
theorem Triple.run [DecidableEq ι] {prog : ι → Coro Op Ans σ ε α}
    {P : ι → World ι Op Ans σ ε × Γ → Prop} {R : ι → α → World ι Op Ans σ ε × Γ → Prop}
    {E : ι → ε → World ι Op Ans σ ε × Γ → Prop} (hP : ∀ i, K.Stable i (P i))
    (hR : ∀ i v, K.Stable i (R i v)) (hE : ∀ i e, K.Stable i (E i e)) (henv : K.AllowsEnv M)
    (h : ∀ i, K.Triple M i (P i) (prog i) (R i) (E i)) {s : σ} {x : Γ} (hinv : K.inv ⟨s, []⟩ x)
    (hpre : ∀ i, P i (⟨s, []⟩, x)) {as : List (Act ι ρ)}
    (has : Config.Along M prog (Config.AtOps K.may) (.start s) as) :
    ∃ x, K.inv (Config.run M prog (.start s) as).world x ∧
      ∀ i, Standing (P i) (R i) (E i) ((Config.run M prog (.start s) as).thread i)
        ((Config.run M prog (.start s) as).world, x) := by
  have hstart : K.Outlined M prog P (fun i => post (R i) (E i)) (.start s) :=
    ⟨x, hinv, fun i => ⟨hpre i, fun b hi hp => h i b b.1 ⟨b.2, hi, K.guar_refl i b, hp⟩⟩⟩
  have hfin : ∀ i r, K.Stable i (post (R i) (E i) r) := by
    intro i r
    cases r with
    | ok v => exact hR i v
    | error e => exact hE i e
  obtain ⟨x, hi, hthreads⟩ := hstart.run hP hfin henv has
  refine ⟨x, hi, fun i => ?_⟩
  have ht := hthreads i
  match (Config.run M prog (.start s) as).thread i, ht with
  | .idle, ht => exact ht.1
  | .answered _, _ => trivial
  | .waiting (.ret _), ht => exact ht
  | .waiting (.raise _), ht => exact ht
  | .waiting (.sync _ _), _ => trivial
  | .waiting (.await _ _), _ => trivial

/-- `Outlines` of a thread that has been called, and `P` of one that has not. -/
def Entering (K : Contract ι Op Ans σ ε Γ) (M : Machine Op Ans σ ε ρ) (i : ι)
    (p : Coro Op Ans σ ε α) (P : World ι Op Ans σ ε × Γ → Prop)
    (Fin : Except ε α → World ι Op Ans σ ε × Γ → Prop) (t : Thread Op Ans σ ε α)
    (a : World ι Op Ans σ ε × Γ) : Prop :=
  (t = .idle ∧ P a) ∨ (t ≠ .idle ∧ K.Outlines M i p (fun _ => False) Fin t a)

/-- What is known of a thread follows from its outline. -/
theorem Entering.standing {p : Coro Op Ans σ ε α} {R : α → World ι Op Ans σ ε × Γ → Prop}
    {E : ε → World ι Op Ans σ ε × Γ → Prop} {t : Thread Op Ans σ ε α}
    {a : World ι Op Ans σ ε × Γ} (h : Entering K M i p P (post R E) t a) : Standing P R E t a := by
  rcases h with ⟨rfl, hp⟩ | ⟨hne, ho⟩
  · exact hp
  · match t, hne, ho with
    | .idle, hne, _ => exact absurd rfl hne
    | .answered _, _, _ => trivial
    | .waiting (.ret _), _, ho => exact ho
    | .waiting (.raise _), _, ho => exact ho
    | .waiting (.sync _ _), _, _ => trivial
    | .waiting (.await _ _), _, _ => trivial

/-- A thread that has taken a step has been called. -/
theorem step_ne_idle (p : Coro Op Ans σ ε α) (t : Thread Op Ans σ ε α) (w : World ι Op Ans σ ε) :
    (t.step M i p w).1 ≠ .idle := by
  intro h
  cases t with
  | idle => cases h
  | answered q => cases h
  | waiting q =>
      cases q with
      | ret a => cases h
      | raise e => cases h
      | sync u k => cases h
      | await op k =>
          simp only [Thread.step] at h
          split at h
          · cases h
          · cases h

/-- **Runs with an entry condition.**  `Q i` is what thread `i` needs on top when it is called;
the steps of the run grant it. -/
theorem Triple.run_entering [DecidableEq ι] {prog : ι → Coro Op Ans σ ε α}
    {P Q : ι → World ι Op Ans σ ε × Γ → Prop} {R : ι → α → World ι Op Ans σ ε × Γ → Prop}
    {E : ι → ε → World ι Op Ans σ ε × Γ → Prop} (hP : ∀ i, K.Stable i (P i))
    (hR : ∀ i v, K.Stable i (R i v)) (hE : ∀ i e, K.Stable i (E i e)) (henv : K.AllowsEnv M)
    (h : ∀ i, K.Triple M i (fun a => P i a ∧ Q i a) (prog i) (R i) (E i))
    {C : Config ι Op Ans σ ε α → Act ι ρ → Prop}
    (henter : ∀ c x i, K.inv c.world x →
      (∀ j, Standing (P j) (R j) (E j) (c.thread j) (c.world, x)) →
      c.thread i = .idle → C c (.run i) → Q i (c.world, x))
    {s : σ} {x : Γ} (hinv : K.inv ⟨s, []⟩ x) (hpre : ∀ i, P i (⟨s, []⟩, x))
    {as : List (Act ι ρ)}
    (has : Config.Along M prog (fun c a => Config.AtOps K.may c a ∧ C c a) (.start s) as) :
    ∃ x, K.inv (Config.run M prog (.start s) as).world x ∧
      ∀ i, Standing (P i) (R i) (E i) ((Config.run M prog (.start s) as).thread i)
        ((Config.run M prog (.start s) as).world, x) := by
  have hfin : ∀ i r, K.Stable i (post (R i) (E i) r) := by
    intro i r
    cases r with
    | ok v => exact hR i v
    | error e => exact hE i e
  have hkept : ∀ i (t : Thread Op Ans σ ε α) (a b : World ι Op Ans σ ε × Γ), K.rely i a b →
      Entering K M i (prog i) (P i) (post (R i) (E i)) t a →
        Entering K M i (prog i) (P i) (post (R i) (E i)) t b := by
    intro i t a b hr ht
    rcases ht with ⟨hidle, hp⟩ | ⟨hne, ho⟩
    · exact .inl ⟨hidle, hP i a b hp hr⟩
    · exact .inr ⟨hne, ho.stable (fun _ _ hf _ => hf) (hfin i) hr⟩
  let Inv : Config ι Op Ans σ ε α → Prop := fun c => ∃ x, K.inv c.world x ∧
    ∀ i, Entering K M i (prog i) (P i) (post (R i) (E i)) (c.thread i) (c.world, x)
  have hstep : ∀ c a, Inv c → (Config.AtOps K.may c a ∧ C c a) → Inv (c.step M prog a) := by
    rintro c a ⟨x, hi, ht⟩ ⟨hm, hc⟩
    cases a with
    | env r =>
        obtain ⟨x', hi', hr⟩ := henv c.world x r hi
        exact ⟨x', hi', fun j => hkept j _ _ _ (hr j) (ht j)⟩
    | run i =>
        -- the thread's own outline, from its triple if it is only called now
        have hself : ∃ x', K.inv ((c.thread i).step M i (prog i) c.world).2 x' ∧
            K.guar i (c.world, x) (((c.thread i).step M i (prog i) c.world).2, x') ∧
              K.Outlines M i (prog i) (fun _ => False) (post (R i) (E i))
                ((c.thread i).step M i (prog i) c.world).1
                (((c.thread i).step M i (prog i) c.world).2, x') := by
          rcases ht i with ⟨hidle, hp⟩ | ⟨hne, ho⟩
          · have hq := henter c x i hi (fun j => (ht j).standing) hidle hc
            rw [hidle]
            exact wp_advance (h i (c.world, x) c.world ⟨x, hi, K.guar_refl i _, hp, hq⟩)
          · exact ho.step hi hm
        obtain ⟨x', hi', hg, ho⟩ := hself
        refine ⟨x', hi', fun j => ?_⟩
        by_cases hj : j = i
        · subst hj
          rw [Config.step_thread_self]
          exact .inr ⟨step_ne_idle _ _ _, ho⟩
        · rw [Config.step_thread_ne hj]
          exact hkept j _ _ _ (hg j hj) (ht j)
  obtain ⟨x, hi, ht⟩ : Inv (Config.run M prog (.start s) as) :=
    Config.run_induction hstep ⟨x, hinv, fun i => .inl ⟨rfl, hpre i⟩⟩ has
  exact ⟨x, hi, fun i => (ht i).standing⟩

theorem Standing.of_returned {P : World ι Op Ans σ ε × Γ → Prop}
    {R : α → World ι Op Ans σ ε × Γ → Prop} {E : ε → World ι Op Ans σ ε × Γ → Prop}
    {t : Thread Op Ans σ ε α} {a : World ι Op Ans σ ε × Γ} (h : Standing P R E t a)
    (ht : t.returned = true) : ∃ v, R v a := by
  match t, h, ht with
  | .waiting (.ret v), h, _ => exact ⟨v, h⟩

theorem Standing.of_raised {P : World ι Op Ans σ ε × Γ → Prop}
    {R : α → World ι Op Ans σ ε × Γ → Prop} {E : ε → World ι Op Ans σ ε × Γ → Prop}
    {t : Thread Op Ans σ ε α} {a : World ι Op Ans σ ε × Γ} (h : Standing P R E t a)
    {e : ε} (ht : t.raised = some e) : E e a := by
  match t, h, ht with
  | .waiting (.raise e), h, ht =>
      cases ht
      exact h

theorem Standing.of_ok {P : World ι Op Ans σ ε × Γ → Prop}
    {R : α → World ι Op Ans σ ε × Γ → Prop} {E : ε → World ι Op Ans σ ε × Γ → Prop}
    {t : Thread Op Ans σ ε α} {a : World ι Op Ans σ ε × Γ} (h : Standing P R E t a)
    {v : α} (ht : t.result = some (.ok v)) : R v a := by
  match t, h, ht with
  | .waiting (.ret v), h, ht =>
      cases ht
      exact h

/-- With no call in flight, every thread has not been called or has ended. -/
theorem Standing.of_quiet {P : World ι Op Ans σ ε × Γ → Prop} {t : Thread Op Ans σ ε α}
    {a : World ι Op Ans σ ε × Γ} (h : Standing P (fun _ => P) (fun _ => P) t a)
    (hq : ¬ t.InFlight) : P a := by
  match t, h, hq with
  | .idle, h, _ => exact h
  | .waiting (.ret _), h, _ => exact h
  | .waiting (.raise _), h, _ => exact h
  | .answered _, _, hq => exact absurd (Thread.inFlight_answered _) hq
  | .waiting (.sync _ _), _, hq => exact absurd (Thread.inFlight_sync _ _) hq
  | .waiting (.await _ _), _, hq => exact absurd (Thread.inFlight_await _ _) hq

/-! ## Invariants of the state -/

/-- The contract of an invariant every single operation keeps: nobody relies on more. -/
def ofInvariant (ι Op : Type) (Ans : Op → Type) (ε : Type) (I : σ → Prop) :
    Contract ι Op Ans σ ε Unit where
  inv w _ := I w.state
  rely _ _ _ := True
  may _ _ _ := True
  refl _ _ := trivial
  trans _ _ _ _ _ _ := trivial

namespace Triple

variable {I : σ → Prop} {Q : α → Prop}

/-- An operation that keeps the invariant; `V` is what its value is known to satisfy. -/
theorem callInvariant {op : Op} {V : Ans op → Prop} {p : Prop}
    (hop : ∀ s r s', I s → p → M.exec op s = some (r, s') → I s' ∧ ∀ v, r = .ok v → V v) :
    (ofInvariant ι Op Ans ε I).Triple M i (fun _ => p) (Coro.call op) (fun v _ => V v)
      fun _ _ => True := by
  refine call (fun _ _ h _ => h) (fun _ _ _ h _ => h) (fun _ _ _ h _ => h) ?_
  intro w x r s' hi hp _ he
  obtain ⟨hi', hv⟩ := hop w.state r s' hi hp he
  refine ⟨(), hi', fun _ _ => trivial, ?_⟩
  cases r with
  | ok v => exact hv v rfl
  | error e => trivial

end Triple

/-- An invariant all threads keep holds after every run. -/
theorem ofInvariant_run [DecidableEq ι] {I : σ → Prop} {M : Machine Op Ans σ ε ρ}
    {prog : ι → Coro Op Ans σ ε α} {s : σ} (hs : I s) (henv : ∀ s r, I s → I (M.env r s))
    (h : ∀ i, (ofInvariant ι Op Ans ε I).Triple M i (fun _ => True) (prog i) (fun _ _ => True)
      fun _ _ => True) (as : List (Act ι ρ)) :
    I (Config.run M prog (.start s) as).state := by
  have hmay : ∀ (c : Config ι Op Ans σ ε α) (a : Act ι ρ),
      Config.AtOps (ofInvariant ι Op Ans ε I).may c a := by
    intro c a
    cases a with
    | run i => exact fun _ _ => trivial
    | env r => trivial
  obtain ⟨_, hinv, _⟩ := Triple.run (fun _ => .const True) (fun _ _ => .const True)
    (fun _ _ => .const True) (fun w _ r hi => ⟨(), henv w.state r hi, fun _ => trivial⟩) h
    (x := ()) hs (fun _ => trivial) (Config.along_of_forall hmay _ as)
  exact hinv

end Contract
