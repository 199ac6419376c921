/-
# `CortxCsm.Lib.Lock` — a lock, and what it guards

A `Lock` of a machine names the operation that takes it, the update that gives it back, and
the part of the state that it guards.  `Coro.withLock` is `async with`.

Whoever holds the lock may break an invariant of the guarded part, if he mends it before he
lets go, and everybody else may not touch it.  This is the contract `guarding`; its ghost
value is who holds the lock.

**Proved here.**

    an operation, and code between two, under the lock    (`call_triple`, `sync_triple`)
    a critical section                                    (`withLock_triple`)
    the invariant, whenever the lock is free              (`guarding_run`)
-/
import CortxCsm.Lib.Triple

variable {ι Op : Type} {Ans : Op → Type} {σ ε α ρ V : Type}

/-- `async with`: `p` between `acquire` and `release`. -/
def Coro.withLock (acquire : Op) (release : σ → σ) (p : Coro Op Ans σ ε α) : Coro Op Ans σ ε α := do
  let _ ← Coro.call acquire
  p.ensure (Coro.write release)

structure Lock (M : Machine Op Ans σ ε ρ) (V : Type) where
  acquire : Op
  release : σ → σ
  held : σ → Bool
  view : σ → V
  exec_acquire : ∀ s r s', M.exec acquire s = some (r, s') →
    (held s = false ∧ held s' = true) ∧ view s' = view s ∧ ∃ v, r = .ok v
  release_free : ∀ s, held (release s) = false ∧ view (release s) = view s
  env_apart : ∀ r s, held (M.env r s) = held s ∧ view (M.env r s) = view s

namespace Lock

variable {M : Machine Op Ans σ ε ρ} (L : Lock M V) (I : V → Prop) (i : ι)

/-- The invariant holds while nobody holds the lock. -/
def guarding (ι : Type) : Contract ι Op Ans σ ε (Option ι) where
  inv w holder := (L.held w.state = true ↔ holder.isSome = true) ∧
    (holder = none → I (L.view w.state))
  rely i a b := (a.2 = some i ↔ b.2 = some i) ∧
    (a.2 = some i → L.view b.1.state = L.view a.1.state)
  may _ _ _ := True
  refl _ _ := ⟨Iff.rfl, fun _ => rfl⟩
  trans _ _ _ _ h h' :=
    ⟨h.1.trans h'.1, fun ha => (h'.2 (h.1.mp ha)).trans (h.2 ha)⟩

/-- `i` does not hold the lock. -/
def Outside (a : World ι Op Ans σ ε × Option ι) : Prop := a.2 ≠ some i

/-- `i` holds the lock, and knows `P` of what it guards. -/
def Holds (P : V → Prop) (a : World ι Op Ans σ ε × Option ι) : Prop :=
  a.2 = some i ∧ P (L.view a.1.state)

/-- The two ways out. -/
def outcome (R : α → V → Prop) (E : ε → V → Prop) : Except ε α → V → Prop
  | .ok v => R v
  | .error e => E e

variable {L I i} {P : V → Prop}

theorem Outside.stable : (L.guarding I ι).Stable i (Outside i) :=
  fun _ _ h hr hb => h (hr.1.mpr hb)

theorem Holds.stable : (L.guarding I ι).Stable i (L.Holds i P) := by
  rintro a b ⟨ha, hp⟩ hr
  refine ⟨hr.1.mp ha, ?_⟩
  rw [hr.2 ha]
  exact hp

/-- The holder owes nobody anything. -/
theorem Holds.guar {a b : World ι Op Ans σ ε × Option ι} (ha : a.2 = some i) (hb : b.2 = some i) :
    (L.guarding I ι).guar i a b := by
  intro j hj
  have hne : some i ≠ some j := fun h => hj (Option.some.inj h).symm
  exact ⟨iff_of_false (ha ▸ hne) (hb ▸ hne), fun h => absurd (ha.symm.trans h) hne⟩

/-- What is known of the state without its having changed hands. -/
theorem Holds.inv {w w' : World ι Op Ans σ ε} {holder : Option ι}
    (hinv : (L.guarding I ι).inv w holder) (hholder : holder = some i)
    (hheld : L.held w'.state = L.held w.state) : (L.guarding I ι).inv w' holder := by
  refine ⟨?_, fun hnone => nomatch hholder.symm.trans hnone⟩
  rw [hheld]
  exact hinv.1

/-! ## Under the lock -/

/-- An operation that leaves the lock alone. -/
theorem call_triple {op : Op} {R : Ans op → V → Prop} {E : ε → V → Prop}
    (hop : ∀ s r s', P (L.view s) → M.exec op s = some (r, s') →
      L.held s' = L.held s ∧ outcome R E r (L.view s')) :
    (L.guarding I ι).Triple M i (L.Holds i P) (Coro.call op) (fun v => L.Holds i (R v))
      fun e => L.Holds i (E e) := by
  refine .call Holds.stable (fun _ => Holds.stable) (fun _ => Holds.stable) ?_
  intro w holder r s' hinv hp _ he
  obtain ⟨hheld, hview⟩ := hop w.state r s' hp.2 he
  refine ⟨holder, Holds.inv hinv hp.1 hheld, Holds.guar hp.1 hp.1, ?_⟩
  cases r with
  | ok v => exact ⟨hp.1, hview⟩
  | error e => exact ⟨hp.1, hview⟩

/-- The code between two operations. -/
theorem sync_triple {u : σ → σ} {f : σ → α} {R : α → V → Prop}
    {E : ε → World ι Op Ans σ ε × Option ι → Prop}
    (h : ∀ s, P (L.view s) → L.held (u s) = L.held s ∧ R (f s) (L.view (u s))) :
    (L.guarding I ι).Triple M i (L.Holds i P) (Coro.sync u fun s => .ret (f s))
      (fun v => L.Holds i (R v)) E := by
  refine .sync fun w holder hinv hp => ?_
  obtain ⟨hheld, hview⟩ := h w.state hp.2
  exact ⟨holder, Holds.inv hinv hp.1 hheld, Holds.guar hp.1 hp.1, hp.1, hview⟩

/-! ## Critical sections -/

theorem acquire_triple :
    (L.guarding I ι).Triple M i (Outside i) (Coro.call L.acquire) (fun _ => L.Holds i I)
      fun _ => Outside i := by
  refine .call Outside.stable (fun _ => Holds.stable) (fun _ => Outside.stable) ?_
  intro w holder r s' hinv _ _ he
  obtain ⟨⟨hfree, hheld⟩, hview, v, rfl⟩ := L.exec_acquire w.state r s' he
  -- the lock was free, so nobody held it
  have hnone : holder = none := by
    cases holder with
    | none => rfl
    | some j => exact absurd (hfree.symm.trans (hinv.1.mpr rfl)) Bool.noConfusion
  subst hnone
  refine ⟨some i, ⟨iff_of_true hheld rfl, nofun⟩, fun j hj => ?_, rfl, ?_⟩
  · exact ⟨iff_of_false nofun fun h => hj (Option.some.inj h).symm, nofun⟩
  · show I (L.view s')
    rw [hview]
    exact hinv.2 rfl

theorem release_triple {E : ε → World ι Op Ans σ ε × Option ι → Prop} :
    (L.guarding I ι).Triple M i (L.Holds i I) (Coro.write L.release) (fun _ => Outside i) E := by
  refine .write fun w holder _ hp => ?_
  obtain ⟨hholder, hview⟩ := hp
  change holder = some i at hholder
  obtain ⟨hfree, hsame⟩ := L.release_free w.state
  refine ⟨none, ⟨iff_of_false (ne_true_of_eq_false hfree) nofun, fun _ => ?_⟩, fun j hj => ?_, nofun⟩
  · rw [hsame]
    exact hview
  · have hne : holder ≠ some j := fun h => hj (Option.some.inj (hholder.symm.trans h)).symm
    exact ⟨iff_of_false hne nofun, fun h => absurd h hne⟩

/-- **A critical section** mends the invariant, however it ends. -/
theorem withLock_triple {p : Coro Op Ans σ ε α}
    (hp : (L.guarding I ι).Triple M i (L.Holds i I) p (fun _ => L.Holds i I) fun _ => L.Holds i I) :
    (L.guarding I ι).Triple M i (Outside i) (p.withLock L.acquire L.release) (fun _ => Outside i)
      fun _ => Outside i :=
  acquire_triple.bind fun _ =>
    hp.ensure (fun _ => release_triple) fun _ => release_triple

/-! ## Runs -/

/-- **Runs.**  If all programs touch the guarded part in critical sections only, its invariant
holds whenever the lock is free. -/
theorem guarding_run [DecidableEq ι] {prog : ι → Coro Op Ans σ ε α}
    (h : ∀ i, (L.guarding I ι).Triple M i (Outside i) (prog i) (fun _ => Outside i)
      fun _ => Outside i) {s : σ} (hfree : L.held s = false) (hs : I (L.view s))
    (as : List (Act ι ρ)) (hfree' : L.held (Config.run M prog (.start s) as).state = false) :
    I (L.view (Config.run M prog (.start s) as).state) := by
  have henv : (L.guarding I ι).AllowsEnv M := by
    intro w holder r hinv
    obtain ⟨hheld, hview⟩ := L.env_apart r w.state
    refine ⟨holder, ⟨?_, fun hnone => ?_⟩, fun i => ⟨Iff.rfl, fun _ => hview⟩⟩
    · rw [hheld]
      exact hinv.1
    · rw [hview]
      exact hinv.2 hnone
  have hmay : ∀ (c : Config ι Op Ans σ ε α) (a : Act ι ρ),
      Config.AtOps (L.guarding I ι).may c a := by
    intro c a
    cases a with
    | run i => exact fun _ _ => trivial
    | env r => trivial
  obtain ⟨holder, hinv, -⟩ := Contract.Triple.run (fun _ => Outside.stable)
    (fun _ _ => Outside.stable) (fun _ _ => Outside.stable) henv h (x := none)
    ⟨iff_of_false (ne_true_of_eq_false hfree) nofun, fun _ => hs⟩ (fun _ => nofun)
    (Config.along_of_forall hmay _ as)
  refine hinv.2 ?_
  cases holder with
  | none => rfl
  | some j => exact absurd (hfree'.symm.trans (hinv.1.mpr rfl)) Bool.noConfusion

end Lock
