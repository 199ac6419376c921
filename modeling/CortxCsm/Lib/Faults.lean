/-
# `CortxCsm.Lib.Faults` — operations that fail, coroutines that are cancelled

Over `M.faulty` the environment may arm a `Fault` at any time; the next operation that
is answered meets it.  The coroutine that awaited it gets an exception, as when the
operation fails or when the coroutine is cancelled there, and goes on with whatever
handlers it has.  A program does not know of faults: `Coro.lift` runs it over the
state with the armed fault beside it.

A caller may try again.  `retried` is the loop that makes up to a number of attempts, told
which of them fail; `passed` is where it stands once one has not.

**Proved here.**

    what an operation can do when faults are armed         (`Machine.faulty_exec`)
    a retry loop is its last attempt                       (`retried_of_passed`, …)
    a lifted program has the parts of the program          (`Triple.lift_bind`, …)
-/
import CortxCsm.Lib.Triple

/-- What goes wrong with an operation. -/
inductive Fault (ε : Type)
  /-- It does not happen, and `e` is raised where it was awaited. -/
  | fails (e : ε)
  /-- It happens, and `e` is raised where it was awaited. -/
  | lost (e : ε)

variable {Op : Type} {Ans : Op → Type} {σ ε α β τ ρ : Type}

/-- `M`, with at most one fault armed.  An operation that is `atomic` has not happened
when its coroutine gets an exception. -/
def Machine.faulty (M : Machine Op Ans σ ε ρ) (atomic : Op → Bool) :
    Machine Op Ans (σ × Option (Fault ε)) ε (ρ ⊕ Fault ε) where
  exec op s :=
    match s.2 with
    | none => (M.exec op s.1).map fun rs => (rs.1, rs.2, none)
    | some (.fails e) => some (.error e, s.1, none)
    | some (.lost e) =>
        if atomic op then some (.error e, s.1, none)
        else (M.exec op s.1).map fun rs => (.error e, rs.2, none)
  env r s :=
    match r with
    | .inl r => (M.env r s.1, s.2)
    | .inr fault => (s.1, some fault)

/-- An operation happens as it does in `M`, or leaves the state and raises, or happens
and raises if it is not atomic. -/
theorem Machine.faulty_exec {M : Machine Op Ans σ ε ρ} {atomic : Op → Bool} {op : Op}
    {s s' : σ × Option (Fault ε)} {r : Except ε (Ans op)}
    (h : (M.faulty atomic).exec op s = some (r, s')) :
    M.exec op s.1 = some (r, s'.1) ∨
      (s'.1 = s.1 ∧ ∃ e, r = .error e) ∨
        (atomic op = false ∧ ∃ e r₀, r = .error e ∧ M.exec op s.1 = some (r₀, s'.1)) := by
  obtain ⟨s, armed⟩ := s
  have hhappens : ∀ {g : Except ε (Ans op) → Except ε (Ans op)},
      (M.exec op s).map (fun rs => (g rs.1, rs.2, (none : Option (Fault ε)))) = some (r, s') →
        ∃ r₀, M.exec op s = some (r₀, s'.1) ∧ r = g r₀ := by
    intro g he
    obtain ⟨rs, hrs, heq⟩ := Option.map_eq_some_iff.mp he
    cases heq
    exact ⟨rs.1, hrs, rfl⟩
  cases armed with
  | none =>
      obtain ⟨r₀, he, hr⟩ := hhappens (g := fun r => r) h
      exact .inl (hr ▸ he)
  | some fault =>
      cases fault with
      | fails e =>
          cases h
          exact .inr (.inl ⟨rfl, e, rfl⟩)
      | lost e =>
          cases ha : atomic op with
          | true =>
              simp only [Machine.faulty, ha, if_true, Option.some.injEq, Prod.mk.injEq] at h
              obtain ⟨rfl, rfl⟩ := h
              exact .inr (.inl ⟨rfl, e, rfl⟩)
          | false =>
              simp only [Machine.faulty, ha, Bool.false_eq_true, if_false] at h
              obtain ⟨r₀, he, hr⟩ := hhappens (g := fun _ => .error e) h
              exact .inr (.inr ⟨rfl, e, r₀, hr, he⟩)

/-! ## Trying again -/

section Retries

variable (fails : Nat → Bool)

/-- Where the first attempt that does not fail leaves the count, if it is one of the next
`left`. -/
def passed : Nat → Nat → Option Nat
  | 0, _ => none
  | left + 1, n => if fails n then passed left (n + 1) else some (n + 1)

/-- Up to `left` attempts, of which the one at `n` raises `e` if `fails n`; what the last one
raises is raised.  A loop without attempts falls through. -/
def retried (e : ε) (fallThrough : Except ε α) (attempt : σ → Option (Except ε α × σ)) :
    Nat → σ × Nat → Option (Except ε α × (σ × Nat))
  | 0, s => some (fallThrough, s)
  | left + 1, s =>
      if fails s.2 then
        if left = 0 then some (.error e, s.1, s.2 + 1)
        else retried e fallThrough attempt left (s.1, s.2 + 1)
      else (attempt s.1).map fun r => (r.1, r.2, s.2 + 1)

variable {fails}

theorem passed_eq_none : ∀ {left n : Nat},
    passed fails left n = none ↔ ∀ k < left, fails (n + k) = true
  | 0, _ => ⟨fun _ k hk => absurd hk (Nat.not_lt_zero k), fun _ => rfl⟩
  | left + 1, n => by
      rw [passed]
      split
      · rename_i hn
        rw [passed_eq_none]
        refine ⟨fun h k hk => ?_, fun h k hk => ?_⟩
        · cases k with
          | zero => exact hn
          | succ k =>
              have hk' := h k (Nat.lt_of_succ_lt_succ hk)
              rwa [Nat.add_right_comm] at hk'
        · have hk' := h (k + 1) (Nat.succ_lt_succ hk)
          rwa [Nat.add_right_comm]
      · rename_i hn
        exact ⟨fun h => (Option.some_ne_none _ h).elim, fun h => absurd (h 0 (Nat.succ_pos _)) hn⟩

theorem retried_of_passed {e : ε} {fallThrough : Except ε α}
    {attempt : σ → Option (Except ε α × σ)} : ∀ {left n m : Nat} {s : σ},
    passed fails left n = some m →
      retried fails e fallThrough attempt left (s, n) =
        (attempt s).map fun r => (r.1, r.2, m)
  | 0, _, _, _, h => nomatch h
  | left + 1, n, m, s, h => by
      rw [passed] at h
      rw [retried]
      split at h
      · rename_i hn
        have hleft : left ≠ 0 := by
          rintro rfl
          cases h
        rw [if_pos hn, if_neg hleft]
        exact retried_of_passed h
      · rename_i hn
        cases h
        rw [if_neg hn]

theorem retried_of_not_passed {e : ε} {fallThrough : Except ε α}
    {attempt : σ → Option (Except ε α × σ)} : ∀ {left n : Nat} {s : σ},
    passed fails left n = none →
      retried fails e fallThrough attempt left (s, n) =
        some (if left = 0 then fallThrough else .error e, s, n + left)
  | 0, _, _, _ => rfl
  | left + 1, n, s, h => by
      rw [passed] at h
      rw [retried]
      split at h
      · rename_i hn
        rw [if_pos hn, if_neg (Nat.succ_ne_zero left)]
        split
        · rename_i hleft
          rw [hleft]
        · rename_i hleft
          rw [retried_of_not_passed h, if_neg hleft, Nat.add_right_comm, Nat.add_assoc]
      · cases h

end Retries

namespace Coro

/-- The program over the state with something beside it that it does not touch. -/
def lift : Coro Op Ans σ ε α → Coro Op Ans (σ × τ) ε α
  | .ret a => .ret a
  | .raise e => .raise e
  | .sync u k => .sync (fun s => (u s.1, s.2)) fun s => (k s.1).lift
  | .await op k => .await op fun r => (k r).lift

theorem lift_graft (k : Except ε α → Coro Op Ans σ ε β) : ∀ p : Coro Op Ans σ ε α,
    ((p.graft k).lift : Coro Op Ans (σ × τ) ε β) = p.lift.graft fun r => (k r).lift
  | .ret _ => rfl
  | .raise _ => rfl
  | .sync _ n => congrArg (Coro.sync _) (funext fun s => lift_graft k (n s.1))
  | .await op n => congrArg (Coro.await op) (funext fun r => lift_graft k (n r))

theorem lift_bind (f : α → Coro Op Ans σ ε β) (p : Coro Op Ans σ ε α) :
    ((p.bind f).lift : Coro Op Ans (σ × τ) ε β) = p.lift.bind fun a => (f a).lift := by
  rw [graft_bind, lift_graft, graft_bind]
  refine congrArg p.lift.graft (funext fun r => ?_)
  cases r with
  | ok a => rfl
  | error e => rfl

theorem lift_ensure (fin : Coro Op Ans σ ε Unit) (p : Coro Op Ans σ ε α) :
    ((p.ensure fin).lift : Coro Op Ans (σ × τ) ε α) = p.lift.ensure fin.lift := by
  rw [graft_ensure, lift_graft, graft_ensure]
  refine congrArg p.lift.graft (funext fun r => ?_)
  cases r with
  | ok a => exact lift_bind _ fin
  | error e => exact lift_bind _ fin

section Solo

variable {M : Machine Op Ans (σ × τ) ε ρ} {p : Coro Op Ans σ ε α} {f : α → Coro Op Ans σ ε β}
  {s s' : σ × τ}

theorem solo_lift_bind_ok {a : α} (h : p.lift.solo M s = some (.ok a, s')) :
    (p >>= f).lift.solo M s = (f a).lift.solo M s' := by
  show (p.bind f).lift.solo M s = _
  rw [lift_bind, solo_bind, h]

theorem solo_lift_bind_error {e : ε} (h : p.lift.solo M s = some (.error e, s')) :
    (p >>= f).lift.solo M s = some (.error e, s') := by
  show (p.bind f).lift.solo M s = _
  rw [lift_bind, solo_bind, h]

theorem solo_lift_call {op : Op} {r : Except ε (Ans op)} (h : M.exec op s = some (r, s')) :
    (call op : Coro Op Ans σ ε (Ans op)).lift.solo M s = some (r, s') := by
  simp only [call, lift, solo, h]
  cases r with
  | ok a => rfl
  | error e => rfl

end Solo

end Coro

namespace Contract.Triple

variable {ι Γ : Type} {K : Contract ι Op Ans (σ × τ) ε Γ}
variable {M : Machine Op Ans (σ × τ) ε ρ} {i : ι}
variable {P : World ι Op Ans (σ × τ) ε × Γ → Prop}
variable {R R' : α → World ι Op Ans (σ × τ) ε × Γ → Prop}
variable {E E' : ε → World ι Op Ans (σ × τ) ε × Γ → Prop}

theorem lift_bind {S : β → World ι Op Ans (σ × τ) ε × Γ → Prop} {p : Coro Op Ans σ ε β}
    {f : β → Coro Op Ans σ ε α} (hp : K.Triple M i P p.lift S E)
    (hf : ∀ v, K.Triple M i (S v) (f v).lift R E) : K.Triple M i P (p >>= f).lift R E := by
  show K.Triple M i P (p.bind f).lift R E
  rw [Coro.lift_bind]
  exact hp.bind hf

theorem lift_map {S : β → World ι Op Ans (σ × τ) ε × Γ → Prop} {f : α → β}
    {p : Coro Op Ans σ ε α} (hp : K.Triple M i P p.lift (fun v => S (f v)) E) :
    K.Triple M i P (f <$> p).lift S E := by
  rw [← bind_pure_comp]
  exact lift_bind hp fun v => ret fun _ _ h => h

theorem lift_raiseIf {cond : Prop} [Decidable cond] {e : ε}
    {R : Unit → World ι Op Ans (σ × τ) ε × Γ → Prop}
    (he : cond → ∀ a, K.inv a.1 a.2 → P a → E e a)
    (hok : ¬ cond → ∀ a, K.inv a.1 a.2 → P a → R () a) :
    K.Triple M i P (Coro.raiseIf cond e : Coro Op Ans σ ε Unit).lift R E := by
  unfold Coro.raiseIf
  split
  · rename_i h
    exact raise (he h)
  · rename_i h
    exact ret (hok h)

theorem lift_call {op : Op} {R : Ans op → World ι Op Ans (σ × τ) ε × Γ → Prop}
    (h : K.Triple M i P (Coro.call op) R E) :
    K.Triple M i P (Coro.call op : Coro Op Ans σ ε (Ans op)).lift R E := by
  have hcall : (Coro.call op : Coro Op Ans σ ε (Ans op)).lift =
      (Coro.call op : Coro Op Ans (σ × τ) ε (Ans op)) :=
    congrArg (Coro.await op) (funext fun r => by cases r <;> rfl)
  rw [hcall]
  exact h

/-- One step of `sync` code, which leaves what is beside the state alone. -/
theorem lift_sync {u : σ → σ} {f : σ → α}
    (h : ∀ w x, K.inv w x → P (w, x) →
      ∃ x', K.inv { w with state := (u w.state.1, w.state.2) } x' ∧
        K.guar i (w, x) ({ w with state := (u w.state.1, w.state.2) }, x') ∧
          R (f w.state.1) ({ w with state := (u w.state.1, w.state.2) }, x')) :
    K.Triple M i P (Coro.sync u fun s => .ret (f s) : Coro Op Ans σ ε α).lift R E :=
  sync (u := fun s : σ × τ => (u s.1, s.2)) (f := fun s : σ × τ => f s.1) h

theorem lift_read {f : σ → α} (h : ∀ w x, K.inv w x → P (w, x) → R (f w.state.1) (w, x)) :
    K.Triple M i P (Coro.read f : Coro Op Ans σ ε α).lift R E :=
  read (f := fun s : σ × τ => f s.1) h

/-- `J xs` before the iterations over `xs`. -/
theorem lift_forM {f : β → Coro Op Ans σ ε Unit}
    {J : List β → World ι Op Ans (σ × τ) ε × Γ → Prop}
    (hcons : ∀ y ys, K.Triple M i (J (y :: ys)) (f y).lift (fun _ => J ys) E) :
    ∀ ys, K.Triple M i (J ys) (ys.forM f).lift (fun _ => J []) E
  | [] => ret fun _ _ h => h
  | y :: ys => by
      rw [List.forM_eq_forM, List.forM_cons]
      exact lift_bind (hcons y ys) fun _ => lift_forM hcons ys

theorem lift_ensure {fin : Coro Op Ans σ ε Unit} {p : Coro Op Ans σ ε α}
    (hp : K.Triple M i P p.lift R' E')
    (hok : ∀ v, K.Triple M i (R' v) fin.lift (fun _ => R v) E)
    (herr : ∀ e, K.Triple M i (E' e) fin.lift (fun _ => E e) E) :
    K.Triple M i P (p.ensure fin).lift R E := by
  rw [Coro.lift_ensure]
  exact hp.ensure hok herr

end Contract.Triple
