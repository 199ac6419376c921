/-
# `CortxCsm.Lib.Sequence` — calls one after the other

A `Trace` is what a run without interleaving leaves behind: the state, and one `Visit`
for each call, with the states on both sides of it.  Between two calls the environment
acts.

A triple of `CortxCsm.Lib.Triple` says something of such runs too: under the contract
`Contract.alone`, by which nobody else ever steps, every assertion is stable, and the
postcondition holds where a solo run ends.

`Completes` says that it does end: alone from a state, a program comes to an end, and how.

**Proved here.**

    what every turn keeps holds of every trace             (`Trace.run_induction`)
    triples hold of solo runs                              (`Contract.Triple.solo`)
    rules for runs that end                                (`Completes.bind`, `Completes.forM`, …)
    calls that always end are all visited                  (`Trace.run_completes`)
-/
import CortxCsm.Lib.Triple

variable {Op : Type} {Ans : Op → Type} {σ ε α κ ρ : Type}

/-- One call of a run. -/
structure Visit (κ σ ε α : Type) where
  call : κ
  before : σ
  result : Except ε α
  after : σ

inductive Turn (κ ρ : Type)
  | call (c : κ)
  | env (r : ρ)

namespace Turn

/-- The calls that are made. -/
def calls : List (Turn κ ρ) → List κ
  | [] => []
  | .call c :: turns => c :: calls turns
  | .env _ :: turns => calls turns

@[simp] theorem calls_append : ∀ ts us : List (Turn κ ρ), calls (ts ++ us) = calls ts ++ calls us
  | [], _ => rfl
  | .call c :: ts, us => congrArg (c :: ·) (calls_append ts us)
  | .env _ :: ts, us => calls_append ts us

end Turn

structure Trace (κ σ ε α : Type) where
  visits : List (Visit κ σ ε α)
  state : σ

namespace Trace

def start (s : σ) : Trace κ σ ε α := ⟨[], s⟩

/-- The trace once the call `c` has ended with `r` in the state `s`. -/
def visit (t : Trace κ σ ε α) (c : κ) (r : Except ε α) (s : σ) : Trace κ σ ε α :=
  ⟨t.visits ++ [⟨c, t.state, r, s⟩], s⟩

@[simp] theorem visit_visits (t : Trace κ σ ε α) (c : κ) (r : Except ε α) (s : σ) :
    (t.visit c r s).visits = t.visits ++ [⟨c, t.state, r, s⟩] := rfl

variable (M : Machine Op Ans σ ε ρ) (prog : κ → Coro Op Ans σ ε α)

/-- One call, from start to end, or one act of the environment.  A call that would have to
wait is left out: alone, it would wait for ever. -/
def turn (t : Trace κ σ ε α) : Turn κ ρ → Trace κ σ ε α
  | .env r => ⟨t.visits, M.env r t.state⟩
  | .call c =>
      match (prog c).solo M t.state with
      | none => t
      | some (r, s) => t.visit c r s

def run (t : Trace κ σ ε α) (turns : List (Turn κ ρ)) : Trace κ σ ε α :=
  turns.foldl (turn M prog) t

variable {M prog}

theorem run_append (t : Trace κ σ ε α) (ts us : List (Turn κ ρ)) :
    run M prog t (ts ++ us) = run M prog (run M prog t ts) us := List.foldl_append

/-- What every turn keeps holds of every trace. -/
theorem run_induction {Inv : Trace κ σ ε α → Prop}
    (henv : ∀ t r, Inv t → Inv ⟨t.visits, M.env r t.state⟩)
    (hcall : ∀ t c r s, Inv t → (prog c).solo M t.state = some (r, s) → Inv (t.visit c r s))
    {t : Trace κ σ ε α} (ht : Inv t) (turns : List (Turn κ ρ)) : Inv (run M prog t turns) := by
  induction turns generalizing t with
  | nil => exact ht
  | cons u turns ih =>
      refine ih ?_
      cases u with
      | env r => exact henv t r ht
      | call c =>
          simp only [turn]
          cases h : (prog c).solo M t.state with
          | none => exact ht
          | some rs => exact hcall t c rs.1 rs.2 ht h

end Trace

/-! ## Solo runs that end -/

section Completes

variable {β γ : Type} {M : Machine Op Ans σ ε ρ} {s : σ} {p : Coro Op Ans σ ε α}
  {Q Q' : Except ε α → σ → Prop}

/-- Alone from `s`, `p` comes to an end, and `Q` says how. -/
def Completes (M : Machine Op Ans σ ε ρ) (s : σ) (p : Coro Op Ans σ ε α)
    (Q : Except ε α → σ → Prop) : Prop :=
  ∃ r s', p.solo M s = some (r, s') ∧ Q r s'

/-- It returns, and `R` says what. -/
def Returning (R : α → σ → Prop) : Except ε α → σ → Prop
  | .ok a, s => R a s
  | .error _, _ => False

namespace Completes

theorem mono (h : Completes M s p Q) (hQ : ∀ r s', Q r s' → Q' r s') : Completes M s p Q' := by
  obtain ⟨r, s', he, hq⟩ := h
  exact ⟨r, s', he, hQ r s' hq⟩

theorem ends (h : Completes M s p Q) {r : Except ε α} {s' : σ}
    (he : p.solo M s = some (r, s')) : Q r s' := by
  obtain ⟨r', s'', he', hq⟩ := h
  cases he'.symm.trans he
  exact hq

theorem ret {a : α} (h : Q (.ok a) s) : Completes M s (.ret a) Q := ⟨_, _, rfl, h⟩

theorem raise {e : ε} (h : Q (.error e) s) : Completes M s (.raise e) Q := ⟨_, _, rfl, h⟩

theorem read_bind {f : σ → β} {g : β → Coro Op Ans σ ε α} (h : Completes M s (g (f s)) Q) :
    Completes M s (Coro.read f >>= g) Q := h

theorem write_bind {u : σ → σ} {g : Unit → Coro Op Ans σ ε α} (h : Completes M (u s) (g ()) Q) :
    Completes M s (Coro.write u >>= g) Q := h

theorem call_bind {op : Op} {v : Ans op} {s' : σ} {g : Ans op → Coro Op Ans σ ε α}
    (he : M.exec op s = some (.ok v, s')) (h : Completes M s' (g v) Q) :
    Completes M s (Coro.call op >>= g) Q := by
  obtain ⟨r, t, hsolo, hq⟩ := h
  refine ⟨r, t, ?_, hq⟩
  rw [Coro.solo_call_bind, he]
  exact hsolo

/-- What comes after is run from where the first part returns. -/
theorem bind_or {q : Coro Op Ans σ ε β} {f : β → Coro Op Ans σ ε α}
    (h : Completes M s q fun r s' => match r with
      | .ok b => Completes M s' (f b) Q
      | .error e => Q (.error e) s') : Completes M s (q >>= f) Q := by
  obtain ⟨r, s', he, hr⟩ := h
  cases r with
  | ok b =>
      obtain ⟨r', t, hsolo, hq⟩ := hr
      exact ⟨r', t, (Coro.solo_bind_ok he).trans hsolo, hq⟩
  | error e => exact ⟨.error e, s', Coro.solo_bind_error he, hr⟩

theorem bind {R : β → σ → Prop} {q : Coro Op Ans σ ε β} {f : β → Coro Op Ans σ ε α}
    (h : Completes M s q (Returning R)) (hf : ∀ b s', R b s' → Completes M s' (f b) Q) :
    Completes M s (q >>= f) Q := by
  refine bind_or (h.mono fun r s' hr => ?_)
  cases r with
  | ok b => exact hf b s' hr
  | error e => exact False.elim hr

theorem map {f : β → α} {q : Coro Op Ans σ ε β} (h : Completes M s q fun r s' => Q (r.map f) s') :
    Completes M s (f <$> q) Q := by
  rw [← bind_pure_comp]
  refine bind_or (h.mono fun r s' hr => ?_)
  cases r with
  | ok b => exact ret hr
  | error e => exact hr

/-- A loop; `J` is what holds when the elements `xs` are still to come. -/
theorem forM {J : List γ → σ → Prop} {f : γ → Coro Op Ans σ ε Unit}
    (hf : ∀ x xs s, J (x :: xs) s → Completes M s (f x) (Returning fun _ => J xs)) :
    ∀ (xs : List γ) {s : σ}, J xs s → Completes M s (xs.forM f) (Returning fun _ => J [])
  | [], _, h => ret h
  | x :: xs, s, h => (hf x xs s h).bind fun _ _ hrest => forM hf xs hrest

end Completes

/-- When every call ends, and every turn keeps `Inv`, all calls are visited. -/
theorem Trace.run_completes {prog : κ → Coro Op Ans σ ε α} {Inv : Trace κ σ ε α → Prop}
    (henv : ∀ t r, Inv t → Inv ⟨t.visits, M.env r t.state⟩)
    (hcall : ∀ t c, Inv t → Completes M t.state (prog c) fun r s => Inv (t.visit c r s))
    {t : Trace κ σ ε α} (ht : Inv t) (turns : List (Turn κ ρ)) :
    Inv (run M prog t turns) ∧
      (run M prog t turns).visits.map Visit.call = t.visits.map Visit.call ++ Turn.calls turns := by
  induction turns generalizing t with
  | nil => exact ⟨ht, (List.append_nil _).symm⟩
  | cons u turns ih =>
      cases u with
      | env r => exact ih (henv t r ht)
      | call c =>
          obtain ⟨r, s, he, hinv⟩ := hcall t c ht
          have hturn : turn M prog t (.call c) = t.visit c r s := by
            simp only [turn, he]
          obtain ⟨hrest, hcalls⟩ := ih hinv
          have hrun : run M prog t (.call c :: turns) = run M prog (t.visit c r s) turns :=
            congrArg (List.foldl (turn M prog) · turns) hturn
          rw [hrun]
          refine ⟨hrest, hcalls.trans ?_⟩
          simp [Turn.calls]

end Completes

/-! ## Triples of solo runs -/

namespace Contract

/-- The contract of a coroutine that runs alone. -/
def alone (Op : Type) (Ans : Op → Type) (σ ε : Type) : Contract Unit Op Ans σ ε Unit where
  inv _ _ := True
  rely _ a b := a = b
  may _ _ _ := True
  refl _ _ := rfl
  trans _ _ _ _ h h' := h.trans h'

variable {M : Machine Op Ans σ ε ρ}

theorem alone_stable (P : World Unit Op Ans σ ε × Unit → Prop) :
    (alone Op Ans σ ε).Stable () P := fun _ _ h e => e ▸ h

theorem alone_guar (a b : World Unit Op Ans σ ε × Unit) : (alone Op Ans σ ε).guar () a b :=
  fun _ hj => absurd rfl hj

/-- A weakest precondition computes the solo run. -/
theorem wp_solo {Q : Except ε α → World Unit Op Ans σ ε × Unit → World Unit Op Ans σ ε → Prop} :
    ∀ {p : Coro Op Ans σ ε α} {b : World Unit Op Ans σ ε × Unit} {w : World Unit Op Ans σ ε}
      {r : Except ε α} {s : σ}, (alone Op Ans σ ε).wp M () Q p b w →
        p.solo M w.state = some (r, s) → ∃ b' w', w'.state = s ∧ Q r b' w'
  | .ret a, b, w, r, s, h, he => by
      cases he
      exact ⟨b, w, rfl, h⟩
  | .raise e, b, w, r, s, h, he => by
      cases he
      exact ⟨b, w, rfl, h⟩
  | .sync u k, b, w, r, s, h, he => wp_solo (p := k w.state) h he
  | .await op k, b, w, r, s, h, he => by
      obtain ⟨x, _, _, ha⟩ := h
      rw [Coro.solo] at he
      cases hx : M.exec op w.state with
      | none =>
          rw [hx] at he
          cases he
      | some rs =>
          rw [hx] at he
          obtain ⟨x₂, _, _, hk⟩ := ha w x trivial rfl trivial rs.1 rs.2 hx
          exact wp_solo (p := k rs.1) (hk _ x₂ trivial rfl) he

namespace Triple

variable {P : σ → Prop} {R : α → σ → Prop} {E : ε → σ → Prop}

/-- Alone, an operation needs no stability. -/
theorem callAlone {op : Op} {R : Ans op → σ → Prop}
    (hop : ∀ s r s', P s → M.exec op s = some (r, s') → match r with
      | .ok v => R v s'
      | .error e => E e s') :
    (alone Op Ans σ ε).Triple M () (fun a => P a.1.state) (Coro.call op)
      (fun v a => R v a.1.state) fun e a => E e a.1.state := by
  refine call (alone_stable _) (fun _ => alone_stable _) (fun _ => alone_stable _) ?_
  intro w x r s' _ hp _ he
  refine ⟨(), trivial, alone_guar _ _, ?_⟩
  have h := hop w.state r s' hp he
  cases r with
  | ok v => exact h
  | error e => exact h

/-- Alone, a step of `sync` code owes nothing. -/
theorem syncAlone {u : σ → σ} {f : σ → α} (h : ∀ s, P s → R (f s) (u s)) :
    (alone Op Ans σ ε).Triple M () (fun a => P a.1.state) (Coro.sync u fun s => .ret (f s))
      (fun v a => R v a.1.state) fun e a => E e a.1.state :=
  .sync fun w _ _ hp => ⟨(), trivial, alone_guar _ _, h w.state hp⟩

/-- **Solo runs.**  A triple's postcondition holds where the program ends when it runs
alone. -/
theorem solo {p : Coro Op Ans σ ε α}
    (h : (alone Op Ans σ ε).Triple M () (fun a => P a.1.state) p (fun v a => R v a.1.state)
      fun e a => E e a.1.state) {s s' : σ} {r : Except ε α} (hP : P s)
    (he : p.solo M s = some (r, s')) : match r with
      | .ok v => R v s'
      | .error e => E e s' := by
  obtain ⟨b, w, rfl, x, _, _, hpost⟩ :=
    wp_solo (h (⟨s, []⟩, ()) ⟨s, []⟩ ⟨(), trivial, alone_guar _ _, hP⟩) he
  cases r with
  | ok v => exact hpost
  | error e => exact hpost

end Triple

end Contract
