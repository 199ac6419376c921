/-
# `CortxCsm.Lib.Relational` — two programs side by side

`Pair M N P p q Q E`: from states related by `P`, `p` over the machine `M` and `q` over `N`
both come to an end when they run alone, either with values related by `Q` and the states
they leave, or both with the same exception and states related by `E`.  With `p = q` and
`M = N` this says in particular that the program does come to an end.

A bind is related part by part, a loop element by element over lists related by
`List.Forall₂`; tables are related row by row, and their operations follow.

**Proved here.**

    rules for each construct of a coroutine     (`Pair.bind`, `Pair.forM`, …)
    related tables: look-up, upsert, removal    (`Table.Rows.find?`, …)
-/
import CortxCsm.Lib.Coroutine
import CortxCsm.Lib.Table
import Mathlib.Data.List.Forall2

variable {Op : Type} {Ans : Op → Type} {σ τ ε α β γ δ ρ : Type}

/-- How two runs end together. -/
def EndTogether (Q : α → β → σ → τ → Prop) (E : σ → τ → Prop) :
    Option (Except ε α × σ) → Option (Except ε β × τ) → Prop
  | some (.ok a, s), some (.ok b, t) => Q a b s t
  | some (.error e, s), some (.error e', t) => e = e' ∧ E s t
  | _, _ => False

/-- See the header. -/
def Pair (M : Machine Op Ans σ ε ρ) (N : Machine Op Ans τ ε ρ) (P : σ → τ → Prop)
    (p : Coro Op Ans σ ε α) (q : Coro Op Ans τ ε β) (Q : α → β → σ → τ → Prop)
    (E : σ → τ → Prop) : Prop :=
  ∀ s t, P s t → EndTogether Q E (p.solo M s) (q.solo N t)

theorem EndTogether.mono {Q Q' : α → β → σ → τ → Prop} {E E' : σ → τ → Prop}
    (hQ : ∀ a b s t, Q a b s t → Q' a b s t) (hE : ∀ s t, E s t → E' s t) :
    ∀ {x : Option (Except ε α × σ)} {y : Option (Except ε β × τ)},
      EndTogether Q E x y → EndTogether Q' E' x y
  | some (.ok _, _), some (.ok _, _), h => hQ _ _ _ _ h
  | some (.error _, _), some (.error _, _), h => ⟨h.1, hE _ _ h.2⟩

/-- Both end, with the same result. -/
theorem EndTogether.same {I : σ → τ → Prop} :
    ∀ {x : Option (Except ε α × σ)} {y : Option (Except ε α × τ)},
      EndTogether (fun a b s t => a = b ∧ I s t) I x y →
        ∃ r s t, x = some (r, s) ∧ y = some (r, t) ∧ I s t
  | some (.ok a, s), some (.ok _, t), ⟨h, hi⟩ => ⟨.ok a, s, t, rfl, h ▸ rfl, hi⟩
  | some (.error e, s), some (.error _, t), ⟨h, hi⟩ => ⟨.error e, s, t, rfl, h ▸ rfl, hi⟩

namespace Pair

variable {M : Machine Op Ans σ ε ρ} {N : Machine Op Ans τ ε ρ} {P P' : σ → τ → Prop}
  {Q Q' : α → β → σ → τ → Prop} {E E' : σ → τ → Prop}

theorem conseq {p : Coro Op Ans σ ε α} {q : Coro Op Ans τ ε β} (h : Pair M N P p q Q E)
    (hP : ∀ s t, P' s t → P s t) (hQ : ∀ a b s t, Q a b s t → Q' a b s t)
    (hE : ∀ s t, E s t → E' s t) : Pair M N P' p q Q' E' :=
  fun s t hp => (h s t (hP s t hp)).mono hQ hE

theorem pre {p : Coro Op Ans σ ε α} {q : Coro Op Ans τ ε β} (h : Pair M N P p q Q E)
    (hP : ∀ s t, P' s t → P s t) : Pair M N P' p q Q E :=
  h.conseq hP (fun _ _ _ _ hq => hq) fun _ _ he => he

theorem weaken {p : Coro Op Ans σ ε α} {q : Coro Op Ans τ ε β} (h : Pair M N P p q Q E)
    (hQ : ∀ a b s t, Q a b s t → Q' a b s t) (hE : ∀ s t, E s t → E' s t) :
    Pair M N P p q Q' E' :=
  h.conseq (fun _ _ hp => hp) hQ hE

theorem ret {a : α} {b : β} (h : ∀ s t, P s t → Q a b s t) :
    Pair M N P (.ret a) (.ret b) Q E := h

theorem raise {e : ε} (h : ∀ s t, P s t → E s t) :
    Pair M N P (.raise e : Coro Op Ans σ ε α) (.raise e : Coro Op Ans τ ε β) Q E :=
  fun s t hp => ⟨rfl, h s t hp⟩

theorem bind {R : γ → δ → σ → τ → Prop} {p : Coro Op Ans σ ε γ} {q : Coro Op Ans τ ε δ}
    {f : γ → Coro Op Ans σ ε α} {g : δ → Coro Op Ans τ ε β} (hp : Pair M N P p q R E)
    (hf : ∀ a b, Pair M N (R a b) (f a) (g b) Q E) : Pair M N P (p >>= f) (q >>= g) Q E := by
  intro s t h
  have hpq := hp s t h
  show EndTogether Q E ((p.bind f).solo M s) ((q.bind g).solo N t)
  rw [Coro.solo_bind, Coro.solo_bind]
  match p.solo M s, q.solo N t, hpq with
  | some (.ok a, s'), some (.ok b, t'), hr => exact hf a b s' t' hr
  | some (.error _, _), some (.error _, _), he => exact he

theorem map {R : γ → δ → σ → τ → Prop} {f : γ → α} {g : δ → β} {p : Coro Op Ans σ ε γ}
    {q : Coro Op Ans τ ε δ} (hp : Pair M N P p q R E)
    (hf : ∀ a b s t, R a b s t → Q (f a) (g b) s t) :
    Pair M N P (f <$> p) (g <$> q) Q E := by
  rw [← bind_pure_comp, ← bind_pure_comp]
  exact hp.bind fun a b => ret fun s t h => hf a b s t h

/-- A precondition that fixes facts outside the states. -/
theorem of_fact {p : Coro Op Ans σ ε α} {q : Coro Op Ans τ ε β} {f : Prop}
    (hp : ∀ s t, P s t → f) (h : f → Pair M N P p q Q E) : Pair M N P p q Q E :=
  fun s t hst => h (hp s t hst) s t hst

theorem sync {u : σ → σ} {v : τ → τ} {f : σ → α} {g : τ → β}
    (h : ∀ s t, P s t → Q (f s) (g t) (u s) (v t)) :
    Pair M N P (.sync u fun s => .ret (f s)) (.sync v fun t => .ret (g t)) Q E := h

theorem read {f : σ → α} {g : τ → β} (h : ∀ s t, P s t → Q (f s) (g t) s t) :
    Pair M N P (Coro.read f) (Coro.read g) Q E := h

theorem write {u : σ → σ} {v : τ → τ} {Q : Unit → Unit → σ → τ → Prop}
    (h : ∀ s t, P s t → Q () () (u s) (v t)) :
    Pair M N P (Coro.write u) (Coro.write v) Q E := h

theorem call {op op' : Op} {Q : Ans op → Ans op' → σ → τ → Prop}
    (h : ∀ s t, P s t → EndTogether Q E (M.exec op s) (N.exec op' t)) :
    Pair M N P (Coro.call op) (Coro.call op') Q E := by
  intro s t hp
  have hop := h s t hp
  simp only [Coro.call, Coro.solo]
  revert hop
  rcases M.exec op s with _ | ⟨_ | a, s'⟩ <;> rcases N.exec op' t with _ | ⟨_ | b, t'⟩ <;>
    exact id

/-- Both take the same branch. -/
theorem ite {c c' : Prop} [Decidable c] [Decidable c'] {p p' : Coro Op Ans σ ε α}
    {q q' : Coro Op Ans τ ε β} (hc : c ↔ c') (ht : c → Pair M N P p q Q E)
    (hf : ¬ c → Pair M N P p' q' Q E) :
    Pair M N P (if c then p else p') (if c' then q else q') Q E := by
  by_cases h : c
  · rw [if_pos h, if_pos (hc.mp h)]
    exact ht h
  · rw [if_neg h, if_neg fun h' => h (hc.mpr h')]
    exact hf h

/-- Loops over related lists. -/
theorem forM {R : γ → δ → Prop} {f : γ → Coro Op Ans σ ε Unit} {g : δ → Coro Op Ans τ ε Unit}
    (hf : ∀ x y, R x y → Pair M N P (f x) (g y) (fun _ _ => P) E) {xs : List γ} {ys : List δ}
    (h : List.Forall₂ R xs ys) : Pair M N P (xs.forM f) (ys.forM g) (fun _ _ => P) E := by
  induction h with
  | nil => exact ret fun _ _ hp => hp
  | cons hxy _ ih =>
      rw [List.forM_eq_forM, List.forM_eq_forM, List.forM_cons, List.forM_cons]
      exact (hf _ _ hxy).bind fun _ _ => ih

end Pair

/-! ## Tables -/

namespace Table

variable {κ : Type} [DecidableEq κ] {R : γ → δ → Prop} {key : γ → κ} {key' : δ → κ}

/-- The tables have related rows, in the same order, under the same keys. -/
def Rows (R : γ → δ → Prop) (t : Table key) (t' : Table key') : Prop :=
  List.Forall₂ (fun x y => key x = key' y ∧ R x y) t.rows t'.rows

namespace Rows

theorem find?_list {k : κ} {xs : List γ} {ys : List δ}
    (h : List.Forall₂ (fun x y => key x = key' y ∧ R x y) xs ys) :
    (xs.find? (fun x => key x = k) = none ∧ ys.find? (fun y => key' y = k) = none) ∨
      ∃ x y, xs.find? (fun x => key x = k) = some x ∧ ys.find? (fun y => key' y = k) = some y ∧
        R x y := by
  induction h with
  | nil => exact Or.inl ⟨rfl, rfl⟩
  | @cons x y xs ys hxy _ ih =>
      by_cases hk : key x = k
      · refine Or.inr ⟨x, y, ?_, ?_, hxy.2⟩
        · simp [hk]
        · simp [hxy.1 ▸ hk]
      · have hk' : key' y ≠ k := hxy.1 ▸ hk
        simpa [hk, hk'] using ih

/-- Both find a row, or neither. -/
theorem find? {t : Table key} {t' : Table key'} (h : Rows R t t') (k : κ) :
    (t.find? k = none ∧ t'.find? k = none) ∨
      ∃ x y, t.find? k = some x ∧ t'.find? k = some y ∧ R x y := find?_list h

theorem upsert_list {x : γ} {y : δ} (hxy : key x = key' y ∧ R x y) {xs : List γ} {ys : List δ}
    (h : List.Forall₂ (fun x y => key x = key' y ∧ R x y) xs ys) :
    List.Forall₂ (fun x y => key x = key' y ∧ R x y) (upsertList key x xs)
      (upsertList key' y ys) := by
  induction h with
  | nil => exact .cons hxy .nil
  | cons huv hrest ih =>
      unfold upsertList
      rw [huv.1, hxy.1]
      split
      · exact .cons hxy hrest
      · exact .cons huv ih

theorem upsert {t : Table key} {t' : Table key'} (h : Rows R t t') {x : γ} {y : δ}
    (hk : key x = key' y) (hxy : R x y) : Rows R (t.upsert x) (t'.upsert y) :=
  upsert_list ⟨hk, hxy⟩ h

theorem remove {t : Table key} {t' : Table key'} (h : Rows R t t') (k : κ) :
    Rows R (t.remove k) (t'.remove k) := by
  refine List.rel_filter (fun {x y} hxy => ?_) h
  simp [hxy.1]

omit [DecidableEq κ] in
theorem mono {R' : γ → δ → Prop} {t : Table key} {t' : Table key'} (h : Rows R t t')
    (hR : ∀ x ∈ t, ∀ y ∈ t', key x = key' y → R x y → R' x y) : Rows R' t t' := by
  refine List.forall₂_iff_zip.mpr ⟨h.length_eq, fun {x y} hz => ?_⟩
  have hxy := (List.forall₂_iff_zip.mp h).2 hz
  have hmem := List.of_mem_zip hz
  exact ⟨hxy.1, hR x hmem.1 y hmem.2 hxy.1 hxy.2⟩

end Rows

end Table
