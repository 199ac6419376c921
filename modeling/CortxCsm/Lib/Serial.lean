/-
# `CortxCsm.Lib.Serial` — when reads that are still true make a run serial

Programs that read a shared part of the state, write it at most once and then only
finish: read, decide, write.  Interleaved, such a program decides on answers that
may be out of date when it writes.  If they are not — if at each write every read of
its program would get an answer that is as good — the run is serializable: the shared
part is what the programs that returned leave when they are run alone, in the order of
their writes.

`Shared` says which part of the state is shared (`view`), which operations read and
write it, and which answers to a read are `Alike`.  `Tracks` ties a program under way to
its run alone: on every state that answers its reads as they were answered, what is left
of the program does the same.

**Proved here.**

    reading keeps the tie                                        (`readOnly_triple`)
    writing on true reads appends the program to the order       (`commit_triple`)
    the shared part is that of a serial run of those who returned (`serializable`)
-/
import CortxCsm.Lib.Triple
import Mathlib.Data.List.Nodup

section

variable {ι Op : Type} {Ans : Op → Type} {σ ε α β ρ V : Type}

/-! ## Running one after the other -/

/-- The programs `order`, one after the other, each alone and each returning. -/
def serialRun (M : Machine Op Ans σ ε ρ) (prog : ι → Coro Op Ans σ ε α) : σ → List ι → Option σ
  | s, [] => some s
  | s, i :: order =>
      match (prog i).solo M s with
      | some (.ok _, s') => serialRun M prog s' order
      | _ => none

theorem serialRun_concat {M : Machine Op Ans σ ε ρ} {prog : ι → Coro Op Ans σ ε α} {i : ι} {v : α}
    {t t' : σ} (ht : (prog i).solo M t = some (.ok v, t')) :
    ∀ {s : σ} {order : List ι}, serialRun M prog s order = some t →
      serialRun M prog s (order ++ [i]) = some t'
  | s, [], h => by
      cases h
      simp only [List.nil_append, serialRun, ht]
  | s, j :: order, h => by
      simp only [List.cons_append, serialRun] at h ⊢
      split at h
      · exact serialRun_concat ht h
      · cases h

/-- The shared part of the state, and the operations on it. -/
structure Shared (M : Machine Op Ans σ ε ρ) (V : Type) where
  view : σ → V
  Reads : Op → Prop
  Writes : Op → Prop
  /-- What a read shows: the shared part only. -/
  value : (op : Op) → Reads op → V → Ans op
  read_exec : ∀ op s (hr : Reads op), M.exec op s = some (.ok (value op hr (view s)), s)
  /-- Answers that are as good as each other. -/
  Alike : (op : Op) → Ans op → Ans op → Prop
  /-- What is not a write keeps the shared part. -/
  keep : ∀ op s r s', ¬ Writes op → M.exec op s = some (r, s') → view s' = view s
  /-- A write acts on the shared part. -/
  write_view : ∀ op s t r s', Writes op → view s = view t → M.exec op s = some (r, s') →
    ∃ t', M.exec op t = some (r, t') ∧ view t' = view s'

namespace Shared

variable {M : Machine Op Ans σ ε ρ} (S : Shared M V) (prog : ι → Coro Op Ans σ ε α)
variable (Free : σ → Prop) (s₀ : σ) (i : ι)

/-! ## The condition and the contract -/

/-- In `s`, every read of `i` would be answered like it was. -/
def Seen (w : World ι Op Ans σ ε) (s : σ) : Prop :=
  ∀ e ∈ w.hist, e.who = i → ∀ hr : S.Reads e.op,
    ∃ v, e.ans = .ok v ∧ S.Alike e.op v (S.value e.op hr (S.view s))

/-- What a run is asked at a write: that the reads of its program are true. -/
def WritesOnTrueReads (i : ι) (op : Op) (w : World ι Op Ans σ ε) : Prop :=
  S.Writes op → S.Seen i w w.state

instance [∀ op v v', Decidable (S.Alike op v v')] {op : Op} (v' : Ans op) :
    (r : Except ε (Ans op)) → Decidable (∃ v, r = .ok v ∧ S.Alike op v v')
  | .ok v => decidable_of_iff (S.Alike op v v') ⟨fun h => ⟨v, rfl, h⟩, fun ⟨_, hv, h⟩ => by
      cases hv
      exact h⟩
  | .error _ => isFalse fun ⟨_, hv, _⟩ => nomatch hv

instance [DecidableEq ι] [DecidablePred S.Reads] [DecidablePred S.Writes]
    [∀ op v v', Decidable (S.Alike op v v')] (op : Op) (w : World ι Op Ans σ ε) :
    Decidable (S.WritesOnTrueReads i op w) :=
  inferInstanceAs (Decidable (S.Writes op → ∀ e ∈ w.hist, e.who = i → ∀ hr : S.Reads e.op,
    ∃ v, e.ans = .ok v ∧ S.Alike e.op v (S.value e.op hr (S.view w.state))))

/-- The ghost value is the order of the writes; `Free` are the states in which a program
may be started alone. -/
def contract : Contract ι Op Ans σ ε (List ι) where
  inv w order := order.Nodup ∧ ∃ t, serialRun M prog s₀ order = some t ∧ Free t ∧ S.view t = S.view w.state
  rely i a b := (∃ es, b.1.hist = a.1.hist ++ es ∧ ∀ e ∈ es, e.who ≠ i) ∧ (i ∈ b.2 ↔ i ∈ a.2)
  may := S.WritesOnTrueReads
  refl i a := ⟨⟨[], by simp, by simp⟩, Iff.rfl⟩
  trans := by
    rintro i a b c ⟨⟨es, hes, hwho⟩, hab⟩ ⟨⟨fs, hfs, hwho'⟩, hbc⟩
    refine ⟨⟨es ++ fs, by rw [hfs, hes, List.append_assoc], ?_⟩, hbc.trans hab⟩
    intro e he
    exact (List.mem_append.mp he).elim (hwho e) (hwho' e)

/-- `i` has not written, and on every state with its answers it would, run alone up to
here, leave `q` in the state `g s`. -/
def Tracks (g : σ → σ) (q : Coro Op Ans σ ε α) (a : World ι Op Ans σ ε × List ι) : Prop :=
  i ∉ a.2 ∧ ∀ s, Free s → S.Seen i a.1 s → (prog i).solo M s = q.solo M (g s)

variable {S prog Free s₀ i}

theorem stable_mem : (S.contract prog Free s₀).Stable i fun a => i ∈ a.2 :=
  fun _ _ h hr => hr.2.mpr h

theorem stable_not_mem : (S.contract prog Free s₀).Stable i fun a => i ∉ a.2 :=
  fun _ _ h hr hb => h (hr.2.mp hb)

theorem Tracks.stable {g : σ → σ} {q : Coro Op Ans σ ε α} :
    (S.contract prog Free s₀).Stable i (S.Tracks prog Free i g q) := by
  rintro a b ⟨hni, hsolo⟩ ⟨⟨es, hes, _⟩, hiff⟩
  refine ⟨fun h => hni (hiff.mp h), fun s hf hseen => hsolo s hf fun e he => ?_⟩
  exact hseen e (hes ▸ List.mem_append_left _ he)

/-- An operation that keeps the shared part keeps the invariant and harms nobody. -/
theorem inv_answer {op : Op} {w : World ι Op Ans σ ε} {order : List ι} {r : Except ε (Ans op)}
    {s' : σ} (hi : (S.contract prog Free s₀).inv w order) (hv : S.view s' = S.view w.state) :
    (S.contract prog Free s₀).inv (w.answer i op r s') order ∧
      (S.contract prog Free s₀).guar i (w, order) (w.answer i op r s', order) := by
  obtain ⟨hnd, t, ht, hf, hvt⟩ := hi
  refine ⟨⟨hnd, t, ht, hf, hvt.trans hv.symm⟩, fun j hj => ?_⟩
  exact ⟨⟨[⟨i, op, w.state, r⟩], rfl, by simpa using hj.symm⟩, Iff.rfl⟩

/-! ## Reading -/

/-- `p` only reads, and what follows it, `f`, does not tell alike answers apart. -/
def ReadOnly (S : Shared M V) (f : β → Coro Op Ans σ ε α) : Coro Op Ans σ ε β → Prop
  | .ret _ => True
  | .raise _ => True
  | .sync _ _ => False
  | .await op k => S.Reads op ∧
      (∀ v v', S.Alike op v v' → (k (.ok v)).bind f = (k (.ok v')).bind f) ∧
      ∀ r, ReadOnly S f (k r)

theorem ReadOnly.bind {γ : Type} {p : Coro Op Ans σ ε γ} {g : γ → Coro Op Ans σ ε β}
    {f : β → Coro Op Ans σ ε α} (hp : S.ReadOnly (fun v => g v >>= f) p)
    (hg : ∀ v, S.ReadOnly f (g v)) : S.ReadOnly f (p >>= g) := by
  show S.ReadOnly f (p.bind g)
  induction p with
  | ret v => exact hg v
  | raise e => trivial
  | sync u k _ => exact hp.elim
  | await op k ih =>
      refine ⟨hp.1, fun v v' h => ?_, fun r => ih r (hp.2.2 r)⟩
      rw [Coro.bind_assoc, Coro.bind_assoc]
      exact hp.2.1 v v' h

theorem ReadOnly.call {op : Op} {f : Ans op → Coro Op Ans σ ε α} (h : S.Reads op)
    (hf : ∀ v v', S.Alike op v v' → f v = f v') :
    S.ReadOnly f (Coro.call op : Coro Op Ans σ ε _) :=
  ⟨h, hf, fun r => by cases r <;> trivial⟩

theorem ReadOnly.raiseIf {cond : Prop} [Decidable cond] {e : ε} {f : Unit → Coro Op Ans σ ε α} :
    S.ReadOnly f (Coro.raiseIf cond e : Coro Op Ans σ ε Unit) := by
  unfold Coro.raiseIf
  split <;> trivial

/-- `C` puts a piece of a program into the rest of it. -/
def Context (C : Coro Op Ans σ ε β → Coro Op Ans σ ε α) : Prop :=
  ∀ op k, C (.await op k) = .await op fun r => C (k r)

theorem Context.bind {γ : Type} {C : Coro Op Ans σ ε β → Coro Op Ans σ ε α} (hC : Context C)
    (f : γ → Coro Op Ans σ ε β) : Context fun p => C (p >>= f) :=
  fun op k => hC op fun r => k r >>= f

/-- A read-only piece and what follows it, anywhere in a program: `C` is what surrounds them. -/
theorem readOnly_triple {γ : Type} {g : σ → σ} (hg : ∀ s, S.view (g s) = S.view s)
    {C : Coro Op Ans σ ε β → Coro Op Ans σ ε α} (hC : Context C)
    {f : γ → Coro Op Ans σ ε β} :
    ∀ {p : Coro Op Ans σ ε γ}, S.ReadOnly f p →
      (S.contract prog Free s₀).Triple M i (S.Tracks prog Free i g (C (p.bind f))) p
        (fun v => S.Tracks prog Free i g (C (f v))) fun _ a => i ∉ a.2 := by
  intro p hp
  induction p with
  | ret v => exact .ret fun _ _ h => h
  | raise e => exact .raise fun _ _ h => h.1
  | sync u k _ => exact hp.elim
  | await op k ih =>
      refine .await (N := fun r => S.Tracks prog Free i g (C ((k r).bind f))) Tracks.stable
        (fun _ => Tracks.stable) ?_ fun r => ih r (hp.2.2 r)
      intro w order r s' hi ht _ he
      have hexec := S.read_exec op w.state hp.1
      rw [hexec, Option.some.injEq, Prod.mk.injEq] at he
      obtain ⟨rfl, rfl⟩ := he
      obtain ⟨hi', hg'⟩ := inv_answer hi rfl
      refine ⟨order, hi', hg', ht.1, fun s hf hseen => ?_⟩
      have hs := ht.2 s hf fun e he => hseen e (List.mem_append_left _ he)
      obtain ⟨v, hv, halike⟩ :=
        hseen _ (List.mem_append_right _ (List.mem_singleton_self _)) rfl hp.1
      cases hv
      -- the run alone may see another answer here, but not one the rest tells apart
      rw [hs, Coro.bind, hC]
      simp only [Coro.solo, S.read_exec op (g s) hp.1, hg s]
      rw [hp.2.1 _ _ halike]

/-- A read-only piece before the rest. -/
theorem read_bind {γ : Type} {g : σ → σ} (hg : ∀ s, S.view (g s) = S.view s)
    {C : Coro Op Ans σ ε β → Coro Op Ans σ ε α} (hC : Context C) {p : Coro Op Ans σ ε γ}
    {f : γ → Coro Op Ans σ ε β} {R : β → World ι Op Ans σ ε × List ι → Prop}
    (hp : S.ReadOnly f p)
    (hf : ∀ v, (S.contract prog Free s₀).Triple M i (S.Tracks prog Free i g (C (f v))) (f v) R
      fun _ a => i ∉ a.2) :
    (S.contract prog Free s₀).Triple M i (S.Tracks prog Free i g (C (p >>= f))) (p >>= f) R
      fun _ a => i ∉ a.2 :=
  (readOnly_triple hg hC hp).bind hf

/-! ## Steps that are neither -/

/-- An operation outside the shared part whose answer is always `v`. -/
theorem neutral_triple {op : Op} {v : Ans op} {g k : σ → σ}
    {C : Coro Op Ans σ ε (Ans op) → Coro Op Ans σ ε α} (hC : Context C) (hw : ¬ S.Writes op)
    (hv : ∀ s r s', M.exec op s = some (r, s') → r = .ok v)
    (hg : ∀ s, Free s → M.exec op (g s) = some (.ok v, k s)) :
    (S.contract prog Free s₀).Triple M i (S.Tracks prog Free i g (C (Coro.call op)))
      (Coro.call op) (fun v => S.Tracks prog Free i k (C (.ret v))) fun _ a => i ∉ a.2 := by
  refine .call Tracks.stable (fun _ => Tracks.stable) (fun _ => stable_not_mem) ?_
  intro w order r s' hi ht _ he
  obtain rfl := hv _ _ _ he
  obtain ⟨hi', hg'⟩ := inv_answer hi (S.keep op _ _ _ hw he)
  refine ⟨order, hi', hg', ht.1, fun s hf hseen => ?_⟩
  rw [ht.2 s hf fun e he => hseen e (List.mem_append_left _ he)]
  unfold Coro.call
  rw [hC]
  simp only [Coro.solo, hg s hf]

/-- Code that keeps the shared part. -/
theorem write_triple {u : σ → σ} {P : List ι → Prop}
    {E : ε → World ι Op Ans σ ε × List ι → Prop} (hu : ∀ s, S.view (u s) = S.view s) :
    (S.contract prog Free s₀).Triple M i (fun a => P a.2) (Coro.write u) (fun _ a => P a.2) E := by
  refine .write fun w order hi hp => ⟨order, ?_, fun _ _ => ?_, hp⟩
  · obtain ⟨hnd, t, ht, hf, hv⟩ := hi
    exact ⟨hnd, t, ht, hf, hv.trans (hu _).symm⟩
  · exact ⟨⟨[], by simp, by simp⟩, Iff.rfl⟩

/-! ## Writing -/

/-- The one write of a program.  Its reads being true, the run alone takes the same way up
to here, writes the same, and — `hdone` — returns. -/
theorem commit_triple {op : Op} {g : σ → σ} (hg : ∀ s, S.view (g s) = S.view s)
    {C : Coro Op Ans σ ε (Ans op) → Coro Op Ans σ ε α} (hC : Context C) (hw : S.Writes op)
    (hok : ∀ s r s', M.exec op s = some (r, s') → ∃ u, r = .ok u)
    (hdone : ∀ s u t, Free s → M.exec op (g s) = some (.ok u, t) →
      ∃ v t', (C (.ret u)).solo M t = some (.ok v, t') ∧ Free t' ∧ S.view t' = S.view t) :
    (S.contract prog Free s₀).Triple M i (S.Tracks prog Free i g (C (Coro.call op)))
      (Coro.call op) (fun _ a => i ∈ a.2) fun _ a => i ∉ a.2 := by
  refine .call Tracks.stable (fun _ => stable_mem) (fun _ => stable_not_mem) ?_
  intro w order r s' hi htracks hm he
  obtain ⟨u, rfl⟩ := hok _ _ _ he
  obtain ⟨hnd, t, ht, hf, hv⟩ := hi
  have hseen : S.Seen i w t := fun e he hwho hr => by
    rw [hv]
    exact hm hw e he hwho hr
  obtain ⟨t₁, he₁, hv₁⟩ := S.write_view op w.state (g t) _ s' hw (hv.symm.trans (hg t).symm) he
  obtain ⟨v, t₂, hsolo, hf₂, hv₂⟩ := hdone t u t₁ hf he₁
  have hprog : (prog i).solo M t = some (.ok v, t₂) := by
    rw [htracks.2 t hf hseen]
    unfold Coro.call
    rw [hC]
    simp only [Coro.solo, he₁]
    exact hsolo
  refine ⟨order ++ [i], ⟨?_, t₂, serialRun_concat hprog ht, hf₂, hv₂.trans hv₁⟩, ?_, ?_⟩
  · rw [List.nodup_append]
    refine ⟨hnd, List.nodup_singleton i, fun a ha b hb e => ?_⟩
    rw [List.mem_singleton] at hb
    exact htracks.1 (hb ▸ e ▸ ha)
  · intro j hj
    refine ⟨⟨[⟨i, op, w.state, .ok u⟩], rfl, by simpa using hj.symm⟩, ?_⟩
    show j ∈ order ++ [i] ↔ j ∈ order
    rw [List.mem_append, List.mem_singleton, or_iff_left hj]
  · exact List.mem_append_right _ (List.mem_singleton_self i)

/-! ## Runs -/

/-- **Serializability.**  If every write of the run is made on true reads, then whenever no
call is in flight the shared part is that of a serial run of exactly the calls that returned. -/
theorem serializable [DecidableEq ι] (hfree : Free s₀)
    (henv : ∀ s r, S.view (M.env r s) = S.view s)
    (h : ∀ i, (S.contract prog Free s₀).Triple M i (fun a => i ∉ a.2) (prog i)
      (fun _ a => i ∈ a.2) fun _ a => i ∉ a.2)
    {as : List (Act ι ρ)}
    (has : Config.Along M prog (Config.AtOps S.WritesOnTrueReads) (.start s₀) as)
    (hquiet : (Config.run M prog (.start s₀) as).Quiet) :
    ∃ order : List ι, order.Nodup ∧
      (∀ i, i ∈ order ↔ ((Config.run M prog (.start s₀) as).thread i).returned = true) ∧
      ∃ t, serialRun M prog s₀ order = some t ∧
        S.view t = S.view (Config.run M prog (.start s₀) as).state := by
  have henv' : (S.contract prog Free s₀).AllowsEnv M := by
    rintro w order r ⟨hnd, t, ht, hf, hv⟩
    refine ⟨order, ⟨hnd, t, ht, hf, hv.trans (henv _ _).symm⟩, fun _ => ?_⟩
    exact ⟨⟨[], by simp, by simp⟩, Iff.rfl⟩
  obtain ⟨order, ⟨hnd, t, ht, _, hv⟩, hthreads⟩ := Contract.Triple.run
    (fun _ => stable_not_mem) (fun _ _ => stable_mem) (fun _ _ => stable_not_mem) henv' h (x := [])
    ⟨List.nodup_nil, s₀, rfl, hfree, rfl⟩ (fun _ => List.not_mem_nil) has
  refine ⟨order, hnd, fun i => ?_, t, ht, hv⟩
  have hi := hthreads i
  have hq := hquiet i
  match (Config.run M prog (.start s₀) as).thread i, hi, hq with
  | .idle, hi, _ => exact ⟨fun hm => absurd hm hi, Bool.noConfusion⟩
  | .waiting (.ret _), hi, _ => exact ⟨fun _ => rfl, fun _ => hi⟩
  | .waiting (.raise _), hi, _ => exact ⟨fun hm => absurd hm hi, Bool.noConfusion⟩
  | .answered _, _, hq => exact absurd (Thread.inFlight_answered _) hq
  | .waiting (.sync _ _), _, hq => exact absurd (Thread.inFlight_sync _ _) hq
  | .waiting (.await _ _), _, hq => exact absurd (Thread.inFlight_await _ _) hq

end Shared

end
