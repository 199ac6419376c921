/-
# `CortxCsm.Lib.Coroutine` — coroutines, alone and interleaved

A coroutine is a tree.  Its inner nodes are the two kinds of step an event loop
knows: `sync`, code between two suspension points, which reads and updates the
shared state at once, and `await op`, a suspension on an operation whose answer
(a value or an exception) selects the rest.  Its leaves return or raise.  What
an operation does is not part of the tree: a `Machine` gives `exec`, so one
program can be run over several back ends.

Two readings of the same tree:

* `Coro.solo` runs it alone, every operation answered at once;
* `Config.step` runs one step of one of a family of coroutines that share the
  state.  An awaited operation takes three separate steps of the schedule —
  the coroutine suspends, the operation happens, the coroutine resumes — so
  other coroutines can run on either side of the operation.  The code from a
  resumption to the next suspension is one step: nothing runs inside it.

A `World` is the shared state together with the history of answered
operations, each with the state it found, which no program reads; properties of
runs are stated with it.

The environment acts too: `Act.env` changes the state without any coroutine
(a clock that advances).
-/
import Mathlib.Logic.Function.Basic

/-- A coroutine over operations `Op` answered in `Ans`, sharing a state `σ`,
raising `ε`, returning `α`. -/
inductive Coro (Op : Type) (Ans : Op → Type) (σ ε α : Type) : Type
  | ret (a : α)
  | raise (e : ε)
  | sync (upd : σ → σ) (next : σ → Coro Op Ans σ ε α)
  | await (op : Op) (next : Except ε (Ans op) → Coro Op Ans σ ε α)

namespace Coro

variable {Op : Type} {Ans : Op → Type} {σ ε α β γ : Type}

/-! ## The monad -/

def bind : Coro Op Ans σ ε α → (α → Coro Op Ans σ ε β) → Coro Op Ans σ ε β
  | .ret a, f => f a
  | .raise e, _ => .raise e
  | .sync u k, f => .sync u fun s => (k s).bind f
  | .await op k, f => .await op fun r => (k r).bind f

/-- `except`: a raised exception is handed to `h`. -/
def handle : Coro Op Ans σ ε α → (ε → Coro Op Ans σ ε α) → Coro Op Ans σ ε α
  | .ret a, _ => .ret a
  | .raise e, h => h e
  | .sync u k, h => .sync u fun s => (k s).handle h
  | .await op k, h => .await op fun r => (k r).handle h

/-- `finally`: `fin` runs on both ways out of `p`. -/
def ensure : Coro Op Ans σ ε α → Coro Op Ans σ ε Unit → Coro Op Ans σ ε α
  | .ret a, fin => fin.bind fun _ => .ret a
  | .raise e, fin => fin.bind fun _ => .raise e
  | .sync u k, fin => .sync u fun s => (k s).ensure fin
  | .await op k, fin => .await op fun r => (k r).ensure fin

instance : Monad (Coro Op Ans σ ε) where
  pure := .ret
  bind := bind

instance : MonadExcept ε (Coro Op Ans σ ε) where
  throw := .raise
  tryCatch := handle

theorem bind_ret (p : Coro Op Ans σ ε α) : p.bind .ret = p := by
  induction p with
  | ret a => rfl
  | raise e => rfl
  | sync u k ih => exact congrArg (Coro.sync u) (funext fun s => ih s)
  | await op k ih => exact congrArg (Coro.await op) (funext fun r => ih r)

theorem bind_assoc (p : Coro Op Ans σ ε α) (f : α → Coro Op Ans σ ε β)
    (g : β → Coro Op Ans σ ε γ) : (p.bind f).bind g = p.bind fun a => (f a).bind g := by
  induction p with
  | ret a => rfl
  | raise e => rfl
  | sync u k ih => exact congrArg (Coro.sync u) (funext fun s => ih s)
  | await op k ih => exact congrArg (Coro.await op) (funext fun r => ih r)

instance : LawfulMonad (Coro Op Ans σ ε) :=
  LawfulMonad.mk' _ bind_ret (fun _ _ => rfl) bind_assoc

/-- The rest of the program, `k`, put at the leaves of `p`: a bind, an `except` and a
`finally` are each such a rest. -/
def graft : Coro Op Ans σ ε α → (Except ε α → Coro Op Ans σ ε β) → Coro Op Ans σ ε β
  | .ret a, k => k (.ok a)
  | .raise e, k => k (.error e)
  | .sync u n, k => .sync u fun s => (n s).graft k
  | .await op n, k => .await op fun r => (n r).graft k

theorem graft_bind (f : α → Coro Op Ans σ ε β) : ∀ p : Coro Op Ans σ ε α,
    p.bind f = p.graft fun
      | .ok a => f a
      | .error e => .raise e
  | .ret _ => rfl
  | .raise _ => rfl
  | .sync u n => congrArg (Coro.sync u) (funext fun s => graft_bind f (n s))
  | .await op n => congrArg (Coro.await op) (funext fun r => graft_bind f (n r))

theorem graft_handle (h : ε → Coro Op Ans σ ε α) : ∀ p : Coro Op Ans σ ε α,
    p.handle h = p.graft fun
      | .ok a => .ret a
      | .error e => h e
  | .ret _ => rfl
  | .raise _ => rfl
  | .sync u n => congrArg (Coro.sync u) (funext fun s => graft_handle h (n s))
  | .await op n => congrArg (Coro.await op) (funext fun r => graft_handle h (n r))

theorem graft_ensure (fin : Coro Op Ans σ ε Unit) : ∀ p : Coro Op Ans σ ε α,
    p.ensure fin = p.graft fun
      | .ok a => fin.bind fun _ => .ret a
      | .error e => fin.bind fun _ => .raise e
  | .ret _ => rfl
  | .raise _ => rfl
  | .sync u n => congrArg (Coro.sync u) (funext fun s => graft_ensure fin (n s))
  | .await op n => congrArg (Coro.await op) (funext fun r => graft_ensure fin (n r))

/-- Suspend on `op`; an exception it answers with is raised here. -/
def call (op : Op) : Coro Op Ans σ ε (Ans op) :=
  .await op fun
    | .ok a => .ret a
    | .error e => .raise e

/-- Read the shared state without suspending. -/
def read (f : σ → α) : Coro Op Ans σ ε α := .sync id fun s => .ret (f s)

/-- Update the shared state without suspending. -/
def write (u : σ → σ) : Coro Op Ans σ ε Unit := .sync u fun _ => .ret ()

/-- `if cond: raise e`. -/
def raiseIf (cond : Prop) [Decidable cond] (e : ε) : Coro Op Ans σ ε Unit :=
  if cond then .raise e else .ret ()

/-! ## The code up to the next suspension -/

/-- Run the `sync` nodes at the top of `p`. -/
def advance : Coro Op Ans σ ε α → σ → Coro Op Ans σ ε α × σ
  | .sync u k, s => advance (k s) (u s)
  | .ret a, s => (.ret a, s)
  | .raise e, s => (.raise e, s)
  | .await op k, s => (.await op k, s)

end Coro

/-! ## What the operations do -/

/-- `exec op s` answers `op` in state `s`, or is `none` while `op` must wait;
`env` is what may happen to the state by itself. -/
structure Machine (Op : Type) (Ans : Op → Type) (σ ε ρ : Type) where
  exec : (op : Op) → σ → Option (Except ε (Ans op) × σ)
  env : ρ → σ → σ

section

variable {ι Op : Type} {Ans : Op → Type} {σ ε α ρ : Type}

namespace Coro

/-- `p` alone: every operation is answered as soon as it is awaited. -/
def solo (M : Machine Op Ans σ ε ρ) : Coro Op Ans σ ε α → σ → Option (Except ε α × σ)
  | .ret a, s => some (.ok a, s)
  | .raise e, s => some (.error e, s)
  | .sync u k, s => solo M (k s) (u s)
  | .await op k, s =>
      match M.exec op s with
      | none => none
      | some (r, s') => solo M (k r) s'

theorem solo_graft {β : Type} (M : Machine Op Ans σ ε ρ) (k : Except ε α → Coro Op Ans σ ε β) :
    ∀ (p : Coro Op Ans σ ε α) (s : σ), (p.graft k).solo M s =
      match p.solo M s with
      | none => none
      | some (r, s') => (k r).solo M s'
  | .ret _, _ => rfl
  | .raise _, _ => rfl
  | .sync u n, s => solo_graft M k (n s) (u s)
  | .await op n, s => by
      simp only [graft, solo]
      cases M.exec op s with
      | none => rfl
      | some rs => exact solo_graft M k (n rs.1) rs.2

theorem solo_bind {β : Type} (M : Machine Op Ans σ ε ρ) (f : α → Coro Op Ans σ ε β)
    (p : Coro Op Ans σ ε α) (s : σ) : (p.bind f).solo M s =
      match p.solo M s with
      | none => none
      | some (.ok a, s') => (f a).solo M s'
      | some (.error e, s') => some (.error e, s') := by
  rw [graft_bind, solo_graft]
  rcases p.solo M s with _ | ⟨e | a, s'⟩
  · rfl
  · rfl
  · rfl

theorem solo_bind_ok {β : Type} {M : Machine Op Ans σ ε ρ} {p : Coro Op Ans σ ε α}
    {f : α → Coro Op Ans σ ε β} {s s' : σ} {a : α} (h : p.solo M s = some (.ok a, s')) :
    (p >>= f).solo M s = (f a).solo M s' := by
  show (p.bind f).solo M s = _
  rw [solo_bind, h]

theorem solo_bind_error {β : Type} {M : Machine Op Ans σ ε ρ} {p : Coro Op Ans σ ε α}
    {f : α → Coro Op Ans σ ε β} {s s' : σ} {e : ε} (h : p.solo M s = some (.error e, s')) :
    (p >>= f).solo M s = some (.error e, s') := by
  show (p.bind f).solo M s = _
  rw [solo_bind, h]

theorem solo_handle (M : Machine Op Ans σ ε ρ) (h : ε → Coro Op Ans σ ε α)
    (p : Coro Op Ans σ ε α) (s : σ) : (p.handle h).solo M s =
      match p.solo M s with
      | none => none
      | some (.ok a, s') => some (.ok a, s')
      | some (.error e, s') => (h e).solo M s' := by
  rw [graft_handle, solo_graft]
  rcases p.solo M s with _ | ⟨e | a, s'⟩
  · rfl
  · rfl
  · rfl

theorem solo_call_bind (M : Machine Op Ans σ ε ρ) (op : Op) (f : Ans op → Coro Op Ans σ ε α)
    (s : σ) : (call op >>= f).solo M s =
      match M.exec op s with
      | none => none
      | some (.ok a, s') => (f a).solo M s'
      | some (.error e, s') => some (.error e, s') := by
  show ((call op).bind f).solo M s = _
  simp only [call, bind, solo]
  match M.exec op s with
  | none => rfl
  | some (.ok _, _) => rfl
  | some (.error _, _) => rfl

end Coro

/-! ## Many coroutines over one state -/

/-- An operation, who awaited it, the state it found, and what it was answered. -/
structure Event (ι Op : Type) (Ans : Op → Type) (σ ε : Type) where
  who : ι
  op : Op
  before : σ
  ans : Except ε (Ans op)

structure World (ι Op : Type) (Ans : Op → Type) (σ ε : Type) where
  state : σ
  hist : List (Event ι Op Ans σ ε)

namespace World

/-- The world once `i`'s operation `op` has been answered `r`, leaving the state `s'`. -/
def answer (w : World ι Op Ans σ ε) (i : ι) (op : Op) (r : Except ε (Ans op)) (s' : σ) :
    World ι Op Ans σ ε :=
  ⟨s', w.hist ++ [⟨i, op, w.state, r⟩]⟩

@[simp] theorem answer_state (w : World ι Op Ans σ ε) (i : ι) (op : Op)
    (r : Except ε (Ans op)) (s' : σ) : (w.answer i op r s').state = s' := rfl

@[simp] theorem answer_hist (w : World ι Op Ans σ ε) (i : ι) (op : Op)
    (r : Except ε (Ans op)) (s' : σ) :
    (w.answer i op r s').hist = w.hist ++ [⟨i, op, w.state, r⟩] := rfl

end World

/-- Where a coroutine stands: not called yet, suspended (or ended) at the top
node of `p`, or answered and about to resume with `p`. -/
inductive Thread (Op : Type) (Ans : Op → Type) (σ ε α : Type) : Type
  | idle
  | waiting (p : Coro Op Ans σ ε α)
  | answered (p : Coro Op Ans σ ε α)

namespace Thread

/-- How the coroutine ended, if it has. -/
def result : Thread Op Ans σ ε α → Option (Except ε α)
  | .waiting (.ret a) => some (.ok a)
  | .waiting (.raise e) => some (.error e)
  | _ => none

/-- It ended by returning. -/
def returned : Thread Op Ans σ ε α → Bool
  | .waiting (.ret _) => true
  | _ => false

/-- What it ended by raising. -/
def raised : Thread Op Ans σ ε α → Option ε
  | .waiting (.raise e) => some e
  | _ => none

/-- The operation it is suspended on. -/
def pending : Thread Op Ans σ ε α → Option Op
  | .waiting (.await op _) => some op
  | _ => none

/-- Called, and not ended. -/
def InFlight (t : Thread Op Ans σ ε α) : Prop := t ≠ .idle ∧ t.result = none

theorem inFlight_answered (p : Coro Op Ans σ ε α) : (answered p).InFlight :=
  ⟨(fun h => nomatch h), rfl⟩

theorem inFlight_await (op : Op) (k : Except ε (Ans op) → Coro Op Ans σ ε α) :
    (waiting (.await op k)).InFlight := ⟨(fun h => nomatch h), rfl⟩

theorem inFlight_sync (u : σ → σ) (k : σ → Coro Op Ans σ ε α) :
    (waiting (.sync u k)).InFlight := ⟨(fun h => nomatch h), rfl⟩

instance : (t : Thread Op Ans σ ε α) → Decidable t.InFlight
  | .idle => isFalse fun h => h.1 rfl
  | .waiting (.ret _) => isFalse fun h => nomatch h.2
  | .waiting (.raise _) => isFalse fun h => nomatch h.2
  | .waiting (.sync _ _) => isTrue (inFlight_sync _ _)
  | .waiting (.await _ _) => isTrue (inFlight_await _ _)
  | .answered _ => isTrue (inFlight_answered _)

end Thread

/-- One step of the coroutine `i`, whose program is `p₀`. -/
def Thread.step (M : Machine Op Ans σ ε ρ) (i : ι) (p₀ : Coro Op Ans σ ε α) :
    Thread Op Ans σ ε α → World ι Op Ans σ ε → Thread Op Ans σ ε α × World ι Op Ans σ ε
  | .idle, w => (.waiting (p₀.advance w.state).1, { w with state := (p₀.advance w.state).2 })
  | .waiting (.await op k), w =>
      match M.exec op w.state with
      | none => (.waiting (.await op k), w)
      | some (r, s') => (.answered (k r), w.answer i op r s')
  | .waiting p, w => (.waiting p, w)
  | .answered p, w => (.waiting (p.advance w.state).1, { w with state := (p.advance w.state).2 })

/-- A step only adds to the history. -/
theorem Thread.step_hist (M : Machine Op Ans σ ε ρ) (i : ι) (p₀ : Coro Op Ans σ ε α)
    (t : Thread Op Ans σ ε α) (w : World ι Op Ans σ ε) :
    ∃ es, (t.step M i p₀ w).2.hist = w.hist ++ es := by
  match t with
  | .idle => exact ⟨[], (List.append_nil _).symm⟩
  | .answered _ => exact ⟨[], (List.append_nil _).symm⟩
  | .waiting (.ret _) => exact ⟨[], (List.append_nil _).symm⟩
  | .waiting (.raise _) => exact ⟨[], (List.append_nil _).symm⟩
  | .waiting (.sync _ _) => exact ⟨[], (List.append_nil _).symm⟩
  | .waiting (.await op k) =>
      simp only [Thread.step]
      cases M.exec op w.state with
      | none => exact ⟨[], (List.append_nil _).symm⟩
      | some rs => exact ⟨_, rfl⟩

structure Config (ι Op : Type) (Ans : Op → Type) (σ ε α : Type) where
  world : World ι Op Ans σ ε
  thread : ι → Thread Op Ans σ ε α

inductive Act (ι ρ : Type)
  | run (i : ι)
  | env (r : ρ)
  deriving DecidableEq

namespace Config

/-- No coroutine called yet. -/
def start (s : σ) : Config ι Op Ans σ ε α := ⟨⟨s, []⟩, fun _ => .idle⟩

abbrev state (c : Config ι Op Ans σ ε α) : σ := c.world.state

/-- No call in flight. -/
abbrev Quiet (c : Config ι Op Ans σ ε α) : Prop := ∀ i, ¬ (c.thread i).InFlight

/-- If the step is that an operation happens, it happens where `P` holds. -/
def AtOps (P : ι → Op → World ι Op Ans σ ε → Prop) (c : Config ι Op Ans σ ε α) :
    Act ι ρ → Prop
  | .run i => ∀ op, (c.thread i).pending = some op → P i op c.world
  | .env _ => True

instance (P : ι → Op → World ι Op Ans σ ε → Prop) [∀ i op w, Decidable (P i op w)]
    (c : Config ι Op Ans σ ε α) (a : Act ι ρ) : Decidable (AtOps P c a) :=
  match a with
  | .env _ => isTrue trivial
  | .run i =>
      match h : (c.thread i).pending with
      | none => isTrue fun _ he => nomatch h.symm.trans he
      | some op =>
          decidable_of_iff (P i op c.world)
            ⟨fun hm _ he => Option.some.inj (h.symm.trans he) ▸ hm, fun hm => hm op h⟩

variable [DecidableEq ι] (M : Machine Op Ans σ ε ρ) (prog : ι → Coro Op Ans σ ε α)

/-- One step of the schedule; a step that is not possible changes nothing. -/
def step (c : Config ι Op Ans σ ε α) : Act ι ρ → Config ι Op Ans σ ε α
  | .run i =>
      let r := (c.thread i).step M i (prog i) c.world
      ⟨r.2, Function.update c.thread i r.1⟩
  | .env r => { c with world := { c.world with state := M.env r c.world.state } }

/-- A run: the schedule `as` from `c`. -/
def run (c : Config ι Op Ans σ ε α) (as : List (Act ι ρ)) : Config ι Op Ans σ ε α :=
  as.foldl (step M prog) c

/-- Every step of the run satisfies `P`, which sees the configuration before it. -/
def Along (P : Config ι Op Ans σ ε α → Act ι ρ → Prop) :
    Config ι Op Ans σ ε α → List (Act ι ρ) → Prop
  | _, [] => True
  | c, a :: as => P c a ∧ Along P (step M prog c a) as

instance decidableAlong (P : Config ι Op Ans σ ε α → Act ι ρ → Prop)
    [∀ c a, Decidable (P c a)] :
    (c : Config ι Op Ans σ ε α) → (as : List (Act ι ρ)) → Decidable (Along M prog P c as)
  | _, [] => isTrue trivial
  | c, a :: as =>
      have := decidableAlong P (step M prog c a) as
      inferInstanceAs (Decidable (P c a ∧ Along M prog P (step M prog c a) as))

variable {M prog}

theorem run_append (c : Config ι Op Ans σ ε α) (as bs : List (Act ι ρ)) :
    run M prog c (as ++ bs) = run M prog (run M prog c as) bs := List.foldl_append

theorem run_concat (c : Config ι Op Ans σ ε α) (as : List (Act ι ρ)) (a : Act ι ρ) :
    run M prog c (as ++ [a]) = step M prog (run M prog c as) a := run_append c as [a]

theorem along_append {P : Config ι Op Ans σ ε α → Act ι ρ → Prop} :
    ∀ {c : Config ι Op Ans σ ε α} {as bs : List (Act ι ρ)},
      Along M prog P c (as ++ bs) ↔ Along M prog P c as ∧ Along M prog P (run M prog c as) bs
  | c, [], bs => by simp [Along, run]
  | c, a :: as, bs => by
      simp only [List.cons_append, Along, and_assoc]
      exact and_congr_right fun _ => along_append

theorem along_of_forall {P : Config ι Op Ans σ ε α → Act ι ρ → Prop} (h : ∀ c a, P c a) :
    ∀ (c : Config ι Op Ans σ ε α) (as : List (Act ι ρ)), Along M prog P c as
  | _, [] => trivial
  | c, a :: as => ⟨h c a, along_of_forall h _ as⟩

theorem along_mono {P Q : Config ι Op Ans σ ε α → Act ι ρ → Prop} (h : ∀ c a, P c a → Q c a) :
    ∀ {c : Config ι Op Ans σ ε α} {as : List (Act ι ρ)}, Along M prog P c as → Along M prog Q c as
  | _, [], _ => trivial
  | _, _ :: _, has => ⟨h _ _ has.1, along_mono h has.2⟩

/-- What holds at the start and survives every admitted step holds after every run. -/
theorem run_induction {P : Config ι Op Ans σ ε α → Act ι ρ → Prop}
    {Inv : Config ι Op Ans σ ε α → Prop}
    (hstep : ∀ c a, Inv c → P c a → Inv (step M prog c a)) {c : Config ι Op Ans σ ε α}
    {as : List (Act ι ρ)} (hc : Inv c) (h : Along M prog P c as) : Inv (run M prog c as) := by
  induction as generalizing c with
  | nil => exact hc
  | cons a as ih => exact ih (hstep c a hc h.1) h.2

/-- The history of a run continues that of its start. -/
theorem hist_run (c : Config ι Op Ans σ ε α) (as : List (Act ι ρ)) :
    ∃ es, (run M prog c as).world.hist = c.world.hist ++ es := by
  have hstep : ∀ (c' : Config ι Op Ans σ ε α) (a : Act ι ρ),
      (∃ es, c'.world.hist = c.world.hist ++ es) → True →
        ∃ es, (step M prog c' a).world.hist = c.world.hist ++ es := by
    rintro c' a ⟨es, hes⟩ _
    cases a with
    | env r => exact ⟨es, hes⟩
    | run i =>
        obtain ⟨fs, hfs⟩ := (c'.thread i).step_hist M i (prog i) c'.world
        exact ⟨es ++ fs, hfs.trans (by rw [hes, List.append_assoc])⟩
  exact run_induction hstep ⟨[], (List.append_nil _).symm⟩
    (along_of_forall (fun _ _ => trivial) c as)

theorem step_thread_ne {c : Config ι Op Ans σ ε α} {i j : ι} (h : j ≠ i) :
    (step M prog c (.run i)).thread j = c.thread j := Function.update_of_ne h _ _

theorem step_thread_self {c : Config ι Op Ans σ ε α} {i : ι} :
    (step M prog c (.run i)).thread i = ((c.thread i).step M i (prog i) c.world).1 :=
  Function.update_self i _ _

/-- A coroutine that the schedule leaves out stays where it is. -/
theorem thread_of_not_run {i : ι} : ∀ {c : Config ι Op Ans σ ε α} {as : List (Act ι ρ)},
    Act.run i ∉ as → (run M prog c as).thread i = c.thread i
  | _, [], _ => rfl
  | c, a :: as, h => by
      rw [List.mem_cons, not_or] at h
      show (run M prog (step M prog c a) as).thread i = c.thread i
      rw [thread_of_not_run h.2]
      cases a with
      | env r => rfl
      | run j => exact step_thread_ne fun e => h.1 (e ▸ rfl)

end Config

end
