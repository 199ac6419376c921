/-
# `CortxCsm.Lib.Retry` — a call that is tried again

A call is one of a stream of outcomes: the `i`-th attempt ends with `outcomes i`.  Some
exceptions are worth another attempt, `retryable` says which.  The loop makes up to `n`
attempts and sleeps between two of them; its last one raises what the call raised.

What was done is kept in order as `Event`s, and `leading outcomes` is how many outcomes come
before the first that is not to be tried again.

**Proved here.**

    an attempt that ends the loop                 (`retrying_ends`)
    a loop whose attempts all fail                (`retrying_exhausted`)
    what is done, said of the whole run           (`Meets`, `meets_of_retrying`)
    the loop that is told which attempts fail     (`retried_eq`)
-/
import CortxCsm.Lib.Raising
import CortxCsm.Lib.Faults
import Mathlib.Data.ENat.Lattice
import Mathlib.Data.Nat.Find

namespace Retry

/-- What a run does, in order. -/
inductive Event (R : Type)
  | call (r : R)
  | sleep (seconds : Nat)
  deriving DecidableEq, Repr

/-- Code that leaves a trace. -/
abbrev Prog (R ε : Type) := Raising (List (Event R)) ε

variable {R ε α β : Type}

/-- The attempts of a trace. -/
def calls : List (Event R) → List R
  | [] => []
  | .call r :: t => r :: calls t
  | .sleep _ :: t => calls t

@[simp] theorem calls_append (t u : List (Event R)) : calls (t ++ u) = calls t ++ calls u := by
  induction t with
  | nil => rfl
  | cons e t ih =>
      cases e with
      | call r => simp [calls, ih]
      | sleep d => simp [calls, ih]

section Loop

variable (retryable : ε → Bool) (n pause : Nat) (outcomes : Nat → Except ε α) (r : R)

/-- One attempt; the outcome is the one of its number. -/
def call : Prog R ε α := fun t => (outcomes (calls t).length, t ++ [.call r])

def sleep : Prog R ε PUnit := fun t => (.ok ⟨⟩, t ++ [.sleep pause])

/-- One pass: `none` if the loop goes on. -/
def pass (retry : Nat) : Prog R ε (Option α) :=
  tryCatch (do
    let response ← call outcomes r
    pure (some response)) fun e =>
      if retryable e then do
        if retry = n - 1 then throw e
        sleep pause
        pure none
      else throw e

/-- The passes that are left, up to the first that leaves the loop. -/
def forRange (body : Nat → Prog R ε (Option α)) : Nat → Nat → Prog R ε (Option α)
  | 0, _ => pure none
  | left + 1, retry => do
      match ← body retry with
      | none => forRange body left (retry + 1)
      | some response => pure (some response)

/-- `for retry in range(0, n)`; `none` if no pass has left the loop. -/
def retrying : Prog R ε (Option α) := forRange (pass retryable n pause outcomes r) n 0

end Loop

/-- The call is to be tried again. -/
def Again (retryable : ε → Bool) (o : Except ε α) : Prop :=
  ∃ e, o = .error e ∧ retryable e = true

section Passes

variable {retryable : ε → Bool} {n pause : Nat} {outcomes : Nat → Except ε α} {r : R}

/-- What `k` attempts to be tried again leave. -/
def failed (pause : Nat) (r : R) : Nat → List (Event R)
  | 0 => []
  | k + 1 => .call r :: .sleep pause :: failed pause r k

@[simp] theorem calls_failed (k : Nat) : calls (failed pause r k) = List.replicate k r := by
  induction k with
  | zero => rfl
  | succ k ih => simp [failed, calls, ih, List.replicate_succ]

/-- A pass with an outcome that ends the loop. -/
theorem pass_ends {retry : Nat} {t : List (Event R)}
    (h : ¬ Again retryable (outcomes (calls t).length)) :
    pass retryable n pause outcomes r retry t =
      ((outcomes (calls t).length).map some, t ++ [.call r]) := by
  rw [pass, Raising.catch_apply, Raising.bind_apply]
  cases ho : outcomes (calls t).length with
  | ok v =>
      simp only [call, ho]
      rfl
  | error e =>
      have he : ¬ retryable e = true := fun hr => h ⟨e, ho, hr⟩
      simp only [call, ho, if_neg he]
      rfl

/-- A pass that is not the last, with an outcome to be tried again. -/
theorem pass_again {retry : Nat} {t : List (Event R)}
    (h : Again retryable (outcomes (calls t).length)) (hlast : retry ≠ n - 1) :
    pass retryable n pause outcomes r retry t = (.ok none, t ++ [.call r, .sleep pause]) := by
  obtain ⟨e, ho, he⟩ := h
  rw [pass, Raising.catch_apply, Raising.bind_apply]
  simp only [call, ho, if_pos he, if_neg hlast]
  show (_, (t ++ [.call r]) ++ [.sleep pause]) = _
  rw [List.append_assoc]
  rfl

/-- The last pass, with an outcome that would be tried again. -/
theorem pass_last {t : List (Event R)} {e : ε} (ho : outcomes (calls t).length = .error e)
    (he : retryable e = true) :
    pass retryable n pause outcomes r (n - 1) t = (.error e, t ++ [.call r]) := by
  rw [pass, Raising.catch_apply, Raising.bind_apply]
  simp only [call, ho, if_pos he]
  rfl

end Passes

section Runs

variable {retryable : ε → Bool} {n pause : Nat} {outcomes : Nat → Except ε α} {r : R}

theorem forRange_next {body : Nat → Prog R ε (Option α)} {left retry : Nat}
    {t t' : List (Event R)} (h : body retry t = (.ok none, t')) :
    forRange body (left + 1) retry t = forRange body left (retry + 1) t' := by
  rw [forRange, Raising.bind_ok h]

theorem length_calls_append_failed (pause : Nat) (r : R) (t : List (Event R)) (k : Nat) :
    (calls (t ++ failed pause r k)).length = (calls t).length + k := by
  rw [calls_append, calls_failed, List.length_append, List.length_replicate]

/-- Outcomes that are to be tried again, with a pass left. -/
theorem forRange_again {k left : Nat} (hleft : 0 < left) : ∀ {retry : Nat} {t : List (Event R)},
    retry + (k + left) = n → (∀ i < k, Again retryable (outcomes ((calls t).length + i))) →
      forRange (pass retryable n pause outcomes r) (k + left) retry t =
        forRange (pass retryable n pause outcomes r) left (retry + k)
          (t ++ failed pause r k) := by
  induction k with
  | zero =>
      intro retry t _ _
      rw [Nat.zero_add, failed, List.append_nil, Nat.add_zero]
  | succ k ih =>
      intro retry t hn hagain
      have hp : pass retryable n pause outcomes r retry t =
          (.ok none, t ++ [.call r, .sleep pause]) :=
        pass_again (hagain 0 (Nat.succ_pos k)) (by omega)
      have hshift : ∀ i, (calls t).length + (i + 1) =
          (calls (t ++ [.call r, .sleep pause])).length + i := by
        intro i
        simp only [calls_append, calls, List.length_append, List.length_cons, List.length_nil]
        omega
      have hnext : retry + 1 + (k + left) = n := by omega
      rw [Nat.add_right_comm, forRange_next hp,
        ih hnext fun i hi => hshift i ▸ hagain (i + 1) (Nat.succ_lt_succ hi),
        Nat.add_right_comm retry 1 k, failed, List.append_assoc]
      rfl

/-- The first outcome that is not to be tried again ends the loop. -/
theorem forRange_ends {k left retry : Nat} {t : List (Event R)} (hn : retry + left = n)
    (hk : k < left) (hagain : ∀ i < k, Again retryable (outcomes ((calls t).length + i)))
    (hend : ¬ Again retryable (outcomes ((calls t).length + k))) :
    forRange (pass retryable n pause outcomes r) left retry t =
      ((outcomes ((calls t).length + k)).map some, t ++ failed pause r k ++ [.call r]) := by
  obtain ⟨rest, rfl⟩ : ∃ rest, left = k + (rest + 1) := ⟨left - k - 1, by omega⟩
  have hlength := length_calls_append_failed pause r t k
  rw [← hlength] at hend ⊢
  rw [forRange_again (Nat.succ_pos rest) hn hagain, forRange, Raising.bind_apply, pass_ends hend]
  cases outcomes (calls (t ++ failed pause r k)).length with
  | ok v => rfl
  | error e => rfl

/-- A loop all of whose outcomes are to be tried again raises the last of them. -/
theorem forRange_exhausted {k retry : Nat} {t : List (Event R)} {e : ε}
    (hn : retry + (k + 1) = n)
    (hagain : ∀ i < k, Again retryable (outcomes ((calls t).length + i)))
    (ho : outcomes ((calls t).length + k) = .error e) (he : retryable e = true) :
    forRange (pass retryable n pause outcomes r) (k + 1) retry t =
      (.error e, t ++ failed pause r k ++ [.call r]) := by
  have hlast : retry + k = n - 1 := by omega
  rw [← length_calls_append_failed pause r] at ho
  rw [forRange_again (Nat.succ_pos 0) hn hagain, forRange, hlast,
    Raising.bind_error (pass_last ho he)]

/-- The loop ends with the first outcome that is not to be tried again. -/
theorem retrying_ends {k : Nat} (hk : k < n) (hagain : ∀ i < k, Again retryable (outcomes i))
    (hend : ¬ Again retryable (outcomes k)) :
    retrying retryable n pause outcomes r [] =
      ((outcomes k).map some, failed pause r k ++ [.call r]) := by
  have h : forRange (pass retryable n pause outcomes r) n 0 [] =
      ((outcomes (0 + k)).map some, [] ++ failed pause r k ++ [.call r]) :=
    forRange_ends (Nat.zero_add n) hk (by simpa [calls] using hagain) (by simpa [calls] using hend)
  simpa [retrying] using h

/-- The loop raises the last outcome if all are to be tried again. -/
theorem retrying_exhausted {k : Nat} {e : ε} (hn : n = k + 1)
    (hagain : ∀ i < n, Again retryable (outcomes i)) (ho : outcomes k = .error e) :
    retrying retryable n pause outcomes r [] = (.error e, failed pause r k ++ [.call r]) := by
  subst hn
  obtain ⟨e', ho', he⟩ := hagain k (Nat.lt_succ_self k)
  obtain rfl : e = e' := by
    rw [ho] at ho'
    cases ho'
    rfl
  have h : forRange (pass retryable (k + 1) pause outcomes r) (k + 1) 0 [] =
      (.error e, [] ++ failed pause r k ++ [.call r]) :=
    forRange_exhausted (Nat.zero_add _)
      (by simpa [calls] using fun i hi => hagain i (Nat.lt_succ_of_lt hi))
      (by simpa [calls] using ho) he
  simpa [retrying] using h

theorem calls_run (k : Nat) : calls (failed pause r k ++ [.call r]) = List.replicate (k + 1) r := by
  rw [calls_append, calls_failed, List.replicate_succ']
  rfl

end Runs

/-! ## What a run comes to -/

open Classical in
/-- How many outcomes come before the first that is not to be tried again. -/
noncomputable def leading (retryable : ε → Bool) (outcomes : Nat → Except ε α) : ℕ∞ :=
  if h : ∃ i, ¬ Again retryable (outcomes i) then (Nat.find h : ℕ) else ⊤

section Leading

variable {retryable : ε → Bool} {outcomes : Nat → Except ε α} {k : Nat}

theorem leading_eq (hagain : ∀ i < k, Again retryable (outcomes i))
    (hend : ¬ Again retryable (outcomes k)) : leading retryable outcomes = k := by
  classical
  have h : ∃ i, ¬ Again retryable (outcomes i) := ⟨k, hend⟩
  rw [leading, dif_pos h]
  have hfind : Nat.find h = k :=
    (Nat.find_eq_iff h).mpr ⟨hend, fun i hi => not_not_intro (hagain i hi)⟩
  exact_mod_cast hfind

theorem le_leading (hagain : ∀ i < k, Again retryable (outcomes i)) :
    (k : ℕ∞) ≤ leading retryable outcomes := by
  classical
  rw [leading]
  split
  · rename_i h
    have hfind : k ≤ Nat.find h := by
      rw [Nat.le_find_iff]
      intro i hi
      exact not_not_intro (hagain i hi)
    exact_mod_cast hfind
  · exact le_top

/-- Some attempt of the first `n` is not to be tried again, or all are. -/
theorem leading_cases (retryable : ε → Bool) (outcomes : Nat → Except ε α) (n : Nat) :
    (∃ k < n, (∀ i < k, Again retryable (outcomes i)) ∧ ¬ Again retryable (outcomes k)) ∨
      ∀ i < n, Again retryable (outcomes i) := by
  classical
  by_cases h : ∃ k < n, ¬ Again retryable (outcomes k)
  · left
    obtain ⟨hlt, hend⟩ := Nat.find_spec h
    refine ⟨Nat.find h, hlt, fun i hi => ?_, hend⟩
    have hmin := Nat.find_min h hi
    by_contra hagain
    exact hmin ⟨Nat.lt_trans hi hlt, hagain⟩
  · right
    intro i hi
    by_contra hagain
    exact h ⟨i, hi, hagain⟩

end Leading

/-- A run of up to `n` attempts at `r`, which gives `view` of what a call returns. -/
structure Meets (retryable : ε → Bool) (n : Nat) (outcomes : Nat → Except ε α) (view : α → β)
    (r : R) (run : Prog R ε β) : Prop where
  /-- It makes `min(n, k + 1)` attempts, where `k` outcomes are to be tried again first. -/
  attempts : ((calls (run []).2).length : ℕ∞) = min (n : ℕ∞) (leading retryable outcomes + 1)
  /-- Every attempt is at the same request. -/
  request : ∀ c ∈ calls (run []).2, c = r
  /-- The first success is returned. -/
  returns : ∀ {k : Nat} {v : α}, leading retryable outcomes = k → k < n → outcomes k = .ok v →
    (run []).1 = .ok (view v)
  /-- Any other exception is raised at once. -/
  raises : ∀ {k : Nat} {e : ε}, leading retryable outcomes = k → k < n → outcomes k = .error e →
    (run []).1 = .error e
  /-- If the first `n` are all to be tried again, the last of them is raised. -/
  exhausted : (n : ℕ∞) ≤ leading retryable outcomes → ∀ {e : ε}, outcomes (n - 1) = .error e →
    (run []).1 = .error e
  /-- It returns only what an attempt that it has made has returned. -/
  succeeded : ∀ {b : β}, (run []).1 = .ok b →
    ∃ i v, i < (calls (run []).2).length ∧ outcomes i = .ok v ∧ b = view v

section

variable {retryable : ε → Bool} {n pause : Nat} {outcomes : Nat → Except ε α} {r : R}
  {view : α → β} {after : Option α → Prog R ε β}

/-- The attempts of a run with these events. -/
theorem length_calls_run (k : Nat) :
    (calls (failed pause r k ++ [.call r])).length = k + 1 := by
  rw [calls_run, List.length_replicate]

theorem mem_calls_run {k : Nat} {c : R} (h : c ∈ calls (failed pause r k ++ [.call r])) :
    c = r := by
  rw [calls_run] at h
  exact List.eq_of_mem_replicate h

/-- A run that ends with an outcome that is not to be tried again. -/
theorem meets_of_ends {run : Prog R ε β} {k : Nat} (hk : k < n)
    (hlead : leading retryable outcomes = k)
    (hrun : run [] = ((outcomes k).map view, failed pause r k ++ [.call r])) :
    Meets retryable n outcomes view r run := by
  have hkey : ∀ {j : Nat}, leading retryable outcomes = j → j = k := by
    intro j hj
    rw [hlead] at hj
    exact_mod_cast hj.symm
  refine ⟨?_, ?_, ?_, ?_, ?_, ?_⟩
  · have hle : k + 1 ≤ n := hk
    rw [hrun, length_calls_run, hlead, min_eq_right (by exact_mod_cast hle)]
    rfl
  · intro c hc
    rw [hrun] at hc
    exact mem_calls_run hc
  · intro j v hj _ ho
    rw [hrun, ← hkey hj, ho]
    rfl
  · intro j e hj _ ho
    rw [hrun, ← hkey hj, ho]
    rfl
  · intro hle
    rw [hlead] at hle
    exact absurd (by exact_mod_cast hle) (Nat.not_le_of_lt hk)
  · intro b hb
    rw [hrun] at hb
    cases ho : outcomes k with
    | ok v =>
        rw [ho] at hb
        cases hb
        refine ⟨k, v, ?_, ho, rfl⟩
        rw [hrun, length_calls_run]
        exact Nat.lt_succ_self k
    | error e =>
        rw [ho] at hb
        cases hb

/-- A run of attempts that are all to be tried again. -/
theorem meets_of_exhausted {run : Prog R ε β} {k : Nat} {e : ε}
    (hle : ((k + 1 : Nat) : ℕ∞) ≤ leading retryable outcomes) (ho : outcomes k = .error e)
    (hrun : run [] = (.error e, failed pause r k ++ [.call r])) :
    Meets retryable (k + 1) outcomes view r run := by
  have hnot : ∀ {j : Nat}, leading retryable outcomes = j → ¬ j < k + 1 := by
    intro j hj hlt
    rw [hj] at hle
    exact Nat.not_le_of_lt hlt (by exact_mod_cast hle)
  refine ⟨?_, ?_, fun hj hlt => absurd hlt (hnot hj), fun hj hlt => absurd hlt (hnot hj), ?_, ?_⟩
  · rw [hrun, length_calls_run]
    exact (min_eq_left (le_trans hle le_self_add)).symm
  · intro c hc
    rw [hrun] at hc
    exact mem_calls_run hc
  · intro _ e' he'
    rw [hrun]
    rw [Nat.add_sub_cancel, ho] at he'
    cases he'
    rfl
  · intro b hb
    rw [hrun] at hb
    cases hb

/-- The loop, and whatever makes a value of the first success after it. -/
theorem meets_of_retrying (hn : 1 ≤ n)
    (hafter : ∀ v, after (some v) = pure (view v)) :
    Meets retryable n outcomes view r (retrying retryable n pause outcomes r >>= after) := by
  rcases leading_cases retryable outcomes n with
    ⟨k, hk, hagain, hend⟩ | hagain
  · have hloop : retrying retryable n pause outcomes r [] =
        ((outcomes k).map some, failed pause r k ++ [.call r]) := retrying_ends hk hagain hend
    have hrun : (retrying retryable n pause outcomes r >>= after) [] =
        ((outcomes k).map view, failed pause r k ++ [.call r]) := by
      cases ho : outcomes k with
      | ok v =>
          rw [ho] at hloop
          rw [Raising.bind_ok hloop, hafter]
          rfl
      | error e =>
          rw [ho] at hloop
          rw [Raising.bind_error hloop]
          rfl
    exact meets_of_ends hk (leading_eq hagain hend) hrun
  · obtain ⟨k, rfl⟩ : ∃ k, n = k + 1 := ⟨n - 1, by omega⟩
    obtain ⟨e, ho, -⟩ := hagain k (Nat.lt_succ_self k)
    have hloop : retrying retryable (k + 1) pause outcomes r [] =
        (.error e, failed pause r k ++ [.call r]) := retrying_exhausted rfl hagain ho
    exact meets_of_exhausted (le_leading hagain) ho (Raising.bind_error hloop)

end

/-! ## The loop told which attempts fail -/

/-- The outcomes of attempts that raise `e` where `fails` says so, and end with `o` elsewhere. -/
def told (fails : Nat → Bool) (e : ε) (o : Except ε α) (first : Nat) : Nat → Except ε α :=
  fun i => if fails (first + i) then .error e else o

section

variable {σ : Type} {retryable : ε → Bool} {fails : Nat → Bool} {n first : Nat} {e : ε}
  {o : Except ε α} {attempt : σ → Option (Except ε α × σ)} {s s' : σ}

theorem again_told (he : retryable e = true) (ho : ¬ Again retryable o) {i : Nat} :
    Again retryable (told fails e o first i) ↔ fails (first + i) = true := by
  rw [told]
  split
  · rename_i hi
    exact ⟨fun _ => hi, fun _ => ⟨e, rfl, he⟩⟩
  · rename_i hi
    exact ⟨fun h => absurd h ho, fun h => absurd h hi⟩

/-- Where the count is once an attempt has not failed. -/
theorem passed_eq_some {k : Nat} : ∀ {left first : Nat}, k < left →
    (∀ i < k, fails (first + i) = true) → ¬ fails (first + k) = true →
      passed fails left first = some (first + (k + 1)) := by
  induction k with
  | zero =>
      intro left first hk _ hend
      cases left with
      | zero => exact absurd hk (Nat.lt_irrefl 0)
      | succ left => exact if_neg hend
  | succ k ih =>
      intro left first hk hagain hend
      cases left with
      | zero => exact absurd hk (Nat.not_lt_zero _)
      | succ left =>
          have hshift : ∀ i, first + (i + 1) = first + 1 + i := fun i => by omega
          have hrest : passed fails left (first + 1) = some (first + 1 + (k + 1)) :=
            ih (Nat.lt_of_succ_lt_succ hk)
              (fun i hi => hshift i ▸ hagain (i + 1) (Nat.succ_lt_succ hi)) (hshift k ▸ hend)
          have hfirst : fails first = true := hagain 0 (Nat.succ_pos k)
          rw [passed, if_pos hfirst, hrest, hshift (k + 1)]

/-- `retried` is the loop over the outcomes it is told of: it ends as the loop does, with the
operation done if some attempt has not failed, and counts the attempts the loop makes. -/
theorem retried_eq (fails : Nat → Bool) (first : Nat) (r : R) (fallThrough : Except ε α)
    (hn : 1 ≤ n) (he : retryable e = true) (ho : ¬ Again retryable o)
    (hattempt : attempt s = some (o, s')) (pause : Nat) :
    ∃ result, (retrying retryable n pause (told fails e o first) r []).1 = result.map some ∧
      retried fails e fallThrough attempt n (s, first) =
        some (result, if (passed fails n first).isSome then s' else s,
          first + (calls (retrying retryable n pause (told fails e o first) r []).2).length) := by
  rcases leading_cases retryable (told fails e o first) n with
    ⟨k, hk, hagain, hend⟩ | hagain
  · rw [retrying_ends hk hagain hend, calls_run, List.length_replicate]
    have hpassed := passed_eq_some hk (fun i hi => (again_told he ho).mp (hagain i hi))
      fun h => hend ((again_told he ho).mpr h)
    have hk' : told fails e o first k = o := if_neg fun h => hend ((again_told he ho).mpr h)
    refine ⟨o, by rw [hk'], ?_⟩
    rw [retried_of_passed hpassed, hattempt, hpassed]
    rfl
  · obtain ⟨k, rfl⟩ : ∃ k, n = k + 1 := ⟨n - 1, by omega⟩
    have hk : told fails e o first k = .error e :=
      if_pos ((again_told he ho).mp (hagain k (Nat.lt_succ_self k)))
    rw [retrying_exhausted rfl hagain hk, calls_run, List.length_replicate]
    have hpassed : passed fails (k + 1) first = none :=
      passed_eq_none.mpr fun i hi => (again_told he ho).mp (hagain i hi)
    refine ⟨.error e, rfl, ?_⟩
    rw [retried_of_not_passed hpassed, if_neg (Nat.succ_ne_zero k), hpassed]
    rfl

end

end Retry
