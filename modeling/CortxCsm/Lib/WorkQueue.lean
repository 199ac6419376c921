/-
# `CortxCsm.Lib.WorkQueue` — a queue with task accounting and one worker

`asyncio.Queue` counts what was put and is not yet `task_done`; `join` waits for the count to
be zero.  A worker takes an item, attempts it and reports it done, unless the attempt ends the
worker: then nobody reports the item, and nobody takes the next.

| | |
| :-- | :-- |
| `survives i` | the worker goes on after its `i`-th attempt |
| `Worker.busy` | an item is taken and not yet reported |
| `Worker.dead` | the worker's coroutine has ended; it is not started again |

**Proved here.**

    what was put is attempted or queued, and accounted for     (`Accounted.step`)
    a queue that is joined has nothing left                     (`Accounted.joined`)
    the worker empties the queue exactly if it survives all     (`drained_iff`)
-/
import Mathlib.Logic.Function.Iterate
import Mathlib.Data.List.Basic

namespace WorkQueue

inductive Worker
  | absent
  | idle
  | busy
  | dead
  deriving DecidableEq, Repr

structure State (ι : Type) where
  queue : List ι
  unfinished : Nat
  worker : Worker
  attempted : List ι
  deriving DecidableEq, Repr

variable {ι : Type}

/-- A queue that was just made. -/
def State.empty : State ι := ⟨[], 0, .absent, []⟩

/-- `put_nowait`. -/
def State.put (s : State ι) (item : ι) : State ι :=
  { s with queue := s.queue ++ [item], unfinished := s.unfinished + 1 }

def State.putAll (s : State ι) (items : List ι) : State ι := items.foldl State.put s

/-- A worker is started if there is none. -/
def State.start (s : State ι) : State ι :=
  match s.worker with
  | .absent => { s with worker := .idle }
  | _ => s

/-- What the worker does next: it takes an item and attempts it, or the attempt ends. -/
def State.work (survives : Nat → Bool) (s : State ι) : State ι :=
  match s.worker, s.queue with
  | .idle, item :: queue =>
      { s with queue, worker := .busy, attempted := s.attempted ++ [item] }
  | .busy, _ =>
      if survives (s.attempted.length - 1) then
        { s with worker := .idle, unfinished := s.unfinished - 1 }
      else { s with worker := .dead }
  | _, _ => s

/-- How many attempts have ended with a report. -/
def State.reported (s : State ι) : Nat :=
  match s.worker with
  | .absent | .idle => s.attempted.length
  | .busy | .dead => s.attempted.length - 1

/-! ### A worker that was started is there -/

theorem State.worker_putAll (items : List ι) : ∀ s : State ι, (s.putAll items).worker = s.worker := by
  induction items with
  | nil =>
      intro s
      rfl
  | cons item items ih =>
      intro s
      exact ih (s.put item)

theorem State.worker_start (s : State ι) : s.start.worker ≠ .absent := by
  unfold State.start
  cases hw : s.worker with
  | absent => simp
  | idle => simp [hw]
  | busy => simp [hw]
  | dead => simp [hw]

theorem State.worker_work {survives : Nat → Bool} {s : State ι} (h : s.worker ≠ .absent) :
    (s.work survives).worker ≠ .absent := by
  unfold State.work
  split
  · simp
  · split
    · simp
    · simp
  · exact h

theorem State.worker_iterate {survives : Nat → Bool} {s : State ι} (h : s.worker ≠ .absent) :
    ∀ k : Nat, ((State.work survives)^[k] s).worker ≠ .absent
  | 0 => h
  | k + 1 => by
      rw [Function.iterate_succ_apply']
      exact State.worker_work (State.worker_iterate h k)

/-! ### The account -/

/-- What is true of a queue that `items` were put in. -/
structure Accounted (survives : Nat → Bool) (items : List ι) (s : State ι) : Prop where
  split : items = s.attempted ++ s.queue
  count : s.unfinished + s.reported = items.length
  reported : ∀ i < s.reported, survives i = true
  fresh : s.worker = .absent → s.attempted = []
  taken : s.worker = .busy ∨ s.worker = .dead → s.attempted ≠ []
  ended : s.worker = .dead → survives (s.attempted.length - 1) = false

namespace Accounted

variable {survives : Nat → Bool} {items : List ι} {s : State ι}

theorem empty : Accounted survives ([] : List ι) .empty where
  split := rfl
  count := rfl
  reported i hi := absurd hi (Nat.not_lt_zero i)
  fresh _ := rfl
  taken h := by rcases h with h | h <;> cases h
  ended h := by cases h

theorem put (h : Accounted survives items s) (item : ι) :
    Accounted survives (items ++ [item]) (s.put item) where
  split := by
    show items ++ [item] = s.attempted ++ (s.queue ++ [item])
    rw [h.split, List.append_assoc]
  count := by
    show s.unfinished + 1 + s.reported = _
    rw [List.length_append, ← h.count, List.length_singleton]
    omega
  reported := h.reported
  fresh := h.fresh
  taken := h.taken
  ended := h.ended

theorem putAll (more : List ι) : ∀ {items : List ι} {s : State ι}, Accounted survives items s →
    Accounted survives (items ++ more) (s.putAll more) := by
  induction more with
  | nil =>
      intro items s h
      rw [List.append_nil]
      exact h
  | cons item more ih =>
      intro items s h
      have hrest := ih (h.put item)
      rwa [List.append_assoc] at hrest

theorem start (h : Accounted survives items s) : Accounted survives items s.start := by
  unfold State.start
  cases hw : s.worker with
  | absent =>
      have hfresh := h.fresh hw
      have hreported : s.reported = 0 := by simp [State.reported, hw, hfresh]
      have hcount := h.count
      rw [hreported] at hcount
      refine ⟨h.split, ?_, ?_, fun hn => (by cases hn), fun hn => ?_, fun hn => (by cases hn)⟩
      · show s.unfinished + s.attempted.length = _
        rw [hfresh]
        exact hcount
      · intro i hi
        have hi' : i < s.attempted.length := hi
        rw [hfresh] at hi'
        exact absurd hi' (Nat.not_lt_zero i)
      · rcases hn with hn | hn <;> cases hn
  | idle => exact h
  | busy => exact h
  | dead => exact h

/-- Whatever the worker does, the account is right. -/
theorem work (h : Accounted survives items s) : Accounted survives items (s.work survives) := by
  unfold State.work
  split
  · rename_i item queue hw hq
    have hreported : s.reported = s.attempted.length := by simp [State.reported, hw]
    have hcount := h.count
    rw [hreported] at hcount
    refine ⟨?_, ?_, ?_, fun hn => (by cases hn), fun _ => by simp, fun hn => (by cases hn)⟩
    · rw [h.split, hq]
      simp
    · show s.unfinished + ((s.attempted ++ [item]).length - 1) = _
      simpa using hcount
    · intro i hi
      refine h.reported i ?_
      rw [hreported]
      simpa [State.reported] using hi
  · rename_i hw
    have hne := h.taken (.inl hw)
    have hpos : 0 < s.attempted.length := List.length_pos_of_ne_nil hne
    have hreported : s.reported = s.attempted.length - 1 := by simp [State.reported, hw]
    have hcount := h.count
    have hlen : items.length = s.attempted.length + s.queue.length := by
      rw [h.split, List.length_append]
    rw [hreported] at hcount
    split
    · rename_i hsurvives
      refine ⟨h.split, ?_, ?_, fun hn => (by cases hn), fun hn => ?_, fun hn => (by cases hn)⟩
      · show s.unfinished - 1 + s.attempted.length = _
        omega
      · intro i hi
        have hi' : i < s.attempted.length := hi
        by_cases hlast : i < s.attempted.length - 1
        · exact h.reported i (by omega)
        · have hi'' : i = s.attempted.length - 1 := by omega
          rw [hi'']
          exact hsurvives
      · rcases hn with hn | hn <;> cases hn
    · rename_i hsurvives
      refine ⟨h.split, hcount, ?_, fun hn => (by cases hn), fun _ => hne, fun _ => ?_⟩
      · intro i hi
        exact h.reported i (by rw [hreported]; exact hi)
      · exact Bool.eq_false_iff.mpr hsurvives
  · exact h

theorem work_iterate (h : Accounted survives items s) :
    ∀ k : Nat, Accounted survives items ((State.work survives)^[k] s)
  | 0 => h
  | k + 1 => by
      rw [Function.iterate_succ_apply']
      exact (h.work_iterate k).work

/-- Nothing is left when the queue is joined: every item was attempted and survived. -/
theorem joined (h : Accounted survives items s) (hjoin : s.unfinished = 0) :
    s.queue = [] ∧ s.attempted = items ∧ ∀ i < items.length, survives i = true := by
  have hcount := h.count
  rw [hjoin, Nat.zero_add] at hcount
  have hlen : items.length = s.attempted.length + s.queue.length := by
    rw [h.split, List.length_append]
  have hle : s.reported ≤ s.attempted.length := by
    unfold State.reported
    split <;> omega
  have hqueue : s.queue = [] := List.length_eq_zero_iff.mp (by omega)
  refine ⟨hqueue, ?_, ?_⟩
  · rw [h.split, hqueue, List.append_nil]
  · intro i hi
    exact h.reported i (by omega)

end Accounted

/-! ## Emptying the queue -/

section Drain

variable {survives : Nat → Bool} {items : List ι} {s : State ι}

/-- The worker comes to the end of the queue, as long as it survives. -/
theorem exists_drained : ∀ {n : Nat} {s : State ι}, s.queue.length = n → s.worker = .idle →
    Accounted survives items s → (∀ i < items.length, survives i = true) →
      ∃ k, ((State.work survives)^[k] s).unfinished = 0
  | 0, s, hlen, hw, h, _ => by
      refine ⟨0, ?_⟩
      have hcount := h.count
      have hreported : s.reported = s.attempted.length := by simp [State.reported, hw]
      rw [hreported, h.split, List.length_append, hlen] at hcount
      show s.unfinished = 0
      omega
  | n + 1, s, hlen, hw, h, hall => by
      cases hq : s.queue with
      | nil =>
          rw [hq] at hlen
          cases hlen
      | cons item queue =>
          have htake : s.work survives =
              { s with queue, worker := .busy, attempted := s.attempted ++ [item] } := by
            simp only [State.work, hw, hq]
          have hlast : survives s.attempted.length = true := by
            refine hall _ ?_
            rw [h.split, hq]
            simp
          have hreport : (s.work survives).work survives =
              ⟨queue, s.unfinished - 1, .idle, s.attempted ++ [item]⟩ := by
            rw [htake]
            simp [State.work, hlast]
          have hrest : ((s.work survives).work survives).queue.length = n := by
            rw [hreport]
            rw [hq] at hlen
            exact Nat.succ.inj hlen
          obtain ⟨k, hk⟩ := exists_drained hrest (by rw [hreport]) h.work.work hall
          exact ⟨k + 2, hk⟩

/-- A worker that was started empties the queue exactly if it survives what was put. -/
theorem drained_iff (h : Accounted survives items s) (hw : s.worker ≠ .absent) :
    (∃ k, ((State.work survives)^[k] s).unfinished = 0) ↔
      ∀ i < items.length, survives i = true := by
  constructor
  · rintro ⟨k, hk⟩
    exact ((h.work_iterate k).joined hk).2.2
  · intro hall
    have hidle : ∀ {t : State ι}, Accounted survives items t → t.worker = .idle →
        ∃ k, ((State.work survives)^[k] t).unfinished = 0 := fun ht hidle =>
      exists_drained rfl hidle ht hall
    have hlast : s.attempted ≠ [] → survives (s.attempted.length - 1) = true := by
      intro hne
      have hpos := List.length_pos_of_ne_nil hne
      refine hall _ ?_
      rw [h.split, List.length_append]
      omega
    cases hworker : s.worker with
    | absent => exact absurd hworker hw
    | idle => exact hidle h hworker
    | busy =>
        have hreport : (s.work survives).worker = .idle := by
          simp [State.work, hworker, hlast (h.taken (.inl hworker))]
        obtain ⟨k, hk⟩ := hidle h.work hreport
        exact ⟨k + 1, hk⟩
    | dead =>
        have hsurvives := hlast (h.taken (.inr hworker))
        rw [h.ended hworker] at hsurvives
        cases hsurvives

end Drain

end WorkQueue
