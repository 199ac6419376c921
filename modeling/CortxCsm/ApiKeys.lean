/-
# `CortxCsm.ApiKeys` — the API key of USL, renewed by a periodic task

`Periodic._handler` of `csm/common/periodic.py` waits until `at`, runs its coroutine, and adds
the period to `at`, whatever became of the coroutine.  `UslApiKeyDispatcher` of
`archive/core/services/usl.py` has it store a new key once a day; the key that requests are
compared with is set after the store.  Without a key so far it is `None`, which is also what a
request without the header is compared with.

| | |
| :-- | :-- |
| `Turn` | one turn of the loop: the sleep may end late, the coroutine takes its time |
| `Periodic.after` | the task after so many turns; where it is cancelled, there are no more |

**Proved here.**

    no turn begins before the one before it is over           (`began_next`)
    a turn is never early, and late only for turns before it  (`began_exact`)
    with short turns none is late                             (`began_punctual`)
    the accepted key is the last one that was stored; a request without
    one passes exactly as long as no store has come through   (`api_key_exact`)
-/
import CortxCsm.Lib.Schedule
import Mathlib.Data.Rat.BigOperators
import Mathlib.Tactic.Linarith
import Mathlib.Tactic.Ring

namespace CortxCsm.ApiKeys

open Finset

/-! ## `Periodic` -/

/-- One turn of the loop: how long after its time the sleep ends, how long the coroutine takes,
and what it does. -/
structure Turn (σ : Type) where
  late : ℚ
  length : ℚ
  coro : σ → σ
  late_nonneg : 0 ≤ late
  length_nonneg : 0 ≤ length

/-- The task between two turns; `now` is the time. -/
structure Periodic (σ : Type) where
  period : ℚ
  at_ : ℚ
  now : ℚ
  state : σ

namespace Periodic

variable {σ : Type}

/-- When the next turn runs the coroutine. -/
def launch (p : Periodic σ) (turn : Turn σ) : ℚ :=
  let delta := p.at_ - p.now
  if delta > 0 then p.at_ + turn.late else p.now

/-- One turn of `_handler`. -/
def _handler (p : Periodic σ) (turn : Turn σ) : Periodic σ :=
  { p with
    now := p.launch turn + turn.length
    state := turn.coro p.state
    at_ := p.at_ + p.period }

def after (p : Periodic σ) (turns : ℕ → Turn σ) : ℕ → Periodic σ
  | 0 => p
  | n + 1 => (p.after turns n)._handler (turns n)

/-- When turn `n` runs the coroutine. -/
def began (p : Periodic σ) (turns : ℕ → Turn σ) (n : ℕ) : ℚ := (p.after turns n).launch (turns n)

variable (p : Periodic σ) (turns : ℕ → Turn σ)

@[simp] theorem after_zero : p.after turns 0 = p := rfl

@[simp] theorem after_succ (n : ℕ) :
    p.after turns (n + 1) = (p.after turns n)._handler (turns n) := rfl

theorem period_after (n : ℕ) : (p.after turns n).period = p.period := by
  induction n with
  | zero => rfl
  | succ n ih => exact ih

theorem at_after (n : ℕ) : (p.after turns n).at_ = p.at_ + n * p.period := by
  induction n with
  | zero => simp
  | succ n ih =>
      show (p.after turns n).at_ + (p.after turns n).period = _
      rw [ih, period_after, Nat.cast_succ]
      ring

theorem now_after_succ (n : ℕ) :
    (p.after turns (n + 1)).now = p.began turns n + (turns n).length := rfl

/-! ## When the turns run -/

theorem at_le_launch (turn : Turn σ) : p.at_ ≤ p.launch turn := by
  have hlate := turn.late_nonneg
  unfold launch
  dsimp only
  split
  · linarith
  · linarith

theorem now_le_launch (turn : Turn σ) : p.now ≤ p.launch turn := by
  have hlate := turn.late_nonneg
  unfold launch
  dsimp only
  split
  · linarith
  · exact le_refl _

/-- A turn runs late by its sleep, or at once. -/
theorem launch_le (turn : Turn σ) :
    p.launch turn ≤ p.at_ + turn.late ∨ p.launch turn ≤ p.now := by
  unfold launch
  dsimp only
  split
  · exact .inl (le_refl _)
  · exact .inr (le_refl _)

theorem due_le_began (n : ℕ) : p.at_ + n * p.period ≤ p.began turns n := by
  rw [← at_after p turns n]
  exact at_le_launch _ _

/-- No turn begins while another one runs. -/
theorem began_next (n : ℕ) :
    p.began turns n + (turns n).length ≤ p.began turns (n + 1) := by
  rw [← now_after_succ]
  exact now_le_launch _ _

/-- When turn `n` would run if it waited for none before it. -/
def due (n : ℕ) : ℚ := if n = 0 then p.began turns 0 else p.at_ + n * p.period + (turns n).late

theorem began_next_le (n : ℕ) :
    p.began turns (n + 1) ≤ p.due turns (n + 1) ∨
      p.began turns (n + 1) ≤ p.began turns n + (turns n).length := by
  rw [due, if_neg (Nat.succ_ne_zero n), ← now_after_succ, ← at_after p turns (n + 1)]
  exact launch_le _ _

/-- Turn `n` is not early, and a turn that is late waited for those since the last one that did
not wait. -/
theorem began_exact (n : ℕ) :
    (∀ k ≤ n, p.at_ + k * p.period + ∑ i ∈ Ico k n, (turns i).length ≤ p.began turns n) ∧
      ∃ k ≤ n, p.began turns n ≤ p.due turns k + ∑ i ∈ Ico k n, (turns i).length := by
  constructor
  · intro k hk
    exact Schedule.le_begins (due_le_began p turns) (began_next p turns) k n hk
  · refine Schedule.begins_le ?_ (began_next_le p turns) n
    rw [due, if_pos rfl]

/-- Turns that are over within the period are late by their own sleep at most. -/
theorem began_punctual {late length : ℚ} (hlate : ∀ n, (turns n).late ≤ late)
    (hlength : ∀ n, (turns n).length ≤ length) (hperiod : late + length ≤ p.period)
    (hfirst : p.now ≤ p.at_ + late) (n : ℕ) :
    p.began turns n ≤ p.at_ + n * p.period + late := by
  refine Schedule.begins_le_due (fun n : ℕ => p.at_ + n * p.period + late)
    (fun n => (turns n).length) ?_ ?_ ?_ n
  · show p.launch (turns 0) ≤ p.at_ + ((0 : ℕ) : ℚ) * p.period + late
    have h0 := hlate 0
    rcases launch_le p (turns 0) with hle | hle
    · simp only [Nat.cast_zero]
      linarith
    · simp only [Nat.cast_zero]
      linarith
  · intro n
    refine (began_next_le p turns n).imp (fun hle => hle.trans ?_) id
    have hn := hlate (n + 1)
    rw [due, if_neg (Nat.succ_ne_zero n)]
    linarith
  · intro n
    have hn := hlength n
    have hnonneg := (turns n).late_nonneg.trans (hlate n)
    simp only [Nat.cast_succ]
    linarith

end Periodic

/-! ## `UslApiKeyDispatcher` -/

/-- A turn in which the key is renewed; `stores` says whether the store comes through. -/
structure KeyTurn where
  late : ℚ
  length : ℚ
  late_nonneg : 0 ≤ late
  length_nonneg : 0 ≤ length
  new_key : String
  stores : Bool

/-- `_update_key`, on `self._key`. -/
def _update_key (turn : KeyTurn) (_key : Option String) : Option String :=
  if turn.stores then some turn.new_key else _key

def KeyTurn.turn (turn : KeyTurn) : Turn (Option String) :=
  ⟨turn.late, turn.length, _update_key turn, turn.late_nonneg, turn.length_nonneg⟩

def validate_key (_key request_key : Option String) : Bool := decide (_key = request_key)

/-- `_validate_api_key` of the views; `api_key_security` is the configured value. -/
def _validate_api_key (api_key_security : Option String) (_key request_key : Option String) :
    Bool :=
  if api_key_security = some "false" then true else validate_key _key request_key

def USL_API_KEY_UPDATE_PERIOD : ℚ := 24 * 60 * 60

/-- The dispatcher, started at `start`; its task comes to run at `now`. -/
structure UslApiKeyDispatcher where
  start : ℚ
  now : ℚ
  started : start ≤ now

namespace UslApiKeyDispatcher

variable (d : UslApiKeyDispatcher) (turns : ℕ → KeyTurn)

def _updater : Periodic (Option String) := ⟨USL_API_KEY_UPDATE_PERIOD, d.start, d.now, none⟩

/-- The task after `n` turns; its state is `self._key`. -/
def after (n : ℕ) : Periodic (Option String) := d._updater.after (fun i => (turns i).turn) n

/-- When turn `n` renews the key. -/
def began (n : ℕ) : ℚ := d._updater.began (fun i => (turns i).turn) n

end UslApiKeyDispatcher

/-- The keys that were stored in the first `n` turns. -/
def stored (turns : ℕ → KeyTurn) (n : ℕ) : List String :=
  (List.range n).filterMap fun i =>
    if (turns i).stores then some (turns i).new_key else none

theorem stored_succ (turns : ℕ → KeyTurn) (n : ℕ) : stored turns (n + 1) =
    stored turns n ++ (if (turns n).stores then [(turns n).new_key] else []) := by
  unfold stored
  rw [List.range_succ, List.filterMap_append]
  split
  · rename_i h
    simp [h]
  · rename_i h
    simp [h]

theorem stored_eq_nil {turns : ℕ → KeyTurn} {n : ℕ} :
    stored turns n = [] ↔ ∀ i < n, (turns i).stores = false := by
  unfold stored
  rw [List.filterMap_eq_nil_iff]
  constructor
  · intro h i hi
    have hnone := h i (List.mem_range.mpr hi)
    by_contra hstores
    rw [if_pos (Bool.eq_true_of_not_eq_false hstores)] at hnone
    cases hnone
  · intro h i hi
    rw [h i (List.mem_range.mp hi)]
    rfl

variable (d : UslApiKeyDispatcher) (turns : ℕ → KeyTurn)

theorem key_after (n : ℕ) : (d.after turns n).state = (stored turns n).getLast? := by
  induction n with
  | zero => rfl
  | succ n ih =>
      show _update_key (turns n) (d.after turns n).state = _
      rw [ih, _update_key, stored_succ]
      split
      · rw [List.getLast?_append]
        rfl
      · rw [List.append_nil]

/-- **The API key.**  After any number of turns, whichever of their stores failed, requests pass
with the key that was stored last, and without a key exactly if nothing has been stored yet,
unless the check is configured away.  The turns begin a day apart as far as the work allows: none
is early, none runs while another does, and a late one waited for those since one that did not
wait.  Where sleep and work of every turn fit into a day, a key is replaced within a day and that
time. -/
theorem api_key_exact (n : ℕ) :
    (∀ api_key_security request_key,
        _validate_api_key api_key_security (d.after turns n).state request_key = true ↔
          api_key_security = some "false" ∨ request_key = (stored turns n).getLast?) ∧
      (validate_key (d.after turns n).state none = true ↔
        ∀ i < n, (turns i).stores = false) ∧
      d.began turns n + (turns n).length ≤ d.began turns (n + 1) ∧
      (∀ k ≤ n, d.start + k * USL_API_KEY_UPDATE_PERIOD +
        ∑ i ∈ Ico k n, (turns i).length ≤ d.began turns n) ∧
      (∃ k ≤ n, d.began turns n ≤
        (if k = 0 then d.now else d.start + k * USL_API_KEY_UPDATE_PERIOD + (turns k).late) +
          ∑ i ∈ Ico k n, (turns i).length) ∧
      ∀ late length : ℚ, (∀ i, (turns i).late ≤ late) → (∀ i, (turns i).length ≤ length) →
        late + length ≤ USL_API_KEY_UPDATE_PERIOD → d.now ≤ d.start + late →
          (d.after turns (n + 2)).now - (d.after turns (n + 1)).now ≤
            USL_API_KEY_UPDATE_PERIOD + late + length := by
  have hkey := key_after d turns n
  obtain ⟨hlower, hupper⟩ := d._updater.began_exact (fun i => (turns i).turn) n
  refine ⟨?_, ?_, d._updater.began_next (fun i => (turns i).turn) n, hlower, ?_, ?_⟩
  · intro api_key_security request_key
    rw [_validate_api_key, hkey]
    split
    · rename_i hoff
      exact iff_of_true rfl (.inl hoff)
    · rename_i hon
      rw [or_iff_right hon, validate_key, decide_eq_true_eq]
      exact eq_comm
  · rw [validate_key, decide_eq_true_eq, hkey, List.getLast?_eq_none_iff]
    exact stored_eq_nil
  · obtain ⟨k, hk, hle⟩ := hupper
    refine ⟨k, hk, hle.trans (add_le_add_left ?_ _)⟩
    unfold Periodic.due
    split
    · -- the task is started with its first time not in the future
      have hnot : ¬ d.start - d.now > 0 := not_lt.mpr (sub_nonpos.mpr d.started)
      exact le_of_eq (if_neg hnot)
    · exact le_refl _
  · intro late length hlate hlength hperiod hfirst
    have hnext := d._updater.began_punctual (fun i => (turns i).turn) hlate hlength hperiod
      hfirst (n + 1)
    have hdue := d._updater.due_le_began (fun i => (turns i).turn) n
    have hlong := hlength (n + 1)
    have hshort := (turns n).length_nonneg
    have hend : (d.after turns (n + 2)).now = d.began turns (n + 1) + (turns (n + 1)).length :=
      rfl
    have hbefore : (d.after turns (n + 1)).now = d.began turns n + (turns n).length := rfl
    have hperiodic : d._updater.period = USL_API_KEY_UPDATE_PERIOD := rfl
    rw [hperiodic] at hnext hdue
    simp only [Nat.cast_succ] at hnext
    rw [hend, hbefore]
    unfold UslApiKeyDispatcher.began
    linarith

/-! ## Two days -/

/-- The first store fails; every turn is one second late and takes two. -/
def sampleTurns (n : ℕ) : KeyTurn where
  late := 1
  length := 2
  late_nonneg := by norm_num
  length_nonneg := by norm_num
  new_key := toString n
  stores := decide (n ≠ 0)

def sampleDispatcher : UslApiKeyDispatcher := ⟨0, 1, by norm_num⟩

/-- On the second day the key is the second turn's, and no request passes without one. -/
theorem api_key_exact_secondDay :
    _validate_api_key none (sampleDispatcher.after sampleTurns 2).state (some "1") = true ∧
      ¬ validate_key (sampleDispatcher.after sampleTurns 2).state none = true ∧
      sampleDispatcher.began sampleTurns 2 + 2 ≤ sampleDispatcher.began sampleTurns 3 ∧
      (sampleDispatcher.after sampleTurns 4).now - (sampleDispatcher.after sampleTurns 3).now ≤
        USL_API_KEY_UPDATE_PERIOD + 1 + 2 := by
  obtain ⟨hpass, hnone, hnext, -, -, hreplaced⟩ :=
    api_key_exact sampleDispatcher sampleTurns 2
  refine ⟨(hpass none (some "1")).mpr (.inr rfl), fun h => ?_, hnext, ?_⟩
  · have hfailed := hnone.mp h 1 (by decide)
    cases hfailed
  · exact hreplaced 1 2 (fun _ => le_refl _) (fun _ => le_refl _)
      (by norm_num [USL_API_KEY_UPDATE_PERIOD]) (by norm_num [sampleDispatcher])

end CortxCsm.ApiKeys
