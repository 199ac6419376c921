/-
# `CortxCsm.ExpiryWarnings` — warnings that the SSL certificate expires

`SecurityService.check_certificate_expiry_time_task` of `archive/core/services/security.py`
looks at the certificate when it is started and then at every midnight (UTC), and warns where the
days that are left are among the configured ones.  A check that begins late, because its sleep
or the check before it has taken long, counts the days from the day on which it begins.

Times are microseconds in UTC.  The configuration that is shipped has the days as texts, and a
number is not among texts.

**Proved here.**

    a day is checked exactly if the check aimed at it begins on it  (`onTime_iff`)
    it does where no sleep and no check takes half a day            (`onTime_of_short`)
    every warning that is due with a day left or more is sent once, for all
    certificates, exactly if the checks begin on their days         (`warnings_exact`)
-/
import CortxCsm.Lib.Schedule
import Mathlib.Tactic.Linarith
import Mathlib.Tactic.Ring

namespace CortxCsm

namespace ExpiryWarnings

/-! ## Time -/

def DAY : ℤ := 24 * 60 * 60 * 1000000

/-- `time.date()`, as a number of days. -/
def date (time : ℤ) : ℤ := time / DAY

/-- `datetime(today.year, today.month, today.day)`. -/
def midnight (today : ℤ) : ℤ := today * DAY

theorem le_date {today time : ℤ} : today ≤ date time ↔ midnight today ≤ time :=
  Int.le_ediv_iff_mul_le (by decide)

theorem date_lt {today time : ℤ} : date time < today ↔ time < midnight today :=
  Int.ediv_lt_iff_lt_mul (by decide)

theorem date_mono {time time' : ℤ} (h : time ≤ time') : date time ≤ date time' :=
  Int.ediv_le_ediv (by decide) h

theorem midnight_succ (today : ℤ) : midnight (today + 1) = midnight today + DAY := by
  unfold midnight
  ring

/-! ## `_timer_task` -/

/-- One pass of the loop: how long after its time the sleep ends, and how long the handler
takes. -/
structure Pass where
  late : ℤ
  length : ℤ
  late_nonneg : 0 ≤ late
  length_nonneg : 0 ≤ length

/-- The variables of `_timer_task`. -/
structure Timer where
  start : ℤ
  interval : ℤ
  current : ℤ

namespace Timer

/-- The `current` that a pass hands to the handler. -/
def looks (self : Timer) (pass : Pass) : ℤ :=
  let delta := self.start - self.current
  if delta > 0 then self.start + pass.late else self.current

def _timer_task (self : Timer) (pass : Pass) : Timer :=
  { self with
    current := self.looks pass + pass.length
    start := self.start + self.interval }

def after (self : Timer) (passes : ℕ → Pass) : ℕ → Timer
  | 0 => self
  | n + 1 => (self.after passes n)._timer_task (passes n)

theorem start_le_looks (self : Timer) (pass : Pass) : self.start ≤ self.looks pass := by
  have hlate := pass.late_nonneg
  unfold looks
  dsimp only
  split
  · linarith
  · linarith

theorem current_le_looks (self : Timer) (pass : Pass) : self.current ≤ self.looks pass := by
  have hlate := pass.late_nonneg
  unfold looks
  dsimp only
  split
  · linarith
  · exact le_refl _

/-- A pass is late by its sleep, or begins at once. -/
theorem looks_le (self : Timer) (pass : Pass) :
    self.looks pass ≤ self.start + pass.late ∨ self.looks pass ≤ self.current := by
  unfold looks
  dsimp only
  split
  · exact .inl (le_refl _)
  · exact .inr (le_refl _)

end Timer

/-- `check_certificate_expiry_time_task`, started at that time. -/
def check_certificate_expiry_time_task (now : ℤ) : Timer :=
  ⟨midnight (date now), DAY, now⟩

section Passes

variable (now : ℤ) (passes : ℕ → Pass)

/-- When check `n` begins. -/
def looked (n : ℕ) : ℤ :=
  ((check_certificate_expiry_time_task now).after passes n).looks (passes n)

theorem interval_after (n : ℕ) :
    ((check_certificate_expiry_time_task now).after passes n).interval = DAY := by
  induction n with
  | zero => rfl
  | succ n ih => exact ih

/-- Check `n` is aimed at the midnight of the `n`-th day. -/
theorem start_after (n : ℕ) :
    ((check_certificate_expiry_time_task now).after passes n).start = midnight (date now + n) := by
  induction n with
  | zero =>
      rw [Nat.cast_zero, add_zero]
      rfl
  | succ n ih =>
      show (Timer.after _ passes n).start + (Timer.after _ passes n).interval = _
      rw [ih, interval_after, Nat.cast_succ, ← add_assoc, midnight_succ]

theorem looked_zero : looked now passes 0 = now := by
  have hstarted : midnight (date now) ≤ now := le_date.mp (le_refl _)
  exact if_neg (not_lt.mpr (sub_nonpos.mpr hstarted))

theorem le_date_looked (n : ℕ) : date now + n ≤ date (looked now passes n) := by
  rw [le_date, ← start_after now passes n]
  exact Timer.start_le_looks _ _

theorem looked_next (n : ℕ) :
    looked now passes n + (passes n).length ≤ looked now passes (n + 1) :=
  Timer.current_le_looks _ _

theorem looked_next_le (n : ℕ) :
    looked now passes (n + 1) ≤ midnight (date now + (n + 1 : ℕ)) + (passes (n + 1)).late ∨
      looked now passes (n + 1) ≤ looked now passes n + (passes n).length := by
  rw [← start_after now passes (n + 1)]
  exact Timer.looks_le _ _

/-! ## The day of a check -/

/-- The first checks, up to the `N`-th, begin on the days that they are aimed at. -/
def OnTime (N : ℕ) : Prop := ∀ n ≤ N, date (looked now passes n) = date now + n

/-- Each of the days is checked exactly if each check begins on its day: no check begins before
its day, so a day that a later check has missed is missed by all. -/
theorem onTime_iff (N : ℕ) :
    OnTime now passes N ↔ ∀ k ≤ N, ∃ n, date (looked now passes n) = date now + k := by
  constructor
  · exact fun h k hk => ⟨k, h k hk⟩
  · intro h n
    induction n using Nat.strongRecOn with
    | ind n ih =>
        intro hn
        obtain ⟨m, hm⟩ := h n hn
        have hmn : m ≤ n := by
          have hday := le_date_looked now passes m
          omega
        rcases hmn.lt_or_eq with hlt | rfl
        · have hearlier := ih m hlt (hlt.le.trans hn)
          omega
        · exact hm

/-- A day with its check begun on it has no other check, if those before it are on time. -/
theorem eq_of_date {N n k : ℕ} (h : OnTime now passes N) (hk : k ≤ N)
    (hn : date (looked now passes n) = date now + k) : n = k := by
  have hday := le_date_looked now passes n
  have hnk : n ≤ k := by omega
  have hown := h n (hnk.trans hk)
  omega

/-- Where sleeps and checks take half a day at most, the checks begin on their days. -/
theorem onTime_of_short (hlate : ∀ n, 2 * (passes n).late ≤ DAY)
    (hlength : ∀ n, 2 * (passes n).length ≤ DAY) (N : ℕ) : OnTime now passes N := by
  have hpos : 0 < DAY := by decide
  have hsucc : ∀ n : ℕ, midnight (date now + (n + 1 : ℕ)) = midnight (date now + n) + DAY := by
    intro n
    rw [Nat.cast_succ, ← add_assoc, midnight_succ]
  have htoday : now < midnight (date now) + DAY := by
    rw [← midnight_succ]
    exact date_lt.mp (lt_add_one _)
  -- from the first midnight on, a check has begun by noon
  have hnoon : ∀ n : ℕ, 2 * looked now passes (n + 1) ≤
      2 * midnight (date now + (n + 1 : ℕ)) + DAY := by
    refine Schedule.begins_le_due (fun n : ℕ => 2 * midnight (date now + (n + 1 : ℕ)) + DAY)
      (fun n => 2 * (passes (n + 1)).length) ?_ ?_ ?_
    · have hl := hlate 1
      have hw := hlength 0
      have hday := hsucc 0
      rw [Nat.cast_zero, add_zero] at hday
      rcases looked_next_le now passes 0 with hle | hle
      · linarith
      · rw [looked_zero] at hle
        linarith
    · intro n
      have hl := hlate (n + 2)
      rcases looked_next_le now passes (n + 1) with hle | hle
      · exact .inl (by linarith)
      · exact .inr (by linarith)
    · intro n
      have hw := hlength (n + 1)
      have hday := hsucc (n + 1)
      linarith
  intro n _
  refine le_antisymm ?_ (le_date_looked now passes n)
  rw [← Int.lt_add_one_iff, date_lt, midnight_succ]
  cases n with
  | zero =>
      rw [looked_zero, Nat.cast_zero, add_zero]
      exact htoday
  | succ n =>
      have hn := hnoon n
      linarith

end Passes

/-! ## `_check_certificate_expiry_time` -/

/-- An entry of the configured days. -/
inductive WarningDay
  | text (s : String)
  | number (n : ℤ)
  deriving DecidableEq

/-- `SECURITY>ssl_cert_expiry_warning_days` of `csm.conf`. -/
def ssl_cert_expiry_warning_days : List WarningDay := [.text "30", .text "5", .text "1", .text "0"]

inductive Warning
  | expired (expiry_time : ℤ)
  | left (expiry_time days_left : ℤ)
  deriving DecidableEq

/-- The handler; `warning_days` is `none` where nothing is configured, which raises where it is
looked at, and `certificate` where the certificate cannot be loaded. -/
def _check_certificate_expiry_time (warning_days : Option (List WarningDay))
    (certificate : Option ℤ) (current_time : ℤ) : Option Warning :=
  match certificate with
  | none => none
  | some expiry_time =>
      let days_left := date expiry_time - date current_time
      if expiry_time < current_time then some (.expired expiry_time)
      else
        match warning_days with
        | none => none
        | some warning_days =>
            if .number days_left ∈ warning_days then some (.left expiry_time days_left) else none

theorem check_left_iff {warning_days : Option (List WarningDay)} {certificate : Option ℤ}
    {current_time expiry_time days_left : ℤ} :
    _check_certificate_expiry_time warning_days certificate current_time =
        some (.left expiry_time days_left) ↔
      certificate = some expiry_time ∧ current_time ≤ expiry_time ∧
        date current_time = date expiry_time - days_left ∧
          ∃ days, warning_days = some days ∧ .number days_left ∈ days := by
  unfold _check_certificate_expiry_time
  cases certificate with
  | none => exact iff_of_false (fun h => by cases h) fun h => by cases h.1
  | some e =>
      dsimp only
      by_cases hexpired : e < current_time
      · rw [if_pos hexpired]
        refine iff_of_false (fun h => by cases h) fun h => ?_
        cases h.1
        exact absurd hexpired (not_lt.mpr h.2.1)
      · rw [if_neg hexpired]
        cases warning_days with
        | none =>
            refine iff_of_false (fun h => by cases h) fun h => ?_
            obtain ⟨-, -, -, days, hdays, -⟩ := h
            cases hdays
        | some days =>
            dsimp only
            by_cases hlisted : .number (date e - date current_time) ∈ days
            · rw [if_pos hlisted]
              constructor
              · intro h
                cases h
                exact ⟨rfl, not_lt.mp hexpired, by ring, days, rfl, hlisted⟩
              · rintro ⟨h, -, hday, -⟩
                cases h
                rw [hday, sub_sub_cancel]
            · rw [if_neg hlisted]
              refine iff_of_false (fun h => by cases h) fun h => ?_
              obtain ⟨he, -, hday, days', hdays, hmem⟩ := h
              cases he
              cases hdays
              rw [hday, sub_sub_cancel] at hlisted
              exact hlisted hmem

theorem date_midnight (today : ℤ) : date (midnight today) = today :=
  Int.mul_ediv_cancel today (by decide)

theorem looked_mono (now : ℤ) (passes : ℕ → Pass) {n m : ℕ} (h : n ≤ m) :
    looked now passes n ≤ looked now passes m := by
  induction m, h using Nat.le_induction with
  | base => exact le_refl _
  | succ m _ ih =>
      have hlength := (passes m).length_nonneg
      have hnext := looked_next now passes m
      linarith

/-! ## Every warning once -/

/-- **Warnings of the expiry.**  Whenever the task is started, and however long its sleeps and
checks take: a warning that so many days are left is sent on that day only, before the expiry
and if the number is among the configured ones; each such warning that at least one day is left,
for the days up to the `N`-th, is sent exactly once, for every certificate, if and only if the
checks up to the `N`-th begin on the days that they are aimed at; and they do where sleeps and
checks take half a day at most.  On the last day itself a check may come after the expiry.
Once a check has found the certificate expired all that follow say so.  As the configuration is
shipped, none ever says how many days are left. -/
theorem warnings_exact (now : ℤ) (passes : ℕ → Pass) (N : ℕ) :
    let sent := fun warning_days certificate n =>
      _check_certificate_expiry_time (some warning_days) certificate (looked now passes n)
    (∀ warning_days certificate n expiry_time days_left,
        sent warning_days certificate n = some (.left expiry_time days_left) ↔
          certificate = some expiry_time ∧ looked now passes n ≤ expiry_time ∧
            date (looked now passes n) = date expiry_time - days_left ∧
              .number days_left ∈ warning_days) ∧
      (OnTime now passes N ↔ ∀ warning_days expiry_time days_left,
        .number days_left ∈ warning_days → 0 < days_left →
          date now ≤ date expiry_time - days_left → date expiry_time - days_left ≤ date now + N →
            ∃! n, sent warning_days (some expiry_time) n = some (.left expiry_time days_left)) ∧
      ((∀ n, 2 * (passes n).late ≤ DAY ∧ 2 * (passes n).length ≤ DAY) → OnTime now passes N) ∧
      (∀ warning_days expiry_time n, expiry_time < looked now passes n → ∀ m ≥ n,
        sent warning_days (some expiry_time) m = some (.expired expiry_time)) ∧
      ∀ certificate n expiry_time days_left,
        sent ssl_cert_expiry_warning_days certificate n ≠ some (.left expiry_time days_left) := by
  intro sent
  have hleft : ∀ warning_days certificate n expiry_time days_left,
      sent warning_days certificate n = some (.left expiry_time days_left) ↔
        certificate = some expiry_time ∧ looked now passes n ≤ expiry_time ∧
          date (looked now passes n) = date expiry_time - days_left ∧
            .number days_left ∈ warning_days := by
    intro warning_days certificate n expiry_time days_left
    rw [check_left_iff]
    simp only [Option.some.injEq, exists_eq_left']
  refine ⟨hleft, ⟨fun h => ?_, fun h => ?_⟩, fun h => ?_, ?_, ?_⟩
  · intro warning_days expiry_time days_left hlisted hpos hfrom hto
    obtain ⟨k, hk⟩ := Int.eq_ofNat_of_zero_le (sub_nonneg.mpr hfrom)
    have hkN : k ≤ N := by omega
    have hday : date (looked now passes k) = date expiry_time - days_left := by
      have hown := h k hkN
      omega
    have hbefore : looked now passes k < expiry_time := by
      by_contra hnot
      have hmono := date_mono (not_lt.mp hnot)
      omega
    refine ⟨k, (hleft _ _ _ _ _).mpr ⟨rfl, hbefore.le, hday, hlisted⟩, fun n hn => ?_⟩
    obtain ⟨-, -, hother, -⟩ := (hleft _ _ _ _ _).mp hn
    exact eq_of_date now passes h hkN (by omega)
  · rw [onTime_iff]
    intro k hk
    obtain ⟨n, hn, -⟩ := h [.number 1] (midnight (date now + k + 1)) 1 List.mem_cons_self
      one_pos (by rw [date_midnight]; omega) (by rw [date_midnight]; omega)
    obtain ⟨-, -, hday, -⟩ := (hleft _ _ _ _ _).mp hn
    rw [date_midnight, add_sub_cancel_right] at hday
    exact ⟨n, hday⟩
  · exact onTime_of_short now passes (fun n => (h n).1) (fun n => (h n).2) N
  · intro warning_days expiry_time n hexpired m hm
    exact if_pos (hexpired.trans_le (looked_mono now passes hm))
  · intro certificate n expiry_time days_left hsent
    obtain ⟨-, -, -, hlisted⟩ := (hleft _ _ _ _ _).mp hsent
    simp [ssl_cert_expiry_warning_days] at hlisted

/-- A second of sleep too much, and a minute for the check. -/
def samplePass : Pass := ⟨1000000, 60 * 1000000, by decide, by decide⟩

/-- Started at ten in the morning, the task warns once of a certificate that expires on the fifth
day, two days before. -/
theorem warnings_exact_twoDays :
    ∃! n, _check_certificate_expiry_time (some [.number 2]) (some (midnight 5))
      (looked (10 * 60 * 60 * 1000000) (fun _ => samplePass) n) =
        some (.left (midnight 5) 2) := by
  obtain ⟨-, honce, hshort, -⟩ :=
    warnings_exact (10 * 60 * 60 * 1000000) (fun _ => samplePass) 3
  have honTime := hshort fun _ => ⟨by decide, by decide⟩
  exact honce.mp honTime [.number 2] (midnight 5) 2 (by decide) (by decide) (by decide)
    (by decide)

end ExpiryWarnings

end CortxCsm
