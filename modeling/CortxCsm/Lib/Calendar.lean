/-
# `CortxCsm.Lib.Calendar` — days and dates

Days are counted from the first of January of the year 1, in the calendar that is in use today
carried back to then.  A date is found by going through the years and then the months: both
are stretches of days that lie one after the other, and `locate` says in which stretch a day
falls and where in it.

**Proved here.**

    a later day is in a later stretch, or later in the same one     (`locate_mono`)
    a later day has a later date                                    (`Date.ofDay_mono`)
-/
import Mathlib.Data.Nat.Notation
import Mathlib.Order.Defs.LinearOrder

namespace Calendar

/-! ## Stretches -/

/-- The stretch from the `i`-th on in which `n` falls, and what is left of `n` there; the last
one that is looked at has no end. -/
def locate (len : Nat → Nat) : (fuel i n : Nat) → Nat × Nat
  | 0, i, n => (i, n)
  | fuel + 1, i, n => if n < len i then (i, n) else locate len fuel (i + 1) (n - len i)

section Locate

variable {len : Nat → Nat}

theorem le_locate : ∀ (fuel i n : Nat), i ≤ (locate len fuel i n).1
  | 0, i, _ => Nat.le_refl i
  | fuel + 1, i, n => by
      rw [locate]
      split
      · exact Nat.le_refl i
      · exact Nat.le_trans (Nat.le_succ i) (le_locate fuel (i + 1) (n - len i))

/-- What lies further is in a later stretch, or further in the same one. -/
theorem locate_mono : ∀ (fuel i : Nat) {n m : Nat}, n ≤ m →
    (locate len fuel i n).1 < (locate len fuel i m).1 ∨
      (locate len fuel i n).1 = (locate len fuel i m).1 ∧
        (locate len fuel i n).2 ≤ (locate len fuel i m).2
  | 0, _, _, _, h => .inr ⟨rfl, h⟩
  | fuel + 1, i, n, m, h => by
      rw [locate, locate]
      by_cases hm : m < len i
      · rw [if_pos hm, if_pos (Nat.lt_of_le_of_lt h hm)]
        exact .inr ⟨rfl, h⟩
      · rw [if_neg hm]
        by_cases hn : n < len i
        · rw [if_pos hn]
          exact .inl (le_locate fuel (i + 1) (m - len i))
        · rw [if_neg hn]
          exact locate_mono fuel (i + 1) (Nat.sub_le_sub_right h (len i))

end Locate

/-! ## Dates -/

def isLeap (year : Nat) : Bool := (year % 4 = 0 ∧ year % 100 ≠ 0) ∨ year % 400 = 0

def daysInMonth (year : Nat) : (month : Nat) → Nat
  | 2 => if isLeap year then 29 else 28
  | 4 | 6 | 9 | 11 => 30
  | _ => 31

def daysInYear (year : Nat) : Nat := if isLeap year then 366 else 365

structure Date where
  year : Nat
  month : Nat
  day : Nat
  deriving DecidableEq, Repr

namespace Date

/-- No later than. -/
def NotAfter (a b : Date) : Prop :=
  a.year < b.year ∨ (a.year = b.year ∧
    (a.month < b.month ∨ (a.month = b.month ∧ a.day ≤ b.day)))

instance : LE Date := ⟨NotAfter⟩

theorem le_def {a b : Date} : a ≤ b ↔ a.year < b.year ∨ (a.year = b.year ∧
    (a.month < b.month ∨ (a.month = b.month ∧ a.day ≤ b.day))) := Iff.rfl

instance (a b : Date) : Decidable (a ≤ b) := decidable_of_iff' _ le_def

/-- What is between two dates of a year is in the year. -/
theorem year_of_between {a b d : Date} (ha : a ≤ d) (hb : d ≤ b) (h : a.year = b.year) :
    d.year = a.year := by
  rw [le_def] at ha hb
  omega

theorem month_of_between {a b d : Date} (ha : a ≤ d) (hb : d ≤ b) (h : a.year = b.year)
    (hmonth : a.month = b.month) : d.month = a.month := by
  rw [le_def] at ha hb
  omega

theorem eq_of_between {a d : Date} (ha : a ≤ d) (hb : d ≤ a) : d = a := by
  have hyear := year_of_between ha hb rfl
  have hmonth := month_of_between ha hb rfl rfl
  have hday : d.day = a.day := by
    rw [le_def] at ha hb
    omega
  cases a
  cases d
  cases hyear
  cases hmonth
  cases hday
  rfl

/-- The date of a day, for the years up to 9999. -/
def ofDay (day : Nat) : Date :=
  let (year, rest) := locate daysInYear 9998 1 day
  let (month, rest) := locate (daysInMonth year) 11 1 rest
  ⟨year, month, rest + 1⟩

/-- A later day has a later date. -/
theorem ofDay_mono {n m : Nat} (h : n ≤ m) : ofDay n ≤ ofDay m := by
  rw [le_def]
  rcases locate_mono 9998 1 h with hyear | ⟨hyear, hrest⟩
  · exact .inl hyear
  · refine .inr ⟨hyear, ?_⟩
    unfold ofDay
    dsimp only
    rw [hyear]
    rcases locate_mono 11 1 hrest with hmonth | ⟨hmonth, hday⟩
    · exact .inl hmonth
    · exact .inr ⟨hmonth, Nat.succ_le_succ hday⟩

end Date

example : Date.ofDay 737491 = ⟨2020, 3, 8⟩ := by decide +kernel

end Calendar
