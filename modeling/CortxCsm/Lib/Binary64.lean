/-
# `CortxCsm.Lib.Binary64` — dividing integers in floating point

`a / b` of two integers is the quotient rounded to 53 binary digits, to the nearest such number
and, of two that are equally near, to the one with the even last digit; beyond `2 ^ 1024` it is
an error.  The integer part of what comes out need not be the integer part of the quotient.

    the quotient is below the next integer by more than half a last digit,
    or by just half of one, and the digits of the next integer end in one   (`floor_round_small`)
    from `2 ^ 53` on, the integer has only zeros after its 53rd digit       (`floor_round_large`)

`ExactDivision a b` puts the two cases together, and `trueDiv_floor` says that it is exactly when
nothing is lost; with a dividend below `2 ^ 53` nothing ever is (`exactDivision_of_lt`).
-/
import Mathlib.Data.Int.Log
import Mathlib.Data.Rat.Floor
import Mathlib.Algebra.Order.Field.Power
import Mathlib.Tactic.Linarith
import Mathlib.Tactic.Positivity
import Mathlib.Tactic.FieldSimp
import Mathlib.Tactic.Ring

namespace Binary64

/-! ## Rounding -/

/-- The nearest integer; of two, the even one. -/
def nearest (x : ℚ) : Int :=
  if Int.fract x < 1 / 2 then ⌊x⌋
  else if 1 / 2 < Int.fract x then ⌊x⌋ + 1
  else if Even ⌊x⌋ then ⌊x⌋
  else ⌊x⌋ + 1

/-- The weight of the last of 53 digits; below `2 ^ -1022` it does not shrink. -/
def ulp (x : ℚ) : ℚ := 2 ^ (max (Int.log 2 |x|) (-1022) - 52)

/-- There is no number from `2 ^ 1024` on. -/
def maxExponent : ℕ := 1024

def round (x : ℚ) : ℚ := nearest (x / ulp x) * ulp x

inductive Fault
  | zeroDivision
  | overflow
  deriving DecidableEq, Repr

/-- `a / b`. -/
def trueDiv (a b : Int) : Except Fault ℚ :=
  if b = 0 then .error .zeroDivision
  else if |round (a / b)| < 2 ^ maxExponent then .ok (round (a / b))
  else .error .overflow

/-- `int(x)`. -/
def trunc (x : ℚ) : Int := if 0 ≤ x then ⌊x⌋ else ⌈x⌉

/-! ## The nearest integer -/

section Nearest

theorem nearest_le (x : ℚ) : nearest x ≤ ⌊x⌋ + 1 := by
  unfold nearest
  split_ifs <;> omega

theorem le_nearest {m : Int} {x : ℚ} (h : m ≤ x) : m ≤ nearest x := by
  have hfloor : m ≤ ⌊x⌋ := Int.le_floor.mpr h
  unfold nearest
  split_ifs <;> omega

/-- Nothing is rounded past an integer that it is below by more than a half. -/
theorem nearest_lt_iff {m : Int} {x : ℚ} (h : x < m) :
    nearest x < m ↔ 1 / 2 < m - x ∨ (m - x = 1 / 2 ∧ Odd m) := by
  have hfloor : ⌊x⌋ < m := Int.floor_lt.mpr h
  have hx : x = ⌊x⌋ + Int.fract x := (Int.floor_add_fract x).symm
  by_cases hnext : ⌊x⌋ + 1 = m
  · have hm : (m : ℚ) = ⌊x⌋ + 1 := by rw [← hnext]; push_cast; rfl
    have hdist : (m : ℚ) - x = 1 - Int.fract x := by rw [hm]; linarith
    have hodd : Odd m ↔ Even ⌊x⌋ := by
      rw [← hnext, ← Int.not_even_iff_odd, Int.even_add_one, not_not]
    rw [hdist, hodd]
    unfold nearest
    split_ifs with hlow hhigh heven
    · exact ⟨fun _ => .inl (by linarith), fun _ => hfloor⟩
    · constructor
      · intro hlt
        omega
      · rintro (hhalf | ⟨hhalf, -⟩)
        · linarith
        · linarith
    · exact ⟨fun _ => .inr ⟨by linarith, heven⟩, fun _ => hfloor⟩
    · constructor
      · intro hlt
        omega
      · rintro (hhalf | ⟨-, heven'⟩)
        · linarith
        · exact absurd heven' heven
  · have hle : ⌊x⌋ + 2 ≤ m := by omega
    have hm : (⌊x⌋ : ℚ) + 2 ≤ m := by exact_mod_cast hle
    have hfract := Int.fract_lt_one x
    constructor
    · intro _
      exact .inl (by linarith)
    · intro _
      have hnear := nearest_le x
      omega

end Nearest

theorem ulp_pos (x : ℚ) : 0 < ulp x := by
  unfold ulp
  positivity

theorem round_nonneg {x : ℚ} (h : 0 ≤ x) : 0 ≤ round x := by
  have hquot : ((0 : Int) : ℚ) ≤ x / ulp x := by
    rw [Int.cast_zero]
    exact div_nonneg h (ulp_pos x).le
  have hnear : (0 : ℚ) ≤ nearest (x / ulp x) := by exact_mod_cast le_nearest hquot
  exact mul_nonneg hnear (ulp_pos x).le

/-! ## The integer part of a rounded number -/

section FloorRound

variable {x : ℚ}

/-- The place of the first digit. -/
def exponent (x : ℚ) : ℕ := Nat.log 2 ⌊x⌋.toNat

theorem floor_pos (h : 1 ≤ x) : 0 < ⌊x⌋ :=
  Int.floor_pos.mpr h

theorem ulp_of_one_le (h : 1 ≤ x) : ulp x = 2 ^ ((exponent x : ℤ) - 52) := by
  have habs : |x| = x := abs_of_pos (by linarith)
  have hlog : Int.log 2 x = (exponent x : ℤ) := Int.log_of_one_le_right 2 h
  rw [ulp, habs, hlog, max_eq_left (by omega)]

theorem pow_exponent_le (h : 1 ≤ x) : 2 ^ exponent x ≤ ⌊x⌋ := by
  have hpos := floor_pos h
  have hle : 2 ^ exponent x ≤ ⌊x⌋.toNat := Nat.pow_log_le_self 2 (by omega)
  zify at hle
  rwa [Int.toNat_of_nonneg hpos.le] at hle

theorem lt_pow_exponent (h : 1 ≤ x) : ⌊x⌋ < 2 ^ (exponent x + 1) := by
  have hpos := floor_pos h
  have hlt : ⌊x⌋.toNat < 2 ^ (exponent x + 1) := Nat.lt_pow_succ_log_self (by decide) _
  zify at hlt
  rwa [Int.toNat_of_nonneg hpos.le] at hlt

theorem round_eq (x : ℚ) : round x = nearest (x / ulp x) * ulp x := rfl

/-- Up to `2 ^ 53` the integers are among the numbers that are rounded to. -/
theorem floor_round_small (h : 1 ≤ x) (hsmall : ⌊x⌋ < 2 ^ 53) :
    (⌊x⌋ : ℚ) ≤ round x ∧
      (round x < ⌊x⌋ + 1 ↔ 2 ^ exponent x < 2 ^ 53 * (⌊x⌋ + 1 - x) ∨
        (2 ^ exponent x = 2 ^ 53 * (⌊x⌋ + 1 - x) ∧ exponent x = 52 ∧ Even ⌊x⌋)) := by
  have hexp : exponent x ≤ 52 := by
    have hle := (pow_exponent_le h).trans_lt hsmall
    have hlt := (pow_lt_pow_iff_right₀ (by norm_num : (1 : ℤ) < 2)).mp hle
    omega
  obtain ⟨k, hk⟩ := Nat.exists_eq_add_of_le hexp
  -- a last digit is the `2 ^ k`-th part of one
  have hulp : ulp x = (2 ^ k)⁻¹ := by
    rw [ulp_of_one_le h, ← zpow_natCast, ← zpow_neg]
    congr 1
    omega
  have hunit : (0 : ℚ) < 2 ^ k := by positivity
  have hquot : x / ulp x = x * 2 ^ k := by rw [hulp, div_inv_eq_mul]
  have hround : round x = nearest (x * 2 ^ k) / 2 ^ k := by
    rw [round_eq, hquot, hulp, div_eq_mul_inv]
  have hpow : (2 : ℚ) ^ 53 = 2 * (2 ^ exponent x * 2 ^ k) := by
    rw [← pow_add, ← hk]
    norm_num
  have hfirst : (0 : ℚ) < 2 ^ exponent x := by positivity
  constructor
  · have hle : ((⌊x⌋ * 2 ^ k : ℤ) : ℚ) ≤ x * 2 ^ k := by
      push_cast
      exact mul_le_mul_of_nonneg_right (Int.floor_le x) hunit.le
    have hnear : ((⌊x⌋ * 2 ^ k : ℤ) : ℚ) ≤ nearest (x * 2 ^ k) := by
      exact_mod_cast le_nearest hle
    rw [hround, le_div_iff₀ hunit]
    exact_mod_cast hnear
  · have hlt : x * 2 ^ k < (((⌊x⌋ + 1) * 2 ^ k : ℤ) : ℚ) := by
      push_cast
      exact mul_lt_mul_of_pos_right (Int.lt_floor_add_one x) hunit
    have hbelow : round x < ⌊x⌋ + 1 ↔ nearest (x * 2 ^ k) < (⌊x⌋ + 1) * 2 ^ k := by
      rw [hround, div_lt_iff₀ hunit]
      exact_mod_cast Iff.rfl
    have hdist : (((⌊x⌋ + 1) * 2 ^ k : ℤ) : ℚ) - x * 2 ^ k = 2 ^ k * (⌊x⌋ + 1 - x) := by
      push_cast
      ring
    have hodd : Odd ((⌊x⌋ + 1) * 2 ^ k : ℤ) ↔ exponent x = 52 ∧ Even ⌊x⌋ := by
      rw [Int.odd_mul, ← Int.not_even_iff_odd, Int.even_add_one, not_not, Int.odd_pow, and_comm]
      constructor
      · rintro ⟨hk2 | rfl, heven⟩
        · exact absurd hk2 (by decide)
        · exact ⟨hk.symm, heven⟩
      · rintro ⟨he, heven⟩
        exact ⟨.inr (by omega), heven⟩
    have hscale : (2 : ℚ) ^ 53 * (⌊x⌋ + 1 - x)
        = 2 ^ exponent x * (2 * (2 ^ k * (⌊x⌋ + 1 - x))) := by
      rw [hpow]
      ring
    have hmore : (2 : ℚ) ^ exponent x < 2 ^ 53 * (⌊x⌋ + 1 - x)
        ↔ 1 / 2 < 2 ^ k * (⌊x⌋ + 1 - x) := by
      rw [hscale, lt_mul_iff_one_lt_right hfirst]
      exact ⟨fun hlt => by linarith, fun hlt => by linarith⟩
    have hequal : (2 : ℚ) ^ exponent x = 2 ^ 53 * (⌊x⌋ + 1 - x)
        ↔ 2 ^ k * (⌊x⌋ + 1 - x) = 1 / 2 := by
      rw [hscale, left_eq_mul₀ hfirst.ne']
      exact ⟨fun heq => by linarith, fun heq => by linarith⟩
    rw [hbelow, nearest_lt_iff hlt, hdist, hodd, hmore, hequal]

/-- From `2 ^ 53` on, what is rounded to has only zeros after its 53rd digit. -/
theorem floor_round_large (h : 1 ≤ x) (hlarge : 2 ^ 53 ≤ ⌊x⌋) :
    ⌊round x⌋ = ⌊x⌋ ↔ 2 ^ (exponent x - 52) ∣ ⌊x⌋ := by
  have hexp : 53 ≤ exponent x := by
    have hlt := hlarge.trans_lt (lt_pow_exponent h)
    have hlt := (pow_lt_pow_iff_right₀ (by norm_num : (1 : ℤ) < 2)).mp hlt
    omega
  obtain ⟨j, hj⟩ := Nat.exists_eq_add_of_le hexp
  have hshift : exponent x - 52 = j + 1 := by omega
  have hulp : ulp x = 2 ^ (j + 1) := by
    rw [ulp_of_one_le h, ← zpow_natCast]
    congr 1
    omega
  have hunit : (0 : ℚ) < 2 ^ (j + 1) := by positivity
  have hround : round x = ((nearest (x / 2 ^ (j + 1)) * 2 ^ (j + 1) : ℤ) : ℚ) := by
    rw [round_eq, hulp]
    push_cast
    rfl
  rw [hround, Int.floor_intCast, hshift]
  constructor
  · intro heq
    exact ⟨_, by rw [← heq, mul_comm]⟩
  · rintro ⟨c, hc⟩
    have hfloor : (⌊x⌋ : ℚ) = 2 ^ (j + 1) * c := by
      rw [hc]
      push_cast
      rfl
    have hx := Int.floor_add_fract x
    have hnonneg := Int.fract_nonneg x
    have hone := Int.fract_lt_one x
    have htwo : (2 : ℚ) ≤ 2 ^ (j + 1) := by
      rw [pow_succ]
      have hpow : (1 : ℚ) ≤ 2 ^ j := one_le_pow₀ (by norm_num)
      linarith
    have hquot : x / 2 ^ (j + 1) = c + Int.fract x / 2 ^ (j + 1) := by
      rw [← hx, hfloor]
      field_simp
      rw [← hfloor, Int.fract_intCast_add, Int.fract_fract]
    have hlow : 0 ≤ Int.fract x / 2 ^ (j + 1) := by positivity
    have hhigh : Int.fract x / 2 ^ (j + 1) < 1 / 2 := by
      rw [div_lt_iff₀ hunit]
      linarith
    have hle : c ≤ nearest (x / 2 ^ (j + 1)) := le_nearest (by rw [hquot]; linarith)
    have hbelow : x / 2 ^ (j + 1) < ((c + 1 : ℤ) : ℚ) := by
      push_cast
      linarith
    have hlt : nearest (x / 2 ^ (j + 1)) < c + 1 := by
      refine (nearest_lt_iff hbelow).mpr (.inl ?_)
      push_cast
      linarith
    have hnearest : nearest (x / 2 ^ (j + 1)) = c := by omega
    rw [hnearest, hc, mul_comm]

end FloorRound

/-! ## The integer part of a quotient -/

/-- The quotient is rounded to a number with the same integer part. -/
def ExactDivision (a b : Int) : Prop :=
  if a / b < 2 ^ 53 then
    2 ^ Nat.log 2 (a / b).toNat * b < 2 ^ 53 * (b - a % b) ∨
      (2 ^ Nat.log 2 (a / b).toNat * b = 2 ^ 53 * (b - a % b) ∧
        Nat.log 2 (a / b).toNat = 52 ∧ Even (a / b))
  else a / b < 2 ^ maxExponent ∧ 2 ^ (Nat.log 2 (a / b).toNat - 52) ∣ a / b

section TrueDiv

variable {a b : Int}

theorem floor_quotient (hb : 0 < b) : ⌊(a / b : ℚ)⌋ = a / b := by
  obtain ⟨n, rfl⟩ := Int.eq_ofNat_of_zero_le hb.le
  exact Rat.floor_intCast_div_natCast a n

theorem floor_add_one_sub_quotient (hb : 0 < b) :
    ((a / b : Int) : ℚ) + 1 - a / b = (b - a % b : Int) / b := by
  have hne : (b : ℚ) ≠ 0 := by exact_mod_cast hb.ne'
  have hdiv : (a : ℚ) = b * ((a / b : Int) : ℚ) + ((a % b : Int) : ℚ) := by
    exact_mod_cast (Int.mul_ediv_add_emod a b).symm
  field_simp
  push_cast
  linarith

theorem trueDiv_zero (a : Int) : trueDiv a 0 = .error .zeroDivision := rfl

theorem trueDiv_ne_zeroDivision (hb : b ≠ 0) : trueDiv a b ≠ .error .zeroDivision := by
  rw [trueDiv, if_neg hb]
  split
  · exact fun h => nomatch h
  · exact fun h => nomatch h

/-- A quotient that is not negative is rounded down by `int`. -/
theorem exists_trueDiv_iff (hb : b ≠ 0) (hab : (0 : ℚ) ≤ a / b) (n : Int) :
    (∃ v, trueDiv a b = .ok v ∧ trunc v = n) ↔ n < 2 ^ maxExponent ∧ ⌊round (a / b)⌋ = n := by
  have hnonneg := round_nonneg hab
  have hbound : |round (a / b)| < 2 ^ maxExponent ↔ ⌊round (a / b)⌋ < 2 ^ maxExponent := by
    rw [abs_of_nonneg hnonneg, Int.floor_lt]
    push_cast
    rfl
  rw [trueDiv, if_neg hb]
  constructor
  · rintro ⟨v, hv, rfl⟩
    split at hv
    · rename_i hlt
      cases hv
      rw [trunc, if_pos hnonneg]
      exact ⟨hbound.mp hlt, rfl⟩
    · cases hv
  · rintro ⟨hlt, rfl⟩
    exact ⟨_, if_pos (hbound.mpr hlt), if_pos hnonneg⟩

theorem trueDiv_floor (hb : 0 < b) (hab : b ≤ a) :
    (∃ v, trueDiv a b = .ok v ∧ trunc v = ⌊(a / b : ℚ)⌋) ↔ ExactDivision a b := by
  have hbq : (0 : ℚ) < b := by exact_mod_cast hb
  have hone : (1 : ℚ) ≤ a / b := by
    rw [le_div_iff₀ hbq, one_mul]
    exact_mod_cast hab
  have hfloor := floor_quotient (a := a) hb
  have hexp : exponent (a / b) = Nat.log 2 (a / b).toNat := by rw [exponent, hfloor]
  rw [exists_trueDiv_iff hb.ne' (by linarith), ExactDivision]
  split
  · rename_i hsmall
    obtain ⟨hle, hlt⟩ := floor_round_small hone (hfloor ▸ hsmall)
    have hrange : ⌊(a / b : ℚ)⌋ < 2 ^ maxExponent := by
      rw [hfloor]
      exact hsmall.trans (pow_lt_pow_right₀ (by norm_num) (by decide))
    have hdist := floor_add_one_sub_quotient (a := a) hb
    rw [hexp, hfloor, hdist] at hlt
    have hmore : (2 : ℚ) ^ Nat.log 2 (a / b).toNat < 2 ^ 53 * ((b - a % b : Int) / b)
        ↔ 2 ^ Nat.log 2 (a / b).toNat * b < 2 ^ 53 * (b - a % b) := by
      rw [← mul_div_assoc, lt_div_iff₀ hbq]
      exact_mod_cast Iff.rfl
    have hequal : (2 : ℚ) ^ Nat.log 2 (a / b).toNat = 2 ^ 53 * ((b - a % b : Int) / b)
        ↔ 2 ^ Nat.log 2 (a / b).toNat * b = 2 ^ 53 * (b - a % b) := by
      rw [← mul_div_assoc, eq_div_iff hbq.ne']
      exact_mod_cast Iff.rfl
    rw [Int.floor_eq_iff, and_iff_right hrange, and_iff_right hle, hfloor, hlt, hmore, hequal]
  · rename_i hlarge
    have hround := floor_round_large hone (hfloor ▸ not_lt.mp hlarge)
    rw [hround, hexp, hfloor]

/-- With a dividend below `2 ^ 53` the integer part is right. -/
theorem exactDivision_of_lt (hb : 0 < b) (hab : b ≤ a) (h : a < 2 ^ 53) : ExactDivision a b := by
  have hq : 1 ≤ a / b := Int.le_ediv_of_mul_le hb (by omega)
  have hmod : a % b < b := Int.emod_lt_of_pos a hb
  have hfirst : 2 ^ Nat.log 2 (a / b).toNat ≤ a / b := by
    have hle : 2 ^ Nat.log 2 (a / b).toNat ≤ (a / b).toNat := Nat.pow_log_le_self 2 (by omega)
    zify at hle
    rwa [Int.toNat_of_nonneg (by omega)] at hle
  have hmul : a / b * b ≤ a := Int.ediv_mul_le a hb.ne'
  have hqle : a / b ≤ a / b * b := le_mul_of_one_le_right (by omega) hb
  rw [ExactDivision, if_pos (by omega)]
  refine .inl ?_
  calc 2 ^ Nat.log 2 (a / b).toNat * b ≤ a / b * b := mul_le_mul_of_nonneg_right hfirst hb.le
    _ < 2 ^ 53 * 1 := by omega
    _ ≤ 2 ^ 53 * (b - a % b) := by omega

end TrueDiv

end Binary64
