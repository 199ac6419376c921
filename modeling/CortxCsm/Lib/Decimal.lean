/-
# `CortxCsm.Lib.Decimal` — the decimal text of a number

`toString n` is what `str(n)` is for an integer: the digits of the number, after a minus sign if
it is negative.
-/
import Mathlib.Data.Nat.Notation
import Mathlib.Data.Int.Notation

namespace Decimal

theorem isDigit_toDigits {n : Nat} {c : Char} (h : c ∈ Nat.toDigits 10 n) : c.isDigit = true :=
  Nat.isDigit_of_mem_toDigits (by decide) (by decide) h

/-- The characters of the text of a number. -/
theorem toList_toString (n : Int) :
    (0 ≤ n ∧ (toString n).toList = Nat.toDigits 10 n.toNat) ∨
      (n < 0 ∧ (toString n).toList = '-' :: Nat.toDigits 10 (-n).toNat) := by
  cases n with
  | ofNat n => exact .inl ⟨Int.natCast_nonneg n, Nat.toList_repr⟩
  | negSucc n =>
      right
      refine ⟨Int.negSucc_lt_zero n, ?_⟩
      show ("-" ++ (n + 1).repr).toList = _
      rw [String.toList_append, Nat.toList_repr]
      rfl

theorem isDigit_or_minus {n : Int} {c : Char} (h : c ∈ (toString n).toList) :
    c.isDigit = true ∨ c = '-' := by
  rcases toList_toString n with ⟨-, hn⟩ | ⟨-, hn⟩
  · rw [hn] at h
    exact .inl (isDigit_toDigits h)
  · rw [hn, List.mem_cons] at h
    rcases h with rfl | h
    · exact .inr rfl
    · exact .inl (isDigit_toDigits h)

end Decimal
