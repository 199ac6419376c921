/-
# `CortxCsm.Lib.Parens` — balanced parentheses

`depth n cs` reads a text with `n` parentheses open: it fails where one is closed that was not
opened, and is the number left open otherwise.  A text is balanced if it leaves none open.
Balanced texts are put together from balanced ones: side by side, or one in parentheses.
-/
import Mathlib.Data.List.Basic

namespace Parens

def depth : Nat → List Char → Option Nat
  | n, [] => some n
  | n, '(' :: cs => depth (n + 1) cs
  | 0, ')' :: _ => none
  | n + 1, ')' :: cs => depth n cs
  | n, _ :: cs => depth n cs

/-- Every parenthesis that is opened is closed, and none is closed that is not open. -/
def Balanced (cs : List Char) : Prop := depth 0 cs = some 0

instance (cs : List Char) : Decidable (Balanced cs) := inferInstanceAs (Decidable (_ = _))

theorem depth_open (n : Nat) (cs : List Char) : depth n ('(' :: cs) = depth (n + 1) cs := by
  rw [depth]

theorem depth_close (n : Nat) (cs : List Char) : depth (n + 1) (')' :: cs) = depth n cs := by
  rw [depth]

theorem depth_other {c : Char} (hopen : c ≠ '(') (hclose : c ≠ ')') (n : Nat) (cs : List Char) :
    depth n (c :: cs) = depth n cs := by
  rw [depth]
  · exact hopen
  · intro hn
    exact hclose
  · intro m hm
    exact hclose

theorem depth_append (cs ds : List Char) : ∀ n : Nat,
    depth n (cs ++ ds) = (depth n cs).bind fun m => depth m ds := by
  induction cs with
  | nil =>
      intro n
      rfl
  | cons c cs ih =>
      intro n
      by_cases hopen : c = '('
      · rw [hopen, List.cons_append, depth_open, depth_open, ih]
      · by_cases hclose : c = ')'
        · cases n with
          | zero =>
              rw [hclose]
              rfl
          | succ n => rw [hclose, List.cons_append, depth_close, depth_close, ih]
        · rw [List.cons_append, depth_other hopen hclose, depth_other hopen hclose, ih]

/-- More open parentheses before stay open. -/
theorem depth_add {cs : List Char} : ∀ {n m : Nat}, depth n cs = some m →
    ∀ k, depth (n + k) cs = some (m + k) := by
  induction cs with
  | nil =>
      intro n m h k
      cases h
      rfl
  | cons c cs ih =>
      intro n m h k
      by_cases hopen : c = '('
      · rw [hopen, depth_open] at h ⊢
        rw [Nat.add_right_comm]
        exact ih h k
      · by_cases hclose : c = ')'
        · rw [hclose] at h ⊢
          cases n with
          | zero => cases h
          | succ n =>
              rw [depth_close] at h
              rw [Nat.add_right_comm, depth_close]
              exact ih h k
        · rw [depth_other hopen hclose] at h ⊢
          exact ih h k

namespace Balanced

variable {cs ds : List Char}

theorem nil : Balanced [] := rfl

theorem depth_eq (h : Balanced cs) (n : Nat) : depth n cs = some n := by
  have hadd := depth_add h n
  rwa [Nat.zero_add] at hadd

theorem append (hcs : Balanced cs) (hds : Balanced ds) : Balanced (cs ++ ds) := by
  rw [Balanced, depth_append, hcs]
  exact hds

/-- A balanced text in parentheses. -/
theorem parens (h : Balanced cs) : Balanced ('(' :: (cs ++ [')'])) := by
  rw [Balanced, depth_open, depth_append, h.depth_eq]
  rfl

theorem plain (h : ∀ c ∈ cs, c ≠ '(' ∧ c ≠ ')') : Balanced cs := by
  induction cs with
  | nil => exact nil
  | cons c cs ih =>
      obtain ⟨hopen, hclose⟩ := h c List.mem_cons_self
      rw [Balanced, depth_other hopen hclose]
      exact ih fun c' hc' => h c' (List.mem_cons_of_mem c hc')

end Balanced

end Parens
