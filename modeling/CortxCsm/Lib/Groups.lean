/-
# `CortxCsm.Lib.Groups` — a list, item by item and group by group

The items of a list, group by group, are the items of the list in another order
(`flatMap_members_perm`): every group keeps its items in their order, and each item has one
group.

A call for each item ends with values that go with the items (`mapM_ok`), or with an exception
as soon as one call does (`mapM_error`).
-/
import Mathlib.Data.List.Basic
import Mathlib.Data.List.Forall2
import Mathlib.Data.List.Perm.Basic

namespace Groups

variable {α κ : Type} [DecidableEq κ]

/-- The items of a group. -/
def members (key : α → κ) (k : κ) (items : List α) : List α := items.filter fun a => key a = k

theorem mem_members {key : α → κ} {k : κ} {items : List α} {a : α} :
    a ∈ members key k items ↔ a ∈ items ∧ key a = k := by
  rw [members, List.mem_filter, decide_eq_true_eq]

theorem members_append (key : α → κ) (k : κ) (items items' : List α) :
    members key k (items ++ items') = members key k items ++ members key k items' :=
  List.filter_append items items'

/-- What is left without one group has the other groups. -/
theorem members_filter_ne {key : α → κ} {k k' : κ} (h : k' ≠ k) (items : List α) :
    members key k' (items.filter fun a => key a ≠ k) = members key k' items := by
  rw [members, members, List.filter_filter]
  refine List.filter_congr fun a _ => ?_
  by_cases hk : key a = k'
  · simp [hk, h]
  · simp [hk]

theorem flatMap_members_perm {key : α → κ} : ∀ {keys : List κ} {items : List α}, keys.Nodup →
    (∀ a ∈ items, key a ∈ keys) → (keys.flatMap fun k => members key k items).Perm items
  | [], items, _, h => by
      have hnil : items = [] := List.eq_nil_iff_forall_not_mem.mpr fun a ha =>
        absurd (h a ha) List.not_mem_nil
      rw [hnil, List.flatMap_nil]
  | k :: keys, items, hnodup, h => by
      rw [List.nodup_cons] at hnodup
      have hrest : ∀ a ∈ items.filter fun a => key a ≠ k, key a ∈ keys := by
        intro a ha
        obtain ⟨hmem, hne⟩ := List.mem_filter.mp ha
        rcases List.mem_cons.mp (h a hmem) with heq | hkeys
        · exact absurd heq (of_decide_eq_true hne)
        · exact hkeys
      have ih := flatMap_members_perm hnodup.2 hrest
      have hsame : (keys.flatMap fun k' => members key k' (items.filter fun a => key a ≠ k)) =
          keys.flatMap fun k' => members key k' items := by
        refine List.flatMap_congr fun k' hk' => ?_
        have hne : k' ≠ k := by
          rintro rfl
          exact hnodup.1 hk'
        exact members_filter_ne hne items
      rw [hsame] at ih
      have hsplit : (members key k items ++ items.filter fun a => key a ≠ k).Perm items := by
        have hperm := List.filter_append_perm (fun a => decide (key a = k)) items
        simpa [members] using hperm
      rw [List.flatMap_cons]
      exact (List.Perm.append_left _ ih).trans hsplit

/-! ## A call for each item -/

section Calls

variable {ι ε γ : Type}

/-- A list of calls that end with values, item by item. -/
theorem mapM_ok {f : ι → Except ε α} {R : α → γ → Prop} {xs : List ι} {ys : List γ}
    (h : List.Forall₂ (fun x y => ∃ a, f x = .ok a ∧ R a y) xs ys) :
    ∃ values, xs.mapM f = .ok values ∧ List.Forall₂ R values ys := by
  induction h with
  | nil => exact ⟨[], rfl, .nil⟩
  | cons hx _ ih =>
      obtain ⟨a, ha, hR⟩ := hx
      obtain ⟨values, hvalues, hrest⟩ := ih
      refine ⟨a :: values, ?_, .cons hR hrest⟩
      rw [List.mapM_cons, ha, hvalues]
      rfl

/-- What is said of each value alone. -/
theorem forall_left {P : α → Prop} {values : List α} {ys : List γ}
    (h : List.Forall₂ (fun a _ => P a) values ys) : ∀ a ∈ values, P a := by
  induction h with
  | nil =>
      intro a ha
      exact absurd ha List.not_mem_nil
  | cons hfirst _ ih =>
      intro a ha
      rcases List.mem_cons.mp ha with rfl | hrest
      · exact hfirst
      · exact ih a hrest

theorem mapM_error {f : ι → Except ε α} {x : ι} : ∀ {xs : List ι}, x ∈ xs →
    (∃ e, f x = .error e) → ∃ e, xs.mapM f = .error e
  | x' :: xs, hmem, ⟨e, he⟩ => by
      rw [List.mapM_cons]
      cases hfirst : f x' with
      | error e' => exact ⟨e', rfl⟩
      | ok a =>
          have hrest : x ∈ xs := by
            rcases List.mem_cons.mp hmem with rfl | hrest
            · rw [he] at hfirst
              cases hfirst
            · exact hrest
          obtain ⟨e', he'⟩ := mapM_error hrest ⟨e, he⟩
          rw [he']
          exact ⟨e', rfl⟩

end Calls

end Groups
