/-
# `CortxCsm.Permissions` — `csm/core/services/permissions.py`

A permission set is a dictionary from resources to non-empty sets of actions.
The class keeps the non-emptiness itself, in every operation, because dictionary
equality would otherwise tell a resource without actions from an absent one;
here it is the field `nonempty`, so a set that violates it cannot be built.

`Grants p resource action` is what a permission set is for.  With the invariant,
`==` holds exactly when the same pairs are granted (`eq_iff`), and the verdict
`(have & required) == required` of the REST middleware holds exactly when every
required pair is granted (`verdict_iff`).
-/
import CortxCsm.Lib.Table
import Mathlib.Data.Finset.Card

namespace CortxCsm

/-- `PermissionSet._items`, with the invariant of the class. -/
structure PermissionSet where
  _items : Dict String (Finset String)
  nonempty : ∀ kv ∈ _items, kv.2.Nonempty

namespace PermissionSet

/-- `PermissionSet()`. -/
def empty : PermissionSet := ⟨Table.empty, fun _ h => absurd h (Table.not_mem_empty _)⟩

instance : Inhabited PermissionSet := ⟨empty⟩

/-- `PermissionSet(items)`: `{resource: set(actions) … if len(actions) > 0}`.  A
collection is empty exactly when the set of its elements is, so the argument comes
with its collections read as sets. -/
def init (items : Dict String (Finset String)) : PermissionSet where
  _items := items.filterVal fun actions => decide (0 < actions.card)
  nonempty := by
    intro kv hkv
    exact Finset.card_pos.mp (by simpa using (Table.mem_filterVal.mp hkv).2)

/-- `self._items.get(resource, set())`. -/
def actions (p : PermissionSet) (resource : String) : Finset String :=
  (p._items.get? resource).getD ∅

/-- `p` permits `action` on `resource`. -/
def Grants (p : PermissionSet) (resource action : String) : Prop := action ∈ p.actions resource

instance (p : PermissionSet) (resource action : String) : Decidable (p.Grants resource action) :=
  inferInstanceAs (Decidable (action ∈ p.actions resource))

/-- `if len(actions) > 0: self._items[resource] = actions`. -/
def put (p : PermissionSet) (resource : String) (acts : Finset String) : PermissionSet :=
  if h : 0 < acts.card then
    { _items := p._items.set resource acts
      nonempty := by
        intro kv hkv
        rcases Table.mem_upsert.mp hkv with rfl | ⟨hkv, _⟩
        · exact Finset.card_pos.mp h
        · exact p.nonempty kv hkv }
  else p

/-- `self._items.pop(resource, None)`. -/
def drop (p : PermissionSet) (resource : String) : PermissionSet where
  _items := p._items.pop resource
  nonempty := fun kv hkv => p.nonempty kv (Table.mem_remove.mp hkv).1

/-- The assignment of the in-place operators: store the actions, or drop the
resource when there are none. -/
def assign (p : PermissionSet) (resource : String) (acts : Finset String) : PermissionSet :=
  if 0 < acts.card then p.put resource acts else p.drop resource

/-- `__eq__`. -/
def eq (p q : PermissionSet) : Bool := p._items.dictEq q._items

/-- `__or__`. -/
def or (p q : PermissionSet) : PermissionSet :=
  (p._items.keys ++ q._items.keys).dedup.foldl
    (fun result resource => result.put resource (p.actions resource ∪ q.actions resource)) empty

/-- `__and__`. -/
def and (p q : PermissionSet) : PermissionSet :=
  (p._items.keys.filter fun resource => resource ∈ q._items.keys).foldl
    (fun result resource => result.put resource (p.actions resource ∩ q.actions resource)) empty

/-- `__ior__`, as the value the left operand is left with. -/
def ior (p q : PermissionSet) : PermissionSet :=
  q._items.keys.foldl
    (fun self resource => self.assign resource (self.actions resource ∪ q.actions resource)) p

/-! ## Actions of the building blocks -/

@[simp] theorem actions_empty (resource : String) : empty.actions resource = ∅ := rfl

theorem actions_of_not_mem {p : PermissionSet} {resource : String}
    (h : resource ∉ p._items.keys) : p.actions resource = ∅ := by
  rw [actions, Table.get?_eq_none.mpr h]
  rfl

theorem get?_eq_some_iff {p : PermissionSet} {resource : String} {acts : Finset String} :
    p._items.get? resource = some acts ↔ p.actions resource = acts ∧ acts.Nonempty := by
  constructor
  · intro h
    refine ⟨by rw [actions, h]; rfl, ?_⟩
    exact p.nonempty (resource, acts) (Table.get?_eq_some.mp h)
  · rintro ⟨h, hne⟩
    cases hg : p._items.get? resource with
    | some a =>
        rw [actions, hg] at h
        exact congrArg some h
    | none =>
        rw [actions, hg] at h
        exact absurd (h ▸ hne) Finset.not_nonempty_empty

theorem actions_put (p : PermissionSet) (resource r : String) (acts : Finset String) :
    (p.put resource acts).actions r =
      if resource = r ∧ acts.Nonempty then acts else p.actions r := by
  unfold put
  split
  · rename_i h
    simp only [actions, Table.get?_set]
    by_cases hr : resource = r
    · rw [if_pos hr, if_pos ⟨hr, Finset.card_pos.mp h⟩]
      rfl
    · rw [if_neg hr, if_neg fun hc => hr hc.1]
  · rename_i h
    rw [if_neg fun hc => h (Finset.card_pos.mpr hc.2)]

@[simp] theorem actions_assign (p : PermissionSet) (resource r : String) (acts : Finset String) :
    (p.assign resource acts).actions r = if resource = r then acts else p.actions r := by
  unfold assign
  split
  · rename_i h
    rw [actions_put]
    simp only [Finset.card_pos.mp h, and_true]
  · rename_i h
    have he : acts = ∅ := Finset.not_nonempty_iff_eq_empty.mp fun hn => h (Finset.card_pos.mpr hn)
    simp only [drop, actions, Table.get?_pop]
    split
    · exact he.symm
    · rfl

/-! ## The operators as relations -/

/-- Filling an empty set resource by resource gives each its value. -/
theorem actions_foldl_put (f : String → Finset String) :
    ∀ (l : List String) (p : PermissionSet) (r : String),
      (l.foldl (fun result resource => result.put resource (f resource)) p).actions r =
        if r ∈ l ∧ (f r).Nonempty then f r else p.actions r
  | [], p, r => by simp
  | a :: l, p, r => by
      rw [List.foldl_cons, actions_foldl_put f l, actions_put]
      by_cases ha : a = r
      · subst ha
        by_cases hne : (f a).Nonempty <;> simp [hne]
      · have ha' : r ≠ a := fun e => ha e.symm
        simp [ha, ha']

theorem actions_or (p q : PermissionSet) (r : String) :
    (p.or q).actions r = p.actions r ∪ q.actions r := by
  rw [or, actions_foldl_put (fun r => p.actions r ∪ q.actions r)]
  split
  · rfl
  · rename_i h
    by_cases hne : (p.actions r ∪ q.actions r).Nonempty
    · have hr : r ∉ p._items.keys ∧ r ∉ q._items.keys := by
        simpa [hne, not_or] using h
      rw [actions_of_not_mem hr.1, actions_of_not_mem hr.2]
      rfl
    · exact (Finset.not_nonempty_iff_eq_empty.mp hne).symm

theorem actions_and (p q : PermissionSet) (r : String) :
    (p.and q).actions r = p.actions r ∩ q.actions r := by
  rw [and, actions_foldl_put (fun r => p.actions r ∩ q.actions r)]
  split
  · rfl
  · rename_i h
    by_cases hne : (p.actions r ∩ q.actions r).Nonempty
    · have hr : r ∈ p._items.keys → r ∉ q._items.keys := by simpa [hne] using h
      by_cases hp : r ∈ p._items.keys
      · rw [actions_of_not_mem (hr hp), Finset.inter_empty]
        rfl
      · rw [actions_of_not_mem hp, Finset.empty_inter]
        rfl
    · exact (Finset.not_nonempty_iff_eq_empty.mp hne).symm

/-- One resource after another, `|=` reads only the resource it writes. -/
theorem actions_foldl_assign (q : PermissionSet) :
    ∀ (l : List String) (p : PermissionSet) (r : String),
      (l.foldl (fun self resource =>
          self.assign resource (self.actions resource ∪ q.actions resource)) p).actions r =
        if r ∈ l then p.actions r ∪ q.actions r else p.actions r
  | [], p, r => by simp
  | a :: l, p, r => by
      rw [List.foldl_cons, actions_foldl_assign q l, actions_assign]
      by_cases ha : a = r
      · subst ha
        by_cases hl : a ∈ l <;> simp [hl, Finset.union_assoc]
      · have ha' : r ≠ a := fun e => ha e.symm
        simp [ha, ha']

theorem actions_ior (p q : PermissionSet) (r : String) :
    (p.ior q).actions r = p.actions r ∪ q.actions r := by
  rw [ior, actions_foldl_assign]
  split
  · rfl
  · rename_i h
    rw [actions_of_not_mem h, Finset.union_empty]

theorem actions_init (items : Dict String (Finset String)) (r : String) :
    (init items).actions r = (items.get? r).getD ∅ := by
  unfold actions init
  simp only
  cases h : items.get? r with
  | none =>
      have : (items.filterVal fun acts => decide (0 < acts.card)).get? r = none := by
        rw [Option.eq_none_iff_forall_ne_some]
        intro v hv
        rw [(Table.get?_filterVal_eq_some.mp hv).1] at h
        exact absurd h (Option.some_ne_none _)
      rw [this]
  | some acts =>
      by_cases hc : 0 < acts.card
      · rw [Table.get?_filterVal_eq_some.mpr ⟨h, by simpa using hc⟩]
      · have he : acts = ∅ :=
          Finset.not_nonempty_iff_eq_empty.mp fun hn => hc (Finset.card_pos.mpr hn)
        have : (items.filterVal fun acts => decide (0 < acts.card)).get? r = none := by
          rw [Option.eq_none_iff_forall_ne_some]
          intro v hv
          have hv' := Table.get?_filterVal_eq_some.mp hv
          rw [h] at hv'
          cases hv'.1
          exact hc (by simpa using hv'.2)
        rw [this, he]
        rfl

theorem eq_iff {p q : PermissionSet} : p.eq q = true ↔ ∀ r, p.actions r = q.actions r := by
  rw [eq, Table.dictEq_iff]
  constructor
  · intro h r
    rw [actions, actions, h]
  · intro h r
    refine Option.ext fun acts => ?_
    rw [get?_eq_some_iff, get?_eq_some_iff, h]

theorem eq_iff_grants {p q : PermissionSet} :
    p.eq q = true ↔ ∀ r a, p.Grants r a ↔ q.Grants r a := by
  rw [eq_iff]
  exact ⟨fun h r a => by rw [Grants, Grants, h], fun h r => Finset.ext (h r)⟩

/-- `(have & required) == required`. -/
def allows (have_ required : PermissionSet) : Bool := (have_.and required).eq required

theorem verdict_iff {p required : PermissionSet} :
    p.allows required = true ↔ ∀ r a, required.Grants r a → p.Grants r a := by
  rw [allows, eq_iff]
  simp only [actions_and, Finset.inter_eq_right]
  exact ⟨fun h r a ha => h r ha, fun h r a ha => h r a ha⟩

/-- `PermissionSet(p._items)` is `p`: what a database round trip does to a set. -/
theorem init_items (p : PermissionSet) : init p._items = p := by
  have : p._items.filterVal (fun acts => decide (0 < acts.card)) = p._items := by
    apply Table.ext
    refine List.filter_eq_self.mpr fun kv hkv => ?_
    simpa using Finset.card_pos.mpr (p.nonempty kv hkv)
  unfold init
  congr 1

end PermissionSet

end CortxCsm
