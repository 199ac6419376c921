/-
# `CortxCsm.PermissionAlgebra` — the four operators as a program uses them

A `PermissionSet` stands for a finite relation between resources and actions
(`relation`).  A program builds sets from dictionaries and combines them: `|` and
`&` allocate, `|=` and `&=` write the object on their left, and the same object may
stand on both sides.  So a program is a list of operations on a heap of objects.

`__ior__` runs over the keys of its right operand, `__iand__` over those of the
dictionary it removes from.  A dictionary iterator compares the length of the
dictionary with the one it started with, each time it is asked for the next key
and also where there is none; the first resource `__iand__` drops ends the loop
with an exception, and the resources behind it keep what they had.

**Proved here.**

    | and & are union and intersection, == is equality     (`relation_or`, `relation_and`, `eq_iff_relation`)
    |= always ends and leaves the union                     (`inPlaceUnion_value`)
    &= ends exactly when no resource loses all its actions  (`inPlaceIntersection_value`, `inPlaceIntersection_raises`)
    a program is algebraic exactly when its &= all do       (`algebraic_iff`)
-/
import CortxCsm.Roles

namespace CortxCsm

namespace PermissionSet

/-- The relation a permission set stands for. -/
def relation (p : PermissionSet) : Set (String × String) := {x | p.Grants x.1 x.2}

theorem mem_relation {p : PermissionSet} {resource action : String} :
    (resource, action) ∈ p.relation ↔ action ∈ p.actions resource := Iff.rfl

theorem relation_or (p q : PermissionSet) : (p.or q).relation = p.relation ∪ q.relation := by
  ext ⟨resource, action⟩
  rw [Set.mem_union, mem_relation, mem_relation, mem_relation, actions_or, Finset.mem_union]

theorem relation_and (p q : PermissionSet) : (p.and q).relation = p.relation ∩ q.relation := by
  ext ⟨resource, action⟩
  rw [Set.mem_inter_iff, mem_relation, mem_relation, mem_relation, actions_and, Finset.mem_inter]

theorem eq_iff_relation {p q : PermissionSet} : p.eq q = true ↔ p.relation = q.relation := by
  rw [eq_iff_grants]
  constructor
  · intro h
    ext ⟨resource, action⟩
    exact h resource action
  · intro h resource action
    exact Set.ext_iff.mp h (resource, action)

/-- `PermissionSet(items)` with the collections as they come. -/
def ofItems (items : RolePermissions) : PermissionSet := init (items.mapVal List.toFinset)

theorem mem_relation_ofItems {items : RolePermissions} {resource action : String} :
    (resource, action) ∈ (ofItems items).relation ↔
      ∃ actions, items.get? resource = some actions ∧ action ∈ actions := by
  rw [mem_relation, ofItems, actions_init, Table.get?_mapVal]
  cases items.get? resource with
  | none => simp
  | some actions => simp

theorem mem_keys_iff {p : PermissionSet} {resource : String} :
    resource ∈ p._items.keys ↔ (p.actions resource).Nonempty := by
  rw [Table.mem_keys]
  constructor
  · rintro ⟨acts, h⟩
    obtain ⟨rfl, hne⟩ := get?_eq_some_iff.mp h
    exact hne
  · intro hne
    exact ⟨p.actions resource, get?_eq_some_iff.mpr ⟨rfl, hne⟩⟩

/-- Storing actions under a key that is there keeps the length. -/
theorem len_assign {p : PermissionSet} {resource : String} {acts : Finset String}
    (hkey : resource ∈ p._items.keys) (hne : acts.Nonempty) :
    (p.assign resource acts)._items.len = p._items.len := by
  have hcard : 0 < acts.card := Finset.card_pos.mpr hne
  rw [assign, if_pos hcard, put, dif_pos hcard]
  show (p._items.set resource acts).len = _
  rw [Table.len_set, if_pos hkey]

/-- Dropping a key that is there changes the length. -/
theorem len_assign_empty {p : PermissionSet} {resource : String}
    (hkey : resource ∈ p._items.keys) :
    (p.assign resource ∅)._items.len ≠ p._items.len := by
  obtain ⟨acts, hacts⟩ := Table.mem_keys.mp hkey
  have hcount := Table.count_pop (fun _ => true) hacts
  have hlen : ∀ d : Dict String (Finset String), d.count (fun _ => true) = d.len := by
    intro d
    simp [Table.count, Table.len]
  rw [hlen, hlen] at hcount
  rw [assign, Finset.card_empty, if_neg (Nat.lt_irrefl 0)]
  show (p._items.pop resource).len ≠ _
  simp only [if_true] at hcount
  omega

end PermissionSet

/-! ## The in-place operators -/

/-- How a call ends: it returns, or an iterator has raised
`RuntimeError: dictionary changed size during iteration`. -/
inductive Ending
  | returned
  | changedSize
  deriving DecidableEq

namespace Heap

/-- The rest of `for resource in d.keys(): body`, where `d` is the dictionary of the
object `r` and had `len` items at the start. -/
def forKeysFrom (r : Ref) (len : Nat) (body : String → Heap → Heap) :
    List String → Heap → Heap × Ending
  | [], h => if (h.get r)._items.len = len then (h, .returned) else (h, .changedSize)
  | resource :: keys, h =>
      if (h.get r)._items.len = len then forKeysFrom r len body keys (body resource h)
      else (h, .changedSize)

def forKeys (h : Heap) (r : Ref) (body : String → Heap → Heap) : Heap × Ending :=
  forKeysFrom r (h.get r)._items.len body (h.get r)._items.keys h

/-- The body both loops share: combine the actions of the two operands, store them in
the left one, or drop the resource when there are none. -/
def assignFrom (op : Finset String → Finset String → Finset String) (self other : Ref)
    (resource : String) (h : Heap) : Heap :=
  h.put self ((h.get self).assign resource
    (op ((h.get self).actions resource) ((h.get other).actions resource)))

/-- `__ior__`: `self |= other`. -/
def inPlaceUnion (h : Heap) (self other : Ref) : Heap × Ending :=
  h.forKeys other (assignFrom (· ∪ ·) self other)

/-- `__iand__`: `self &= other`. -/
def inPlaceIntersection (h : Heap) (self other : Ref) : Heap × Ending :=
  h.forKeys self (assignFrom (· ∩ ·) self other)

section
variable {h : Heap} {self other r : Ref} {op : Finset String → Finset String → Finset String}

/-- The resources the loop has still to come to are as they were. -/
def Ahead (h : Heap) (self : Ref) (keys : List String) (p : PermissionSet) : Prop :=
  ∀ x ∈ keys, p.actions x = (h.get self).actions x

theorem Ahead.assign {p : PermissionSet} {resource : String} {keys : List String}
    (hold : h.Ahead self (resource :: keys) p) (hnodup : (resource :: keys).Nodup)
    (acts : Finset String) : h.Ahead self keys (p.assign resource acts) := by
  intro x hx
  have hne : resource ≠ x := by
    rintro rfl
    exact (List.nodup_cons.mp hnodup).1 hx
  rw [PermissionSet.actions_assign, if_neg hne]
  exact hold x (List.mem_cons_of_mem _ hx)

/-- A key of the left operand that the loop has still to come to is there. -/
theorem Ahead.mem_keys {p : PermissionSet} {keys : List String} {x : String}
    (hold : h.Ahead self keys p) (hx : x ∈ keys) (hin : x ∈ (h.get self)._items.keys) :
    x ∈ p._items.keys := by
  rw [PermissionSet.mem_keys_iff] at hin ⊢
  rw [hold x hx]
  exact hin

/-- The body at a resource the loop has come to, for operands that may be one object. -/
theorem Ahead.assignFrom {p : PermissionSet} {resource : String} {keys : List String}
    (hold : h.Ahead self (resource :: keys) p) (hself : self < h.objs.length) :
    assignFrom op self other resource (h.put self p) =
      h.put self (p.assign resource
        (op ((h.get self).actions resource) ((h.get other).actions resource))) := by
  have hleft := hold resource List.mem_cons_self
  have hother : ((h.put self p).get other).actions resource = (h.get other).actions resource := by
    by_cases hne : other = self
    · rw [hne, get_put_self hself, hleft]
    · rw [get_put_ne h hne]
  rw [Heap.assignFrom, get_put_self hself, put_put, hother, hleft]

/-- The loop when every resource it comes to keeps some action. -/
theorem forKeysFrom_returned (r other : Ref)
    (op : Finset String → Finset String → Finset String) (hself : self < h.objs.length) {len : Nat} :
    ∀ {keys : List String}, keys.Nodup → ∀ {p : PermissionSet},
      ((h.put self p).get r)._items.len = len → h.Ahead self keys p →
      (r = self → ∀ x ∈ keys, x ∈ (h.get self)._items.keys) →
      (∀ x ∈ keys, (op ((h.get self).actions x) ((h.get other).actions x)).Nonempty) →
      ∃ p', forKeysFrom r len (assignFrom op self other) keys (h.put self p)
          = (h.put self p', .returned) ∧
        ∀ x, p'.actions x =
          if x ∈ keys then op ((h.get self).actions x) ((h.get other).actions x)
          else p.actions x := by
  intro keys
  induction keys with
  | nil =>
      intro _ p hlen _ _ _
      exact ⟨p, by rw [forKeysFrom, if_pos hlen], fun x => by simp⟩
  | cons resource keys ih =>
      intro hnodup p hlen hold hin hne
      have hacts := hne resource List.mem_cons_self
      have hlen' : ((h.put self (p.assign resource
          (op ((h.get self).actions resource) ((h.get other).actions resource)))).get r)._items.len
            = len := by
        by_cases hr : r = self
        · have hkey := hold.mem_keys List.mem_cons_self (hin hr resource List.mem_cons_self)
          rw [hr, get_put_self hself] at hlen ⊢
          rw [PermissionSet.len_assign hkey hacts, hlen]
        · rw [get_put_ne h hr] at hlen ⊢
          exact hlen
      rw [forKeysFrom, if_pos hlen, hold.assignFrom hself]
      obtain ⟨p', hrun, hval⟩ := ih (List.nodup_cons.mp hnodup).2 hlen' (hold.assign hnodup _)
        (fun hr x hx => hin hr x (List.mem_cons_of_mem _ hx))
        (fun x hx => hne x (List.mem_cons_of_mem _ hx))
      refine ⟨p', hrun, fun x => ?_⟩
      rw [hval x]
      by_cases hx : x ∈ keys
      · rw [if_pos hx, if_pos (List.mem_cons_of_mem _ hx)]
      · rw [if_neg hx, PermissionSet.actions_assign]
        by_cases he : resource = x
        · rw [if_pos he, if_pos (he ▸ List.mem_cons_self), he]
        · have hout : x ∉ resource :: keys := by
            intro hmem
            rcases List.mem_cons.mp hmem with e | hmem
            · exact he e.symm
            · exact hx hmem
          rw [if_neg he, if_neg hout]

/-- The first resource that loses all its actions ends the loop over the keys of the
object that is written. -/
theorem forKeysFrom_raises (other : Ref) (op : Finset String → Finset String → Finset String)
    (hself : self < h.objs.length) {len : Nat} :
    ∀ {keys : List String}, keys.Nodup → ∀ {p : PermissionSet},
      p._items.len = len → h.Ahead self keys p →
      (∀ x ∈ keys, x ∈ (h.get self)._items.keys) →
      (∃ x ∈ keys, op ((h.get self).actions x) ((h.get other).actions x) = ∅) →
      (forKeysFrom self len (assignFrom op self other) keys (h.put self p)).2 = .changedSize := by
  intro keys
  induction keys with
  | nil =>
      rintro _ p _ _ _ ⟨x, hx, _⟩
      exact absurd hx List.not_mem_nil
  | cons resource keys ih =>
      intro hnodup p hlen hold hin hempty
      have hkey := hold.mem_keys List.mem_cons_self (hin resource List.mem_cons_self)
      rw [forKeysFrom, get_put_self hself, if_pos hlen, hold.assignFrom hself]
      by_cases hacts : op ((h.get self).actions resource) ((h.get other).actions resource) = ∅
      · -- the resource is dropped, and the iterator finds the length changed
        have hchanged := PermissionSet.len_assign_empty hkey
        rw [hlen] at hchanged
        rw [hacts]
        cases keys with
        | nil => rw [forKeysFrom, get_put_self hself, if_neg hchanged]
        | cons x keys => rw [forKeysFrom, get_put_self hself, if_neg hchanged]
      · have hne := Finset.nonempty_iff_ne_empty.mpr hacts
        refine ih (List.nodup_cons.mp hnodup).2 ?_ (hold.assign hnodup _)
          (fun x hx => hin x (List.mem_cons_of_mem _ hx)) ?_
        · rw [PermissionSet.len_assign hkey hne, hlen]
        · obtain ⟨x, hx, hxe⟩ := hempty
          rcases List.mem_cons.mp hx with rfl | hx
          · exact absurd hxe hacts
          · exact ⟨x, hx, hxe⟩

/-- `|=` ends for any two operands, and leaves the union. -/
theorem inPlaceUnion_value (hself : self < h.objs.length) (other : Ref) :
    ∃ p, h.inPlaceUnion self other = (h.put self p, .returned) ∧
      p.relation = (h.get self).relation ∪ (h.get other).relation := by
  obtain ⟨p, hrun, hval⟩ := forKeysFrom_returned other other (· ∪ ·) hself
    (h.get other)._items.nodup_keys (p := h.get self)
    (by rw [put_get h hself]) (fun x _ => rfl)
    (fun e x hx => e ▸ hx)
    (fun x hx => (PermissionSet.mem_keys_iff.mp hx).mono Finset.subset_union_right)
  rw [put_get h hself] at hrun
  refine ⟨p, hrun, ?_⟩
  ext ⟨x, action⟩
  rw [Set.mem_union, PermissionSet.mem_relation, PermissionSet.mem_relation,
    PermissionSet.mem_relation, hval x]
  split
  · exact Finset.mem_union
  · rename_i hx
    rw [PermissionSet.actions_of_not_mem hx]
    simp

/-- `self &= other` drops no resource. -/
def Overlaps (h : Heap) (self other : Ref) : Prop :=
  ∀ resource ∈ (h.get self)._items.keys,
    ((h.get self).actions resource ∩ (h.get other).actions resource).Nonempty

instance (h : Heap) (self other : Ref) : Decidable (h.Overlaps self other) :=
  inferInstanceAs (Decidable (∀ resource ∈ (h.get self)._items.keys, _))

/-- `&=` where every resource keeps some action. -/
theorem inPlaceIntersection_value (hself : self < h.objs.length)
    (hover : h.Overlaps self other) :
    ∃ p, h.inPlaceIntersection self other = (h.put self p, .returned) ∧
      p.relation = (h.get self).relation ∩ (h.get other).relation := by
  obtain ⟨p, hrun, hval⟩ := forKeysFrom_returned self other (· ∩ ·) hself
    (h.get self)._items.nodup_keys (p := h.get self)
    (by rw [put_get h hself]) (fun x _ => rfl) (fun _ x hx => hx) hover
  rw [put_get h hself] at hrun
  refine ⟨p, hrun, ?_⟩
  ext ⟨x, action⟩
  rw [Set.mem_inter_iff, PermissionSet.mem_relation, PermissionSet.mem_relation,
    PermissionSet.mem_relation, hval x]
  split
  · exact Finset.mem_inter
  · rename_i hx
    rw [PermissionSet.actions_of_not_mem hx]
    simp

/-- `&=` where some resource loses all its actions. -/
theorem inPlaceIntersection_raises (hself : self < h.objs.length)
    (hover : ¬ h.Overlaps self other) :
    (h.inPlaceIntersection self other).2 = .changedSize := by
  have hempty : ∃ x ∈ (h.get self)._items.keys,
      (h.get self).actions x ∩ (h.get other).actions x = ∅ := by
    simpa only [Overlaps, not_forall, exists_prop, Finset.not_nonempty_iff_eq_empty] using hover
  have hrun := forKeysFrom_raises other (· ∩ ·) hself
    (h.get self)._items.nodup_keys (p := h.get self) rfl (fun x _ => rfl) (fun x hx => hx) hempty
  rw [put_get h hself] at hrun
  exact hrun

end

end Heap

/-! ## Programs -/

/-- What a program does with permission sets; the operands are objects it has built. -/
inductive PermissionOp
  | init (items : RolePermissions)
  | or (self other : Ref)
  | and (self other : Ref)
  | ior (self other : Ref)
  | iand (self other : Ref)

namespace PermissionOp

/-- The operands exist. -/
def Live (h : Heap) : PermissionOp → Prop
  | .init _ => True
  | .or self other | .and self other | .ior self other | .iand self other =>
      self < h.objs.length ∧ other < h.objs.length

instance (h : Heap) (op : PermissionOp) : Decidable (op.Live h) :=
  match op with
  | .init _ => inferInstanceAs (Decidable True)
  | .or _ _ | .and _ _ | .ior _ _ | .iand _ _ => inferInstanceAs (Decidable (_ ∧ _))

/-- The object that holds the result. -/
def result (h : Heap) : PermissionOp → Ref
  | .ior self _ | .iand self _ => self
  | _ => h.objs.length

/-- The right operand. -/
def right : PermissionOp → Option Ref
  | .init _ => none
  | .or _ other | .and _ other | .ior _ other | .iand _ other => some other

/-- A `&=` leaves each resource of its left operand some action. -/
def Keeps (h : Heap) : PermissionOp → Prop
  | .iand self other => h.Overlaps self other
  | _ => True

instance (h : Heap) (op : PermissionOp) : Decidable (op.Keeps h) :=
  match op with
  | .iand self other => inferInstanceAs (Decidable (h.Overlaps self other))
  | .init _ | .or _ _ | .and _ _ | .ior _ _ => inferInstanceAs (Decidable True)

end PermissionOp

namespace Heap

def step (h : Heap) : PermissionOp → Heap × Ending
  | .init items => (h.new (.ofItems items), .returned)
  | .or self other => (h.new ((h.get self).or (h.get other)), .returned)
  | .and self other => (h.new ((h.get self).and (h.get other)), .returned)
  | .ior self other => h.inPlaceUnion self other
  | .iand self other => h.inPlaceIntersection self other

/-- The steps of a program, each with the objects it finds.  A step that raises is left
with what it has written. -/
def steps : Heap → List PermissionOp → List (Heap × PermissionOp)
  | _, [] => []
  | h, op :: ops => (h, op) :: steps (h.step op).1 ops

/-- No set has a resource without actions, and `==` is equality of the relations. -/
def Canonical (h : Heap) : Prop :=
  (∀ p ∈ h.objs, ∀ kv ∈ p._items, kv.2.Nonempty) ∧
    ∀ p ∈ h.objs, ∀ q ∈ h.objs, p.eq q = true ↔ p.relation = q.relation

/-- What the result of an operation has to be: the relation of the dictionary, the union,
the intersection; for the in-place operators the set that `|` and `&` would return. -/
def Result (h : Heap) (result : PermissionSet) : PermissionOp → Prop
  | .init items => ∀ resource action, (resource, action) ∈ result.relation ↔
      ∃ actions, items.get? resource = some actions ∧ action ∈ actions
  | .or self other => result.relation = (h.get self).relation ∪ (h.get other).relation
  | .and self other => result.relation = (h.get self).relation ∩ (h.get other).relation
  | .ior self other => result.eq ((h.get self).or (h.get other)) = true
  | .iand self other => result.eq ((h.get self).and (h.get other)) = true

/-- A step of the algebra of relations: it returns, its result is the right one, its
right operand has the value it had, and no other object is written. -/
structure Algebraic (h : Heap) (op : PermissionOp) : Prop where
  canonical : (h.step op).1.Canonical
  returns : (h.step op).2 = .returned
  value : h.Result ((h.step op).1.get (op.result h)) op
  right : ∀ other ∈ op.right, ((h.step op).1.get other).eq (h.get other) = true
  frame : ∀ r < h.objs.length, r ≠ op.result h → (h.step op).1.get r = h.get r

theorem canonical (h : Heap) : h.Canonical :=
  ⟨fun p _ => p.nonempty, fun _ _ _ _ => PermissionSet.eq_iff_relation⟩

/-- A step that allocates its result. -/
theorem algebraic_new {h : Heap} {op : PermissionOp} {p : PermissionSet} (hlive : op.Live h)
    (hstep : h.step op = (h.new p, .returned)) (hresult : op.result h = h.objs.length)
    (hvalue : h.Result p op) : h.Algebraic op where
  canonical := canonical _
  returns := by rw [hstep]
  value := by
    rw [hstep, hresult, get_new_self]
    exact hvalue
  right := by
    intro other hother
    have hlt : other < h.objs.length := by
      cases op with
      | init items => cases hother
      | or self other' => cases hother; exact hlive.2
      | and self other' => cases hother; exact hlive.2
      | ior self other' => cases hother; exact hlive.2
      | iand self other' => cases hother; exact hlive.2
    rw [hstep, get_new_old h hlt]
    exact PermissionSet.eq_iff_relation.mpr rfl
  frame := by
    intro r hr _
    rw [hstep, get_new_old h hr]

/-- A step that writes its left operand, with what it would be given by `q`. -/
theorem algebraic_put {h : Heap} {op : PermissionOp} {p : PermissionSet} {self other : Ref}
    (hself : self < h.objs.length) (hstep : h.step op = (h.put self p, .returned))
    (hresult : op.result h = self) (hright : op.right = some other)
    (hvalue : h.Result p op)
    (hsame : other = self → p.relation = (h.get self).relation) : h.Algebraic op where
  canonical := canonical _
  returns := by rw [hstep]
  value := by
    rw [hstep, hresult, get_put_self hself]
    exact hvalue
  right := by
    intro other' hother
    rw [hright] at hother
    cases hother
    rw [hstep, PermissionSet.eq_iff_relation]
    by_cases hne : other = self
    · rw [hne, get_put_self hself, hsame hne]
    · rw [get_put_ne h hne]
  frame := by
    intro r _ hr
    rw [hresult] at hr
    rw [hstep, get_put_ne h hr]

/-- One step is algebraic exactly when it is not a `&=` that drops a resource. -/
theorem algebraic_step {h : Heap} {op : PermissionOp} (hlive : op.Live h) :
    h.Algebraic op ↔ op.Keeps h := by
  cases op with
  | init items =>
      refine iff_of_true (algebraic_new hlive rfl rfl fun resource action => ?_) trivial
      exact PermissionSet.mem_relation_ofItems
  | or self other =>
      exact iff_of_true (algebraic_new hlive rfl rfl (PermissionSet.relation_or _ _)) trivial
  | and self other =>
      exact iff_of_true (algebraic_new hlive rfl rfl (PermissionSet.relation_and _ _)) trivial
  | ior self other =>
      obtain ⟨p, hrun, hrel⟩ := inPlaceUnion_value hlive.1 other
      refine iff_of_true (algebraic_put hlive.1 hrun rfl rfl ?_ ?_) trivial
      · rw [Result, PermissionSet.eq_iff_relation, hrel, PermissionSet.relation_or]
      · rintro rfl
        rw [hrel, Set.union_self]
  | iand self other =>
      constructor
      · intro halg
        by_contra hover
        have hraise := inPlaceIntersection_raises hlive.1 hover
        have hreturn : (h.inPlaceIntersection self other).2 = .returned := halg.returns
        rw [hraise] at hreturn
        cases hreturn
      · intro hover
        obtain ⟨p, hrun, hrel⟩ := inPlaceIntersection_value hlive.1 hover
        refine algebraic_put hlive.1 hrun rfl rfl ?_ ?_
        · rw [Result, PermissionSet.eq_iff_relation, hrel, PermissionSet.relation_and]
        · rintro rfl
          rw [hrel, Set.inter_self]

/-- The operands of every step of the program exist. -/
def LiveProgram (ops : List PermissionOp) : Prop :=
  ∀ s ∈ steps ⟨[]⟩ ops, s.2.Live s.1

instance (ops : List PermissionOp) : Decidable (LiveProgram ops) :=
  inferInstanceAs (Decidable (∀ s ∈ steps ⟨[]⟩ ops, s.2.Live s.1))

/-- A program is an expression of the algebra exactly when its `&=` drop no resource. -/
theorem algebraic_iff {ops : List PermissionOp} (hlive : LiveProgram ops) :
    (∀ s ∈ steps ⟨[]⟩ ops, s.1.Algebraic s.2) ↔ ∀ s ∈ steps ⟨[]⟩ ops, s.2.Keeps s.1 :=
  forall₂_congr fun s hs => algebraic_step (hlive s hs)

/-- `c = a | b`, then `c |= c` and `a &= c`. -/
def overlapping : List PermissionOp :=
  [.init ((Table.empty.set "alerts" ["list", "update"]).set "stats" []),
    .init (Table.empty.set "users" ["list"]), .or 0 1, .ior 2 2, .iand 0 2]

theorem algebraic_iff_overlapping :
    LiveProgram overlapping ∧ ∀ s ∈ steps ⟨[]⟩ overlapping, s.1.Algebraic s.2 :=
  ⟨by decide, (algebraic_iff (by decide)).mpr (by decide)⟩

/-- `PermissionSet({"alerts": ["list"]})` with `&= PermissionSet({"users": ["list"]})`. -/
theorem iand_disjoint :
    ¬ ∀ ops : List PermissionOp, LiveProgram ops → ∀ s ∈ steps ⟨[]⟩ ops, s.1.Algebraic s.2 := by
  intro h
  let alerts : RolePermissions := Table.empty.set "alerts" ["list"]
  let users : RolePermissions := Table.empty.set "users" ["list"]
  have hstep : Algebraic ⟨[.ofItems alerts, .ofItems users]⟩ (.iand 0 1) :=
    h [.init alerts, .init users, .iand 0 1] (by decide)
      (⟨[.ofItems alerts, .ofItems users]⟩, .iand 0 1) (by simp [steps, step, new])
  exact absurd ((algebraic_step (by decide)).mp hstep) (by decide)

end Heap

end CortxCsm
