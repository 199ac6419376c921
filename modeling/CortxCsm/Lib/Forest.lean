/-
# `CortxCsm.Lib.Forest` — trees, and the order in which they are listed

A path is the list of the positions on the way down, the first of them the position of a
tree in the forest.  `Rose.preorder` lists a label before those below it and the trees in
their order.

What that order is can be said without the recursion (`Rose.inPreorder_forest`): the labels
are those at the paths of the forest, each path once, in the lexicographic order of the
paths.  There a path comes before every path that it begins, and siblings come in their
order with all that is below them.
-/
import Mathlib.Data.List.Basic
import Mathlib.Order.Basic

/-- A tree with any number of subtrees, in order. -/
inductive Rose (α : Type)
  | node (label : α) (children : List (Rose α))

namespace Rose

variable {α : Type}

def label : Rose α → α
  | .node label _ => label

def children : Rose α → List (Rose α)
  | .node _ children => children

/-- Induction over a tree by its subtrees. -/
@[elab_as_elim]
theorem induct {motive : Rose α → Prop}
    (node : ∀ label children, (∀ t ∈ children, motive t) → motive (.node label children))
    (t : Rose α) : motive t :=
  @Rose.rec α motive (fun ts => ∀ t ∈ ts, motive t) node
    (fun _ h => absurd h List.not_mem_nil)
    (fun _ _ hhead htail _ h => (List.mem_cons.mp h).elim (fun e => e ▸ hhead) (htail _)) t

/-! ## Sizes and traversals -/

mutual

/-- The number of labels. -/
def size : Rose α → Nat
  | .node _ children => 1 + sizeAll children
termination_by structural t => t

def sizeAll : List (Rose α) → Nat
  | [] => 0
  | t :: ts => size t + sizeAll ts

end

mutual

/-- The labels of a tree, each before those below it. -/
def preorder : Rose α → List α
  | .node label children => label :: preorderAll children
termination_by structural t => t

/-- The labels of a forest, tree by tree. -/
def preorderAll : List (Rose α) → List α
  | [] => []
  | t :: ts => preorder t ++ preorderAll ts

end

theorem sizeAll_append (ts ts' : List (Rose α)) : sizeAll (ts ++ ts') = sizeAll ts + sizeAll ts' := by
  induction ts with
  | nil => rw [List.nil_append, sizeAll, Nat.zero_add]
  | cons t ts ih => rw [List.cons_append, sizeAll, sizeAll, ih, Nat.add_assoc]

theorem preorderAll_append (ts ts' : List (Rose α)) :
    preorderAll (ts ++ ts') = preorderAll ts ++ preorderAll ts' := by
  induction ts with
  | nil => rfl
  | cons t ts ih => rw [List.cons_append, preorderAll, preorderAll, ih, List.append_assoc]

/-! ## Paths -/

/-- The tree that a path leads to from a tree. -/
def follow : List Nat → Rose α → Option (Rose α)
  | [], t => some t
  | i :: path, t => t.children[i]?.bind (follow path)

/-- The label at a path of a forest. -/
def labelAt (ts : List (Rose α)) : List Nat → Option α
  | [] => none
  | i :: path => (ts[i]?.bind (follow path)).map label

mutual

/-- The paths of a tree. -/
def paths : Rose α → List (List Nat)
  | .node _ children => [] :: pathsFrom 0 children
termination_by structural t => t

/-- The paths of a forest whose first tree has the position `i`. -/
def pathsFrom (i : Nat) : List (Rose α) → List (List Nat)
  | [] => []
  | t :: ts => (paths t).map (i :: ·) ++ pathsFrom (i + 1) ts

end

theorem mem_pathsFrom {i : Nat} {ts : List (Rose α)} {path : List Nat} :
    path ∈ pathsFrom i ts ↔ ∃ j rest t, path = (i + j) :: rest ∧ ts[j]? = some t ∧ rest ∈ paths t := by
  induction ts generalizing i with
  | nil => simp [pathsFrom]
  | cons t ts ih =>
      rw [pathsFrom, List.mem_append, List.mem_map, ih]
      constructor
      · rintro (⟨rest, hrest, rfl⟩ | ⟨j, rest, t', rfl, ht', hrest⟩)
        · exact ⟨0, rest, t, rfl, rfl, hrest⟩
        · exact ⟨j + 1, rest, t', by rw [Nat.add_right_comm, Nat.add_assoc], ht', hrest⟩
      · rintro ⟨j, rest, t', rfl, ht', hrest⟩
        cases j with
        | zero => cases ht'; exact .inl ⟨rest, hrest, rfl⟩
        | succ j =>
            exact .inr ⟨j, rest, t', by rw [Nat.add_right_comm, Nat.add_assoc], ht', hrest⟩

/-- The paths of a tree are those that lead somewhere. -/
theorem mem_paths (t : Rose α) : ∀ {path : List Nat}, path ∈ paths t ↔ (follow path t).isSome := by
  induction t using induct with
  | node label children ih =>
      intro path
      rw [paths, List.mem_cons, mem_pathsFrom]
      cases path with
      | nil => exact iff_of_true (.inl rfl) rfl
      | cons i path =>
          rw [follow]
          constructor
          · rintro (h | ⟨j, rest, t, h, ht, hrest⟩)
            · cases h
            · cases h
              rw [Rose.children, Nat.zero_add, ht]
              exact (ih t (List.mem_of_getElem? ht)).mp hrest
          · intro h
            cases ht : children[i]? with
            | none => rw [Rose.children, ht] at h; cases h
            | some t =>
                rw [Rose.children, ht] at h
                exact .inr ⟨i, path, t, by rw [Nat.zero_add], ht,
                  (ih t (List.mem_of_getElem? ht)).mpr h⟩

theorem pairwise_pathsFrom {ts : List (Rose α)} (h : ∀ t ∈ ts, (paths t).Pairwise (· < ·)) :
    ∀ i, (pathsFrom i ts).Pairwise (· < ·) := by
  induction ts with
  | nil => exact fun _ => List.Pairwise.nil
  | cons t ts ih =>
      intro i
      rw [pathsFrom, List.pairwise_append]
      refine ⟨?_, ih (fun t' ht' => h t' (List.mem_cons_of_mem t ht')) (i + 1), ?_⟩
      · refine List.pairwise_map.mpr ((h t List.mem_cons_self).imp fun hlt => ?_)
        exact List.cons_lt_cons_iff.mpr (.inr ⟨rfl, hlt⟩)
      · -- a path of the first tree has the smaller first position
        intro path hpath path' hpath'
        obtain ⟨rest, -, rfl⟩ := List.mem_map.mp hpath
        obtain ⟨j, rest', t', rfl, -, -⟩ := mem_pathsFrom.mp hpath'
        exact List.cons_lt_cons_iff.mpr (.inl (by omega))

/-- They come in lexicographic order. -/
theorem pairwise_paths (t : Rose α) : (paths t).Pairwise (· < ·) := by
  induction t using induct with
  | node label children ih =>
      rw [paths, List.pairwise_cons]
      refine ⟨fun path hpath => ?_, pairwise_pathsFrom ih 0⟩
      obtain ⟨j, rest, t, rfl, -, -⟩ := mem_pathsFrom.mp hpath
      exact List.nil_lt_cons _ _

theorem map_labelAt_pathsFrom {ts : List (Rose α)}
    (h : ∀ t ∈ ts, (paths t).map (fun path => (follow path t).map label) = (preorder t).map some)
    (before : List (Rose α)) :
    (pathsFrom before.length ts).map (labelAt (before ++ ts)) = (preorderAll ts).map some := by
  induction ts generalizing before with
  | nil => rfl
  | cons t ts ih =>
      rw [pathsFrom, preorderAll, List.map_append, List.map_append, List.map_map,
        ← h t List.mem_cons_self]
      have hrest := ih (fun t' ht' => h t' (List.mem_cons_of_mem t ht')) (before ++ [t])
      rw [List.length_append, List.length_singleton, List.append_assoc, List.singleton_append]
        at hrest
      rw [hrest]
      congr 1
      refine List.map_congr_left fun path _ => ?_
      rw [Function.comp_apply, labelAt, List.getElem?_append_right (Nat.le_refl before.length), Nat.sub_self]
      rfl

/-- The labels at the paths of a tree are its labels in preorder. -/
theorem map_label_paths (t : Rose α) :
    (paths t).map (fun path => (follow path t).map label) = (preorder t).map some := by
  induction t using induct with
  | node root children ih =>
      rw [paths, preorder, List.map_cons, List.map_cons, ← map_labelAt_pathsFrom ih []]
      congr 1
      refine List.map_congr_left fun path hpath => ?_
      obtain ⟨j, rest, t, rfl, -, -⟩ := mem_pathsFrom.mp hpath
      rfl

/-- A list of labels is the preorder of a forest: there are paths in lexicographic order, the
paths of the forest and no others, and the list has the labels at them. -/
def InPreorder (ts : List (Rose α)) (labels : List α) : Prop :=
  ∃ order : List (List Nat), order.Pairwise (· < ·) ∧
    (∀ path, path ∈ order ↔ (labelAt ts path).isSome) ∧
    order.map (labelAt ts) = labels.map some

theorem inPreorder_forest (ts : List (Rose α)) : InPreorder ts (preorderAll ts) := by
  refine ⟨pathsFrom 0 ts, pairwise_pathsFrom (fun t _ => pairwise_paths t) 0, fun path => ?_,
    map_labelAt_pathsFrom (fun t _ => map_label_paths t) []⟩
  rw [mem_pathsFrom]
  cases path with
  | nil => exact iff_of_false (fun ⟨_, _, _, h, _⟩ => List.cons_ne_nil _ _ h.symm) Bool.false_ne_true
  | cons i path =>
      rw [labelAt, Option.isSome_map]
      constructor
      · rintro ⟨j, rest, t, h, ht, hrest⟩
        cases h
        rw [Nat.zero_add, ht]
        exact (mem_paths t).mp hrest
      · intro h
        cases ht : ts[i]? with
        | none => rw [ht] at h; cases h
        | some t =>
            rw [ht] at h
            exact ⟨i, path, t, by rw [Nat.zero_add], ht, (mem_paths t).mpr h⟩

end Rose
