/-
# `CortxCsm.Lib.Prune` — JSON documents without some of their keys

A path may lead through lists as well as through objects: a step names a key or an
index.  `prune keep` drops every entry whose key is not kept, at every depth.

What it leaves is said three ways: no object within it has a key that is dropped
(`free_prune`); at a path whose keys are all kept stands the pruned value of what stood
there (`follow_prune`); and a value in which every key is kept is left as it is
(`prune_of_free`).  Prunings compose into one (`prune_prune`), so that they commute and
that pruning twice is pruning once.
-/
import CortxCsm.Lib.Document

namespace Json

/-- Whether the value is neither an object nor a list. -/
def isLeaf : Json → Bool
  | .arr _ | .obj _ => false
  | _ => true

/-- Induction over a value, the lists and objects by what they hold. -/
@[elab_as_elim]
theorem induct {motive : Json → Prop} (leaf : ∀ d, d.isLeaf = true → motive d)
    (arr : ∀ items, (∀ item ∈ items, motive item) → motive (.arr items))
    (obj : ∀ entries, (∀ entry ∈ entries, motive entry.2) → motive (.obj entries))
    (d : Json) : motive d :=
  @Json.rec motive (fun items => ∀ item ∈ items, motive item)
    (fun entries => ∀ entry ∈ entries, motive entry.2) (fun entry => motive entry.2)
    (leaf _ rfl) (fun _ => leaf _ rfl) (fun _ => leaf _ rfl) (fun _ => leaf _ rfl)
    (fun _ => leaf _ rfl) arr obj
    (fun _ h => absurd h List.not_mem_nil)
    (fun _ _ hhead htail _ h => (List.mem_cons.mp h).elim (fun e => e ▸ hhead) (htail _))
    (fun _ h => absurd h List.not_mem_nil)
    (fun _ _ hhead htail _ h => (List.mem_cons.mp h).elim (fun e => e ▸ hhead) (htail _))
    (fun _ _ h => h) d

/-! ## Paths through lists and objects -/

inductive Step
  | key (k : String)
  | index (i : Nat)
  deriving DecidableEq

def step : Step → Json → Option Json
  | .key k, .obj entries => entries.lookup k
  | .index i, .arr items => items[i]?
  | _, _ => none

/-- The value at a path. -/
def follow : List Step → Json → Option Json
  | [], d => some d
  | s :: path, d => (step s d).bind (follow path)

/-- The first value is the second or stands somewhere in it. -/
inductive Within : Json → Json → Prop
  | refl (d : Json) : Within d d
  | item {d item : Json} {items : List Json} : item ∈ items → Within d item → Within d (.arr items)
  | entry {d : Json} {entry : String × Json} {entries : List (String × Json)} :
      entry ∈ entries → Within d entry.2 → Within d (.obj entries)

/-- Every key within the value is kept. -/
def Free (keep : String → Bool) (d : Json) : Prop :=
  ∀ entries, Within (.obj entries) d → ∀ entry ∈ entries, keep entry.1 = true

theorem free_leaf {keep : String → Bool} {d : Json} (h : d.isLeaf = true) : Free keep d := by
  intro entries hwithin
  cases hwithin with
  | refl => cases h
  | item => cases h
  | entry => cases h

theorem free_arr {keep : String → Bool} {items : List Json} :
    Free keep (.arr items) ↔ ∀ item ∈ items, Free keep item := by
  constructor
  · intro h item hitem entries hwithin
    exact h entries (.item hitem hwithin)
  · intro h entries hwithin
    cases hwithin with
    | item hitem hwithin => exact h _ hitem entries hwithin

theorem free_obj {keep : String → Bool} {entries : List (String × Json)} :
    Free keep (.obj entries) ↔ ∀ entry ∈ entries, keep entry.1 = true ∧ Free keep entry.2 := by
  constructor
  · intro h entry hentry
    exact ⟨h entries (.refl _) entry hentry,
      fun inner hwithin => h inner (.entry hentry hwithin)⟩
  · intro h inner hwithin
    cases hwithin with
    | refl => exact fun entry hentry => (h entry hentry).1
    | entry hentry hwithin => exact (h _ hentry).2 inner hwithin

/-! ## Pruning -/

mutual

/-- The value without the entries whose keys are not kept, at every depth. -/
def prune (keep : String → Bool) : Json → Json
  | .obj entries => .obj (pruneEntries keep entries)
  | .arr items => .arr (pruneItems keep items)
  | d => d
termination_by structural d => d

def pruneItems (keep : String → Bool) : List Json → List Json
  | [] => []
  | item :: items => prune keep item :: pruneItems keep items

def pruneEntries (keep : String → Bool) : List (String × Json) → List (String × Json)
  | [] => []
  | (k, v) :: entries =>
      if keep k then (k, prune keep v) :: pruneEntries keep entries else pruneEntries keep entries

end

section

variable (keep : String → Bool)

theorem pruneItems_eq (items : List Json) : pruneItems keep items = items.map (prune keep) := by
  induction items with
  | nil => rfl
  | cons item items ih => rw [pruneItems, ih, List.map_cons]

theorem pruneEntries_eq (entries : List (String × Json)) :
    pruneEntries keep entries =
      (entries.filter fun entry => keep entry.1).map fun entry => (entry.1, prune keep entry.2) := by
  induction entries with
  | nil => rfl
  | cons entry entries ih =>
      obtain ⟨k, v⟩ := entry
      rw [pruneEntries, ih, List.filter_cons]
      split <;> rfl

theorem prune_arr (items : List Json) :
    prune keep (.arr items) = .arr (items.map (prune keep)) := by
  rw [prune, pruneItems_eq]

theorem prune_obj (entries : List (String × Json)) :
    prune keep (.obj entries) =
      .obj ((entries.filter fun entry => keep entry.1).map fun entry =>
        (entry.1, prune keep entry.2)) := by
  rw [prune, pruneEntries_eq]

theorem prune_leaf {d : Json} (h : d.isLeaf = true) : prune keep d = d := by
  cases d with
  | arr => cases h
  | obj => cases h
  | _ => rfl

theorem lookup_pruned {k : String} (hk : keep k = true) (entries : List (String × Json)) :
    ((entries.filter fun entry => keep entry.1).map fun entry =>
        (entry.1, prune keep entry.2)).lookup k =
      (entries.lookup k).map (prune keep) := by
  induction entries with
  | nil => rfl
  | cons entry entries ih =>
      rw [lookup_cons, List.filter_cons]
      split
      · rw [List.map_cons, lookup_cons, ih]
        split <;> rfl
      · rename_i hdropped
        rw [ih, if_neg fun e : entry.1 = k => hdropped (e ▸ hk)]

/-- No object within what is left has a key that is not kept. -/
theorem free_prune (d : Json) : Free keep (prune keep d) := by
  induction d using induct with
  | leaf d h =>
      rw [prune_leaf keep h]
      exact free_leaf h
  | arr items ih =>
      rw [prune_arr, free_arr]
      intro pruned hpruned
      obtain ⟨item, hitem, rfl⟩ := List.mem_map.mp hpruned
      exact ih item hitem
  | obj entries ih =>
      rw [prune_obj, free_obj]
      intro pruned hpruned
      obtain ⟨entry, hmem, rfl⟩ := List.mem_map.mp hpruned
      obtain ⟨hmem, hkept⟩ := List.mem_filter.mp hmem
      exact ⟨hkept, ih entry hmem⟩

/-- A value in which every key is kept is left as it is. -/
theorem prune_of_free {d : Json} (h : Free keep d) : prune keep d = d := by
  induction d using induct with
  | leaf d hleaf => exact prune_leaf keep hleaf
  | arr items ih =>
      have hitems : items.map (prune keep) = items.map id :=
        List.map_congr_left fun item hitem => ih item hitem (free_arr.mp h item hitem)
      rw [prune_arr, hitems, List.map_id]
  | obj entries ih =>
      have hkept : (entries.filter fun entry => keep entry.1) = entries :=
        List.filter_eq_self.mpr fun entry hentry => (free_obj.mp h entry hentry).1
      have hentries : (entries.map fun entry => (entry.1, prune keep entry.2)) = entries.map id :=
        List.map_congr_left fun entry hentry => by
          rw [ih entry hentry (free_obj.mp h entry hentry).2]
          rfl
      rw [prune_obj, hkept, hentries, List.map_id]

/-- At a path of kept keys stands the pruned value of what stood there. -/
theorem follow_prune {path : List Step} (hpath : ∀ k, .key k ∈ path → keep k = true) (d : Json) :
    follow path (prune keep d) = (follow path d).map (prune keep) := by
  induction path generalizing d with
  | nil => rfl
  | cons s path ih =>
      have hstep : step s (prune keep d) = (step s d).map (prune keep) := by
        cases d with
        | arr items =>
            rw [prune_arr]
            cases s with
            | key k => rfl
            | index i => exact List.getElem?_map
        | obj entries =>
            rw [prune_obj]
            cases s with
            | key k => exact lookup_pruned keep (hpath k List.mem_cons_self) entries
            | index i => rfl
        | _ => cases s <;> rfl
      rw [follow, hstep, follow]
      cases step s d with
      | none => rfl
      | some v => exact ih (fun k hk => hpath k (List.mem_cons_of_mem s hk)) v

end

/-- Prunings compose. -/
theorem prune_prune (keep keep' : String → Bool) (d : Json) :
    prune keep' (prune keep d) = prune (fun k => keep k && keep' k) d := by
  induction d using induct with
  | leaf d h => simp only [prune_leaf _ h]
  | arr items ih =>
      simp only [prune_arr, List.map_map]
      congr 1
      exact List.map_congr_left fun item hitem => ih item hitem
  | obj entries ih =>
      simp only [prune_obj, List.filter_map, List.filter_filter, List.map_map]
      congr 1
      have hfilter : (entries.filter fun entry => keep' entry.1 && keep entry.1) =
          entries.filter fun entry => keep entry.1 && keep' entry.1 :=
        List.filter_congr fun entry _ => Bool.and_comm _ _
      refine (congrArg (List.map _) hfilter).trans (List.map_congr_left fun entry hentry => ?_)
      rw [Function.comp_apply, ih entry (List.mem_filter.mp hentry).1]

end Json
