/-
# `CortxCsm.Lib.Table` — keyed tables in insertion order

A `Table key` is a list of rows no two of which have the same key.  It is what
both a document store with a primary key and a Python `dict` are, read back as
a list: `upsert` replaces the row with the same key where it stands and appends
a row with a new key, `remove` drops the row with a key and is silent when
there is none.  The key is a function of the row, so a store of records keyed
by one of their fields is a table, and a dictionary is the table of its items
(`Dict`, key `Prod.fst`).

The nodup field is the invariant, so every membership fact below is an
equivalence and none of them has a side condition.
-/
import Mathlib.Data.List.Nodup
import Mathlib.Data.List.Dedup
import Mathlib.Data.List.Perm.Subperm

/-- Rows with pairwise distinct keys, in insertion order. -/
structure Table {κ ρ : Type} (key : ρ → κ) where
  rows : List ρ
  nodup : (rows.map key).Nodup

namespace Table

variable {κ ρ : Type} {key : ρ → κ}

instance : Membership ρ (Table key) := ⟨fun t r => r ∈ t.rows⟩

theorem mem_def {t : Table key} {r : ρ} : r ∈ t ↔ r ∈ t.rows := Iff.rfl

@[ext] theorem ext {t t' : Table key} (h : t.rows = t'.rows) : t = t' := by
  cases t; cases t'; cases h; rfl

instance [DecidableEq ρ] : DecidableEq (Table key) := fun t t' =>
  decidable_of_iff (t.rows = t'.rows) ⟨ext, fun h => h ▸ rfl⟩

instance [DecidableEq ρ] (r : ρ) (t : Table key) : Decidable (r ∈ t) :=
  inferInstanceAs (Decidable (r ∈ t.rows))

instance (p : ρ → Prop) [DecidablePred p] (t : Table key) : Decidable (∀ r ∈ t, p r) :=
  inferInstanceAs (Decidable (∀ r ∈ t.rows, p r))

instance (p : ρ → Prop) [DecidablePred p] (t : Table key) : Decidable (∃ r ∈ t, p r) :=
  inferInstanceAs (Decidable (∃ r ∈ t.rows, p r))

def empty : Table key := ⟨[], List.nodup_nil⟩

/-- How many rows satisfy `p`. -/
def count (t : Table key) (p : ρ → Bool) : Nat := t.rows.countP p

instance : Inhabited (Table key) := ⟨empty⟩

@[simp] theorem not_mem_empty (r : ρ) : r ∉ (empty : Table key) := List.not_mem_nil

/-- Two rows with one key are one row. -/
theorem eq_of_key {t : Table key} {r r' : ρ} (h : r ∈ t) (h' : r' ∈ t)
    (hk : key r = key r') : r = r' :=
  List.inj_on_of_nodup_map t.nodup h h' hk

theorem count_pos {t : Table key} {p : ρ → Bool} : 0 < t.count p ↔ ∃ r ∈ t, p r := by
  simp [count, List.countP_pos_iff, mem_def]

section
variable [DecidableEq κ]

/-- The row with key `k`. -/
def find? (t : Table key) (k : κ) : Option ρ := t.rows.find? (fun r => key r = k)

theorem find?_eq_some {t : Table key} {k : κ} {r : ρ} :
    t.find? k = some r ↔ r ∈ t ∧ key r = k := by
  constructor
  · intro h
    exact ⟨List.mem_of_find?_eq_some h, by simpa using List.find?_some h⟩
  · rintro ⟨hr, hk⟩
    cases h : t.find? k with
    | none =>
        have := List.find?_eq_none.mp h r hr
        simp [hk] at this
    | some r' =>
        have hr' := List.mem_of_find?_eq_some h
        have hk' : key r' = k := by simpa using List.find?_some h
        rw [t.eq_of_key hr' hr (hk'.trans hk.symm)]

theorem find?_eq_none {t : Table key} {k : κ} :
    t.find? k = none ↔ ∀ r ∈ t, key r ≠ k := by
  simp [find?, mem_def]

/-! ## Upsert -/

/-- Replace the row with `r`'s key where it stands, or append `r`. -/
def upsertList (key : ρ → κ) (r : ρ) : List ρ → List ρ
  | [] => [r]
  | x :: xs => if key x = key r then r :: xs else x :: upsertList key r xs

theorem map_key_upsertList (r : ρ) : ∀ xs : List ρ,
    (upsertList key r xs).map key
      = if key r ∈ xs.map key then xs.map key else xs.map key ++ [key r]
  | [] => by simp [upsertList]
  | x :: xs => by
      by_cases h : key x = key r
      · simp [upsertList, h]
      · have ih := map_key_upsertList r xs
        have h' : key r ≠ key x := fun e => h e.symm
        simp only [upsertList, if_neg h, List.map_cons, ih, List.mem_cons, h', false_or]
        split <;> rfl

def upsert (t : Table key) (r : ρ) : Table key where
  rows := upsertList key r t.rows
  nodup := by
    rw [map_key_upsertList]
    split
    · exact t.nodup
    · rename_i h
      rw [List.nodup_append]
      refine ⟨t.nodup, List.nodup_singleton _, ?_⟩
      intro a ha b hb e
      rw [List.mem_singleton] at hb
      exact h (hb ▸ e ▸ ha)

theorem mem_upsertList {r x : ρ} : ∀ {xs : List ρ}, (xs.map key).Nodup →
    (x ∈ upsertList key r xs ↔ x = r ∨ (x ∈ xs ∧ key x ≠ key r))
  | [], _ => by simp [upsertList]
  | y :: ys, h => by
      rw [List.map_cons, List.nodup_cons] at h
      by_cases hy : key y = key r
      · simp only [upsertList, if_pos hy, List.mem_cons]
        constructor
        · rintro (rfl | hx)
          · exact Or.inl rfl
          · refine Or.inr ⟨Or.inr hx, fun e => h.1 ?_⟩
            rw [hy, ← e]
            exact List.mem_map_of_mem hx
        · rintro (rfl | ⟨rfl | hx, hk⟩)
          · exact Or.inl rfl
          · exact absurd hy hk
          · exact Or.inr hx
      · simp only [upsertList, if_neg hy, List.mem_cons, mem_upsertList h.2]
        constructor
        · rintro (rfl | rfl | ⟨hx, hk⟩)
          · exact Or.inr ⟨Or.inl rfl, hy⟩
          · exact Or.inl rfl
          · exact Or.inr ⟨Or.inr hx, hk⟩
        · rintro (rfl | ⟨rfl | hx, hk⟩)
          · exact Or.inr (Or.inl rfl)
          · exact Or.inl rfl
          · exact Or.inr (Or.inr ⟨hx, hk⟩)

@[simp] theorem mem_upsert {t : Table key} {r x : ρ} :
    x ∈ t.upsert r ↔ x = r ∨ (x ∈ t ∧ key x ≠ key r) := mem_upsertList t.nodup

theorem self_mem_upsert (t : Table key) (r : ρ) : r ∈ t.upsert r := by simp

/-- A row that looks like the one it replaces. -/
theorem map_upsertList_of_same {β : Type} {f : ρ → β} {x r : ρ} (hkey : key x = key r)
    (hf : f x = f r) : ∀ {xs : List ρ}, (xs.map key).Nodup → x ∈ xs →
      (upsertList key r xs).map f = xs.map f
  | y :: ys, h, hx => by
      rw [List.map_cons, List.nodup_cons] at h
      rcases List.mem_cons.mp hx with rfl | hx
      · rw [upsertList, if_pos hkey, List.map_cons, List.map_cons, hf]
      · have hne : key y ≠ key r := by
          rintro he
          exact h.1 (he.trans hkey.symm ▸ List.mem_map_of_mem hx)
        rw [upsertList, if_neg hne, List.map_cons, List.map_cons,
          map_upsertList_of_same hkey hf h.2 hx]

/-- The first row of a kind, replaced by another of the kind. -/
theorem find?_upsertList_of_same {p : ρ → Bool} {x r : ρ} (hkey : key x = key r)
    (hr : p r = true) : ∀ {xs : List ρ}, (xs.map key).Nodup → xs.find? p = some x →
      (upsertList key r xs).find? p = some r
  | y :: ys, h, hx => by
      rw [List.map_cons, List.nodup_cons] at h
      by_cases hy : p y = true
      · rw [List.find?_cons_of_pos hy] at hx
        cases hx
        rw [upsertList, if_pos hkey, List.find?_cons_of_pos hr]
      · rw [List.find?_cons_of_neg hy] at hx
        have hne : key y ≠ key r := by
          rintro he
          exact h.1 (he.trans hkey.symm ▸ List.mem_map_of_mem (List.mem_of_find?_eq_some hx))
        rw [upsertList, if_neg hne, List.find?_cons_of_neg hy]
        exact find?_upsertList_of_same hkey hr h.2 hx

/-- A row with a new key is appended. -/
theorem rows_upsert_of_new {t : Table key} {r : ρ} (h : ∀ x ∈ t, key x ≠ key r) :
    (t.upsert r).rows = t.rows ++ [r] := by
  have : ∀ xs : List ρ, (∀ x ∈ xs, key x ≠ key r) → upsertList key r xs = xs ++ [r] := by
    intro xs
    induction xs with
    | nil => intro _; rfl
    | cons x xs ih =>
        intro hx
        rw [upsertList, if_neg (hx x List.mem_cons_self),
          ih fun y hy => hx y (List.mem_cons_of_mem _ hy)]
        rfl
  exact this t.rows h

/-- The second of two rows with one key replaces the first. -/
theorem upsert_upsert (t : Table key) {r r' : ρ} (h : key r = key r') :
    (t.upsert r).upsert r' = t.upsert r' := by
  have hlist : ∀ xs : List ρ, upsertList key r' (upsertList key r xs) = upsertList key r' xs := by
    intro xs
    induction xs with
    | nil => simp [upsertList, h]
    | cons x xs ih =>
        by_cases hx : key x = key r
        · simp [upsertList, hx, h]
        · have hx' : key x ≠ key r' := fun e => hx (e.trans h.symm)
          simp [upsertList, hx, hx', ih]
  exact ext (hlist t.rows)

/-- Storing a row that is there changes nothing. -/
theorem upsert_of_mem {t : Table key} {r : ρ} (h : r ∈ t) : t.upsert r = t := by
  have hlist : ∀ xs : List ρ, (xs.map key).Nodup → r ∈ xs → upsertList key r xs = xs := by
    intro xs
    induction xs with
    | nil => exact fun _ hr => absurd hr List.not_mem_nil
    | cons x xs ih =>
        intro hn hr
        rw [List.map_cons, List.nodup_cons] at hn
        rcases List.mem_cons.mp hr with rfl | hr
        · simp [upsertList]
        · have hx : key x ≠ key r := fun e => hn.1 (e ▸ List.mem_map_of_mem hr)
          rw [upsertList, if_neg hx, ih hn.2 hr]
  exact ext (hlist t.rows t.nodup h)

theorem find?_upsert (t : Table key) (r : ρ) (k : κ) :
    (t.upsert r).find? k = if key r = k then some r else t.find? k := by
  split
  · rename_i h
    exact find?_eq_some.mpr ⟨t.self_mem_upsert r, h⟩
  · rename_i h
    cases hf : t.find? k with
    | none =>
        rw [find?_eq_none] at hf ⊢
        rintro x hx
        rcases mem_upsert.mp hx with rfl | ⟨hx, _⟩
        · exact h
        · exact hf x hx
    | some x =>
        rw [find?_eq_some] at hf ⊢
        exact ⟨mem_upsert.mpr (Or.inr ⟨hf.1, fun e => h (e ▸ hf.2)⟩), hf.2⟩

/-! ## Remove -/

/-- Drop the row with key `k`, if there is one. -/
def remove (t : Table key) (k : κ) : Table key where
  rows := t.rows.filter (fun r => key r ≠ k)
  nodup := List.Nodup.sublist (List.Sublist.map key List.filter_sublist) t.nodup

@[simp] theorem mem_remove {t : Table key} {k : κ} {x : ρ} :
    x ∈ t.remove k ↔ x ∈ t ∧ key x ≠ k := by
  simp [remove, mem_def]

theorem find?_remove (t : Table key) (k k' : κ) :
    (t.remove k).find? k' = if k = k' then none else t.find? k' := by
  split
  · rename_i h
    rw [find?_eq_none]
    intro x hx
    exact h ▸ (mem_remove.mp hx).2
  · rename_i h
    cases hf : t.find? k' with
    | none =>
        rw [find?_eq_none] at hf ⊢
        exact fun x hx => hf x (mem_remove.mp hx).1
    | some x =>
        rw [find?_eq_some] at hf ⊢
        exact ⟨mem_remove.mpr ⟨hf.1, fun e => h (e.symm.trans hf.2)⟩, hf.2⟩

/-! ## Updating rows where they stand -/

/-- `f` on the rows that satisfy `p`; it leaves the keys alone. -/
def updateWhere (t : Table key) (p : ρ → Bool) (f : ρ → ρ) (hf : ∀ r, key (f r) = key r) :
    Table key where
  rows := t.rows.map fun r => if p r then f r else r
  nodup := by
    have hkeys : (t.rows.map fun r => if p r then f r else r).map key = t.rows.map key := by
      rw [List.map_map]
      refine List.map_congr_left fun r _ => ?_
      show key (if p r then f r else r) = key r
      split
      · exact hf r
      · rfl
    rw [hkeys]
    exact t.nodup

omit [DecidableEq κ] in
theorem mem_updateWhere {t : Table key} {p : ρ → Bool} {f : ρ → ρ}
    {hf : ∀ r, key (f r) = key r} {x : ρ} :
    x ∈ t.updateWhere p f hf ↔ ∃ r ∈ t, x = if p r then f r else r := by
  rw [mem_def, updateWhere, List.mem_map]
  exact exists_congr fun r => and_congr_right fun _ => eq_comm

theorem find?_updateWhere (t : Table key) {p : ρ → Bool} {f : ρ → ρ}
    {hf : ∀ r, key (f r) = key r} (k : κ) :
    (t.updateWhere p f hf).find? k = (t.find? k).map fun r => if p r then f r else r := by
  have hkey : ∀ r, key (if p r then f r else r) = key r := by
    intro r
    split
    · exact hf r
    · rfl
  cases hfind : t.find? k with
  | some r =>
      obtain ⟨hmem, hk⟩ := find?_eq_some.mp hfind
      exact find?_eq_some.mpr ⟨mem_updateWhere.mpr ⟨r, hmem, rfl⟩, (hkey r).trans hk⟩
  | none =>
      rw [find?_eq_none] at hfind
      refine find?_eq_none.mpr fun x hx => ?_
      obtain ⟨r, hmem, rfl⟩ := mem_updateWhere.mp hx
      rw [hkey]
      exact hfind r hmem

/-! ## Counting rows -/

theorem count_upsert_new {t : Table key} {r : ρ} (p : ρ → Bool)
    (h : ∀ x ∈ t, key x ≠ key r) :
    (t.upsert r).count p = t.count p + if p r then 1 else 0 := by
  unfold count
  rw [rows_upsert_of_new h, List.countP_append, List.countP_singleton]

/-- A row replaced by one that counts as much. -/
theorem count_upsert_of_mem {t : Table key} {r r' : ρ} (p : ρ → Bool) (h : r' ∈ t)
    (hkey : key r' = key r) (hp : p r' = p r) : (t.upsert r).count p = t.count p := by
  have hmem : ∀ xs : List ρ, (xs.map key).Nodup → r' ∈ xs →
      (upsertList key r xs).countP p = xs.countP p := by
    intro xs
    induction xs with
    | nil => exact fun _ hr => absurd hr List.not_mem_nil
    | cons x xs ih =>
        intro hn hr
        rw [List.map_cons, List.nodup_cons] at hn
        by_cases hx : key x = key r
        · have hxr : x = r' := by
            rcases List.mem_cons.mp hr with e | hr
            · exact e.symm
            · exact absurd (hx ▸ hkey ▸ List.mem_map_of_mem hr) hn.1
          rw [upsertList, if_pos hx, List.countP_cons, List.countP_cons, hxr, hp]
        · rcases List.mem_cons.mp hr with rfl | hr
          · exact absurd hkey hx
          · rw [upsertList, if_neg hx, List.countP_cons, List.countP_cons, ih hn.2 hr]
  exact hmem t.rows t.nodup h

theorem count_remove {t : Table key} {r : ρ} (p : ρ → Bool) (h : r ∈ t) :
    (t.remove (key r)).count p + (if p r then 1 else 0) = t.count p := by
  have hmem : ∀ xs : List ρ, (xs.map key).Nodup → r ∈ xs →
      (xs.filter (fun x => key x ≠ key r)).countP p + (if p r then 1 else 0)
        = xs.countP p := by
    intro xs
    induction xs with
    | nil => intro _ hr; exact absurd hr List.not_mem_nil
    | cons x xs ih =>
        intro hn hr
        rw [List.map_cons, List.nodup_cons] at hn
        by_cases hx : key x = key r
        · have hxr : x = r := by
            rcases List.mem_cons.mp hr with e | hr
            · exact e.symm
            · exact absurd (hx ▸ List.mem_map_of_mem hr) hn.1
          have hnone : xs.filter (fun y => key y ≠ key r) = xs := by
            refine List.filter_eq_self.mpr fun y hy => ?_
            simp only [ne_eq, decide_not, Bool.not_eq_eq_eq_not, Bool.not_true,
              decide_eq_false_iff_not]
            intro e
            exact hn.1 (hx ▸ e ▸ List.mem_map_of_mem hy)
          rw [List.filter_cons_of_neg (by simp [hx]), hnone, hxr, List.countP_cons]
        · have hr' : r ∈ xs := by
            rcases List.mem_cons.mp hr with e | hr
            · exact absurd (e ▸ rfl) hx
            · exact hr
          rw [List.filter_cons_of_pos (by simp [hx]), List.countP_cons, List.countP_cons,
            ← ih hn.2 hr']
          omega
  exact hmem t.rows t.nodup h

end

end Table

/-! ## Dictionaries -/

/-- A Python `dict`: the table of its items. -/
abbrev Dict (κ ν : Type) := Table (Prod.fst : κ × ν → κ)

namespace Table

variable {κ ν : Type}

/-- `list(d.keys())`. -/
def keys (d : Dict κ ν) : List κ := d.rows.map Prod.fst

/-- `len(d)`. -/
def len (d : Dict κ ν) : Nat := d.rows.length

theorem nodup_keys (d : Dict κ ν) : d.keys.Nodup := d.nodup

theorem length_keys (d : Dict κ ν) : d.keys.length = d.len := List.length_map _

variable [DecidableEq κ]

/-- `d.get(k)`. -/
def get? (d : Dict κ ν) (k : κ) : Option ν := (d.find? k).map Prod.snd

/-- `d[k] = v`. -/
def set (d : Dict κ ν) (k : κ) (v : ν) : Dict κ ν := d.upsert (k, v)

/-- `d.pop(k, None)`. -/
def pop (d : Dict κ ν) (k : κ) : Dict κ ν := d.remove k

theorem get?_eq_some {d : Dict κ ν} {k : κ} {v : ν} : d.get? k = some v ↔ (k, v) ∈ d := by
  unfold get?
  constructor
  · intro h
    obtain ⟨⟨k', v'⟩, hf, hv⟩ := Option.map_eq_some_iff.mp h
    obtain ⟨hm, hk⟩ := find?_eq_some.mp hf
    cases hk; cases hv; exact hm
  · intro h
    rw [find?_eq_some.mpr ⟨h, rfl⟩]
    rfl

theorem mem_keys {d : Dict κ ν} {k : κ} : k ∈ d.keys ↔ ∃ v, d.get? k = some v := by
  simp only [keys, List.mem_map, get?_eq_some]
  constructor
  · rintro ⟨⟨k', v⟩, hm, rfl⟩
    exact ⟨v, hm⟩
  · rintro ⟨v, hm⟩
    exact ⟨(k, v), hm, rfl⟩

theorem get?_eq_none {d : Dict κ ν} {k : κ} : d.get? k = none ↔ k ∉ d.keys := by
  rw [mem_keys, Option.eq_none_iff_forall_not_mem]
  simp

@[simp] theorem get?_empty (k : κ) : (empty : Dict κ ν).get? k = none := rfl

@[simp] theorem get?_set (d : Dict κ ν) (k k' : κ) (v : ν) :
    (d.set k v).get? k' = if k = k' then some v else d.get? k' := by
  unfold get? set
  rw [find?_upsert]
  split <;> rfl

@[simp] theorem get?_pop (d : Dict κ ν) (k k' : κ) :
    (d.pop k).get? k' = if k = k' then none else d.get? k' := by
  unfold get? pop
  rw [find?_remove]
  split <;> rfl

theorem keys_set (d : Dict κ ν) (k : κ) (v : ν) :
    (d.set k v).keys = if k ∈ d.keys then d.keys else d.keys ++ [k] :=
  map_key_upsertList (k, v) d.rows

theorem len_set (d : Dict κ ν) (k : κ) (v : ν) :
    (d.set k v).len = if k ∈ d.keys then d.len else d.len + 1 := by
  rw [← length_keys, keys_set]
  split
  · exact d.length_keys
  · rw [List.length_append, length_keys, List.length_singleton]

/-- A new item. -/
theorem count_set {d : Dict κ ν} {k : κ} {v : ν} (p : κ × ν → Bool) (h : d.get? k = none) :
    (d.set k v).count p = d.count p + if p (k, v) then 1 else 0 := by
  refine count_upsert_new p fun kv hkv e => get?_eq_none.mp h ?_
  have hk : kv.fst ∈ d.keys := List.mem_map_of_mem hkv
  rwa [show kv.fst = k from e] at hk

/-- An item taken out. -/
theorem count_pop {d : Dict κ ν} {k : κ} {v : ν} (p : κ × ν → Bool) (h : d.get? k = some v) :
    (d.pop k).count p + (if p (k, v) then 1 else 0) = d.count p :=
  count_remove p (get?_eq_some.mp h)

theorem len_pop_le (d : Dict κ ν) (k : κ) : (d.pop k).len ≤ d.len :=
  List.length_filter_le _ _

/-! ### Equality

`==` of two dictionaries forgets their order: equally many items, and every item of
the one is an item of the other. -/

def dictEq [DecidableEq ν] (d d' : Dict κ ν) : Bool :=
  d.len = d'.len && d.rows.all fun kv => d'.get? kv.1 = some kv.2

theorem dictEq_iff [DecidableEq ν] {d d' : Dict κ ν} :
    d.dictEq d' = true ↔ ∀ k, d.get? k = d'.get? k := by
  simp only [dictEq, Bool.and_eq_true, decide_eq_true_eq, List.all_eq_true]
  constructor
  · rintro ⟨hlen, hall⟩ k
    have hsub : d.keys ⊆ d'.keys := by
      intro k hk
      obtain ⟨v, hv⟩ := mem_keys.mp hk
      exact mem_keys.mpr ⟨v, hall (k, v) (get?_eq_some.mp hv)⟩
    have hperm : d.keys.Perm d'.keys :=
      (List.subperm_of_subset d.nodup_keys hsub).perm_of_length_le
        (by rw [length_keys, length_keys]; exact Nat.le_of_eq hlen.symm)
    cases hv : d.get? k with
    | some v => exact (hall (k, v) (get?_eq_some.mp hv)).symm
    | none => rw [eq_comm, get?_eq_none, ← hperm.mem_iff, ← get?_eq_none, hv]
  · intro h
    have hkeys : ∀ k, k ∈ d.keys ↔ k ∈ d'.keys := fun k => by rw [mem_keys, mem_keys, h]
    refine ⟨?_, fun kv hkv => (h kv.1).symm.trans (get?_eq_some.mpr hkv)⟩
    rw [← length_keys, ← length_keys]
    exact ((List.perm_ext_iff_of_nodup d.nodup_keys d'.nodup_keys).mpr hkeys).length_eq

/-- The items are an association list. -/
theorem lookup_rows (d : Dict κ ν) (k : κ) : d.rows.lookup k = d.get? k := by
  unfold get? find?
  induction d.rows with
  | nil => rfl
  | cons kv items ih =>
      rw [List.lookup_cons, List.find?_cons]
      by_cases h : kv.1 = k
      · simp [h]
      · have hbeq : (k == kv.1) = false := beq_eq_false_iff_ne.mpr (Ne.symm h)
        simpa only [hbeq, h, decide_false] using ih

/-- Two dictionaries with the same keys in the same order and the same values. -/
theorem ext_of_keys {d d' : Dict κ ν} (hkeys : d.keys = d'.keys)
    (hget : ∀ k ∈ d.keys, d.get? k = d'.get? k) : d = d' := by
  have hrows : ∀ e : Dict κ ν, e.rows.map some = e.keys.map fun k => (e.get? k).map (k, ·) := by
    intro e
    rw [keys, List.map_map]
    refine List.map_congr_left fun kv hkv => ?_
    rw [Function.comp_apply, get?_eq_some.mpr hkv]
    rfl
  have hsame : d.rows.map some = d'.rows.map some := by
    rw [hrows, hrows, ← hkeys]
    exact List.map_congr_left fun k hk => by rw [hget k hk]
  exact ext (List.map_injective_iff.mpr (fun _ _ => Option.some.inj) hsame)

/-! ### Merging -/

/-- `for k, v in items: d[k] = v`. -/
def setAll (d : Dict κ ν) (items : List (κ × ν)) : Dict κ ν :=
  items.foldl (fun d kv => d.set kv.1 kv.2) d

/-- `{**d, **e}`. -/
def update (d e : Dict κ ν) : Dict κ ν := d.setAll e.rows

theorem get?_setAll_of_not_mem {k : κ} : ∀ {items : List (κ × ν)} {d : Dict κ ν},
    k ∉ items.map Prod.fst → (d.setAll items).get? k = d.get? k
  | [], _, _ => rfl
  | kv :: items, d, h => by
      rw [List.map_cons, List.mem_cons, not_or] at h
      have hrest := get?_setAll_of_not_mem (d := d.set kv.1 kv.2) h.2
      rw [get?_set, if_neg (Ne.symm h.1)] at hrest
      exact hrest

theorem get?_setAll_of_mem {k : κ} {v : ν} : ∀ {items : List (κ × ν)} {d : Dict κ ν},
    (items.map Prod.fst).Nodup → (k, v) ∈ items → (d.setAll items).get? k = some v
  | kv :: items, d, hnodup, h => by
      rw [List.map_cons, List.nodup_cons] at hnodup
      rcases List.mem_cons.mp h with rfl | h
      · have hrest := get?_setAll_of_not_mem (d := d.set k v) hnodup.1
        rw [get?_set, if_pos rfl] at hrest
        exact hrest
      · show ((d.set kv.1 kv.2).setAll items).get? k = some v
        exact get?_setAll_of_mem hnodup.2 h

theorem get?_update (d e : Dict κ ν) (k : κ) :
    (d.update e).get? k = (e.get? k).or (d.get? k) := by
  cases h : e.get? k with
  | none => exact get?_setAll_of_not_mem (get?_eq_none.mp h)
  | some v => exact get?_setAll_of_mem e.nodup (get?_eq_some.mp h)

theorem mem_keys_set {d : Dict κ ν} {k k' : κ} {v : ν} :
    k' ∈ (d.set k v).keys ↔ k' ∈ d.keys ∨ k' = k := by
  rw [keys_set]
  split
  · rename_i h
    constructor
    · exact .inl
    · rintro (hk | rfl)
      · exact hk
      · exact h
  · rw [List.mem_append, List.mem_singleton]

theorem mem_keys_setAll {k : κ} : ∀ {items : List (κ × ν)} {d : Dict κ ν},
    k ∈ (d.setAll items).keys ↔ k ∈ d.keys ∨ k ∈ items.map Prod.fst
  | [], d => by simp [setAll]
  | item :: items, d => by
      show k ∈ ((d.set item.1 item.2).setAll items).keys ↔ _
      rw [mem_keys_setAll, mem_keys_set, List.map_cons, List.mem_cons, or_assoc]

/-- Items with new keys are appended. -/
theorem rows_setAll_of_new : ∀ {items : List (κ × ν)} {d : Dict κ ν},
    (d.keys ++ items.map Prod.fst).Nodup → (d.setAll items).rows = d.rows ++ items
  | [], d, _ => (List.append_nil d.rows).symm
  | item :: items, d, h => by
      rw [List.map_cons] at h
      have hnew : item.1 ∉ d.keys := fun hmem =>
        (List.nodup_append.mp h).2.2 _ hmem _ List.mem_cons_self rfl
      have hkeys : (d.set item.1 item.2).keys = d.keys ++ [item.1] := by
        rw [keys_set, if_neg hnew]
      have hrows : (d.set item.1 item.2).rows = d.rows ++ [item] :=
        rows_upsert_of_new fun x hx e => hnew (List.mem_map.mpr ⟨x, hx, e⟩)
      show ((d.set item.1 item.2).setAll items).rows = _
      rw [rows_setAll_of_new, hrows, List.append_assoc, List.singleton_append]
      rwa [hkeys, List.append_assoc, List.singleton_append]

/-- Items with known keys change no key. -/
theorem keys_setAll_of_subset : ∀ {items : List (κ × ν)} {d : Dict κ ν},
    items.map Prod.fst ⊆ d.keys → (d.setAll items).keys = d.keys
  | [], _, _ => rfl
  | item :: items, d, h => by
      rw [List.map_cons] at h
      have hkeys : (d.set item.1 item.2).keys = d.keys := by
        rw [keys_set, if_pos (h List.mem_cons_self)]
      show ((d.set item.1 item.2).setAll items).keys = _
      rw [keys_setAll_of_subset, hkeys]
      rw [hkeys]
      exact fun k hk => h (List.mem_cons_of_mem _ hk)

/-- A dictionary is shorter than the items that it is made of if a key is repeated. -/
theorem nodup_of_len_setAll {items : List (κ × ν)}
    (h : ((empty : Dict κ ν).setAll items).len = items.length) : (items.map Prod.fst).Nodup := by
  have hsub : ((empty : Dict κ ν).setAll items).keys ⊆ items.map Prod.fst := by
    intro k hk
    rcases mem_keys_setAll.mp hk with hempty | hmem
    · exact absurd hempty List.not_mem_nil
    · exact hmem
  have hlength : (items.map Prod.fst).length = ((empty : Dict κ ν).setAll items).keys.length := by
    rw [length_keys, h, List.length_map]
  have hperm := (List.subperm_of_subset (nodup_keys _) hsub).perm_of_length_le
    (Nat.le_of_eq hlength)
  exact hperm.nodup_iff.mp (nodup_keys _)

/-! ### One key after the other

A pass over keys whose step at `k` sets only the entry of `k`, and from that entry
alone, does the same in any order, and each key's step counts once when it is
idempotent. -/

theorem get?_foldl_pointwise {step : Dict κ ν → κ → Dict κ ν} {entry : κ → Option ν → Option ν}
    (hstep : ∀ d k k', (step d k).get? k' = if k = k' then entry k (d.get? k) else d.get? k')
    (hidem : ∀ k v, entry k (entry k v) = entry k v) (ks : List κ) (d : Dict κ ν) (k : κ) :
    (ks.foldl step d).get? k = if k ∈ ks then entry k (d.get? k) else d.get? k := by
  induction ks generalizing d with
  | nil => rw [if_neg List.not_mem_nil]; rfl
  | cons k' ks ih =>
      rw [List.foldl_cons, ih, hstep]
      by_cases hk : k' = k
      · subst hk
        rw [if_pos rfl, hidem, ite_self, if_pos List.mem_cons_self]
      · rw [if_neg hk]
        simp only [List.mem_cons, Ne.symm hk, false_or]

/-! ### Comprehensions -/

/-- `{k: f(v) for k, v in d.items()}`. -/
def mapVal {μ : Type} (d : Dict κ ν) (f : ν → μ) : Dict κ μ where
  rows := d.rows.map fun kv => (kv.1, f kv.2)
  nodup := by
    rw [List.map_map]
    exact d.nodup

/-- `{k: v for k, v in d.items() if p(v)}`. -/
def filterVal (d : Dict κ ν) (p : ν → Bool) : Dict κ ν where
  rows := d.rows.filter fun kv => p kv.2
  nodup := List.Nodup.sublist (List.Sublist.map _ List.filter_sublist) d.nodup

theorem get?_mapVal {μ : Type} (d : Dict κ ν) (f : ν → μ) (k : κ) :
    (d.mapVal f).get? k = (d.get? k).map f := by
  cases h : d.get? k with
  | some v =>
      rw [get?_eq_some] at h
      exact get?_eq_some.mpr (List.mem_map.mpr ⟨(k, v), h, rfl⟩)
  | none =>
      rw [get?_eq_none] at h
      rw [Option.map_none, get?_eq_none]
      intro hk
      obtain ⟨⟨k', w⟩, hw, hk'⟩ := List.mem_map.mp hk
      obtain ⟨⟨k₀, v⟩, hv, hkv⟩ := List.mem_map.mp hw
      cases hkv; cases hk'
      exact h (List.mem_map.mpr ⟨(k₀, v), hv, rfl⟩)

omit [DecidableEq κ] in
theorem mem_filterVal {d : Dict κ ν} {p : ν → Bool} {kv : κ × ν} :
    kv ∈ d.filterVal p ↔ kv ∈ d ∧ p kv.2 = true := List.mem_filter

theorem get?_filterVal_eq_some {d : Dict κ ν} {p : ν → Bool} {k : κ} {v : ν} :
    (d.filterVal p).get? k = some v ↔ d.get? k = some v ∧ p v = true := by
  rw [get?_eq_some, get?_eq_some, mem_filterVal]

end Table
