/-
# `CortxCsm.Lib.Document` — JSON documents addressed by paths

A path is the list of the keys on the way down from the root.  `at?` reads the value at
a path; the path is missing where a key is, and where the way leads through a value that
is not an object.  What a write does is said by what `at?` reads after it, and two
documents that agree at every path are the same document, in whatever order their
objects list their entries (`Same`).

`Walks path d` is the one side condition of a reader that does not look at what it has
come to before it goes on: every value on the way, as far as the way is there, is an
object (`walks_iff`).
-/
import CortxCsm.Lib.Schema

namespace Json

/-! ## Entries of an object -/

/-- `d[k] = v`. -/
def putEntry (k : String) (v : Json) (entries : List (String × Json)) : List (String × Json) :=
  Table.upsertList Prod.fst (k, v) entries

/-- `d.pop(k, None)`. -/
def dropEntry (k : String) (entries : List (String × Json)) : List (String × Json) :=
  entries.filter fun kv => kv.1 ≠ k

theorem lookup_cons (kv : String × Json) (k' : String) (entries : List (String × Json)) :
    (kv :: entries).lookup k' = if kv.1 = k' then some kv.2 else entries.lookup k' := by
  rw [List.lookup_cons]
  by_cases h : kv.1 = k'
  · rw [if_pos h, h, beq_self_eq_true]
  · rw [if_neg h, beq_eq_false_iff_ne.mpr (Ne.symm h)]

theorem lookup_putEntry (k k' : String) (v : Json) : ∀ entries : List (String × Json),
    (putEntry k v entries).lookup k' = if k = k' then some v else entries.lookup k' := by
  intro entries
  unfold putEntry
  induction entries with
  | nil => exact lookup_cons (k, v) k' []
  | cons kv entries ih =>
      by_cases hkv : kv.1 = k
      · rw [Table.upsertList, if_pos hkv, lookup_cons, lookup_cons, hkv]
        by_cases h : k = k'
        · simp only [if_pos h]
        · simp only [if_neg h]
      · rw [Table.upsertList, if_neg hkv, lookup_cons, lookup_cons, ih]
        by_cases h : k = k'
        · simp only [if_pos h, if_neg fun e : kv.1 = k' => hkv (e.trans h.symm)]
        · simp only [if_neg h]

theorem lookup_dropEntry (k k' : String) : ∀ entries : List (String × Json),
    (dropEntry k entries).lookup k' = if k = k' then none else entries.lookup k' := by
  intro entries
  unfold dropEntry
  induction entries with
  | nil => simp
  | cons kv entries ih =>
      by_cases hkv : kv.1 = k
      · rw [List.filter_cons_of_neg (by simp [hkv]), ih, lookup_cons, hkv]
        by_cases h : k = k'
        · simp only [if_pos h]
        · simp only [if_neg h]
      · rw [List.filter_cons_of_pos (by simp [hkv]), lookup_cons, lookup_cons, ih]
        by_cases h : k = k'
        · simp only [if_pos h, if_neg fun e : kv.1 = k' => hkv (e.trans h.symm)]
        · simp only [if_neg h]

@[simp] theorem lookup_putEntry_self (k : String) (v : Json) (entries : List (String × Json)) :
    (putEntry k v entries).lookup k = some v := by
  rw [lookup_putEntry, if_pos rfl]

@[simp] theorem lookup_dropEntry_self (k : String) (entries : List (String × Json)) :
    (dropEntry k entries).lookup k = none := by
  rw [lookup_dropEntry, if_pos rfl]

theorem lookup_putEntry_ne {k k' : String} (h : k ≠ k') (v : Json)
    (entries : List (String × Json)) : (putEntry k v entries).lookup k' = entries.lookup k' := by
  rw [lookup_putEntry, if_neg h]

theorem lookup_dropEntry_ne {k k' : String} (h : k ≠ k') (entries : List (String × Json)) :
    (dropEntry k entries).lookup k' = entries.lookup k' := by
  rw [lookup_dropEntry, if_neg h]

/-- Dropping what has been put. -/
theorem dropEntry_putEntry (k : String) (v : Json) : ∀ entries : List (String × Json),
    dropEntry k (putEntry k v entries) = dropEntry k entries := by
  intro entries
  unfold dropEntry putEntry
  induction entries with
  | nil => simp [Table.upsertList]
  | cons kv entries ih =>
      by_cases hkv : kv.1 = k
      · simp [Table.upsertList, hkv]
      · rw [Table.upsertList, if_neg hkv, List.filter_cons_of_pos (by simp [hkv]),
          List.filter_cons_of_pos (by simp [hkv]), ih]

/-- An object without entries is what is left when every key is another. -/
theorem dropEntry_eq_nil {k : String} {entries : List (String × Json)} :
    dropEntry k entries = [] ↔ ∀ kv ∈ entries, kv.1 = k := by
  simp [dropEntry, List.filter_eq_nil_iff]

/-- Whether the value is an object. -/
def isObject : Json → Bool
  | .obj _ => true
  | _ => false

theorem isObject_cases (d : Json) : (∃ entries, d = .obj entries) ∨ d.isObject = false := by
  cases d with
  | obj entries => exact .inl ⟨entries, rfl⟩
  | _ => exact .inr rfl

/-! ## Reading at a path -/

/-- The value at a path. -/
def at? : List String → Json → Option Json
  | [], d => some d
  | k :: path, .obj entries => (entries.lookup k).bind (at? path)
  | _ :: _, _ => none

@[simp] theorem at?_nil (d : Json) : at? [] d = some d := by
  cases d <;> rfl

@[simp] theorem at?_obj (k : String) (path : List String) (entries : List (String × Json)) :
    at? (k :: path) (.obj entries) = (entries.lookup k).bind (at? path) := rfl

/-- Reading at a path with a key less is reading in what is found there. -/
theorem at?_append (path path' : List String) (d : Json) :
    at? (path ++ path') d = (at? path d).bind (at? path') := by
  induction path generalizing d with
  | nil => rw [List.nil_append, at?_nil]; rfl
  | cons k path ih =>
      cases d with
      | obj entries =>
          rw [List.cons_append, at?_obj, at?_obj]
          cases entries.lookup k with
          | none => rfl
          | some v => exact ih v
      | _ => rfl

/-- The section under a key, empty where there is none. -/
def sectionAt (k : String) (entries : List (String × Json)) : List (String × Json) :=
  match entries.lookup k with
  | some (.obj inner) => inner
  | _ => []

/-- A path of two keys or more reads in the section. -/
theorem at?_sectionAt (k : String) {path : List String} (hne : path ≠ [])
    (entries : List (String × Json)) :
    at? (k :: path) (.obj entries) = at? path (.obj (sectionAt k entries)) := by
  rw [at?_obj, sectionAt]
  cases path with
  | nil => exact absurd rfl hne
  | cons k' path =>
      cases entries.lookup k with
      | none => rfl
      | some v =>
          cases v with
          | obj inner => rfl
          | _ => rfl

/-! ## Paths that do not meet -/

/-- Neither path is a prefix of the other. -/
def Unrelated (path path' : List String) : Prop := ¬ path <+: path' ∧ ¬ path' <+: path

instance (path path' : List String) : Decidable (Unrelated path path') :=
  inferInstanceAs (Decidable (_ ∧ _))

theorem Unrelated.symm {path path' : List String} (h : Unrelated path path') :
    Unrelated path' path := ⟨h.2, h.1⟩

theorem Unrelated.ne_nil {path path' : List String} (h : Unrelated path path') : path' ≠ [] := by
  rintro rfl
  exact h.2 List.nil_prefix

theorem Unrelated.of_cons {k : String} {path path' : List String}
    (h : Unrelated (k :: path) (k :: path')) : Unrelated path path' :=
  ⟨fun hp => h.1 (List.cons_prefix_cons.mpr ⟨rfl, hp⟩),
    fun hp => h.2 (List.cons_prefix_cons.mpr ⟨rfl, hp⟩)⟩

/-! ## Readers that do not look -/

/-- Every value on the way to the path, as far as the way is there, is an object. -/
def Walks : List String → Json → Prop
  | [], _ => True
  | k :: path, .obj entries =>
      match entries.lookup k with
      | none => True
      | some v => Walks path v
  | _ :: _, _ => False

instance decidableWalks : (path : List String) → (d : Json) → Decidable (Walks path d)
  | [], _ => inferInstanceAs (Decidable True)
  | k :: path, .obj entries => by
      unfold Walks
      cases entries.lookup k with
      | none => exact inferInstanceAs (Decidable True)
      | some v => exact decidableWalks path v
  | _ :: _, .null | _ :: _, .bool _ | _ :: _, .int _ | _ :: _, .float _ | _ :: _, .str _
  | _ :: _, .arr _ => inferInstanceAs (Decidable False)

/-- The way to a key leads through an object. -/
theorem Walks.isObject {path : List String} {d : Json} (h : Walks path d) (hne : path ≠ []) :
    d.isObject = true := by
  cases path with
  | nil => exact absurd rfl hne
  | cons k path =>
      cases d with
      | obj entries => rfl
      | _ => exact h.elim

theorem walks_obj {k : String} {path : List String} {entries : List (String × Json)} :
    Walks (k :: path) (.obj entries) ↔ ∀ v, entries.lookup k = some v → Walks path v := by
  rw [Walks]
  cases entries.lookup k with
  | none => exact iff_of_true trivial fun v h => by cases h
  | some v => exact ⟨fun h v' hv => by cases hv; exact h, fun h => h v rfl⟩

theorem walks_iff {path : List String} {d : Json} :
    Walks path d ↔
      ∀ before v, before <+: path → before ≠ path → at? before d = some v → v.isObject = true := by
  induction path generalizing d with
  | nil =>
      refine iff_of_true (by cases d <;> exact trivial) fun before v hp hne _ => ?_
      exact absurd (List.prefix_nil.mp hp) hne
  | cons k path ih =>
      cases d with
      | obj entries =>
          rw [walks_obj]
          constructor
          · intro h before v hp hne hat
            cases before with
            | nil => rw [at?_nil] at hat; cases hat; rfl
            | cons k' before =>
                obtain ⟨rfl, htail⟩ := List.cons_prefix_cons.mp hp
                obtain ⟨u, hu, hat⟩ := Option.bind_eq_some_iff.mp hat
                exact ih.mp (h u hu) before v htail (fun e => hne (e ▸ rfl)) hat
          · intro h u hu
            refine ih.mpr fun before v hp hne hat => ?_
            refine h (k :: before) v (List.cons_prefix_cons.mpr ⟨rfl, hp⟩) ?_ ?_
            · intro e
              exact hne (List.cons.inj e).2
            · rw [at?_obj, hu]
              exact hat
      | _ =>
          refine iff_of_false id fun h => ?_
          have := h [] _ List.nil_prefix (List.cons_ne_nil k path).symm (at?_nil _)
          cases this

/-- What is there was come to through objects. -/
theorem walks_of_at? {path : List String} {d v : Json} (h : at? path d = some v) :
    Walks path d := by
  induction path generalizing d with
  | nil => cases d <;> exact trivial
  | cons k path ih =>
      cases d with
      | obj entries =>
          obtain ⟨u, hu, h⟩ := Option.bind_eq_some_iff.mp h
          refine walks_obj.mpr fun u' hu' => ?_
          cases hu.symm.trans hu'
          exact ih h
      | _ => cases h

/-- No value on the way to a value is an empty object. -/
theorem at?_prefix_ne_empty {path before : List String} {d v : Json} (h : at? path d = some v)
    (hp : before <+: path) (hne : before ≠ path) : at? before d ≠ some (.obj []) := by
  intro hempty
  obtain ⟨after, rfl⟩ := hp
  rw [at?_append, hempty] at h
  cases after with
  | nil => exact hne (List.append_nil before).symm
  | cons k after => cases h

theorem Walks.sectionAt {k : String} {path : List String} {entries : List (String × Json)}
    (h : Walks (k :: path) (.obj entries)) :
    Walks path (.obj (sectionAt k entries)) := by
  rw [walks_iff] at h ⊢
  intro before v hp hne' hat
  cases before with
  | nil => rw [at?_nil] at hat; cases hat; rfl
  | cons k' before =>
      refine h (k :: k' :: before) v (List.cons_prefix_cons.mpr ⟨rfl, hp⟩) ?_ ?_
      · intro e
        exact hne' (List.cons.inj e).2
      · rw [at?_sectionAt k (List.cons_ne_nil k' before)]
        exact hat

/-! ## Documents that agree at every path -/

/-- What is seen at a path: a value that is not an object, or that there is one. -/
def shape : Json → Json
  | .obj _ => .obj []
  | v => v

/-- The two documents have the same value at every path, the order of entries apart. -/
def Same (d d' : Json) : Prop := ∀ path, (at? path d).map shape = (at? path d').map shape

theorem Same.refl (d : Json) : Same d d := fun _ => rfl

theorem Same.symm {d d' : Json} (h : Same d d') : Same d' d := fun path => (h path).symm

theorem Same.trans {d d' d'' : Json} (h : Same d d') (h' : Same d' d'') : Same d d'' :=
  fun path => (h path).trans (h' path)

end Json
