/-
# `CortxCsm.PayloadPop` — `Payload.pop` against `set`, and the dirty flag

`pop` is to undo `set`, and the flag is to say when the document in memory is ahead of the
one it was read from.  Both hold but for what `pop` does in three places: it looks for the
rest of the key as one literal key, it prunes an emptied section under a key that is no
key, and it overwrites the flag where it has found nothing.

**Proved here.**

    what one pop does, case by case                      (`pop_pops`)
    pop after set undoes it: keys of one segment, and keys of two whose
    section keeps an entry                               (`inverts_iff`)
    pop of a missing key is quiet: its section is there, and has no entry
    under the literal rest of the key                    (`quiet_iff`)
    the flag covers every difference, step by step       (`flagged_step`)
    and over every sequence of calls                     (`nothingLost_iff`)
-/
import CortxCsm.Payload

namespace CortxCsm

namespace Payload

/-! ## What one pop does -/

/-- The key is not where `pop` looks for it. -/
def Misses (p : Payload) (key : String) : Prop :=
  match splitOnce key, p._data with
  | (k, none), .obj data => data.lookup k = none
  | (k, some rest), .obj data =>
      ∃ entries, data.lookup k = some (.obj entries) ∧ entries.lookup rest = none
  | _, _ => False

/-- `pop` takes the last entry of a section. -/
def Empties (p : Payload) (key : String) : Prop :=
  match splitOnce key, p._data with
  | (k, some rest), .obj data =>
      ∃ entries v, data.lookup k = some (.obj entries) ∧ entries.lookup rest = some v ∧
        Json.dropEntry rest entries = []
  | _, _ => False

section
variable {p : Payload} {key k rest : String} {data entries : List (String × Json)} {v : Json}

theorem misses_one (hkey : splitOnce key = (k, none)) (hdata : p._data = .obj data) :
    p.Misses key ↔ data.lookup k = none := by
  rw [Misses, hkey, hdata]

theorem not_misses_of_not_isObject (hdata : p._data.isObject = false) : ¬ p.Misses key := by
  rw [Misses]
  split
  · rename_i hobj
    rw [hobj] at hdata
    cases hdata
  · rename_i hobj
    rw [hobj] at hdata
    cases hdata
  · exact id

theorem not_empties_of_not_isObject (hdata : p._data.isObject = false) : ¬ p.Empties key := by
  rw [Empties]
  split
  · rename_i hobj
    rw [hobj] at hdata
    cases hdata
  · exact id

theorem not_empties_one (hkey : splitOnce key = (k, none)) : ¬ p.Empties key := by
  rw [Empties, hkey]
  exact id

theorem misses_many (hkey : splitOnce key = (k, some rest)) (hdata : p._data = .obj data) :
    p.Misses key ↔
      ∃ entries, data.lookup k = some (.obj entries) ∧ entries.lookup rest = none := by
  rw [Misses, hkey, hdata]

theorem empties_many (hkey : splitOnce key = (k, some rest)) (hdata : p._data = .obj data) :
    p.Empties key ↔
      ∃ entries v, data.lookup k = some (.obj entries) ∧ entries.lookup rest = some v ∧
        Json.dropEntry rest entries = [] := by
  rw [Empties, hkey, hdata]

theorem popRoot_found (hdata : p._data = .obj data) (hk : data.lookup k = some v)
    (default : Option Json) :
    p.popRoot k default =
      ({ p with _data := .obj (Json.dropEntry k data), _dirty := true }, .ok v) := by
  rw [popRoot, hdata]
  simp only [hk]

theorem popRoot_absent (hdata : p._data = .obj data) (hk : data.lookup k = none)
    (default : Option Json) : p.popRoot k default = p.popDefault default := by
  rw [popRoot, hdata]
  simp only [hk]

theorem popSection_found (hdata : p._data = .obj data) (hk : data.lookup k = some (.obj entries))
    (hrest : entries.lookup rest = some v) (hleft : Json.dropEntry rest entries ≠ [])
    (default : Option Json) :
    p.popSection k rest default =
      ({ p with
          _data := .obj (Json.putEntry k (.obj (Json.dropEntry rest entries)) data)
          _dirty := true },
        .ok v) := by
  rw [popSection, hdata]
  simp only [hk, hrest, if_neg hleft]

theorem popSection_emptied (hdata : p._data = .obj data)
    (hk : data.lookup k = some (.obj entries)) (hrest : entries.lookup rest = some v)
    (hleft : Json.dropEntry rest entries = []) (default : Option Json) :
    p.popSection k rest default =
      ({ p with _data := .obj (Json.putEntry k (.obj []) data) }, .error .TypeError) := by
  rw [popSection, hdata]
  simp only [hk, hrest, if_pos hleft]

theorem popSection_absent (hdata : p._data = .obj data)
    (hk : data.lookup k = some (.obj entries)) (hrest : entries.lookup rest = none)
    (default : Option Json) : p.popSection k rest default = p.popDefault default := by
  rw [popSection, hdata]
  simp only [hk, hrest]

/-- A document that is no object. -/
theorem popRoot_refused (k : String) (hdata : p._data.isObject = false) (default : Option Json) :
    ∃ e, p.popRoot k default = (p, .error e) := by
  rw [popRoot]
  split
  · rename_i data hobj
    rw [hobj] at hdata
    cases hdata
  · exact ⟨_, rfl⟩

theorem popSection_noObject (k rest : String) (hdata : p._data.isObject = false) (default : Option Json) :
    ∃ e, p.popSection k rest default = (p, .error e) := by
  rw [popSection]
  split
  · rename_i data hobj
    rw [hobj] at hdata
    cases hdata
  · exact ⟨_, rfl⟩

/-- A section that is not there, or is no object. -/
theorem popSection_refused (rest : String) (hdata : p._data = .obj data)
    (hk : ∀ entries, data.lookup k ≠ some (.obj entries)) (default : Option Json) :
    ∃ e, p.popSection k rest default = (p, .error e) := by
  rw [popSection, hdata]
  simp only
  cases hlookup : data.lookup k with
  | none => exact ⟨_, rfl⟩
  | some s =>
      cases s with
      | obj entries => exact absurd hlookup (hk entries)
      | _ => exact ⟨_, rfl⟩

end

/-- What one `pop` does: it finds the key, it empties a section, it returns the default, or
it raises and leaves everything as it was. -/
inductive Pops (p : Payload) (key : String) (default : Option Json) :
    Payload × Except PyError Json → Prop
  | found {data v : Json} (differs : ¬ Json.Same data p._data) (hit : ¬ p.Misses key)
      (full : ¬ p.Empties key) :
      Pops p key default ({ p with _data := data, _dirty := true }, .ok v)
  | emptied {data : Json} (differs : ¬ Json.Same data p._data) (hit : ¬ p.Misses key)
      (empties : p.Empties key) : Pops p key default ({ p with _data := data }, .error .TypeError)
  | missed {d : Json} (hd : default = some d) (misses : p.Misses key) (full : ¬ p.Empties key) :
      Pops p key default ({ p with _dirty := false }, .ok d)
  | raised {e : PyError} (required : p.Misses key → default = none) (full : ¬ p.Empties key) :
      Pops p key default (p, .error e)

section
variable {p : Payload} {key k rest : String} (default : Option Json)

/-- Where the key is not found. -/
theorem popDefault_pops (hmiss : p.Misses key) (hempties : ¬ p.Empties key) :
    p.Pops key default (p.popDefault default) := by
  cases default with
  | some d => exact .missed rfl hmiss hempties
  | none => exact .raised (fun _ => rfl) hempties

theorem popRoot_pops (hkey : splitOnce key = (k, none)) :
    p.Pops key default (p.popRoot k default) := by
  have hempties : ¬ p.Empties key := not_empties_one hkey
  rcases p._data.isObject_cases with ⟨data, hdata⟩ | hdata
  · have hmisses := misses_one hkey hdata
    cases hk : data.lookup k with
    | some v =>
        rw [popRoot_found hdata hk default]
        refine .found ?_ ?_ hempties
        · intro hsame
          have hat := hsame [k]
          simp [hdata, hk] at hat
        · simp [hmisses, hk]
    | none =>
        rw [popRoot_absent hdata hk]
        exact popDefault_pops default (hmisses.mpr hk) hempties
  · obtain ⟨e, he⟩ := popRoot_refused k hdata default
    rw [he]
    exact .raised (fun h => absurd h (not_misses_of_not_isObject hdata)) hempties

/-- The section is there. -/
theorem popSection_pops_of_lookup {data entries : List (String × Json)}
    (hkey : splitOnce key = (k, some rest)) (hdata : p._data = .obj data)
    (hk : data.lookup k = some (.obj entries)) : p.Pops key default (p.popSection k rest default) := by
  have hmisses := misses_many hkey hdata
  have hempties := empties_many hkey hdata
  cases hrest : entries.lookup rest with
  | none =>
      rw [popSection_absent hdata hk hrest]
      refine popDefault_pops default (hmisses.mpr ⟨entries, hk, hrest⟩) ?_
      simp [hempties, hk, hrest]
  | some v =>
      have hfound : ¬ p.Misses key := by
        rw [hmisses]
        rintro ⟨entries', hk', hrest'⟩
        cases hk.symm.trans hk'
        cases hrest.symm.trans hrest'
      -- the path of the value tells the two documents apart
      have hdiffer : ∀ left : List (String × Json), left.lookup rest = none →
          ¬ Json.Same (.obj (Json.putEntry k (.obj left) data)) p._data := by
        intro left hnone hsame
        have hat := hsame [k, rest]
        simp [hdata, hk, hrest, hnone] at hat
      by_cases hleft : Json.dropEntry rest entries = []
      · rw [popSection_emptied hdata hk hrest hleft default]
        exact .emptied (hdiffer [] rfl) hfound (hempties.mpr ⟨entries, v, hk, hrest, hleft⟩)
      · rw [popSection_found hdata hk hrest hleft default]
        refine .found (hdiffer _ (Json.lookup_dropEntry_self rest entries)) hfound ?_
        simp [hempties, hk, hleft]

theorem popSection_pops (hkey : splitOnce key = (k, some rest)) :
    p.Pops key default (p.popSection k rest default) := by
  rcases p._data.isObject_cases with ⟨data, hdata⟩ | hdata
  · by_cases hobj : ∃ entries, data.lookup k = some (.obj entries)
    · obtain ⟨entries, hk⟩ := hobj
      exact popSection_pops_of_lookup default hkey hdata hk
    · have hno : ∀ entries, data.lookup k ≠ some (.obj entries) :=
        fun entries hk => hobj ⟨entries, hk⟩
      obtain ⟨e, he⟩ := popSection_refused rest hdata hno default
      rw [he]
      refine .raised ?_ ?_
      · simp [misses_many hkey hdata, hno]
      · simp [empties_many hkey hdata, hno]
  · obtain ⟨e, he⟩ := popSection_noObject k rest hdata default
    rw [he]
    exact .raised (fun h => absurd h (not_misses_of_not_isObject hdata))
      (not_empties_of_not_isObject hdata)

theorem pop_pops (p : Payload) (key : String) : p.Pops key default (p.pop key default) := by
  rw [pop]
  rcases hkey : splitOnce key with ⟨k, _ | rest⟩
  · exact popRoot_pops default hkey
  · exact popSection_pops default hkey

end

/-! ## Popping what was set -/

/-- What undoing a `set` means: the value comes back, the key is gone, the other keys have
what they had, and no section on the way is left empty. -/
structure Inverts (p : Payload) (key : String) (val default : Json) : Prop where
  returns : ((p.set key val).1.pop key (some default)).2 = .ok val
  gone : ((p.set key val).1.pop key (some default)).1.get key = .ok .null
  others : ∀ key', Json.Unrelated (segments key) (segments key') →
    ((p.set key val).1.pop key (some default)).1.get key' = (p.set key val).1.get key'
  pruned : ∀ before, before ≠ [] → before <+: segments key → before ≠ segments key →
    Json.at? before ((p.set key val).1.pop key (some default)).1._data ≠ some (.obj [])

/-- The keys `pop` takes back: those of one segment; those of two whose section keeps an
entry.  A longer key is looked for under another name, so that it only seems to be taken
back where `None` was set and `None` is found. -/
def Invertible (data : List (String × Json)) (key : String) (val default : Json) : Prop :=
  match segments key with
  | [] | [_] => True
  | [k, k'] => ∃ kv ∈ Json.sectionAt k data, kv.1 ≠ k'
  | k :: rest =>
      val = .null ∧
        ((Json.sectionAt k data).lookup (Text.join '.' rest)).getD default = .null

theorem splitOnce_one {key k : String} (hseg : segments key = [k]) : splitOnce key = (k, none) := by
  rw [splitOnce, hseg]

theorem splitOnce_many {key k : String} {rest : List String} (hseg : segments key = k :: rest)
    (hrest : rest ≠ []) : splitOnce key = (k, some (Text.join '.' rest)) := by
  cases rest with
  | nil => exact absurd rfl hrest
  | cons next rest => rw [splitOnce, hseg]

/-- Reading looks at the first key only where it is there. -/
theorem _get_congr {data data' : List (String × Json)} {k : String} (rest : List String)
    (h : data.lookup k = data'.lookup k) :
    _get (k :: rest) (.obj data) = _get (k :: rest) (.obj data') := by
  rw [_get, _get, h]

theorem _get_of_lookup {data : List (String × Json)} {k : String} {v : Json} (rest : List String)
    (h : data.lookup k = some v) : _get (k :: rest) (.obj data) = _get rest v := by
  rw [_get, h]

/-- No segment of a key is a text of two segments. -/
theorem join_not_mem_segments (key k k' : String) (rest : List String) :
    Text.join '.' (k :: k' :: rest) ∉ segments key :=
  fun h => Text.not_mem_of_mem_split h (Text.sep_mem_join '.' k k' rest)

section
variable {key k : String} {dirty : Bool} {doc : Doc} {data : List (String × Json)}
  {val default : Json}

theorem inverts_one (hseg : segments key = [k]) :
    Inverts ⟨dirty, doc, .obj data⟩ key val default := by
  have hset : (Payload.set ⟨dirty, doc, .obj data⟩ key val).1 =
      ⟨true, doc, .obj (Json.putEntry k val data)⟩ := by
    rw [set_obj rfl, hseg]
    rfl
  have hpop : (Payload.set ⟨dirty, doc, .obj data⟩ key val).1.pop key (some default) =
      (⟨true, doc, .obj (Json.dropEntry k (Json.putEntry k val data))⟩, .ok val) := by
    rw [hset, pop, splitOnce_one hseg]
    refine popRoot_found rfl ?_ _
    exact Json.lookup_putEntry_self k val data
  constructor
  · rw [hpop]
  · rw [hpop]
    show _get (segments key) _ = _
    rw [hseg, _get, Json.lookup_dropEntry_self]
  · intro key' h
    rw [hpop, hset]
    rw [hseg] at h
    show _get (segments key') _ = _get (segments key') _
    cases hseg' : segments key' with
    | nil => exact absurd hseg' (segments_ne_nil key')
    | cons k' rest =>
        have hk : k ≠ k' := by
          rintro rfl
          exact h.1 (hseg' ▸ List.cons_prefix_cons.mpr ⟨rfl, List.nil_prefix⟩)
        refine _get_congr rest ?_
        exact Json.lookup_dropEntry_ne hk _
  · intro before hne hp hne'
    rw [hseg] at hp hne'
    rcases List.prefix_cons_iff.mp hp with rfl | ⟨t, rfl, ht⟩
    · exact absurd rfl hne
    · exact absurd (by rw [List.prefix_nil.mp ht]) hne'

/-- After an entry of the section `k` has been dropped, the keys that do not lead to it
read what they did. -/
theorem others_section {rest : List String} {entries left : List (String × Json)}
    {key' : String} (dropped : String) (hk : data.lookup k = some (.obj entries))
    (hleft : ∀ x, x ≠ dropped → left.lookup x = entries.lookup x)
    (h : Json.Unrelated (k :: rest) (segments key'))
    (hx : ∀ x rest', segments key' = k :: x :: rest' → x ≠ dropped) :
    _get (segments key') (.obj (Json.putEntry k (.obj left) data)) =
      _get (segments key') (.obj data) := by
  cases hseg : segments key' with
  | nil => exact absurd hseg (segments_ne_nil key')
  | cons k' rest' =>
      by_cases hkk : k = k'
      · subst hkk
        cases rest' with
        | nil => exact absurd (hseg ▸ List.cons_prefix_cons.mpr ⟨rfl, List.nil_prefix⟩) h.2
        | cons x rest' =>
            rw [_get_of_lookup (v := .obj left) _ (Json.lookup_putEntry_self k _ data),
              _get_of_lookup _ hk]
            exact _get_congr rest' (hleft x (hx x rest' hseg))
      · refine _get_congr rest' ?_
        exact Json.lookup_putEntry_ne hkk _ data

/-- The section `set` leaves under the first key. -/
theorem lookup_set_section {rest : List String} (hrest : rest ≠ []) (val : Json)
    (data : List (String × Json)) :
    (_set val (k :: rest) data).lookup k = some (.obj (_set val rest (Json.sectionAt k data))) := by
  rw [lookup_set, if_pos rfl, if_neg hrest]

theorem pop_set {rest : List String} (hseg : segments key = k :: rest) (hrest : rest ≠ [])
    (dirty : Bool) (doc : Doc) (data : List (String × Json)) (val default : Json) :
    (Payload.set ⟨dirty, doc, .obj data⟩ key val).1.pop key (some default) =
      popSection ⟨true, doc, .obj (_set val (k :: rest) data)⟩ k (Text.join '.' rest)
        (some default) := by
  rw [set_obj rfl, pop, splitOnce_many hseg hrest, hseg]

theorem inverts_two {k' : String} (hseg : segments key = [k, k']) :
    Inverts ⟨dirty, doc, .obj data⟩ key val default ↔
      ∃ kv ∈ Json.sectionAt k data, kv.1 ≠ k' := by
  have hrest : [k'] ≠ [] := List.cons_ne_nil k' []
  have hpop := pop_set hseg hrest dirty doc data val default
  rw [Text.join_singleton] at hpop
  have hk := lookup_set_section (k := k) hrest val data
  have hval : (_set val [k'] (Json.sectionAt k data)).lookup k' = some val := by
    rw [lookup_set, if_pos rfl, if_pos rfl]
  have hdrop : Json.dropEntry k' (_set val [k'] (Json.sectionAt k data)) =
      Json.dropEntry k' (Json.sectionAt k data) := Json.dropEntry_putEntry k' val _
  have hkeeps : (∃ kv ∈ Json.sectionAt k data, kv.1 ≠ k') ↔
      Json.dropEntry k' (Json.sectionAt k data) ≠ [] := by
    rw [Ne, Json.dropEntry_eq_nil]
    simp only [not_forall, exists_prop]
  rw [hkeeps, ← hdrop]
  by_cases hleft : Json.dropEntry k' (_set val [k'] (Json.sectionAt k data)) = []
  · rw [popSection_emptied rfl hk hval hleft] at hpop
    refine iff_of_false (fun h => ?_) (fun h => h hleft)
    have hreturn := h.returns
    rw [hpop] at hreturn
    cases hreturn
  · rw [popSection_found rfl hk hval hleft] at hpop
    refine iff_of_true ?_ hleft
    have hsection : ∀ v, (Json.putEntry k v (_set val [k, k'] data)).lookup k = some v := by
      intro v
      exact Json.lookup_putEntry_self k v _
    constructor
    · rw [hpop]
    · rw [hpop]
      show _get (segments key) _ = _
      rw [hseg, _get_of_lookup _ (hsection _), _get, Json.lookup_dropEntry_self]
    · intro key' h
      rw [hpop, set_obj rfl, hseg]
      rw [hseg] at h
      refine others_section k' hk (fun x hx => ?_) h ?_
      · exact Json.lookup_dropEntry_ne (Ne.symm hx) _
      · rintro x rest' hseg' rfl
        exact h.1 (hseg' ▸ List.cons_prefix_cons.mpr
          ⟨rfl, List.cons_prefix_cons.mpr ⟨rfl, List.nil_prefix⟩⟩)
    · intro before hne hp hne'
      rw [hseg] at hp hne'
      rw [hpop]
      rcases List.prefix_cons_iff.mp hp with rfl | ⟨t, rfl, ht⟩
      · exact absurd rfl hne
      · rcases List.prefix_cons_iff.mp ht with rfl | ⟨t', rfl, ht'⟩
        · rw [Json.at?_obj, hsection]
          intro hempty
          exact hleft (Json.obj.inj (Option.some.inj hempty))
        · obtain rfl := List.prefix_nil.mp ht'
          exact absurd rfl hne'

/-- Where the key has its value after the pop, the rest of the property is about values. -/
theorem inverts_of_still {d : Bool} {left : List (String × Json)} {found : Json}
    (hpop : (Payload.set ⟨dirty, doc, .obj data⟩ key val).1.pop key (some default) =
      (⟨d, doc, .obj left⟩, .ok found))
    (hat : Json.at? (segments key) (.obj left) = some val)
    (hothers : ∀ key', Json.Unrelated (segments key) (segments key') →
      _get (segments key') (.obj left) =
        _get (segments key') (.obj (_set val (segments key) data))) :
    Inverts ⟨dirty, doc, .obj data⟩ key val default ↔ val = .null ∧ found = .null := by
  have hget : _get (segments key) (.obj left) = .ok val := by
    rw [_get_of_walks (Json.walks_of_at? hat), hat]
    rfl
  constructor
  · intro h
    have hreturn := h.returns
    have hgone := h.gone
    rw [hpop] at hreturn hgone
    have hnull : val = .null := Except.ok.inj (hget.symm.trans hgone)
    exact ⟨hnull, (Except.ok.inj hreturn).trans hnull⟩
  · rintro ⟨hnull, hfound⟩
    constructor
    · rw [hpop, hfound, hnull]
    · rw [hpop]
      exact hget.trans (by rw [hnull])
    · intro key' h
      rw [hpop, set_obj rfl]
      exact hothers key' h
    · intro before _ hp hne
      rw [hpop]
      exact Json.at?_prefix_ne_empty hat hp hne

theorem inverts_deep {k₁ k₂ rest : String} {more : List String}
    (hseg : segments key = k :: k₁ :: k₂ :: more)
    (hrest : Text.join '.' (k₁ :: k₂ :: more) = rest) :
    Inverts ⟨dirty, doc, .obj data⟩ key val default ↔
      val = .null ∧ ((Json.sectionAt k data).lookup rest).getD default = .null := by
  have hne : k₁ :: k₂ :: more ≠ [] := List.cons_ne_nil k₁ (k₂ :: more)
  have hdot : ∀ key', rest ∉ segments key' :=
    fun key' => hrest ▸ join_not_mem_segments key' k₁ k₂ more
  have hk₁ : k₁ ≠ rest := by
    rintro rfl
    exact hdot key (by simp [hseg])
  have hset : Json.at? (segments key) (.obj (_set val (segments key) data)) = some val :=
    at?_set_self val (segments_ne_nil key) data
  have hpop := pop_set hseg hne dirty doc data val default
  have hk := lookup_set_section (k := k) hne val data
  rw [hrest] at hpop
  rw [← hseg] at hpop hk
  obtain ⟨entries, hentries⟩ : ∃ e, _set val (k₁ :: k₂ :: more) (Json.sectionAt k data) = e :=
    ⟨_, rfl⟩
  have hsame : entries.lookup rest = (Json.sectionAt k data).lookup rest := by
    rw [← hentries, lookup_set, if_neg hk₁]
  rw [hentries] at hk
  rw [← hsame]
  cases hlit : entries.lookup rest with
  | none =>
      rw [popSection_absent rfl hk hlit] at hpop
      exact inverts_of_still hpop hset fun key' _ => rfl
  | some found =>
      have hlookup : ∀ x, x ≠ rest → (Json.dropEntry rest entries).lookup x = entries.lookup x := by
        intro x hx
        exact Json.lookup_dropEntry_ne (Ne.symm hx) _
      have hleft : Json.dropEntry rest entries ≠ [] := by
        intro hnil
        have hnone := hlookup k₁ hk₁
        rw [hnil, ← hentries, lookup_set, if_pos rfl] at hnone
        cases hnone
      rw [popSection_found rfl hk hlit hleft] at hpop
      refine inverts_of_still hpop ?_ fun key' h => ?_
      · -- the way to the value does not lead through the entry that was dropped
        have hval : Json.at? (k₁ :: k₂ :: more) (.obj entries) = some val :=
          hentries ▸ at?_set_self val hne _
        generalize _set val (segments key) data = whole
        rw [hseg, Json.at?_obj, Json.lookup_putEntry_self]
        show ((Json.dropEntry rest entries).lookup k₁).bind _ = some val
        rw [hlookup k₁ hk₁]
        exact hval
      · refine others_section rest hk hlookup (hseg ▸ h) ?_
        rintro x rest' hseg' rfl
        exact hdot key' (by simp [hseg'])

/-- `pop` undoes a `set` exactly for the keys it takes back. -/
theorem inverts_iff : Inverts ⟨dirty, doc, .obj data⟩ key val default ↔
    Invertible data key val default := by
  rw [Invertible]
  cases hseg : segments key with
  | nil => exact absurd hseg (segments_ne_nil key)
  | cons k rest =>
      rcases rest with _ | ⟨k₁, _ | ⟨k₂, rest⟩⟩
      · exact iff_of_true (inverts_one hseg) trivial
      · exact inverts_two hseg
      · exact inverts_deep hseg rfl

end

/-! ## Popping a missing key -/

/-- What `pop` of a missing key is to do: return the default and leave the document. -/
def Quiet (p : Payload) (key : String) (default : Json) : Prop :=
  (p.pop key (some default)).2 = .ok default ∧ (p.pop key (some default)).1._data = p._data

/-- `pop` is quiet exactly where it looks in vain: in the root, or in a section that is
there. -/
theorem quiet_iff {p : Payload} {key : String} {default : Json} :
    p.Quiet key default ↔ p.Misses key := by
  rw [Quiet]
  have hpops := pop_pops (some default) p key
  generalize p.pop key (some default) = out at hpops ⊢
  cases hpops with
  | found differs hit _ =>
      refine iff_of_false ?_ hit
      rintro ⟨-, hdata⟩
      exact differs (hdata ▸ Json.Same.refl _)
  | emptied _ hit _ => exact iff_of_false (fun h => nomatch h.1) hit
  | missed hd misses _ =>
      cases hd
      exact iff_of_true ⟨rfl, rfl⟩ misses
  | raised required _ =>
      refine iff_of_false (fun h => nomatch h.1) fun h => ?_
      exact Option.some_ne_none default (required h)

/-- `pop` against `set`, for every document, key, value and default. -/
theorem pop_inverts_set_iff (dirty : Bool) (doc : Doc) (data : List (String × Json))
    (key : String) (val default : Json) :
    (Inverts ⟨dirty, doc, .obj data⟩ key val default ↔ Invertible data key val default) ∧
      (Quiet ⟨dirty, doc, .obj data⟩ key default ↔ Misses ⟨dirty, doc, .obj data⟩ key) :=
  ⟨inverts_iff, quiet_iff⟩

/-- The only entry of a section, and a key whose section is missing. -/
theorem pop_of_set_raises :
    ¬ Inverts (.read (.obj [])) "stats.size" (.int 1) .null ∧
      Json.at? (segments "stats.size") (.obj []) = none ∧
      ¬ Quiet (.read (.obj [])) "stats.size" .null := by
  have hseg : segments "stats.size" = ["stats", "size"] := rfl
  have hkey : splitOnce "stats.size" = ("stats", some "size") := rfl
  refine ⟨fun h => ?_, rfl, fun h => ?_⟩
  · have hkeeps := inverts_iff.mp h
    rw [Invertible, hseg] at hkeeps
    simp [Json.sectionAt] at hkeeps
  · have hmisses := quiet_iff.mp h
    rw [misses_many hkey rfl] at hmisses
    simp at hmisses

/-! ## The dirty flag -/

/-- The calls on a payload. -/
inductive PayloadOp
  | set (key : String) (val : Json)
  | pop (key : String) (default : Option Json)
  | dump
  | load

/-- The payload after a call, whether it returns or raises. -/
def step (p : Payload) : PayloadOp → Payload
  | .set key val => (p.set key val).1
  | .pop key default => (p.pop key default).1
  | .dump => p.dump
  | .load => p.load.1

/-- The steps of a run, each with the payload it finds. -/
def steps : Payload → List PayloadOp → List (Payload × PayloadOp)
  | _, [] => []
  | p, op :: ops => (p, op) :: steps (p.step op) ops

/-- The flag is set where the data differ from the document. -/
def Flagged (p : Payload) : Prop := ¬ Json.Same p._data p.document → p._dirty = true

/-- What keeps the flag: a default is returned only where the data are those of the
document, and a section is emptied only where the flag is set (or the document is the
dictionary itself). -/
def Keeps (p : Payload) : PayloadOp → Prop
  | .pop key default =>
      (p.Misses key → default ≠ none → Json.Same p._data p.document) ∧
        (p.Empties key → p._dirty = true ∨ p._doc = .Dict)
  | _ => True

theorem set_dirty (p : Payload) (key : String) (val : Json) :
    (p.set key val).1 = p ∨ (p.set key val).1._dirty = true := by
  rw [set]
  split
  · exact .inr rfl
  · exact .inl rfl
  · exact .inl rfl

theorem same_dump (p : Payload) : Json.Same p.dump._data p.dump.document := by
  rcases p with ⟨dirty, _ | _, data⟩
  · exact Json.Same.refl data
  · exact Json.Same.refl data

/-- `load` raises, or leaves the data equal to the document. -/
theorem load_cases (p : Payload) :
    (p._dirty = true ∧ p.load = (p, .error .notSynced)) ∨
      (p._dirty = false ∧ Json.Same p.load.1._data p.load.1.document) := by
  rw [load]
  by_cases hdirty : p._dirty = true
  · exact .inl ⟨hdirty, if_pos hdirty⟩
  · rw [if_neg hdirty]
    refine .inr ⟨Bool.eq_false_iff.mpr hdirty, ?_⟩
    rcases p with ⟨dirty, _ | _, data⟩
    · exact Json.Same.refl _
    · exact Json.Same.refl data

/-- Emptying a section makes the data differ from the document. -/
theorem flagged_emptied {p : Payload} (hp : p.Flagged) {data : Json}
    (hdiffer : ¬ Json.Same data p._data) :
    Flagged { p with _data := data } ↔ p._dirty = true ∨ p._doc = .Dict := by
  rcases p with ⟨dirty, content | _, data'⟩
  · simp only [reduceCtorEq, or_false]
    constructor
    · intro h
      by_contra hdirty
      have hsame : Json.Same data' content := by
        by_contra hno
        exact hdirty (hp hno)
      exact hdirty (h fun hsame' => hdiffer (hsame'.trans hsame.symm))
    · exact fun hdirty _ => hdirty
  · exact iff_of_true (fun h => absurd (Json.Same.refl data) h) (.inr rfl)

/-- One call keeps the flag exactly under that condition. -/
theorem flagged_step {p : Payload} (hp : p.Flagged) (op : PayloadOp) :
    (p.step op).Flagged ↔ p.Keeps op := by
  cases op with
  | set key val =>
      refine iff_of_true ?_ trivial
      rcases p.set_dirty key val with hsame | hdirty
      · rw [step, hsame]
        exact hp
      · exact fun _ => hdirty
  | pop key default =>
      rw [step, Keeps]
      have hpops := pop_pops default p key
      generalize p.pop key default = out at hpops ⊢
      cases hpops with
      | found _ hit full =>
          exact iff_of_true (fun _ => rfl) ⟨fun h => absurd h hit, fun h => absurd h full⟩
      | emptied differs hit empties =>
          refine (flagged_emptied hp differs).trans ⟨fun h => ?_, fun h => h.2 empties⟩
          exact ⟨fun hm => absurd hm hit, fun _ => h⟩
      | missed hd misses full =>
          constructor
          · intro h
            refine ⟨fun _ _ => ?_, fun he => absurd he full⟩
            by_contra hno
            cases h hno
          · exact fun h hno => absurd (h.1 misses (hd ▸ Option.some_ne_none _)) hno
      | raised required full =>
          exact iff_of_true hp ⟨fun hm hd => absurd (required hm) hd, fun he => absurd he full⟩
  | dump => exact iff_of_true (fun h => absurd p.same_dump h) trivial
  | load =>
      refine iff_of_true ?_ trivial
      rcases p.load_cases with ⟨-, hload⟩ | ⟨-, hsame⟩
      · rw [step, hload]
        exact hp
      · exact fun h => absurd hsame h

/-- Nothing that is not in the document is lost: the flag covers every difference after
each call, and a `load` that succeeds has found none. -/
structure NothingLost (p : Payload) (ops : List PayloadOp) : Prop where
  flagged : ∀ s ∈ steps p ops, (s.1.step s.2).Flagged
  loads : ∀ q content, (q, .load) ∈ steps p ops → q.load.2 = .ok content →
    Json.Same q._data q.document

theorem flagged_steps {p : Payload} (hp : p.Flagged) (ops : List PayloadOp) :
    (∀ s ∈ steps p ops, (s.1.step s.2).Flagged) ↔ ∀ s ∈ steps p ops, s.1.Keeps s.2 := by
  induction ops generalizing p with
  | nil => simp [steps]
  | cons op ops ih =>
      rw [steps, List.forall_mem_cons, List.forall_mem_cons]
      have hstep := flagged_step hp op
      constructor
      · rintro ⟨hfirst, hrest⟩
        exact ⟨hstep.mp hfirst, (ih hfirst).mp hrest⟩
      · rintro ⟨hfirst, hrest⟩
        have hflag := hstep.mpr hfirst
        exact ⟨hflag, (ih hflag).mpr hrest⟩

/-- Every payload a run comes to is flagged when its steps keep the flag. -/
theorem flagged_before {p : Payload} (hp : p.Flagged) {ops : List PayloadOp}
    (h : ∀ s ∈ steps p ops, (s.1.step s.2).Flagged) : ∀ s ∈ steps p ops, s.1.Flagged := by
  induction ops generalizing p with
  | nil => exact fun s hs => absurd hs List.not_mem_nil
  | cons op ops ih =>
      rw [steps, List.forall_mem_cons] at h
      intro s hs
      rcases List.mem_cons.mp hs with rfl | hs
      · exact hp
      · exact ih h.1 h.2 s hs

theorem nothingLost_of_flagged {p : Payload} (hp : p.Flagged) (ops : List PayloadOp) :
    NothingLost p ops ↔ ∀ s ∈ steps p ops, s.1.Keeps s.2 := by
  rw [← flagged_steps hp ops]
  refine ⟨fun h => h.flagged, fun h => ⟨h, fun q content hq hload => ?_⟩⟩
  by_contra hno
  have hdirty : q._dirty = true := flagged_before hp h _ hq hno
  rw [load, if_pos hdirty] at hload
  cases hload

/-- Every run of a payload, read from a text or holding a dictionary. -/
theorem nothingLost_iff (ops : List PayloadOp) :
    (∀ content, NothingLost (read content) ops ↔
      ∀ s ∈ steps (read content) ops, s.1.Keeps s.2) ∧
    ∀ data, NothingLost (ofDict data) ops ↔ ∀ s ∈ steps (ofDict data) ops, s.1.Keeps s.2 :=
  ⟨fun content => nothingLost_of_flagged (fun h => absurd (Json.Same.refl content) h) ops,
    fun data => nothingLost_of_flagged (fun h => absurd (Json.Same.refl data) h) ops⟩

/-- `set("a", 1)`, `pop("b", None)`, `load()`: the value is lost. -/
theorem set_lost :
    ¬ NothingLost (read (.obj [])) [.set "a" (.int 1), .pop "b" (some .null), .load] := by
  intro h
  have hsame : Json.Same (.obj [("a", .int 1)]) (.obj []) :=
    h.loads ⟨false, .written (.obj []), .obj [("a", .int 1)]⟩ (.obj [])
      (List.mem_cons_of_mem _ (List.mem_cons_of_mem _ List.mem_cons_self)) rfl
  have hat := hsame ["a"]
  simp at hat

end Payload

end CortxCsm
