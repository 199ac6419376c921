/-
# `CortxCsm.Upgrade` — `csm/conf/upgrade.py`

An upgrade merges the default configuration of the new version into the current one,
key by key.  A default may be shipped with the default it replaces, under the same
path with `pre_` before the last segment.

A `Conf` index is a dictionary from paths to values; `Conf.get` of a missing key is
`None`, and `Conf.get_keys` is any list of all keys.

| | |
| :-- | :-- |
| `D` | the default configuration |
| `C` | the current one |
| `keys` | what `get_keys` returned for `D` |

What is proved: the upgrade merges as it should, exactly when the operator has set no
empty value where the default is not empty (`upgrade_merges_exact`).
-/
import Mathlib.Data.List.ModifyLast
import Mathlib.Data.Rat.Defs
import CortxCsm.Lib.Table
import CortxCsm.Lib.Text

namespace CortxCsm

/-! ## Values -/

/-- A scalar of a configuration file; a float is a finite one, given by its value. -/
inductive ConfValue
  | str (s : String)
  | bool (b : Bool)
  | int (n : Int)
  | float (q : ℚ)
  deriving DecidableEq

/-- What `==` compares: a truth value is a number. -/
def ConfValue.compared : ConfValue → String ⊕ ℚ
  | .str s => .inl s
  | .bool b => .inr (if b then 1 else 0)
  | .int n => .inr n
  | .float q => .inr q

/-- `v == w`. -/
def ConfValue.eq (v w : ConfValue) : Prop := v.compared = w.compared

instance : DecidableRel ConfValue.eq := fun v w => decEq v.compared w.compared

/-- `bool(v)`. -/
def ConfValue.truthy (v : ConfValue) : Prop := v.compared ≠ .inl "" ∧ v.compared ≠ .inr 0

instance : DecidablePred ConfValue.truthy := fun _ => instDecidableAnd

abbrev ConfIndex := Dict String ConfValue

namespace Conf

/-- `bool` of what `Conf.get` returned. -/
def truthy (value : Option ConfValue) : Prop := ∃ v ∈ value, v.truthy

instance : DecidablePred truthy
  | none => isFalse fun h => by obtain ⟨v, hv, -⟩ := h; cases hv
  | some v => decidable_of_iff v.truthy
      ⟨fun h => ⟨v, rfl, h⟩, fun ⟨_, hw, h⟩ => Option.some.inj hw ▸ h⟩

/-- `==` of what two `Conf.get` returned. -/
def eq (value value' : Option ConfValue) : Prop :=
  value.map ConfValue.compared = value'.map ConfValue.compared

instance : DecidableRel eq :=
  fun value value' => decEq (value.map ConfValue.compared) (value'.map ConfValue.compared)

/-- `Conf.set`; a key set to `None` is missing. -/
def set (index : ConfIndex) (key : String) : Option ConfValue → ConfIndex
  | some value => index.set key value
  | none => index.pop key

end Conf

/-! ## The upgrade -/

namespace Upgrade

/-- `Upgrade._previous_key`. -/
def _previous_key (key : String) : String :=
  match Text.rsplit '>' key with
  | [path, name] => path ++ ">" ++ "pre_" ++ name
  | _ => "pre_" ++ key

/-- `Upgrade._update_current_config`. -/
def _update_current_config (key : String) (D C : ConfIndex) : ConfIndex :=
  let previous_value := D.get? (_previous_key key)
  if Conf.truthy previous_value then
    let current_value := C.get? key
    let default_value := D.get? key
    if Conf.eq previous_value current_value then Conf.set C key default_value else C
  else C

/-- The body of the loop of `Upgrade._update`. -/
def _update_key (D C : ConfIndex) (key : String) : ConfIndex :=
  let default_value := D.get? key
  if ¬ Conf.truthy default_value then C
  else
    let current_value := C.get? key
    if Conf.truthy current_value then
      if Conf.eq default_value current_value then C
      -- handle case if values of config mismatched
      else _update_current_config key D C
    else Conf.set C key default_value

/-- `Upgrade._update`. -/
def _update (keys : List String) (D C : ConfIndex) : ConfIndex :=
  keys.foldl (_update_key D) C

/-! ## What it is for -/

/-- Where the default that a new one replaces is shipped: under the same path, with
`pre_` before the last segment. -/
def previousPath (key : String) : String :=
  Text.join '>' ((Text.split '>' key).modifyLast ("pre_" ++ ·))

/-- What `Conf.get_keys` may return: every key, in any order. -/
def Lists (D : ConfIndex) (keys : List String) : Prop := ∀ key, key ∈ keys ↔ key ∈ D.keys

/-- The upgrade from `C` under the defaults `D`, where the default of `key` is `v`. -/
structure MergesKey (D C : ConfIndex) (keys : List String) (key : String) (v : ConfValue) :
    Prop where
  missing : C.get? key = none → (_update keys D C).get? key = some v
  previous : ∀ current ∈ C.get? key, ∀ previous ∈ D.get? (previousPath key),
    current.eq previous → ∃ w, (_update keys D C).get? key = some w ∧ w.eq v
  kept : ∀ current ∈ C.get? key, (∀ previous ∈ D.get? (previousPath key), ¬ current.eq previous) →
    (_update keys D C).get? key = some current

/-- The upgrade from `C` under the defaults `D` is what it should be. -/
structure Merges (D C : ConfIndex) : Prop where
  key : ∀ {keys}, Lists D keys → ∀ {key v}, D.get? key = some v → v.truthy →
    MergesKey D C keys key v
  outside : ∀ {keys}, Lists D keys → ∀ {key}, D.get? key = none →
    (_update keys D C).get? key = C.get? key
  order : ∀ {keys keys'}, Lists D keys → Lists D keys' → ∀ key,
    (_update keys D C).get? key = (_update keys' D C).get? key
  again : ∀ {keys keys'}, Lists D keys → Lists D keys' → ∀ key,
    (_update keys' D (_update keys D C)).get? key = (_update keys D C).get? key

/-- The operator has set an empty value where the default is not empty, and it is not
the default that was shipped before. -/
def SetEmpty (D C : ConfIndex) : Prop :=
  ∃ key v current, D.get? key = some v ∧ v.truthy ∧ C.get? key = some current ∧
    ¬ current.truthy ∧ ∀ previous ∈ D.get? (previousPath key), ¬ current.eq previous

/-! ## Keys and values -/

theorem _previous_key_eq (key : String) : _previous_key key = previousPath key := by
  unfold _previous_key previousPath
  rcases Text.rsplit_cases '>' key with ⟨hsplit, hrsplit⟩ | ⟨init, last, hinit, hsplit, hrsplit⟩
  · rw [hsplit, hrsplit]
    exact (Text.join_singleton '>' ("pre_" ++ key)).symm
  · rw [hsplit, hrsplit, List.modifyLast_concat, Text.join_concat '>' _ hinit]
    simp only [String.append_assoc]
    rfl

theorem ConfValue.truthy_congr {v w : ConfValue} (h : v.eq w) : v.truthy ↔ w.truthy := by
  unfold ConfValue.truthy
  rw [show v.compared = w.compared from h]

theorem truthy_some {v : ConfValue} : Conf.truthy (some v) ↔ v.truthy := by
  constructor
  · rintro ⟨w, hw, h⟩
    cases hw
    exact h
  · exact fun h => ⟨v, rfl, h⟩

theorem not_truthy_none : ¬ Conf.truthy none := by
  rintro ⟨v, hv, -⟩
  cases hv

theorem eq_some {v w : ConfValue} : Conf.eq (some v) (some w) ↔ v.eq w := Option.some_inj

/-- What the upgrade makes of the value of one key. -/
def merged (D : ConfIndex) (key : String) (current : Option ConfValue) : Option ConfValue :=
  let default_value := D.get? key
  let previous_value := D.get? (previousPath key)
  if ¬ Conf.truthy default_value then current
  else if ¬ Conf.truthy current then default_value
  else if Conf.eq default_value current then current
  else if Conf.truthy previous_value ∧ Conf.eq previous_value current then default_value
  else current

variable {D C : ConfIndex}

theorem get?_set (index : ConfIndex) (key k : String) (value : Option ConfValue) :
    (Conf.set index key value).get? k = if key = k then value else index.get? k := by
  cases value with
  | none => exact Table.get?_pop index key k
  | some v => exact Table.get?_set index key k v

/-- One step of the loop touches its own key only. -/
theorem get?_update_key (D C : ConfIndex) (key k : String) :
    (_update_key D C key).get? k = if key = k then merged D key (C.get? key) else C.get? k := by
  have hkept : C.get? k = if key = k then C.get? key else C.get? k := by
    split
    · rename_i h
      rw [h]
    · rfl
  unfold _update_key _update_current_config merged
  rw [_previous_key_eq]
  by_cases hdefault : Conf.truthy (D.get? key)
  · by_cases hcurrent : Conf.truthy (C.get? key)
    · by_cases heq : Conf.eq (D.get? key) (C.get? key)
      · simpa [hdefault, hcurrent, heq] using hkept
      · by_cases hprevious : Conf.truthy (D.get? (previousPath key))
        · by_cases hold : Conf.eq (D.get? (previousPath key)) (C.get? key)
          · simp [hdefault, hcurrent, heq, hprevious, hold, get?_set]
          · simpa [hdefault, hcurrent, heq, hprevious, hold] using hkept
        · simpa [hdefault, hcurrent, heq, hprevious] using hkept
    · simp [hdefault, hcurrent, get?_set]
  · simpa [hdefault] using hkept

theorem merged_cases (D : ConfIndex) (key : String) (current : Option ConfValue) :
    merged D key current = current ∨ merged D key current = D.get? key := by
  unfold merged
  by_cases hdefault : Conf.truthy (D.get? key)
  · by_cases hcurrent : Conf.truthy current
    · by_cases heq : Conf.eq (D.get? key) current
      · exact .inl (by simp [hdefault, hcurrent, heq])
      · by_cases hold : Conf.truthy (D.get? (previousPath key)) ∧
          Conf.eq (D.get? (previousPath key)) current
        · exact .inr (by simp [hdefault, hcurrent, heq, hold])
        · exact .inl (by simp [hdefault, hcurrent, heq, hold])
    · exact .inr (by simp [hdefault, hcurrent])
  · exact .inl (by simp [hdefault])

/-- A key once merged stays. -/
theorem merged_merged (D : ConfIndex) (key : String) (current : Option ConfValue) :
    merged D key (merged D key current) = merged D key current := by
  have hdefault : merged D key (D.get? key) = D.get? key :=
    (merged_cases D key (D.get? key)).elim id id
  rcases merged_cases D key current with h | h
  · rw [h, h]
  · rw [h, hdefault]

theorem merged_outside {key : String} (h : D.get? key = none) (current : Option ConfValue) :
    merged D key current = current := by
  unfold merged
  rw [if_pos]
  rw [h]
  exact not_truthy_none

/-- Every key becomes what `merged` says, whatever the order. -/
theorem get?_update {keys : List String} (hkeys : Lists D keys) (key : String) :
    (_update keys D C).get? key = merged D key (C.get? key) := by
  unfold _update
  rw [Table.get?_foldl_pointwise (get?_update_key D) (merged_merged D)]
  by_cases h : key ∈ keys
  · rw [if_pos h]
  · rw [if_neg h, merged_outside]
    rw [Table.get?_eq_none]
    exact fun hk => h ((hkeys key).mpr hk)

/-! ## The four outcomes of a key with a default -/

section

variable {key : String} {v : ConfValue} (hv : D.get? key = some v) (hdefault : v.truthy)

include hv hdefault

theorem merged_missing : merged D key none = some v := by
  unfold merged
  rw [hv, if_neg (not_not.mpr (truthy_some.mpr hdefault)), if_pos not_truthy_none]

theorem merged_empty {current : ConfValue} (h : ¬ current.truthy) :
    merged D key (some current) = some v := by
  unfold merged
  rw [hv, if_neg (not_not.mpr (truthy_some.mpr hdefault)), if_pos (mt truthy_some.mp h)]

theorem merged_previous {current previous : ConfValue}
    (hprevious : D.get? (previousPath key) = some previous) (h : current.eq previous) :
    ∃ w, merged D key (some current) = some w ∧ w.eq v := by
  by_cases hcurrent : current.truthy
  · unfold merged
    rw [hv, if_neg (not_not.mpr (truthy_some.mpr hdefault)),
      if_neg (not_not.mpr (truthy_some.mpr hcurrent))]
    by_cases heq : v.eq current
    · rw [if_pos (eq_some.mpr heq)]
      exact ⟨current, rfl, heq.symm⟩
    · have hold : Conf.truthy (some previous) ∧ Conf.eq (some previous) (some current) :=
        ⟨truthy_some.mpr ((ConfValue.truthy_congr h).mp hcurrent), eq_some.mpr h.symm⟩
      rw [if_neg (mt eq_some.mp heq), hprevious, if_pos hold]
      exact ⟨v, rfl, rfl⟩
  · exact ⟨v, merged_empty hv hdefault hcurrent, rfl⟩

theorem merged_kept {current : ConfValue} (hcurrent : current.truthy)
    (h : ∀ previous ∈ D.get? (previousPath key), ¬ current.eq previous) :
    merged D key (some current) = some current := by
  unfold merged
  rw [hv, if_neg (not_not.mpr (truthy_some.mpr hdefault)),
    if_neg (not_not.mpr (truthy_some.mpr hcurrent))]
  by_cases heq : v.eq current
  · rw [if_pos (eq_some.mpr heq)]
  · rw [if_neg (mt eq_some.mp heq), if_neg]
    rintro ⟨⟨previous, hprevious, -⟩, hold⟩
    rw [hprevious] at hold
    exact h previous hprevious (eq_some.mp hold).symm

end

/-- The upgrade merges as it should, exactly when the operator has set no empty value
where the default is not empty, other than the default shipped before. -/
theorem upgrade_merges_exact (D C : ConfIndex) : Merges D C ↔ ¬ SetEmpty D C := by
  constructor
  · rintro hmerges ⟨key, v, current, hv, hdefault, hcurrent, hempty, hprevious⟩
    have hlists : Lists D D.keys := fun _ => Iff.rfl
    have hkept := (hmerges.key hlists hv hdefault).kept current hcurrent hprevious
    rw [get?_update hlists, hcurrent, merged_empty hv hdefault hempty] at hkept
    cases hkept
    exact hempty hdefault
  · intro hset
    refine ⟨?_, ?_, ?_, ?_⟩
    · intro keys hkeys key v hv hdefault
      refine ⟨?_, ?_, ?_⟩
      · intro hmissing
        rw [get?_update hkeys, hmissing, merged_missing hv hdefault]
      · intro current hcurrent previous hprevious h
        rw [get?_update hkeys, hcurrent]
        exact merged_previous hv hdefault hprevious h
      · intro current hcurrent hprevious
        have htruthy : current.truthy := by
          by_contra hempty
          exact hset ⟨key, v, current, hv, hdefault, hcurrent, hempty, hprevious⟩
        rw [get?_update hkeys, hcurrent, merged_kept hv hdefault htruthy hprevious]
    · intro keys hkeys key hkey
      rw [get?_update hkeys, merged_outside hkey]
    · intro keys keys' hkeys hkeys' key
      rw [get?_update hkeys, get?_update hkeys']
    · intro keys keys' hkeys hkeys' key
      rw [get?_update hkeys', get?_update hkeys, merged_merged]

/-! ## An operator's `False` -/

def defaults : ConfIndex := Table.empty.set "DEBUG>enabled" (.str "true")

def operated : ConfIndex := Table.empty.set "DEBUG>enabled" (.bool false)

theorem operator_value_lost : ¬ ∀ D C : ConfIndex, Merges D C := by
  intro h
  refine (upgrade_merges_exact defaults operated).mp (h defaults operated) ?_
  refine ⟨"DEBUG>enabled", .str "true", .bool false, by decide, by decide, by decide, by decide, ?_⟩
  intro previous hprevious
  have hnone : defaults.get? (_previous_key "DEBUG>enabled") = none := by decide
  rw [← _previous_key_eq, hnone] at hprevious
  cases hprevious

end Upgrade

end CortxCsm
