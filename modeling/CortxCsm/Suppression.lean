/-
# `CortxCsm.Suppression` — the keys that are kept back from a response

`RGWPlugin._supress_response_keys` takes from a response the keys that
`suppress_payload.json` lists for the operation, one after the other:
`Utility.remove_json_key` rebuilds the whole document without one key.

Removing a key is a pruning of the document (`remove_json_key_eq`), and prunings compose,
so that removing all the keys in turn is one pruning (`suppress_eq`).  From there the
result has none of them at any depth, is the document elsewhere, and depends on the keys
only as a set (`suppress_response_keys_exact`).
-/
import CortxCsm.Lib.Prune

namespace CortxCsm

namespace Utility

mutual

/-- `remove_json_key(payload, key)`. -/
def remove_json_key (key : String) : Json → Json
  | .obj entries => .obj (remove_json_key_dict key entries)
  | .arr items => .arr (remove_json_key_list key items)
  | payload => payload
termination_by structural payload => payload

/-- `{k: remove_json_key(v, key) for k, v in payload.items() if k != key}`. -/
def remove_json_key_dict (key : String) : List (String × Json) → List (String × Json)
  | [] => []
  | (k, v) :: entries =>
      if k ≠ key then (k, remove_json_key key v) :: remove_json_key_dict key entries
      else remove_json_key_dict key entries

/-- `[remove_json_key(element, key) for element in payload]`. -/
def remove_json_key_list (key : String) : List Json → List Json
  | [] => []
  | element :: payload => remove_json_key key element :: remove_json_key_list key payload

end

theorem remove_json_key_list_eq (key : String) (items : List Json) :
    remove_json_key_list key items = items.map (remove_json_key key) := by
  induction items with
  | nil => rfl
  | cons item items ih => rw [remove_json_key_list, ih, List.map_cons]

theorem remove_json_key_dict_eq (key : String) (entries : List (String × Json)) :
    remove_json_key_dict key entries =
      (entries.filter fun entry => entry.1 ≠ key).map fun entry =>
        (entry.1, remove_json_key key entry.2) := by
  induction entries with
  | nil => rfl
  | cons entry entries ih =>
      obtain ⟨k, v⟩ := entry
      rw [remove_json_key_dict, ih, List.filter_cons]
      simp only [decide_eq_true_eq]
      split <;> rfl

/-- Removing a key is a pruning. -/
theorem remove_json_key_eq (key : String) (payload : Json) :
    remove_json_key key payload = payload.prune (· ≠ key) := by
  induction payload using Json.induct with
  | leaf payload h =>
      rw [Json.prune_leaf _ h]
      cases payload with
      | arr => cases h
      | obj => cases h
      | _ => rfl
  | arr items ih =>
      rw [remove_json_key, remove_json_key_list_eq, Json.prune_arr]
      exact congrArg Json.arr (List.map_congr_left ih)
  | obj entries ih =>
      rw [remove_json_key, remove_json_key_dict_eq, Json.prune_obj]
      refine congrArg Json.obj (List.map_congr_left fun entry hentry => ?_)
      rw [ih entry (List.mem_filter.mp hentry).1]

end Utility

/-- `suppress_payload.json`. -/
def suppress_payload : Dict String (List String) :=
  Table.empty.setAll [("GET_USER", ["secret_key"])]

namespace RGWPlugin

/-- `_supress_response_keys(operation, response)`; `schema` is
`_api_suppress_payload_schema`. -/
def _supress_response_keys (schema : Dict String (List String)) (operation : String)
    (response : Json) : Json :=
  match schema.get? operation with
  | none => response
  | some keys =>
      keys.foldl (fun suppressed_response key => Utility.remove_json_key key suppressed_response)
        response

/-- The keys that are listed for an operation. -/
def suppressed (schema : Dict String (List String)) (operation : String) : List String :=
  (schema.get? operation).getD []

/-- Removing keys in turn is one pruning. -/
theorem removeAll_eq (keys : List String) (response : Json) :
    keys.foldl (fun out key => Utility.remove_json_key key out) response =
      response.prune (· ∉ keys) := by
  induction keys generalizing response with
  | nil =>
      refine (Json.prune_of_free _ fun entries _ entry _ => ?_).symm
      exact decide_eq_true List.not_mem_nil
  | cons key keys ih =>
      rw [List.foldl_cons, ih, Utility.remove_json_key_eq, Json.prune_prune]
      congr 1
      funext k
      simp [List.mem_cons, not_or]

theorem suppress_eq (schema : Dict String (List String)) (operation : String) (response : Json) :
    _supress_response_keys schema operation response =
      response.prune (· ∉ suppressed schema operation) := by
  rw [_supress_response_keys, suppressed]
  cases schema.get? operation with
  | none => exact removeAll_eq [] response
  | some keys => exact removeAll_eq keys response

/-- What there is of a value apart from what stands in it: a leaf, the length of a list, the
keys of an object that are not kept back, in order. -/
def outline (keys : List String) : Json → Json
  | .arr items => .arr (items.map fun _ => .null)
  | .obj entries => .obj ((entries.filter fun entry => entry.1 ∉ keys).map fun entry =>
      (entry.1, .null))
  | d => d

/-- What is asked of the suppression of `keys` in a response. -/
structure KeepsBack (keys : List String) (response out : Json) : Prop where
  /-- No object at any depth has one of the keys. -/
  absent : ∀ entries, Json.Within (.obj entries) out → ∀ entry ∈ entries, entry.1 ∉ keys
  /-- A path through none of the keys is there where it was there, and leads to the same
  leaf, to a list of the same length, or to an object with the same other keys. -/
  kept : ∀ path, (∀ key ∈ keys, Json.Step.key key ∉ path) →
    (Json.follow path out).map (outline keys) = (Json.follow path response).map (outline keys)
  /-- A value at such a path that has none of the keys within it is there as it was. -/
  unchanged : ∀ path, (∀ key ∈ keys, Json.Step.key key ∉ path) → ∀ v,
    Json.follow path response = some v →
      (∀ entries, Json.Within (.obj entries) v → ∀ entry ∈ entries, entry.1 ∉ keys) →
        Json.follow path out = some v

/-- Pruning changes nothing of the outline. -/
theorem outline_prune (keys : List String) (d : Json) :
    outline keys (d.prune (· ∉ keys)) = outline keys d := by
  cases d with
  | arr items => rw [Json.prune_arr, outline, outline, List.map_map]; rfl
  | obj entries =>
      rw [Json.prune_obj, outline, outline, List.filter_map, List.map_map, List.filter_filter]
      simp only [Function.comp_def, Bool.and_self]
  | _ => rfl

theorem keepsBack_prune (keys : List String) (response : Json) :
    KeepsBack keys response (response.prune (· ∉ keys)) := by
  have hfollow : ∀ path, (∀ key ∈ keys, Json.Step.key key ∉ path) →
      Json.follow path (response.prune (· ∉ keys)) =
        (Json.follow path response).map (Json.prune (· ∉ keys)) := by
    intro path hpath
    refine Json.follow_prune _ (fun k hk => ?_) response
    exact decide_eq_true fun hmem => hpath k hmem hk
  constructor
  · intro entries hwithin entry hentry
    exact of_decide_eq_true (Json.free_prune _ response entries hwithin entry hentry)
  · intro path hpath
    rw [hfollow path hpath, Option.map_map]
    exact congrArg (Option.map · _) (funext (outline_prune keys))
  · intro path hpath v hv hfree
    rw [hfollow path hpath, hv, Option.map_some]
    refine congrArg some (Json.prune_of_free _ fun entries hwithin entry hentry => ?_)
    exact decide_eq_true (hfree entries hwithin entry hentry)

/-- What is kept back, and that it is all: for any schema, operation and response the keys
that are listed are in the result nowhere, every other path is as it was, the order and the
number of times the keys are listed make no difference, and a second time changes nothing. -/
theorem suppress_response_keys_exact (schema : Dict String (List String)) (operation : String)
    (response : Json) :
    KeepsBack (suppressed schema operation) response
        (_supress_response_keys schema operation response) ∧
      (∀ schema' operation',
        (∀ key, key ∈ suppressed schema' operation' ↔ key ∈ suppressed schema operation) →
          _supress_response_keys schema' operation' response =
            _supress_response_keys schema operation response) ∧
      _supress_response_keys schema operation (_supress_response_keys schema operation response) =
        _supress_response_keys schema operation response := by
  refine ⟨?_, ?_, ?_⟩
  · rw [suppress_eq]
    exact keepsBack_prune _ response
  · intro schema' operation' hkeys
    rw [suppress_eq, suppress_eq]
    congr 1
    funext k
    simp only [hkeys k]
  · rw [suppress_eq, suppress_eq, Json.prune_prune]
    simp only [Bool.and_self]

/-- Two keys in either order, one of them listed twice. -/
theorem suppress_response_keys_reordered :
    _supress_response_keys (Table.empty.setAll [("GET_USER", ["b", "a", "b"])]) "GET_USER"
        (.obj [("c", .arr [.obj [("a", .null)]]), ("b", .null)]) =
      _supress_response_keys (Table.empty.setAll [("GET_USER", ["a", "b"])]) "GET_USER"
        (.obj [("c", .arr [.obj [("a", .null)]]), ("b", .null)]) := by
  refine (suppress_response_keys_exact _ _ _).2.1 _ _ fun key => ?_
  have hlisted : suppressed (Table.empty.setAll [("GET_USER", ["b", "a", "b"])]) "GET_USER" =
      ["b", "a", "b"] := by decide +kernel
  have hlisted' : suppressed (Table.empty.setAll [("GET_USER", ["a", "b"])]) "GET_USER" =
      ["a", "b"] := by decide +kernel
  rw [hlisted, hlisted']
  grind

/-- The secret keys of a user, whom `rgw` returns with a list of keys. -/
example : _supress_response_keys suppress_payload "GET_USER"
    (.obj [("keys", .arr [.obj [("access_key", .str "A"), ("secret_key", .str "S")]])]) =
      .obj [("keys", .arr [.obj [("access_key", .str "A")]])] := by rfl

end RGWPlugin

end CortxCsm
