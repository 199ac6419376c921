/-
# `CortxCsm.Health` — `csm/plugins/cortx/health.py`

HA reports the health of the cluster as a forest of resources.  The tree format hands it
on; the other lists it with an explicit stack and cuts a page from the list.

The stack holds what is still to be listed, the next at its end: what has been listed and the
preorder of the stack, read backwards, together stay the preorder of the forest
(`flatten_loop_eq`).

A page is refused when it would be empty.  Every page of a list that is not empty has an
entry, so that the pages tile the list; but the one page of an empty list is refused too,
for the default offset and limit as well (`HealthPlugin.tiles_iff`).
-/
import CortxCsm.Errors
import CortxCsm.Lib.Forest
import CortxCsm.Lib.Schema
import Mathlib.Data.List.Basic

namespace CortxCsm

/-- What `_build_resource_obj` takes of a resource. -/
structure ResourceObj where
  resource : Json
  id : Json
  status : Json
  last_updated_time : Json

/-- A resource as HA reports it; `sub_resources` may be `None`. -/
inductive HealthResource
  | mk (resource id status last_updated_time : Json)
      (sub_resources : Option (List HealthResource))

/-- What `get_system_health` returns. -/
structure SystemHealth where
  health : Option (List HealthResource)
  version : Json

inductive ResponseFormat
  | table
  | tree
  deriving DecidableEq

/-- `const.HEALTH_DEFAULT_OFFSET`. -/
def HEALTH_DEFAULT_OFFSET : Nat := 1

/-- `const.HEALTH_DEFAULT_LIMIT`. -/
def HEALTH_DEFAULT_LIMIT : Nat := 0

/-- The query of a request, loaded: the offset is at least 1. -/
structure HealthFilters where
  response_format : ResponseFormat
  offset : Nat
  limit : Nat

inductive HealthData
  | table (data : List ResourceObj) (total_records : Nat)
  | tree (data : List HealthResource)

structure HealthResponse where
  data : HealthData
  version : Json

namespace HealthResource

def sub_resources : HealthResource → Option (List HealthResource)
  | .mk _ _ _ _ sub_resources => sub_resources

mutual

/-- The resource as a tree. -/
def tree : HealthResource → Rose ResourceObj
  | .mk resource id status time sub_resources =>
      .node ⟨resource, id, status, time⟩ (subtrees sub_resources)
termination_by structural r => r

def subtrees : Option (List HealthResource) → List (Rose ResourceObj)
  | none => []
  | some resources => trees resources

def trees : List HealthResource → List (Rose ResourceObj)
  | [] => []
  | resource :: resources => tree resource :: trees resources

end

theorem trees_eq (resources : List HealthResource) : trees resources = resources.map tree := by
  induction resources with
  | nil => rfl
  | cons resource resources ih => rw [trees, ih, List.map_cons]

end HealthResource

namespace HealthPlugin

/-! ## The list -/

def _build_resource_obj : HealthResource → ResourceObj
  | .mk resource id status last_updated_time _ => ⟨resource, id, status, last_updated_time⟩

/-- `stack.append` for each of the resources, the last first. -/
def pushReversed (stack resources : List HealthResource) : List HealthResource :=
  resources.reverse.foldl (fun stack resource => stack ++ [resource]) stack

/-- What the loop does to the stack with the sub-resources of the resource it has popped. -/
def pushSubResources (stack : List HealthResource) (resource : HealthResource) :
    List HealthResource :=
  match resource.sub_resources with
  | none => stack
  | some sub_resources =>
      if 0 < sub_resources.length then pushReversed stack sub_resources else stack

theorem pushReversed_eq (stack resources : List HealthResource) :
    pushReversed stack resources = stack ++ resources.reverse := by
  rw [pushReversed]
  generalize resources.reverse = pushed
  induction pushed generalizing stack with
  | nil => exact (List.append_nil stack).symm
  | cons resource pushed ih => rw [List.foldl_cons, ih, List.append_assoc, List.singleton_append]

/-- The trees of a stack, the next to be listed first. -/
def pending (stack : List HealthResource) : List (Rose ResourceObj) :=
  (stack.map HealthResource.tree).reverse

theorem pending_append (stack : List HealthResource) (resource : HealthResource) :
    pending (stack ++ [resource]) = resource.tree :: pending stack := by
  rw [pending, List.map_append, List.reverse_append]
  rfl

theorem pending_pushReversed (stack resources : List HealthResource) :
    pending (pushReversed stack resources) = resources.map HealthResource.tree ++ pending stack := by
  rw [pushReversed_eq, pending, List.map_append, List.reverse_append, List.map_reverse,
    List.reverse_reverse]
  rfl

/-- The sub-resources are listed before the rest of the stack. -/
theorem pending_pushSubResources (stack : List HealthResource) (resource : HealthResource) :
    pending (pushSubResources stack resource) = resource.tree.children ++ pending stack := by
  obtain ⟨resource, id, status, time, sub_resources⟩ := resource
  cases sub_resources with
  | none => rfl
  | some sub_resources =>
      rw [pushSubResources, HealthResource.tree, Rose.children, HealthResource.subtrees,
        HealthResource.trees_eq]
      cases sub_resources with
      | nil => rfl
      | cons sub rest => exact pending_pushReversed stack (sub :: rest)

theorem tree_eq (resource : HealthResource) :
    resource.tree = .node (_build_resource_obj resource) resource.tree.children := by
  cases resource
  rfl

/-- The loop of `_flatten_ha_resp`. -/
def flatten_loop (stack : List HealthResource) (resources : List ResourceObj) : List ResourceObj :=
  match _h : stack.getLast? with
  | none => resources
  | some resource =>
      flatten_loop (pushSubResources stack.dropLast resource)
        (resources ++ [_build_resource_obj resource])
termination_by Rose.sizeAll (pending stack)
decreasing_by
  -- the popped resource is gone, and only those under it have come
  rw [← List.dropLast_append_getLast? resource _h, pending_append, List.dropLast_concat,
    pending_pushSubResources, Rose.sizeAll_append, tree_eq, Rose.sizeAll, Rose.size, Rose.children]
  omega

/-- `_flatten_ha_resp(resource_health)`. -/
def _flatten_ha_resp (resource_health : SystemHealth) : List ResourceObj :=
  flatten_loop (pushReversed [] (resource_health.health.getD [])) []

/-- What has been listed, and the stack. -/
theorem flatten_loop_eq (stack : List HealthResource) (resources : List ResourceObj) :
    flatten_loop stack resources = resources ++ Rose.preorderAll (pending stack) := by
  induction stack, resources using flatten_loop.induct with
  | case1 stack resources h =>
      rw [flatten_loop, List.getLast?_eq_none_iff.mp h]
      exact (List.append_nil resources).symm
  | case2 stack resources resource h ih =>
      have hstack : pending stack = resource.tree :: pending stack.dropLast := by
        rw [← pending_append, List.dropLast_append_getLast? resource h]
      rw [flatten_loop]
      split
      · rename_i hnone
        rw [h] at hnone
        cases hnone
      · rename_i popped hpopped
        cases h.symm.trans hpopped
        rw [ih, pending_pushSubResources, hstack, Rose.preorderAll, Rose.preorderAll_append,
          tree_eq, Rose.preorder, Rose.children, List.append_assoc, List.singleton_append,
          List.cons_append]

/-- The forest that HA has reported. -/
def forest (resource_health : SystemHealth) : List (Rose ResourceObj) :=
  (resource_health.health.getD []).map HealthResource.tree

/-- The loop lists the forest in preorder: every resource once, before those below it, and
siblings in their order. -/
theorem flatten_ha_resp_preorder (resource_health : SystemHealth) :
    _flatten_ha_resp resource_health = Rose.preorderAll (forest resource_health) ∧
      Rose.InPreorder (forest resource_health) (_flatten_ha_resp resource_health) := by
  have heq : _flatten_ha_resp resource_health = Rose.preorderAll (forest resource_health) := by
    rw [_flatten_ha_resp, flatten_loop_eq, pending_pushReversed, List.nil_append]
    exact congrArg Rose.preorderAll (List.append_nil _)
  exact ⟨heq, heq ▸ Rose.inPreorder_forest _⟩

/-! ## The pages -/

/-- `InvalidRequest(f"Invalid offset {offset}. Offset is out of bounds.")`. -/
def invalidOffset (offset : Nat) : CsmError :=
  ⟨.InvalidRequest, CSM_INVALID_REQUEST,
    some ("Invalid offset " ++ toString offset ++ ". Offset is out of bounds."),
    some "MalformedRequest", none⟩

/-- `_parse_ha_resp(resource_health, filters)`. -/
def _parse_ha_resp (resource_health : SystemHealth) (filters : HealthFilters) :
    Except Exc HealthResponse :=
  match filters.response_format with
  | .table =>
      let flattened_health_resp := _flatten_ha_resp resource_health
      let total_resources := flattened_health_resp.length
      let limit := if filters.limit = 0 then total_resources else filters.limit
      let start := (filters.offset - 1) * limit
      let stop := min (start + limit) total_resources
      if start ≥ stop then .error (.csm (invalidOffset filters.offset))
      else
        .ok ⟨.table ((flattened_health_resp.drop start).take (stop - start)) total_resources,
          resource_health.version⟩
  | .tree =>
      match resource_health.health with
      | none => .error .keyError
      | some health => .ok ⟨.tree health, resource_health.version⟩

/-- The number of entries of a page that is not the last. -/
def pageSize (resource_health : SystemHealth) (limit : Nat) : Nat :=
  if limit = 0 then (_flatten_ha_resp resource_health).length else limit

/-- The number of pages: one for the limit 0, and `max(1, ceil(N / limit))` for any other. -/
def pageCount (resource_health : SystemHealth) (limit : Nat) : Nat :=
  if limit = 0 then 1
  else max 1 (((_flatten_ha_resp resource_health).length + limit - 1) / limit)

/-- The page `offset` has these entries, and says how many there are in all. -/
def ShowsPage (resource_health : SystemHealth) (limit offset : Nat) (page : List ResourceObj) :
    Prop :=
  _parse_ha_resp resource_health ⟨.table, offset, limit⟩ =
    .ok ⟨.table page (_flatten_ha_resp resource_health).length, resource_health.version⟩

/-- What is asked of the pages for a limit. -/
structure Tiles (resource_health : SystemHealth) (limit : Nat) : Prop where
  /-- They put together are the list, and each but the last is full. -/
  whole : ∃ pages : List (List ResourceObj),
    pages.length = pageCount resource_health limit ∧
      pages.flatten = _flatten_ha_resp resource_health ∧
      ∀ k page, pages[k]? = some page → ShowsPage resource_health limit (k + 1) page ∧
        (k + 1 < pages.length → page.length = limit)
  /-- There is no page after them. -/
  refused : ∀ offset, pageCount resource_health limit < offset →
    _parse_ha_resp resource_health ⟨.table, offset, limit⟩ = .error (.csm (invalidOffset offset))

/-- The first pages of `size` entries, put together. -/
theorem flatten_pages {α : Type} (xs : List α) (size count : Nat) :
    ((List.range count).map fun k => (xs.drop (k * size)).take size).flatten =
      xs.take (count * size) := by
  induction count with
  | zero => rw [Nat.zero_mul, List.take_zero]; rfl
  | succ count ih =>
      rw [List.range_succ, List.map_append, List.flatten_append, ih, Nat.succ_mul, List.take_add]
      rw [List.map_singleton, List.flatten_singleton]

/-- A page, by the place where it starts. -/
theorem parse_ha_resp_table (resource_health : SystemHealth) (limit k : Nat) :
    _parse_ha_resp resource_health ⟨.table, k + 1, limit⟩ =
      if k * pageSize resource_health limit < (_flatten_ha_resp resource_health).length then
        .ok ⟨.table (((_flatten_ha_resp resource_health).drop (k * pageSize resource_health limit)).take
          (pageSize resource_health limit)) (_flatten_ha_resp resource_health).length,
          resource_health.version⟩
      else .error (.csm (invalidOffset (k + 1))) := by
  have hdef : (if limit = 0 then (_flatten_ha_resp resource_health).length else limit) =
      pageSize resource_health limit := rfl
  rw [_parse_ha_resp]
  simp only [hdef, Nat.add_sub_cancel]
  generalize hxs : _flatten_ha_resp resource_health = xs at hdef
  generalize pageSize resource_health limit = size at hdef
  -- only the pages of an empty list may have the size 0
  have hsize : size = 0 → xs.length = 0 := by
    intro h
    split at hdef
    · exact hdef.trans h
    · exact absurd (hdef.trans h) ‹_›
  by_cases h : k * size < xs.length
  · have hpage : (xs.drop (k * size)).take (min (k * size + size) xs.length - k * size) =
        (xs.drop (k * size)).take size := by
      rw [List.take_eq_take_iff, List.length_drop]
      omega
    rw [if_neg (by omega), if_pos h, hpage]
  · rw [if_pos (by omega), if_neg h]

/-- Where there is an entry, the pages are counted by where they start. -/
theorem lt_pageCount {resource_health : SystemHealth} (limit k : Nat)
    (h : 0 < (_flatten_ha_resp resource_health).length) :
    k < pageCount resource_health limit ↔
      k * pageSize resource_health limit < (_flatten_ha_resp resource_health).length := by
  rw [pageCount, pageSize]
  generalize (_flatten_ha_resp resource_health).length = total at h
  split
  · cases k with
    | zero => simpa using h
    | succ k =>
        refine iff_of_false (by omega) ?_
        rw [Nat.succ_mul]
        omega
  · rename_i hlimit
    have hdiv : k + 1 ≤ (total + limit - 1) / limit ↔ k * limit + limit ≤ total + limit - 1 := by
      rw [Nat.le_div_iff_mul_le (Nat.pos_of_ne_zero hlimit), Nat.succ_mul]
    generalize (total + limit - 1) / limit = count at hdiv
    cases k with
    | zero =>
        rw [Nat.zero_mul]
        omega
    | succ k => omega

/-- The first page has an entry. -/
theorem pos_of_tiles {resource_health : SystemHealth} {limit : Nat}
    (h : Tiles resource_health limit) : 0 < (_flatten_ha_resp resource_health).length := by
  obtain ⟨⟨pages, hcount, -, hpages⟩, -⟩ := h
  have hone : 0 < pages.length := by
    rw [hcount, pageCount]
    split <;> omega
  obtain ⟨hshown, -⟩ := hpages 0 pages[0] (List.getElem?_eq_getElem hone)
  rw [ShowsPage, parse_ha_resp_table] at hshown
  split at hshown
  · rename_i hpos
    rwa [Nat.zero_mul] at hpos
  · cases hshown

/-- The pages tile the list of resources exactly when it is not empty. -/
theorem tiles_iff (resource_health : SystemHealth) (limit : Nat) :
    Tiles resource_health limit ↔ 0 < (_flatten_ha_resp resource_health).length := by
  constructor
  · exact pos_of_tiles
  · intro h
    constructor
    · refine ⟨(List.range (pageCount resource_health limit)).map fun k =>
        ((_flatten_ha_resp resource_health).drop (k * pageSize resource_health limit)).take
          (pageSize resource_health limit), ?_, ?_, ?_⟩
      · rw [List.length_map, List.length_range]
      · rw [flatten_pages, List.take_of_length_le]
        exact Nat.not_lt.mp fun hlt => Nat.lt_irrefl _ ((lt_pageCount limit _ h).mpr hlt)
      · intro k page hpage
        rw [List.getElem?_map, Option.map_eq_some_iff] at hpage
        obtain ⟨k', hk', rfl⟩ := hpage
        obtain ⟨hk, rfl⟩ := List.getElem?_eq_some_iff.mp hk'
        rw [List.length_range] at hk
        simp only [List.getElem_range, List.length_map, List.length_range]
        refine ⟨?_, fun hnext => ?_⟩
        · rw [ShowsPage, parse_ha_resp_table, if_pos ((lt_pageCount limit k h).mp hk)]
        · have hfull := (lt_pageCount limit (k + 1) h).mp hnext
          have hlimit : pageSize resource_health limit = limit := by
            rw [pageCount] at hnext
            rw [pageSize]
            split at hnext
            · omega
            · rename_i hne
              exact if_neg hne
          rw [hlimit, Nat.succ_mul] at hfull
          rw [hlimit, List.length_take, List.length_drop]
          omega
    · intro offset hoffset
      cases offset with
      | zero => exact absurd hoffset (Nat.not_lt_zero _)
      | succ k =>
          rw [parse_ha_resp_table, if_neg]
          intro hlt
          have hk := (lt_pageCount limit k h).mpr hlt
          omega

/-- No resources, and the default offset and limit. -/
theorem first_page_refused :
    ¬ Tiles ⟨some [], .str "2.0"⟩ HEALTH_DEFAULT_LIMIT ∧
      _parse_ha_resp ⟨some [], .str "2.0"⟩ ⟨.table, HEALTH_DEFAULT_OFFSET, HEALTH_DEFAULT_LIMIT⟩ =
        .error (.csm (invalidOffset 1)) := by
  have hnone : _flatten_ha_resp ⟨some [], .str "2.0"⟩ = [] := by
    rw [_flatten_ha_resp, flatten_loop_eq]
    rfl
  refine ⟨fun h => ?_, ?_⟩
  · have hpos := pos_of_tiles h
    rw [hnone] at hpos
    exact Nat.lt_irrefl 0 hpos
  · rw [HEALTH_DEFAULT_OFFSET, parse_ha_resp_table ⟨some [], .str "2.0"⟩ HEALTH_DEFAULT_LIMIT 0,
      hnone]
    rfl

end HealthPlugin

end CortxCsm
