/-
# `CortxCsm.Roles` — `csm/core/services/roles.py`

A role holds a reference to a permission-set *object*, `NO_ROLE` is one object
shared by every unknown name, and `calc_effective_permissions` folds the in-place
`|=` over the roles it is given.  Whether that ever writes into a stored set is a
question about objects, so the manager is modelled with a heap of permission-set
objects: `PermissionSet()` allocates, `|=` reads its right operand and updates
its left operand at their addresses, resource by resource.  The action sets in it are
values: every operator builds the set it stores, and none is changed in place.

The validators of the class admit a dictionary of roles, each with a dictionary
of action lists; that is the type `RolesConfig`.

**Proved here.**

    heap-level |= writes one object, with the value-level result   (`Heap.ior_eq`)
    the fold returns the union of the roles' sets                  (`calc_value`)
    and leaves every stored set as it was                          (`calc_stored`)
    the manager represents the configuration it was built from,
    through every add_role, delete_role and computation            (`represents_run`)
-/
import CortxCsm.Permissions

namespace CortxCsm

/-- A role's `permissions` entry: resource to action list. -/
abbrev RolePermissions := Dict String (List String)

/-- What `_validate_roles` lets through. -/
abbrev RolesConfig := Dict String RolePermissions

/-! ## Permission-set objects -/

abbrev Ref := Nat

/-- The permission-set objects, by address. -/
structure Heap where
  objs : List PermissionSet

namespace Heap

def get (h : Heap) (r : Ref) : PermissionSet := (h.objs[r]?).getD .empty

def put (h : Heap) (r : Ref) (p : PermissionSet) : Heap := ⟨h.objs.set r p⟩

/-- Allocate an object. -/
def new (h : Heap) (p : PermissionSet) : Heap := ⟨h.objs ++ [p]⟩

/-- `self |= other`. -/
def ior (h : Heap) (self other : Ref) : Heap :=
  (h.get other)._items.keys.foldl
    (fun h resource => h.put self
      ((h.get self).assign resource ((h.get self).actions resource ∪ (h.get other).actions resource)))
    h

theorem get_put_self {h : Heap} {r : Ref} (hr : r < h.objs.length) (p : PermissionSet) :
    (h.put r p).get r = p := by
  simp [get, put, hr]

theorem get_put_ne (h : Heap) {r r' : Ref} (hr : r' ≠ r) (p : PermissionSet) :
    (h.put r p).get r' = h.get r' := by
  simp [get, put, List.getElem?_set_ne hr.symm]

theorem put_put (h : Heap) (r : Ref) (p q : PermissionSet) : (h.put r p).put r q = h.put r q := by
  simp [put, List.set_set]

theorem put_get (h : Heap) {r : Ref} (hr : r < h.objs.length) : h.put r (h.get r) = h := by
  cases h with
  | mk objs =>
      have hr : r < objs.length := hr
      simp [get, put, hr]

theorem get_new_old (h : Heap) {r : Ref} (hr : r < h.objs.length) (p : PermissionSet) :
    (h.new p).get r = h.get r := by
  simp [get, new, List.getElem?_append_left hr]

theorem get_new_self (h : Heap) (p : PermissionSet) : (h.new p).get h.objs.length = p := by
  simp [get, new]

/-- Distinct operands: only `self` is written, and with the union. -/
theorem ior_eq {h : Heap} {self other : Ref} (hne : other ≠ self) (hs : self < h.objs.length) :
    h.ior self other = h.put self ((h.get self).ior (h.get other)) := by
  have hfold : ∀ (l : List String) (p : PermissionSet),
      l.foldl (fun h' resource => h'.put self ((h'.get self).assign resource
          ((h'.get self).actions resource ∪ (h'.get other).actions resource))) (h.put self p)
        = h.put self (l.foldl (fun p resource =>
            p.assign resource (p.actions resource ∪ (h.get other).actions resource)) p) := by
    intro l
    induction l with
    | nil => intro p; rfl
    | cons a l ih =>
        intro p
        rw [List.foldl_cons, List.foldl_cons, get_put_self hs, get_put_ne h hne, put_put]
        exact ih _
  have := hfold (h.get other)._items.keys (h.get self)
  rw [put_get h hs] at this
  exact this

end Heap

/-! ## The role manager -/

structure Role where
  name : Option String
  permissions : Ref

/-- `RoleManager.NO_ROLE`, whose set is allocated when the class is created. -/
def NO_ROLE : Role := ⟨none, 0⟩

/-- The manager with the objects it can reach.  `NO_ROLE` has its set at address 0. -/
structure RoleManager where
  heap : Heap
  _roles : Dict String Role
  noRole : 0 < heap.objs.length ∧ heap.get 0 = .empty
  live : ∀ kv ∈ _roles, kv.2.permissions < heap.objs.length ∧ kv.2.permissions ≠ 0

namespace RoleManager

/-- `self._roles[name] = Role(name, PermissionSet(permissions))`. -/
def store (m : RoleManager) (name : String) (permissions : RolePermissions) : RoleManager where
  heap := m.heap.new (.init (permissions.mapVal List.toFinset))
  _roles := m._roles.set name ⟨some name, m.heap.objs.length⟩
  noRole := by
    refine ⟨Nat.lt_of_lt_of_le m.noRole.1 (by simp [Heap.new]), ?_⟩
    rw [Heap.get_new_old _ m.noRole.1, m.noRole.2]
  live := by
    intro kv hkv
    have hlen : m.heap.objs.length
        < (m.heap.new (.init (permissions.mapVal List.toFinset))).objs.length := by
      simp [Heap.new]
    rcases Table.mem_upsert.mp hkv with rfl | ⟨hkv, _⟩
    · exact ⟨hlen, Nat.pos_iff_ne_zero.mp m.noRole.1⟩
    · exact ⟨Nat.lt_trans (m.live kv hkv).1 hlen, (m.live kv hkv).2⟩

/-- `RoleManager` before any role is stored: `NO_ROLE`'s set and no other object. -/
def blank : RoleManager where
  heap := ⟨[.empty]⟩
  _roles := Table.empty
  noRole := ⟨Nat.zero_lt_one, rfl⟩
  live := fun kv h => absurd h (Table.not_mem_empty kv)

/-- `RoleManager(predefined_roles)`. -/
def init (predefined_roles : RolesConfig) : RoleManager :=
  predefined_roles.rows.foldl (fun m kv => m.store kv.1 kv.2) blank

/-- `self._roles.get(role_name, self.NO_ROLE)`. -/
def lookup (m : RoleManager) (role_name : String) : Role :=
  (m._roles.get? role_name).getD NO_ROLE

theorem lookup_live (m : RoleManager) (name : String) :
    (m.lookup name).permissions < m.heap.objs.length := by
  unfold lookup
  cases h : m._roles.get? name with
  | none => exact m.noRole.1
  | some role => exact (m.live (name, role) (Table.get?_eq_some.mp h)).1

/-- The objects after the fold of `calc_effective_permissions`; its result is the
object allocated first, at address `self.heap.objs.length`. -/
def calcHeap (m : RoleManager) (role_names : List String) : Heap :=
  role_names.foldl (fun heap role_name => heap.ior m.heap.objs.length (m.lookup role_name).permissions)
    (m.heap.new .empty)

/-- The set stored for a role name, if the name is known. -/
def stored (m : RoleManager) (name : String) : Option PermissionSet :=
  (m._roles.get? name).map fun role => m.heap.get role.permissions

/-- The set of a name, that of `NO_ROLE` for an unknown one. -/
def granted (m : RoleManager) (name : String) : PermissionSet := (m.stored name).getD .empty

theorem get_lookup (m : RoleManager) (name : String) :
    m.heap.get (m.lookup name).permissions = m.granted name := by
  unfold lookup granted stored
  cases m._roles.get? name with
  | none => exact m.noRole.2
  | some role => rfl

/-- The fold touches only the object it allocated. -/
theorem calcHeap_eq (m : RoleManager) : ∀ role_names : List String,
    m.calcHeap role_names
      = m.heap.new (role_names.foldl (fun p name => p.ior (m.granted name)) .empty) := by
  have hfold : ∀ (l : List String) (p : PermissionSet),
      l.foldl (fun heap name => heap.ior m.heap.objs.length (m.lookup name).permissions)
          (m.heap.new p)
        = m.heap.new (l.foldl (fun p name => p.ior (m.granted name)) p) := by
    intro l
    induction l with
    | nil => intro p; rfl
    | cons name l ih =>
        intro p
        have hlive := m.lookup_live name
        have hself : m.heap.objs.length < (m.heap.new p).objs.length := by
          simp [Heap.new]
        have hput : ∀ q, (m.heap.new p).put m.heap.objs.length q = m.heap.new q := by
          intro q
          simp [Heap.put, Heap.new]
        rw [List.foldl_cons, List.foldl_cons, Heap.ior_eq (Nat.ne_of_lt hlive) hself,
          Heap.get_new_self, Heap.get_new_old _ hlive, m.get_lookup, hput]
        exact ih _
  exact fun l => hfold l .empty

/-- `calc_effective_permissions(*role_names)`: the manager afterwards. -/
def calc_effective_permissions (m : RoleManager) (role_names : List String) : RoleManager where
  heap := m.calcHeap role_names
  _roles := m._roles
  noRole := by
    rw [calcHeap_eq]
    refine ⟨Nat.lt_of_lt_of_le m.noRole.1 (by simp [Heap.new]), ?_⟩
    rw [Heap.get_new_old _ m.noRole.1, m.noRole.2]
  live := by
    intro kv hkv
    rw [calcHeap_eq]
    exact ⟨Nat.lt_of_lt_of_le (m.live kv hkv).1 (by simp [Heap.new]), (m.live kv hkv).2⟩

/-- The object it returns. -/
def effective (m : RoleManager) (role_names : List String) : PermissionSet :=
  (m.calc_effective_permissions role_names).heap.get m.heap.objs.length

/-- `add_role`: the manager afterwards, and what is returned. -/
def add_role (m : RoleManager) (name : String) (permissions : RolePermissions) :
    RoleManager × Bool :=
  if name ∈ m._roles.keys then (m, false) else (m.store name permissions, true)

/-- `delete_role`. -/
def delete_role (m : RoleManager) (name : String) : RoleManager where
  heap := m.heap
  _roles := m._roles.pop name
  noRole := m.noRole
  live := fun kv hkv => m.live kv (Table.mem_remove.mp hkv).1

/-- The verdict of `permission_middleware` for a session with these roles. -/
def verdict (m : RoleManager) (role_names : List String) (required : PermissionSet) : Bool :=
  (m.effective role_names).allows required

/-! ## What the computation returns and leaves -/

/-- The fold returns the union of the sets of the names. -/
theorem calc_value (m : RoleManager) (role_names : List String) :
    m.effective role_names = role_names.foldl (fun p name => p.ior (m.granted name)) .empty := by
  show (m.calcHeap role_names).get m.heap.objs.length = _
  rw [calcHeap_eq, Heap.get_new_self]

/-- No stored set changes. -/
theorem calc_stored (m : RoleManager) (role_names : List String) (name : String) :
    (m.calc_effective_permissions role_names).stored name = m.stored name := by
  show (m._roles.get? name).map (fun role => (m.calcHeap role_names).get role.permissions) = _
  rw [calcHeap_eq]
  unfold stored
  cases h : m._roles.get? name with
  | none => rfl
  | some role =>
      have hl := (m.live (name, role) (Table.get?_eq_some.mp h)).1
      exact congrArg some (Heap.get_new_old _ hl _)

theorem effective_grants {m : RoleManager} {role_names : List String} {r a : String} :
    (m.effective role_names).Grants r a ↔ ∃ name ∈ role_names, (m.granted name).Grants r a := by
  have hfold : ∀ (l : List String) (p : PermissionSet),
      (l.foldl (fun p name => p.ior (m.granted name)) p).Grants r a ↔
        p.Grants r a ∨ ∃ name ∈ l, (m.granted name).Grants r a := by
    intro l
    induction l with
    | nil => intro p; simp
    | cons name l ih =>
        intro p
        rw [List.foldl_cons, ih]
        simp only [PermissionSet.Grants, PermissionSet.actions_ior, Finset.mem_union,
          List.exists_mem_cons_iff, or_assoc]
  rw [calc_value, hfold]
  simp [PermissionSet.Grants]

theorem verdict_iff {m : RoleManager} {role_names : List String} {required : PermissionSet} :
    m.verdict role_names required = true ↔
      ∀ r a, required.Grants r a → ∃ name ∈ role_names, (m.granted name).Grants r a := by
  rw [verdict, PermissionSet.verdict_iff]
  simp only [effective_grants]

theorem stored_store (m : RoleManager) (name name' : String) (permissions : RolePermissions) :
    (m.store name permissions).stored name' =
      if name = name' then some (.init (permissions.mapVal List.toFinset)) else m.stored name' := by
  unfold stored store
  simp only [Table.get?_set]
  split
  · exact congrArg some (Heap.get_new_self _ _)
  · cases h : m._roles.get? name' with
    | none => rfl
    | some role =>
        have hl := (m.live (name', role) (Table.get?_eq_some.mp h)).1
        exact congrArg some (Heap.get_new_old _ hl _)

theorem stored_delete_role (m : RoleManager) (name name' : String) :
    (m.delete_role name).stored name' = if name = name' then none else m.stored name' := by
  unfold stored delete_role
  simp only [Table.get?_pop]
  split <;> rfl

theorem mem_keys_iff_stored {m : RoleManager} {name : String} :
    name ∈ m._roles.keys ↔ ∃ p, m.stored name = some p := by
  rw [Table.mem_keys]
  unfold stored
  cases m._roles.get? name with
  | none => simp
  | some role => simp

end RoleManager

/-! ## The configuration a manager represents -/

/-- The calls on a role manager. -/
inductive RoleCall
  | add_role (name : String) (permissions : RolePermissions)
  | delete_role (name : String)
  | calc_effective_permissions (role_names : List String)

def RoleManager.call (m : RoleManager) : RoleCall → RoleManager
  | .add_role name permissions => (m.add_role name permissions).1
  | .delete_role name => m.delete_role name
  | .calc_effective_permissions role_names => m.calc_effective_permissions role_names

namespace RolesConfig

/-- What a call means for the configuration: a known name is not redefined, and a
computation changes nothing. -/
def call (cfg : RolesConfig) : RoleCall → RolesConfig
  | .add_role name permissions => if name ∈ cfg.keys then cfg else cfg.set name permissions
  | .delete_role name => cfg.pop name
  | .calc_effective_permissions _ => cfg

/-- The configuration grants `action` on `resource` to the role `name`. -/
def Grants (cfg : RolesConfig) (name resource action : String) : Prop :=
  ∃ permissions, cfg.get? name = some permissions ∧
    ∃ actions, permissions.get? resource = some actions ∧ action ∈ actions

end RolesConfig

/-- `m` holds exactly the roles of `cfg`, each with the set of its permissions. -/
def RoleManager.Represents (m : RoleManager) (cfg : RolesConfig) : Prop :=
  ∀ name, m.stored name =
    (cfg.get? name).map fun permissions => .init (permissions.mapVal List.toFinset)

namespace RoleManager

theorem Represents.store {m : RoleManager} {cfg : RolesConfig} (h : m.Represents cfg)
    (name : String) (permissions : RolePermissions) :
    (m.store name permissions).Represents (cfg.set name permissions) := by
  intro name'
  rw [stored_store, Table.get?_set, h name']
  split <;> rfl

theorem Represents.mem_keys {m : RoleManager} {cfg : RolesConfig} (h : m.Represents cfg)
    {name : String} : name ∈ m._roles.keys ↔ name ∈ cfg.keys := by
  rw [mem_keys_iff_stored, h name, Table.mem_keys]
  cases cfg.get? name with
  | none => simp
  | some permissions => simp

theorem represents_init (cfg : RolesConfig) : (init cfg).Represents cfg := by
  have hfold : ∀ (l : List (String × RolePermissions)) (m : RoleManager) (acc : RolesConfig),
      m.Represents acc →
        (l.foldl (fun m kv => m.store kv.1 kv.2) m).Represents
          (l.foldl (fun acc kv => acc.set kv.1 kv.2) acc) := by
    intro l
    induction l with
    | nil => intro m acc h; exact h
    | cons kv l ih => intro m acc h; exact ih _ _ (h.store kv.1 kv.2)
  have hget : ∀ (l : List (String × RolePermissions)) (acc : RolesConfig) (name : String),
      (l.map Prod.fst).Nodup →
        (l.foldl (fun acc kv => acc.set kv.1 kv.2) acc).get? name =
          ((l.find? fun kv => kv.1 = name).map Prod.snd).or (acc.get? name) := by
    intro l
    induction l with
    | nil => intro acc name _; rfl
    | cons kv l ih =>
        intro acc name hn
        rw [List.map_cons, List.nodup_cons] at hn
        rw [List.foldl_cons, ih _ _ hn.2, Table.get?_set, List.find?_cons]
        by_cases hk : kv.1 = name
        · have hnone : l.find? (fun kv => kv.1 = name) = none := by
            rw [List.find?_eq_none]
            intro x hx hxn
            exact hn.1 (hk ▸ (of_decide_eq_true hxn) ▸ List.mem_map_of_mem hx)
          simp [hk, hnone]
        · simp [hk]
  intro name
  have h := hfold cfg.rows blank Table.empty (fun _ => rfl) name
  rw [hget cfg.rows _ name cfg.nodup, Table.get?_empty, Option.or_none] at h
  exact h

theorem Represents.call {m : RoleManager} {cfg : RolesConfig} (h : m.Represents cfg)
    (c : RoleCall) : (m.call c).Represents (cfg.call c) := by
  cases c with
  | add_role name permissions =>
      simp only [RoleManager.call, RolesConfig.call, add_role, h.mem_keys]
      split
      · exact h
      · exact h.store name permissions
  | delete_role name =>
      intro name'
      simp only [RoleManager.call, RolesConfig.call]
      rw [stored_delete_role, Table.get?_pop, h name']
      split <;> rfl
  | calc_effective_permissions role_names =>
      intro name'
      exact (m.calc_stored role_names name').trans (h name')

/-- Through every sequence of calls. -/
theorem represents_run (cfg : RolesConfig) (calls : List RoleCall) :
    (calls.foldl call (init cfg)).Represents (calls.foldl RolesConfig.call cfg) := by
  have hfold : ∀ (l : List RoleCall) (m : RoleManager) (cfg : RolesConfig), m.Represents cfg →
      (l.foldl RoleManager.call m).Represents (l.foldl RolesConfig.call cfg) := by
    intro l
    induction l with
    | nil => intro m cfg h; exact h
    | cons c l ih => intro m cfg h; exact ih _ _ (h.call c)
  exact hfold calls _ _ (represents_init cfg)

theorem Represents.granted_iff {m : RoleManager} {cfg : RolesConfig} (h : m.Represents cfg)
    {name r a : String} : (m.granted name).Grants r a ↔ cfg.Grants name r a := by
  unfold granted RolesConfig.Grants PermissionSet.Grants
  rw [h name]
  cases cfg.get? name with
  | none => simp
  | some permissions =>
      simp only [Option.map_some, Option.getD_some, PermissionSet.actions_init, Table.get?_mapVal,
        Option.some.injEq, exists_eq_left']
      cases permissions.get? r with
      | none => simp
      | some actions => simp

/-- **The role-to-access decision.**  For the manager built from any configuration and
put through any calls: a verdict is positive exactly when every required pair is
granted by one of the names; so it depends only on which names are listed and never
falls when names are added, unknown names grant nothing, and computing permissions
changes no stored set. -/
theorem access_decision_exact (cfg : RolesConfig) (calls : List RoleCall) :
    let m := calls.foldl call (init cfg)
    let table := calls.foldl RolesConfig.call cfg
    (∀ role_names required, m.verdict role_names required = true ↔
      ∀ r a, required.Grants r a → ∃ name ∈ role_names, table.Grants name r a) ∧
    (∀ role_names role_names' required, (∀ name, name ∈ role_names ↔ name ∈ role_names') →
      m.verdict role_names required = m.verdict role_names' required) ∧
    (∀ role_names role_names' required, role_names ⊆ role_names' →
      m.verdict role_names required = true → m.verdict role_names' required = true) ∧
    (∀ role_names, (∀ name ∈ role_names, name ∉ table.keys) →
      ∀ r a, ¬ (m.effective role_names).Grants r a) ∧
    (∀ role_names name, (m.calc_effective_permissions role_names).stored name = m.stored name) := by
  intro m table
  have hrep : m.Represents table := represents_run cfg calls
  have hverdict : ∀ role_names required, m.verdict role_names required = true ↔
      ∀ r a, required.Grants r a → ∃ name ∈ role_names, table.Grants name r a := by
    intro role_names required
    simp only [verdict_iff, hrep.granted_iff]
  refine ⟨hverdict, ?_, ?_, ?_, ?_⟩
  · intro role_names role_names' required hsame
    rw [Bool.eq_iff_iff, hverdict, hverdict]
    simp only [hsame]
  · intro role_names role_names' required hsub hv
    rw [hverdict] at hv ⊢
    intro r a hra
    obtain ⟨name, hname, hg⟩ := hv r a hra
    exact ⟨name, hsub hname, hg⟩
  · intro role_names hunknown r a hg
    obtain ⟨name, hname, hgr⟩ := effective_grants.mp hg
    obtain ⟨permissions, hp, _⟩ := hrep.granted_iff.mp hgr
    exact hunknown name hname (Table.mem_keys.mpr ⟨permissions, hp⟩)
  · exact fun role_names name => m.calc_stored role_names name

end RoleManager

/-! ## `src/schema/roles.json` -/

/-- The permissions of `admin`. -/
def admin_permissions : RolePermissions where
  rows :=
    [ ("permissions", ["list"]),
      ("alerts", ["list", "update", "delete"]),
      ("maintenance", ["list", "update"]),
      ("stats", ["list"]),
      ("capacity", ["list"]),
      ("sysconfig", ["list", "update", "delete"]),
      ("users", ["create", "list", "update", "delete"]),
      ("s3accounts", ["create", "list", "update", "delete"]),
      ("auditlog", ["list", "read"]),
      ("system", ["list", "update"]),
      ("notification", ["update"]),
      ("security", ["read", "update"]),
      ("lyve_pilot", ["list", "update"]),
      ("replace_node", ["create", "list"]),
      ("health", ["list"]),
      ("cluster_management", ["create", "list"]),
      ("s3_iam_users", ["create", "list", "update", "delete"]),
      ("s3_bucket", ["update"]),
      ("activities", ["create", "read", "update"]) ]
  nodup := by decide

/-- The permissions of `manage`. -/
def manage_permissions : RolePermissions where
  rows :=
    [ ("permissions", ["list"]),
      ("alerts", ["list", "update", "delete"]),
      ("stats", ["list"]),
      ("capacity", ["list"]),
      ("sysconfig", ["list", "update", "delete"]),
      ("users", ["list", "update", "delete", "create"]),
      ("s3accounts", ["list", "create", "update", "delete"]),
      ("auditlog", ["list", "read"]),
      ("replace_node", ["list"]),
      ("health", ["list"]),
      ("security", ["read"]),
      ("cluster_management", ["create", "list"]),
      ("s3_iam_users", ["create", "list", "update", "delete"]),
      ("s3_bucket", ["update"]),
      ("activities", ["create", "read", "update"]) ]
  nodup := by decide

/-- The permissions of `monitor`. -/
def monitor_permissions : RolePermissions where
  rows :=
    [ ("permissions", ["list"]),
      ("alerts", ["list"]),
      ("stats", ["list"]),
      ("capacity", ["list"]),
      ("sysconfig", ["list"]),
      ("users", ["list", "update", "delete"]),
      ("s3accounts", ["list"]),
      ("auditlog", ["list", "read"]),
      ("replace_node", ["list"]),
      ("health", ["list"]),
      ("security", ["read"]),
      ("s3_iam_users", ["list"]),
      ("activities", ["read"]) ]
  nodup := by decide

/-- The permissions of `s3`. -/
def s3_permissions : RolePermissions where
  rows :=
    [ ("permissions", ["list"]),
      ("s3accounts", ["list", "update", "delete"]),
      ("s3iamusers", ["list", "update", "delete", "create"]),
      ("s3buckets", ["list", "update", "delete", "create"]),
      ("s3bucketpolicy", ["list", "delete", "create"]),
      ("s3accesskeys", ["list", "update", "delete", "create"]) ]
  nodup := by decide

/-- What `schema/roles.json` defines. -/
def predefined_roles : RolesConfig where
  rows :=
    [ ("admin", admin_permissions),
      ("manage", manage_permissions),
      ("monitor", monitor_permissions),
      ("s3", s3_permissions) ]
  nodup := by decide

end CortxCsm
