/-
# `CortxCsm.UserPermissions` — `csm/core/controllers/permissions.py`

`GET permissions` shows the permissions of the caller's session; `GET permissions/{user_id}`
is to show those of any user.  It takes the user from `CsmUserService.get_user`, and asks the
dictionary that comes back for its `'roles'`.  The dictionary has no such key: a user has one
role, under `'role'`.  The `KeyError` is not what the handler is for, so that the view
answers for no user who exists (`UserPermissionsView.truthful_iff`).

`transform_permissions` shows exactly what a set grants (`transform_permissions_shows`).
-/
import CortxCsm.Lib.Schema
import CortxCsm.PermissionAlgebra
import CortxCsm.Sessions
import Mathlib.Data.Finset.Sort
import Mathlib.Data.String.Basic

namespace CortxCsm

/-! ## What the views show -/

/-- The `permissions` entry of a response: for each resource, its actions. -/
abbrev ShownPermissions := Dict String (Dict String Bool)

namespace BasePermissionsView

/-- `{action: True for action in action_list}`; the set is read in the order of the texts. -/
def actionDict (action_list : Finset String) : Dict String Bool :=
  Table.empty.setAll ((action_list.sort (· ≤ ·)).map (·, true))

def transform_permissions (permissions : PermissionSet) : ShownPermissions :=
  permissions._items.mapVal actionDict

end BasePermissionsView

/-- `resource: {action: true}` is shown. -/
def ShownPermissions.Has (shown : ShownPermissions) (resource action : String) : Prop :=
  ∃ actions, shown.get? resource = some actions ∧ actions.get? action = some true

/-- Exactly these pairs are shown, and each as `true`. -/
def ShownPermissions.Shows (shown : ShownPermissions) (pairs : Set (String × String)) : Prop :=
  ∀ resource action, (shown.Has resource action ↔ (resource, action) ∈ pairs) ∧
    ∀ actions, shown.get? resource = some actions → actions.get? action ≠ some false

theorem actionDict_get? (action_list : Finset String) (action : String) :
    (BasePermissionsView.actionDict action_list).get? action =
      if action ∈ action_list then some true else none := by
  have hfst : ((action_list.sort (· ≤ ·)).map (·, true)).map Prod.fst =
      action_list.sort (· ≤ ·) := by
    simp [List.map_map, Function.comp_def]
  split
  · rename_i h
    refine Table.get?_setAll_of_mem ?_ ?_
    · rw [hfst]
      exact Finset.sort_nodup _ _
    · exact List.mem_map.mpr ⟨action, (Finset.mem_sort _).mpr h, rfl⟩
  · rename_i h
    refine (Table.get?_setAll_of_not_mem ?_).trans (Table.get?_empty _)
    rw [hfst, Finset.mem_sort]
    exact h

theorem transform_permissions_shows (permissions : PermissionSet) :
    (BasePermissionsView.transform_permissions permissions).Shows permissions.relation := by
  intro resource action
  have hshown : (BasePermissionsView.transform_permissions permissions).get? resource =
      (permissions._items.get? resource).map BasePermissionsView.actionDict :=
    Table.get?_mapVal _ _ _
  cases h : permissions._items.get? resource with
  | none =>
      rw [h] at hshown
      refine ⟨iff_of_false ?_ ?_, ?_⟩
      · rintro ⟨actions, hactions, _⟩
        simp [hshown] at hactions
      · rw [PermissionSet.mem_relation, PermissionSet.actions, h]
        exact Finset.notMem_empty _
      · intro actions hactions
        simp [hshown] at hactions
  | some acts =>
      obtain ⟨hacts, _⟩ := PermissionSet.get?_eq_some_iff.mp h
      rw [h] at hshown
      refine ⟨?_, ?_⟩
      · rw [PermissionSet.mem_relation, hacts]
        constructor
        · rintro ⟨actions, hactions, htrue⟩
          obtain rfl := Option.some.inj (hshown.symm.trans hactions)
          by_contra hnot
          simp [actionDict_get?, hnot] at htrue
        · intro hmem
          exact ⟨_, hshown, by simp [actionDict_get?, hmem]⟩
      · intro actions hactions
        obtain rfl := Option.some.inj (hshown.symm.trans hactions)
        rw [actionDict_get?]
        split <;> simp

/-- `GET permissions`, for the session of the request. -/
def CurrentPermissionsView.get (session : Session) : ShownPermissions :=
  BasePermissionsView.transform_permissions session.permissions

/-- The answer shows exactly what the session may do. -/
theorem CurrentPermissionsView.get_shows (session : Session) :
    (CurrentPermissionsView.get session).Shows session.permissions.relation :=
  transform_permissions_shows session.permissions

/-! ## The dictionary of a user -/

/-- `CsmUserService.get_user` returns this dictionary; `isoformat` makes a text of a time. -/
def UserDict.items (isoformat : Time → String) (user : UserDict) : List (String × Json) :=
  [("id", .str user.id), ("username", .str user.username), ("user_type", .str user.user_type),
    ("role", .str user.role), ("email", .str user.email),
    ("reset_password", (user.reset_password.map Json.bool).getD .null),
    ("created_time", .str (isoformat user.created_time ++ "Z")),
    ("updated_time", .str (isoformat user.updated_time ++ "Z")),
    ("alert_notification", .bool user.alert_notification)]

/-- `*role_names`: the names of a list, or the characters of a text. -/
def roleNames : Json → Except Exc (List String)
  | .arr items => items.mapM fun
      | .str name => .ok name
      | _ => .error .typeError
  | .str text => .ok (text.toList.map String.singleton)
  | _ => .error .typeError

/-- `RoleManagementService.get_permissions(role_names)`. -/
def RoleManagementService.get_permissions (m : RoleManager) (role_names : Json) :
    Except Exc PermissionSet :=
  (roleNames role_names).map m.effective

section

variable [Runtime]

namespace CsmUserService

def get_user (user_id : String) : Prog UserDict := do
  let user ← UserManager.get .record user_id
  match user with
  | none => throw (notFound user_id)
  | some user => return _user_to_dict user

end CsmUserService

namespace UserPermissionsView

/-- `CsmNotFoundError("There is no such user", USERS_MSG_USER_NOT_FOUND, user_id)`. -/
def noSuchUser (user_id : String) : Exc :=
  .csm { csmNotFoundError (some "There is no such user") USERS_MSG_USER_NOT_FOUND with
    message_args := some user_id }

/-- Whether `except CsmNotFoundError` catches it. -/
def isNotFound : Exc → Bool
  | .csm e => e.cls = .CsmNotFoundError
  | _ => false

/-- The body of the `try`. -/
def user_roles (isoformat : Time → String) (user_id : String) : Prog Json := do
  let localuser ← CsmUserService.get_user user_id
  match (localuser.items isoformat).lookup "roles" with
  | none => throw .keyError
  | some roles => return roles

def get (cfg : Settings) (isoformat : Time → String) (user_id : String) :
    Prog ShownPermissions := do
  let roles ← tryCatch (user_roles isoformat user_id) fun e =>
    if isNotFound e then throw (noSuchUser user_id) else throw e
  match RoleManagementService.get_permissions cfg.role_manager roles with
  | .error e => throw e
  | .ok permissions_internal => return BasePermissionsView.transform_permissions permissions_internal

/-! ## What is asked of it -/

/-- What the role of a user grants. -/
def rolePairs (cfg : Settings) (user : User) : Set (String × String) :=
  (cfg.role_manager.granted user.user_role).relation

/-- The session that a login of the user returns. -/
def LoggedIn (cfg : Settings) (s : State) (user : User) (session : Session) : Prop :=
  ∃ password reset_password s',
    (LoginService.login cfg user.user_id password).solo cfg.machine s =
      some (.ok (some (session.session_id, reset_password)), s') ∧ session ∈ s'.sessions

/-- The answer for a user who exists: what his role grants, and what his own session shows
after he has logged in; and for another id, that there is no such user. -/
structure Truthful (cfg : Settings) (isoformat : Time → String) (user_id : String) (s : State) :
    Prop where
  known : ∀ user, UserManager.search s.users.rows user_id = some user →
    ∃ shown, (get cfg isoformat user_id).solo cfg.machine s = some (.ok shown, s) ∧
      shown.Shows (rolePairs cfg user) ∧
      ∀ session, LoggedIn cfg s user session → CurrentPermissionsView.get session = shown
  unknown : UserManager.search s.users.rows user_id = none →
    (get cfg isoformat user_id).solo cfg.machine s = some (.error (noSuchUser user_id), s)

section

variable (cfg : Settings) (isoformat : Time → String) (user_id : String) (s : State)

theorem get_user_solo : (CsmUserService.get_user user_id).solo cfg.machine s =
    some ((UserManager.search s.users.rows user_id).elim
      (.error (CsmUserService.notFound user_id)) fun user => .ok (_user_to_dict user), s) := by
  have hget : (UserManager.get .record user_id).solo cfg.machine s =
      some (.ok (UserManager.search s.users.rows user_id), s) := rfl
  refine (Coro.solo_bind_ok hget).trans ?_
  cases UserManager.search s.users.rows user_id with
  | none => rfl
  | some user => rfl

omit [Runtime] in
/-- No dictionary of a user has the key. -/
theorem lookup_roles (user : UserDict) : (user.items isoformat).lookup "roles" = none := rfl

theorem get_solo : (get cfg isoformat user_id).solo cfg.machine s =
    some (.error (if (UserManager.search s.users.rows user_id).isSome then .keyError
      else noSuchUser user_id), s) := by
  have hroles : (user_roles isoformat user_id).solo cfg.machine s =
      some (.error (if (UserManager.search s.users.rows user_id).isSome then .keyError
        else CsmUserService.notFound user_id), s) := by
    have huser := get_user_solo cfg user_id s
    cases h : UserManager.search s.users.rows user_id with
    | none =>
        rw [h] at huser
        exact Coro.solo_bind_error huser
    | some user =>
        rw [h] at huser
        refine (Coro.solo_bind_ok huser).trans ?_
        simp only [lookup_roles]
        rfl
  refine Coro.solo_bind_error ?_
  refine (Coro.solo_handle _ _ _ _).trans ?_
  rw [hroles]
  cases UserManager.search s.users.rows user_id with
  | none => rfl
  | some user => rfl

theorem search_eq_none : UserManager.search s.users.rows user_id = none ↔
    ∀ user ∈ s.users, lower user.user_id ≠ lower user_id := by
  constructor
  · intro h user huser
    exact UserManager.search_none h user huser
  · intro h
    cases hsearch : UserManager.search s.users.rows user_id with
    | none => rfl
    | some user =>
        obtain ⟨huser, hid⟩ := UserManager.search_some hsearch
        exact absurd hid (h user huser)

/-- The view tells the truth about the ids that no user has, and about no other. -/
theorem truthful_iff : Truthful cfg isoformat user_id s ↔
    ∀ user ∈ s.users, lower user.user_id ≠ lower user_id := by
  rw [← search_eq_none]
  have hget := get_solo cfg isoformat user_id s
  constructor
  · intro h
    cases hsearch : UserManager.search s.users.rows user_id with
    | none => rfl
    | some user =>
        obtain ⟨shown, hshown, _⟩ := h.known user hsearch
        rw [hget] at hshown
        cases hshown
  · intro hsearch
    rw [hsearch] at hget
    refine ⟨?_, fun _ => hget⟩
    intro user huser
    rw [hsearch] at huser
    cases huser

end

end UserPermissionsView

end

namespace UserPermissionsView

/-- The stock roles, and one user. -/
def monitorOnly : State :=
  .fresh (Table.empty.upsert (sampleUser "alice" CSM_MONITOR_ROLE))

/-- `GET permissions/Alice` ends with the `KeyError`, though there is an alice. -/
theorem known_user_refused :
    (get (sampleSettings .database 0 0 (.init predefined_roles)) (fun _ => "2022-03-01T00:00:00")
        "Alice").solo (sampleSettings .database 0 0 (.init predefined_roles)).machine monitorOnly =
      some (.error .keyError, monitorOnly) ∧
    ¬ Truthful (sampleSettings .database 0 0 (.init predefined_roles))
      (fun _ => "2022-03-01T00:00:00") "Alice" monitorOnly := by
  have hget := get_solo (sampleSettings .database 0 0 (.init predefined_roles))
    (fun _ => "2022-03-01T00:00:00") "Alice" monitorOnly
  have hsearch : UserManager.search monitorOnly.users.rows "Alice" =
      some (sampleUser "alice" CSM_MONITOR_ROLE) := by decide +kernel
  rw [hsearch] at hget
  refine ⟨hget, ?_⟩
  intro h
  obtain ⟨shown, hshown, _⟩ := h.known _ hsearch
  rw [hget] at hshown
  cases hshown

end UserPermissionsView

end CortxCsm
