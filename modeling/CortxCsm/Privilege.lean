/-
# `CortxCsm.Privilege` — what users of a role can do to the others

The roles are ordered monitor < manage < admin.  Fix a level, monitor or manage,
and let every acting user have a role of at most that level.  Then, whatever the
order of their requests' steps, the users above the level are exactly the initial
ones, unchanged; and at the level monitor nobody is added, and a record can change
only in password, e-mail, reset flag and update time, or go, and only by its own
user's request.

An update saves the whole record it read, possibly long ago.  The invariant
therefore says of *every* record of a reachable store what the argument needs
(`Vetted`), so a stale record is as good as a fresh one, and the interleaving does
not matter: the contract is `Contract.ofInvariant`.

**Proved here.**

    the invariant survives the two kinds of write          (`Contained.upsert`, `.remove`)
    what a passed validation says                          (`_validate_user_update_triple`)
    every request keeps the invariant                      (`program_triple`)
    privilege containment, over all runs                   (`privilege_contained`)
-/
import CortxCsm.Users

namespace CortxCsm

/-! ## Levels -/

/-- The bound on the acting users' roles. -/
inductive Level
  | monitor
  | manage
  deriving DecidableEq

/-- The roles up to the level. -/
def Level.atMost : Level → List String
  | .monitor => [CSM_MONITOR_ROLE]
  | .manage => [CSM_MONITOR_ROLE, CSM_MANAGE_ROLE]

/-- The roles above it. -/
def Level.above : Level → List String
  | .monitor => [CSM_MANAGE_ROLE, CSM_SUPER_USER_ROLE]
  | .manage => [CSM_SUPER_USER_ROLE]

/-- The user's role is above the level. -/
def User.Above (level : Level) (user : User) : Prop := user.user_role ∈ level.above

theorem admin_above {level : Level} {user : User} (h : user.user_role = CSM_SUPER_USER_ROLE) :
    user.Above level := by
  show user.user_role ∈ level.above
  rw [h]
  cases level <;> decide

theorem manage_above {user : User} (h : user.user_role = CSM_MANAGE_ROLE) : user.Above .monitor := by
  show user.user_role ∈ Level.monitor.above
  rw [h]
  decide

theorem not_above_of_atMost {level : Level} {role : String} (h : role ∈ level.atMost) :
    role ∉ level.above := by
  cases level with
  | monitor =>
      rw [Level.atMost, List.mem_singleton] at h
      subst h
      decide
  | manage =>
      simp only [Level.atMost, List.mem_cons, List.not_mem_nil, or_false] at h
      rcases h with rfl | rfl <;> decide

/-- A known role other than admin is not above manage. -/
theorem atMost_manage {role : String} (h : role ∈ CSM_USER_ROLES) (hne : role ≠ CSM_SUPER_USER_ROLE) :
    role ∈ Level.manage.atMost := by
  simp only [CSM_USER_ROLES, List.mem_cons, List.not_mem_nil, or_false] at h
  rcases h with rfl | rfl | rfl
  · exact absurd rfl hne
  · decide
  · decide

/-- A monitor may not create users. -/
theorem monitor_cannot_create :
    ¬ predefined_roles.Grants CSM_MONITOR_ROLE "users" "create" := by
  rintro ⟨permissions, hp, actions, ha, hmem⟩
  have hp' : predefined_roles.get? CSM_MONITOR_ROLE = some monitor_permissions := rfl
  cases hp'.symm.trans hp
  have ha' : monitor_permissions.get? "users" = some ["list", "update", "delete"] := rfl
  cases ha'.symm.trans ha
  exact absurd hmem (by decide)

/-! ## Requests -/

section Containment

variable [Runtime]

/-- The id of the acting user. -/
def UserCall.actor : UserCall → Option String
  | .create_user _ _ _ creator_id _ => creator_id
  | .update_user _ _ loggedin_user_id => some loggedin_user_id
  | .delete_user _ loggedin_user_id => some loggedin_user_id

/-- An update or delete request made by the user of that id. -/
def UserCall.ModifiesAs : UserCall → String → Prop
  | .create_user _ _ _ _ _, _ => False
  | .update_user _ _ loggedin_user_id, user_id => lower loggedin_user_id = lower user_id
  | .delete_user _ loggedin_user_id, user_id => lower loggedin_user_id = lower user_id

/-- Whoever acts has a role up to the level. -/
def UserCall.ActsUpTo (level : Level) (users : UserStore) (call : UserCall) : Prop :=
  ∀ user_id ∈ call.actor, ∀ user ∈ users, lower user.user_id = lower user_id →
    user.user_role ∈ level.atMost

instance (level : Level) (users : UserStore) (call : UserCall) :
    Decidable (call.ActsUpTo level users) :=
  inferInstanceAs (Decidable (∀ user_id ∈ call.actor, ∀ user ∈ users,
    lower user.user_id = lower user_id → user.user_role ∈ level.atMost))

/-- `create_user` is reached only with the permission the view requires. -/
def UserCall.MayCreate (users : UserStore) : UserCall → Prop
  | .create_user _ _ _ creator_id _ => ∀ user_id ∈ creator_id, ∀ user ∈ users,
      lower user.user_id = lower user_id → predefined_roles.Grants user.user_role "users" "create"
  | _ => True

/-- `user` differs from `old` at most in what a user may change of its own record. -/
structure OwnFieldsOnly (old user : User) : Prop where
  user_id : user.user_id = old.user_id
  user_type : user.user_type = old.user_type
  user_role : user.user_role = old.user_role
  alert_notification : user.alert_notification = old.alert_notification
  created_time : user.created_time = old.created_time

/-! ## The invariant -/

/-- The store `users`, reached from `s₀`; `acted` are the users who have made a request of
their own. -/
structure Contained (level : Level) (acted : User → Prop) (s₀ users : UserStore) : Prop where
  kept : ∀ p ∈ s₀, p.Above level → p ∈ users
  only : ∀ user ∈ users, user.Above level → user ∈ s₀
  apart : ∀ user ∈ users, ∀ p ∈ s₀, p.Above level → lower user.user_id = lower p.user_id → user = p
  origin : level = .monitor → ∀ user ∈ users,
    ∃ old ∈ s₀, OwnFieldsOnly old user ∧ (user = old ∨ acted old)
  present : level = .monitor → ∀ old ∈ s₀, old ∈ users ∨ acted old

/-- What the invariant says of one record. -/
structure Vetted (level : Level) (s₀ : UserStore) (user : User) : Prop where
  only : user.Above level → user ∈ s₀
  apart : ∀ p ∈ s₀, p.Above level → lower user.user_id = lower p.user_id → user = p
  origin : level = .monitor → ∃ old ∈ s₀, OwnFieldsOnly old user

variable {level : Level} {acted : User → Prop} {s₀ users : UserStore}

theorem Contained.vetted (h : Contained level acted s₀ users) {user : User} (hu : user ∈ users) :
    Vetted level s₀ user where
  only := h.only user hu
  apart := h.apart user hu
  origin hl := by
    obtain ⟨old, hold, hown, _⟩ := h.origin hl user hu
    exact ⟨old, hold, hown⟩

theorem Contained.init (hids : ∀ u ∈ s₀, ∀ v ∈ s₀, lower u.user_id = lower v.user_id → u = v) :
    Contained level acted s₀ s₀ where
  kept _ hp _ := hp
  only _ hu _ := hu
  apart user hu p hp _ h := hids user hu p hp h
  origin _ user hu := ⟨user, hu, ⟨rfl, rfl, rfl, rfl, rfl⟩, Or.inl rfl⟩
  present _ _ hold := Or.inl hold

/-- Saving a record that is not above the level and is nobody's above it. -/
theorem Contained.upsert (h : Contained level acted s₀ users) {user : User}
    (hlow : ¬ user.Above level)
    (hapart : ∀ p ∈ s₀, p.Above level → lower user.user_id ≠ lower p.user_id)
    (horigin : level = .monitor → ∃ old ∈ s₀, OwnFieldsOnly old user ∧ acted old) :
    Contained level acted s₀ (users.upsert user) where
  kept p hp ha :=
    Table.mem_upsert.mpr (Or.inr ⟨h.kept p hp ha, fun e => hapart p hp ha (by rw [e])⟩)
  only x hx ha := by
    rcases Table.mem_upsert.mp hx with rfl | ⟨hx, _⟩
    · exact absurd ha hlow
    · exact h.only x hx ha
  apart x hx p hp ha he := by
    rcases Table.mem_upsert.mp hx with rfl | ⟨hx, _⟩
    · exact absurd he (hapart p hp ha)
    · exact h.apart x hx p hp ha he
  origin hl x hx := by
    rcases Table.mem_upsert.mp hx with rfl | ⟨hx, _⟩
    · obtain ⟨old, hold, hown, hacted⟩ := horigin hl
      exact ⟨old, hold, hown, Or.inr hacted⟩
    · exact h.origin hl x hx
  present hl old hold := by
    obtain ⟨old', hold', hown, hacted⟩ := horigin hl
    by_cases he : old.user_id = user.user_id
    · rw [Table.eq_of_key hold hold' (he.trans hown.user_id)]
      exact Or.inr hacted
    · exact (h.present hl old hold).imp_left fun hm => Table.mem_upsert.mpr (Or.inr ⟨hm, he⟩)

/-- Deleting a record of nobody above the level. -/
theorem Contained.remove (h : Contained level acted s₀ users) {user_id : String}
    (hapart : ∀ p ∈ s₀, p.Above level → p.user_id ≠ user_id)
    (hacted : level = .monitor → ∀ old ∈ s₀, old.user_id = user_id → acted old) :
    Contained level acted s₀ (users.remove user_id) where
  kept p hp ha := Table.mem_remove.mpr ⟨h.kept p hp ha, hapart p hp ha⟩
  only x hx ha := h.only x (Table.mem_remove.mp hx).1 ha
  apart x hx p hp ha he := h.apart x (Table.mem_remove.mp hx).1 p hp ha he
  origin hl x hx := h.origin hl x (Table.mem_remove.mp hx).1
  present hl old hold := by
    by_cases he : old.user_id = user_id
    · exact Or.inr (hacted hl old hold he)
    · exact (h.present hl old hold).imp_left fun hm => Table.mem_remove.mpr ⟨hm, he⟩

/-- An acting user is not above the level. -/
theorem Vetted.not_above {user : User} (h : Vetted level s₀ user) {call : UserCall}
    (hcall : call.ActsUpTo level s₀) {user_id : String} (hid : user_id ∈ call.actor)
    (he : lower user.user_id = lower user_id) : ¬ user.Above level := by
  intro ha
  exact not_above_of_atMost (hcall user_id hid user (h.only ha) he) ha

/-- At the level monitor an acting user is a monitor. -/
theorem Vetted.monitor {user : User} (h : Vetted .monitor s₀ user) {call : UserCall}
    (hcall : call.ActsUpTo .monitor s₀) {user_id : String} (hid : user_id ∈ call.actor)
    (he : lower user.user_id = lower user_id) :
    ∃ old ∈ s₀, lower old.user_id = lower user_id ∧ old.user_role = CSM_MONITOR_ROLE := by
  obtain ⟨old, hold, hown⟩ := h.origin rfl
  have hlower : lower old.user_id = lower user_id := by rw [← hown.user_id, he]
  exact ⟨old, hold, hlower, List.mem_singleton.mp (hcall user_id hid old hold hlower)⟩

/-! ## Operations -/

namespace Privilege

open CsmUserService

section Triples

variable {ι : Type} {cfg : Settings} {i : ι}

/-- The contract: the invariant, whatever the others do. -/
abbrev contained (ι : Type) (level : Level) (acted : User → Prop) (s₀ : UserStore) :
    Contract ι Op Op.Ans State Exc Unit :=
  .ofInvariant ι Op Op.Ans Exc fun s => Contained level acted s₀ s.users

/-- What a look-up says of its result. -/
def Found (level : Level) (s₀ : UserStore) (user_id : String) : Option User → Prop
  | none => ∀ p ∈ s₀, p.Above level → lower p.user_id ≠ lower user_id
  | some user => Vetted level s₀ user ∧ lower user.user_id = lower user_id

theorem get_triple {purpose : Purpose} {user_id : String} :
    (contained ι level acted s₀).Triple cfg.machine i (fun _ => True) (UserManager.get purpose user_id)
      (fun user _ => Found level s₀ user_id user) (fun _ _ => True) := by
  refine (Contract.Triple.callInvariant
    (V := fun all_users => Found level s₀ user_id (UserManager.search all_users user_id))
    (p := True) ?_).bind fun all_users => .ret fun _ _ h => h
  intro s r s' h _ he
  simp only [Settings.machine, exec, Option.some.injEq, Prod.mk.injEq] at he
  obtain ⟨rfl, rfl⟩ := he
  refine ⟨h, fun all_users hr => ?_⟩
  cases hr
  cases hs : UserManager.search s.users.rows user_id with
  | none => exact fun p hp ha => UserManager.search_none hs p (h.kept p hp ha)
  | some user =>
      have hfound := UserManager.search_some hs
      exact ⟨h.vetted hfound.1, hfound.2⟩

/-- An operation that changes no user. -/
theorem keep_triple {op : Op}
    (hop : ∀ s r s', exec cfg.backend op s = some (r, s') → s'.users = s.users) :
    (contained ι level acted s₀).Triple cfg.machine i (fun _ => True) (Coro.call op)
      (fun _ _ => True) (fun _ _ => True) := by
  refine Contract.Triple.callInvariant (V := fun _ => True) (p := True) ?_
  intro s r s' h _ he
  refine ⟨?_, fun _ _ => trivial⟩
  show Contained level acted s₀ s'.users
  rw [hop s r s' he]
  exact h

theorem user_store_triple {user : User} (hlow : ¬ user.Above level)
    (hapart : ∀ p ∈ s₀, p.Above level → lower user.user_id ≠ lower p.user_id)
    (horigin : level = .monitor → ∃ old ∈ s₀, OwnFieldsOnly old user ∧ acted old) :
    (contained ι level acted s₀).Triple cfg.machine i (fun _ => True)
      (Coro.call (Op.user_store user)) (fun _ _ => True) (fun _ _ => True) := by
  refine Contract.Triple.callInvariant (V := fun _ => True) (p := True) ?_
  intro s r s' h _ he
  simp only [Settings.machine, exec, Option.some.injEq, Prod.mk.injEq] at he
  obtain ⟨-, rfl⟩ := he
  exact ⟨h.upsert hlow hapart horigin, fun _ _ => trivial⟩

theorem user_delete_triple {user_id : String}
    (hapart : ∀ p ∈ s₀, p.Above level → p.user_id ≠ user_id)
    (hacted : level = .monitor → ∀ old ∈ s₀, old.user_id = user_id → acted old) :
    (contained ι level acted s₀).Triple cfg.machine i (fun _ => True)
      (UserManager.delete user_id) (fun _ _ => True) (fun _ _ => True) := by
  refine Contract.Triple.callInvariant (V := fun _ => True) (p := True) ?_
  intro s r s' h _ he
  simp only [Settings.machine, exec, Option.some.injEq, Prod.mk.injEq] at he
  obtain ⟨-, rfl⟩ := he
  exact ⟨h.remove hapart hacted, fun _ _ => trivial⟩

theorem count_admins_triple :
    (contained ι level acted s₀).Triple cfg.machine i (fun _ => True) UserManager.count_admins
      (fun _ _ => True) (fun _ _ => True) := by
  refine keep_triple fun s r s' he => ?_
  simp only [exec, Option.some.injEq, Prod.mk.injEq] at he
  rw [he.2]

/-! ## Methods -/

/-- Only one's own record can be deleted, unless by an admin. -/
theorem delete_user_triple {user_id loggedin_user_id : String}
    (hacts : (UserCall.delete_user user_id loggedin_user_id).ActsUpTo level s₀)
    (hacted : ∀ old ∈ s₀, lower loggedin_user_id = lower old.user_id → acted old) :
    (contained ι level acted s₀).Triple cfg.machine i (fun _ => True)
      (delete_user user_id loggedin_user_id) (fun _ _ => True) (fun _ _ => True) := by
  refine get_triple.bind fun user => .of_fact (fun _ _ h => h) fun huser => ?_
  cases user with
  | none => exact .raise fun _ _ _ => trivial
  | some user =>
      refine Contract.Triple.bind (S := fun _ _ => True) ?_ fun _ => ?_
      · unfold checkLastAdmin
        split
        · refine (count_admins_triple.pre fun _ _ _ => trivial).bind fun num_admins => ?_
          exact .raiseIf (fun _ _ _ _ => trivial) fun _ _ _ _ => trivial
        · exact .ret fun _ _ _ => trivial
      · refine get_triple.bind fun loggedin_user => .of_fact (fun _ _ h => h) fun hlogged => ?_
        cases loggedin_user with
        | none => exact .raise fun _ _ _ => trivial
        | some loggedin_user =>
            refine .guard (fun _ _ _ _ => trivial) fun hself => ?_
            have hlow := hlogged.1.not_above hacts (Option.mem_def.mpr rfl) hlogged.2
            have hsame : lower user_id = lower loggedin_user_id := by
              by_contra hne
              exact hself ⟨fun hadmin => hlow (admin_above hadmin), hne⟩
            have hown : lower loggedin_user_id = lower user.user_id :=
              hsame.symm.trans huser.2.symm
            refine Contract.Triple.bind (S := fun _ _ => True)
              ((user_delete_triple ?_ ?_).pre fun _ _ _ => trivial)
              fun _ => .ret fun _ _ _ => trivial
            · intro p hp ha he
              refine not_above_of_atMost (hacts _ (Option.mem_def.mpr rfl) p hp ?_) ha
              rw [he, hown]
            · intro _ old hold he
              exact hacted old hold (by rw [he, hown])

/-- A role change by someone who is no admin is not to admin, and not by a monitor. -/
theorem checkRoleChange_triple {user loggedin_user : User} {role : String}
    (hlow : loggedin_user.user_role ≠ CSM_SUPER_USER_ROLE) :
    (contained ι level acted s₀).Triple cfg.machine i (fun _ => True)
      (checkRoleChange user loggedin_user role)
      (fun _ _ => role ≠ CSM_SUPER_USER_ROLE ∧ loggedin_user.user_role = CSM_MANAGE_ROLE)
      (fun _ _ => True) := by
  refine (allowed_triple fun _ _ _ => trivial).bind fun allowed =>
    .of_fact (fun _ _ h => h.2) fun hrule => ?_
  refine .guard (fun _ _ _ _ => trivial) fun hallowed => ?_
  rw [if_neg hlow]
  refine .raiseIf (fun _ _ _ _ => trivial) fun hne _ _ _ => ⟨hne, ?_⟩
  obtain ⟨rule, hrule, rfl⟩ := hrule
  rcases role_rule hrule (by simpa using hallowed) with h | ⟨h, _⟩
  · exact absurd h hlow
  · exact h

omit [Runtime] in
/-- Whom the first table lets a user up to the level update: those up to it, and a monitor only
himself. -/
theorem updates_atMost {user loggedin_user : User} {rule : UpdateUserRule}
    (hrule : CSM_USER_PASSWD_UPDATE_RULES.rule loggedin_user.user_role user.user_role = some rule)
    (happlies : rule.apply (decide (user.user_id = loggedin_user.user_id)) = true)
    (hlow : ¬ loggedin_user.Above level) :
    user.user_role ∈ level.atMost ∧
      (level = .monitor → user.user_id = loggedin_user.user_id) := by
  rcases passwd_rule hrule happlies with h | ⟨h, hu⟩ | ⟨_, hu, hself⟩
  · exact absurd (admin_above h) hlow
  · cases level with
    | monitor => exact absurd (manage_above h) hlow
    | manage =>
        refine ⟨?_, nofun⟩
        rcases hu with hu | hu <;> rw [hu] <;> decide
  · refine ⟨?_, fun _ => by simpa using hself⟩
    rw [hu]
    cases level <;> decide

/-- A new role is not admin, and comes from a manager. -/
theorem checkRole_triple {user loggedin_user : User} {new_values : UserPatch}
    (hnotAdmin : loggedin_user.user_role ≠ CSM_SUPER_USER_ROLE) :
    (contained ι level acted s₀).Triple cfg.machine i (fun _ => True)
      (checkRole user loggedin_user new_values.user_role)
      (fun _ _ => ∀ role ∈ new_values.user_role,
        role ≠ CSM_SUPER_USER_ROLE ∧ loggedin_user.user_role = CSM_MANAGE_ROLE)
      (fun _ _ => True) := by
  unfold checkRole
  split
  · rename_i hnone
    exact .ret fun _ _ _ role hrole => nomatch hnone.symm.trans hrole
  · rename_i role hsome
    split
    · rename_i hempty
      have hknown := new_values.role_known role hsome
      rw [hempty] at hknown
      exact absurd hknown (by decide)
    · refine ((checkRoleChange_triple hnotAdmin).pre fun _ _ _ => trivial).weaken ?_
        fun _ _ _ _ => trivial
      intro _ _ _ h role' hrole'
      cases hsome.symm.trans hrole'
      exact h

/-- What a passed validation says of the record that is saved. -/
theorem _validate_user_update_triple {user loggedin_user : User} {new_values : UserPatch}
    (stamp : Stamp) (hlow : ¬ loggedin_user.Above level) :
    (contained ι level acted s₀).Triple cfg.machine i (fun _ => True)
      (_validate_user_update user loggedin_user new_values)
      (fun _ _ => ¬ user.Above level ∧ ¬ (updated user new_values stamp).Above level ∧
        (level = .monitor →
          user.user_id = loggedin_user.user_id ∧ new_values.user_role = none))
      (fun _ _ => True) := by
  have hnotAdmin : loggedin_user.user_role ≠ CSM_SUPER_USER_ROLE :=
    fun h => hlow (admin_above h)
  have hnotManage : level = .monitor → loggedin_user.user_role ≠ CSM_MANAGE_ROLE := by
    intro hl h
    subst hl
    exact hlow (manage_above h)
  refine (allowed_triple fun _ _ _ => trivial).bind fun allowed =>
    .of_fact (fun _ _ h => h.2) fun hrule => ?_
  refine .guard (fun _ _ _ _ => trivial) fun hallowed => ?_
  obtain ⟨rule, hrule, rfl⟩ := hrule
  have hwho := updates_atMost hrule (by simpa using hallowed) hlow
  refine ((checkRole_triple hnotAdmin).pre fun _ _ _ => trivial).bind fun _ => ?_
  refine checkCurrentPassword_triple.weaken ?_ fun _ _ _ _ => trivial
  intro _ _ _ hrole
  refine ⟨not_above_of_atMost hwho.1, ?_, fun hl => ⟨hwho.2 hl, ?_⟩⟩
  · show new_values.user_role.getD user.user_role ∉ level.above
    cases hr : new_values.user_role with
    | none => exact not_above_of_atMost hwho.1
    | some role =>
        have h := hrole role hr
        cases level with
        | monitor => exact absurd h.2 (hnotManage rfl)
        | manage => exact not_above_of_atMost (atMost_manage (new_values.role_known role hr) h.1)
  · cases hr : new_values.user_role with
    | none => rfl
    | some role => exact absurd (hrole role hr).2 (hnotManage hl)

theorem update_user_triple {stamp : Stamp} {user_id : String} {new_values : UserPatch}
    {loggedin_user_id : String}
    (hacts : (UserCall.update_user user_id new_values loggedin_user_id).ActsUpTo level s₀)
    (hacted : ∀ old ∈ s₀, lower loggedin_user_id = lower old.user_id → acted old) :
    (contained ι level acted s₀).Triple cfg.machine i (fun _ => True)
      (update_user stamp user_id new_values loggedin_user_id) (fun _ _ => True)
      (fun _ _ => True) := by
  refine get_triple.bind fun user => .of_fact (fun _ _ h => h) fun huser => ?_
  cases user with
  | none => exact .raise fun _ _ _ => trivial
  | some user =>
      refine (get_triple.pre fun _ _ _ => trivial).bind fun loggedin_user =>
        .of_fact (fun _ _ h => h) fun hlogged => ?_
      cases loggedin_user with
      | none => exact .raise fun _ _ _ => trivial
      | some loggedin_user =>
          have hlow := hlogged.1.not_above hacts (Option.mem_def.mpr rfl) hlogged.2
          refine ((_validate_user_update_triple stamp hlow).pre fun _ _ _ => trivial).bind
            fun _ => .of_fact (fun _ _ h => h) fun ⟨huserLow, hnew, hmonitor⟩ => ?_
          refine Contract.Triple.bind (S := fun _ _ => True)
            ((user_store_triple hnew ?_ ?_).pre fun _ _ _ => trivial)
            fun _ => .ret fun _ _ _ => trivial
          · intro p hp ha he
            exact huserLow (huser.1.apart p hp ha he ▸ ha)
          · intro hl
            obtain ⟨hself, hrole⟩ := hmonitor hl
            obtain ⟨old, hold, hown⟩ := huser.1.origin hl
            refine ⟨old, hold, ⟨hown.user_id, hown.user_type, ?_, hown.alert_notification,
              hown.created_time⟩, hacted old hold ?_⟩
            · show new_values.user_role.getD user.user_role = old.user_role
              rw [hrole]
              exact hown.user_role
            · rw [← hlogged.2, ← hself, hown.user_id]

/-- The creator is a stored user, found under the id of the request. -/
theorem creatorOf_triple {creator_id : Option String} :
    (contained ι level acted s₀).Triple cfg.machine i (fun _ => True) (creatorOf creator_id)
      (fun creator _ => ∀ user ∈ creator, ∃ id ∈ creator_id, Found level s₀ id (some user))
      (fun _ _ => True) := by
  unfold creatorOf
  split
  · exact .ret fun _ _ _ user hu => nomatch hu
  · rename_i id
    split
    · exact .ret fun _ _ _ user hu => nomatch hu
    · refine get_triple.weaken (fun creator _ _ h user hu => ⟨id, rfl, ?_⟩) fun _ _ _ _ => trivial
      rw [Option.mem_def.mp hu] at h
      exact h

/-- A user who is not above the level is stored under an id of his own. -/
theorem manager_create_triple {user : User} (hlow : ¬ user.Above level) (hmanage : level = .manage) :
    (contained ι level acted s₀).Triple cfg.machine i (fun _ => True) (UserManager.create user)
      (fun _ _ => True) (fun _ _ => True) := by
  refine get_triple.bind fun existing_user => .of_fact (fun _ _ h => h) fun hexisting => ?_
  cases existing_user with
  | some existing_user => exact .raise fun _ _ _ => trivial
  | none =>
      refine (user_store_triple hlow ?_ ?_).pre fun _ _ _ => trivial
      · exact fun p hp ha he => hexisting p hp ha he.symm
      · intro hl
        exact nomatch hmanage.symm.trans hl

theorem createUnderLock_triple {users_quota : Int} {stamp : Stamp} {user_id password role : String}
    {creator_id : Option String} {email : String}
    (hacts : (UserCall.create_user user_id password role creator_id email).ActsUpTo level s₀)
    (hmay : (UserCall.create_user user_id password role creator_id email).MayCreate s₀) :
    (contained ι level acted s₀).Triple cfg.machine i (fun _ => True)
      (createUnderLock users_quota stamp user_id password role creator_id email)
      (fun _ _ => True) (fun _ _ => True) := by
  refine creatorOf_triple.bind fun creator => .of_fact (fun _ _ h => h) fun hcreator => ?_
  cases creator with
  | none => exact .raise fun _ _ _ => trivial
  | some creator =>
      obtain ⟨id, hid, hvetted, hlower⟩ := hcreator creator rfl
      have hlow := hvetted.not_above hacts hid hlower
      refine .guard (fun _ _ _ _ => trivial) fun hrole => ?_
      -- at the level monitor the creator would be a monitor
      have hmanage : level = .manage := by
        cases level with
        | manage => rfl
        | monitor =>
            obtain ⟨old, hold, he, hmonitor⟩ := hvetted.monitor hacts hid hlower
            exact absurd (hmonitor ▸ hmay id hid old hold he) monitor_cannot_create
      have hnew : role ≠ CSM_SUPER_USER_ROLE :=
        fun h => hrole ⟨h, fun ha => hlow (admin_above ha)⟩
      refine Contract.Triple.bind (S := fun _ _ => True)
        ((keep_triple ?_).pre fun _ _ _ => trivial) fun existing_users_count => ?_
      · intro s r s' he
        simp only [exec, Option.some.injEq, Prod.mk.injEq] at he
        rw [he.2]
      · refine .guard (fun _ _ _ _ => trivial) fun _ => ?_
        refine Contract.Triple.bind (S := fun _ _ => True) (manager_create_triple ?_ hmanage)
          fun _ => .ret fun _ _ _ => trivial
        subst hmanage
        exact fun h => hnew (List.mem_singleton.mp h)

theorem create_user_triple {users_quota : Int} {stamp : Stamp} {user_id password role : String}
    {creator_id : Option String} {email : String}
    (hacts : (UserCall.create_user user_id password role creator_id email).ActsUpTo level s₀)
    (hmay : (UserCall.create_user user_id password role creator_id email).MayCreate s₀) :
    (contained ι level acted s₀).Triple cfg.machine i (fun _ => True)
      (create_user users_quota stamp user_id password role creator_id email)
      (fun _ _ => True) (fun _ _ => True) := by
  have hrelease : (contained ι level acted s₀).Triple cfg.machine i (fun _ => True) lock_release
      (fun _ _ => True) (fun _ _ => True) :=
    .write fun w x h _ => ⟨(), h, fun _ _ => trivial, trivial⟩
  refine Contract.Triple.bind (S := fun _ _ => True) ?_ fun _ => ?_
  · refine keep_triple fun s r s' he => ?_
    simp only [exec] at he
    split at he
    · cases he
    · cases he
      rfl
  · refine Contract.Triple.bind (S := fun _ _ => True) (.ensure (createUnderLock_triple hacts hmay)
      (fun _ => hrelease) fun _ => hrelease) fun _ => .ret fun _ _ _ => trivial

/-- Every request keeps the invariant. -/
theorem program_triple {call : UserCall} {stamp : Stamp} (hacts : call.ActsUpTo level s₀)
    (hmay : call.MayCreate s₀)
    (hacted : ∀ old ∈ s₀, call.ModifiesAs old.user_id → acted old) :
    (contained ι level acted s₀).Triple cfg.machine i (fun _ => True) (call.program cfg stamp)
      (fun _ _ => True) (fun _ _ => True) := by
  cases call with
  | create_user => exact .map (create_user_triple hacts hmay)
  | update_user => exact .map (update_user_triple hacts hacted)
  | delete_user => exact .map (delete_user_triple hacts hacted)

/-- **Privilege containment.**  In every state of every run, the users above the level of
those who act are the initial ones, unchanged; at the level monitor no id is added, and a
record has changed, only in the user's own fields, or is gone, only if that user asked. -/
theorem privilege_contained [DecidableEq ι] (level : Level) (cfg : Settings) (stamps : ι → Stamp)
    (calls : ι → UserCall) (s : State)
    (hids : ∀ u ∈ s.users, ∀ v ∈ s.users, lower u.user_id = lower v.user_id → u = v)
    (hacts : ∀ i, (calls i).ActsUpTo level s.users) (hmay : ∀ i, (calls i).MayCreate s.users)
    (as : List (Act ι Time)) :
    let users :=
      (Config.run cfg.machine (UserCall.programs cfg stamps calls) (.start s) as).state.users
    (∀ user : User, user.Above level → (user ∈ users ↔ user ∈ s.users)) ∧
      (level = .monitor →
        (∀ user ∈ users, ∃ old ∈ s.users, OwnFieldsOnly old user ∧
          (user = old ∨ ∃ i, (calls i).ModifiesAs old.user_id)) ∧
        ∀ old ∈ s.users, old ∈ users ∨ ∃ i, (calls i).ModifiesAs old.user_id) := by
  intro users
  let acted : User → Prop := fun old => ∃ i, (calls i).ModifiesAs old.user_id
  have htriple : ∀ i, (contained ι level acted s.users).Triple cfg.machine i (fun _ => True)
      (UserCall.programs cfg stamps calls i) (fun _ _ => True) (fun _ _ => True) :=
    fun i => program_triple (hacts i) (hmay i) fun old _ h => ⟨i, h⟩
  have hinv : Contained level acted s.users users :=
    Contract.ofInvariant_run (I := fun s' : State => Contained level acted s.users s'.users)
      (Contained.init hids) (fun _ _ h => h) htriple as
  refine ⟨fun user ha => ⟨fun hu => hinv.only user hu ha, fun hu => hinv.kept user hu ha⟩, ?_⟩
  exact fun hl => ⟨hinv.origin hl, hinv.present hl⟩

end Triples

end Privilege

end Containment

/-! ## A monitor and an admin's account -/

namespace Privilege

/-- A monitor who tries to take the admin's account. -/
def takeOver : Unit → UserCall := fun _ => .update_user "root" (.ofEmail "bob@csm") "bob"

/-- An admin and a monitor. -/
def adminAndMonitor : State :=
  .fresh ⟨[sampleUser "root" CSM_SUPER_USER_ROLE, sampleUser "bob" CSM_MONITOR_ROLE], by decide⟩

/-- The admin's record stays. -/
theorem privilege_contained_takeOver :
    sampleUser "root" CSM_SUPER_USER_ROLE ∈
      (Config.run (sampleSettings .database 0 0 .blank).machine
        (UserCall.programs (sampleSettings .database 0 0 .blank) (fun _ => ⟨"", 0, 0⟩) takeOver)
        (.start adminAndMonitor) (List.replicate 9 (.run ()))).state.users :=
  ((privilege_contained .monitor (sampleSettings .database 0 0 .blank) (fun _ => ⟨"", 0, 0⟩)
    takeOver adminAndMonitor (by decide) (fun () => by decide) (fun _ => trivial)
    (List.replicate 9 (.run ()))).1 _ (admin_above rfl)).mpr (by decide)

end Privilege

end CortxCsm
