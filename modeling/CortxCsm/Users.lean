/-
# `CortxCsm.Users` — `csm/core/services/users.py`

`UserManager`, the two rule tables, and the three state-changing methods of
`CsmUserService`.  The methods are written with the source's control flow: what
is read, in which order and under which condition decides what an interleaving
can do.

`bcrypt.gensalt()` and the `datetime.now()` of a timestamp are drawn once per
request here (`Stamp`); both are only ever stored.

A PATCH body reaches `update_user` through `CsmUserPatchSchema`
(`csm/core/controllers/users.py`), its only caller; `UserPatch` is what that
schema loads, with what it has checked as fields.
-/
import CortxCsm.Storage

namespace CortxCsm

def USERS_MSG_USER_NOT_FOUND : String := "users_not_found"
def USERS_MSG_PERMISSION_DENIED : String := "user_permission_denied"
def USERS_MSG_ALREADY_EXISTS : String := "users_already_exists"
def USERS_MSG_UPDATE_NOT_ALLOWED : String := "update_not_allowed"

/-! ## The rules of an update -/

inductive UpdateUserRule
  | NONE
  | ALL
  | SELF
  | OTHERS
  deriving DecidableEq

def UpdateUserRule.apply (rule : UpdateUserRule) (self_update : Bool) : Bool :=
  match rule with
  | .NONE => false
  | .ALL => true
  | .SELF => self_update
  | .OTHERS => !self_update

/-- A rule for the role of the logged-in user and the role of the updated one. -/
abbrev UpdateRules := Dict String (Dict String UpdateUserRule)

/-- The row of one role: what it may do to admins, managers and monitors. -/
def ruleRow (admin manage monitor : UpdateUserRule) : Dict String UpdateUserRule where
  rows := [(CSM_SUPER_USER_ROLE, admin), (CSM_MANAGE_ROLE, manage), (CSM_MONITOR_ROLE, monitor)]
  nodup := show CSM_USER_ROLES.Nodup by decide

def ruleTable (admin manage monitor : Dict String UpdateUserRule) : UpdateRules where
  rows := [(CSM_SUPER_USER_ROLE, admin), (CSM_MANAGE_ROLE, manage), (CSM_MONITOR_ROLE, monitor)]
  nodup := show CSM_USER_ROLES.Nodup by decide

def CSM_USER_PASSWD_UPDATE_RULES : UpdateRules :=
  ruleTable (ruleRow .ALL .ALL .ALL) (ruleRow .NONE .ALL .ALL) (ruleRow .NONE .NONE .SELF)

def CSM_USER_ROLE_UPDATE_RULES : UpdateRules :=
  ruleTable (ruleRow .ALL .ALL .ALL) (ruleRow .NONE .OTHERS .ALL) (ruleRow .NONE .NONE .NONE)

/-- `RULES[loggedin_user_role][user_role]`, `none` where a key is missing. -/
def UpdateRules.rule (rules : UpdateRules) (loggedin_user_role user_role : String) :
    Option UpdateUserRule :=
  (rules.get? loggedin_user_role).bind fun row => row.get? user_role

/-- `RULES[loggedin_user_role][user_role].apply(self_update)`. -/
def UpdateRules.allowed (rules : UpdateRules) (loggedin_user user : User) : Prog Bool :=
  match rules.rule loggedin_user.user_role user.user_role with
  | none => throw .keyError
  | some rule => return rule.apply (user.user_id = loggedin_user.user_id)

theorem ruleTable_rule {admin manage monitor : Dict String UpdateUserRule} {a b : String}
    {rule : UpdateUserRule} (h : (ruleTable admin manage monitor).rule a b = some rule) :
    (a = CSM_SUPER_USER_ROLE ∧ admin.get? b = some rule) ∨
      (a = CSM_MANAGE_ROLE ∧ manage.get? b = some rule) ∨
        (a = CSM_MONITOR_ROLE ∧ monitor.get? b = some rule) := by
  obtain ⟨row, hrow, hb⟩ := Option.bind_eq_some_iff.mp h
  have hmem : (a, row) ∈ (ruleTable admin manage monitor).rows := Table.get?_eq_some.mp hrow
  simp only [ruleTable, List.mem_cons, Prod.mk.injEq, List.not_mem_nil, or_false] at hmem
  rcases hmem with ⟨ha, rfl⟩ | ⟨ha, rfl⟩ | ⟨ha, rfl⟩
  · exact Or.inl ⟨ha, hb⟩
  · exact Or.inr (Or.inl ⟨ha, hb⟩)
  · exact Or.inr (Or.inr ⟨ha, hb⟩)

theorem ruleRow_rule {admin manage monitor rule : UpdateUserRule} {b : String}
    (h : (ruleRow admin manage monitor).get? b = some rule) :
    (b = CSM_SUPER_USER_ROLE ∧ rule = admin) ∨ (b = CSM_MANAGE_ROLE ∧ rule = manage) ∨
      (b = CSM_MONITOR_ROLE ∧ rule = monitor) := by
  have hmem : (b, rule) ∈ (ruleRow admin manage monitor).rows := Table.get?_eq_some.mp h
  simpa only [ruleRow, List.mem_cons, Prod.mk.injEq, List.not_mem_nil, or_false] using hmem

/-- Who may update whom. -/
theorem passwd_rule {a b : String} {rule : UpdateUserRule} {self_update : Bool}
    (h : CSM_USER_PASSWD_UPDATE_RULES.rule a b = some rule)
    (hallowed : rule.apply self_update = true) :
    a = CSM_SUPER_USER_ROLE ∨
      (a = CSM_MANAGE_ROLE ∧ (b = CSM_MANAGE_ROLE ∨ b = CSM_MONITOR_ROLE)) ∨
        (a = CSM_MONITOR_ROLE ∧ b = CSM_MONITOR_ROLE ∧ self_update = true) := by
  rcases ruleTable_rule h with ⟨ha, _⟩ | ⟨ha, hb⟩ | ⟨ha, hb⟩
  · exact Or.inl ha
  · rcases ruleRow_rule hb with ⟨_, rfl⟩ | ⟨hb, _⟩ | ⟨hb, _⟩
    · cases hallowed
    · exact Or.inr (Or.inl ⟨ha, Or.inl hb⟩)
    · exact Or.inr (Or.inl ⟨ha, Or.inr hb⟩)
  · rcases ruleRow_rule hb with ⟨_, rfl⟩ | ⟨_, rfl⟩ | ⟨hb', rfl⟩
    · cases hallowed
    · cases hallowed
    · exact Or.inr (Or.inr ⟨ha, hb', hallowed⟩)

/-- Who may change whose role. -/
theorem role_rule {a b : String} {rule : UpdateUserRule} {self_update : Bool}
    (h : CSM_USER_ROLE_UPDATE_RULES.rule a b = some rule)
    (hallowed : rule.apply self_update = true) :
    a = CSM_SUPER_USER_ROLE ∨ (a = CSM_MANAGE_ROLE ∧
      ((b = CSM_MANAGE_ROLE ∧ self_update = false) ∨ b = CSM_MONITOR_ROLE)) := by
  rcases ruleTable_rule h with ⟨ha, _⟩ | ⟨ha, hb⟩ | ⟨_, hb⟩
  · exact Or.inl ha
  · rcases ruleRow_rule hb with ⟨_, rfl⟩ | ⟨hb', rfl⟩ | ⟨hb', _⟩
    · cases hallowed
    · exact Or.inr ⟨ha, Or.inl ⟨hb', by simpa [UpdateUserRule.apply] using hallowed⟩⟩
    · exact Or.inr ⟨ha, Or.inr hb'⟩
  · rcases ruleRow_rule hb with ⟨_, rfl⟩ | ⟨_, rfl⟩ | ⟨_, rfl⟩ <;> cases hallowed

theorem allowed_triple {ι Γ : Type} {K : Contract ι Op Op.Ans State Exc Γ}
    {M : Machine Op Op.Ans State Exc Time} {i : ι} {rules : UpdateRules}
    {loggedin_user user : User} {P : World ι Op Op.Ans State Exc × Γ → Prop}
    {E : Exc → World ι Op Op.Ans State Exc × Γ → Prop}
    (hmissing : ∀ a, K.inv a.1 a.2 → P a → E .keyError a) :
    K.Triple M i P (rules.allowed loggedin_user user)
      (fun allowed a => P a ∧ ∃ rule,
        rules.rule loggedin_user.user_role user.user_role = some rule ∧
          allowed = rule.apply (user.user_id = loggedin_user.user_id)) E := by
  unfold UpdateRules.allowed
  cases h : rules.rule loggedin_user.user_role user.user_role with
  | none => exact .raise hmissing
  | some rule => exact .ret fun _ _ hp => ⟨hp, rule, rfl, rfl⟩

variable [Runtime]

/-! ## `UserManager` -/

namespace UserManager

/-- The first user of the list whose id agrees up to case. -/
def search (all_users : List User) (user_id : String) : Option User :=
  all_users.find? fun user => lower user.user_id = lower user_id

theorem search_some {all_users : List User} {user_id : String} {user : User}
    (h : search all_users user_id = some user) :
    user ∈ all_users ∧ lower user.user_id = lower user_id :=
  ⟨List.mem_of_find?_eq_some h, by simpa using List.find?_some h⟩

theorem search_none {all_users : List User} {user_id : String}
    (h : search all_users user_id = none) : ∀ user ∈ all_users, lower user.user_id ≠ lower user_id :=
  fun user hu => by simpa using List.find?_eq_none.mp h user hu

def get (purpose : Purpose) (user_id : String) : Prog (Option User) := do
  let all_users ← Coro.call (Op.user_get purpose user_id)
  return search all_users user_id

def create (user : User) : Prog Unit := do
  let existing_user ← get .role user.user_id
  match existing_user with
  | some existing_user =>
      throw (.csm (resourceExist s!"User already exists: {existing_user.user_id}"
        USERS_MSG_ALREADY_EXISTS))
  | none => Coro.call (Op.user_store user)

def delete (user_id : String) : Prog Unit := Coro.call (Op.user_delete user_id)

def count : Prog Nat := Coro.call Op.user_count

def count_admins : Prog Nat := Coro.call Op.user_count_admins

def save (user : User) : Prog Unit := Coro.call (Op.user_store user)

end UserManager

/-! ## Records -/

/-- What `gensalt` and `datetime.now` return to a request. -/
structure Stamp where
  salt : String
  created_time : Time
  updated_time : Time

/-- `CsmUserPatchSchema().load(body)`. -/
structure UserPatch where
  current_password : Option String
  password : Option String
  user_role : Option String
  email_address : Option String
  reset_password : Option Bool
  role_known : ∀ role ∈ user_role, role ∈ CSM_USER_ROLES
  sufficient : password.isSome ∨ user_role.isSome ∨ email_address.isSome ∨ reset_password.isSome

/-- The body with an e-mail address only. -/
def UserPatch.ofEmail (email_address : String) : UserPatch where
  current_password := none
  password := none
  user_role := none
  email_address := some email_address
  reset_password := none
  role_known role h := absurd h (Option.not_mem_none role)
  sufficient := Or.inr (Or.inr (Or.inl rfl))

/-- The body with a role only. -/
def UserPatch.ofRole (role : String) (h : role ∈ CSM_USER_ROLES) : UserPatch where
  current_password := none
  password := none
  user_role := some role
  email_address := none
  reset_password := none
  role_known _ hr := Option.mem_some.mp hr ▸ h
  sufficient := Or.inr (Or.inl rfl)

/-- `User.update(new_values)`.  `current_password` becomes an attribute that is no
field of the model, and so is not stored. -/
def User.update (user : User) (new_values : UserPatch) (stamp : Stamp) : User where
  user_id := user.user_id
  user_type := user.user_type
  user_role := new_values.user_role.getD user.user_role
  user_password :=
    match new_values.password with
    | some password => some (hashpw password stamp.salt)
    | none => user.user_password
  email_address := new_values.email_address.getD user.email_address
  reset_password := new_values.reset_password.or user.reset_password
  alert_notification := user.alert_notification
  updated_time := stamp.updated_time
  created_time := user.created_time

/-- `User.instantiate_csm_user(user_id, password, email, role, alert_notification=True)`. -/
def User.instantiate_csm_user (user_id password email role : String) (stamp : Stamp) : User where
  user_id := user_id
  user_type := "csm"
  user_role := role
  user_password := some (hashpw password stamp.salt)
  email_address := email
  reset_password := some false
  alert_notification := true
  updated_time := stamp.updated_time
  created_time := stamp.created_time

/-- A user of that id and role, to run the model with. -/
def sampleUser (user_id user_role : String) : User :=
  .instantiate_csm_user user_id "Seagate@1" "user@csm" user_role ⟨"salt", 0, 0⟩

/-- What `_user_to_dict` shows; its times are texts there. -/
structure UserDict where
  id : String
  username : String
  user_type : String
  role : String
  email : String
  reset_password : Option Bool
  created_time : Time
  updated_time : Time
  alert_notification : Bool
  deriving DecidableEq

def _user_to_dict (user : User) : UserDict where
  id := user.user_id
  username := user.user_id
  user_type := user.user_type
  role := user.user_role
  email := user.email_address
  reset_password := user.reset_password
  created_time := user.created_time
  updated_time := user.updated_time
  alert_notification := user.alert_notification

/-- `Passwd.verify`.  The password is encoded first, and `UnicodeEncodeError` is a
`ValueError`; a user without a password has no hash to encode. -/
def Passwd.verify (password : Str) (hashed : Option String) : Prog Bool :=
  match password.encode, hashed with
  | none, _ => throw .valueError
  | some _, none => throw .attributeError
  | some password, some hashed =>
      match checkpw password hashed with
      | none => throw .valueError
      | some ok => return ok

theorem Passwd.verify_triple {ι Γ : Type} {K : Contract ι Op Op.Ans State Exc Γ}
    {M : Machine Op Op.Ans State Exc Time} {i : ι} {password : Str} {hashed : Option String}
    {P : World ι Op Op.Ans State Exc × Γ → Prop}
    {E : Exc → World ι Op Op.Ans State Exc × Γ → Prop}
    (hE : ∀ e a, K.inv a.1 a.2 → P a → E e a) :
    K.Triple M i P (Passwd.verify password hashed) (fun _ => P) E := by
  unfold Passwd.verify
  split
  · exact .raise (hE _)
  · exact .raise (hE _)
  · split
    · exact .raise (hE _)
    · exact .ret fun _ _ hp => hp

/-! ## `CsmUserService` -/

namespace CsmUserService

/-- The errors of the service, by what they deny. -/
def denied (desc : Option String) (message_id : String) (user_id : Option String) : Exc :=
  .csm (csmPermissionDenied desc message_id user_id)

def notFound (user_id : String) : Exc :=
  .csm (csmNotFoundError (some s!"User does not exist: {user_id}") USERS_MSG_USER_NOT_FOUND)

/-- `await self.user_mgr.get(creator_id) if creator_id else None`. -/
def creatorOf (creator_id : Option String) : Prog (Option User) :=
  match creator_id with
  | none => return none
  | some id => if id = "" then return none else UserManager.get .role id

/-- The body of the `try` of `create_user`. -/
def createUnderLock (users_quota : Int) (stamp : Stamp) (user_id password role : String)
    (creator_id : Option String) (email : String) : Prog User := do
  let creator ← creatorOf creator_id
  match creator with
  | none => throw (denied none PERMISSION_DENIED_ERROR none)
  | some creator => do
      raiseIf (role = CSM_SUPER_USER_ROLE ∧ creator.user_role ≠ CSM_SUPER_USER_ROLE)
        (denied (some "Only admin user can create other admin users")
          PERMISSION_DENIED_ERROR none)
      let existing_users_count ← UserManager.count
      raiseIf ((existing_users_count : Int) ≥ users_quota ∧ users_quota > 0)
        (denied (some "User creation failed. Maximum user limit reached.")
          PERMISSION_DENIED_ERROR none)
      let user := User.instantiate_csm_user user_id password email role stamp
      UserManager.create user
      return user

def create_user (users_quota : Int) (stamp : Stamp) (user_id password role : String)
    (creator_id : Option String) (email : String) : Prog UserDict := do
  lock_acquire
  let user ← (createUnderLock users_quota stamp user_id password role creator_id email).ensure
    lock_release
  return _user_to_dict user

/-- The guard of `delete_user` for an admin. -/
def checkLastAdmin (user : User) (user_id : String) : Prog Unit :=
  if user.user_role = CSM_SUPER_USER_ROLE then do
    let num_admins ← UserManager.count_admins
    raiseIf (num_admins = 1)
      (denied (some "Cannot delete the last admin user") USERS_MSG_PERMISSION_DENIED
        (some user_id))
  else return ()

def delete_user (user_id loggedin_user_id : String) : Prog String := do
  let user ← UserManager.get .role user_id
  match user with
  | none => throw (notFound user_id)
  | some user => do
      checkLastAdmin user user_id
      let loggedin_user ← UserManager.get .role loggedin_user_id
      match loggedin_user with
      | none => throw .attributeError
      | some loggedin_user => do
          raiseIf (loggedin_user.user_role ≠ CSM_SUPER_USER_ROLE ∧
              lower user_id ≠ lower loggedin_user_id)
            (denied (some "Normal user cannot delete other user") USERS_MSG_PERMISSION_DENIED
              (some user_id))
          UserManager.delete user.user_id
          return "User Deleted Successfully."

/-- The additional checks of a role change. -/
def checkRoleChange (user loggedin_user : User) (role : String) : Prog Unit := do
  let allowed ← CSM_USER_ROLE_UPDATE_RULES.allowed loggedin_user user
  raiseIf (allowed = false)
    (denied (some s!"{loggedin_user.user_id} can not update the role for {user.user_id}")
      USERS_MSG_UPDATE_NOT_ALLOWED none)
  if loggedin_user.user_role = CSM_SUPER_USER_ROLE then
    if user.user_id = loggedin_user.user_id then do
      let num_admins ← UserManager.count_admins
      raiseIf (num_admins = 1)
        (denied (some "Cannot change role for the last admin user") USERS_MSG_UPDATE_NOT_ALLOWED
          (some user.user_id))
    else return ()
  else
    raiseIf (role = CSM_SUPER_USER_ROLE)
      (denied (some "Can not update role to admin") USERS_MSG_UPDATE_NOT_ALLOWED none)

/-- `if role:`. -/
def checkRole (user loggedin_user : User) (role : Option String) : Prog Unit :=
  match role with
  | none => return ()
  | some role => if role = "" then return () else checkRoleChange user loggedin_user role

/-- `if self_update and current_password:`. -/
def checkCurrentPassword (user loggedin_user : User) (current_password : Option String) :
    Prog Unit :=
  match current_password with
  | none => return ()
  | some current_password =>
      if user.user_id = loggedin_user.user_id ∧ current_password ≠ "" then do
        let ok ← Passwd.verify current_password user.user_password
        raiseIf (ok = false)
          (denied (some "The current password is not valid") USERS_MSG_UPDATE_NOT_ALLOWED none)
      else return ()

/-- Nothing is awaited for the current password. -/
theorem checkCurrentPassword_triple {ι Γ : Type} {K : Contract ι Op Op.Ans State Exc Γ}
    {M : Machine Op Op.Ans State Exc Time} {i : ι} {user loggedin_user : User}
    {current_password : Option String} {P : World ι Op Op.Ans State Exc × Γ → Prop} :
    K.Triple M i P (checkCurrentPassword user loggedin_user current_password)
      (fun _ => P) (fun _ => P) := by
  unfold checkCurrentPassword
  split
  · exact .ret fun _ _ h => h
  · split
    · refine (Passwd.verify_triple fun _ _ _ h => h).bind fun ok => ?_
      exact .raiseIf (fun _ _ _ h => h) fun _ _ _ h => h
    · exact .ret fun _ _ h => h

/-- The text of the first denial, which depends on whether a password was sent. -/
def denialOf (user loggedin_user : User) (new_values : UserPatch) : String :=
  if new_values.password.any (· ≠ "") then
    s!"{loggedin_user.user_id} can not update the password for {user.user_id}"
  else s!"{loggedin_user.user_id} can not update {user.user_id}"

def _validate_user_update (user loggedin_user : User) (new_values : UserPatch) : Prog Unit := do
  let allowed ← CSM_USER_PASSWD_UPDATE_RULES.allowed loggedin_user user
  raiseIf (allowed = false)
    (denied (some (denialOf user loggedin_user new_values)) USERS_MSG_UPDATE_NOT_ALLOWED none)
  checkRole user loggedin_user new_values.user_role
  checkCurrentPassword user loggedin_user new_values.current_password

/-- The record `update_user` saves. -/
def updated (user : User) (new_values : UserPatch) (stamp : Stamp) : User :=
  { user.update new_values stamp with reset_password := some true }

def update_user (stamp : Stamp) (user_id : String) (new_values : UserPatch)
    (loggedin_user_id : String) : Prog UserDict := do
  let user ← UserManager.get .record user_id
  match user with
  | none => throw (notFound user_id)
  | some user => do
      let loggedin_user ← UserManager.get .role loggedin_user_id
      match loggedin_user with
      | none => throw .attributeError
      | some loggedin_user => do
          _validate_user_update user loggedin_user new_values
          UserManager.save (updated user new_values stamp)
          return _user_to_dict (updated user new_values stamp)

end CsmUserService

/-! ## Requests -/

/-- A call of `CsmUserService`. -/
inductive UserCall
  | create_user (user_id password role : String) (creator_id : Option String) (email : String)
  | update_user (user_id : String) (new_values : UserPatch) (loggedin_user_id : String)
  | delete_user (user_id loggedin_user_id : String)

/-- What a call of any service returns. -/
inductive Response
  | user (d : UserDict)
  | message (text : String)
  | login (session_id : Option String) (reset_password : Option Bool)
  | session (session : Session)
  | done

/-- The coroutine of a call. -/
def UserCall.program (cfg : Settings) (stamp : Stamp) : UserCall → Prog Response
  | .create_user user_id password role creator_id email =>
      .user <$> CsmUserService.create_user cfg.users_quota stamp user_id password role creator_id
        email
  | .update_user user_id new_values loggedin_user_id =>
      .user <$> CsmUserService.update_user stamp user_id new_values loggedin_user_id
  | .delete_user user_id loggedin_user_id =>
      .message <$> CsmUserService.delete_user user_id loggedin_user_id

/-- The coroutines of a family of calls. -/
def UserCall.programs {ι : Type} (cfg : Settings) (stamps : ι → Stamp) (calls : ι → UserCall)
    (i : ι) : Prog Response :=
  (calls i).program cfg (stamps i)

end CortxCsm
