/-
# `CortxCsm.ClusterAdmin` — the first admin, made by `csm_setup config`

`Setup._create_cluster_admin` (`csm/conf/setup.py`) takes a name, a password and an e-mail
from the configuration, and creates that user with the role admin.  With `-f` it first
removes the user that has the name:

| step | finds the user |
| :-- | :-- |
| `usr_mngr.get(cluster_admin_user)` | up to case |
| `usr_mngr.delete(cluster_admin_user)` | by the exact id |
| `create_cluster_admin` | refuses up to case; the handler swallows that |

So a user whose id differs from the name in case only is found, stays, and keeps the admin
from being created, and the run returns as if nothing had happened.  Where there is no such
user the run does what it is for (`Setup.create_cluster_admin_iff`).

The setup is one program and runs alone.  Of the settings that it writes nothing is modelled
but the user store; decryption is a parameter, and so are the classes of characters, which
come with the interpreter.
-/
import CortxCsm.Names
import CortxCsm.Users

namespace CortxCsm

/-- `str.isupper`, `str.islower` and `str.isdigit` of one character. -/
class CharClasses where
  isupper : Char → Bool
  islower : Char → Bool
  isdigit : Char → Bool

/-- The classes of the ASCII characters, to run the model with. -/
instance (priority := low) asciiCharClasses : CharClasses where
  isupper := Char.isUpper
  islower := Char.isLower
  isdigit := Char.isDigit

/-- `const.PASSWORD_SPECIAL_CHARACTER`. -/
def PASSWORD_SPECIAL_CHARACTER : List Char := "!@#$%^&*()_+-=[]\x7b\x7d|'".toList

def PasswordValidator [CharClasses] (password : String) : Validated :=
  let error :=
    (if password.length < 8 then ["Must be more than 8 characters."] else []) ++
    (if !password.toList.any CharClasses.isupper then
      ["Must contain at least one Uppercase Alphabet."] else []) ++
    (if !password.toList.any CharClasses.islower then
      ["Must contain at least one Lowercase Alphabet."] else []) ++
    (if !password.toList.any CharClasses.isdigit then
      ["Must contain at least one Numeric value."] else []) ++
    (if !password.toList.any (· ∈ PASSWORD_SPECIAL_CHARACTER) then
      ["Must include " ++ String.ofList PASSWORD_SPECIAL_CHARACTER ++ "."] else [])
  if error = [] then .ok () else .error ("Password Policy Not Met. " ++ " ".intercalate error)

/-- What is raised before the users are looked at. -/
inductive SetupExc
  | csmSetupError (desc : String)
  | cipherInvalidToken
  | validationError (message : String)
  | attributeError
  | typeError
  deriving DecidableEq

/-- The cluster admin of the configuration, the password encrypted. -/
structure AdminDetails where
  cluster_admin_user : Option String
  cluster_admin_secret : Option String
  cluster_admin_emailid : String

/-- The same, decrypted and accepted. -/
structure ClusterAdmin where
  user : String
  secret : String
  emailid : String

section

variable [Runtime]

namespace CsmUserService

/-- Its result is used as a condition only. -/
def validate_cluster_admin_create (username : String) : Prog Bool := do
  let admins ← UserManager.count_admins
  if admins > 0 then return true
  else
    let user ← UserManager.get .role username
    return user.isSome

def create_cluster_admin (stamp : Stamp) (username password emailid : String) : Prog Unit :=
  UserManager.create
    (User.instantiate_csm_user username password emailid CSM_SUPER_USER_ROLE stamp)

end CsmUserService

namespace Setup

/-- Whether `except ResourceExist` catches it. -/
def isResourceExist : Exc → Bool
  | .csm e => e.cls = .ResourceExist
  | _ => false

/-- A text that is there and not empty. -/
def truthy (text : Option String) : Bool := text.any (· ≠ "")

/-- The part of `_create_cluster_admin` up to the validators.  `decrypt` is
`Security.decrypt` with the keys of the cluster, `none` where it raises
`CipherInvalidToken`. -/
def admin_details [CharClasses] (decrypt : String → Option String) (conf : AdminDetails) :
    Except SetupExc ClusterAdmin :=
  if !(truthy conf.cluster_admin_user || truthy conf.cluster_admin_secret ||
      conf.cluster_admin_emailid ≠ "") then
    .error (.csmSetupError "Cluster admin details  not obtainer from confstore")
  else
    match conf.cluster_admin_secret with
    | none => .error .attributeError
    | some encrypted =>
        match decrypt encrypted with
        | none => .error .cipherInvalidToken
        | some secret =>
            match conf.cluster_admin_user with
            | none => .error .typeError
            | some user =>
                match UserNameValidator user with
                | .error message => .error (.validationError message)
                | .ok () =>
                    match PasswordValidator secret with
                    | .error message => .error (.validationError message)
                    | .ok () => .ok ⟨user, secret, conf.cluster_admin_emailid⟩

/-- The rest of it, which awaits the user store. -/
def create_admin (stamp : Stamp) (admin : ClusterAdmin) (force_action : Bool) : Prog Unit := do
  let created ←
    if force_action then pure false
    else CsmUserService.validate_cluster_admin_create admin.user
  if created then return ()
  else do
    if force_action then
      let user ← UserManager.get .role admin.user
      match user with
      | some _ => UserManager.delete admin.user
      | none => pure ()
    tryCatch (CsmUserService.create_cluster_admin stamp admin.user admin.secret admin.emailid)
      fun e => if isResourceExist e then pure () else throw e

/-- `_create_cluster_admin(force_action)`. -/
def _create_cluster_admin [CharClasses] (decrypt : String → Option String) (stamp : Stamp)
    (conf : AdminDetails) (force_action : Bool) : Except SetupExc (Prog Unit) :=
  (admin_details decrypt conf).map fun admin => create_admin stamp admin force_action

/-! ## What a run leaves -/

/-- A user of the configured name, role, e-mail and password. -/
def IsAdmin (admin : ClusterAdmin) (record : User) : Prop :=
  record.user_id = admin.user ∧ record.user_role = CSM_SUPER_USER_ROLE ∧
    record.email_address = admin.emailid ∧
    ∃ hashed, record.user_password = some hashed ∧ checkpw admin.secret hashed = some true

/-- The admin is there, and the users whose ids differ from his name up to case are as they
were. -/
structure Created (admin : ClusterAdmin) (before after : UserStore) : Prop where
  stored : ∃ record ∈ after, IsAdmin admin record
  others : ∀ record : User, lower record.user_id ≠ lower admin.user →
    (record ∈ after ↔ record ∈ before)

/-- An admin, or a user of that name up to case. -/
def Taken (admin : ClusterAdmin) (users : UserStore) : Prop :=
  (∃ user ∈ users, user.user_role = CSM_SUPER_USER_ROLE) ∨
    ∃ user ∈ users, lower user.user_id = lower admin.user

/-- What is asked of a run: with force the admin is created; without, he is where there is no
admin and no user of his name, and nothing changes where there is. -/
def Provides (admin : ClusterAdmin) (force_action : Bool) (before after : UserStore) : Prop :=
  if force_action then Created admin before after
  else (Taken admin before → after = before) ∧ (¬ Taken admin before → Created admin before after)

/-- Every user of that name up to case has the name. -/
def OneSpelling (admin : ClusterAdmin) (users : UserStore) : Prop :=
  ∀ user ∈ users, lower user.user_id = lower admin.user → user.user_id = admin.user

/-! ## The run -/

/-- The record that is created. -/
def adminRecord (stamp : Stamp) (admin : ClusterAdmin) : User :=
  .instantiate_csm_user admin.user admin.secret admin.emailid CSM_SUPER_USER_ROLE stamp

/-- What `create_cluster_admin` and its handler leave of a store. -/
def afterCreate (stamp : Stamp) (admin : ClusterAdmin) (users : UserStore) : UserStore :=
  match UserManager.search users.rows admin.user with
  | some _ => users
  | none => users.upsert (adminRecord stamp admin)

/-- What the removal before it leaves. -/
def afterRemoval (admin : ClusterAdmin) (users : UserStore) : UserStore :=
  match UserManager.search users.rows admin.user with
  | some _ => users.remove admin.user
  | none => users

theorem isAdmin_adminRecord (stamp : Stamp) (admin : ClusterAdmin) :
    IsAdmin admin (adminRecord stamp admin) :=
  ⟨rfl, rfl, rfl, _, rfl, Runtime.checkpw_hashpw admin.secret stamp.salt⟩

section

variable (cfg : Settings) (stamp : Stamp) (admin : ClusterAdmin) (s : State)

theorem get_solo (user_id : String) :
    (UserManager.get .role user_id).solo cfg.machine s =
      some (.ok (UserManager.search s.users.rows user_id), s) := rfl

theorem create_solo :
    (tryCatch (CsmUserService.create_cluster_admin stamp admin.user admin.secret admin.emailid)
      fun e => if isResourceExist e then pure () else throw e : Prog Unit).solo cfg.machine s =
      some (.ok (), { s with users := afterCreate stamp admin s.users }) := by
  have hcreate : (CsmUserService.create_cluster_admin stamp admin.user admin.secret
      admin.emailid).solo cfg.machine s =
        match UserManager.search s.users.rows admin.user with
        | some existing_user => some (.error (.csm (resourceExist
            s!"User already exists: {existing_user.user_id}" USERS_MSG_ALREADY_EXISTS)), s)
        | none => some (.ok (), { s with users := s.users.upsert (adminRecord stamp admin) }) := by
    refine (Coro.solo_bind_ok (get_solo cfg s admin.user)).trans ?_
    cases UserManager.search s.users.rows admin.user with
    | none => rfl
    | some _ => rfl
  show (Coro.handle _ _).solo _ s = _
  rw [Coro.solo_handle, hcreate, afterCreate]
  cases UserManager.search s.users.rows admin.user with
  | none => rfl
  | some _ => rfl

/-- With force. -/
theorem create_admin_forced : (create_admin stamp admin true).solo cfg.machine s =
    some (.ok (), { s with users := afterCreate stamp admin (afterRemoval admin s.users) }) := by
  refine (Coro.solo_bind_ok (get_solo cfg s admin.user)).trans ?_
  rw [afterRemoval]
  cases UserManager.search s.users.rows admin.user with
  | some _ => exact create_solo cfg stamp admin { s with users := s.users.remove admin.user }
  | none => exact create_solo cfg stamp admin s

/-- Without force. -/
theorem create_admin_unforced : (create_admin stamp admin false).solo cfg.machine s =
    some (.ok (), if 0 < s.users.count User.isAdmin ∨
        (UserManager.search s.users.rows admin.user).isSome then s
      else { s with users := afterCreate stamp admin s.users }) := by
  have hvalidate : (CsmUserService.validate_cluster_admin_create admin.user).solo cfg.machine s =
      some (.ok (decide (0 < s.users.count User.isAdmin ∨
        (UserManager.search s.users.rows admin.user).isSome)), s) := by
    have hcount : UserManager.count_admins.solo cfg.machine s =
        some (.ok (s.users.count User.isAdmin), s) := rfl
    refine (Coro.solo_bind_ok hcount).trans ?_
    by_cases hadmins : 0 < s.users.count User.isAdmin
    · simp only [gt_iff_lt, hadmins, true_or, decide_true]
      rfl
    · simp only [gt_iff_lt, hadmins, false_or]
      refine (Coro.solo_bind_ok (get_solo cfg s admin.user)).trans ?_
      simp only [Bool.decide_eq_true]
      rfl
  refine (Coro.solo_bind_ok hvalidate).trans ?_
  by_cases h : 0 < s.users.count User.isAdmin ∨
      (UserManager.search s.users.rows admin.user).isSome
  · simp only [if_pos h, decide_eq_true h, if_true]
    rfl
  · rw [if_neg h, decide_eq_false h]
    exact create_solo cfg stamp admin s

end

/-! ## The stores -/

section

variable (stamp : Stamp) {admin : ClusterAdmin} {users : UserStore}

/-- A user of that name is found up to case. -/
theorem search_isSome : (UserManager.search users.rows admin.user).isSome ↔
    ∃ user ∈ users, lower user.user_id = lower admin.user := by
  cases h : UserManager.search users.rows admin.user with
  | none =>
      refine iff_of_false Bool.false_ne_true ?_
      rintro ⟨user, hu, hlower⟩
      exact UserManager.search_none h user hu hlower
  | some user => exact iff_of_true rfl ⟨user, UserManager.search_some h⟩

/-- Where no user has that name up to case, the admin is created. -/
theorem created_afterCreate (h : ∀ user ∈ users, lower user.user_id ≠ lower admin.user) :
    Created admin users (afterCreate stamp admin users) := by
  have hsearch : UserManager.search users.rows admin.user = none := by
    by_contra hsome
    obtain ⟨user, hu, hlower⟩ := search_isSome.mp (Option.isSome_iff_ne_none.mpr hsome)
    exact h user hu hlower
  rw [afterCreate, hsearch]
  constructor
  · exact ⟨_, users.self_mem_upsert _, isAdmin_adminRecord stamp admin⟩
  · intro record hrecord
    rw [Table.mem_upsert]
    constructor
    · rintro (rfl | ⟨hmem, -⟩)
      · exact absurd rfl hrecord
      · exact hmem
    · intro hmem
      exact .inr ⟨hmem, fun hid => hrecord (congrArg lower hid)⟩

/-- A user who is left has the name of nobody who is to be removed. -/
theorem mem_afterRemoval {record : User} :
    record ∈ afterRemoval admin users ↔ record ∈ users ∧ record.user_id ≠ admin.user := by
  rw [afterRemoval]
  cases h : UserManager.search users.rows admin.user with
  | some user => exact Table.mem_remove
  | none =>
      refine ⟨fun hmem => ⟨hmem, fun hid => ?_⟩, And.left⟩
      exact UserManager.search_none h record hmem (congrArg lower hid)

/-- Removal and creation, where the name has one spelling. -/
theorem created_forced (h : OneSpelling admin users) :
    Created admin users (afterCreate stamp admin (afterRemoval admin users)) := by
  have hgone : ∀ user ∈ afterRemoval admin users, lower user.user_id ≠ lower admin.user := by
    intro user hu hlower
    obtain ⟨hmem, hid⟩ := mem_afterRemoval.mp hu
    exact hid (h user hmem hlower)
  obtain ⟨hstored, hothers⟩ := created_afterCreate stamp hgone
  refine ⟨hstored, fun record hrecord => (hothers record hrecord).trans ?_⟩
  rw [mem_afterRemoval]
  exact and_iff_left fun hid => hrecord (congrArg lower hid)

/-- Where it has another spelling, the admin is not created. -/
theorem not_created_forced {user : User} (hu : user ∈ users)
    (hlower : lower user.user_id = lower admin.user) (hid : user.user_id ≠ admin.user) :
    ¬ Created admin users (afterCreate stamp admin (afterRemoval admin users)) := by
  have hleft : user ∈ afterRemoval admin users := mem_afterRemoval.mpr ⟨hu, hid⟩
  have hfound : afterCreate stamp admin (afterRemoval admin users) = afterRemoval admin users := by
    rw [afterCreate]
    cases h : UserManager.search (afterRemoval admin users).rows admin.user with
    | some _ => rfl
    | none => exact absurd hlower (UserManager.search_none h user hleft)
  rintro ⟨⟨record, hmem, hname, -⟩, -⟩
  rw [hfound] at hmem
  exact (mem_afterRemoval.mp hmem).2 hname

end

/-- The conditions of `validate_cluster_admin_create` say that the name is taken. -/
theorem taken_iff {admin : ClusterAdmin} {users : UserStore} :
    (0 < users.count User.isAdmin ∨ (UserManager.search users.rows admin.user).isSome) ↔
      Taken admin users := by
  rw [Taken, search_isSome, Table.count, List.countP_pos_iff]
  simp only [User.isAdmin_iff]
  rfl

variable [CharClasses]

omit [Runtime] in
/-- The details that are configured and accepted. -/
theorem admin_details_ok {decrypt : String → Option String} {user encrypted secret emailid : String}
    (huser : UserNameValidator user = .ok ()) (hdecrypt : decrypt encrypted = some secret)
    (hsecret : PasswordValidator secret = .ok ()) :
    admin_details decrypt ⟨some user, some encrypted, emailid⟩ = .ok ⟨user, secret, emailid⟩ := by
  have hgiven : truthy (some user) = true := by
    refine decide_eq_true fun h => ?_
    rw [h] at huser
    revert huser
    decide +kernel
  simp only [admin_details, hgiven, Bool.true_or, Bool.not_true, Bool.false_eq_true, if_false,
    hdecrypt, huser, hsecret]

/-- The run does what it is for exactly when, with force, no stored user has the configured
name in another spelling. -/
theorem create_cluster_admin_iff (cfg : Settings) (decrypt : String → Option String)
    (stamp : Stamp) (user encrypted secret emailid : String) (force_action : Bool) (s : State)
    (huser : UserNameValidator user = .ok ()) (hdecrypt : decrypt encrypted = some secret)
    (hsecret : PasswordValidator secret = .ok ()) :
    (∃ run s', _create_cluster_admin decrypt stamp ⟨some user, some encrypted, emailid⟩
        force_action = .ok run ∧ run.solo cfg.machine s = some (.ok (), s') ∧
        Provides ⟨user, secret, emailid⟩ force_action s.users s'.users) ↔
      (force_action = true → OneSpelling ⟨user, secret, emailid⟩ s.users) := by
  have hrun : _create_cluster_admin decrypt stamp ⟨some user, some encrypted, emailid⟩
      force_action = .ok (create_admin stamp ⟨user, secret, emailid⟩ force_action) := by
    rw [_create_cluster_admin, admin_details_ok huser hdecrypt hsecret]
    rfl
  cases force_action with
  | true =>
      have hsolo := create_admin_forced cfg stamp ⟨user, secret, emailid⟩ s
      constructor
      · rintro ⟨run, s', hrun', hend, hprovides⟩ - record hrecord hlower
        cases hrun.symm.trans hrun'
        cases hsolo.symm.trans hend
        by_contra hid
        exact not_created_forced stamp hrecord hlower hid hprovides
      · intro h
        exact ⟨_, _, hrun, hsolo, created_forced stamp (h rfl)⟩
  | false =>
      have hsolo := create_admin_unforced cfg stamp ⟨user, secret, emailid⟩ s
      refine iff_of_true ⟨_, _, hrun, hsolo, ?_⟩ fun h => by cases h
      constructor
      · intro htaken
        rw [if_pos (taken_iff.mpr htaken)]
      · intro hfree
        rw [if_neg fun h => hfree (taken_iff.mp h)]
        exact created_afterCreate stamp fun record hrecord hlower =>
          hfree (.inr ⟨record, hrecord, hlower⟩)

end Setup

end

namespace Setup

/-- A monitor, and an admin with the name that is configured. -/
def monitorAndAdmin : UserStore :=
  (Table.empty.upsert (sampleUser "alice" CSM_MONITOR_ROLE)).upsert
    (sampleUser "cortxadmin" CSM_SUPER_USER_ROLE)

/-- With force, where the admin is there and is made anew. -/
theorem create_cluster_admin_iff_forced :
    ∃ run s', _create_cluster_admin some ⟨"salt", 0, 0⟩
        ⟨some "cortxadmin", some "Cortxadmin@123", "admin@seagate.com"⟩ true = .ok run ∧
      run.solo (sampleSettings .database 10 10 .blank).machine (.fresh monitorAndAdmin) =
        some (.ok (), s') ∧
      Provides ⟨"cortxadmin", "Cortxadmin@123", "admin@seagate.com"⟩ true monitorAndAdmin
        s'.users := by
  have hspelling : ∀ user ∈ monitorAndAdmin,
      lower user.user_id = lower "cortxadmin" → user.user_id = "cortxadmin" := by decide +kernel
  exact (create_cluster_admin_iff (sampleSettings .database 10 10 .blank) some ⟨"salt", 0, 0⟩
    "cortxadmin" "Cortxadmin@123" "Cortxadmin@123" "admin@seagate.com" true
    (.fresh monitorAndAdmin) (by decide +kernel) rfl (by decide +kernel)).mpr fun _ => hspelling

/-- The store has a monitor whose id is the name with a capital letter: the run returns, and
nobody has the configured name. -/
theorem admin_not_created :
    ∃ run s', _create_cluster_admin some ⟨"salt", 0, 0⟩
        ⟨some "admin", some "Cortxadmin@123", "admin@seagate.com"⟩ true = .ok run ∧
      run.solo (sampleSettings .database 10 10 .blank).machine
          (.fresh (Table.empty.upsert (sampleUser "Admin" CSM_MONITOR_ROLE))) =
        some (.ok (), s') ∧
      ¬ Provides ⟨"admin", "Cortxadmin@123", "admin@seagate.com"⟩ true
        (Table.empty.upsert (sampleUser "Admin" CSM_MONITOR_ROLE)) s'.users := by
  refine ⟨create_admin ⟨"salt", 0, 0⟩ ⟨"admin", "Cortxadmin@123", "admin@seagate.com"⟩ true, _,
    ?_, create_admin_forced _ _ _ _, ?_⟩
  · rw [_create_cluster_admin, admin_details_ok (by decide +kernel) rfl (by decide +kernel)]
    rfl
  · exact not_created_forced ⟨"salt", 0, 0⟩ (Table.self_mem_upsert _ _) (by decide +kernel) (by decide +kernel)

end Setup

end CortxCsm
