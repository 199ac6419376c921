/-
# `CortxCsm.Sessions` — `csm/core/services/sessions.py`

`QuotaSessionManager`, authentication, and `LoginService`.

`_add_active_user_with_quota` and `_restore_active_users` call each other.  The
flag is set before the restore starts and is never cleared, so the nested call
does not restore again; `addActiveUser` is the body with the restore as a
parameter, and `_add_active_user_with_quota` is that body twice.

Code between two awaits is a run of `sync` nodes (`Coro.read`, `Coro.write`) and
therefore one step of a schedule.
-/
import CortxCsm.Users

namespace CortxCsm

variable [Runtime] (cfg : Settings)

/-! ## `SessionManager` -/

namespace SessionManager

/-- `timedelta(minutes=60)`. -/
def _expiry_interval : Time := 60 * 60 * 1000000

def calc_expiry_time : Prog Time := Coro.read fun s => s.clock + _expiry_interval

/-- `uuid.uuid4().hex`. -/
def _generate_sid : Prog String :=
  Coro.sync (fun s => { s with drawn := s.drawn + 1 }) fun s => .ret (cfg.uuid4 s.drawn)

/-- `Session.is_expired`. -/
def is_expired (session : Session) : Prog Bool :=
  Coro.read fun s => decide (s.clock > session.expiry_time)

def create (credentials : LocalCredentials) (permissions : PermissionSet) : Prog Session := do
  let session_id ← _generate_sid cfg
  let expiry_time ← calc_expiry_time
  let session : Session := ⟨session_id, expiry_time, credentials, permissions⟩
  Coro.call (Op.session_store .create session)
  return session

def get (session_id : String) : Prog (Option Session) := Coro.call (Op.session_get session_id)

def get_all (caller : Caller) : Prog (List Session) := Coro.call (Op.session_get_all caller)

def update (session : Session) : Prog Unit := Coro.call (Op.session_store .update session)

end SessionManager

/-! ## `QuotaSessionManager` -/

namespace QuotaSessionManager

open SessionManager

/-- `_remove_active_user`, on the counters. -/
def removeActiveUser (active : Dict String Nat) (user_id : String) : Dict String Nat :=
  match (active.get? user_id).getD 0 with
  | 0 => active
  | 1 => active.pop user_id
  | n + 2 => active.set user_id (n + 1)

def _remove_active_user (user_id : String) : Prog Unit :=
  Coro.write fun s => { s with _active_users := removeActiveUser s._active_users user_id }

def delete (session_id : String) : Prog Unit := do
  let session ← get session_id
  match session with
  | none => throw .attributeError
  | some session => do
      Coro.call (Op.session_delete session_id)
      _remove_active_user session.credentials.user_id

omit [Runtime] in
/-- What `delete` does, over either backend. -/
theorem delete_solo (session_id : String) (s : State) :
    (delete session_id).solo cfg.machine s =
      match s.sessions.find? session_id with
      | none => some (.error .attributeError, s)
      | some session => some (.ok (), { s with
          sessions := s.sessions.remove session_id
          _active_users := removeActiveUser s._active_users session.credentials.user_id }) := by
  unfold delete SessionManager.get
  rw [Coro.solo_call_bind]
  simp only [Settings.machine, exec]
  cases h : s.sessions.find? session_id with
  | none => rfl
  | some session =>
      have hdel : cfg.backend.delete s.sessions session_id =
          (.ok (), s.sessions.remove session_id) :=
        Backend.delete_of_stored ⟨session, Table.find?_eq_some.mp h⟩
      dsimp only
      rw [Coro.solo_call_bind]
      simp only [exec, hdel]
      rfl

/-- One iteration of the sweep: `if s.is_expired(): await self.delete(s.session_id)`. -/
def deleteIfExpired (session : Session) : Prog Unit := do
  let expired ← is_expired session
  if expired then delete session.session_id else return ()

def _remove_expired_sessions : Prog Unit := do
  let sessions ← get_all ._remove_expired_sessions
  sessions.forM deleteIfExpired

/-- `if not self._active_users_restored: …`. -/
def restoreOnce (restore : Prog Unit) : Prog Unit := do
  let restored ← Coro.read State._active_users_restored
  if restored then return ()
  else do
    Coro.write fun s => { s with _active_users_restored := true }
    restore

/-- Try to free space by removing expired sessions. -/
def reclaim : Prog Unit := do
  let active_users ← Coro.read fun s => s._active_users.len
  if (active_users : Int) ≥ cfg.active_users_quota then _remove_expired_sessions else return ()

/-- The decision, and the new counter. -/
def admitUser (user_id : String) : Prog Bool := do
  let active ← Coro.read State._active_users
  let user_sessions := (active.get? user_id).getD 0
  if (active.len : Int) > cfg.active_users_quota then return false
  else if (active.len : Int) = cfg.active_users_quota ∧ user_sessions = 0 then return false
  else do
    Coro.write fun s => { s with _active_users := s._active_users.set user_id (user_sessions + 1) }
    return true

/-- The body of `_add_active_user_with_quota`. -/
def addActiveUser (restore : Prog Unit) (user_id : String) : Prog Bool :=
  if cfg.active_users_quota ≤ 0 then return true
  else do
    restoreOnce restore
    reclaim cfg
    admitUser cfg user_id

/-- One iteration of the restore, `add` being the nested call. -/
def restoreSession (add : String → Prog Bool) (session : Session) : Prog Unit := do
  let expired ← is_expired session
  if expired then delete session.session_id
  else do
    let _ ← add session.credentials.user_id
    return ()

def _restore_active_users (add : String → Prog Bool) : Prog Unit := do
  let sessions ← get_all ._restore_active_users
  sessions.forM (restoreSession add)

/-- The nested call: the flag is set, so its own restore is never reached. -/
def addRestored (user_id : String) : Prog Bool := addActiveUser cfg (return ()) user_id

def _add_active_user_with_quota (user_id : String) : Prog Bool :=
  addActiveUser cfg (_restore_active_users (addRestored cfg)) user_id

def create (credentials : LocalCredentials) (permissions : PermissionSet) : Prog Session := do
  let admitted ← _add_active_user_with_quota cfg credentials.user_id
  if admitted then SessionManager.create cfg credentials permissions
  else throw (.csm (csmPermissionDenied (some "Active users quota is reached")
    PERMISSION_DENIED_ERROR none))

end QuotaSessionManager

/-! ## Authentication -/

inductive AuthPolicy
  | local_
  | ldap
  | s3

/-- `UserType` values and their policies. -/
def AuthService._policies (user_type : String) : Option AuthPolicy :=
  if user_type = "csm" then some .local_
  else if user_type = "ldap" then some .ldap
  else if user_type = "s3_account" then some .s3
  else none

/-- Only the local policy ever issues credentials. -/
def AuthPolicy.authenticate (policy : AuthPolicy) (user : User) (password : Str) :
    Prog (Option LocalCredentials) :=
  match policy with
  | .local_ => do
      let ok ← Passwd.verify password user.user_password
      return if ok then some ⟨user.user_id, user.user_role⟩ else none
  | .ldap => return none
  | .s3 => return none

def AuthService.authenticate (user : User) (password : Str) : Prog (Option LocalCredentials) :=
  match AuthService._policies user.user_type with
  | some policy => policy.authenticate user password
  | none => return none

/-- The password is the user's, as `authenticate` sees it. -/
def Authentic (user : User) (password : Str) : Prop :=
  AuthService._policies user.user_type = some .local_ ∧
    ∃ text hashed, password.encode = some text ∧ user.user_password = some hashed ∧
      checkpw text hashed = some true

/-- Credentials are issued exactly for the right password; otherwise `None` is returned, or
the stored text raises. -/
theorem authenticate_cases (user : User) (password : Str) :
    (Authentic user password ∧ AuthService.authenticate user password =
      .ret (some ⟨user.user_id, user.user_role⟩)) ∨
    (¬ Authentic user password ∧ (AuthService.authenticate user password = .ret none ∨
      ∃ e, AuthService.authenticate user password = .raise e)) := by
  unfold Authentic AuthService.authenticate
  cases hpolicy : AuthService._policies user.user_type with
  | none => exact Or.inr ⟨(fun h => nomatch h.1), Or.inl rfl⟩
  | some policy =>
      cases policy with
      | ldap => exact Or.inr ⟨(fun h => nomatch h.1), Or.inl rfl⟩
      | s3 => exact Or.inr ⟨(fun h => nomatch h.1), Or.inl rfl⟩
      | local_ =>
          dsimp only [AuthPolicy.authenticate, Passwd.verify]
          cases htext : password.encode with
          | none =>
              refine Or.inr ⟨?_, Or.inr ⟨.valueError, rfl⟩⟩
              rintro ⟨_, text, _, h, _⟩
              cases h
          | some text =>
              cases hhash : user.user_password with
              | none =>
                  refine Or.inr ⟨?_, Or.inr ⟨.attributeError, rfl⟩⟩
                  rintro ⟨_, _, hashed, _, h, _⟩
                  cases h
              | some hashed =>
                  dsimp only
                  cases hcheck : checkpw text hashed with
                  | none =>
                      refine Or.inr ⟨?_, Or.inr ⟨.valueError, rfl⟩⟩
                      rintro ⟨_, _, _, h, h', hok⟩
                      cases h
                      cases h'
                      exact absurd (hcheck.symm.trans hok) (by simp)
                  | some ok =>
                      cases ok with
                      | true => exact Or.inl ⟨⟨rfl, text, hashed, rfl, rfl, hcheck⟩, rfl⟩
                      | false =>
                          refine Or.inr ⟨?_, Or.inl rfl⟩
                          rintro ⟨_, _, _, h, h', hok⟩
                          cases h
                          cases h'
                          exact absurd (hcheck.symm.trans hok) (by simp)

/-- Authentication touches nothing shared, and issues the user's own credentials. -/
theorem authenticate_triple {ι Γ : Type} {K : Contract ι Op Op.Ans State Exc Γ}
    {M : Machine Op Op.Ans State Exc Time} {i : ι} {user : User} {password : Str}
    {P : World ι Op Op.Ans State Exc × Γ → Prop}
    {E : Exc → World ι Op Op.Ans State Exc × Γ → Prop}
    (hE : ∀ e a, K.inv a.1 a.2 → P a → E e a) :
    K.Triple M i P (AuthService.authenticate user password)
      (fun credentials a => P a ∧ ∀ c ∈ credentials, c = ⟨user.user_id, user.user_role⟩) E := by
  unfold AuthService.authenticate
  split
  · rename_i policy _
    cases policy with
    | local_ =>
        refine Contract.Triple.bind (S := fun _ => P) (Passwd.verify_triple hE) fun ok => ?_
        cases ok with
        | true => exact .ret fun _ _ hp => ⟨hp, fun c hc => (Option.some.inj hc).symm⟩
        | false => exact .ret fun _ _ hp => ⟨hp, fun c hc => nomatch hc⟩
    | ldap => exact .ret fun _ _ hp => ⟨hp, fun c hc => nomatch hc⟩
    | s3 => exact .ret fun _ _ hp => ⟨hp, fun c hc => nomatch hc⟩
  · exact .ret fun _ _ hp => ⟨hp, fun c hc => nomatch hc⟩

/-! ## `LoginService` -/

namespace LoginService

open SessionManager

/-- The session with its expiry time refreshed, as the caller's object shows it. -/
def update_session_expiry_time (session : Session) : Prog Session := do
  let expiry_time ← calc_expiry_time
  assignExpiry cfg.backend session.session_id expiry_time
  update { session with expiry_time := expiry_time }
  return { session with expiry_time := expiry_time }

/-- The loop of `_is_valid_session_exists`. -/
def findValid (user_id : String) : List Session → Prog (Option Session)
  | [] => return none
  | each_session :: rest =>
      if lower each_session.credentials.user_id = lower user_id then do
        let expired ← is_expired each_session
        if expired then do
          QuotaSessionManager.delete each_session.session_id
          findValid user_id rest
        else do
          let refreshed ← update_session_expiry_time cfg each_session
          return some refreshed
      else findValid user_id rest

def _is_valid_session_exists (user_id : String) : Prog (Option Session) := do
  let session_data ← get_all ._is_valid_session_exists
  findValid cfg user_id session_data

/-- Find the session to return, or create it. -/
def sessionFor (user_id : String) (user : User) (credentials : LocalCredentials) :
    Prog Session := do
  let session ← _is_valid_session_exists cfg user_id
  match session with
  | some session => return session
  | none =>
      QuotaSessionManager.create cfg credentials (cfg.role_manager.effective [user.user_role])

/-- `login`: the session id and the body, or `(None, None)`. -/
def login (user_id : String) (password : Str) : Prog (Option (String × Option Bool)) := do
  let user ← UserManager.get .record user_id
  match user with
  | none => return none
  | some user => do
      let credentials ← AuthService.authenticate user password
      match credentials with
      | none => return none
      | some credentials => do
          let session ← sessionFor cfg user_id user credentials
          return some (session.session_id, user.reset_password)

def logout (session_id : String) : Prog Unit := QuotaSessionManager.delete session_id

def invalidSession (session_id : String) : Exc :=
  .csm (csmError CSM_ERR_INVALID_VALUE s!"Invalid session id: {session_id}")

def sessionExpired : Exc := .csm (csmError CSM_ERR_INVALID_VALUE "Session expired")

def auth_session (session_id : String) : Prog Session := do
  let session ← get session_id
  match session with
  | none => throw (invalidSession session_id)
  | some session => do
      -- Check Expiry Time
      let expired ← is_expired session
      if expired then do
        QuotaSessionManager.delete session_id
        throw sessionExpired
      else do
        -- Refresh Expiry Time
        let expiry_time ← calc_expiry_time
        assignExpiry cfg.backend session_id expiry_time
        return { session with expiry_time := expiry_time }

omit [Runtime] in
/-- What `auth_session` does: it accepts a session that is stored and has not expired, and
removes one that has. -/
theorem auth_session_solo (session_id : String) (s : State) :
    (auth_session cfg session_id).solo cfg.machine s =
      match s.sessions.find? session_id with
      | none => some (.error (invalidSession session_id), s)
      | some session =>
          if s.clock > session.expiry_time then
            some (.error sessionExpired, { s with
              sessions := s.sessions.remove session_id
              _active_users := QuotaSessionManager.removeActiveUser s._active_users
                session.credentials.user_id })
          else some (.ok { session with expiry_time := s.clock + _expiry_interval },
            expiryAssigned cfg.backend session_id (s.clock + _expiry_interval) s) := by
  unfold auth_session SessionManager.get
  rw [Coro.solo_call_bind]
  simp only [Settings.machine, exec]
  cases h : s.sessions.find? session_id with
  | none => rfl
  | some session =>
      dsimp only
      show (if decide (s.clock > session.expiry_time) = true then _ else _ : Prog Session).solo _ s =
        _
      by_cases hexpired : s.clock > session.expiry_time
      · rw [if_pos (decide_eq_true hexpired), if_pos hexpired]
        show ((QuotaSessionManager.delete session_id).bind _).solo cfg.machine s = _
        rw [Coro.solo_bind, QuotaSessionManager.delete_solo, h]
        rfl
      · rw [if_neg (by simpa using hexpired), if_neg hexpired]
        rfl

/-- One iteration of `delete_all_sessions_for_user`. -/
def deleteIfOwned (user_id : String) (each_session : Session) : Prog Unit :=
  if lower each_session.credentials.user_id = lower user_id then
    QuotaSessionManager.delete each_session.session_id
  else return ()

def delete_all_sessions_for_user (user_id : String) : Prog Unit := do
  let session_data ← get_all .delete_all_sessions_for_user
  session_data.forM (deleteIfOwned user_id)

def delete_all_sessions (session_id : String) : Prog Unit := do
  let session_data ← get session_id
  match session_data with
  | some session_data => delete_all_sessions_for_user session_data.credentials.user_id
  | none => QuotaSessionManager.delete session_id

end LoginService

/-- `CsmUsersView.delete`. -/
def CsmUsersView.delete (user_id loggedin_user_id : String) : Prog String := do
  let resp ← CsmUserService.delete_user user_id loggedin_user_id
  LoginService.delete_all_sessions_for_user user_id
  return resp

/-! ## Requests -/

/-- A call of `QuotaSessionManager`. -/
inductive QuotaCall
  | create (credentials : LocalCredentials) (permissions : PermissionSet)
  | delete (session_id : String)
  | _remove_expired_sessions

def QuotaCall.program : QuotaCall → Prog Response
  | .create credentials permissions =>
      .session <$> QuotaSessionManager.create cfg credentials permissions
  | .delete session_id => (fun _ => .done) <$> QuotaSessionManager.delete session_id
  | ._remove_expired_sessions => (fun _ => .done) <$> QuotaSessionManager._remove_expired_sessions

/-- A call of `LoginService`, or an expiry sweep. -/
inductive LoginCall
  | login (user_id : String) (password : Str)
  | logout (session_id : String)
  | auth_session (session_id : String)
  | delete_all_sessions (session_id : String)
  | delete_all_sessions_for_user (user_id : String)
  | _remove_expired_sessions

/-- `(None, None)` or the session id and the body. -/
def Response.ofLogin : Option (String × Option Bool) → Response
  | none => .login none none
  | some (session_id, reset_password) => .login (some session_id) reset_password

def LoginCall.program : LoginCall → Prog Response
  | .login user_id password => .ofLogin <$> LoginService.login cfg user_id password
  | .logout session_id => (fun _ => .done) <$> LoginService.logout session_id
  | .auth_session session_id => .session <$> LoginService.auth_session cfg session_id
  | .delete_all_sessions session_id =>
      (fun _ => .done) <$> LoginService.delete_all_sessions session_id
  | .delete_all_sessions_for_user user_id =>
      (fun _ => .done) <$> LoginService.delete_all_sessions_for_user user_id
  | ._remove_expired_sessions => (fun _ => .done) <$> QuotaSessionManager._remove_expired_sessions

/-- A request to `CsmUsersView.delete`, or to the login view. -/
inductive AccountCall
  | delete (user_id loggedin_user_id : String)
  | login (user_id : String) (password : Str)

def AccountCall.isDelete : AccountCall → Bool
  | .delete _ _ => true
  | .login _ _ => false

def AccountCall.program : AccountCall → Prog Response
  | .delete user_id loggedin_user_id => .message <$> CsmUsersView.delete user_id loggedin_user_id
  | .login user_id password => .ofLogin <$> LoginService.login cfg user_id password

end CortxCsm
