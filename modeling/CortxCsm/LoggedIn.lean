/-
# `CortxCsm.LoggedIn` — nobody gets in who has not logged in

All that the agent runs for its users, interleaved in any way: the user service, the login
service, the view that deletes users, and requests that come to a handler through the two
middlewares.  A session that is stored can be traced: it `IsFrom` a login that has read a
record with the password it was given, and that has stored the session itself, with the id
and the role of that record.  No refresh, no other call and no other interleaving makes a
session of another kind, so a request that is handed on was preceded by such a login.

The history of the run is what the tracing is done in; no program reads it.

**Proved here.**

    calls of the user service store no session             (`user_call_aside`)
    what a login stores is from it                         (`login_from`)
    a request is handed on after a login only              (`only_logged_in`)
-/
import CortxCsm.Gate
import CortxCsm.SessionSteps

namespace CortxCsm.LoggedIn

open Contract SessionManager QuotaSessionManager LoginService CsmUserService

section Agent

variable {ι : Type} [Runtime]

/-! ## Calls -/

/-- A call of a service, or a request to a handler. -/
inductive AgentCall
  | user (stamp : Stamp) (call : UserCall)
  | login (call : LoginCall)
  | delete (user_id loggedin_user_id : String)
  | request (conf : String → Option String) (request : Request)

/-- A handler that shows the session it has been handed. -/
def showSession (request : Request) : Prog Response :=
  match request.session with
  | some session => return .session session
  | none => return .done

def AgentCall.program (cfg : Settings) : AgentCall → Prog Response
  | .user stamp call => call.program cfg stamp
  | .login call => call.program cfg
  | .delete user_id loggedin_user_id => .message <$> CsmUsersView.delete user_id loggedin_user_id
  | .request conf r => CsmRestApi.gate cfg conf r showSession

/-! ## Tracing a session -/

/-- The world with nothing else to it. -/
abbrev Traced (ι : Type) : Type := World ι Op Op.Ans State Exc × Unit

/-- Thread `i` has read the record of the user, under that name. -/
def HasRead (name : String) (user : User) (i : ι) (a : Traced ι) : Prop :=
  ∃ before : State, ⟨i, .user_get .record name, before, .ok before.users.rows⟩ ∈ a.1.hist ∧
    UserManager.search before.users.rows name = some user

/-- A login with the right password has read the user's record and stored the session. -/
structure From (cfg : Settings) (calls : ι → AgentCall) (session : Session) (a : Traced ι)
    (i : ι) (name : String) (password : Str) (user : User) : Prop where
  call : calls i = .login (.login name password)
  read : HasRead name user i a
  authentic : Authentic user password
  credentials : session.credentials = ⟨user.user_id, user.user_role⟩
  permissions : session.permissions = cfg.role_manager.effective [user.user_role]
  stored : ∃ before created, ⟨i, .session_store .create created, before, .ok ()⟩ ∈ a.1.hist ∧
    created.session_id = session.session_id

def IsFrom (cfg : Settings) (calls : ι → AgentCall) (session : Session) (a : Traced ι) : Prop :=
  ∃ i name password user, From cfg calls session a i name password user

/-- All stored sessions are from logins; whoever acts adds to the history. -/
def traced (cfg : Settings) (calls : ι → AgentCall) : Contract ι Op Op.Ans State Exc Unit where
  inv w x := ∀ session ∈ w.state.sessions, IsFrom cfg calls session (w, x)
  rely _ a b := ∀ e ∈ a.1.hist, e ∈ b.1.hist
  may _ _ _ := True
  refl _ _ _ he := he
  trans _ _ _ _ hab hbc e he := hbc e (hab e he)

section Tracing

variable {cfg : Settings} {calls : ι → AgentCall} {i : ι} {a b : Traced ι} {session : Session}

theorem HasRead.later {name : String} {user : User} (h : HasRead name user i a)
    (hr : ∀ e ∈ a.1.hist, e ∈ b.1.hist) : HasRead name user i b := by
  obtain ⟨before, hmem, hfound⟩ := h
  exact ⟨before, hr _ hmem, hfound⟩

theorem IsFrom.later (h : IsFrom cfg calls session a) (hr : ∀ e ∈ a.1.hist, e ∈ b.1.hist) :
    IsFrom cfg calls session b := by
  obtain ⟨i, name, password, user, hfrom⟩ := h
  refine ⟨i, name, password, user, hfrom.call, hfrom.read.later hr, hfrom.authentic,
    hfrom.credentials, hfrom.permissions, ?_⟩
  obtain ⟨before, created, hmem, hid⟩ := hfrom.stored
  exact ⟨before, created, hr _ hmem, hid⟩

/-- The same session, whatever its expiry time. -/
theorem IsFrom.same {other : Session} (h : IsFrom cfg calls session a)
    (hid : other.session_id = session.session_id)
    (hcredentials : other.credentials = session.credentials)
    (hpermissions : other.permissions = session.permissions) : IsFrom cfg calls other a := by
  obtain ⟨i, name, password, user, hfrom⟩ := h
  refine ⟨i, name, password, user, hfrom.call, hfrom.read, hfrom.authentic,
    hcredentials.trans hfrom.credentials, hpermissions.trans hfrom.permissions, ?_⟩
  rw [hid]
  exact hfrom.stored

/-! ## Operations -/

/-- `P` only speaks of what is in the history. -/
def Growing (P : Traced ι → Prop) : Prop :=
  ∀ a b : Traced ι, P a → (∀ e ∈ a.1.hist, e ∈ b.1.hist) → P b

theorem Growing.stable {P : Traced ι → Prop} (hP : Growing P) : (traced cfg calls).Stable i P :=
  fun a b h hr => hP a b h hr

/-- An operation that stores nothing new, and what its answer shows. -/
theorem op_triple {op : Op} {P : Traced ι → Prop} {R : op.Ans → Traced ι → Prop}
    (hP : Growing P) (hR : ∀ v, Growing (R v))
    (hop : ∀ (w : World ι Op Op.Ans State Exc) r s', exec cfg.backend op w.state = some (r, s') →
      (∀ session ∈ w.state.sessions, IsFrom cfg calls session (w, ())) → P (w, ()) →
        (∀ session ∈ s'.sessions, IsFrom cfg calls session (w.answer i op r s', ())) ∧
          ∀ v, r = .ok v → R v (w.answer i op r s', ())) :
    (traced cfg calls).Triple cfg.machine i P (Coro.call op) R fun _ => P := by
  refine .call hP.stable (fun v => (hR v).stable) (fun _ => hP.stable) ?_
  intro w x r s' hinv hp _ he
  have hgrows : ∀ e ∈ w.hist, e ∈ (w.answer i op r s').hist :=
    fun e he => List.mem_append_left _ he
  obtain ⟨hsessions, hok⟩ := hop w r s' he hinv hp
  refine ⟨(), hsessions, fun _ _ => hgrows, ?_⟩
  cases r with
  | ok v => exact hok v rfl
  | error e => exact hP _ _ hp hgrows

/-- Whatever is stored afterwards was stored before. -/
theorem quiet_triple {op : Op} {P : Traced ι → Prop} (hP : Growing P)
    (hop : ∀ s r s', exec cfg.backend op s = some (r, s') →
      ∀ session ∈ s'.sessions, session ∈ s.sessions) :
    (traced cfg calls).Triple cfg.machine i P (Coro.call op) (fun _ => P) fun _ => P := by
  refine op_triple hP (fun _ => hP) fun w r s' he hinv hp => ?_
  have hgrows : ∀ e ∈ w.hist, e ∈ (w.answer i op r s').hist :=
    fun e he => List.mem_append_left _ he
  exact ⟨fun session hs => (hinv session (hop _ _ _ he session hs)).later hgrows,
    fun _ _ => hP _ _ hp hgrows⟩

/-- Code between two awaits that stores nothing new. -/
theorem sync_triple {u : State → State} {P : Traced ι → Prop} (hP : Growing P)
    (hu : ∀ s, ∀ session ∈ (u s).sessions, ∃ y ∈ s.sessions,
      session.session_id = y.session_id ∧ session.credentials = y.credentials ∧
        session.permissions = y.permissions) :
    (traced cfg calls).Triple cfg.machine i P (Coro.write u) (fun _ => P) fun _ => P := by
  refine .write fun w x hinv hp => ⟨(), fun session hs => ?_, fun _ _ _ he => he, ?_⟩
  · obtain ⟨y, hy, hid, hcredentials, hpermissions⟩ := hu w.state session hs
    exact ((hinv y hy).same hid hcredentials hpermissions).later fun _ he => he
  · exact hP _ _ hp fun _ he => he

/-! ## The user service -/

abbrev Anything (_ : Traced ι) : Prop := True

omit [Runtime] in
theorem Growing.anything : Growing (Anything (ι := ι)) := fun _ _ _ _ => trivial

/-- A program that leaves the contract alone. -/
abbrev Aside (cfg : Settings) (calls : ι → AgentCall) (i : ι) {α : Type} (p : Prog α) : Prop :=
  (traced cfg calls).Triple cfg.machine i Anything p (fun _ => Anything) fun _ => Anything

omit [Runtime] in
theorem user_op_keeps {b : Backend} {op : Op} {s s' : State} {r : Except Exc op.Ans}
    (hop : ∀ caller session, op ≠ .session_store caller session)
    (he : exec b op s = some (r, s')) : ∀ session ∈ s'.sessions, session ∈ s.sessions := by
  intro session hs
  cases op with
  | session_store caller x => exact absurd rfl (hop caller x)
  | session_delete session_id =>
      cases he
      exact Backend.mem_of_mem_delete hs
  | lock_acquire =>
      simp only [exec] at he
      split at he
      · cases he
      · cases he
        exact hs
  | user_get purpose user_id | user_count | user_count_admins | user_store user
  | user_delete user_id | session_get session_id | session_get_all caller =>
      cases he
      exact hs

theorem op_aside {op : Op} (hop : ∀ caller session, op ≠ .session_store caller session) :
    Aside cfg calls i (Coro.call op) :=
  quiet_triple .anything fun _ _ _ he => user_op_keeps hop he

theorem write_aside {u : State → State} (hu : ∀ s, (u s).sessions = s.sessions) :
    Aside cfg calls i (Coro.write u) :=
  sync_triple .anything fun s session hs => ⟨session, hu s ▸ hs, rfl, rfl, rfl⟩

theorem raise_aside {α : Type} (e : Exc) : Aside cfg calls i (.raise e : Prog α) :=
  .raise fun _ _ h => h

theorem raiseIf_aside {cond : Prop} [Decidable cond] {e : Exc} :
    Aside cfg calls i (raiseIf cond e) :=
  .raiseIf (fun _ _ _ h => h) fun _ _ _ h => h

theorem get_aside {purpose : Purpose} {user_id : String} :
    Aside cfg calls i (UserManager.get purpose user_id) :=
  (op_aside fun _ _ => Op.noConfusion).bind fun _ => .ret fun _ _ h => h

theorem create_user_aside {stamp : Stamp} {user_id password role : String}
    {creator_id : Option String} {email : String} :
    Aside cfg calls i
      (create_user cfg.users_quota stamp user_id password role creator_id email) := by
  have hcreator : Aside cfg calls i (creatorOf creator_id) := by
    cases creator_id with
    | none => exact .ret fun _ _ h => h
    | some id =>
        rw [creatorOf]
        split
        · exact .ret fun _ _ h => h
        · exact get_aside
  have hcreate : ∀ user, Aside cfg calls i (UserManager.create user) := by
    refine fun user => get_aside.bind fun existing_user => ?_
    cases existing_user with
    | some existing_user => exact raise_aside _
    | none => exact op_aside fun _ _ => Op.noConfusion
  have hbody : Aside cfg calls i
      (createUnderLock cfg.users_quota stamp user_id password role creator_id email) := by
    refine hcreator.bind fun creator => ?_
    cases creator with
    | none => exact raise_aside _
    | some creator =>
        refine raiseIf_aside.bind fun _ => ?_
        refine (op_aside fun _ _ => Op.noConfusion).bind fun existing_users_count => ?_
        refine raiseIf_aside.bind fun _ => (hcreate _).bind fun _ => ?_
        exact .ret fun _ _ h => h
  refine Triple.bind (S := fun _ => Anything) (op_aside fun _ _ => Op.noConfusion) fun _ => ?_
  refine Triple.bind (S := fun _ => Anything) ?_ fun _ => .ret fun _ _ h => h
  exact .ensure hbody (fun _ => write_aside fun _ => rfl) fun _ => write_aside fun _ => rfl

theorem checkRoleChange_aside {user loggedin_user : User} {role : String} :
    Aside cfg calls i (checkRoleChange user loggedin_user role) := by
  refine (allowed_triple (E := fun _ => Anything) fun _ _ h => h).bind fun allowed => ?_
  refine .pre (P := Anything) ?_ fun _ _ _ => trivial
  refine raiseIf_aside.bind fun _ => ?_
  split
  · split
    · exact (op_aside fun _ _ => Op.noConfusion).bind fun num_admins => raiseIf_aside
    · exact .ret fun _ _ h => h
  · exact raiseIf_aside

theorem update_user_aside {stamp : Stamp} {user_id : String} {new_values : UserPatch}
    {loggedin_user_id : String} :
    Aside cfg calls i (update_user stamp user_id new_values loggedin_user_id) := by
  refine get_aside.bind fun user => ?_
  cases user with
  | none => exact raise_aside _
  | some user =>
      refine get_aside.bind fun loggedin_user => ?_
      cases loggedin_user with
      | none => exact raise_aside _
      | some loggedin_user =>
          refine Triple.bind (S := fun _ => Anything) ?_ fun _ => ?_
          · refine (allowed_triple (E := fun _ => Anything) fun _ _ h => h).bind fun allowed => ?_
            refine .pre (P := Anything) ?_ fun _ _ _ => trivial
            refine raiseIf_aside.bind fun _ => ?_
            refine Triple.bind (S := fun _ => Anything) ?_ fun _ => checkCurrentPassword_triple
            cases new_values.user_role with
            | none => exact .ret fun _ _ h => h
            | some role =>
                dsimp only [checkRole]
                split
                · exact .ret fun _ _ h => h
                · exact checkRoleChange_aside
          · exact (op_aside fun _ _ => Op.noConfusion).bind fun _ => .ret fun _ _ h => h

theorem delete_user_aside {user_id loggedin_user_id : String} :
    Aside cfg calls i (delete_user user_id loggedin_user_id) := by
  refine get_aside.bind fun user => ?_
  cases user with
  | none => exact raise_aside _
  | some user =>
      have hlast : Aside cfg calls i (checkLastAdmin user user_id) := by
        rw [checkLastAdmin]
        split
        · exact (op_aside fun _ _ => Op.noConfusion).bind fun num_admins => raiseIf_aside
        · exact .ret fun _ _ h => h
      refine hlast.bind fun _ => get_aside.bind fun loggedin_user => ?_
      cases loggedin_user with
      | none => exact raise_aside _
      | some loggedin_user =>
          refine raiseIf_aside.bind fun _ => ?_
          exact (op_aside fun _ _ => Op.noConfusion).bind fun _ => .ret fun _ _ h => h

/-! ## The login service -/

theorem get_all_from {P : Traced ι → Prop} (hP : Growing P) {caller : Caller} :
    (traced cfg calls).Triple cfg.machine i P (get_all caller)
      (fun sessions a => P a ∧ ∀ session ∈ sessions, IsFrom cfg calls session a) fun _ => P := by
  refine op_triple hP (fun sessions a b h hr => ⟨hP a b h.1 hr, fun session hs =>
    (h.2 session hs).later hr⟩) fun w r s' he hinv hp => ?_
  have hgrows : ∀ e ∈ w.hist, e ∈ (w.answer i (.session_get_all caller) r s').hist :=
    fun e he => List.mem_append_left _ he
  cases he
  refine ⟨fun session hs => (hinv session hs).later hgrows, fun v hv => ?_⟩
  cases hv
  exact ⟨hP _ _ hp hgrows, fun session hs => (hinv session hs).later hgrows⟩

theorem get_from {session_id : String} :
    (traced cfg calls).Triple cfg.machine i Anything (SessionManager.get session_id)
      (fun found a => ∀ session ∈ found, session.session_id = session_id ∧
        IsFrom cfg calls session a) fun _ => Anything := by
  refine op_triple .anything (fun found a b h hr session hs => ⟨(h session hs).1,
    (h session hs).2.later hr⟩) fun w r s' he hinv _ => ?_
  have hgrows : ∀ e ∈ w.hist, e ∈ (w.answer i (.session_get session_id) r s').hist :=
    fun e he => List.mem_append_left _ he
  cases he
  refine ⟨fun session hs => (hinv session hs).later hgrows, fun v hv session hs => ?_⟩
  cases hv
  obtain ⟨hstored, hid⟩ := Table.find?_eq_some.mp hs
  exact ⟨hid, (hinv session hstored).later hgrows⟩

theorem delete_keeps {P : Traced ι → Prop} (hP : Growing P) (session_id : String) :
    (traced cfg calls).Triple cfg.machine i P (QuotaSessionManager.delete session_id)
      (fun _ => P) fun _ => P := by
  refine Triple.bind (S := fun _ => P) (quiet_triple hP fun _ _ _ he => ?_) fun found => ?_
  · exact user_op_keeps (fun _ _ => Op.noConfusion) he
  · cases found with
    | none => exact .raise fun _ _ h => h
    | some session =>
        refine Triple.bind (S := fun _ => P) (quiet_triple hP fun _ _ _ he => ?_) fun _ => ?_
        · exact user_op_keeps (fun _ _ => Op.noConfusion) he
        · exact sync_triple hP fun s session hs => ⟨session, hs, rfl, rfl, rfl⟩

theorem quotaSteps {P : Traced ι → Prop} (hP : Growing P) :
    QuotaSteps cfg (traced cfg calls) i P fun _ => P where
  tally u hu := by
    refine sync_triple hP fun s session hs => ?_
    obtain ⟨active, restored, e⟩ := hu s
    rw [e] at hs
    exact ⟨session, hs, rfl, rfl, rfl⟩
  get_all caller := (get_all_from hP).weaken (fun _ _ _ h => h.1) fun _ _ _ h => h
  delete session_id := delete_keeps hP session_id

omit [Runtime] in
/-- The expiry time is all that is assigned. -/
theorem expiryAssigned_same {b : Backend} {session_id : String} {expiry_time : Time} {s : State} :
    ∀ session ∈ (expiryAssigned b session_id expiry_time s).sessions, ∃ y ∈ s.sessions,
      session.session_id = y.session_id ∧ session.credentials = y.credentials ∧
        session.permissions = y.permissions := by
  intro session hs
  unfold expiryAssigned at hs
  split at hs
  · rename_i found hfound
    rcases Table.mem_upsert.mp hs with rfl | ⟨hs, -⟩
    · exact ⟨found, (Table.find?_eq_some.mp hfound).1, rfl, rfl, rfl⟩
    · exact ⟨session, hs, rfl, rfl, rfl⟩
  · exact ⟨session, hs, rfl, rfl, rfl⟩

/-- A session is stored that is from a login. -/
theorem store_from {P : Traced ι → Prop} (hP : Growing P) (caller : Caller) (session : Session)
    (hfrom : ∀ w : World ι Op Op.Ans State Exc, P (w, ()) → ∀ s',
      IsFrom cfg calls session (w.answer i (.session_store caller session) (.ok ()) s', ())) :
    (traced cfg calls).Triple cfg.machine i P (Coro.call (.session_store caller session))
      (fun _ => IsFrom cfg calls session) fun _ => P := by
  refine op_triple hP (fun _ _ _ h hr => h.later hr) fun w r s' he hinv hp => ?_
  simp only [exec, Backend.store_eq, Option.some.injEq, Prod.mk.injEq] at he
  obtain ⟨rfl, rfl⟩ := he
  refine ⟨fun x hx => ?_, fun _ _ => hfrom w hp _⟩
  rcases Table.mem_upsert.mp hx with rfl | ⟨hx, -⟩
  · exact hfrom w hp _
  · exact (hinv x hx).later fun e he => List.mem_append_left _ he

theorem update_from {P : Traced ι → Prop} (hP : Growing P) (session : Session) :
    (traced cfg calls).Triple cfg.machine i (fun a => P a ∧ IsFrom cfg calls session a)
      (update_session_expiry_time cfg session) (IsFrom cfg calls) fun _ => P := by
  have hboth : Growing fun a => P a ∧ IsFrom cfg calls session a :=
    fun a b h hr => ⟨hP a b h.1 hr, h.2.later hr⟩
  refine read_then fun expiry_time => ?_
  refine Triple.bind (S := fun _ a => P a ∧ IsFrom cfg calls session a)
    ((sync_triple hboth fun _ => expiryAssigned_same).weaken (fun _ _ _ h => h)
      fun _ _ _ h => h.1) fun _ => ?_
  refine Triple.bind (S := fun _ => IsFrom cfg calls { session with expiry_time := expiry_time })
    ((store_from hboth .update _ fun w hp s' => ?_).weaken (fun _ _ _ h => h)
      fun _ _ _ h => h.1) fun _ => .ret fun _ _ h => h
  exact (hp.2.later fun e he => List.mem_append_left _ he).same rfl rfl rfl

/-- What a login stores is from it. -/
theorem create_from {name : String} {password : Str} {user : User}
    (hcall : calls i = .login (.login name password)) (hauth : Authentic user password) :
    (traced cfg calls).Triple cfg.machine i (HasRead name user i)
      (SessionManager.create cfg ⟨user.user_id, user.user_role⟩
        (cfg.role_manager.effective [user.user_role])) (IsFrom cfg calls)
      fun _ => HasRead name user i := by
  refine Triple.bind (S := fun _ => HasRead name user i) ?_ fun session_id => ?_
  · refine .sync fun w x hinv hp => ⟨(), fun session hs => ?_, fun _ _ _ he => he, ?_⟩
    · exact (hinv session hs).later fun _ he => he
    · exact hp.later fun _ he => he
  refine read_then fun expiry_time => ?_
  refine Triple.bind (S := fun _ => IsFrom cfg calls ⟨session_id, expiry_time,
    ⟨user.user_id, user.user_role⟩, cfg.role_manager.effective [user.user_role]⟩)
    (store_from (fun _ _ h hr => h.later hr) .create _ fun w hp s' => ?_) fun _ =>
      .ret fun _ _ h => h
  refine ⟨i, name, password, user, hcall, hp.later fun e he => List.mem_append_left _ he, hauth,
    rfl, rfl, w.state, _, List.mem_append_right _ (List.mem_singleton_self _), rfl⟩

theorem get_user_read {name : String} :
    (traced cfg calls).Triple cfg.machine i Anything (UserManager.get .record name)
      (fun found a => ∀ user ∈ found, HasRead name user i a) fun _ => Anything := by
  refine Triple.bind (S := fun (all_users : List User) a => ∃ before : State,
    ⟨i, .user_get .record name, before, .ok before.users.rows⟩ ∈ a.1.hist ∧
      before.users.rows = all_users) ?_ fun all_users => .ret fun a _ h user hfound => ?_
  · refine op_triple .anything (fun _ _ _ ⟨before, hmem, hall⟩ hr => ⟨before, hr _ hmem, hall⟩)
      fun w r s' he hinv _ => ?_
    cases he
    refine ⟨fun x hx => (hinv x hx).later fun e he => List.mem_append_left _ he, fun v hv => ?_⟩
    cases hv
    exact ⟨w.state, List.mem_append_right _ (List.mem_singleton_self _), rfl⟩
  · obtain ⟨before, hmem, rfl⟩ := h
    exact ⟨before, hmem, hfound⟩

/-- A session is found, or made by this login. -/
theorem sessionFor_from {name : String} {password : Str} {user : User}
    (hcall : calls i = .login (.login name password)) (hauth : Authentic user password) :
    (traced cfg calls).Triple cfg.machine i (HasRead name user i)
      (sessionFor cfg name user ⟨user.user_id, user.user_role⟩) (IsFrom cfg calls)
      fun _ => HasRead name user i := by
  have hgrows : Growing (HasRead name user i) := fun _ _ h hr => h.later hr
  have hlisted : ∀ sessions : List Session, Growing fun a : Traced ι =>
      HasRead name user i a ∧ ∀ session ∈ sessions, IsFrom cfg calls session a :=
    fun sessions a b h hr => ⟨h.1.later hr, fun session hs => (h.2 session hs).later hr⟩
  refine sessionFor_triple (get_all_from hgrows) (fun _ _ h => h.1) ?_ ?_ ?_
  · intro sessions session_id
    exact (delete_keeps (hlisted sessions) session_id).weaken (fun _ _ _ h => h)
      fun _ _ _ h => h.1
  · intro sessions session hs _
    exact (update_from hgrows session).pre fun _ _ h => ⟨h.1, h.2 session hs⟩
  · exact create_session_triple ((quotaSteps hgrows).add_active_user _)
      (create_from hcall hauth) fun _ _ _ _ h => h

theorem login_from {name : String} {password : Str}
    (hcall : calls i = .login (.login name password)) :
    (traced cfg calls).Triple cfg.machine i Anything (login cfg name password)
      (Returned (IsFrom cfg calls) Anything) fun _ => Anything := by
  refine get_user_read.bind fun found => ?_
  cases found with
  | none => exact .ret fun _ _ _ => trivial
  | some user =>
      refine .pre (P := HasRead name user i) ?_ fun _ _ h => h user rfl
      dsimp only
      rcases authenticate_cases user password with ⟨hauth, e⟩ | ⟨-, e | ⟨exc, e⟩⟩
      · rw [e]
        refine Triple.bind (S := fun credentials a => HasRead name user i a ∧
          credentials = some ⟨user.user_id, user.user_role⟩) (.ret fun _ _ h => ⟨h, rfl⟩)
          fun credentials => ?_
        refine .of_fact (fun _ _ h => h.2) fun hcredentials => ?_
        rw [hcredentials]
        refine Triple.bind (S := IsFrom cfg calls) (((sessionFor_from hcall hauth).conseq
          (fun _ _ h => h.1) (fun _ _ _ h => h) fun _ _ _ _ => trivial)) fun session => ?_
        exact .ret fun _ _ h => ⟨session, rfl, h⟩
      · rw [e]
        refine Triple.bind (S := fun credentials _ => credentials = none)
          (.ret fun _ _ _ => rfl) fun credentials => ?_
        refine .of_fact (fun _ _ h => h) fun hcredentials => ?_
        rw [hcredentials]
        exact .ret fun _ _ _ => trivial
      · rw [e]
        refine Triple.bind (S := fun _ _ => False) (.raise fun _ _ _ => trivial) fun _ => ?_
        exact .of_fact (fun _ _ h => h) False.elim

theorem auth_session_from {session_id : String} :
    (traced cfg calls).Triple cfg.machine i Anything (auth_session cfg session_id)
      (fun session a => session.session_id = session_id ∧ IsFrom cfg calls session a)
      fun _ => Anything := by
  refine get_from.bind fun found => ?_
  cases found with
  | none => exact .raise fun _ _ _ => trivial
  | some session =>
      have hgrows : Growing (IsFrom cfg calls session) := fun _ _ h hr => h.later hr
      refine .of_fact (fun _ _ h => (h session rfl).1) fun hid => ?_
      refine .pre (P := IsFrom cfg calls session) ?_ fun _ _ h => (h session rfl).2
      refine read_then fun expired => ?_
      split
      · refine Triple.bind (S := fun _ => Anything) ?_ fun _ => .raise fun _ _ h => h
        exact (delete_keeps .anything session_id).pre fun _ _ _ => trivial
      · refine read_then fun expiry_time => ?_
        refine Triple.bind (S := fun _ => IsFrom cfg calls session)
          ((sync_triple hgrows fun _ => expiryAssigned_same).weaken (fun _ _ _ h => h)
            fun _ _ _ _ => trivial) fun _ => ?_
        exact .ret fun _ _ h => ⟨hid, h.same rfl rfl rfl⟩

theorem delete_all_aside (user_id : String) :
    Aside cfg calls i (delete_all_sessions_for_user user_id) :=
  (quotaSteps .anything).toRemovals.delete_all_sessions_for_user user_id

theorem login_call_aside (call : LoginCall) (hcall : calls i = .login call) :
    Aside cfg calls i (call.program cfg) := by
  cases call with
  | login name password =>
      exact .map ((login_from hcall).weaken (fun _ _ _ _ => trivial) fun _ _ _ h => h)
  | logout session_id => exact .map (delete_keeps .anything session_id)
  | auth_session session_id =>
      exact .map (auth_session_from.weaken (fun _ _ _ _ => trivial) fun _ _ _ h => h)
  | delete_all_sessions session_id =>
      refine .map (get_from.bind fun found => ?_)
      refine .pre (P := Anything) ?_ fun _ _ _ => trivial
      cases found with
      | none => exact delete_keeps .anything session_id
      | some session => exact delete_all_aside session.credentials.user_id
  | delete_all_sessions_for_user user_id => exact .map (delete_all_aside user_id)
  | _remove_expired_sessions =>
      exact .map (quotaSteps .anything).toRemovals._remove_expired_sessions

/-! ## Requests -/

/-- The handler has that method, which is neither public nor hybrid. -/
structure Protected (request : Request) (method : CsmAuth.Attributes) : Prop where
  found : CsmView._get_method_handler request.handler request.method = some method
  public_ : CsmView.is_public request.handler request.method = false
  hybrid : CsmView.is_hybrid request.handler request.method = false

/-- What a handler of a protected method is run with. -/
def HandedOn (cfg : Settings) (calls : ι → AgentCall) (request : Request) (response : Response)
    (a : Traced ι) : Prop :=
  ∀ method, Protected request method → ∃ session, response = .session session ∧
    CsmRestApi.ShowsId request session.session_id ∧ IsFrom cfg calls session a ∧
      ∀ resource action, method.auth_permissions.Grants resource action →
        session.permissions.Grants resource action

theorem needsNoSession_aside {conf : String → Option String} {request : Request} :
    (traced cfg calls).Triple cfg.machine i Anything (CsmRestApi.needsNoSession conf request)
      (fun is_public _ => ∀ method, Protected request method → is_public = false)
      fun _ => Anything := by
  by_cases hprotected : ∃ method, Protected request method
  · obtain ⟨method, h⟩ := hprotected
    rw [CsmRestApi.needsNoSession_view h.found h.public_ h.hybrid]
    exact .ret fun _ _ _ _ _ => rfl
  · have hvain : ∀ is_public : Bool, ∀ method, Protected request method → is_public = false :=
      fun _ method h => absurd ⟨method, h⟩ hprotected
    unfold CsmRestApi.needsNoSession
    split
    · refine Triple.bind (S := fun _ => Anything) ?_ fun value => ?_
      · unfold CsmRestApi._retrieve_config
        split
        · exact raise_aside _
        · exact .ret fun _ _ h => h
      · cases value with
        | none => exact .raise fun _ _ h => h
        | some value => exact .ret fun _ _ _ => hvain _
    · exact .ret fun _ _ _ => hvain _

theorem sessionOf_from {is_public : Bool} {request : Request} :
    (traced cfg calls).Triple cfg.machine i Anything
      ((CsmRestApi.sessionOf cfg is_public request).handle CsmRestApi.exceptNotFound)
      (fun found a => (∀ session ∈ found, CsmRestApi.ShowsId request session.session_id ∧
        IsFrom cfg calls session a) ∧ (is_public = false → found ≠ none)) fun _ => Anything := by
  refine .handle (?_ : (traced cfg calls).Triple cfg.machine i Anything _ _ fun _ => Anything)
    fun e => ?_
  · cases is_public with
    | true => exact .ret fun _ _ _ => ⟨fun _ h => (by cases h), fun h => (by cases h)⟩
    | false =>
        have hvalidate : ∀ session_id, (traced cfg calls).Triple cfg.machine i Anything
            (CsmRestApi._validate_bearer cfg session_id) (fun session a =>
              session.session_id = session_id ∧ IsFrom cfg calls session a)
            fun _ => Anything := by
          refine fun session_id => .handle auth_session_from fun e => ?_
          cases e with
          | csm err => exact .raise fun _ _ h => h
          | _ => exact .raise fun _ _ h => h
        refine Triple.bind (S := fun session_id _ => CsmRestApi.ShowsId request session_id) ?_
          fun session_id => ?_
        · rcases CsmRestApi._extract_bearer_cases request with ⟨_, hshown, e⟩ | ⟨-, _, e⟩
          · rw [e]
            exact .ret fun _ _ _ => hshown
          · rw [e]
            exact .raise fun _ _ h => h
        · refine .of_fact (fun _ _ h => h) fun hshown => ?_
          refine ((hvalidate session_id).pre fun _ _ _ => trivial).bind fun session => ?_
          refine .ret fun _ _ h => ⟨?_, fun _ => Option.some_ne_none session⟩
          rintro _ ⟨⟩
          exact ⟨h.1 ▸ hshown, h.2⟩
  · cases e with
    | csm err =>
        dsimp only [CsmRestApi.exceptNotFound]
        split
        · exact .raise fun _ _ h => h
        · exact .raise fun _ _ h => h
    | _ => exact .raise fun _ _ h => h

theorem gate_from (conf : String → Option String) (request : Request) :
    (traced cfg calls).Triple cfg.machine i Anything
      (CsmRestApi.gate cfg conf request showSession) (HandedOn cfg calls request)
      fun _ => Anything := by
  refine needsNoSession_aside.bind fun is_public => ?_
  refine .of_fact (fun _ _ h => h) fun hpublic => ?_
  refine (sessionOf_from.pre fun _ _ _ => trivial).bind fun found => ?_
  cases found with
  | none =>
      refine .ret fun _ _ h method hprotected => ?_
      exact absurd rfl (h.2 (hpublic method hprotected))
  | some session =>
      unfold CsmRestApi.permission_middleware
      dsimp only [Request.withSession]
      split
      · rename_i hallowed
        refine .ret fun _ _ h method hprotected => ?_
        refine ⟨session, rfl, (h.1 session rfl).1, (h.1 session rfl).2, ?_⟩
        have hrequired : CsmRestApi._get_permissions (request.withSession (some session)) =
            method.auth_permissions := by
          show CsmView.get_permissions request.handler request.method = _
          rw [CsmView.get_permissions, hprotected.found]
        exact PermissionSet.verdict_iff.mp (hrequired ▸ hallowed)
      · exact .raise fun _ _ _ => trivial

end Tracing

/-! ## Runs -/

/-- What has been answered to a request. -/
def Answered (cfg : Settings) (calls : ι → AgentCall) (i : ι) (response : Response)
    (a : Traced ι) : Prop :=
  ∀ conf request, calls i = .request conf request → HandedOn cfg calls request response a

theorem Answered.later {cfg : Settings} {calls : ι → AgentCall} {i : ι} {response : Response}
    {a b : Traced ι} (h : Answered cfg calls i response a) (hr : ∀ e ∈ a.1.hist, e ∈ b.1.hist) :
    Answered cfg calls i response b := by
  intro conf request hcall method hprotected
  obtain ⟨session, hresponse, hshown, hfrom, hgranted⟩ := h conf request hcall method hprotected
  exact ⟨session, hresponse, hshown, hfrom.later hr, hgranted⟩

theorem program_from (cfg : Settings) (calls : ι → AgentCall) (i : ι) :
    (traced cfg calls).Triple cfg.machine i Anything ((calls i).program cfg)
      (Answered cfg calls i) fun _ => Anything := by
  have haside : (∀ conf request, calls i ≠ .request conf request) →
      Aside cfg calls i ((calls i).program cfg) →
        (traced cfg calls).Triple cfg.machine i Anything ((calls i).program cfg)
          (Answered cfg calls i) fun _ => Anything :=
    fun hnot h => h.weaken (fun _ _ _ _ conf request hcall => absurd hcall (hnot conf request))
      fun _ _ _ h => h
  cases hcall : calls i with
  | request conf request =>
      refine (gate_from conf request).weaken (fun response _ _ h => ?_) fun _ _ _ h => h
      intro conf' request' hcall'
      cases hcall.symm.trans hcall'
      exact h
  | login call =>
      rw [hcall] at haside
      exact haside (fun _ _ => AgentCall.noConfusion) (login_call_aside call hcall)
  | delete user_id loggedin_user_id =>
      rw [hcall] at haside
      refine haside (fun _ _ => AgentCall.noConfusion) (.map (delete_user_aside.bind fun _ => ?_))
      exact (delete_all_aside user_id).bind fun _ => .ret fun _ _ h => h
  | user stamp call =>
      rw [hcall] at haside
      refine haside (fun _ _ => AgentCall.noConfusion) ?_
      cases call with
      | create_user => exact .map create_user_aside
      | update_user => exact .map update_user_aside
      | delete_user => exact .map delete_user_aside

/-- Where a run of these calls leads, from no session. -/
abbrev after [DecidableEq ι] (cfg : Settings) (users : UserStore) (calls : ι → AgentCall)
    (as : List (Act ι Time)) : Config ι Op Op.Ans State Exc Response :=
  Config.run cfg.machine (fun i => (calls i).program cfg) (.start (.fresh users)) as

/-- **Nobody gets in who has not logged in.**  However the calls and requests interleave: a
request that is handed on to a protected method shows the id of a session that a login has
stored, which had read a record with the password it was given; the session carries the id and
the role of that record, and the role grants what the method requires. -/
theorem only_logged_in [DecidableEq ι] (cfg : Settings) (users : UserStore)
    (calls : ι → AgentCall) (as : List (Act ι Time)) (i : ι) (conf : String → Option String)
    (request : Request) (method : CsmAuth.Attributes) (hcall : calls i = .request conf request)
    (hprotected : Protected request method) (response : Response)
    (hresult : ((after cfg users calls as).thread i).result = some (.ok response)) :
    ∃ session j name password user, response = .session session ∧
      CsmRestApi.ShowsId request session.session_id ∧
      From cfg calls session ((after cfg users calls as).world, ()) j name password user ∧
      ∀ resource action, method.auth_permissions.Grants resource action →
        (cfg.role_manager.effective [user.user_role]).Grants resource action := by
  have henv : (traced cfg calls).AllowsEnv cfg.machine := fun w x elapsed hinv =>
    ⟨(), fun session hs => (hinv session hs).later fun _ he => he, fun _ _ he => he⟩
  have hstart : (traced cfg calls).inv ⟨.fresh users, []⟩ () :=
    fun session hs => absurd hs (Table.not_mem_empty session)
  obtain ⟨x, -, hthreads⟩ := Triple.run (P := fun _ => Anything)
    (R := fun i response => Answered cfg calls i response) (E := fun _ _ => Anything)
    (fun _ => .const True) (fun _ _ _ _ h hr => h.later hr) (fun _ _ => .const True) henv
    (program_from cfg calls) hstart (fun _ => trivial)
    (Config.along_of_forall (fun _ a => by
      cases a with
      | run i => exact fun _ _ => trivial
      | env elapsed => trivial) _ as)
  obtain ⟨session, hresponse, hshown, ⟨j, name, password, user, hfrom⟩, hgranted⟩ :=
    (hthreads i).of_ok hresult conf request hcall method hprotected
  refine ⟨session, j, name, password, user, hresponse, hshown, hfrom, ?_⟩
  rw [← hfrom.permissions]
  exact hgranted

end Agent

/-! ## Alice, and then her request -/

section Example

theorem nodup_listing : ([("users", ["list"])].map Prod.fst).Nodup := List.nodup_singleton _

def monitorsList : RoleManager :=
  RoleManager.blank.store CSM_MONITOR_ROLE ⟨[("users", ["list"])], nodup_listing⟩

def forEveryone : Settings := sampleSettings .database 0 0 monitorsList

/-- Alice's login, and a request that shows the id it returns. -/
def loginAndList : (again : Bool) → AgentCall
  | false => .login (.login "alice" "Seagate@1")
  | true => .request (fun _ => none) listRequest

abbrev afterBoth : Config Bool Op Op.Ans State Exc Response :=
  after forEveryone (Table.empty.upsert (sampleUser "alice" CSM_MONITOR_ROLE)) loginAndList
    (List.replicate 9 (.run false) ++ List.replicate 5 (.run true))

theorem only_logged_in_alice : ∃ session j name password user,
    CsmRestApi.ShowsId listRequest session.session_id ∧
      From forEveryone loginAndList session (afterBoth.world, ()) j name password user := by
  obtain ⟨response, hresult⟩ : ∃ response, (afterBoth.thread true).result = some (.ok response) :=
    ⟨_, rfl⟩
  obtain ⟨session, j, name, password, user, -, hshown, hfrom, -⟩ :=
    only_logged_in forEveryone _ loginAndList _ true _ listRequest ⟨false, false, listUsers⟩ rfl
      ⟨rfl, rfl, rfl⟩ response hresult
  exact ⟨session, j, name, password, user, hshown, hfrom⟩

end Example

end CortxCsm.LoggedIn
