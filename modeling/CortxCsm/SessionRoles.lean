/-
# `CortxCsm.SessionRoles` — whose role a session carries

A session gets its credentials and its permission set when a login creates it, and nothing
writes either again: `update_user` saves the user's record only, a refresh and a login that
finds a valid session store the session as it was.  So in a sequential run what a login
returns, or `auth_session` accepts, carries the role its user had at the login that created
it (`role_of_login`), whatever the role is by now (`role_outlived`).

**Proved here.**

    a login keeps the sessions there are, and may add one       (`loginSteps`)
    what each call does to the sessions                         (`call_spec`)
    every session of a run has the role of its login            (`role_of_login`)
-/
import CortxCsm.Lib.Sequence
import CortxCsm.SessionSteps

namespace CortxCsm

/-- A call of `update_user`, or of `LoginService`. -/
inductive AccessCall
  | update_user (stamp : Stamp) (user_id : String) (new_values : UserPatch)
      (loggedin_user_id : String)
  | login (user_id : String) (password : Str)
  | logout (session_id : String)
  | auth_session (session_id : String)

def AccessCall.isLogin : AccessCall → Bool
  | .login _ _ => true
  | _ => false

def AccessCall.program [Runtime] (cfg : Settings) : AccessCall → Prog Response
  | .update_user stamp user_id new_values loggedin_user_id =>
      .user <$> CsmUserService.update_user stamp user_id new_values loggedin_user_id
  | .login user_id password => .ofLogin <$> LoginService.login cfg user_id password
  | .logout session_id => (fun _ => .done) <$> LoginService.logout session_id
  | .auth_session session_id => .session <$> LoginService.auth_session cfg session_id

namespace SessionRoles

open Contract SessionManager QuotaSessionManager LoginService CsmUserService

/-- A call of the run, with the states on both sides of it. -/
abbrev Visited := Visit AccessCall State Exc Response

/-- The sequential run of `turns`, from no session. -/
abbrev runFrom [Runtime] (cfg : Settings) (users : UserStore) (turns : List (Turn AccessCall Time)) :
    Trace AccessCall State Exc Response :=
  Trace.run cfg.machine (AccessCall.program cfg) (.start (.fresh users)) turns

/-! ## Old sessions and new ones -/

/-- A session of `s₀`, refreshed or not. -/
def Kept (s₀ : State) (session : Session) : Prop :=
  ∃ y ∈ s₀.sessions, y.session_id = session.session_id ∧ y.credentials = session.credentials ∧
    y.permissions = session.permissions

/-- A session that is not in `s₀`, with the role of a user of `s₀`. -/
structure New (cfg : Settings) (s₀ : State) (session : Session) : Prop where
  absent : ∀ y ∈ s₀.sessions, y.session_id ≠ session.session_id
  owner : ∃ user ∈ s₀.users, session.credentials = ⟨user.user_id, user.user_role⟩ ∧
    session.permissions = cfg.role_manager.effective [user.user_role]

theorem Kept.self {s : State} {session : Session} (h : session ∈ s.sessions) : Kept s session :=
  ⟨session, h, rfl, rfl, rfl⟩

/-- Every stored session's id has been drawn. -/
def AllDrawn (cfg : Settings) (s : State) : Prop :=
  ∀ session ∈ s.sessions, Drawn cfg s session.session_id

/-- So far no session has been added to those of `s₀`, and no user has changed. -/
structure OnlyKept (s₀ s : State) : Prop where
  users : s.users = s₀.users
  drawn : s₀.drawn ≤ s.drawn
  kept : ∀ session ∈ s.sessions, Kept s₀ session

namespace OnlyKept

variable {s₀ s s' : State}

theorem refl (s : State) : OnlyKept s s := ⟨rfl, Nat.le_refl _, fun _ h => .self h⟩

/-- A step that adds no session. -/
theorem step (h : OnlyKept s₀ s) (husers : s'.users = s.users) (hdrawn : s'.drawn = s.drawn)
    (hs : ∀ session ∈ s'.sessions, Kept s session) : OnlyKept s₀ s' where
  users := husers.trans h.users
  drawn := hdrawn ▸ h.drawn
  kept session hm := by
    obtain ⟨y, hy, hid, hcred, hperm⟩ := hs session hm
    obtain ⟨z, hz, hid', hcred', hperm'⟩ := h.kept y hy
    exact ⟨z, hz, hid'.trans hid, hcred'.trans hcred, hperm'.trans hperm⟩

theorem allDrawn {cfg : Settings} (h : OnlyKept s₀ s) (h₀ : AllDrawn cfg s₀) :
    AllDrawn cfg s := by
  intro session hm n hn
  obtain ⟨y, hy, hid, _⟩ := h.kept session hm
  exact hid ▸ h₀ y hy n (h.drawn.trans hn)

theorem assigned (h : OnlyKept s₀ s) (b : Backend) (session_id : String) (expiry_time : Time) :
    OnlyKept s₀ (expiryAssigned b session_id expiry_time s) := by
  unfold expiryAssigned
  split
  · rename_i found hfound
    refine h.step rfl rfl fun session hm => ?_
    rcases Table.mem_upsert.mp hm with rfl | ⟨hm, _⟩
    · exact ⟨found, (Table.find?_eq_some.mp hfound).1, rfl, rfl, rfl⟩
    · exact .self hm
  · exact h

end OnlyKept

/-! ## Single operations -/

section Steps

variable {cfg : Settings} {s₀ : State}

/-- The contract of a call that runs alone. -/
abbrev lone : Contract Unit Op Op.Ans State Exc Unit := alone Op Op.Ans State Exc

abbrev Old (s₀ : State) (a : World Unit Op Op.Ans State Exc × Unit) : Prop :=
  OnlyKept s₀ a.1.state

/-- An operation that adds no session keeps them; `V` is what its value satisfies. -/
theorem op_keeps {op : Op} {V : op.Ans → Prop}
    (hop : ∀ s r s', OnlyKept s₀ s → exec cfg.backend op s = some (r, s') →
      OnlyKept s₀ s' ∧ ∀ v, r = .ok v → V v) :
    lone.Triple cfg.machine () (Old s₀) (Coro.call op)
      (fun v a => Old s₀ a ∧ V v) fun _ => Old s₀ := by
  refine Triple.callAlone (P := OnlyKept s₀) (R := fun v s => OnlyKept s₀ s ∧ V v)
    (E := fun _ => OnlyKept s₀) ?_
  intro s r s' hp he
  obtain ⟨hkept, hv⟩ := hop s r s' hp he
  cases r with
  | ok v => exact ⟨hkept, hv v rfl⟩
  | error e => exact hkept

theorem get_keeps {session_id : String} :
    lone.Triple cfg.machine () (Old s₀) (get session_id)
      (fun found a => Old s₀ a ∧ ∀ session ∈ found, Kept s₀ session)
      fun _ => Old s₀ := by
  refine op_keeps fun s r s' hp he => ?_
  cases he
  refine ⟨hp, fun v hv session hs => hp.kept session ?_⟩
  cases hv
  exact (Table.find?_eq_some.mp hs).1

theorem get_all_keeps {caller : Caller} :
    lone.Triple cfg.machine () (Old s₀) (get_all caller)
      (fun sessions a => Old s₀ a ∧ ∀ session ∈ sessions, Kept s₀ session)
      fun _ => Old s₀ := by
  refine op_keeps fun s r s' hp he => ?_
  cases he
  refine ⟨hp, fun v hv session hs => hp.kept session ?_⟩
  cases hv
  exact hs

theorem write_keeps {u : State → State} (hu : ∀ s, OnlyKept s₀ s → OnlyKept s₀ (u s)) :
    lone.Triple cfg.machine () (Old s₀) (Coro.write u)
      (fun _ => Old s₀) fun _ => Old s₀ :=
  Triple.syncAlone (R := fun _ => OnlyKept s₀) (E := fun _ => OnlyKept s₀) hu

theorem delete_keeps {session_id : String} :
    lone.Triple cfg.machine () (Old s₀)
      (QuotaSessionManager.delete session_id) (fun _ => Old s₀)
      fun _ => Old s₀ := by
  refine get_keeps.bind fun found => ?_
  cases found with
  | none => exact .raise fun _ _ h => h.1
  | some session =>
      refine ((op_keeps (V := fun _ => True) ?_).pre fun _ _ h => h.1).bind fun _ => ?_
      · intro s r s' hp he
        cases he
        exact ⟨hp.step rfl rfl fun _ hm => .self (Backend.mem_of_mem_delete hm), fun _ _ => trivial⟩
      · refine .pre (P := Old s₀) ?_ fun _ _ h => h.1
        exact write_keeps fun s hp => hp.step rfl rfl fun _ hm => .self hm

variable [Runtime]

theorem get_user_keeps {purpose : Purpose} {user_id : String} :
    lone.Triple cfg.machine () (Old s₀) (UserManager.get purpose user_id)
      (fun user a => Old s₀ a ∧ ∀ u ∈ user, u ∈ s₀.users) fun _ => Old s₀ := by
  refine (op_keeps (V := fun all_users => ∀ u ∈ all_users, u ∈ s₀.users) ?_).bind fun all_users =>
    .ret fun _ _ h => ⟨h.1, fun u hu => h.2 u (UserManager.search_some hu).1⟩
  intro s r s' hp he
  cases he
  refine ⟨hp, fun v hv u hu => ?_⟩
  cases hv
  exact hp.users ▸ hu

omit [Runtime] in
/-- The session that is accepted is one of those there were, with a new expiry time. -/
theorem auth_session_keeps {session_id : String} :
    lone.Triple cfg.machine () (Old s₀) (auth_session cfg session_id)
      (fun session a => Old s₀ a ∧ Kept s₀ session)
      fun _ => Old s₀ := by
  refine get_keeps.bind fun found => ?_
  cases found with
  | none => exact .raise fun _ _ h => h.1
  | some session =>
      refine .of_fact (fun _ _ h => h.2 session rfl) fun hkept => ?_
      refine .pre (P := Old s₀) ?_ fun _ _ h => h.1
      refine read_then fun expired => ?_
      split
      · exact delete_keeps.bind fun _ => .raise fun _ _ h => h
      · refine read_then fun expiry_time => ?_
        refine (write_keeps fun s hp => hp.assigned _ _ _).bind fun _ => ?_
        exact .ret fun _ _ h => ⟨h, hkept⟩

/-! ## `login` -/

/-- A login has stored its session: some may be new, of users of `s₀`. -/
structure Stored (cfg : Settings) (s₀ s : State) (session : Session) : Prop where
  drawn : AllDrawn cfg s
  source : ∀ x ∈ s.sessions, Kept s₀ x ∨ New cfg s₀ x
  here : ∃ x ∈ s.sessions, x.session_id = session.session_id

omit [Runtime] in
theorem create_stores (h₀ : AllDrawn cfg s₀) {user : User} (hu : user ∈ s₀.users) :
    lone.Triple cfg.machine () (Old s₀)
      (SessionManager.create cfg ⟨user.user_id, user.user_role⟩
        (cfg.role_manager.effective [user.user_role]))
      (fun session a => Stored cfg s₀ a.1.state session) fun _ => Old s₀ := by
  -- the id drawn is none of the ids drawn before
  refine Triple.bind (S := fun session_id a => Old s₀ a ∧ Drawn cfg a.1.state session_id ∧
    ∀ y ∈ s₀.sessions, y.session_id ≠ session_id) ?_ fun session_id => ?_
  · refine Triple.syncAlone (P := OnlyKept s₀) (R := fun session_id s => OnlyKept s₀ s ∧
      Drawn cfg s session_id ∧ ∀ y ∈ s₀.sessions, y.session_id ≠ session_id)
      (E := fun _ => OnlyKept s₀) fun s hp => ⟨?_, ?_, ?_⟩
    · exact ⟨hp.users, Nat.le_succ_of_le hp.drawn, hp.kept⟩
    · exact fun n hn e => absurd (cfg.uuid4_injective e) (Nat.ne_of_gt hn)
    · exact fun y hy e => h₀ y hy s.drawn hp.drawn e.symm
  · refine read_then fun expiry_time => ?_
    refine Triple.bind (S := fun _ a => Stored cfg s₀ a.1.state
      ⟨session_id, expiry_time, ⟨user.user_id, user.user_role⟩,
        cfg.role_manager.effective [user.user_role]⟩) ?_ fun _ => .ret fun _ _ h => h
    refine Triple.callAlone (P := fun s => OnlyKept s₀ s ∧ Drawn cfg s session_id ∧
      ∀ y ∈ s₀.sessions, y.session_id ≠ session_id) (R := fun _ s => Stored cfg s₀ s _)
      (E := fun _ => OnlyKept s₀) ?_
    rintro s r s' ⟨hp, hdrawn, hnew⟩ he
    simp only [Settings.machine, exec, Backend.store_eq, Option.some.injEq, Prod.mk.injEq] at he
    obtain ⟨rfl, rfl⟩ := he
    refine ⟨fun x hx => ?_, fun x hx => ?_, _, Table.self_mem_upsert _ _, rfl⟩
    · rcases Table.mem_upsert.mp hx with rfl | ⟨hx, _⟩
      · exact hdrawn
      · exact hp.allDrawn h₀ x hx
    · rcases Table.mem_upsert.mp hx with rfl | ⟨hx, _⟩
      · exact Or.inr ⟨hnew, user, hu, rfl, rfl⟩
      · exact Or.inl (hp.kept x hx)

omit [Runtime] in
theorem refresh_stores (h₀ : AllDrawn cfg s₀) {session : Session} (hs : Kept s₀ session) :
    lone.Triple cfg.machine () (Old s₀) (update_session_expiry_time cfg session)
      (fun refreshed a => Stored cfg s₀ a.1.state refreshed) fun _ => Old s₀ := by
  refine read_then fun expiry_time => ?_
  refine (write_keeps fun s hp => hp.assigned _ _ _).bind fun _ => ?_
  refine Triple.bind (S := fun _ a => Stored cfg s₀ a.1.state
    { session with expiry_time := expiry_time }) ?_ fun _ => .ret fun _ _ h => h
  refine Triple.callAlone (P := OnlyKept s₀) (R := fun _ s => Stored cfg s₀ s _)
    (E := fun _ => OnlyKept s₀) ?_
  intro s r s' hp he
  simp only [Settings.machine, exec, Backend.store_eq, Option.some.injEq, Prod.mk.injEq] at he
  obtain ⟨rfl, rfl⟩ := he
  have hkept : OnlyKept s₀
      { s with sessions := s.sessions.upsert { session with expiry_time := expiry_time } } := by
    refine ⟨hp.users, hp.drawn, fun x hx => ?_⟩
    rcases Table.mem_upsert.mp hx with rfl | ⟨hx, _⟩
    · exact hs
    · exact hp.kept x hx
  exact ⟨hkept.allDrawn h₀, fun x hx => Or.inl (hkept.kept x hx), _,
    Table.self_mem_upsert _ _, rfl⟩

theorem loginSteps (h₀ : AllDrawn cfg s₀) :
    LoginSteps cfg lone () (· ∈ s₀.users) (Kept s₀)
      (fun session a => Stored cfg s₀ a.1.state session) (Old s₀) fun _ => Old s₀ where
  raised _ _ _ h := h
  tally u hu := write_keeps fun s hp => by
    obtain ⟨active, restored, e⟩ := hu s
    rw [e]
    exact hp.step rfl rfl fun _ hm => .self hm
  get _ _ := get_user_keeps
  get_all _ := get_all_keeps
  delete _ := delete_keeps
  create _ hu := create_stores h₀ hu
  refresh _ hs := refresh_stores h₀ hs

/-! ## `update_user` -/

/-- The user service leaves the sessions alone. -/
def Untouched (s₀ s : State) : Prop := s.sessions = s₀.sessions ∧ s.drawn = s₀.drawn

abbrev Aside (s₀ : State) (a : World Unit Op Op.Ans State Exc × Unit) : Prop :=
  Untouched s₀ a.1.state

omit [Runtime] in
theorem user_op_aside {op : Op} (hop : ∀ s r s', exec cfg.backend op s = some (r, s') →
    s'.sessions = s.sessions ∧ s'.drawn = s.drawn) :
    lone.Triple cfg.machine () (Aside s₀) (Coro.call op) (fun _ => Aside s₀)
      fun _ => Aside s₀ := by
  refine Triple.callAlone (P := Untouched s₀) (R := fun _ => Untouched s₀)
    (E := fun _ => Untouched s₀) ?_
  intro s r s' hp he
  obtain ⟨hsessions, hdrawn⟩ := hop s r s' he
  cases r with
  | ok v => exact ⟨hsessions.trans hp.1, hdrawn.trans hp.2⟩
  | error e => exact ⟨hsessions.trans hp.1, hdrawn.trans hp.2⟩

theorem get_user_aside {purpose : Purpose} {user_id : String} :
    lone.Triple cfg.machine () (Aside s₀) (UserManager.get purpose user_id) (fun _ => Aside s₀)
      fun _ => Aside s₀ := by
  refine (user_op_aside fun s r s' he => ?_).bind fun _ => .ret fun _ _ h => h
  cases he
  exact ⟨rfl, rfl⟩

omit [Runtime] in
theorem checkRoleChange_aside {user loggedin_user : User} {role : String} :
    lone.Triple cfg.machine () (Aside s₀) (checkRoleChange user loggedin_user role)
      (fun _ => Aside s₀) fun _ => Aside s₀ := by
  have hadmins : lone.Triple cfg.machine () (Aside s₀) UserManager.count_admins
      (fun _ => Aside s₀) fun _ => Aside s₀ := by
    refine user_op_aside fun s r s' he => ?_
    cases he
    exact ⟨rfl, rfl⟩
  refine (allowed_triple (E := fun _ => Aside s₀) fun _ _ h => h).bind fun allowed => ?_
  refine .guard (fun _ _ _ h => h.1) fun _ => ?_
  refine .pre (P := Aside s₀) ?_ fun _ _ h => h.1
  split
  · split
    · exact hadmins.bind fun num_admins => .raiseIf (fun _ _ _ h => h) fun _ _ _ h => h
    · exact .ret fun _ _ h => h
  · exact .raiseIf (fun _ _ _ h => h) fun _ _ _ h => h

theorem update_user_aside {stamp : Stamp} {user_id : String} {new_values : UserPatch}
    {loggedin_user_id : String} :
    lone.Triple cfg.machine () (Aside s₀)
      (update_user stamp user_id new_values loggedin_user_id) (fun _ => Aside s₀)
      fun _ => Aside s₀ := by
  refine get_user_aside.bind fun user => ?_
  cases user with
  | none => exact .raise fun _ _ h => h
  | some user =>
      refine get_user_aside.bind fun loggedin_user => ?_
      cases loggedin_user with
      | none => exact .raise fun _ _ h => h
      | some loggedin_user =>
          refine Triple.bind (S := fun _ => Aside s₀) ?_ fun _ => ?_
          · refine (allowed_triple (E := fun _ => Aside s₀) fun _ _ h => h).bind
              fun allowed => ?_
            refine .guard (fun _ _ _ h => h.1) fun _ => ?_
            refine Triple.bind (S := fun _ => Aside s₀) ?_ fun _ => checkCurrentPassword_triple
            unfold checkRole
            split
            · exact .ret fun _ _ h => h.1
            · split
              · exact .ret fun _ _ h => h.1
              · exact checkRoleChange_aside.pre fun _ _ h => h.1
          · refine (user_op_aside fun s r s' he => ?_).bind fun _ => .ret fun _ _ h => h
            cases he
            exact ⟨rfl, rfl⟩

/-! ## One call -/

/-- The session an `auth_session` accepts. -/
def accepted (visit : Visited) : Option Session :=
  match visit.result with
  | .ok (.session session) => some session
  | _ => none

omit [Runtime] in
theorem accepted_some {visit : Visited} {session : Session} :
    accepted visit = some session ↔ visit.result = .ok (.session session) := by
  unfold accepted
  split
  · rename_i found h
    rw [h]
    simp
  · rename_i h
    exact ⟨fun e => absurd e (by simp), fun e => absurd e (h session)⟩

/-- The session a call returns the id of, as it is stored, or the session it accepts. -/
def HandsOut (visit : Visited) (session : Session) : Prop :=
  match visit.result with
  | .ok (.login (some session_id) _) =>
      session ∈ visit.after.sessions ∧ session.session_id = session_id
  | .ok (.session accepted) => session = accepted
  | _ => False

/-- What a call does to the sessions, and hands out. -/
structure CallSpec (cfg : Settings) (visit : Visited) : Prop where
  drawn : AllDrawn cfg visit.after
  source : ∀ x ∈ visit.after.sessions, Kept visit.before x ∨
    (visit.call.isLogin = true ∧ New cfg visit.before x)
  handed : ∀ session, HandsOut visit session →
    Kept visit.before session ∨ session ∈ visit.after.sessions
  found : ∀ session_id reset_password, visit.result = .ok (.login (some session_id) reset_password) →
    ∃ session, HandsOut visit session

omit [Runtime] in
/-- A call that adds no session, and hands out none. -/
theorem CallSpec.ofKept {call : AccessCall} {r : Except Exc Response} {s : State}
    (hdrawn : AllDrawn cfg s) (hkept : ∀ x ∈ s.sessions, Kept s₀ x)
    (hr : ∀ session, ¬ HandsOut ⟨call, s₀, r, s⟩ session)
    (hlogin : ∀ session_id reset_password, r ≠ .ok (.login (some session_id) reset_password)) :
    CallSpec cfg ⟨call, s₀, r, s⟩ where
  drawn := hdrawn
  source x hx := Or.inl (hkept x hx)
  handed session hs := absurd hs (hr session)
  found session_id reset_password e := absurd e (hlogin session_id reset_password)

omit [Runtime] in
theorem CallSpec.ofRaised {call : AccessCall} {e : Exc} {s : State} (hdrawn : AllDrawn cfg s)
    (hkept : ∀ x ∈ s.sessions, Kept s₀ x) : CallSpec cfg ⟨call, s₀, .error e, s⟩ :=
  .ofKept hdrawn hkept (fun _ hs => hs) fun _ _ h => nomatch h

omit [Runtime] in
/-- A login that returns, with a session or without. -/
theorem CallSpec.ofLogin (h₀ : AllDrawn cfg s₀) {user_id : String} {password : Str}
    {result : Option (String × Option Bool)} {a : World Unit Op Op.Ans State Exc × Unit}
    (h : Returned (fun session a => Stored cfg s₀ a.1.state session) (Old s₀) result a) :
    CallSpec cfg ⟨.login user_id password, s₀, .ok (.ofLogin result), a.1.state⟩ := by
  cases result with
  | none =>
      have hold : OnlyKept s₀ a.1.state := h
      exact .ofKept (hold.allDrawn h₀) hold.kept (fun _ hs => hs) fun _ _ h => nomatch h
  | some r =>
      obtain ⟨session, hid, hstored⟩ := h
      refine ⟨hstored.drawn, fun x hx => ?_, fun x hx => Or.inr hx.1, ?_⟩
      · exact (hstored.source x hx).imp id fun hnew => ⟨rfl, hnew⟩
      · intro session_id reset_password e
        cases e
        obtain ⟨x, hx, hxid⟩ := hstored.here
        exact ⟨x, hx, hxid.trans hid⟩

/-- **One call**, run alone from `s₀`. -/
theorem call_spec (h₀ : AllDrawn cfg s₀) (call : AccessCall) {r : Except Exc Response} {s : State}
    (he : (call.program cfg).solo cfg.machine s₀ = some (r, s)) :
    CallSpec cfg ⟨call, s₀, r, s⟩ := by
  have hrun : ∀ {P : State → Prop}, P s₀ →
      lone.Triple cfg.machine () (fun a => P a.1.state) (call.program cfg)
        (fun v a => CallSpec cfg ⟨call, s₀, .ok v, a.1.state⟩)
        (fun e a => CallSpec cfg ⟨call, s₀, .error e, a.1.state⟩) →
      CallSpec cfg ⟨call, s₀, r, s⟩ := by
    intro P hP h
    have := Triple.solo (R := fun v s => CallSpec cfg ⟨call, s₀, .ok v, s⟩)
      (E := fun e s => CallSpec cfg ⟨call, s₀, .error e, s⟩) h hP he
    cases r with
    | ok v => exact this
    | error e => exact this
  cases call with
  | update_user =>
      have hside : ∀ s, Untouched s₀ s → AllDrawn cfg s ∧ ∀ x ∈ s.sessions, Kept s₀ x := by
        intro s h
        refine ⟨fun x hx n hn => h₀ x (h.1 ▸ hx) n (h.2 ▸ hn), fun x hx => .self (h.1 ▸ hx)⟩
      refine hrun (P := Untouched s₀) ⟨rfl, rfl⟩ (.map (update_user_aside.weaken ?_ ?_))
      · exact fun _ a _ h =>
          .ofKept (hside _ h).1 (hside _ h).2 (fun _ hs => hs) fun _ _ h => nomatch h
      · exact fun _ a _ h => .ofRaised (hside _ h).1 (hside _ h).2
  | login user_id password =>
      refine hrun (.refl s₀) (.map (((loginSteps h₀).login user_id password).weaken ?_ ?_))
      · exact fun _ _ _ h => .ofLogin h₀ h
      · exact fun _ _ _ h => .ofRaised (h.allDrawn h₀) h.kept
  | logout =>
      refine hrun (.refl s₀) (.map (delete_keeps.weaken ?_ ?_))
      · exact fun _ _ _ h =>
          .ofKept (h.allDrawn h₀) h.kept (fun _ hs => hs) fun _ _ h => nomatch h
      · exact fun _ _ _ h => .ofRaised (h.allDrawn h₀) h.kept
  | auth_session =>
      refine hrun (.refl s₀) (.map (auth_session_keeps.weaken ?_ ?_))
      · intro session a _ h
        refine ⟨h.1.allDrawn h₀, fun x hx => Or.inl (h.1.kept x hx), ?_, fun _ _ h => nomatch h⟩
        rintro x rfl
        exact Or.inl h.2
      · exact fun _ _ _ h => .ofRaised (h.allDrawn h₀) h.kept

/-! ## Runs -/

/-- The login `visit` created the session, for a user with the role it carries. -/
structure CreatedAt (cfg : Settings) (visit : Visited) (session : Session) : Prop where
  login : visit.call.isLogin = true
  absent : ∀ y ∈ visit.before.sessions, y.session_id ≠ session.session_id
  stored : ∃ y ∈ visit.after.sessions, y.session_id = session.session_id
  owner : ∃ user ∈ visit.before.users, session.credentials.user_id = user.user_id ∧
    session.get_user_role = user.user_role ∧
    session.permissions = cfg.role_manager.effective [user.user_role]

/-- Every session that `visit` hands out was created by a login among `visits`, and a login
that returns an id hands one out. -/
def FromLogin (cfg : Settings) (visits : List Visited) (visit : Visited) : Prop :=
  (∀ session, HandsOut visit session → ∃ login ∈ visits, CreatedAt cfg login session) ∧
    ∀ session_id reset_password,
      visit.result = .ok (.login (some session_id) reset_password) →
        ∃ session, HandsOut visit session

structure Provenance (cfg : Settings) (t : Trace AccessCall State Exc Response) : Prop where
  drawn : AllDrawn cfg t.state
  source : ∀ session ∈ t.state.sessions, ∃ login ∈ t.visits, CreatedAt cfg login session
  told : ∀ earlier visit, earlier ++ [visit] <+: t.visits →
    FromLogin cfg (earlier ++ [visit]) visit

omit [Runtime] in
theorem CreatedAt.ofKept {visits : List Visited}
    (h : ∀ session ∈ s₀.sessions, ∃ login ∈ visits, CreatedAt cfg login session)
    {session : Session} (hk : Kept s₀ session) :
    ∃ login ∈ visits, CreatedAt cfg login session := by
  obtain ⟨y, hy, hid, hcred, hperm⟩ := hk
  obtain ⟨login, hmem, hlogin, habsent, hstored, user, hu, huid, hrole, hp⟩ := h y hy
  refine ⟨login, hmem, hlogin, hid ▸ habsent, hid ▸ hstored, user, hu, hcred ▸ huid, ?_,
    hperm ▸ hp⟩
  rw [Session.get_user_role, ← hcred]
  exact hrole

theorem provenance_call {t : Trace AccessCall State Exc Response} (h : Provenance cfg t)
    {call : AccessCall} {r : Except Exc Response} {s : State}
    (he : (call.program cfg).solo cfg.machine t.state = some (r, s)) :
    Provenance cfg (t.visit call r s) := by
  have hspec := call_spec h.drawn call he
  have hold : ∀ session, Kept t.state session →
      ∃ login ∈ (t.visit call r s).visits, CreatedAt cfg login session := by
    intro session hk
    obtain ⟨login, hmem, hc⟩ := CreatedAt.ofKept h.source hk
    exact ⟨login, List.mem_append_left _ hmem, hc⟩
  have hsource : ∀ session ∈ s.sessions,
      ∃ login ∈ (t.visit call r s).visits, CreatedAt cfg login session := by
    intro session hm
    rcases hspec.source session hm with hk | ⟨hlogin, habsent, user, hu, hcred, hperm⟩
    · exact hold session hk
    · refine ⟨⟨call, t.state, r, s⟩, List.mem_append_right _ List.mem_cons_self, hlogin, habsent,
        ⟨session, hm, rfl⟩, user, hu, ?_, ?_, hperm⟩
      · rw [hcred]
      · rw [Session.get_user_role, hcred]
  refine ⟨hspec.drawn, hsource, fun earlier visit hpre => ?_⟩
  rcases List.prefix_concat_iff.mp hpre with hnow | hpre
  · obtain ⟨rfl, rfl⟩ := List.append_singleton_inj.mp hnow
    refine ⟨fun session hs => ?_, hspec.found⟩
    rcases hspec.handed session hs with hk | hm
    · exact hold session hk
    · exact hsource session hm
  · exact h.told earlier visit hpre

theorem provenance_run (cfg : Settings) (users : UserStore) (turns : List (Turn AccessCall Time)) :
    Provenance cfg (runFrom cfg users turns) := by
  refine Trace.run_induction ?_ (fun t call r s h he => provenance_call h he) ?_ turns
  · exact fun t elapsed h => ⟨h.drawn, h.source, h.told⟩
  · refine ⟨fun session hm => absurd hm (Table.not_mem_empty session),
      fun session hm => absurd hm (Table.not_mem_empty session), fun earlier visit hpre => ?_⟩
    exact absurd (List.prefix_nil.mp hpre) (by simp)

/-- **A session carries the role of its login.**  Whatever sequence of calls is run, what a
login returns or `auth_session` accepts was created by a login of the run, this one or an
earlier one, for a user of that name, and has the role that user had in the user store then,
and the permissions of that role. -/
theorem role_of_login (cfg : Settings) (users : UserStore) (turns : List (Turn AccessCall Time))
    (earlier : List Visited) (visit : Visited)
    (hvisit : earlier ++ [visit] <+: (runFrom cfg users turns).visits) :
    (∀ session, HandsOut visit session →
      ∃ login ∈ earlier ++ [visit], CreatedAt cfg login session) ∧
    ∀ session_id reset_password, visit.result = .ok (.login (some session_id) reset_password) →
      ∃ session, HandsOut visit session :=
  (provenance_run cfg users turns).told earlier visit hvisit

end Steps

/-! ## A role changed during a session -/

section Example

/-- root makes alice a manager while she is logged in. -/
def promotion : List (Turn AccessCall Time) :=
  [.call (.login "alice" "Seagate@1"),
    .call (.update_user ⟨"salt", 0, 0⟩ "alice" (.ofRole CSM_MANAGE_ROLE (by decide)) "root"),
    .call (.auth_session "f")]

theorem nodup_rootAndAlice : ([sampleUser "root" CSM_SUPER_USER_ROLE,
    sampleUser "alice" CSM_MONITOR_ROLE].map User.user_id).Nodup := by
  decide

def rootAndAlice : UserStore where
  rows := [sampleUser "root" CSM_SUPER_USER_ROLE, sampleUser "alice" CSM_MONITOR_ROLE]
  nodup := nodup_rootAndAlice

def shippedRoles : Settings := sampleSettings .database 0 0 (.init predefined_roles)

/-- The session is accepted with the role alice had, not the one she has. -/
theorem role_outlived : ∃ visit ∈ (runFrom shippedRoles rootAndAlice promotion).visits,
    ∃ session, visit.result = .ok (.session session) ∧
      ∃ user ∈ visit.after.users, user.user_id = session.credentials.user_id ∧
        session.get_user_role ≠ user.user_role ∧
        session.permissions ≠ shippedRoles.role_manager.effective [user.user_role] := by
  have hrun : ∃ visit ∈ (runFrom shippedRoles rootAndAlice promotion).visits,
      ∃ session ∈ accepted visit, ∃ user ∈ visit.after.users,
        user.user_id = session.credentials.user_id ∧ session.get_user_role ≠ user.user_role ∧
          ¬ session.permissions.Grants "users" "create" ∧
          (shippedRoles.role_manager.effective [user.user_role]).Grants "users" "create" := by
    decide +kernel
  obtain ⟨visit, hvisit, session, hs, user, hu, hid, hrole, hno, hyes⟩ := hrun
  refine ⟨visit, hvisit, session, accepted_some.mp hs, user, hu, hid, hrole, fun e => ?_⟩
  exact hno (e ▸ hyes)

/-- alice's session was created by her login. -/
theorem role_of_login_alice : ∃ earlier visit session,
    earlier ++ [visit] = (runFrom shippedRoles rootAndAlice promotion).visits ∧
      visit.result = .ok (.session session) ∧
      ∃ login ∈ earlier ++ [visit], CreatedAt shippedRoles login session := by
  have hlast : ∃ visit ∈ (runFrom shippedRoles rootAndAlice promotion).visits.getLast?,
      (accepted visit).isSome = true := by decide +kernel
  obtain ⟨visit, hvisit, hs⟩ := hlast
  obtain ⟨session, hs⟩ := Option.isSome_iff_exists.mp hs
  obtain ⟨earlier, hsplit⟩ := List.getLast?_eq_some_iff.mp hvisit
  have hresult : visit.result = .ok (.session session) := accepted_some.mp hs
  refine ⟨earlier, visit, session, hsplit.symm, hresult, ?_⟩
  have h := role_of_login shippedRoles rootAndAlice promotion earlier visit
    (hsplit ▸ List.prefix_rfl)
  refine h.1 session ?_
  rw [HandsOut, hresult]

end Example

end SessionRoles

end CortxCsm
