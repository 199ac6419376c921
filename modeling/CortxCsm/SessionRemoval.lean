/-
# `CortxCsm.SessionRemoval` — is it harmless to remove a session at the same time?

Every method that removes sessions ends in `QuotaSessionManager.delete`, which reads
the session again before it deletes it, and takes its credentials without a look at
what it has read.  When the session has gone since it was listed, or was never there,
this raises `AttributeError`; out of a sweep it ends the sweeping task.

What is asked of a run is therefore that every `delete` finds its session.  Two calls
read a session for themselves first and look at it, `auth_session` and
`delete_all_sessions`; that read is their first await, and nothing is asked of it.

A login compares its password with the stored hash.  The password comes out of JSON, where
half of a surrogate pair can stand alone; it has no encoding, and the login raises
`UnicodeEncodeError`.  So the passwords are asked to be comparable with what is stored.

**Proved here.**

    what a deletion reads is there                         (`session_get_triple`)
    what removes sessions raises nothing                   (`delete_triple`, `quotaSteps`)
    a login or an authentication raises a `CsmError`       (`login_triple`, …)
    so does every call of an admitted run, no sweep raises (`removal_harmless`)
    a logout during a sweep ends the sweep                 (`sweep_broken`)
-/
import CortxCsm.SessionSteps

namespace CortxCsm.SessionRemoval

open SessionManager QuotaSessionManager LoginService

/-! ## The condition -/

/-- The call's first await is a read of its own. -/
def LooksFirst : LoginCall → Bool
  | .auth_session _ => true
  | .delete_all_sessions _ => true
  | _ => false

/-- What a call can raise: only a login and an authentication refuse anything. -/
def MayRaise : LoginCall → Exc → Prop
  | .login _ _ | .auth_session _ => fun e => e.isCsm = true
  | .logout _ | .delete_all_sessions _ | .delete_all_sessions_for_user _
  | ._remove_expired_sessions => fun _ => False

theorem MayRaise.isCsm {call : LoginCall} {e : Exc} (h : MayRaise call e) : e.isCsm = true := by
  cases call with
  | login _ _ => exact h
  | auth_session _ => exact h
  | logout _ => exact h.elim
  | delete_all_sessions _ => exact h.elim
  | delete_all_sessions_for_user _ => exact h.elim
  | _remove_expired_sessions => exact h.elim

section Contract

variable {ι : Type} (calls : ι → LoginCall)

/-- A read of `i`'s that comes now is a `delete`'s. -/
def Deleting (i : ι) (hist : List (Event ι Op Op.Ans State Exc)) : Prop :=
  LooksFirst (calls i) = true → ∃ e ∈ hist, e.who = i

/-- What a run is asked at the operation `op` of call `i`: where a `delete` reads its
session, it is there. -/
def FindsSession (i : ι) : Op → World ι Op Op.Ans State Exc → Prop
  | .session_get session_id, w => Deleting calls i w.hist →
      ∃ session ∈ w.state.sessions, session.session_id = session_id
  | _, _ => True

variable [Runtime]

/-- The password can be compared with what is stored for a user with a local password: it has
an encoding, and what is stored is a hash. -/
def Comparable (user : User) (password : Str) : Prop :=
  AuthService._policies user.user_type = some .local_ →
    ∃ text hashed, password.encode = some text ∧ user.user_password = some hashed ∧
      (checkpw text hashed).isSome

/-- Every login's password can be compared with what is stored for its user. -/
def AllComparable (users : UserStore) : Prop :=
  ∀ i user_id password, calls i = .login user_id password →
    ∀ user ∈ users, lower user.user_id = lower user_id → Comparable user password

/-- The invariant is that of the user store; of the others' steps a call counts on the
history going on. -/
def removal : Contract ι Op Op.Ans State Exc Unit where
  inv w _ := AllComparable calls w.state.users
  rely _ a b := a.1.hist <+: b.1.hist
  may := FindsSession calls
  refl _ _ := List.prefix_refl _
  trans _ _ _ _ h h' := h.trans h'

/-- Call `i` is past its first look. -/
def Past (i : ι) (a : World ι Op Op.Ans State Exc × Unit) : Prop := Deleting calls i a.1.hist

/-- Nothing else is raised. -/
def Only (may : Exc → Prop) (e : Exc) (_ : World ι Op Op.Ans State Exc × Unit) : Prop := may e

/-- What is raised by a call that can refuse. -/
abbrev Csm : Exc → World ι Op Op.Ans State Exc × Unit → Prop := Only fun e => e.isCsm = true

variable {calls} {cfg : Settings} {i : ι} {may : Exc → Prop}

omit [Runtime] in
theorem Deleting.mono {hist hist' : List (Event ι Op Op.Ans State Exc)}
    (h : Deleting calls i hist) (hcontinues : hist <+: hist') : Deleting calls i hist' := by
  intro hlooks
  obtain ⟨e, he, hwho⟩ := h hlooks
  exact ⟨e, hcontinues.subset he, hwho⟩

theorem Past.stable : (removal calls).Stable i (Past calls i) := fun _ _ h hr => h.mono hr

/-! ## Operations -/

/-- An operation that leaves the users and raises nothing, and what its answer says. -/
theorem op_triple (op : Op) {P : World ι Op Op.Ans State Exc × Unit → Prop} {V : op.Ans → Prop}
    (hP : (removal calls).Stable i P)
    (hop : ∀ (w : World ι Op Op.Ans State Exc) r s', AllComparable calls w.state.users →
      P (w, ()) → FindsSession calls i op w → exec cfg.backend op w.state = some (r, s') →
        s'.users = w.state.users ∧ ∃ v, r = .ok v ∧ V v) :
    (removal calls).Triple cfg.machine i P (Coro.call op) (fun v a => Past calls i a ∧ V v)
      (Only may) := by
  refine .call hP (fun v => Past.stable.and (.const _)) (fun _ => .const _) ?_
  intro w _ r s' hinv hp hmay he
  obtain ⟨hs, v, rfl, hv⟩ := hop w r s' hinv hp hmay he
  refine ⟨(), ?_, fun _ _ => List.prefix_append _ _, ?_, hv⟩
  · show AllComparable calls s'.users
    rw [hs]
    exact hinv
  · intro _
    exact ⟨⟨i, op, w.state, .ok v⟩, List.mem_append_right _ (List.mem_singleton_self _), rfl⟩

/-- Code between two awaits. -/
theorem sync_triple {u : State → State} (hu : ∀ s, (u s).users = s.users) :
    (removal calls).Triple cfg.machine i (Past calls i) (Coro.write u)
      (fun _ => Past calls i) (Only may) := by
  refine .write fun w _ hinv hp => ⟨(), ?_, fun _ _ => List.prefix_refl _, hp⟩
  show AllComparable calls (u w.state).users
  rw [hu]
  exact hinv

/-- A read that `delete` makes finds the session. -/
theorem session_get_triple {session_id : String} :
    (removal calls).Triple cfg.machine i (Past calls i) (get session_id)
      (fun found a => Past calls i a ∧ found.isSome) (Only may) := by
  refine op_triple (.session_get session_id) (V := fun found => found.isSome = true)
    Past.stable ?_
  intro w r s' _ hpast hmay he
  cases he
  obtain ⟨session, hmem, hid⟩ := hmay hpast
  exact ⟨rfl, _, rfl, by rw [Table.find?_eq_some.mpr ⟨hmem, hid⟩]; rfl⟩

/-- An operation whose answer says nothing. -/
theorem quiet_triple (op : Op) {P : World ι Op Op.Ans State Exc × Unit → Prop}
    (hP : (removal calls).Stable i P)
    (hop : ∀ s r s', exec cfg.backend op s = some (r, s') →
      s'.users = s.users ∧ ∃ v, r = .ok v) :
    (removal calls).Triple cfg.machine i P (Coro.call op) (fun _ => Past calls i) (Only may) := by
  refine (op_triple op (V := fun _ => True) hP ?_).weaken (fun _ _ _ h => h.1) fun _ _ _ h => h
  intro w r s' _ _ _ he
  obtain ⟨hs, v, hv⟩ := hop w.state r s' he
  exact ⟨hs, v, hv, trivial⟩

/-- A read that is looked at. -/
theorem look_triple {session_id : String} :
    (removal calls).Triple cfg.machine i (fun _ => True) (get session_id)
      (fun _ => Past calls i) (Only may) := by
  refine quiet_triple (.session_get session_id) (.const _) ?_
  intro s r s' he
  cases he
  exact ⟨rfl, _, rfl⟩

theorem get_all_triple (caller : Caller) :
    (removal calls).Triple cfg.machine i (Past calls i) (get_all caller)
      (fun _ => Past calls i) (Only may) := by
  refine quiet_triple (.session_get_all caller) Past.stable ?_
  intro s r s' he
  cases he
  exact ⟨rfl, _, rfl⟩

theorem store_triple (caller : Caller) (session : Session) :
    (removal calls).Triple cfg.machine i (Past calls i)
      (Coro.call (Op.session_store caller session)) (fun _ => Past calls i) (Only may) := by
  refine quiet_triple (.session_store caller session) Past.stable ?_
  intro s r s' he
  cases he
  exact ⟨rfl, _, rfl⟩

/-- The user that a login finds can be compared with its password. -/
theorem get_user_triple (purpose : Purpose) {user_id : String} {password : Str}
    (hcall : calls i = .login user_id password) :
    (removal calls).Triple cfg.machine i (Past calls i) (UserManager.get purpose user_id)
      (fun user a => Past calls i a ∧ ∀ u ∈ user, Comparable u password) (Only may) := by
  refine Contract.Triple.bind (op_triple (.user_get purpose user_id)
    (V := fun all_users => ∀ user ∈ all_users, lower user.user_id = lower user_id →
      Comparable user password) Past.stable ?_) fun all_users => ?_
  · intro w r s' hinv _ _ he
    cases he
    exact ⟨rfl, _, rfl, hinv i user_id password hcall⟩
  · refine .ret fun _ _ h => ⟨h.1, fun u hu => ?_⟩
    obtain ⟨hmem, hname⟩ := UserManager.search_some (Option.mem_def.mp hu)
    exact h.2 u hmem hname

/-! ## Methods -/

theorem delete_triple (hdb : cfg.backend = .database) (session_id : String) :
    (removal calls).Triple cfg.machine i (Past calls i) (delete session_id)
      (fun _ => Past calls i) (Only may) := by
  refine session_get_triple.bind fun session => ?_
  refine .of_fact (fun _ _ h => h.2) fun hsome => ?_
  cases session with
  | none => cases hsome
  | some session =>
      refine Contract.Triple.bind (S := fun _ => Past calls i) ?_ fun _ => ?_
      · refine (quiet_triple (.session_delete session_id) Past.stable ?_).pre fun _ _ h => h.1
        intro s r s' he
        simp only [exec, hdb, Backend.delete, Option.some.injEq, Prod.mk.injEq] at he
        obtain ⟨rfl, rfl⟩ := he
        exact ⟨rfl, _, rfl⟩
      · exact sync_triple fun _ => rfl

theorem quotaSteps (hdb : cfg.backend = .database) :
    QuotaSteps cfg (removal calls) i (Past calls i) (Only may) where
  tally u hu := sync_triple fun s => by
    obtain ⟨active, restored, e⟩ := hu s
    rw [e]
  get_all := get_all_triple
  delete := delete_triple hdb

theorem create_triple (credentials : LocalCredentials) (permissions : PermissionSet) :
    (removal calls).Triple cfg.machine i (Past calls i)
      (SessionManager.create cfg credentials permissions) (fun _ => Past calls i) Csm := by
  refine Contract.Triple.bind (S := fun _ => Past calls i) ?_ fun session_id => ?_
  · refine .sync fun w _ hinv hp => ⟨(), hinv, fun _ _ => List.prefix_refl _, hp⟩
  · refine read_then fun expiry_time => ?_
    exact (store_triple .create _).bind fun _ => .ret fun _ _ h => h

theorem update_session_expiry_time_triple (hdb : cfg.backend = .database) (session : Session) :
    (removal calls).Triple cfg.machine i (Past calls i) (update_session_expiry_time cfg session)
      (fun _ => Past calls i) Csm := by
  refine read_then fun expiry_time => ?_
  rw [hdb]
  refine (sync_triple fun _ => rfl).bind fun _ => ?_
  exact (store_triple .update _).bind fun _ => .ret fun _ _ h => h

/-- What can be compared is compared, and nothing is raised. -/
theorem authenticate_triple {user : User} {password : Str} (hcompare : Comparable user password) :
    (removal calls).Triple cfg.machine i (Past calls i) (AuthService.authenticate user password)
      (fun credentials a => Past calls i a ∧ ∀ c ∈ credentials, c = ⟨user.user_id, user.user_role⟩)
      Csm := by
  rcases authenticate_cases user password with ⟨-, h⟩ | ⟨-, h | ⟨e, h⟩⟩
  · rw [h]
    exact .ret fun _ _ hp => ⟨hp, fun c hc => (Option.some.inj hc).symm⟩
  · rw [h]
    exact .ret fun _ _ hp => ⟨hp, fun c hc => absurd hc (Option.not_mem_none c)⟩
  · exfalso
    unfold AuthService.authenticate at h
    cases hpolicy : AuthService._policies user.user_type with
    | none =>
        rw [hpolicy] at h
        cases h
    | some policy =>
        rw [hpolicy] at h
        cases policy with
        | ldap => cases h
        | s3 => cases h
        | local_ =>
            obtain ⟨text, hashed, htext, hpassword, hcheck⟩ := hcompare hpolicy
            obtain ⟨ok, hok⟩ := Option.isSome_iff_exists.mp hcheck
            simp only [AuthPolicy.authenticate, Passwd.verify, htext, hpassword, hok] at h
            cases h

theorem login_triple (hdb : cfg.backend = .database) {user_id : String} {password : Str}
    (hcall : calls i = .login user_id password) :
    (removal calls).Triple cfg.machine i (Past calls i) (login cfg user_id password)
      (fun _ => Past calls i) Csm := by
  have hsession : ∀ user : User, (removal calls).Triple cfg.machine i (Past calls i)
      (sessionFor cfg user_id user ⟨user.user_id, user.user_role⟩) (fun _ => Past calls i) Csm := by
    intro user
    refine sessionFor_triple (get_all_triple _) (fun _ _ h => h)
      (fun _ session_id => delete_triple hdb session_id)
      (fun _ session _ _ => update_session_expiry_time_triple hdb session) ?_
    exact create_session_triple ((quotaSteps hdb).add_active_user _) (create_triple _ _)
      fun _ _ he _ _ => he
  exact (CortxCsm.login_triple (get_user_triple _ hcall)
    (fun _ hcompare => authenticate_triple hcompare) fun user _ => hsession user).weaken
      (fun _ _ _ h => Returned.kept (L := fun _ => Past calls i) (fun _ _ h => h) h) fun _ _ _ h => h

theorem auth_session_triple (hdb : cfg.backend = .database) (session_id : String) :
    (removal calls).Triple cfg.machine i (fun _ => True) (auth_session cfg session_id)
      (fun _ => Past calls i) Csm := by
  refine look_triple.bind fun session => ?_
  cases session with
  | none => exact .raise fun _ _ _ => rfl
  | some session =>
      refine read_then fun expired => ?_
      split
      · exact (delete_triple hdb session_id).bind fun _ => .raise fun _ _ _ => rfl
      · refine read_then fun expiry_time => ?_
        rw [hdb]
        exact (sync_triple fun _ => rfl).bind fun _ => .ret fun _ _ h => h

theorem delete_all_sessions_triple (hdb : cfg.backend = .database) (session_id : String) :
    (removal calls).Triple cfg.machine i (fun _ => True) (delete_all_sessions session_id)
      (fun _ => Past calls i) (Only may) := by
  refine look_triple.bind fun session => ?_
  cases session with
  | none => exact delete_triple hdb session_id
  | some session => exact (quotaSteps hdb).delete_all_sessions_for_user _

/-- Every call. -/
theorem program_triple (hdb : cfg.backend = .database) (calls : ι → LoginCall) (i : ι) :
    (removal calls).Triple cfg.machine i (fun _ => True) ((calls i).program cfg)
      (fun _ _ => True) (Only (MayRaise (calls i))) := by
  have hpast : LooksFirst (calls i) = false → ∀ a, (removal calls).inv a.1 a.2 → True →
      Past calls i a := by
    intro hlooks a _ _ h
    rw [hlooks] at h
    cases h
  cases h : calls i with
  | login user_id password =>
      rw [h] at hpast
      exact .map (((login_triple hdb h).pre (hpast rfl)).weaken
        (fun _ _ _ _ => trivial) fun _ _ _ he => he)
  | logout session_id =>
      rw [h] at hpast
      exact .map (((delete_triple hdb session_id).pre (hpast rfl)).weaken
        (fun _ _ _ _ => trivial) fun _ _ _ he => he)
  | auth_session session_id =>
      exact .map ((auth_session_triple hdb session_id).weaken (fun _ _ _ _ => trivial)
        fun _ _ _ he => he)
  | delete_all_sessions session_id =>
      exact .map ((delete_all_sessions_triple hdb session_id).weaken (fun _ _ _ _ => trivial)
        fun _ _ _ he => he)
  | delete_all_sessions_for_user user_id =>
      rw [h] at hpast
      exact .map ((((quotaSteps hdb).delete_all_sessions_for_user user_id).pre (hpast rfl)).weaken
        (fun _ _ _ _ => trivial) fun _ _ _ he => he)
  | _remove_expired_sessions =>
      rw [h] at hpast
      exact .map (((quotaSteps hdb)._remove_expired_sessions.pre (hpast rfl)).weaken
        (fun _ _ _ _ => trivial) fun _ _ _ he => he)

/-- In an admitted run a call raises what it may. -/
theorem raised_mayRaise [DecidableEq ι] (hdb : cfg.backend = .database) {s : State}
    (hs : AllComparable calls s.users) {as : List (Act ι Time)}
    (has : Config.Along cfg.machine (fun i => (calls i).program cfg)
      (Config.AtOps (FindsSession calls)) (.start s) as) {e : Exc}
    (he : ((Config.run cfg.machine (fun i => (calls i).program cfg) (.start s) as).thread i).raised =
      some e) : MayRaise (calls i) e := by
  have henv : (removal calls).AllowsEnv cfg.machine :=
    fun w _ elapsed hinv => ⟨(), hinv, fun _ => List.prefix_refl _⟩
  obtain ⟨_, -, hthreads⟩ := Contract.Triple.run (fun _ => .const True) (fun _ _ => .const True)
    (fun _ _ => .const _) henv (program_triple hdb calls) (x := ()) hs (fun _ => trivial) has
  exact (hthreads i).of_raised he

/-- **Removals are harmless** in every run in which a `delete` finds its session: no call
ends with anything but a `CsmError`, and no sweep raises at all. -/
theorem removal_harmless [DecidableEq ι] (cfg : Settings) (hdb : cfg.backend = .database)
    (calls : ι → LoginCall) (s : State) (hs : AllComparable calls s.users)
    (as : List (Act ι Time)) (has : Config.Along cfg.machine (fun i => (calls i).program cfg)
      (Config.AtOps (FindsSession calls)) (.start s) as) (i : ι) :
    (∀ e,
      ((Config.run cfg.machine (fun i => (calls i).program cfg) (.start s) as).thread i).raised =
        some e → e.isCsm = true) ∧
    (calls i = ._remove_expired_sessions →
      ((Config.run cfg.machine (fun i => (calls i).program cfg) (.start s) as).thread i).raised =
        none) := by
  refine ⟨fun e he => (raised_mayRaise hdb hs has he).isCsm, fun hsweep => ?_⟩
  refine Option.eq_none_iff_forall_ne_some.mpr fun e he => ?_
  have hraise := raised_mayRaise hdb hs has he
  rw [hsweep] at hraise
  exact hraise

end Contract

/-! ## A logout during a sweep -/

section Example

/-- Alice logs in; later the sessions are swept, she logs out, and her session is
presented. -/
def sweepAndLogout : Nat → LoginCall
  | 0 => .login "alice" "Seagate@1"
  | 1 => ._remove_expired_sessions
  | 2 => .logout "f"
  | _ => .auth_session "f"

def onlyAlice : State := .fresh ⟨[sampleUser "alice" CSM_MONITOR_ROLE], List.nodup_singleton _⟩

def unlimited : Settings := sampleSettings .database 0 0 .blank

/-- The session has expired, and the sweep has listed it, when it is logged out. -/
def duringSweep : List (Act Nat Time) :=
  List.replicate 7 (.run 0) ++ [.env (2 * _expiry_interval)] ++ List.replicate 3 (.run 1) ++
    List.replicate 5 (.run 2) ++ List.replicate 2 (.run 1)

/-- The sweep raises what no caller of it catches. -/
theorem sweep_broken :
    ((Config.run unlimited.machine (fun i => (sweepAndLogout i).program unlimited)
      (.start onlyAlice) duringSweep).thread 1).raised = some .attributeError ∧
        Exc.attributeError.isCsm = false := by
  decide +kernel

instance (i : Nat) : (op : Op) → (w : World Nat Op Op.Ans State Exc) →
    Decidable (FindsSession sweepAndLogout i op w)
  | .session_get session_id, w =>
      inferInstanceAs (Decidable ((LooksFirst (sweepAndLogout i) = true →
        ∃ e ∈ w.hist, e.who = i) → ∃ session ∈ w.state.sessions, session.session_id = session_id))
  | .lock_acquire, _ | .user_get _ _, _ | .user_count, _ | .user_count_admins, _
  | .user_store _, _ | .user_delete _, _ | .session_get_all _, _ | .session_store _ _, _
  | .session_delete _, _ => isTrue trivial

/-- A sweep, a logout and an authentication at once, while the session is valid: the sweep has
listed the session when it goes, and the authentication looks for it after that. -/
def allAtOnce : List (Act Nat Time) :=
  List.replicate 7 (.run 0) ++
    [.run 1, .run 2, .run 1, .run 2, .run 3, .run 2, .run 2, .run 1, .run 2, .run 3, .run 3]

theorem comparable_onlyAlice : AllComparable sweepAndLogout onlyAlice.users := by
  intro i user_id password hcall user huser _ _
  rw [List.mem_singleton.mp huser]
  -- Only the first call is a login.
  match i with
  | 0 =>
      cases hcall
      refine ⟨_, _, Str.encode_ofString _, rfl, ?_⟩
      rw [Runtime.checkpw_hashpw]
      rfl
  | 1 | 2 | _ + 3 => cases hcall

theorem removal_harmless_alice : (invalidSession "f").isCsm = true ∧
    ((Config.run unlimited.machine (fun i => (sweepAndLogout i).program unlimited)
      (.start onlyAlice) allAtOnce).thread 1).raised = none := by
  have h := removal_harmless unlimited rfl sweepAndLogout onlyAlice comparable_onlyAlice allAtOnce
    (by decide +kernel)
  exact ⟨(h 3).1 (invalidSession "f") (by decide +kernel), (h 1).2 rfl⟩

/-- A password without an encoding. -/
example : ((Config.run unlimited.machine
    (fun _ : Nat => (LoginCall.login "alice" ⟨[.inr 0]⟩).program unlimited)
    (.start onlyAlice) (List.replicate 3 (.run 0))).thread 0).raised = some .valueError := by
  decide +kernel

end Example

end CortxCsm.SessionRemoval
