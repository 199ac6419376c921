/-
# `CortxCsm.SessionLife` — how long a session lives

A lease is what the clients of `LoginService` can know of a session from the calls and their
answers alone: whose it is, and until when.  `leases` reads them off the calls so far, without
looking at any store.

| a call that succeeds | |
| :-- | :-- |
| `login` | leases the session it returns, for an hour |
| `auth_session` | renews the lease, where the backend keeps the objects |
| `logout` | ends the lease |
| `delete_all_sessions_for_user`, `delete_all_sessions` | end those of one owner |
| `_remove_expired_sessions` | nothing |

The stored sessions follow the leases: each is leased with its expiry time, and a lease that
has not run out has its session stored.  Expired sessions go at any time, in a sweep, in a
login or when they are used.

**Proved here.**

    sweeps and the quota remove expired sessions only      (`add_active_user_swept`)
    what a login hands out                                 (`login_handed`)
    the store follows the leases                           (`Answers.of_call`)
    a session is accepted exactly as long as it is leased  (`session_life_exact`)
    and so is a request that shows it                      (`access_exact`)
-/
import CortxCsm.Admission
import CortxCsm.Gate
import CortxCsm.SessionSteps

namespace CortxCsm.SessionLife

open Contract SessionManager QuotaSessionManager LoginService
open Admission (Left removed delete_removed expiryAssigned_cases)

/-! ## Leases -/

/-- The owner's name in lower case, and the last moment of the lease. -/
structure Lease where
  owner : String
  until_ : Time

abbrev Leases := String → Option Lease

/-- A call of the run, with the states on both sides of it. -/
abbrev Visited := Visit LoginCall State Exc Response

section Leases

variable [Runtime]

/-- The leases of the other owners. -/
def Leases.without (leases : Leases) (owner : String) : Leases :=
  fun session_id => (leases session_id).filter fun lease => decide (lease.owner ≠ owner)

/-- What a call does to the leases, by its answer and its time. -/
def Leases.after (b : Backend) (leases : Leases) (visit : Visited) : Leases :=
  let until_ := visit.before.clock + _expiry_interval
  match visit.call, visit.result with
  | .login user_id _, .ok (.login (some session_id) _) =>
      Function.update leases session_id (some ⟨lower user_id, until_⟩)
  | .auth_session session_id, .ok _ =>
      match b with
      | .inMemory => Function.update leases session_id
          ((leases session_id).map fun lease => { lease with until_ := until_ })
      | .database => leases
  | .logout session_id, .ok _ => Function.update leases session_id none
  | .delete_all_sessions_for_user user_id, .ok _ => leases.without (lower user_id)
  | .delete_all_sessions session_id, .ok _ =>
      match leases session_id with
      | some lease => leases.without lease.owner
      | none => leases
  | _, _ => leases

/-- The leases after these calls. -/
def leases (b : Backend) (visits : List Visited) : Leases :=
  visits.foldl (Leases.after b) fun _ => none

end Leases

/-! ## Removing expired sessions -/

/-- Since `s₀` only sessions that had expired have been removed. -/
structure Swept (s₀ s : State) : Prop where
  clock : s.clock = s₀.clock
  users : s.users = s₀.users
  drawn : s.drawn = s₀.drawn
  old : ∀ session ∈ s.sessions, session ∈ s₀.sessions
  stays : ∀ session ∈ s₀.sessions, ¬ s₀.clock > session.expiry_time → session ∈ s.sessions

namespace Swept

variable {s₀ s s' : State}

theorem refl (s : State) : Swept s s := ⟨rfl, rfl, rfl, fun _ h => h, fun _ h _ => h⟩

/-- A step that leaves the sessions alone. -/
theorem keep (h : Swept s₀ s) (hclock : s'.clock = s.clock) (husers : s'.users = s.users)
    (hdrawn : s'.drawn = s.drawn) (hsessions : s'.sessions = s.sessions) : Swept s₀ s' where
  clock := hclock.trans h.clock
  users := husers.trans h.users
  drawn := hdrawn.trans h.drawn
  old session hs := h.old session (hsessions ▸ hs)
  stays session hs hlives := hsessions ▸ h.stays session hs hlives

/-- An expired session is removed. -/
theorem remove (h : Swept s₀ s) {gone : Session} (hgone : gone ∈ s₀.sessions)
    (hexpired : s₀.clock > gone.expiry_time) :
    Swept s₀ { s with sessions := s.sessions.remove gone.session_id } where
  clock := h.clock
  users := h.users
  drawn := h.drawn
  old session hs := h.old session (Table.mem_remove.mp hs).1
  stays session hs hlives := by
    refine Table.mem_remove.mpr ⟨h.stays session hs hlives, fun hid => hlives ?_⟩
    rwa [Table.eq_of_key hs hgone hid]

end Swept

section Steps

variable {cfg : Settings} {s₀ : State}

/-- The contract of a call that runs alone. -/
abbrev lone : Contract Unit Op Op.Ans State Exc Unit := alone Op Op.Ans State Exc

abbrev Sweeping (s₀ : State) (a : World Unit Op Op.Ans State Exc × Unit) : Prop :=
  Swept s₀ a.1.state

theorem get_all_swept {caller : Caller} :
    lone.Triple cfg.machine () (Sweeping s₀) (get_all caller)
      (fun sessions a => Sweeping s₀ a ∧ ∀ session ∈ sessions, session ∈ s₀.sessions)
      fun _ => Sweeping s₀ := by
  refine Triple.callAlone (P := Swept s₀) (R := fun sessions s => Swept s₀ s ∧
    ∀ session ∈ sessions, session ∈ s₀.sessions) (E := fun _ => Swept s₀) fun s r s' hp he => ?_
  cases he
  exact ⟨hp, hp.old⟩

theorem write_swept {u : State → State} (hu : ∀ s, Swept s₀ s → Swept s₀ (u s)) :
    lone.Triple cfg.machine () (Sweeping s₀) (Coro.write u) (fun _ => Sweeping s₀)
      fun _ => Sweeping s₀ :=
  Triple.syncAlone (R := fun _ => Swept s₀) (E := fun _ => Swept s₀) hu

theorem delete_removes_or_not (b : Backend) (sessions : SessionStore) (session_id : String) :
    (b.delete sessions session_id).2 = sessions.remove session_id ∨
      (b.delete sessions session_id).2 = sessions := by
  cases b with
  | database => exact .inl rfl
  | inMemory =>
      rw [Backend.delete_inMemory]
      split
      · exact .inl rfl
      · exact .inr rfl

/-- `delete`, of a session that has expired. -/
theorem delete_swept {session : Session} (hs : session ∈ s₀.sessions)
    (hexpired : s₀.clock > session.expiry_time) :
    lone.Triple cfg.machine () (Sweeping s₀) (QuotaSessionManager.delete session.session_id)
      (fun _ => Sweeping s₀) fun _ => Sweeping s₀ := by
  have hget : lone.Triple cfg.machine () (Sweeping s₀) (SessionManager.get session.session_id)
      (fun _ => Sweeping s₀) fun _ => Sweeping s₀ := by
    refine Triple.callAlone (P := Swept s₀) (R := fun _ => Swept s₀) (E := fun _ => Swept s₀)
      fun s r s' hp he => ?_
    cases he
    exact hp
  refine hget.bind fun found => ?_
  cases found with
  | none => exact .raise fun _ _ h => h
  | some found =>
      have hdelete : lone.Triple cfg.machine () (Sweeping s₀)
          (Coro.call (Op.session_delete session.session_id)) (fun _ => Sweeping s₀)
          fun _ => Sweeping s₀ := by
        refine Triple.callAlone (P := Swept s₀) (R := fun _ => Swept s₀) (E := fun _ => Swept s₀)
          fun s r s' hp he => ?_
        have hs' : Swept s₀ s' := by
          simp only [Settings.machine, exec, Option.some.injEq, Prod.mk.injEq] at he
          obtain ⟨-, rfl⟩ := he
          rcases delete_removes_or_not cfg.backend s.sessions session.session_id with hd | hd
          · rw [hd]
            exact hp.remove hs hexpired
          · rw [hd]
            exact hp
        cases r with
        | ok v => exact hs'
        | error e => exact hs'
      exact hdelete.bind fun _ => write_swept fun _ hp => hp.keep rfl rfl rfl rfl

theorem deleteIfExpired_swept {session : Session} (hs : session ∈ s₀.sessions) :
    lone.Triple cfg.machine () (Sweeping s₀) (deleteIfExpired session) (fun _ => Sweeping s₀)
      fun _ => Sweeping s₀ := by
  refine .read_bind (S := fun expired a => Sweeping s₀ a ∧
    expired = decide (a.1.state.clock > session.expiry_time)) (fun _ _ _ h => ⟨h, rfl⟩)
    fun expired => ?_
  split
  · rename_i hyes
    refine .of_fact (q := s₀.clock > session.expiry_time) (fun a _ h => ?_) fun hexpired =>
      (delete_swept hs hexpired).pre fun _ _ h => h.1
    rw [hyes] at h
    exact h.1.clock ▸ of_decide_eq_true h.2.symm
  · exact .ret fun _ _ h => h.1

/-- A loop over the sessions listed. -/
theorem each_swept {f : Session → Prog Unit}
    (hf : ∀ session ∈ s₀.sessions, lone.Triple cfg.machine () (Sweeping s₀) (f session)
      (fun _ => Sweeping s₀) fun _ => Sweeping s₀) (caller : Caller) :
    lone.Triple cfg.machine () (Sweeping s₀) (get_all caller >>= fun sessions => sessions.forM f)
      (fun _ => Sweeping s₀) fun _ => Sweeping s₀ := by
  refine get_all_swept.bind fun sessions => ?_
  refine (Triple.forM (J := fun rest a => Sweeping s₀ a ∧ ∀ session ∈ rest,
    session ∈ s₀.sessions) (fun session rest => ?_) sessions).weaken (fun _ _ _ h => h.1)
      fun _ _ _ h => h
  refine .of_fact (fun _ _ h => h.2) fun hlisted => ?_
  exact (hf session (hlisted session List.mem_cons_self)).conseq (fun _ _ h => h.1)
    (fun _ _ _ h => ⟨h, fun x hx => hlisted x (List.mem_cons_of_mem _ hx)⟩) fun _ _ _ h => h

theorem sweep_swept : lone.Triple cfg.machine () (Sweeping s₀) _remove_expired_sessions
    (fun _ => Sweeping s₀) fun _ => Sweeping s₀ :=
  each_swept (fun _ hs => deleteIfExpired_swept hs) _

theorem admitUser_swept (user_id : String) :
    lone.Triple cfg.machine () (Sweeping s₀) (admitUser cfg user_id) (fun _ => Sweeping s₀)
      fun _ => Sweeping s₀ := by
  refine read_then fun active => ?_
  dsimp only
  split
  · exact .ret fun _ _ h => h
  · split
    · exact .ret fun _ _ h => h
    · refine Triple.bind (S := fun _ => Sweeping s₀)
        (write_swept fun _ hp => hp.keep rfl rfl rfl rfl) fun _ => ?_
      exact .ret fun _ _ h => h

theorem addActiveUser_swept {restore : Prog Unit}
    (hrestore : lone.Triple cfg.machine () (Sweeping s₀) restore (fun _ => Sweeping s₀)
      fun _ => Sweeping s₀) (user_id : String) :
    lone.Triple cfg.machine () (Sweeping s₀) (addActiveUser cfg restore user_id)
      (fun _ => Sweeping s₀) fun _ => Sweeping s₀ :=
  addActiveUser_triple (write_swept fun _ hp => hp.keep rfl rfl rfl rfl) hrestore sweep_swept
    (admitUser_swept user_id) fun _ _ h => h

theorem restoreSession_swept {session : Session} (hs : session ∈ s₀.sessions) :
    lone.Triple cfg.machine () (Sweeping s₀) (restoreSession (addRestored cfg) session)
      (fun _ => Sweeping s₀) fun _ => Sweeping s₀ := by
  refine .read_bind (S := fun expired a => Sweeping s₀ a ∧
    expired = decide (a.1.state.clock > session.expiry_time)) (fun _ _ _ h => ⟨h, rfl⟩)
    fun expired => ?_
  split
  · rename_i hyes
    refine .of_fact (q := s₀.clock > session.expiry_time) (fun a _ h => ?_) fun hexpired =>
      (delete_swept hs hexpired).pre fun _ _ h => h.1
    rw [hyes] at h
    exact h.1.clock ▸ of_decide_eq_true h.2.symm
  · refine ((addActiveUser_swept (.ret fun _ _ h => h) _).pre fun _ _ h => h.1).bind fun _ => ?_
    exact .ret fun _ _ h => h

/-- The bookkeeping of the quota removes expired sessions only. -/
theorem add_active_user_swept (user_id : String) :
    lone.Triple cfg.machine () (Sweeping s₀) (_add_active_user_with_quota cfg user_id)
      (fun _ => Sweeping s₀) fun _ => Sweeping s₀ :=
  addActiveUser_swept (each_swept (fun _ hs => restoreSession_swept hs) _) user_id

end Steps

/-! ## A login -/

section Login

variable [Runtime] {cfg : Settings} {name : String} {s₀ : State}

/-- A session of `name` that had not expired, with another expiry time. -/
structure Refreshed (name : String) (s₀ : State) (y session : Session) : Prop where
  stored : y ∈ s₀.sessions
  lives : ¬ s₀.clock > y.expiry_time
  of : IsOf name y
  session_id : y.session_id = session.session_id
  credentials : y.credentials = session.credentials
  permissions : y.permissions = session.permissions

/-- The credentials and the permissions of the user that `name` finds. -/
def OfUser (cfg : Settings) (users : UserStore) (name : String) (session : Session) : Prop :=
  ∃ user, UserManager.search users.rows name = some user ∧
    session.credentials = ⟨user.user_id, user.user_role⟩ ∧
    session.permissions = cfg.role_manager.effective [user.user_role]

/-- A session with an id that is drawn now, of the user that `name` finds. -/
structure Created (cfg : Settings) (name : String) (s₀ s : State) (session : Session) : Prop where
  undrawn : ¬ Drawn cfg s₀ session.session_id
  drawn : Drawn cfg s session.session_id
  owner : OfUser cfg s₀.users name session

/-- A login of `name` has handed out the session; the others are those there were, less some
that had expired. -/
structure Handed (cfg : Settings) (name : String) (s₀ s : State) (session : Session) : Prop where
  clock : s.clock = s₀.clock
  users : s.users = s₀.users
  drawn : s₀.drawn ≤ s.drawn
  stored : session ∈ s.sessions
  expiry_time : session.expiry_time = s₀.clock + _expiry_interval
  old : ∀ x ∈ s.sessions, x = session ∨ x ∈ s₀.sessions ∧ x.session_id ≠ session.session_id
  stays : ∀ x ∈ s₀.sessions, ¬ s₀.clock > x.expiry_time →
    x.session_id ≠ session.session_id → x ∈ s.sessions
  source : (∃ y, Refreshed name s₀ y session) ∨ Created cfg name s₀ s session

abbrev Handing (cfg : Settings) (name : String) (s₀ : State) (session : Session)
    (a : World Unit Op Op.Ans State Exc × Unit) : Prop :=
  Handed cfg name s₀ a.1.state session

omit [Runtime] in
theorem calc_expiry_time_bind {α : Type} {f : Time → Prog α}
    {R : α → World Unit Op Op.Ans State Exc × Unit → Prop}
    {P : State → Prop} (hP : ∀ s, P s → s.clock = s₀.clock)
    (hf : lone.Triple cfg.machine () (fun a => P a.1.state)
      (f (s₀.clock + _expiry_interval)) R fun _ => Sweeping s₀) :
    lone.Triple cfg.machine () (fun a => P a.1.state) (calc_expiry_time >>= f) R
      fun _ => Sweeping s₀ := by
  refine .read_bind (S := fun expiry_time a => P a.1.state ∧
    expiry_time = s₀.clock + _expiry_interval) (fun w _ _ h => ⟨h, ?_⟩) fun expiry_time => ?_
  · rw [hP w.state h]
  · refine .of_fact (fun _ _ h => h.2) fun he => ?_
    rw [he]
    exact hf.pre fun _ _ h => h.1

/-- A valid session is refreshed. -/
theorem refresh_handed {session : Session} (hs : session ∈ s₀.sessions)
    (hlives : ¬ s₀.clock > session.expiry_time) (hof : IsOf name session) :
    lone.Triple cfg.machine () (Sweeping s₀) (update_session_expiry_time cfg session)
      (Handing cfg name s₀) fun _ => Sweeping s₀ := by
  refine calc_expiry_time_bind (fun _ hp => hp.clock) ?_
  refine Triple.bind (S := fun _ a => ∃ s, Swept s₀ s ∧
    a.1.state = expiryAssigned cfg.backend session.session_id (s₀.clock + _expiry_interval) s) ?_
    fun _ => ?_
  · exact Triple.syncAlone (P := Swept s₀) (R := fun _ t => ∃ s, Swept s₀ s ∧
      t = expiryAssigned cfg.backend session.session_id (s₀.clock + _expiry_interval) s)
      (E := fun _ => Swept s₀) fun s hp => ⟨s, hp, rfl⟩
  refine Triple.bind (S := fun _ => Handing cfg name s₀
    { session with expiry_time := s₀.clock + _expiry_interval }) ?_ fun _ => .ret fun _ _ h => h
  refine Triple.callAlone (P := fun t => ∃ s, Swept s₀ s ∧
    t = expiryAssigned cfg.backend session.session_id (s₀.clock + _expiry_interval) s)
    (R := fun _ t => Handed cfg name s₀ t _) (E := fun _ => Swept s₀) ?_
  rintro t r t' ⟨s, hp, rfl⟩ he
  simp only [Settings.machine, exec, Backend.store_eq, Option.some.injEq, Prod.mk.injEq] at he
  obtain ⟨rfl, rfl⟩ := he
  have hmem : session ∈ s.sessions := hp.stays session hs hlives
  -- the assignment touches the session itself, if anything
  have hassigned : ∃ sessions : SessionStore,
      expiryAssigned cfg.backend session.session_id (s₀.clock + _expiry_interval) s =
        { s with sessions := sessions } ∧
      ∀ x, x.session_id ≠ session.session_id → (x ∈ sessions ↔ x ∈ s.sessions) := by
    rcases expiryAssigned_cases cfg.backend hmem (s₀.clock + _expiry_interval) with e | e
    · exact ⟨s.sessions, e, fun _ _ => Iff.rfl⟩
    · refine ⟨_, e, fun x hx => Table.mem_upsert.trans ⟨fun h => ?_, fun h => .inr ⟨h, hx⟩⟩⟩
      rcases h with rfl | h
      · exact absurd rfl hx
      · exact h.1
  obtain ⟨sessions, he, hothers⟩ := hassigned
  rw [he]
  refine ⟨hp.clock, hp.users, hp.drawn.ge, Table.self_mem_upsert _ _, rfl, fun x hx => ?_, ?_, ?_⟩
  · refine (Table.mem_upsert.mp hx).imp_right fun h => ⟨?_, h.2⟩
    exact hp.old x ((hothers x h.2).mp h.1)
  · intro x hx hxlives hne
    exact Table.mem_upsert.mpr (.inr ⟨(hothers x hne).mpr (hp.stays x hx hxlives), hne⟩)
  · exact .inl ⟨session, hs, hlives, hof, rfl, rfl, rfl⟩

/-- The loop: expired sessions of the user are removed, and the first valid one is refreshed. -/
theorem findValid_handed : ∀ sessions : List Session,
    (∀ session ∈ sessions, session ∈ s₀.sessions) →
      lone.Triple cfg.machine () (Sweeping s₀) (findValid cfg name sessions)
        (OrNone (Handing cfg name s₀) (Sweeping s₀)) fun _ => Sweeping s₀
  | [], _ => .ret fun _ _ h => h
  | session :: rest, hlisted => by
      have hs := hlisted session List.mem_cons_self
      have hrest : lone.Triple cfg.machine () (Sweeping s₀) (findValid cfg name rest)
          (OrNone (Handing cfg name s₀) (Sweeping s₀)) fun _ => Sweeping s₀ :=
        findValid_handed rest fun x hx => hlisted x (List.mem_cons_of_mem _ hx)
      rw [findValid]
      split
      · rename_i hof
        refine .read_bind (S := fun expired a => Sweeping s₀ a ∧
          expired = decide (a.1.state.clock > session.expiry_time)) (fun _ _ _ h => ⟨h, rfl⟩)
          fun expired => ?_
        refine .of_fact (q := expired = decide (s₀.clock > session.expiry_time))
          (fun _ _ h => h.1.clock ▸ h.2) fun hexpired => ?_
        refine .pre (P := Sweeping s₀) ?_ fun _ _ h => h.1
        rw [hexpired]
        split
        · rename_i hyes
          exact (delete_swept hs (of_decide_eq_true hyes)).bind fun _ => hrest
        · rename_i hno
          refine (refresh_handed hs (of_decide_eq_false (Bool.eq_false_iff.mpr hno)) hof).bind
            fun _ => ?_
          exact .ret fun _ _ h => h
      · exact hrest

/-- A new session is stored under a fresh id. -/
theorem create_handed {user : User} (huser : UserManager.search s₀.users.rows name = some user) :
    lone.Triple cfg.machine () (Sweeping s₀)
      (SessionManager.create cfg ⟨user.user_id, user.user_role⟩
        (cfg.role_manager.effective [user.user_role]))
      (Handing cfg name s₀) fun _ => Sweeping s₀ := by
  let Drew (session_id : String) (t : State) : Prop := ∃ s, Swept s₀ s ∧
    t = { s with drawn := s.drawn + 1 } ∧ session_id = cfg.uuid4 s.drawn
  refine Triple.bind (S := fun session_id a => Drew session_id a.1.state) ?_ fun session_id => ?_
  · exact Triple.syncAlone (P := Swept s₀) (R := Drew) (E := fun _ => Swept s₀)
      fun s hp => ⟨s, hp, rfl, rfl⟩
  refine calc_expiry_time_bind (P := Drew session_id) ?_ ?_
  · rintro _ ⟨s, hp, rfl, -⟩
    exact hp.clock
  refine Triple.bind (S := fun _ => Handing cfg name s₀
    ⟨session_id, s₀.clock + _expiry_interval, ⟨user.user_id, user.user_role⟩,
      cfg.role_manager.effective [user.user_role]⟩) ?_ fun _ => .ret fun _ _ h => h
  refine Triple.callAlone (P := Drew session_id) (R := fun _ t => Handed cfg name s₀ t _)
    (E := fun _ => Swept s₀) ?_
  rintro _ r t ⟨s, hp, rfl, rfl⟩ he
  simp only [Settings.machine, exec, Backend.store_eq, Option.some.injEq, Prod.mk.injEq] at he
  obtain ⟨rfl, rfl⟩ := he
  refine ⟨hp.clock, hp.users, hp.drawn ▸ Nat.le_succ _, Table.self_mem_upsert _ _, rfl,
    fun x hx => ?_, fun x hx hlives hne => ?_, .inr ⟨?_, ?_, user, huser, rfl, rfl⟩⟩
  · exact (Table.mem_upsert.mp hx).imp_right fun h => ⟨hp.old x h.1, h.2⟩
  · exact Table.mem_upsert.mpr (.inr ⟨hp.stays x hx hlives, hne⟩)
  · exact fun h => h s.drawn hp.drawn.ge rfl
  · exact fun n hn e => absurd (cfg.uuid4_injective e) (Nat.ne_of_gt hn)

/-- `login`: a session is handed out, or only expired ones are removed. -/
theorem login_handed (name : String) (password : Str) :
    lone.Triple cfg.machine () (Sweeping s₀) (login cfg name password)
      (Returned (Handing cfg name s₀) (Sweeping s₀)) fun _ => Sweeping s₀ := by
  refine login_triple (U := fun user => UserManager.search s₀.users.rows name = some user) ?_
    (fun user _ => authenticate_triple fun _ _ _ h => h) fun user huser => ?_
  · refine Triple.bind (S := fun (all_users : List User) a => Sweeping s₀ a ∧
      all_users = s₀.users.rows) ?_ fun all_users => .ret fun _ _ h => ⟨h.1, fun user hu => h.2 ▸ hu⟩
    refine @Triple.callAlone Op Op.Ans State Exc Time _ (Swept s₀) (fun _ => Swept s₀)
      (Op.user_get .record name) (fun all_users s => Swept s₀ s ∧ all_users = s₀.users.rows) ?_
    intro s r s' hp he
    cases he
    exact ⟨hp, congrArg Table.rows hp.users⟩
  · have hfind : lone.Triple cfg.machine () (Sweeping s₀) (_is_valid_session_exists cfg name)
        (OrNone (Handing cfg name s₀) (Sweeping s₀)) fun _ => Sweeping s₀ := by
      refine get_all_swept.bind fun sessions => ?_
      refine .of_fact (fun _ _ h => h.2) fun hlisted => ?_
      exact (findValid_handed sessions hlisted).pre fun _ _ h => h.1
    refine hfind.bind fun found => ?_
    cases found with
    | some session => exact .ret fun _ _ h => h
    | none =>
        exact create_session_triple (add_active_user_swept _) (create_handed huser)
          fun _ _ _ _ h => h

end Login

/-! ## The store follows the leases -/

section Follows

variable [Runtime] {cfg : Settings} {users : UserStore} {L L' : Leases} {s s' : State}

/-- Every session that is stored is leased until it expires, every lease that has not run out
is that of a stored session, and no id that is leased is drawn again. -/
structure Follows (cfg : Settings) (users : UserStore) (L : Leases) (s : State) : Prop where
  kept : s.users = users
  stored : ∀ x ∈ s.sessions,
    L x.session_id = some ⟨lower x.credentials.user_id, x.expiry_time⟩
  leased : ∀ session_id lease, L session_id = some lease → ¬ s.clock > lease.until_ →
    ∃ x ∈ s.sessions, x.session_id = session_id
  drawn : ∀ session_id lease, L session_id = some lease → Drawn cfg s session_id
  owners : ∀ x ∈ s.sessions, OfUser cfg users x.credentials.user_id x

theorem OfUser.congr {name name' : String} {session : Session}
    (h : OfUser cfg users name session) (hname : lower name = lower name') :
    OfUser cfg users name' session := by
  obtain ⟨user, huser, hsession⟩ := h
  refine ⟨user, ?_, hsession⟩
  rw [← huser, UserManager.search, UserManager.search, hname]

theorem OfUser.isOf {name : String} {session : Session} (h : OfUser cfg users name session) :
    IsOf name session := by
  obtain ⟨user, huser, hcredentials, -⟩ := h
  rw [IsOf, hcredentials]
  exact (UserManager.search_some huser).2

namespace Follows

theorem start (cfg : Settings) (users : UserStore) :
    Follows cfg users (fun _ => none) (.fresh users) where
  kept := rfl
  stored x hx := absurd hx (Table.not_mem_empty x)
  leased _ _ h := by cases h
  drawn _ _ h := by cases h
  owners x hx := absurd hx (Table.not_mem_empty x)

theorem elapse (h : Follows cfg users L s) (elapsed : Time) :
    Follows cfg users L { s with clock := s.clock + elapsed } where
  kept := h.kept
  stored := h.stored
  leased session_id lease hl hlives :=
    h.leased session_id lease hl fun hout => hlives (Nat.lt_add_right elapsed hout)
  drawn := h.drawn
  owners := h.owners

/-- A lease is that of the session. -/
theorem lease_eq (h : Follows cfg users L s) {x : Session} (hx : x ∈ s.sessions) {lease : Lease}
    (hl : L x.session_id = some lease) :
    lease = ⟨lower x.credentials.user_id, x.expiry_time⟩ :=
  Option.some.inj (hl.symm.trans (h.stored x hx))

/-- Expired sessions go. -/
theorem sweep (h : Follows cfg users L s) (hswept : Swept s s') : Follows cfg users L s' where
  kept := hswept.users.trans h.kept
  stored x hx := h.stored x (hswept.old x hx)
  leased session_id lease hl hlives := by
    rw [hswept.clock] at hlives
    obtain ⟨x, hx, rfl⟩ := h.leased session_id lease hl hlives
    rw [h.lease_eq hx hl] at hlives
    exact ⟨x, hswept.stays x hx hlives, rfl⟩
  drawn session_id lease hl n hn := h.drawn session_id lease hl n (hswept.drawn ▸ hn)
  owners x hx := h.owners x (hswept.old x hx)

/-- Sessions go together with their leases. -/
theorem remove (h : Follows cfg users L s) (gone : String → Prop) (hclock : s'.clock = s.clock)
    (husers : s'.users = s.users) (hdrawn : s'.drawn = s.drawn)
    (hsessions : ∀ x, x ∈ s'.sessions ↔ x ∈ s.sessions ∧ ¬ gone x.session_id)
    (hleases : ∀ session_id lease,
      L' session_id = some lease ↔ L session_id = some lease ∧ ¬ gone session_id) :
    Follows cfg users L' s' where
  kept := husers.trans h.kept
  stored x hx := by
    obtain ⟨hx, hstays⟩ := (hsessions x).mp hx
    exact (hleases _ _).mpr ⟨h.stored x hx, hstays⟩
  leased session_id lease hl hlives := by
    obtain ⟨hl, hstays⟩ := (hleases _ _).mp hl
    rw [hclock] at hlives
    obtain ⟨x, hx, rfl⟩ := h.leased session_id lease hl hlives
    exact ⟨x, (hsessions x).mpr ⟨hx, hstays⟩, rfl⟩
  drawn session_id lease hl n hn :=
    h.drawn session_id lease ((hleases _ _).mp hl).1 n (hdrawn ▸ hn)
  owners x hx := h.owners x ((hsessions x).mp hx).1

/-- A session is stored with a new expiry time, and its lease lasts as long. -/
theorem renew (h : Follows cfg users L s) {x : Session} (hx : x ∈ s.sessions)
    (expiry_time : Time) :
    Follows cfg users
      (Function.update L x.session_id
        ((L x.session_id).map fun lease => { lease with until_ := expiry_time }))
      { s with sessions := s.sessions.upsert { x with expiry_time := expiry_time } } := by
  have hother : ∀ session_id ≠ x.session_id, Function.update L x.session_id
      ((L x.session_id).map fun lease => { lease with until_ := expiry_time }) session_id =
        L session_id := fun session_id hne => Function.update_of_ne hne _ _
  refine ⟨h.kept, fun y hy => ?_, fun session_id lease hl hlives => ?_,
    fun session_id lease hl => ?_, fun y hy => ?_⟩
  · rcases Table.mem_upsert.mp hy with rfl | ⟨hy, hne⟩
    · rw [Function.update_self, h.stored x hx]
      rfl
    · rw [hother _ hne]
      exact h.stored y hy
  · by_cases hid : session_id = x.session_id
    · exact ⟨_, Table.self_mem_upsert _ _, hid.symm⟩
    · rw [hother _ hid] at hl
      obtain ⟨y, hy, rfl⟩ := h.leased session_id lease hl hlives
      exact ⟨y, Table.mem_upsert.mpr (.inr ⟨hy, hid⟩), rfl⟩
  · by_cases hid : session_id = x.session_id
    · rw [hid]
      exact h.drawn _ _ (h.stored x hx)
    · rw [hother _ hid] at hl
      exact h.drawn session_id lease hl
  · rcases Table.mem_upsert.mp hy with rfl | ⟨hy, -⟩
    · exact h.owners x hx
    · exact h.owners y hy

/-- A session is handed out, and leased. -/
theorem hand (h : Follows cfg users L s) {name : String} {session : Session}
    (hhanded : Handed cfg name s s' session) :
    Follows cfg users (Function.update L session.session_id
      (some ⟨lower name, s.clock + _expiry_interval⟩)) s' := by
  have hother : ∀ session_id ≠ session.session_id, Function.update L session.session_id
      (some ⟨lower name, s.clock + _expiry_interval⟩) session_id = L session_id :=
    fun session_id hne => Function.update_of_ne hne _ _
  have howner : IsOf name session ∧ OfUser cfg users session.credentials.user_id session := by
    rcases hhanded.source with ⟨y, hy⟩ | hnew
    · have howner := h.owners y hy.stored
      refine ⟨?_, ?_⟩
      · rw [IsOf, ← hy.credentials]
        exact hy.of
      · rw [OfUser, ← hy.credentials, ← hy.permissions]
        exact howner
    · have howner := hnew.owner
      rw [h.kept] at howner
      exact ⟨howner.isOf, howner.congr howner.isOf.symm⟩
  have hdrawn : ∀ session_id, Drawn cfg s session_id → Drawn cfg s' session_id :=
    fun session_id hd n hn => hd n (hhanded.drawn.trans hn)
  refine ⟨hhanded.users.trans h.kept, fun x hx => ?_, fun session_id lease hl hlives => ?_,
    fun session_id lease hl => ?_, fun x hx => ?_⟩
  · rcases hhanded.old x hx with rfl | ⟨hx, hne⟩
    · rw [Function.update_self, hhanded.expiry_time, howner.1]
    · rw [hother _ hne]
      exact h.stored x hx
  · by_cases hid : session_id = session.session_id
    · exact ⟨session, hhanded.stored, hid.symm⟩
    · rw [hother _ hid] at hl
      rw [hhanded.clock] at hlives
      obtain ⟨x, hx, rfl⟩ := h.leased session_id lease hl hlives
      rw [h.lease_eq hx hl] at hlives
      exact ⟨x, hhanded.stays x hx hlives hid, rfl⟩
  · by_cases hid : session_id = session.session_id
    · rw [hid]
      rcases hhanded.source with ⟨y, hy⟩ | hnew
      · exact hdrawn _ (hy.session_id ▸ h.drawn _ _ (h.stored y hy.stored))
      · exact hnew.drawn
    · rw [hother _ hid] at hl
      exact hdrawn _ (h.drawn session_id lease hl)
  · rcases hhanded.old x hx with rfl | ⟨hx, -⟩
    · exact howner.2
    · exact h.owners x hx

end Follows

/-! ## Calls -/

/-- A login hands out a session that is leased to the user already, or one with an id that has
not been drawn before. -/
def HandsOut (cfg : Settings) (L : Leases) (visit : Visited) (session_id : String) : Prop :=
  ∃ name password, visit.call = .login name password ∧
    ((∃ lease, L session_id = some lease ∧ lease.owner = lower name ∧
        visit.before.clock ≤ lease.until_) ∨
      ¬ Drawn cfg visit.before session_id)

/-- What one call does, the leases being `L` before it. -/
structure Answers (cfg : Settings) (users : UserStore) (L : Leases) (visit : Visited) : Prop where
  follows : Follows cfg users (L.after cfg.backend visit) visit.after
  drawn : visit.before.drawn ≤ visit.after.drawn
  accepts : ∀ session_id, visit.call = .auth_session session_id →
    ((∃ session, visit.result = .ok (.session session)) ↔
      ∃ lease, L session_id = some lease ∧ visit.before.clock ≤ lease.until_)
  handsOut : ∀ session_id reset_password,
    visit.result = .ok (.login (some session_id) reset_password) →
      Drawn cfg visit.after session_id ∧ HandsOut cfg L visit session_id

namespace Answers

/-- A call that is neither `login` nor `auth_session`. -/
theorem quiet {call : LoginCall} {r : Except Exc Response}
    (hfollows : Follows cfg users (L.after cfg.backend ⟨call, s, r, s'⟩) s')
    (hdrawn : s'.drawn = s.drawn) (hauth : ∀ session_id, call ≠ .auth_session session_id)
    (hlogin : ∀ session_id reset_password, r ≠ .ok (.login (some session_id) reset_password)) :
    Answers cfg users L ⟨call, s, r, s'⟩ where
  follows := hfollows
  drawn := hdrawn.ge
  accepts _ hcall := absurd hcall (hauth _)
  handsOut _ reset_password hr := absurd hr (hlogin _ reset_password)

/-- `delete_all_sessions_for_user` leaves the sessions of the others. -/
theorem delete_all (h : Follows cfg users L s) (user_id : String) :
    Completes cfg.machine s (delete_all_sessions_for_user user_id)
      (Returning fun _ s' => s'.drawn = s.drawn ∧
        Follows cfg users (L.without (lower user_id)) s') := by
  refine .call_bind (v := s.sessions.rows) rfl ?_
  refine (Completes.forM (J := fun rest t => Left s (IsOf user_id) rest t ∧
    t.users = s.users ∧ t.drawn = s.drawn) ?_ _ ⟨.start s _, rfl, rfl⟩).mono ?_
  · rintro x rest t ⟨hleft, husers, hdrawn⟩
    show Completes cfg.machine t
      (if IsOf user_id x then QuotaSessionManager.delete x.session_id else return ()) _
    split
    · rename_i hof
      exact ⟨_, _, delete_removed hleft.mem, hleft.remove hof, husers, hdrawn⟩
    · rename_i hof
      exact ⟨_, _, rfl, hleft.skip hof, husers, hdrawn⟩
  · intro r s' hr
    cases r with
    | error e => exact hr
    | ok _ =>
        obtain ⟨hleft, husers, hdrawn⟩ := hr
        refine ⟨hdrawn, h.remove (fun session_id => ∃ lease, L session_id = some lease ∧
          lease.owner = lower user_id) hleft.clock husers hdrawn (fun x => ?_) fun id lease => ?_⟩
        · rw [hleft.sessions x]
          refine and_congr_right fun hx => ?_
          refine ⟨fun hto ⟨lease, hl, howner⟩ => ?_, fun hno hof => ?_⟩
          · rw [h.lease_eq hx hl] at howner
            exact absurd (hto howner) List.not_mem_nil
          · exact absurd ⟨_, h.stored x hx, hof⟩ hno
        · rw [Leases.without, Option.filter_eq_some_iff, decide_eq_true_eq]
          refine and_congr_right fun hl => not_congr ⟨fun howner => ⟨lease, hl, howner⟩, ?_⟩
          rintro ⟨lease', hl', howner⟩
          rwa [Option.some.inj (hl.symm.trans hl')]

/-- `logout`, also of an id that is not stored. -/
theorem delete_one (h : Follows cfg users L s) (session_id : String) :
    Completes cfg.machine s (QuotaSessionManager.delete session_id) fun r s' =>
      s'.drawn = s.drawn ∧ match r with
        | .ok _ => Follows cfg users (Function.update L session_id none) s'
        | .error _ => s' = s := by
  cases hfound : s.sessions.find? session_id with
  | none =>
      refine ⟨.error .attributeError, s, ?_, rfl, rfl⟩
      rw [delete_solo, hfound]
  | some x =>
      obtain ⟨hx, rfl⟩ := Table.find?_eq_some.mp hfound
      refine ⟨_, _, delete_removed hx, rfl, h.remove (· = x.session_id) rfl rfl rfl
        (fun _ => Table.mem_remove) fun id lease => ?_⟩
      by_cases hid : id = x.session_id
      · rw [hid, Function.update_self]
        exact ⟨fun h => (by cases h), fun h => absurd rfl h.2⟩
      · rw [Function.update_of_ne hid]
        exact (and_iff_left hid).symm

theorem swept {call : LoginCall} {r : Except Exc Response} (h : Follows cfg users L s)
    (hswept : Swept s s') (hafter : L.after cfg.backend ⟨call, s, r, s'⟩ = L)
    (hauth : ∀ session_id, call ≠ .auth_session session_id)
    (hlogin : ∀ session_id reset_password, r ≠ .ok (.login (some session_id) reset_password)) :
    Answers cfg users L ⟨call, s, r, s'⟩ :=
  quiet (by rw [hafter]; exact h.sweep hswept) hswept.drawn hauth hlogin

theorem login (h : Follows cfg users L s) {name : String} {password : Str} {r : Except Exc Response}
    (he : (LoginCall.program cfg (.login name password)).solo cfg.machine s = some (r, s')) :
    Answers cfg users L ⟨.login name password, s, r, s'⟩ := by
  have hrun := Triple.solo (P := Swept s)
    (R := fun response t => Answers cfg users L ⟨.login name password, s, .ok response, t⟩)
    (E := fun e t => Answers cfg users L ⟨.login name password, s, .error e, t⟩)
    (.map ((login_handed name password).weaken ?_ ?_)) (.refl s) he
  · cases r with
    | ok response => exact hrun
    | error e => exact hrun
  · intro result a _ hresult
    cases result with
    | none =>
        refine swept h hresult rfl (fun _ => LoginCall.noConfusion) fun session_id _ hr => ?_
        cases hr
    | some returned =>
        obtain ⟨returned, reset_password⟩ := returned
        obtain ⟨session, rfl, hhanded⟩ := hresult
        refine ⟨h.hand hhanded, hhanded.drawn, fun _ hcall => ?_, fun session_id _ hr => ?_⟩
        · cases hcall
        · cases hr
          refine ⟨(h.hand hhanded).drawn _ _ (Function.update_self ..), name, password, rfl, ?_⟩
          rcases hhanded.source with ⟨y, hy⟩ | hnew
          · rw [← hy.session_id]
            exact .inl ⟨_, h.stored y hy.stored, hy.of, Nat.not_lt.mp hy.lives⟩
          · exact .inr hnew.undrawn
  · intro e a _ hswept
    refine swept h hswept rfl (fun _ => LoginCall.noConfusion) fun session_id _ hr => ?_
    cases hr

theorem refused {session_id : String} {e : Exc} (h : Follows cfg users L s')
    (hdrawn : s'.drawn = s.drawn)
    (hout : ∀ lease, L session_id = some lease → ¬ s.clock ≤ lease.until_) :
    Answers cfg users L ⟨.auth_session session_id, s, .error e, s'⟩ where
  follows := h
  drawn := hdrawn.ge
  accepts _ hcall := by
    cases hcall
    refine ⟨fun ⟨_, hr⟩ => ?_, fun ⟨lease, hl, hlives⟩ => absurd hlives (hout lease hl)⟩
    cases hr
  handsOut _ _ hr := by cases hr

/-- Where the object is the stored one, its lease is renewed. -/
theorem accepted (h : Follows cfg users L s) {x : Session}
    (hfound : s.sessions.find? x.session_id = some x) (hlives : ¬ s.clock > x.expiry_time)
    (session : Session) :
    Answers cfg users L ⟨.auth_session x.session_id, s, .ok (.session session),
      expiryAssigned cfg.backend x.session_id (s.clock + _expiry_interval) s⟩ := by
  have hx : x ∈ s.sessions := (Table.find?_eq_some.mp hfound).1
  refine ⟨?_, ?_, fun _ hcall => ?_, fun _ _ hr => by cases hr⟩
  · unfold Leases.after expiryAssigned
    cases cfg.backend with
    | database => exact h
    | inMemory =>
        rw [hfound]
        exact h.renew hx _
  · rcases expiryAssigned_cases cfg.backend hx (s.clock + _expiry_interval) with e | e
    · exact (congrArg State.drawn e).ge
    · exact (congrArg State.drawn e).ge
  · cases hcall
    exact ⟨fun _ => ⟨_, h.stored x hx, Nat.not_lt.mp hlives⟩, fun _ => ⟨_, rfl⟩⟩

theorem auth_session (h : Follows cfg users L s) {session_id : String} {r : Except Exc Response}
    (he : (LoginCall.program cfg (.auth_session session_id)).solo cfg.machine s = some (r, s')) :
    Answers cfg users L ⟨.auth_session session_id, s, r, s'⟩ := by
  refine (Completes.map (Q := fun r s' => Answers cfg users L
    ⟨.auth_session session_id, s, r, s'⟩) ?_).ends he
  have hsolo := auth_session_solo cfg session_id s
  cases hfound : s.sessions.find? session_id with
  | none =>
      rw [hfound] at hsolo
      refine ⟨_, _, hsolo, refused h rfl fun lease hl hlives => ?_⟩
      obtain ⟨x, hx, hid⟩ := h.leased session_id lease hl (Nat.not_lt.mpr hlives)
      exact absurd hid (Table.find?_eq_none.mp hfound x hx)
  | some x =>
      obtain ⟨hx, rfl⟩ := Table.find?_eq_some.mp hfound
      rw [hfound] at hsolo
      dsimp only at hsolo
      split at hsolo
      · rename_i hexpired
        have hswept : Swept s (removed x s) :=
          ((Swept.refl s).remove hx hexpired).keep rfl rfl rfl rfl
        refine ⟨_, _, hsolo, refused (h.sweep hswept) rfl fun lease hl hlives => ?_⟩
        rw [h.lease_eq hx hl] at hlives
        exact absurd hexpired (Nat.not_lt.mpr hlives)
      · rename_i hlives
        exact ⟨_, _, hsolo, accepted h hfound hlives _⟩

theorem of_call (h : Follows cfg users L s) (call : LoginCall) {r : Except Exc Response}
    (he : (call.program cfg).solo cfg.machine s = some (r, s')) :
    Answers cfg users L ⟨call, s, r, s'⟩ := by
  cases call with
  | login name password => exact login h he
  | auth_session session_id => exact auth_session h he
  | logout session_id =>
      refine (Completes.map (Q := fun r s' => Answers cfg users L
        ⟨.logout session_id, s, r, s'⟩) ((delete_one h session_id).mono ?_)).ends he
      rintro r s' ⟨hdrawn, hr⟩
      cases r with
      | ok _ =>
          exact quiet hr hdrawn (fun _ => LoginCall.noConfusion) fun _ _ hr => by cases hr
      | error e =>
          rw [hr]
          exact quiet h rfl (fun _ => LoginCall.noConfusion) fun _ _ hr => by cases hr
  | delete_all_sessions_for_user user_id =>
      refine (Completes.map (Q := fun r s' => Answers cfg users L
        ⟨.delete_all_sessions_for_user user_id, s, r, s'⟩) ((delete_all h user_id).mono ?_)).ends he
      intro r s' hr
      cases r with
      | ok _ =>
          exact quiet hr.2 hr.1 (fun _ => LoginCall.noConfusion) fun _ _ hr => by cases hr
      | error e => exact False.elim hr
  | delete_all_sessions session_id =>
      refine (Completes.map (Q := fun r s' => Answers cfg users L
        ⟨.delete_all_sessions session_id, s, r, s'⟩) (.call_bind (v := s.sessions.find? session_id)
          rfl ?_)).ends he
      cases hfound : s.sessions.find? session_id with
      | none =>
          refine ⟨.error .attributeError, s, ?_, ?_⟩
          · show (QuotaSessionManager.delete session_id).solo cfg.machine s = _
            rw [delete_solo, hfound]
          · exact quiet h rfl (fun _ => LoginCall.noConfusion) fun _ _ hr => by cases hr
      | some x =>
          obtain ⟨hx, rfl⟩ := Table.find?_eq_some.mp hfound
          refine (delete_all h x.credentials.user_id).mono fun r s' hr => ?_
          cases r with
          | error e => exact False.elim hr
          | ok _ =>
              refine quiet ?_ hr.1 (fun _ => LoginCall.noConfusion) fun _ _ hr => by cases hr
              have hafter : ∀ response, L.after cfg.backend
                  ⟨.delete_all_sessions x.session_id, s, .ok response, s'⟩ =
                    L.without (lower x.credentials.user_id) := by
                intro response
                simp only [Leases.after, h.stored x hx]
              rw [Except.map, hafter]
              exact hr.2
  | _remove_expired_sessions =>
      have hrun := Triple.solo (P := Swept s) (R := fun response t => response = Response.done ∧
        Swept s t) (E := fun _ => Swept s) (.map (f := fun _ => Response.done)
          (sweep_swept.weaken (fun _ _ _ hp => ⟨rfl, hp⟩) fun _ _ _ hp => hp)) (.refl s) he
      cases r with
      | ok response =>
          rw [hrun.1]
          exact swept h hrun.2 rfl (fun _ => LoginCall.noConfusion) fun _ _ hr => by cases hr
      | error e =>
          exact swept h hrun rfl (fun _ => LoginCall.noConfusion) fun _ _ hr => by cases hr

end Answers

end Follows

/-! ## Runs -/

section Runs

variable [Runtime] {cfg : Settings} {users : UserStore}

/-- The run of `turns`, one after the other, from no session. -/
abbrev runFrom (cfg : Settings) (users : UserStore) (turns : List (Turn LoginCall Time)) :
    Trace LoginCall State Exc Response :=
  Trace.run cfg.machine (LoginCall.program cfg) (.start (.fresh users)) turns

omit [Runtime] in
/-- No login has returned the id. -/
def NeverIssued (visits : List Visited) (session_id : String) : Prop :=
  ∀ visit ∈ visits, ∀ reset_password,
    visit.result ≠ .ok (.login (some session_id) reset_password)

/-- What holds after any number of turns. -/
structure Tracked (cfg : Settings) (users : UserStore) (t : Trace LoginCall State Exc Response) :
    Prop where
  follows : Follows cfg users (leases cfg.backend t.visits) t.state
  issued : ∀ session_id, ¬ Drawn cfg t.state session_id → NeverIssued t.visits session_id
  answers : ∀ earlier visit, earlier ++ [visit] <+: t.visits →
    Answers cfg users (leases cfg.backend earlier) visit ∧
      ∀ session_id, ¬ Drawn cfg visit.before session_id → NeverIssued earlier session_id

namespace Tracked

variable {t : Trace LoginCall State Exc Response}

theorem start (cfg : Settings) (users : UserStore) : Tracked cfg users (.start (.fresh users)) where
  follows := .start cfg users
  issued _ _ visit hvisit := absurd hvisit List.not_mem_nil
  answers earlier visit h := by
    have := List.eq_nil_of_prefix_nil h
    simp at this

theorem elapse (h : Tracked cfg users t) (elapsed : Time) :
    Tracked cfg users ⟨t.visits, cfg.machine.env elapsed t.state⟩ where
  follows := h.follows.elapse elapsed
  issued := h.issued
  answers := h.answers

theorem call (h : Tracked cfg users t) (c : LoginCall) {r : Except Exc Response} {s : State}
    (he : (c.program cfg).solo cfg.machine t.state = some (r, s)) :
    Tracked cfg users (t.visit c r s) := by
  have hanswers := Answers.of_call h.follows c he
  refine ⟨?_, fun session_id hnot visit hvisit reset_password hr => ?_, fun earlier visit hp => ?_⟩
  · rw [Trace.visit_visits, leases, List.foldl_append]
    exact hanswers.follows
  · rcases List.mem_append.mp hvisit with hold | hnew
    · refine h.issued session_id (fun hd => hnot fun n hn => ?_) visit hold reset_password hr
      exact hd n (hanswers.drawn.trans hn)
    · rw [List.mem_singleton.mp hnew] at hr
      exact hnot (hanswers.handsOut session_id reset_password hr).1
  · rcases List.prefix_concat_iff.mp hp with he | hp
    · obtain ⟨rfl, rfl⟩ := List.concat_inj.mp (by simpa using he)
      exact ⟨hanswers, h.issued⟩
    · exact h.answers earlier visit hp

theorem run (cfg : Settings) (users : UserStore) (turns : List (Turn LoginCall Time)) :
    Tracked cfg users (runFrom cfg users turns) :=
  Trace.run_induction (fun _ elapsed h => h.elapse elapsed) (fun _ c _ _ h he => h.call c he)
    (.start cfg users) turns

end Tracked

/-- **How long a session lives.**  Over either backend, under any quota and with any users, in
every sequential run: `auth_session` accepts an id exactly while it is leased, and a login
returns an id leased to its own user, or one that no login has returned before. -/
theorem session_life_exact (cfg : Settings) (users : UserStore)
    (turns : List (Turn LoginCall Time)) (earlier : List Visited) (visit : Visited)
    (hvisit : earlier ++ [visit] <+: (runFrom cfg users turns).visits) :
    (∀ session_id, visit.call = .auth_session session_id →
      ((∃ session, visit.result = .ok (.session session)) ↔
        ∃ lease, leases cfg.backend earlier session_id = some lease ∧
          visit.before.clock ≤ lease.until_)) ∧
    ∀ session_id reset_password, visit.result = .ok (.login (some session_id) reset_password) →
      ∃ name password, visit.call = .login name password ∧
        ((∃ lease, leases cfg.backend earlier session_id = some lease ∧
            lease.owner = lower name ∧ visit.before.clock ≤ lease.until_) ∨
          NeverIssued earlier session_id) := by
  obtain ⟨hanswers, hissued⟩ := (Tracked.run cfg users turns).answers earlier visit hvisit
  refine ⟨hanswers.accepts, fun session_id reset_password hr => ?_⟩
  obtain ⟨-, name, password, hcall, hleased | hnew⟩ :=
    hanswers.handsOut session_id reset_password hr
  · exact ⟨name, password, hcall, .inl hleased⟩
  · exact ⟨name, password, hcall, .inr (hissued session_id hnew)⟩

/-- The user that the name of the lease finds. -/
def Lease.holder (users : UserStore) (lease : Lease) : Option User :=
  users.rows.find? fun user => lower user.user_id = lease.owner

/-- The request shows the id of a session on a lease that has not run out, and the role of its
holder grants what the method requires. -/
structure Entitled (cfg : Settings) (users : UserStore) (request : Request)
    (method : CsmAuth.Attributes) (t : Trace LoginCall State Exc Response) (session_id : String)
    (lease : Lease) (user : User) : Prop where
  shown : CsmRestApi.ShowsId request session_id
  leased : leases cfg.backend t.visits session_id = some lease
  lives : t.state.clock ≤ lease.until_
  holder : lease.holder users = some user
  granted : ∀ resource action, method.auth_permissions.Grants resource action →
    (cfg.role_manager.effective [user.user_role]).Grants resource action

theorem Tracked.entitled_iff {t : Trace LoginCall State Exc Response} (h : Tracked cfg users t)
    (request : Request) (method : CsmAuth.Attributes) :
    (∃ session, CsmRestApi.Admitted request method t.state session) ↔
      ∃ session_id lease user, Entitled cfg users request method t session_id lease user := by
  constructor
  · rintro ⟨x, hshown, hx, hlives, hpermitted⟩
    obtain ⟨user, huser, -, hpermissions⟩ := h.follows.owners x hx
    rw [hpermissions] at hpermitted
    exact ⟨x.session_id, _, user, hshown, h.follows.stored x hx, hlives, huser, hpermitted⟩
  · rintro ⟨session_id, lease, user, hshown, hl, hlives, hholder, hgranted⟩
    obtain ⟨x, hx, rfl⟩ := h.follows.leased session_id lease hl (Nat.not_lt.mpr hlives)
    obtain ⟨owner, howner, -, hpermissions⟩ := h.follows.owners x hx
    rw [h.follows.lease_eq hx hl] at hlives hholder
    refine ⟨x, hshown, hx, hlives, ?_⟩
    rw [hpermissions, Option.some.inj (howner.symm.trans hholder)]
    exact hgranted

/-- **Who gets in, after any run.**  A request to a method that is neither public nor hybrid is
handed on exactly when it shows a session on a lease that has not run out, whose holder's role
grants what the method requires; otherwise it ends with `CsmUnauthorizedError` or
`CsmPermissionDenied`. -/
theorem access_exact {A : Type} (cfg : Settings) (users : UserStore)
    (turns : List (Turn LoginCall Time)) (conf : String → Option String) (request : Request)
    (method : CsmAuth.Attributes)
    (hmethod : CsmView._get_method_handler request.handler request.method = some method)
    (hpublic : CsmView.is_public request.handler request.method = false)
    (hhybrid : CsmView.is_hybrid request.handler request.method = false) :
    ((∃ request', CsmRestApi.Runs cfg (CsmRestApi.gate (A := A) cfg conf request)
        (runFrom cfg users turns).state request') ↔
      ∃ session_id lease user,
        Entitled cfg users request method (runFrom cfg users turns) session_id lease user) ∧
    ((¬ ∃ session_id lease user,
        Entitled cfg users request method (runFrom cfg users turns) session_id lease user) →
      ∃ e : CsmError, (e.cls = .CsmUnauthorizedError ∨ e.cls = .CsmPermissionDenied) ∧
        CsmRestApi.Stops cfg (CsmRestApi.gate (A := A) cfg conf request)
          (runFrom cfg users turns).state (.csm e)) := by
  have hentitled := (Tracked.run cfg users turns).entitled_iff request method
  rcases CsmRestApi.gate_cases (A := A) cfg conf hmethod hpublic hhybrid
    (runFrom cfg users turns).state with ⟨session, hadmitted, hruns⟩ | ⟨hnone, e, hcls, hstops⟩
  · have hyes := hentitled.mp ⟨session, hadmitted⟩
    exact ⟨⟨fun _ => hyes, fun _ => ⟨_, hruns⟩⟩, fun hno => absurd hyes hno⟩
  · refine ⟨⟨fun ⟨_, hruns⟩ => absurd hruns (hstops.not_runs _), fun hyes => ?_⟩, fun _ => ?_⟩
    · exact absurd (hentitled.mpr hyes) hnone
    · exact ⟨e, hcls, hstops⟩

end Runs

/-! ## Ten minutes later -/

section Example

/-- A monitor lists the users. -/
def monitorsList : RoleManager := RoleManager.blank.store CSM_MONITOR_ROLE
  ⟨[("users", ["list"])], List.nodup_singleton _⟩

def forEveryone : Settings := sampleSettings .inMemory 0 0 monitorsList

def onlyAlice : UserStore := Table.empty.upsert (sampleUser "alice" CSM_MONITOR_ROLE)

/-- Alice logs in, and comes back. -/
def comesBack : List (Turn LoginCall Time) :=
  [.call (.login "alice" "Seagate@1"), .env (10 * 60 * 1000000), .call (.auth_session "f")]

theorem session_life_exact_alice :
    ∃ visit ∈ (runFrom forEveryone onlyAlice comesBack).visits,
      visit.call = .auth_session "f" ∧ ∃ session, visit.result = .ok (.session session) := by
  obtain ⟨login, auth, hvisits, hcall, hlease⟩ : ∃ login auth : Visited,
      (runFrom forEveryone onlyAlice comesBack).visits = [login, auth] ∧
        auth.call = .auth_session "f" ∧
          ∃ lease, leases forEveryone.backend [login] "f" = some lease ∧
            auth.before.clock ≤ lease.until_ := ⟨_, _, rfl, rfl, _, rfl, by decide⟩
  have hexact := session_life_exact forEveryone onlyAlice comesBack [login] auth
    (hvisits ▸ List.prefix_refl _)
  refine ⟨auth, ?_, hcall, (hexact.1 "f" hcall).mpr hlease⟩
  rw [hvisits]
  exact List.mem_cons_of_mem _ (List.mem_singleton_self _)

theorem access_exact_alice : ∃ request', CsmRestApi.Runs forEveryone
    (CsmRestApi.gate (A := Unit) forEveryone (fun _ => none) listRequest)
    (runFrom forEveryone onlyAlice comesBack).state request' := by
  refine (access_exact forEveryone onlyAlice comesBack _ listRequest ⟨false, false, listUsers⟩
    rfl rfl rfl).1.mpr ⟨"f", _, sampleUser "alice" CSM_MONITOR_ROLE, ⟨rfl, by decide⟩, rfl,
      by decide, rfl, ?_⟩
  exact PermissionSet.verdict_iff.mp (by decide)

end Example

end CortxCsm.SessionLife
