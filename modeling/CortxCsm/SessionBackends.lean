/-
# `CortxCsm.SessionBackends` — one run over either backend

`InMemory` hands out the session objects it stores, `Database` copies of what it stores.  A
method that assigns to a session therefore changes the store of the one and not of the
other, unless it also calls `update`.  `update_session_expiry_time` does; the refresh at the
end of `auth_session` does not, so over `Database` a session expires an hour after its last
*login*, over `InMemory` an hour after its last use (`backends_differ`).

Everything else agrees.  `Alike` relates the states of two runs of the same calls: they are
equal but for the expiry times, and a session that is `examined` — one whose expiry time is
going to be read — has expired in both or in neither.  Every method of `LoginService` gives
equal results from states alike, and leaves them alike.

**Proved here.**

    one call, side by side                                  (`program_pair`)
    equal results, while no examined session has expired in
    one backend only                                        (`backends_agree`)
-/
import CortxCsm.Lib.Relational
import CortxCsm.Lib.Sequence
import CortxCsm.Sessions

namespace CortxCsm

/-- The same settings over the backend `b`. -/
def Settings.over (cfg : Settings) (b : Backend) : Settings := { cfg with backend := b }

namespace SessionBackends

open SessionManager QuotaSessionManager LoginService

/-! ## States alike -/

/-- One session in two stores: equal up to the expiry time, and if it is `examined`, expired
`now` in both or in neither. -/
structure Twin (examined : Session → Prop) (now : Time) (x y : Session) : Prop where
  session_id : x.session_id = y.session_id
  credentials : x.credentials = y.credentials
  permissions : x.permissions = y.permissions
  expired : examined x → (now > x.expiry_time ↔ now > y.expiry_time)

structure Alike (examined : Session → Prop) (now : Time) (s t : State) : Prop where
  users : s.users = t.users
  lock : s.lock = t.lock
  active : s._active_users = t._active_users
  restored : s._active_users_restored = t._active_users_restored
  at_now : s.clock = now
  clock : s.clock = t.clock
  drawn : s.drawn = t.drawn
  sessions : Table.Rows (Twin examined now) s.sessions t.sessions

variable {examined : Session → Prop} {now : Time}

theorem Twin.refl (examined : Session → Prop) (now : Time) (x : Session) :
    Twin examined now x x := ⟨rfl, rfl, rfl, fun _ => Iff.rfl⟩

/-- Two sessions that have not expired. -/
theorem Twin.refreshed {x y : Session} (h : Twin examined now x y) {e e' : Time}
    (he : now ≤ e) (he' : now ≤ e') :
    Twin examined now { x with expiry_time := e } { y with expiry_time := e' } :=
  ⟨h.session_id, h.credentials, h.permissions,
    fun _ => ⟨fun hn => absurd he (Nat.not_le.mpr hn), fun hn => absurd he' (Nat.not_le.mpr hn)⟩⟩

namespace Alike

variable {s t : State}

theorem sessions_assigned (h : Alike examined now s t) {a b : SessionStore}
    (hab : Table.Rows (Twin examined now) a b) :
    Alike examined now { s with sessions := a } { t with sessions := b } :=
  ⟨h.users, h.lock, h.active, h.restored, h.at_now, h.clock, h.drawn, hab⟩

/-- The same counters, and the same flag. -/
theorem tallied (h : Alike examined now s t) (active : Dict String Nat) (restored : Bool) :
    Alike examined now { s with _active_users := active, _active_users_restored := restored }
      { t with _active_users := active, _active_users_restored := restored } :=
  ⟨h.users, h.lock, rfl, rfl, h.at_now, h.clock, h.drawn, h.sessions⟩

end Alike

/-! ## Steps -/

section Steps

variable (cfg : Settings)

/-- Both backends run the programs to an end together. -/
abbrev Both {α β : Type} (P : State → State → Prop) (p : Prog α) (q : Prog β)
    (Q : α → β → State → State → Prop) (E : State → State → Prop) : Prop :=
  Pair (cfg.over .inMemory).machine (cfg.over .database).machine P p q Q E

variable {cfg}

theorem len_removeActiveUser (active : Dict String Nat) (user_id : String) :
    (removeActiveUser active user_id).len ≤ active.len := by
  unfold removeActiveUser
  split
  · exact Nat.le_refl _
  · exact Table.len_pop_le _ _
  · rename_i n h
    rw [Table.len_set, if_pos]
    rw [Table.mem_keys]
    cases hg : active.get? user_id with
    | none => simp [hg] at h
    | some v => exact ⟨v, rfl⟩

/-- States alike, in which the flag is `restored` and at most `n` users are counted. -/
def Within (examined : Session → Prop) (now : Time) (restored : Bool) (n : Nat) (s t : State) :
    Prop :=
  Alike examined now s t ∧ s._active_users_restored = restored ∧ s._active_users.len ≤ n

theorem delete_within {restored : Bool} {n : Nat} {session_id : String} :
    Both cfg (Within examined now restored n) (QuotaSessionManager.delete session_id)
      (QuotaSessionManager.delete session_id) (fun _ _ => Within examined now restored n)
      (Alike examined now) := by
  rintro s t ⟨h, hr, hn⟩
  rw [QuotaSessionManager.delete_solo, QuotaSessionManager.delete_solo]
  rcases h.sessions.find? session_id with ⟨hx, hy⟩ | ⟨x, y, hx, hy, hxy⟩
  · rw [hx, hy]
    exact ⟨rfl, h⟩
  · rw [hx, hy]
    refine ⟨?_, hr, (len_removeActiveUser _ _).trans hn⟩
    have hs := h.sessions_assigned (h.sessions.remove session_id)
    rw [← h.active, ← hxy.credentials]
    exact ⟨hs.users, hs.lock, rfl, hs.restored, hs.at_now, hs.clock, hs.drawn, hs.sessions⟩

theorem delete_pair {session_id : String} :
    Both cfg (Alike examined now) (QuotaSessionManager.delete session_id)
      (QuotaSessionManager.delete session_id) (fun _ _ => Alike examined now)
      (Alike examined now) := by
  intro s t h
  have hwithin : Within examined now s._active_users_restored s._active_users.len s t :=
    ⟨h, rfl, Nat.le_refl _⟩
  exact (delete_within s t hwithin).mono (fun _ _ _ _ h => h.1) fun _ _ h => h

theorem get_all_pair {caller : Caller} {P : State → State → Prop}
    (hP : ∀ s t, P s t → Alike examined now s t) :
    Both cfg P (get_all caller) (get_all caller)
      (fun xs ys s t => (P s t ∧ xs = s.sessions.rows) ∧
        List.Forall₂ (Twin examined now) xs ys) (Alike examined now) :=
  .call fun s t h => ⟨⟨h, rfl⟩, (hP s t h).sessions.imp fun _ _ hxy => hxy.2⟩

/-- `is_expired`, of a session whose expiry time may be read. -/
theorem is_expired_pair {x y : Session} (hxy : Twin examined now x y) (hx : examined x)
    {P : State → State → Prop} (hP : ∀ s t, P s t → Alike examined now s t) :
    Both cfg P (is_expired x) (is_expired y)
      (fun a b s t => P s t ∧ a = b ∧ (a = true ↔ now > x.expiry_time)) (Alike examined now) := by
  refine .read fun s t h => ⟨h, ?_, ?_⟩
  · rw [← (hP s t h).clock, (hP s t h).at_now]
    exact decide_eq_decide.mpr (hxy.expired hx)
  · rw [(hP s t h).at_now]
    exact decide_eq_true_iff

theorem deleteIfExpired_pair {x y : Session} (hxy : Twin examined now x y) (hx : examined x) :
    Both cfg (Alike examined now) (deleteIfExpired x) (deleteIfExpired y)
      (fun _ _ => Alike examined now) (Alike examined now) := by
  refine (is_expired_pair hxy hx fun _ _ h => h).bind fun a b => ?_
  refine .of_fact (fun _ _ h => h.2.1) fun e => ?_
  subst e
  rw [hxy.session_id]
  cases a with
  | true => exact delete_pair.pre fun _ _ h => h.1
  | false => exact .ret fun _ _ h => h.1

theorem _remove_expired_sessions_pair (hall : ∀ x, examined x) :
    Both cfg (Alike examined now) _remove_expired_sessions _remove_expired_sessions
      (fun _ _ => Alike examined now) (Alike examined now) := by
  refine (get_all_pair fun _ _ h => h).bind fun xs ys => ?_
  refine .of_fact (fun _ _ h => h.2) fun hxys => ?_
  exact (Pair.forM (fun x y hxy => deleteIfExpired_pair hxy (hall x)) hxys).pre fun _ _ h => h.1.1

theorem reclaim_pair (hall : ∀ x, examined x) :
    Both cfg (Alike examined now) (reclaim (cfg.over .inMemory)) (reclaim (cfg.over .database))
      (fun _ _ => Alike examined now) (Alike examined now) := by
  refine Pair.bind (R := fun a b s t => a = b ∧ Alike examined now s t) ?_ fun a b => ?_
  · exact .read fun s t h => ⟨congrArg Table.len h.active, h⟩
  · refine .of_fact (fun _ _ h => h.1) fun e => ?_
    subst e
    refine .ite Iff.rfl (fun _ => ?_) fun _ => .ret fun _ _ h => h.2
    exact (_remove_expired_sessions_pair hall).pre fun _ _ h => h.2

theorem admitUser_pair {user_id : String} :
    Both cfg (Alike examined now) (admitUser (cfg.over .inMemory) user_id)
      (admitUser (cfg.over .database) user_id) (fun a b s t => a = b ∧ Alike examined now s t)
      (Alike examined now) := by
  refine Pair.bind (R := fun a b s t => a = b ∧ s._active_users = a ∧ Alike examined now s t)
    ?_ fun active b => ?_
  · exact .read fun s t h => ⟨h.active, rfl, h⟩
  · refine .of_fact (fun _ _ h => h.1) fun e => ?_
    subst e
    refine .ite Iff.rfl (fun _ => .ret fun _ _ h => ⟨rfl, h.2.2⟩) fun _ =>
      .ite Iff.rfl (fun _ => .ret fun _ _ h => ⟨rfl, h.2.2⟩) fun _ => ?_
    refine Pair.bind (R := fun _ _ => Alike examined now) ?_ fun _ _ =>
      .ret fun _ _ h => ⟨rfl, h⟩
    refine .write fun s t h => ?_
    rw [← h.2.2.active]
    have := h.2.2.tallied (s._active_users.set user_id
      ((active.get? user_id).getD 0 + 1)) s._active_users_restored
    exact ⟨this.users, this.lock, rfl, h.2.2.restored, this.at_now, this.clock, this.drawn,
      this.sessions⟩

/-- The quota cannot make a new session sweep: there is none, every session is examined
anyway, or the counters are restored and below the quota. -/
def Roomy (cfg : Settings) (examined : Session → Prop) (s : State) : Prop :=
  cfg.active_users_quota ≤ 0 ∨ (∀ x, examined x) ∨
    (s._active_users_restored = true ∧ (s._active_users.len : Int) < cfg.active_users_quota)

theorem addActiveUser_pair {restore restore' : Prog Unit} {user_id : String}
    (hrestore : (∀ x, examined x) → Both cfg (Alike examined now) restore restore'
      (fun _ _ => Alike examined now) (Alike examined now)) :
    Both cfg (fun s t => Alike examined now s t ∧ Roomy cfg examined s)
      (addActiveUser (cfg.over .inMemory) restore user_id)
      (addActiveUser (cfg.over .database) restore' user_id)
      (fun a b s t => a = b ∧ Alike examined now s t) (Alike examined now) := by
  refine .ite Iff.rfl (fun _ => .ret fun _ _ h => ⟨rfl, h.1⟩) fun hquota => ?_
  by_cases hall : ∀ x, examined x
  · refine Pair.bind (R := fun _ _ => Alike examined now) ?_ fun _ _ =>
      (reclaim_pair hall).bind fun _ _ => admitUser_pair
    refine Pair.bind (R := fun a b s t => a = b ∧ Alike examined now s t) ?_ fun a b => ?_
    · exact .read fun s t h => ⟨h.1.restored, h.1⟩
    · refine .of_fact (fun _ _ h => h.1) fun e => ?_
      subst e
      cases a with
      | true => exact .ret fun _ _ h => h.2
      | false =>
          refine Pair.bind (R := fun _ _ => Alike examined now) ?_ fun _ _ => hrestore hall
          exact .write fun s t h => by
            have := h.2.tallied s._active_users true
            exact ⟨this.users, this.lock, h.2.active, rfl, this.at_now, this.clock, this.drawn,
              this.sessions⟩
  · -- restored, and below the quota: neither the restore nor the sweep is reached
    have hroom : ∀ s t, Alike examined now s t ∧ Roomy cfg examined s →
        s._active_users_restored = true ∧
          (s._active_users.len : Int) < cfg.active_users_quota := by
      rintro s t ⟨_, h | h | h⟩
      · exact absurd h hquota
      · exact absurd h hall
      · exact h
    refine Pair.bind (R := fun _ _ s t => Alike examined now s t ∧
      (s._active_users.len : Int) < cfg.active_users_quota) ?_ fun _ _ =>
        Pair.bind (R := fun _ _ => Alike examined now) ?_ fun _ _ => admitUser_pair
    · refine Pair.bind (R := fun a b s t => (a = true ∧ b = true) ∧ Alike examined now s t ∧
        (s._active_users.len : Int) < cfg.active_users_quota) ?_ fun a b => ?_
      · refine .read fun s t h => ⟨⟨(hroom s t h).1, ?_⟩, h.1, (hroom s t h).2⟩
        rw [← h.1.restored]
        exact (hroom s t h).1
      · refine .of_fact (fun _ _ h => h.1) fun ⟨ha, hb⟩ => ?_
        subst ha hb
        exact .ret fun _ _ h => h.2
    · refine Pair.bind (R := fun (a b : Nat) s t => a = b ∧ Alike examined now s t ∧
        (a : Int) < cfg.active_users_quota) ?_ fun a b => ?_
      · exact .read fun s t h => ⟨congrArg Table.len h.1.active, h.1, h.2⟩
      · refine .of_fact (f := a = b ∧ (a : Int) < cfg.active_users_quota)
          (fun _ _ h => ⟨h.1, h.2.2⟩) fun ⟨e, hlt⟩ => ?_
        subst e
        refine .ite Iff.rfl (fun h => absurd hlt (Int.not_lt.mpr h)) fun _ => ?_
        exact .ret fun _ _ h => h.2.1

theorem restoreSession_pair (hall : ∀ x, examined x) {x y : Session}
    (hxy : Twin examined now x y) :
    Both cfg (Alike examined now)
      (restoreSession (addRestored (cfg.over .inMemory)) x)
      (restoreSession (addRestored (cfg.over .database)) y)
      (fun _ _ => Alike examined now) (Alike examined now) := by
  refine (is_expired_pair hxy (hall x) fun _ _ h => h).bind fun a b => ?_
  refine .of_fact (fun _ _ h => h.2.1) fun e => ?_
  subst e
  rw [hxy.session_id, hxy.credentials]
  cases a with
  | true => exact delete_pair.pre fun _ _ h => h.1
  | false =>
      refine Pair.bind (R := fun a b s t => a = b ∧ Alike examined now s t) ?_ fun _ _ =>
        .ret fun _ _ h => h.2
      refine (addActiveUser_pair fun _ => .ret fun _ _ h => h).pre fun s t h => ⟨h.1, ?_⟩
      exact Or.inr (Or.inl hall)

/-- `SessionManager.create`: the same id, the same expiry time. -/
theorem store_new_pair {credentials : LocalCredentials} {permissions : PermissionSet} :
    Both cfg (Alike examined now)
      (SessionManager.create (cfg.over .inMemory) credentials permissions)
      (SessionManager.create (cfg.over .database) credentials permissions)
      (fun x y s t => x = y ∧ Alike examined now s t) (Alike examined now) := by
  refine Pair.bind (R := fun a b s t => a = b ∧ Alike examined now s t) ?_ fun sid sid' => ?_
  · refine .sync fun s t h => ⟨congrArg cfg.uuid4 h.drawn, ?_⟩
    exact ⟨h.users, h.lock, h.active, h.restored, h.at_now, h.clock, congrArg (· + 1) h.drawn,
      h.sessions⟩
  refine .of_fact (fun _ _ h => h.1) fun e => ?_
  subst e
  refine Pair.bind (R := fun a b s t => a = b ∧ Alike examined now s t) ?_ fun e e' => ?_
  · exact .read fun s t h => ⟨congrArg (· + _expiry_interval) h.2.clock, h.2⟩
  refine .of_fact (fun _ _ h => h.1) fun he => ?_
  subst he
  refine Pair.bind (R := fun _ _ => Alike examined now) ?_ fun _ _ => .ret fun _ _ h => ⟨rfl, h⟩
  refine .call fun s t h => ?_
  simp only [Settings.machine, exec, Backend.store_eq]
  exact h.2.sessions_assigned (h.2.sessions.upsert rfl (.refl _ _ _))

theorem create_pair {credentials : LocalCredentials} {permissions : PermissionSet} :
    Both cfg (fun s t => Alike examined now s t ∧ Roomy cfg examined s)
      (QuotaSessionManager.create (cfg.over .inMemory) credentials permissions)
      (QuotaSessionManager.create (cfg.over .database) credentials permissions)
      (fun x y s t => x = y ∧ Alike examined now s t) (Alike examined now) := by
  refine Pair.bind (R := fun a b s t => a = b ∧ Alike examined now s t) ?_ fun a b => ?_
  · refine addActiveUser_pair fun hall => ?_
    refine (get_all_pair fun _ _ h => h).bind fun xs ys => ?_
    refine .of_fact (fun _ _ h => h.2) fun hxys => ?_
    exact (Pair.forM (fun x y hxy => restoreSession_pair hall hxy) hxys).pre fun _ _ h => h.1.1
  · refine .of_fact (fun _ _ h => h.1) fun e => ?_
    subst e
    exact .ite Iff.rfl (fun _ => store_new_pair.pre fun _ _ h => h.2) fun _ =>
      .raise fun _ _ h => h.2

/-- The refresh of a login: both store it. -/
theorem update_session_expiry_time_pair {x y : Session} (hxy : Twin examined now x y) :
    Both cfg (Alike examined now) (update_session_expiry_time (cfg.over .inMemory) x)
      (update_session_expiry_time (cfg.over .database) y)
      (fun a b s t => Twin examined now a b ∧ Alike examined now s t) (Alike examined now) := by
  refine Pair.bind (R := fun a b s t => (a = b ∧ now ≤ a) ∧ Alike examined now s t) ?_
    fun e e' => ?_
  · refine .read fun s t h => ⟨⟨congrArg (· + _expiry_interval) h.clock, ?_⟩, h⟩
    rw [← h.at_now]
    exact Nat.le_add_right _ _
  refine .of_fact (fun _ _ h => h.1) fun ⟨he, hle⟩ => ?_
  subst he
  have htwin : Twin examined now { x with expiry_time := e } { y with expiry_time := e } :=
    hxy.refreshed hle hle
  -- the assignment, and the store after it, of the one; the store of the other
  refine Pair.bind (R := fun _ _ s t => ∃ s₀, Alike examined now s₀ t ∧
    s = expiryAssigned .inMemory x.session_id e s₀) ?_ fun _ _ => ?_
  · exact .write fun s t h => ⟨s, h.2, rfl⟩
  refine Pair.bind (R := fun _ _ => Alike examined now) ?_ fun _ _ => .ret fun _ _ h => ⟨htwin, h⟩
  refine .call ?_
  rintro _ t ⟨s, h, rfl⟩
  simp only [Settings.machine, exec, Backend.store_eq]
  have hrows := h.sessions_assigned (h.sessions.upsert (x := { x with expiry_time := e })
    (y := { y with expiry_time := e }) hxy.session_id htwin)
  unfold expiryAssigned
  split
  · rename_i found hfound
    dsimp only
    rw [Table.upsert_upsert]
    · exact hrows
    · exact (Table.find?_eq_some.mp hfound).2
  · exact hrows

/-! ## Calls -/

variable [Runtime]

/-- The session is one of that user's, up to case. -/
def Owns (user_id : String) (session : Session) : Prop :=
  lower session.credentials.user_id = lower user_id

/-- How `_is_valid_session_exists` ends: without a session only if every one of the user's
sessions that it was to look at has expired. -/
def Found (examined : Session → Prop) (now : Time) (restored : Bool) (n : Nat) (user_id : String)
    (xs : List Session) : Option Session → Option Session → State → State → Prop
  | none, none => fun s t => Within examined now restored n s t ∧
      ∀ x ∈ xs, Owns user_id x → now > x.expiry_time
  | some x, some y => fun s t => Twin examined now x y ∧ Alike examined now s t
  | _, _ => fun _ _ => False

theorem findValid_pair {user_id : String} (hown : ∀ x, Owns user_id x → examined x)
    {restored : Bool} {n : Nat} {xs ys : List Session}
    (hxys : List.Forall₂ (Twin examined now) xs ys) :
    Both cfg (Within examined now restored n) (findValid (cfg.over .inMemory) user_id xs)
      (findValid (cfg.over .database) user_id ys) (Found examined now restored n user_id xs)
      (Alike examined now) := by
  induction hxys with
  | nil => exact .ret fun _ _ h => ⟨h, fun x hx => absurd hx List.not_mem_nil⟩
  | @cons x y xs ys hxy _ ih =>
      -- once this session is known to have expired, or not to be the user's
      have hrest : (Owns user_id x → now > x.expiry_time) →
          Both cfg (Within examined now restored n) (findValid (cfg.over .inMemory) user_id xs)
            (findValid (cfg.over .database) user_id ys)
            (Found examined now restored n user_id (x :: xs)) (Alike examined now) := by
        refine fun hx => ih.weaken (fun a b s t h => ?_) fun _ _ h => h
        match a, b, h with
        | none, none, h =>
            refine ⟨h.1, fun z hz => ?_⟩
            rcases List.mem_cons.mp hz with rfl | hz
            · exact hx
            · exact h.2 z hz
        | some _, some _, h => exact h
      unfold LoginService.findValid
      refine .ite (by rw [hxy.credentials]) (fun hmine => ?_) fun hother =>
        hrest fun hmine => absurd hmine hother
      refine (is_expired_pair hxy (hown x hmine) fun _ _ h => h.1).bind fun a b => ?_
      refine .of_fact (fun _ _ h => h.2) fun ⟨e, hexpired⟩ => ?_
      subst e
      rw [hxy.session_id]
      cases a with
      | true =>
          exact (delete_within.pre fun _ _ h => h.1).bind fun _ _ =>
            hrest fun _ => hexpired.mp rfl
      | false =>
          refine ((update_session_expiry_time_pair hxy).pre fun _ _ h => h.1.1).bind
            fun a b => ?_
          exact .ret fun _ _ h => h

/-- No session of the user is valid. -/
def NoneValid (s : State) (user_id : String) : Prop :=
  ∀ x ∈ s.sessions, Owns user_id x → s.clock > x.expiry_time

/-- The sessions whose expiry time a call reads in the state `s`: `login` looks at those of the
user it authenticates, and at all when it finds no valid one and the quota makes it restore the
counters or sweep. -/
def Examines (cfg : Settings) (s : State) : LoginCall → Session → Prop
  | .login user_id password, session =>
      (∃ user, UserManager.search s.users.rows user_id = some user ∧ Authentic user password) ∧
        (Owns user_id session ∨
          (NoneValid s user_id ∧ 0 < cfg.active_users_quota ∧
            (s._active_users_restored = false ∨
              cfg.active_users_quota ≤ s._active_users.len)))
  | .auth_session session_id, session => session.session_id = session_id
  | ._remove_expired_sessions, _ => True
  | _, _ => False

theorem sessionFor_pair {s₀ : State} {user_id : String} {password : Str} {user : User}
    {credentials : LocalCredentials}
    (hauth : ∃ user, UserManager.search s₀.users.rows user_id = some user ∧
      Authentic user password) :
    Both cfg (fun s t => s = s₀ ∧
        Alike (Examines cfg s₀ (.login user_id password)) s₀.clock s t)
      (sessionFor (cfg.over .inMemory) user_id user credentials)
      (sessionFor (cfg.over .database) user_id user credentials)
      (fun x y s t => x.session_id = y.session_id ∧
        Alike (Examines cfg s₀ (.login user_id password)) s₀.clock s t)
      (Alike (Examines cfg s₀ (.login user_id password)) s₀.clock) := by
  have hfind : Both cfg (fun s t => s = s₀ ∧
        Alike (Examines cfg s₀ (.login user_id password)) s₀.clock s t)
      (_is_valid_session_exists (cfg.over .inMemory) user_id)
      (_is_valid_session_exists (cfg.over .database) user_id)
      (Found (Examines cfg s₀ (.login user_id password)) s₀.clock s₀._active_users_restored
        s₀._active_users.len user_id s₀.sessions.rows)
      (Alike (Examines cfg s₀ (.login user_id password)) s₀.clock) := by
    refine (get_all_pair fun _ _ h => h.2).bind fun xs ys => ?_
    refine .of_fact (f := xs = s₀.sessions.rows ∧
      List.Forall₂ (Twin (Examines cfg s₀ (.login user_id password)) s₀.clock) xs ys)
      (fun s t h => ⟨h.1.1.1 ▸ h.1.2, h.2⟩) fun ⟨hxs, hxys⟩ => ?_
    subst hxs
    refine (findValid_pair (fun x hx => ⟨hauth, Or.inl hx⟩) hxys).pre fun s t h => ?_
    obtain ⟨⟨⟨rfl, h⟩, -⟩, -⟩ := h
    exact ⟨h, rfl, Nat.le_refl _⟩
  refine hfind.bind fun a b => ?_
  match a, b with
  | some x, some y => exact .ret fun _ _ h => ⟨h.1.session_id, h.2⟩
  | some _, none => exact fun _ _ h => h.elim
  | none, some _ => exact fun _ _ h => h.elim
  | none, none =>
      refine (create_pair.pre fun s t h => ⟨h.1.1, ?_⟩).weaken (fun x y s t h => ?_)
        fun _ _ h => h
      · obtain ⟨⟨_, hrestored, hlen⟩, hnone⟩ := h
        by_cases hquota : cfg.active_users_quota ≤ 0
        · exact Or.inl hquota
        · by_cases hfull : s₀._active_users_restored = false ∨
              cfg.active_users_quota ≤ s₀._active_users.len
          · exact Or.inr (Or.inl fun x =>
              ⟨hauth, Or.inr ⟨hnone, Int.not_le.mp hquota, hfull⟩⟩)
          · rw [not_or, Bool.not_eq_false, Int.not_le] at hfull
            exact Or.inr (Or.inr ⟨hrestored.trans hfull.1, by omega⟩)
      · exact ⟨congrArg Session.session_id h.1, h.2⟩

theorem login_pair {s₀ : State} {user_id : String} {password : Str} :
    Both cfg (fun s t => s = s₀ ∧
        Alike (Examines cfg s₀ (.login user_id password)) s₀.clock s t)
      (login (cfg.over .inMemory) user_id password) (login (cfg.over .database) user_id password)
      (fun a b s t => a = b ∧ Alike (Examines cfg s₀ (.login user_id password)) s₀.clock s t)
      (Alike (Examines cfg s₀ (.login user_id password)) s₀.clock) := by
  refine Pair.bind (R := fun a b s t => (a = b ∧ a = UserManager.search s₀.users.rows user_id) ∧
    s = s₀ ∧ Alike (Examines cfg s₀ (.login user_id password)) s₀.clock s t) ?_ fun a b => ?_
  · refine Pair.bind (R := fun a b s t => (a = b ∧ a = s₀.users.rows) ∧ s = s₀ ∧
      Alike (Examines cfg s₀ (.login user_id password)) s₀.clock s t) ?_ fun a b =>
        .ret fun s t h => ⟨⟨by rw [h.1.1], by rw [h.1.2]⟩, h.2⟩
    exact .call fun s t h => ⟨⟨congrArg Table.rows h.2.users, by rw [h.1]⟩, h⟩
  refine .of_fact (fun _ _ h => h.1) fun ⟨e, hsearch⟩ => ?_
  subst e
  cases a with
  | none => exact .ret fun _ _ h => ⟨rfl, h.2.2⟩
  | some user =>
      dsimp only
      rcases authenticate_cases user password with ⟨hauth, he⟩ | ⟨_, he | ⟨e, he⟩⟩
      · rw [he]
        refine Pair.bind (R := fun a b s t => (a = some ⟨user.user_id, user.user_role⟩ ∧ b = a) ∧
          s = s₀ ∧ Alike (Examines cfg s₀ (.login user_id password)) s₀.clock s t)
          (.ret fun _ _ h => ⟨⟨rfl, rfl⟩, h.2⟩) fun a b => ?_
        refine .of_fact (fun _ _ h => h.1) fun ⟨ha, hb⟩ => ?_
        subst ha hb
        refine ((sessionFor_pair ⟨user, hsearch.symm, hauth⟩).pre fun _ _ h => h.2).bind
          fun x y => ?_
        exact .of_fact (fun _ _ h => h.1) fun e => .ret fun _ _ h => ⟨by rw [e], h.2⟩
      · rw [he]
        exact .ret fun _ _ h => ⟨rfl, h.2.2⟩
      · rw [he]
        exact .raise fun _ _ h => h.2.2

omit [Runtime] in
theorem get_pair {session_id : String} :
    Both cfg (Alike examined now) (get session_id) (get session_id)
      (fun a b s t => (Alike examined now s t ∧ s.sessions.find? session_id = a ∧
        t.sessions.find? session_id = b) ∧ Option.Rel (Twin examined now) a b)
      (Alike examined now) := by
  refine .call fun s t h => ⟨⟨h, rfl, rfl⟩, ?_⟩
  rcases h.sessions.find? session_id with ⟨hx, hy⟩ | ⟨x, y, hx, hy, hxy⟩
  · rw [hx, hy]
    exact .none
  · rw [hx, hy]
    exact .some hxy

omit [Runtime] in
/-- An accepted session gets a new expiry time in memory only, and has not expired in either. -/
theorem auth_session_pair {session_id : String}
    (hid : ∀ x : Session, x.session_id = session_id → examined x) :
    Both cfg (Alike examined now) (auth_session (cfg.over .inMemory) session_id)
      (auth_session (cfg.over .database) session_id)
      (fun a b s t => a = b ∧ Alike examined now s t) (Alike examined now) := by
  refine get_pair.bind fun a b => .of_fact (fun _ _ h => h.2) fun hab => ?_
  cases hab with
  | none => exact .raise fun _ _ h => h.1.1
  | @some x y hxy =>
      refine .of_fact (fun s t h => (Table.find?_eq_some.mp h.1.2.1).2) fun hxid => ?_
      refine ((is_expired_pair hxy (hid x hxid) fun s t h => h.1).pre fun s t h => h.1).bind
        fun a b => ?_
      refine .of_fact (fun _ _ h => h.2) fun ⟨e, hexpired⟩ => ?_
      subst e
      cases a with
      | true =>
          refine Pair.bind (R := fun _ _ => Alike examined now) ?_ fun _ _ =>
            .raise fun _ _ h => h
          exact delete_pair.pre fun _ _ h => h.1.1
      | false =>
          have hvalid : ¬ now > x.expiry_time := fun hn => nomatch hexpired.mpr hn
          have hvalid' : ¬ now > y.expiry_time :=
            fun hn => hvalid ((hxy.expired (hid x hxid)).mpr hn)
          refine Pair.bind (R := fun a b s t => (a = b ∧ now ≤ a) ∧ Alike examined now s t ∧
            s.sessions.find? session_id = some x ∧ t.sessions.find? session_id = some y) ?_
            fun e e' => ?_
          · refine .read fun s t h => ⟨⟨congrArg (· + _expiry_interval) h.1.1.clock, ?_⟩, h.1⟩
            rw [← h.1.1.at_now]
            exact Nat.le_add_right _ _
          refine .of_fact (fun _ _ h => h.1) fun ⟨he, hle⟩ => ?_
          subst he
          refine Pair.bind (R := fun _ _ => Alike examined now) ?_ fun _ _ =>
            .ret fun _ _ h => ⟨?_, h⟩
          · refine .write fun s t h => ?_
            obtain ⟨-, h, hx, hy⟩ := h
            have hrows := h.sessions.upsert (x := { x with expiry_time := e }) (y := y)
              hxy.session_id (hxy.refreshed hle (Nat.not_lt.mp hvalid'))
            rw [Table.upsert_of_mem (Table.find?_eq_some.mp hy).1] at hrows
            simp only [expiryAssigned, Settings.over, hx]
            exact h.sessions_assigned hrows
          · cases x
            cases y
            simp only [Session.mk.injEq, true_and]
            exact ⟨hxy.session_id, hxy.credentials, hxy.permissions⟩

theorem delete_all_sessions_for_user_pair {user_id : String} :
    Both cfg (Alike examined now) (delete_all_sessions_for_user user_id)
      (delete_all_sessions_for_user user_id) (fun _ _ => Alike examined now)
      (Alike examined now) := by
  refine (get_all_pair fun _ _ h => h).bind fun xs ys => ?_
  refine .of_fact (fun _ _ h => h.2) fun hxys => ?_
  refine (Pair.forM (fun x y hxy => ?_) hxys).pre fun _ _ h => h.1.1
  refine .ite (by rw [hxy.credentials]) (fun _ => ?_) fun _ => .ret fun _ _ h => h
  rw [hxy.session_id]
  exact delete_pair

theorem delete_all_sessions_pair {session_id : String} :
    Both cfg (Alike examined now) (delete_all_sessions session_id)
      (delete_all_sessions session_id) (fun _ _ => Alike examined now)
      (Alike examined now) := by
  refine get_pair.bind fun a b => .of_fact (fun _ _ h => h.2) fun hab => ?_
  cases hab with
  | none => exact delete_pair.pre fun _ _ h => h.1.1
  | some hxy =>
      dsimp only
      rw [hxy.credentials]
      exact delete_all_sessions_for_user_pair.pre fun _ _ h => h.1.1

/-- **One call**, over both backends, from states in which the sessions it examines have
expired in both or in neither. -/
theorem program_pair (call : LoginCall) {s₀ : State} :
    Both cfg (fun s t => s = s₀ ∧ Alike (Examines cfg s₀ call) s₀.clock s t)
      (call.program (cfg.over .inMemory)) (call.program (cfg.over .database))
      (fun a b s t => a = b ∧ Alike (Examines cfg s₀ call) s₀.clock s t)
      (Alike (Examines cfg s₀ call) s₀.clock) := by
  have hdone : ∀ {p : Prog Unit}, Both cfg (Alike (Examines cfg s₀ call) s₀.clock) p p
      (fun _ _ => Alike (Examines cfg s₀ call) s₀.clock)
      (Alike (Examines cfg s₀ call) s₀.clock) →
      Both cfg (fun s t => s = s₀ ∧ Alike (Examines cfg s₀ call) s₀.clock s t)
        ((fun _ => Response.done) <$> p) ((fun _ => Response.done) <$> p)
        (fun a b s t => a = b ∧ Alike (Examines cfg s₀ call) s₀.clock s t)
        (Alike (Examines cfg s₀ call) s₀.clock) :=
    fun h => (h.pre fun _ _ h => h.2).map fun _ _ _ _ h => ⟨rfl, h⟩
  cases call with
  | login => exact login_pair.map fun _ _ _ _ h => ⟨congrArg _ h.1, h.2⟩
  | logout => exact hdone delete_pair
  | auth_session =>
      exact ((auth_session_pair fun _ h => h).pre fun _ _ h => h.2).map
        fun _ _ _ _ h => ⟨congrArg _ h.1, h.2⟩
  | delete_all_sessions => exact hdone delete_all_sessions_pair
  | delete_all_sessions_for_user => exact hdone delete_all_sessions_for_user_pair
  | _remove_expired_sessions => exact hdone (_remove_expired_sessions_pair fun _ => trivial)

/-! ## Runs -/

/-- The sequential run of `turns` over the backend `b`, from no session. -/
abbrev runOver (cfg : Settings) (b : Backend) (users : UserStore)
    (turns : List (Turn LoginCall Time)) : Trace LoginCall State Exc Response :=
  Trace.run (cfg.over b).machine (LoginCall.program (cfg.over b)) (.start (.fresh users)) turns

/-- Each session the call examines has expired in both stores, or in neither. -/
def ExpiredAlike (cfg : Settings) (call : LoginCall) (s t : State) : Prop :=
  ∀ x ∈ s.sessions, Examines cfg s call x → ∀ y ∈ t.sessions, y.session_id = x.session_id →
    (s.clock > x.expiry_time ↔ t.clock > y.expiry_time)

/-- What the two runs have in common after any number of turns. -/
structure SameSoFar (t t' : Trace LoginCall State Exc Response) (calls : List LoginCall) : Prop where
  alike : Alike (fun _ => False) t.state.clock t.state t'.state
  results : t.visits.map (fun visit => (visit.call, visit.result)) =
    t'.visits.map fun visit => (visit.call, visit.result)
  calls : t.visits.map Visit.call = calls

omit [Runtime] in
theorem Alike.forget {s t : State} (h : Alike examined now s t) :
    Alike (fun _ => False) s.clock s t := by
  refine ⟨h.users, h.lock, h.active, h.restored, rfl, h.clock, h.drawn, ?_⟩
  exact h.sessions.mono fun _ _ _ _ _ hxy =>
    ⟨hxy.session_id, hxy.credentials, hxy.permissions, False.elim⟩

theorem Alike.examined_of {cfg : Settings} {call : LoginCall} {s t : State}
    (h : Alike (fun _ => False) now s t) (hsame : ExpiredAlike cfg call s t) :
    Alike (Examines cfg s call) s.clock s t := by
  refine ⟨h.users, h.lock, h.active, h.restored, rfl, h.clock, h.drawn, ?_⟩
  refine h.sessions.mono fun x hx y hy hk hxy => ?_
  refine ⟨hxy.session_id, hxy.credentials, hxy.permissions, fun hex => ?_⟩
  have := hsame x hx hex y hy hk.symm
  rwa [← h.clock] at this

theorem SameSoFar.call {t t' : Trace LoginCall State Exc Response} {calls : List LoginCall}
    (h : SameSoFar t t' calls) {call : LoginCall}
    (hsame : ExpiredAlike cfg call t.state t'.state) :
    SameSoFar (t.turn (cfg.over .inMemory).machine (LoginCall.program (cfg.over .inMemory))
        (.call call))
      (t'.turn (cfg.over .database).machine (LoginCall.program (cfg.over .database)) (.call call))
      (calls ++ [call]) := by
  obtain ⟨r, s, s', hs, hs', ha⟩ := (program_pair call t.state t'.state
    ⟨rfl, h.alike.examined_of hsame⟩).same
  simp only [Trace.turn, hs, hs']
  exact ⟨ha.forget, by simp [h.results], by simp [h.calls]⟩

omit [Runtime] in
theorem SameSoFar.env {t t' : Trace LoginCall State Exc Response} {calls : List LoginCall}
    (h : SameSoFar t t' calls) (elapsed : Time) :
    SameSoFar ⟨t.visits, (cfg.over .inMemory).machine.env elapsed t.state⟩
      ⟨t'.visits, (cfg.over .database).machine.env elapsed t'.state⟩ calls := by
  refine ⟨⟨h.alike.users, h.alike.lock, h.alike.active, h.alike.restored, rfl,
    congrArg (· + elapsed) h.alike.clock, h.alike.drawn, ?_⟩, h.results, h.calls⟩
  exact h.alike.sessions.mono fun _ _ _ _ _ hxy =>
    ⟨hxy.session_id, hxy.credentials, hxy.permissions, False.elim⟩

/-- **The backends agree**, in every run in which, at each call, the sessions the call examines
have expired in both stores or in neither: every call comes to an end, with the same result. -/
theorem backends_agree (cfg : Settings) (users : UserStore) (turns : List (Turn LoginCall Time))
    (hsame : ∀ n call, turns[n]? = some (.call call) →
      ExpiredAlike cfg call (runOver cfg .inMemory users (turns.take n)).state
        (runOver cfg .database users (turns.take n)).state) :
    (runOver cfg .inMemory users turns).visits.map (fun visit => (visit.call, visit.result)) =
      (runOver cfg .database users turns).visits.map (fun visit => (visit.call, visit.result)) ∧
    (runOver cfg .inMemory users turns).visits.map Visit.call = Turn.calls turns := by
  have hrun : SameSoFar (runOver cfg .inMemory users turns) (runOver cfg .database users turns)
      (Turn.calls turns) := by
    induction turns using List.reverseRecOn with
    | nil => exact ⟨⟨rfl, rfl, rfl, rfl, rfl, rfl, rfl, .nil⟩, rfl, rfl⟩
    | append_singleton turns turn ih =>
        have hbefore := ih fun n call hn => by
          have hlt : n < turns.length := (List.getElem?_eq_some_iff.mp hn).1
          have := hsame n call (by rw [List.getElem?_append_left hlt, hn])
          rwa [List.take_append_of_le_length (Nat.le_of_lt hlt)] at this
        simp only [runOver, Trace.run_append, Turn.calls_append]
        cases turn with
        | env elapsed =>
            simp only [Turn.calls, List.append_nil]
            exact hbefore.env elapsed
        | call call =>
            refine hbefore.call ?_
            have := hsame turns.length call (by simp)
            rwa [List.take_left] at this
  exact ⟨hrun.results, hrun.calls⟩

end Steps

/-! ## A session in use for longer than an hour -/

section Example

def minutes (n : Nat) : Time := n * 60 * 1000000

/-- A login, and a use of its session forty minutes later. -/
def usedOnce : List (Turn LoginCall Time) :=
  [.call (.login "alice" "Seagate@1"), .env (minutes 40), .call (.auth_session "f")]

/-- And another use, forty minutes after that. -/
def usedTwice : List (Turn LoginCall Time) :=
  usedOnce ++ [.env (minutes 40), .call (.auth_session "f")]

theorem nodup_onlyAlice : ([sampleUser "alice" CSM_MONITOR_ROLE].map User.user_id).Nodup := by
  simp

def onlyAlice : UserStore := ⟨[sampleUser "alice" CSM_MONITOR_ROLE], nodup_onlyAlice⟩

def noQuota : Settings := sampleSettings .inMemory 0 0 .blank

/-- In memory the second use is accepted, the database has the session expired. -/
theorem backends_differ :
    (runOver noQuota .inMemory onlyAlice usedTwice).visits.map (fun visit => visit.result) ≠
      (runOver noQuota .database onlyAlice usedTwice).visits.map fun visit => visit.result := by
  intro h
  have hok := congrArg (List.map Except.isOk) h
  rw [List.map_map, List.map_map] at hok
  revert hok
  decide +kernel

/-- At the use of the session it has expired in neither. -/
theorem usedOnce_alike (n : Nat) (call : LoginCall) (hn : usedOnce[n]? = some (.call call)) :
    ExpiredAlike noQuota call (runOver noQuota .inMemory onlyAlice (usedOnce.take n)).state
      (runOver noQuota .database onlyAlice (usedOnce.take n)).state := by
  match n, hn with
  | 0, hn => exact fun x hx => absurd hx (Table.not_mem_empty x)
  | 1, hn => cases hn
  | 2, hn =>
      have hall : ∀ x ∈ (runOver noQuota .inMemory onlyAlice (usedOnce.take 2)).state.sessions,
          ∀ y ∈ (runOver noQuota .database onlyAlice (usedOnce.take 2)).state.sessions,
            ((runOver noQuota .inMemory onlyAlice (usedOnce.take 2)).state.clock > x.expiry_time ↔
              (runOver noQuota .database onlyAlice (usedOnce.take 2)).state.clock >
                y.expiry_time) := by
        decide +kernel
      exact fun x hx _ y hy _ => hall x hx y hy
  | n + 3, hn => cases hn

theorem backends_agree_usedOnce :
    (runOver noQuota .inMemory onlyAlice usedOnce).visits.map
        (fun visit => (visit.call, visit.result)) =
      (runOver noQuota .database onlyAlice usedOnce).visits.map
        fun visit => (visit.call, visit.result) :=
  (backends_agree noQuota onlyAlice usedOnce usedOnce_alike).1

end Example

end SessionBackends

end CortxCsm
