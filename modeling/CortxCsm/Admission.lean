/-
# `CortxCsm.Admission` — who is admitted under the quota of active users?

`_add_active_user_with_quota` compares the number of users it has counted with the quota,
and sweeps the expired sessions when there is no room.  The counters also count sessions
that have expired and have not been swept yet; these are gone by the time a login is
refused.

`Ledger` ties the counters to the store: one count for each stored session, each session a
known user's, and nothing stored before the restore.  All calls run from start to end keep
it, so at any moment the number of counted users is the number of users with a session.

**Proved here.**

    removals, refreshes and new sessions keep the ledger     (`Ledger.delete`, …)
    a loop of removals leaves the others                     (`each_completes`)
    a login is refused for lack of room only                 (`login_completes`)
    admission is exact, in every run                         (`admission_exact`)
-/
import CortxCsm.Lib.Sequence
import CortxCsm.SessionQuota

namespace CortxCsm.Admission

open SessionManager QuotaSessionManager LoginService SessionQuota

/-! ## The ledger -/

structure Ledger (cfg : Settings) (store : UserStore) (s : State) : Prop where
  users : s.users = store
  accounts : ∃ x : Books Unit, x.credit.get? () = none ∧ x.pending () = none ∧ Accounts cfg s x
  owners : ∀ session ∈ s.sessions, ∃ user ∈ store, user.user_id = session.credentials.user_id
  unrestored : s._active_users_restored = false → ∀ session, session ∉ s.sessions

/-- The session is removed, and taken off the count. -/
def removed (session : Session) (s : State) : State :=
  { s with
    sessions := s.sessions.remove session.session_id
    _active_users := removeActiveUser s._active_users session.credentials.user_id }

/-- The session is counted and stored. -/
def added (session : Session) (s : State) : State :=
  { s with
    sessions := s.sessions.upsert session
    _active_users := s._active_users.set session.credentials.user_id
      ((s._active_users.get? session.credentials.user_id).getD 0 + 1)
    drawn := s.drawn + 1 }

namespace Ledger

variable {cfg : Settings} {store : UserStore} {s : State} {session : Session}

theorem delete (h : Ledger cfg store s) (hs : session ∈ s.sessions) :
    Ledger cfg store (removed session s) := by
  obtain ⟨x, hcredit, hpending, hx⟩ := h.accounts
  have hdeleted := hx.delete hcredit (hx.owned session hs) ⟨session, hs, rfl⟩
  have hset : (x.credit.set () session.credentials.user_id).get? () =
      some session.credentials.user_id := by simp
  refine ⟨h.users, ⟨_, ?_, ?_, hdeleted.discount hset⟩, ?_, ?_⟩
  · simp
  · exact hpending
  · exact fun y hy => h.owners y (Table.mem_remove.mp hy).1
  · exact fun hr y hy => h.unrestored hr y (Table.mem_remove.mp hy).1

theorem refresh (h : Ledger cfg store s) (hs : session ∈ s.sessions) (expiry_time : Time) :
    Ledger cfg store
      { s with sessions := s.sessions.upsert { session with expiry_time := expiry_time } } := by
  obtain ⟨x, hcredit, hpending, hx⟩ := h.accounts
  have hold : ∀ y ∈ s.sessions.upsert { session with expiry_time := expiry_time },
      ∃ z ∈ s.sessions, z.session_id = y.session_id ∧ z.credentials = y.credentials := by
    intro y hy
    rcases Table.mem_upsert.mp hy with rfl | ⟨hy, -⟩
    · exact ⟨session, hs, rfl, rfl⟩
    · exact ⟨y, hy, rfl, rfl⟩
  refine ⟨h.users, ⟨x, hcredit, hpending, ?_, hx.positive, hx.within, ?_, ?_⟩, ?_, ?_⟩
  · intro user_id
    rw [hx.exact user_id]
    refine congrArg (· + _) (Eq.symm ?_)
    exact Table.count_upsert_of_mem _ hs rfl rfl
  · intro y hy
    obtain ⟨z, hz, hid, hcredentials⟩ := hold y hy
    rw [← hid, ← hcredentials]
    exact hx.owned z hz
  · refine hx.ids.keep rfl fun y hy => ?_
    obtain ⟨z, hz, hid, -⟩ := hold y hy
    exact hid ▸ hx.ids.stored z hz
  · intro y hy
    obtain ⟨z, hz, -, hcredentials⟩ := hold y hy
    exact hcredentials ▸ h.owners z hz
  · intro hr y hy
    obtain ⟨z, hz, -, -⟩ := hold y hy
    exact h.unrestored hr z hz

/-- The same sessions and counters. -/
theorem keep {s' : State} (h : Ledger cfg store s) (husers : s'.users = s.users)
    (hsessions : s'.sessions = s.sessions) (hactive : s'._active_users = s._active_users)
    (hdrawn : s'.drawn = s.drawn)
    (hrestored : s'._active_users_restored = false → s._active_users_restored = false) :
    Ledger cfg store s' := by
  obtain ⟨x, hcredit, hpending, hx⟩ := h.accounts
  refine ⟨husers.trans h.users, ⟨x, hcredit, hpending, ?_⟩, ?_, ?_⟩
  · refine ⟨?_, ?_, ?_, ?_, hx.ids.keep hdrawn ?_⟩
    · rw [hsessions, hactive]
      exact hx.exact
    · rw [hactive]
      exact hx.positive
    · rw [hactive]
      exact hx.within
    · rw [hsessions]
      exact hx.owned
    · rw [hsessions]
      exact hx.ids.stored
  · rw [hsessions]
    exact h.owners
  · intro hr
    rw [hsessions]
    exact h.unrestored (hrestored hr)

theorem restored (h : Ledger cfg store s) :
    Ledger cfg store { s with _active_users_restored := true } :=
  h.keep rfl rfl rfl rfl fun hr => absurd hr Bool.noConfusion

theorem elapse (h : Ledger cfg store s) (elapsed : Time) :
    Ledger cfg store { s with clock := s.clock + elapsed } :=
  h.keep rfl rfl rfl rfl fun hr => hr

/-- A session with a fresh id is stored, when there is room. -/
theorem create (h : Ledger cfg store s) (hrestored : s._active_users_restored = true)
    (hid : session.session_id = cfg.uuid4 s.drawn) {user : User} (huser : user ∈ store)
    (hof : session.credentials.user_id = user.user_id)
    (hroom : ¬ ((s._active_users.len : Int) = cfg.active_users_quota ∧
      (s._active_users.get? session.credentials.user_id).getD 0 = 0)) :
    Ledger cfg store (added session s) := by
  obtain ⟨x, hcredit, hpending, hx⟩ := h.accounts
  have hdrawn := (hx.counted hcredit hroom).draw ()
  have hcounted : (x.credit.set () session.credentials.user_id).get? () =
      some session.credentials.user_id := by simp
  have hdrawnFor : Function.update x.pending () (some (cfg.uuid4 s.drawn)) () =
      some session.session_id := by simp [hid]
  have hstored := hdrawn.store (i := ()) hcounted hdrawnFor
  refine ⟨h.users, ⟨_, ?_, ?_, hstored⟩, ?_, ?_⟩
  · simp
  · simp
  · intro y hy
    rcases Table.mem_upsert.mp hy with rfl | ⟨hy, -⟩
    · exact ⟨user, huser, hof.symm⟩
    · exact h.owners y hy
  · intro hr
    exact absurd (hr.symm.trans hrestored) Bool.noConfusion

theorem start (cfg : Settings) (hquota : 0 ≤ cfg.active_users_quota) (store : UserStore) :
    Ledger cfg store (.fresh store) := by
  refine ⟨rfl, ⟨⟨Table.empty, fun _ => none, fun _ => none⟩, rfl, rfl, ?_⟩, ?_, ?_⟩
  · refine ⟨fun _ => rfl, fun _ h => ?_, hquota, ?_, ?_⟩
    · cases h
    · exact fun session hs => absurd hs (Table.not_mem_empty session)
    · refine Ids.start (fun _ hb => absurd hb Bool.noConfusion) ?_
      exact fun session hs => absurd hs (Table.not_mem_empty session)
  · exact fun session hs => absurd hs (Table.not_mem_empty session)
  · exact fun _ session => Table.not_mem_empty session

/-- As many users are counted as have sessions. -/
theorem len_active (h : Ledger cfg store s) :
    s._active_users.len = store.count fun user =>
      decide (∃ session ∈ s.sessions, session.credentials.user_id = user.user_id) := by
  obtain ⟨x, hcredit, -, hx⟩ := h.accounts
  have hexact := (hx.exact_of_settled fun _ => hcredit).1
  have hnodup : ((store.rows.filter fun user => decide (∃ session ∈ s.sessions,
      session.credentials.user_id = user.user_id)).map User.user_id).Nodup :=
    store.nodup.sublist (List.filter_sublist.map _)
  rw [← Table.length_keys, Table.count, List.countP_eq_length_filter,
    ← List.length_map User.user_id]
  refine ((List.perm_ext_iff_of_nodup s._active_users.nodup_keys hnodup).mpr ?_).length_eq
  intro user_id
  simp only [List.mem_map, List.mem_filter, decide_eq_true_eq]
  constructor
  · intro hkey
    obtain ⟨n, hn⟩ := Table.mem_keys.mp hkey
    have hcount := hexact user_id
    rw [hn, Option.getD_some] at hcount
    have hpos : 0 < storedFor s.sessions user_id := by
      rw [← hcount]
      exact Nat.pos_of_ne_zero fun e => hx.positive user_id (e ▸ hn)
    obtain ⟨session, hs, hof⟩ := Table.count_pos.mp hpos
    obtain ⟨user, huser, hid⟩ := h.owners session hs
    have hof' : session.credentials.user_id = user_id := of_decide_eq_true hof
    exact ⟨user, ⟨huser, session, hs, hid.symm⟩, hid.trans hof'⟩
  · rintro ⟨user, ⟨-, session, hs, hof⟩, rfl⟩
    exact hof ▸ hx.mem_keys hs

theorem len_congr {s' : State} (h : Ledger cfg store s) (h' : Ledger cfg store s')
    (hs : ∀ session, session ∈ s.sessions ↔ session ∈ s'.sessions) :
    s._active_users.len = s'._active_users.len := by
  rw [h.len_active, h'.len_active]
  simp only [hs]

end Ledger

/-! ## Removals -/

section Removals

variable {cfg : Settings} {store : UserStore} {s₀ s : State} {gone : Session → Prop}
  {session : Session} {rest : List Session}

/-- What a loop over the sessions of `s₀` has left while it has `rest` to go: the sessions
that stay, and of those to go the ones still to come. -/
structure Left (s₀ : State) (gone : Session → Prop) (rest : List Session) (s : State) : Prop where
  clock : s.clock = s₀.clock
  restored : s._active_users_restored = s₀._active_users_restored
  listed : ∀ session ∈ rest, session ∈ s₀.sessions
  nodup : (rest.map Session.session_id).Nodup
  sessions : ∀ session, session ∈ s.sessions ↔
    session ∈ s₀.sessions ∧ (gone session → session ∈ rest)

namespace Left

theorem start (s : State) (gone : Session → Prop) : Left s gone s.sessions.rows s where
  clock := rfl
  restored := rfl
  listed _ h := h
  nodup := s.sessions.nodup
  sessions _ := ⟨fun h => ⟨h, fun _ => h⟩, fun h => h.1⟩

/-- The next session has not been touched. -/
theorem mem (h : Left s₀ gone (session :: rest) s) : session ∈ s.sessions :=
  (h.sessions session).mpr ⟨h.listed session List.mem_cons_self, fun _ => List.mem_cons_self⟩

theorem skip (h : Left s₀ gone (session :: rest) s) (hstays : ¬ gone session) :
    Left s₀ gone rest s where
  clock := h.clock
  restored := h.restored
  listed x hx := h.listed x (List.mem_cons_of_mem _ hx)
  nodup := (List.nodup_cons.mp h.nodup).2
  sessions x := by
    rw [h.sessions x]
    refine and_congr_right fun _ => forall_congr' fun hx => ?_
    rw [List.mem_cons]
    exact or_iff_right fun e => hstays (e ▸ hx)

theorem remove (h : Left s₀ gone (session :: rest) s) (hgone : gone session) :
    Left s₀ gone rest (removed session s) where
  clock := h.clock
  restored := h.restored
  listed x hx := h.listed x (List.mem_cons_of_mem _ hx)
  nodup := (List.nodup_cons.mp h.nodup).2
  sessions x := by
    have hfresh := (List.nodup_cons.mp h.nodup).1
    refine Table.mem_remove.trans ?_
    rw [h.sessions x]
    constructor
    · rintro ⟨⟨hx, hto⟩, hne⟩
      refine ⟨hx, fun hg => (List.mem_cons.mp (hto hg)).resolve_left ?_⟩
      exact fun e => hne (congrArg Session.session_id e)
    · rintro ⟨hx, hto⟩
      refine ⟨⟨hx, fun hg => List.mem_cons_of_mem _ (hto hg)⟩, fun e => ?_⟩
      have hsame : x = session := Table.eq_of_key hx (h.listed session List.mem_cons_self) e
      exact hfresh (List.mem_map.mpr ⟨x, hto (hsame ▸ hgone), e⟩)

end Left

theorem delete_removed (h : session ∈ s.sessions) :
    (delete session.session_id).solo cfg.machine s = some (.ok (), removed session s) := by
  rw [delete_solo, Table.find?_eq_some.mpr ⟨h, rfl⟩]
  rfl

/-- A loop that removes the sessions that are `gone`. -/
theorem each_completes [DecidablePred gone] {f : Session → Prog Unit}
    (hf : ∀ session s, s.clock = s₀.clock → (f session).solo cfg.machine s =
      (if gone session then delete session.session_id else return ()).solo cfg.machine s)
    (h : Ledger cfg store s₀) (caller : Caller) :
    Completes cfg.machine s₀ (get_all caller >>= fun sessions => sessions.forM f)
      (Returning fun _ s => Ledger cfg store s ∧ Left s₀ gone [] s) := by
  refine .call_bind (v := s₀.sessions.rows) rfl ?_
  refine .forM (J := fun rest s => Ledger cfg store s ∧ Left s₀ gone rest s) ?_ _
    ⟨h, .start s₀ gone⟩
  rintro session rest s ⟨hledger, hleft⟩
  have hsolo := hf session s hleft.clock
  by_cases hgone : gone session
  · rw [if_pos hgone, delete_removed hleft.mem] at hsolo
    exact ⟨_, _, hsolo, hledger.delete hleft.mem, hleft.remove hgone⟩
  · rw [if_neg hgone] at hsolo
    exact ⟨_, _, hsolo, hledger, hleft.skip hgone⟩

/-- The sweep. -/
theorem sweep_completes (h : Ledger cfg store s₀) :
    Completes cfg.machine s₀ _remove_expired_sessions (Returning fun _ s =>
      Ledger cfg store s ∧ Left s₀ (fun session => s₀.clock > session.expiry_time) [] s) := by
  refine each_completes (fun session s hclock => ?_) h _
  show (if decide (s.clock > session.expiry_time) = true then _ else _ : Prog Unit).solo _ s = _
  simp only [decide_eq_true_eq, hclock]

theorem delete_all_completes [Runtime] (h : Ledger cfg store s₀) (user_id : String) :
    Completes cfg.machine s₀ (delete_all_sessions_for_user user_id) (Returning fun _ s =>
      Ledger cfg store s ∧ Left s₀ (IsOf user_id) [] s) :=
  each_completes (fun _ _ _ => rfl) h _

end Removals

/-! ## The quota -/

section Quota

variable [Runtime] {cfg : Settings} {store : UserStore} {s : State} {user : User}

/-- The user has a session that has not expired. -/
def Active (s : State) (user_id : String) : Prop :=
  ∃ session ∈ s.sessions, IsOf user_id session ∧ ¬ s.clock > session.expiry_time

instance (s : State) (user_id : String) : Decidable (Active s user_id) :=
  inferInstanceAs (Decidable (∃ session ∈ s.sessions, IsOf user_id session ∧
    ¬ s.clock > session.expiry_time))

/-- How many other users have one. -/
def othersActive (store : UserStore) (s : State) (user : User) : Nat :=
  store.count fun other => decide (other.user_id ≠ user.user_id ∧ Active s other.user_id)

/-- The ids differ by more than their case. -/
def Distinct (store : UserStore) : Prop :=
  ∀ u ∈ store, ∀ v ∈ store, lower u.user_id = lower v.user_id → u = v

/-- A session of the user carries the id as it is stored. -/
theorem Ledger.user_id_eq (h : Ledger cfg store s) (hdistinct : Distinct store)
    (huser : user ∈ store) {session : Session} (hs : session ∈ s.sessions)
    (hof : IsOf user.user_id session) : session.credentials.user_id = user.user_id := by
  obtain ⟨owner, howner, hid⟩ := h.owners session hs
  have hsame : lower owner.user_id = lower user.user_id := hid ▸ hof
  rw [← hid, hdistinct owner howner user huser hsame]

/-- A user with an unexpired session is counted. -/
theorem others_le_len (h : Ledger cfg store s) (hdistinct : Distinct store) (user : User) :
    othersActive store s user ≤ s._active_users.len := by
  rw [h.len_active]
  refine List.countP_mono_left fun other hother hactive => ?_
  obtain ⟨-, session, hs, hof, -⟩ := of_decide_eq_true hactive
  exact decide_eq_true ⟨session, hs, h.user_id_eq hdistinct hother hs hof⟩

/-- After the sweep these are all who are counted. -/
theorem len_swept {s' : State} (h : Ledger cfg store s) (h' : Ledger cfg store s')
    (hdistinct : Distinct store) (hnone : ∀ session ∈ s.sessions, ¬ IsOf user.user_id session)
    (hswept : ∀ session, session ∈ s'.sessions ↔
      session ∈ s.sessions ∧ ¬ s.clock > session.expiry_time) :
    s'._active_users.len = othersActive store s user := by
  rw [h'.len_active]
  refine List.countP_congr fun other hother => ?_
  simp only [decide_eq_true_eq]
  constructor
  · rintro ⟨session, hs, hof⟩
    obtain ⟨hmem, hfresh⟩ := (hswept session).mp hs
    refine ⟨fun hid => hnone session hmem ?_, session, hmem, congrArg lower hof, hfresh⟩
    exact congrArg lower (hof.trans hid)
  · rintro ⟨-, session, hs, hof, hfresh⟩
    exact ⟨session, (hswept session).mpr ⟨hs, hfresh⟩, h.user_id_eq hdistinct hother hs hof⟩

omit [Runtime] in
/-- Before the restore there is nothing to restore. -/
theorem restoreOnce_completes (h : Ledger cfg store s) (add : String → Prog Bool) :
    Completes cfg.machine s (restoreOnce (_restore_active_users add))
      (Returning fun _ s' => s' = { s with _active_users_restored := true }) := by
  refine .read_bind ?_
  split
  · rename_i hrestored
    refine .ret ?_
    rw [← hrestored]
    rfl
  · rename_i hrestored
    have hempty : s.sessions.rows = [] :=
      List.eq_nil_iff_forall_not_mem.mpr (h.unrestored (by simpa using hrestored))
    refine .write_bind (.call_bind (v := s.sessions.rows) rfl ?_)
    rw [hempty]
    exact .ret rfl

omit [Runtime] in
/-- The sweep is only made when there is no room. -/
theorem reclaim_completes (h : Ledger cfg store s) :
    Completes cfg.machine s (reclaim cfg) (Returning fun _ s' => Ledger cfg store s' ∧
      Left s (fun session => (s._active_users.len : Int) ≥ cfg.active_users_quota ∧
        s.clock > session.expiry_time) [] s') := by
  refine .read_bind ?_
  split
  · rename_i hfull
    refine (sweep_completes h).mono fun r s' hr => ?_
    cases r with
    | error e => exact hr
    | ok _ =>
        refine ⟨hr.1, hr.2.clock, hr.2.restored, hr.2.listed, hr.2.nodup, fun session => ?_⟩
        rw [hr.2.sessions session]
        exact and_congr_right fun _ => by rw [and_iff_right hfull]
  · rename_i hroom
    refine .ret ⟨h, rfl, rfl, ?_, List.nodup_nil, fun session => ?_⟩
    · exact fun session hs => absurd hs List.not_mem_nil
    · exact ⟨fun hs => ⟨hs, fun hgone => absurd hgone.1 hroom⟩, fun hs => hs.1⟩

/-- The user is counted once more. -/
def counted (user_id : String) (s : State) : State :=
  { s with _active_users :=
      s._active_users.set user_id ((s._active_users.get? user_id).getD 0 + 1) }

omit [Runtime] in
/-- A user without a session is admitted while there is room. -/
theorem admitUser_completes (hnone : (s._active_users.get? user.user_id).getD 0 = 0) :
    Completes cfg.machine s (admitUser cfg user.user_id) (Returning fun admitted s' =>
      (admitted = false ∧ s' = s ∧ cfg.active_users_quota ≤ s._active_users.len) ∨
        (admitted = true ∧ s' = counted user.user_id s ∧
          (s._active_users.len : Int) < cfg.active_users_quota)) := by
  refine .read_bind ?_
  dsimp only
  split
  · rename_i hmore
    exact .ret (.inl ⟨rfl, rfl, Int.le_of_lt hmore⟩)
  · split
    · rename_i hfull
      exact .ret (.inl ⟨rfl, rfl, Int.le_of_eq hfull.1.symm⟩)
    · rename_i hmore hfull
      refine .write_bind (.ret (.inr ⟨rfl, rfl, ?_⟩))
      exact lt_of_le_of_ne (Int.not_lt.mp hmore) fun e => hfull ⟨e, hnone⟩

/-- What is decided for a user without a session. -/
def Decided (cfg : Settings) (store : UserStore) (s : State) (user : User) (admitted : Bool)
    (s' : State) : Prop :=
  (admitted = false ∧ Ledger cfg store s' ∧ cfg.active_users_quota ≤ othersActive store s user) ∨
    (admitted = true ∧ (othersActive store s user : Int) < cfg.active_users_quota ∧
      ∃ s₁, s' = counted user.user_id s₁ ∧ Ledger cfg store s₁ ∧
        s₁._active_users_restored = true ∧
          (s₁._active_users.len : Int) < cfg.active_users_quota)

theorem add_active_user_completes (hquota : 0 < cfg.active_users_quota) (h : Ledger cfg store s)
    (hdistinct : Distinct store)
    (hnone : ∀ session ∈ s.sessions, ¬ IsOf user.user_id session) :
    Completes cfg.machine s (_add_active_user_with_quota cfg user.user_id)
      (Returning (Decided cfg store s user)) := by
  unfold _add_active_user_with_quota addActiveUser
  rw [if_neg (Int.not_le.mpr hquota)]
  refine (restoreOnce_completes h _).bind fun _ s₁ hs₁ => ?_
  subst hs₁
  refine (reclaim_completes h.restored).bind fun _ s₂ ⟨hledger, hleft⟩ => ?_
  have hnone₂ : ∀ session ∈ s₂.sessions, session.credentials.user_id ≠ user.user_id := by
    intro session hs hof
    exact hnone session ((hleft.sessions session).mp hs).1 (congrArg lower hof)
  have hzero : (s₂._active_users.get? user.user_id).getD 0 = 0 := by
    obtain ⟨x, hcredit, -, hx⟩ := hledger.accounts
    rw [(hx.exact_of_settled fun _ => hcredit).1 user.user_id]
    refine Nat.eq_zero_of_not_pos fun hpos => ?_
    obtain ⟨session, hs, hof⟩ := Table.count_pos.mp hpos
    exact hnone₂ session hs (of_decide_eq_true hof)
  -- full before the sweep: who is counted then has an unexpired session; else there is room
  have hlen : cfg.active_users_quota ≤ s₂._active_users.len ↔
      cfg.active_users_quota ≤ othersActive store s user := by
    by_cases hfull : (s._active_users.len : Int) ≥ cfg.active_users_quota
    · rw [len_swept h hledger hdistinct hnone fun session => ?_]
      rw [hleft.sessions session]
      refine and_congr_right fun _ => ⟨fun hgone hexpired => ?_, fun hfresh hgone => ?_⟩
      · exact absurd (hgone ⟨hfull, hexpired⟩) List.not_mem_nil
      · exact absurd hgone.2 hfresh
    · have hsame : s₂._active_users.len = s._active_users.len := by
        refine hledger.len_congr h fun session => (hleft.sessions session).trans ?_
        exact and_iff_left fun hgone => absurd hgone.1 hfull
      have hothers := others_le_len h hdistinct user
      omega
  refine (admitUser_completes hzero).mono fun r s' hr => ?_
  cases r with
  | error e => exact hr
  | ok admitted =>
      rcases hr with ⟨hrefused, rfl, hle⟩ | ⟨hadmitted, rfl, hlt⟩
      · exact .inl ⟨hrefused, hledger, hlen.mp hle⟩
      · refine .inr ⟨hadmitted, ?_, s₂, rfl, hledger, hleft.restored, hlt⟩
        exact Int.not_le.mp fun hle => absurd (hlen.mpr hle) (Int.not_le.mpr hlt)

end Quota

/-! ## `login` -/

section Login

variable [Runtime] {cfg : Settings} {store : UserStore} {s s₀ : State} {user : User}

/-- What `QuotaSessionManager.create` raises when it is refused. -/
def quotaReached : Exc :=
  .csm (csmPermissionDenied (some "Active users quota is reached") PERMISSION_DENIED_ERROR none)

/-- An unexpired session of the user is stored. -/
structure Live (user_id : String) (session : Session) (s : State) : Prop where
  stored : session ∈ s.sessions
  of : IsOf user_id session
  fresh : ¬ s.clock > session.expiry_time

/-- The user is refused when there is no room, and given a session when there is. -/
def Admitted (cfg : Settings) (store : UserStore) (user_id : String) (full : Prop)
    (r : Except Exc Session) (s : State) : Prop :=
  Ledger cfg store s ∧ ((full ∧ r = .error quotaReached) ∨
    (¬ full ∧ ∃ session, r = .ok session ∧ Live user_id session s))

omit [Runtime] in
theorem not_expired_later (now : Time) : ¬ now > now + _expiry_interval :=
  Nat.not_lt.mpr (Nat.le_add_right _ _)

/-- A new session for a user who has none. -/
theorem create_completes (hquota : 0 < cfg.active_users_quota) (h : Ledger cfg store s)
    (hdistinct : Distinct store) (huser : user ∈ store)
    (hnone : ∀ session ∈ s.sessions, ¬ IsOf user.user_id session) (permissions : PermissionSet) :
    Completes cfg.machine s
      (QuotaSessionManager.create cfg ⟨user.user_id, user.user_role⟩ permissions)
      (Admitted cfg store user.user_id
        (cfg.active_users_quota ≤ othersActive store s user)) := by
  refine (add_active_user_completes hquota h hdistinct hnone).bind fun admitted s' hdecided => ?_
  rcases hdecided with ⟨rfl, hledger, hfull⟩ | ⟨rfl, hroom, s₁, rfl, hledger, hrestored, hlen⟩
  · exact .raise ⟨hledger, .inl ⟨hfull, rfl⟩⟩
  · let session : Session := ⟨cfg.uuid4 s₁.drawn, s₁.clock + _expiry_interval,
      ⟨user.user_id, user.user_role⟩, permissions⟩
    have hexec : cfg.machine.exec (.session_store .create session)
        { counted user.user_id s₁ with drawn := s₁.drawn + 1 } =
          some (.ok (), added session s₁) := by
      simp only [Settings.machine, exec, Backend.store_eq]
      rfl
    have hstored : Completes cfg.machine { counted user.user_id s₁ with drawn := s₁.drawn + 1 }
        (Coro.call (.session_store .create session) >>= fun _ => return session)
        (Admitted cfg store user.user_id (cfg.active_users_quota ≤ othersActive store s user)) := by
      refine .call_bind hexec (.ret ⟨?_, .inr ⟨Int.not_le.mpr hroom, session, rfl, ?_⟩⟩)
      · exact hledger.create hrestored rfl huser rfl fun hfull => absurd hfull.1 (Int.ne_of_lt hlen)
      · exact ⟨Table.self_mem_upsert _ _, rfl, not_expired_later _⟩
    exact hstored

omit [Runtime] in
/-- The assignment is made in the store, or to a copy. -/
theorem expiryAssigned_cases (b : Backend) {session : Session} (hs : session ∈ s.sessions)
    (expiry_time : Time) :
    expiryAssigned b session.session_id expiry_time s = s ∨
      expiryAssigned b session.session_id expiry_time s =
        { s with sessions := s.sessions.upsert { session with expiry_time := expiry_time } } := by
  cases b with
  | database => exact .inl rfl
  | inMemory =>
      unfold expiryAssigned
      rw [Table.find?_eq_some.mpr ⟨hs, rfl⟩]
      exact .inr rfl

/-- The session is refreshed. -/
theorem update_session_expiry_time_completes {session : Session} (h : Ledger cfg store s)
    (hs : session ∈ s.sessions) {user_id : String} (hof : IsOf user_id session) :
    Completes cfg.machine s (update_session_expiry_time cfg session) (Returning fun session s' =>
      Ledger cfg store s' ∧ Live user_id session s') := by
  have hexec : ∀ s₁ : State, cfg.machine.exec
      (.session_store .update { session with expiry_time := s.clock + _expiry_interval }) s₁ =
        some (.ok (), { s₁ with
          sessions := s₁.sessions.upsert
            { session with expiry_time := s.clock + _expiry_interval } }) := by
    intro s₁
    simp only [Settings.machine, exec, Backend.store_eq]
  refine .read_bind (.write_bind (.call_bind (hexec _) (.ret ?_)))
  rcases expiryAssigned_cases cfg.backend hs (s.clock + _expiry_interval) with e | e
  · rw [e]
    exact ⟨h.refresh hs _, Table.self_mem_upsert _ _, hof, not_expired_later _⟩
  · rw [e]
    refine ⟨?_, Table.self_mem_upsert _ _, hof, not_expired_later _⟩
    exact (h.refresh hs _).refresh (Table.self_mem_upsert _ _) _

/-- What the loop of `_is_valid_session_exists` finds. -/
def Found (cfg : Settings) (store : UserStore) (s₀ : State) (user_id : String)
    (found : Option Session) (s : State) : Prop :=
  Ledger cfg store s ∧ match found with
    | some session => Active s₀ user_id ∧ Live user_id session s
    | none => ¬ Active s₀ user_id ∧ Left s₀ (IsOf user_id) [] s

theorem findValid_completes {user_id : String} : ∀ (rest : List Session) {s : State},
    Ledger cfg store s → Left s₀ (IsOf user_id) rest s →
      (∀ session ∈ s₀.sessions, IsOf user_id session → session ∉ rest →
        s₀.clock > session.expiry_time) →
      Completes cfg.machine s (findValid cfg user_id rest)
        (Returning (Found cfg store s₀ user_id))
  | [], s, hledger, hleft, hpassed => by
      refine .ret ⟨hledger, ?_, hleft⟩
      rintro ⟨session, hs, hof, hfresh⟩
      exact hfresh (hpassed session hs hof List.not_mem_nil)
  | each_session :: rest, s, hledger, hleft, hpassed => by
      have hpassed' : (IsOf user_id each_session → s₀.clock > each_session.expiry_time) →
          ∀ session ∈ s₀.sessions, IsOf user_id session → session ∉ rest →
            s₀.clock > session.expiry_time := by
        intro hexpired session hs hof hrest
        by_cases he : session = each_session
        · exact he ▸ hexpired (he ▸ hof)
        · exact hpassed session hs hof fun hmem => (List.mem_cons.mp hmem).elim he hrest
      unfold findValid
      split
      · rename_i hof
        refine .read_bind ?_
        split
        · rename_i hexpired
          have hnow : s₀.clock > each_session.expiry_time :=
            hleft.clock ▸ of_decide_eq_true hexpired
          refine Completes.bind (R := fun _ s' => s' = removed each_session s)
            ⟨_, _, delete_removed hleft.mem, rfl⟩ fun _ s' hs' => ?_
          rw [hs']
          exact findValid_completes rest (hledger.delete hleft.mem) (hleft.remove hof)
            (hpassed' fun _ => hnow)
        · rename_i hexpired
          have hfresh : ¬ s₀.clock > each_session.expiry_time :=
            fun hnow => hexpired (decide_eq_true (hleft.clock.symm ▸ hnow))
          refine (update_session_expiry_time_completes hledger hleft.mem hof).bind ?_
          rintro refreshed s' ⟨hledger', hlive⟩
          refine .ret ⟨hledger', ⟨each_session, ?_, hof, hfresh⟩, hlive⟩
          exact hleft.listed each_session List.mem_cons_self
      · rename_i hof
        exact findValid_completes rest hledger (hleft.skip hof) (hpassed' fun h => absurd h hof)

/-- Removing the user's own sessions leaves the others' alone. -/
theorem othersActive_left (hdistinct : Distinct store) (huser : user ∈ store)
    (hleft : Left s₀ (IsOf user.user_id) [] s) :
    othersActive store s user = othersActive store s₀ user := by
  refine List.countP_congr fun other hother => ?_
  simp only [decide_eq_true_eq]
  refine and_congr_right fun hne => exists_congr fun session => ?_
  rw [hleft.sessions session, hleft.clock, and_assoc]
  refine and_congr_right fun _ => and_iff_right_of_imp fun hof hown => ?_
  refine absurd (hdistinct other hother user huser ?_) fun e => hne (congrArg User.user_id e)
  exact hof.1.symm.trans hown

variable {name : String} {password : Str}

theorem sessionFor_completes (hquota : 0 < cfg.active_users_quota) (h : Ledger cfg store s)
    (hdistinct : Distinct store) (huser : user ∈ store) (hname : lower name = lower user.user_id) :
    Completes cfg.machine s (sessionFor cfg name user ⟨user.user_id, user.user_role⟩)
      (Admitted cfg store user.user_id (¬ Active s user.user_id ∧
        cfg.active_users_quota ≤ othersActive store s user)) := by
  have hsame : IsOf name = IsOf user.user_id := by
    funext session
    unfold IsOf
    rw [hname]
  have hactive : Active s name ↔ Active s user.user_id := by
    unfold Active
    rw [hsame]
  have hfind : Completes cfg.machine s (_is_valid_session_exists cfg name)
      (Returning (Found cfg store s name)) := by
    refine .call_bind (v := s.sessions.rows) rfl (findValid_completes _ h (.start s _) ?_)
    exact fun session hs _ hnot => absurd hs hnot
  refine hfind.bind fun found s' ⟨hledger, hfound⟩ => ?_
  cases found with
  | some session =>
      obtain ⟨hlive, hsession⟩ := hfound
      refine .ret ⟨hledger, .inr ⟨fun hfull => hfull.1 (hactive.mp hlive), session, rfl, ?_⟩⟩
      exact ⟨hsession.stored, hsame ▸ hsession.of, hsession.fresh⟩
  | none =>
      obtain ⟨hnot, hleft⟩ := hfound
      rw [hsame] at hleft
      have hnone : ∀ session ∈ s'.sessions, ¬ IsOf user.user_id session :=
        fun session hs hof => absurd (((hleft.sessions session).mp hs).2 hof) List.not_mem_nil
      refine (create_completes hquota hledger hdistinct huser hnone _).mono fun r s'' hr => ?_
      rw [othersActive_left hdistinct huser hleft] at hr
      have hfull : (¬ Active s user.user_id ∧
          cfg.active_users_quota ≤ othersActive store s user) ↔
            cfg.active_users_quota ≤ othersActive store s user :=
        and_iff_right fun hlive => hnot (hactive.mpr hlive)
      unfold Admitted
      rw [hfull]
      exact hr

/-- What a login of the user is answered. -/
def Answered (cfg : Settings) (store : UserStore) (s : State) (user : User)
    (r : Except Exc Response) (s' : State) : Prop :=
  (r = .error quotaReached ↔
      ¬ Active s user.user_id ∧ cfg.active_users_quota ≤ othersActive store s user) ∧
    (r ≠ .error quotaReached → ∃ session, Live user.user_id session s' ∧
      r = .ok (.login (some session.session_id) user.reset_password))

theorem Admitted.answered {r : Except Exc Session} {s' : State}
    (h : Admitted cfg store user.user_id (¬ Active s user.user_id ∧
      cfg.active_users_quota ≤ othersActive store s user) r s') :
    Answered cfg store s user
      (r.map fun session => .login (some session.session_id) user.reset_password) s' := by
  rcases h.2 with ⟨hfull, rfl⟩ | ⟨hroom, session, rfl, hlive⟩
  · exact ⟨⟨fun _ => hfull, fun _ => rfl⟩, fun hne => absurd rfl hne⟩
  · refine ⟨⟨fun he => ?_, fun hfull => absurd hfull hroom⟩, fun _ => ⟨session, hlive, rfl⟩⟩
    cases he

theorem get_user_completes (purpose : Purpose) (name : String) :
    Completes cfg.machine s (UserManager.get purpose name) (Returning fun found s' =>
      found = UserManager.search s.users.rows name ∧ s' = s) :=
  .call_bind (v := s.users.rows) rfl (.ret ⟨rfl, rfl⟩)

/-- A login: of a user with the right password, or of nobody. -/
theorem login_completes (hquota : 0 < cfg.active_users_quota) (h : Ledger cfg store s)
    (hdistinct : Distinct store) (name : String) (password : Str) :
    Completes cfg.machine s (LoginCall.program cfg (.login name password)) fun r s' =>
      Ledger cfg store s' ∧ ∀ user ∈ store, lower name = lower user.user_id →
        Authentic user password → Answered cfg store s user r s' := by
  refine .map ((get_user_completes _ _).bind ?_)
  rintro found s' ⟨hfound, hs'⟩
  rw [h.users] at hfound
  rw [hs']
  cases found with
  | none =>
      refine .ret ⟨h, fun user huser hname => ?_⟩
      exact absurd hname.symm (UserManager.search_none hfound.symm user huser)
  | some user =>
      obtain ⟨huser, hid⟩ := UserManager.search_some hfound.symm
      have honly : ∀ other ∈ store, lower name = lower other.user_id → other = user :=
        fun other hother hname => hdistinct other hother user huser (hname.symm.trans hid.symm)
      rcases authenticate_cases user password with ⟨-, e⟩ | ⟨hwrong, e⟩
      · dsimp only
        rw [e]
        refine Completes.bind (R := fun credentials s' => credentials =
          some ⟨user.user_id, user.user_role⟩ ∧ s' = s) (.ret ⟨rfl, rfl⟩) ?_
        rintro credentials s' ⟨hcredentials, hs'⟩
        rw [hcredentials, hs']
        refine Completes.bind_or ((sessionFor_completes hquota h hdistinct huser hid.symm).mono ?_)
        intro r s'' hr
        have hanswered : ∀ other ∈ store, lower name = lower other.user_id →
            Authentic other password → Answered cfg store s other
              (r.map fun session => .login (some session.session_id) user.reset_password) s'' := by
          intro other hother hname _
          rw [honly other hother hname]
          exact hr.answered
        cases r with
        | ok session => exact .ret ⟨hr.1, hanswered⟩
        | error e => exact ⟨hr.1, hanswered⟩
      · have hnobody : ∀ (r : Except Exc Response) (s' : State), ∀ other ∈ store,
            lower name = lower other.user_id → Authentic other password →
              Answered cfg store s other r s' :=
          fun _ _ other hother hname hauth => absurd (honly other hother hname ▸ hauth) hwrong
        dsimp only
        rcases e with e | ⟨_, e⟩
        · rw [e]
          exact .ret ⟨h, hnobody _ _⟩
        · rw [e]
          exact .raise ⟨h, hnobody _ _⟩

/-! ## Runs -/

omit [Runtime] in
theorem delete_completes (h : Ledger cfg store s) (session_id : String) :
    Completes cfg.machine s (delete session_id) fun _ s' => Ledger cfg store s' := by
  cases hfound : s.sessions.find? session_id with
  | none => exact ⟨_, _, by rw [delete_solo, hfound], h⟩
  | some session =>
      obtain ⟨hs, rfl⟩ := Table.find?_eq_some.mp hfound
      exact ⟨_, _, delete_removed hs, h.delete hs⟩

omit [Runtime] in
theorem auth_session_completes (h : Ledger cfg store s) (session_id : String) :
    Completes cfg.machine s (auth_session cfg session_id) fun _ s' => Ledger cfg store s' := by
  have hsolo := auth_session_solo cfg session_id s
  cases hfound : s.sessions.find? session_id with
  | none =>
      rw [hfound] at hsolo
      exact ⟨_, _, hsolo, h⟩
  | some session =>
      obtain ⟨hs, rfl⟩ := Table.find?_eq_some.mp hfound
      rw [hfound] at hsolo
      dsimp only at hsolo
      split at hsolo
      · exact ⟨_, _, hsolo, h.delete hs⟩
      · refine ⟨_, _, hsolo, ?_⟩
        rcases expiryAssigned_cases cfg.backend hs (s.clock + _expiry_interval) with e | e
        · rwa [e]
        · rw [e]
          exact h.refresh hs _

omit [Runtime] in
/-- A loop of removals ends well. -/
theorem ledger_kept {p : Prog Unit} {R : State → Prop}
    (h : Completes cfg.machine s p (Returning fun _ s' => Ledger cfg store s' ∧ R s')) :
    Completes cfg.machine s p fun _ s' => Ledger cfg store s' := by
  refine h.mono fun r s' hr => ?_
  cases r with
  | ok _ => exact hr.1
  | error e => exact False.elim hr

theorem delete_all_sessions_completes (h : Ledger cfg store s) (session_id : String) :
    Completes cfg.machine s (delete_all_sessions session_id) fun _ s' => Ledger cfg store s' := by
  refine .call_bind (v := s.sessions.find? session_id) rfl ?_
  cases s.sessions.find? session_id with
  | none => exact delete_completes h session_id
  | some session => exact ledger_kept (delete_all_completes h _)

/-- **One call.** -/
theorem call_completes (hquota : 0 < cfg.active_users_quota) (h : Ledger cfg store s)
    (hdistinct : Distinct store) (call : LoginCall) :
    Completes cfg.machine s (call.program cfg) fun r s' => Ledger cfg store s' ∧
      ∀ name password, call = .login name password → ∀ user ∈ store,
        lower name = lower user.user_id → Authentic user password →
          Answered cfg store s user r s' := by
  have hother : ∀ {call : LoginCall}, (∀ name password, call ≠ .login name password) →
      Completes cfg.machine s (call.program cfg) (fun _ s' => Ledger cfg store s') →
        Completes cfg.machine s (call.program cfg) fun r s' => Ledger cfg store s' ∧
          ∀ name password, call = .login name password → ∀ user ∈ store,
            lower name = lower user.user_id → Authentic user password →
              Answered cfg store s user r s' :=
    fun hne hends => hends.mono fun _ _ hledger =>
      ⟨hledger, fun name password e => absurd e (hne name password)⟩
  cases call with
  | login name password =>
      refine (login_completes hquota h hdistinct name password).mono fun r s' hr => ⟨hr.1, ?_⟩
      intro _ _ e
      cases e
      exact hr.2
  | logout session_id =>
      exact hother (fun _ _ => LoginCall.noConfusion) (.map (delete_completes h session_id))
  | auth_session session_id =>
      exact hother (fun _ _ => LoginCall.noConfusion) (.map (auth_session_completes h session_id))
  | delete_all_sessions session_id =>
      exact hother (fun _ _ => LoginCall.noConfusion)
        (.map (delete_all_sessions_completes h session_id))
  | delete_all_sessions_for_user user_id =>
      exact hother (fun _ _ => LoginCall.noConfusion)
        (.map (ledger_kept (delete_all_completes h user_id)))
  | _remove_expired_sessions =>
      exact hother (fun _ _ => LoginCall.noConfusion) (.map (ledger_kept (sweep_completes h)))

/-- What holds after any number of turns. -/
structure Kept (cfg : Settings) (store : UserStore) (t : Trace LoginCall State Exc Response) :
    Prop where
  ledger : Ledger cfg store t.state
  answered : ∀ visit ∈ t.visits, ∀ name password, visit.call = .login name password →
    ∀ user ∈ store, lower name = lower user.user_id → Authentic user password →
      Answered cfg store visit.before user visit.result visit.after

namespace Kept

variable {t : Trace LoginCall State Exc Response}

theorem start (hquota : 0 ≤ cfg.active_users_quota) : Kept cfg store (.start (.fresh store)) where
  ledger := .start cfg hquota store
  answered _ h := absurd h List.not_mem_nil

theorem elapse (t : Trace LoginCall State Exc Response) (elapsed : Time)
    (h : Kept cfg store t) : Kept cfg store ⟨t.visits, cfg.machine.env elapsed t.state⟩ where
  ledger := h.ledger.elapse elapsed
  answered := h.answered

theorem call (hquota : 0 < cfg.active_users_quota) (hdistinct : Distinct store)
    (t : Trace LoginCall State Exc Response) (call : LoginCall) (h : Kept cfg store t) :
    Completes cfg.machine t.state (call.program cfg)
      fun r s => Kept cfg store (t.visit call r s) := by
  refine (call_completes hquota h.ledger hdistinct call).mono fun r s hr => ⟨hr.1, ?_⟩
  intro visit hvisit
  rcases List.mem_append.mp hvisit with hold | hnew
  · exact h.answered visit hold
  · rw [List.mem_singleton.mp hnew]
    exact hr.2

end Kept

/-- **Admission is exact.**  Every call of a sequence comes to its end, and a login of a
user with the right password is refused if and only if the user has no unexpired session
and as many others as the quota have one; otherwise it returns a stored, unexpired session
of the user. -/
theorem admission_exact (cfg : Settings) (hquota : 0 < cfg.active_users_quota)
    (store : UserStore) (hdistinct : Distinct store) (turns : List (Turn LoginCall Time)) :
    (Trace.run cfg.machine (LoginCall.program cfg) (.start (.fresh store)) turns).visits.map
        Visit.call = Turn.calls turns ∧
      ∀ visit ∈ (Trace.run cfg.machine (LoginCall.program cfg) (.start (.fresh store)) turns).visits,
        ∀ name password, visit.call = .login name password → ∀ user ∈ store,
          lower name = lower user.user_id → Authentic user password →
            (visit.result = .error quotaReached ↔ ¬ Active visit.before user.user_id ∧
              cfg.active_users_quota ≤ othersActive store visit.before user) ∧
            (visit.result ≠ .error quotaReached → ∃ session ∈ visit.after.sessions,
              IsOf user.user_id session ∧ ¬ visit.after.clock > session.expiry_time ∧
                visit.result = .ok (.login (some session.session_id) user.reset_password)) := by
  have hrun := Trace.run_completes Kept.elapse (Kept.call hquota hdistinct)
    (Kept.start (Int.le_of_lt hquota)) turns
  refine ⟨hrun.2, fun visit hvisit name password hcall user huser hname hauth => ?_⟩
  obtain ⟨hexact, hreturned⟩ :=
    hrun.1.answered visit hvisit name password hcall user huser hname hauth
  refine ⟨hexact, fun hne => ?_⟩
  obtain ⟨session, hlive, e⟩ := hreturned hne
  exact ⟨session, hlive.stored, hlive.of, hlive.fresh, e⟩

end Login

/-! ## Room for one -/

section Example

theorem nodup_aliceAndBob : ([sampleUser "alice" CSM_MONITOR_ROLE,
    sampleUser "bob" CSM_MONITOR_ROLE].map User.user_id).Nodup := by
  decide

def aliceAndBob : UserStore := ⟨_, nodup_aliceAndBob⟩

def roomForOne : Settings := sampleSettings .inMemory 0 1 .blank

/-- Alice logs in, and then bob. -/
def bothLogIn : List (Turn LoginCall Time) :=
  [.call (.login "alice" "Seagate@1"), .call (.login "bob" "Seagate@1")]

def isBobs : LoginCall → Bool
  | .login name _ => name = "bob"
  | _ => false

theorem admission_exact_bob :
    ∃ visit ∈ (Trace.run roomForOne.machine (LoginCall.program roomForOne)
      (.start (.fresh aliceAndBob)) bothLogIn).visits,
        isBobs visit.call = true ∧ visit.result = .error quotaReached := by
  have hdistinct : Distinct aliceAndBob := by
    unfold Distinct
    decide
  have hexact := admission_exact roomForOne (by decide) aliceAndBob hdistinct bothLogIn
  have hfull : ∀ visit ∈ (Trace.run roomForOne.machine (LoginCall.program roomForOne)
      (.start (.fresh aliceAndBob)) bothLogIn).visits, isBobs visit.call = true →
        ¬ Active visit.before "bob" ∧ roomForOne.active_users_quota ≤
          othersActive aliceAndBob visit.before (sampleUser "bob" CSM_MONITOR_ROLE) := by
    decide +kernel
  have hcalled : LoginCall.login "bob" "Seagate@1" ∈ Turn.calls bothLogIn :=
    List.mem_cons_of_mem _ (List.mem_singleton_self _)
  rw [← hexact.1] at hcalled
  obtain ⟨visit, hvisit, hcall⟩ := List.mem_map.mp hcalled
  have hbobs : isBobs visit.call = true := by
    rw [hcall]
    rfl
  refine ⟨visit, hvisit, hbobs, ?_⟩
  refine (hexact.2 visit hvisit "bob" "Seagate@1" hcall (sampleUser "bob" CSM_MONITOR_ROLE) ?_ rfl
    ⟨rfl, _, _, Str.encode_ofString _, rfl, Runtime.checkpw_hashpw _ _⟩).1.mpr
      (hfull visit hvisit hbobs)
  exact List.mem_cons_of_mem _ (List.mem_singleton_self _)

end Example

end CortxCsm.Admission
