/-
# `CortxCsm.SessionFailure` — what a failed login or logout leaves

`Database` makes up to `MAX_RETRY_COUNT` attempts at an operation and raises what the last
one raised.  `delete` takes the session off the count after it is gone, so wherever it fails
the two agree; so they do when the restore or the sweep fails half way.  `create` counts the
session before it suspends on the store and has no handler: a store that has failed for the
last time leaves a count without a session.

| | |
| :-- | :-- |
| `Retries` | what the attempts of the storage calls come to |
| `Reached` | the states that the manager's calls lead to, interleaved and failing |
| `StoreFails` | the login is admitted, and no attempt at its store succeeds |

**Proved here.**

    each operation, done or failed                    (`call_done`, `call_failed`)
    nothing is counted before the restore             (`Reached.unrestored`)
    a deletion and a sweep keep the account           (`delete_cases`, `sweep_cases`)
    exactly a failed store breaks it                  (`failed_keeps_iff`)
-/
import CortxCsm.SessionRestore
import CortxCsm.Lib.Faults

namespace CortxCsm.SessionFailure

open SessionManager QuotaSessionManager SessionQuota SessionRestore
open Coro (solo_lift_bind_ok solo_lift_bind_error solo_lift_call)

/-! ## The retries of the database backend -/

/-- `self.MAX_RETRY_COUNT`, and which of the attempts to come raise `DataAccessError`.  An
attempt that raises has not happened. -/
structure Retries where
  MAX_RETRY_COUNT : Nat
  fails : Nat → Bool

/-- What a loop of `Database` without attempts comes to; `_get` then gives no list to convert. -/
def fallThrough : (op : Op) → Option (Except Exc op.Ans)
  | .session_get _ => some (.error .typeError)
  | .session_get_all _ => some (.error .typeError)
  | .session_store _ _ => some (.ok ())
  | .session_delete _ => some (.ok ())
  | _ => none

variable (cfg : Settings) (d : Retries)

/-- An operation that is not tried again. -/
def direct (op : Op) (s : State × Nat) : Option (Except Exc op.Ans × (State × Nat)) :=
  (cfg.machine.exec op s.1).map fun r => (r.1, r.2, s.2)

/-- The process, with the number of attempts made beside it. -/
def machine : Machine Op Op.Ans (State × Nat) Exc Time where
  exec op s :=
    match cfg.backend with
    | .inMemory => direct cfg op s
    | .database =>
        match fallThrough op with
        | none => direct cfg op s
        | some r =>
            retried d.fails .dataAccessError r (cfg.machine.exec op) d.MAX_RETRY_COUNT s
  env elapsed s := (cfg.machine.env elapsed s.1, s.2)

/-- Where a storage call leaves the count of attempts, if it succeeds. -/
def done (n : Nat) : Option Nat :=
  match cfg.backend with
  | .inMemory => some n
  | .database => passed d.fails d.MAX_RETRY_COUNT n

/-- The next `k` storage calls succeed. -/
def through : Nat → Nat → Option Nat
  | 0, n => some n
  | k + 1, n => (done cfg d n).bind (through k)

section Operations

variable {cfg d} {s s' : State} {n m : Nat}

/-- A storage call one of whose attempts succeeds. -/
theorem call_done (op : Op) {r r' : Except Exc op.Ans} (hop : fallThrough op = some r)
    (hdone : done cfg d n = some m) (he : cfg.machine.exec op s = some (r', s')) :
    (Coro.call op : Prog op.Ans).lift.solo (machine cfg d) (s, n) = some (r', s', m) := by
  refine solo_lift_call ?_
  unfold done at hdone
  simp only [machine]
  cases hb : cfg.backend with
  | inMemory =>
      rw [hb] at hdone
      cases hdone
      simp only [direct, he]
      rfl
  | database =>
      rw [hb] at hdone
      simp only [hop]
      rw [retried_of_passed hdone, he]
      rfl

/-- A storage call none of whose attempts does. -/
theorem call_failed (op : Op) {r : Except Exc op.Ans} (hop : fallThrough op = some r)
    (hdone : done cfg d n = none) (s : State) :
    (Coro.call op : Prog op.Ans).lift.solo (machine cfg d) (s, n) =
      some (if d.MAX_RETRY_COUNT = 0 then r else .error .dataAccessError, s,
        n + d.MAX_RETRY_COUNT) := by
  refine solo_lift_call ?_
  unfold done at hdone
  simp only [machine]
  cases hb : cfg.backend with
  | inMemory =>
      rw [hb] at hdone
      cases hdone
  | database =>
      rw [hb] at hdone
      simp only [hop]
      exact retried_of_not_passed hdone

/-- Without attempts nothing is ever done. -/
theorem done_eq_none_of_zero (hb : cfg.backend = .database) (hmax : d.MAX_RETRY_COUNT = 0) :
    done cfg d n = none := by
  simp only [done, hb, hmax]
  rfl

theorem done_eq_none : done cfg d n = none ↔
    cfg.backend = .database ∧ ∀ k < d.MAX_RETRY_COUNT, d.fails (n + k) = true := by
  unfold done
  cases hb : cfg.backend with
  | inMemory => simp
  | database => simp [passed_eq_none]

/-- Once a call has succeeded, a failing one raises. -/
theorem call_raises (op : Op) {r : Except Exc op.Ans} {n' : Nat} (hop : fallThrough op = some r)
    (hfirst : done cfg d n' = some m) (hdone : done cfg d n = none) (s : State) :
    (Coro.call op : Prog op.Ans).lift.solo (machine cfg d) (s, n) =
      some (.error .dataAccessError, s, n + d.MAX_RETRY_COUNT) := by
  have hmax : d.MAX_RETRY_COUNT ≠ 0 := by
    intro hmax
    rw [done_eq_none_of_zero (done_eq_none.mp hdone).1 hmax] at hfirst
    cases hfirst
  rw [call_failed op hop hdone s, if_neg hmax]

variable (cfg d) in
/-- A read is answered, or raises. -/
theorem read_cases (op : Op) (n : Nat) (hop : fallThrough op = some (.error .typeError))
    {v : op.Ans} (he : cfg.machine.exec op s = some (.ok v, s)) :
    (∃ m, done cfg d n = some m ∧
      (Coro.call op : Prog op.Ans).lift.solo (machine cfg d) (s, n) = some (.ok v, s, m)) ∨
    (done cfg d n = none ∧ ∃ e m,
      (Coro.call op : Prog op.Ans).lift.solo (machine cfg d) (s, n) = some (.error e, s, m)) := by
  cases hdone : done cfg d n with
  | some m => exact .inl ⟨m, rfl, call_done op hop hdone he⟩
  | none =>
      have hfailed := call_failed op hop hdone s
      split at hfailed
      · exact .inr ⟨rfl, _, _, hfailed⟩
      · exact .inr ⟨rfl, _, _, hfailed⟩

theorem through_append : ∀ {j k n : Nat},
    through cfg d (j + k) n = (through cfg d j n).bind (through cfg d k)
  | 0, k, n => by rw [Nat.zero_add]; rfl
  | j + 1, k, n => by
      rw [Nat.add_right_comm, through, through]
      cases done cfg d n with
      | none => rfl
      | some m => exact through_append

end Operations

/-! ## The account -/

/-- Each user is counted with the number of sessions stored. -/
def Accounted (s : State) : Prop := ∀ u, tally s u = storedFor s.sessions u

/-- `_add_active_user_with_quota` lets the user in no more. -/
def Refused (s : State) (user_id : String) : Prop :=
  (s._active_users.len : Int) > cfg.active_users_quota ∨
    ((s._active_users.len : Int) = cfg.active_users_quota ∧ tally s user_id = 0)

instance (s : State) (user_id : String) : Decidable (Refused cfg s user_id) :=
  inferInstanceAs (Decidable (_ ∨ _))

namespace Accounted

variable {cfg d} {s : State}

theorem removed (h : Accounted s) {session : Session} (hs : session ∈ s.sessions) :
    Accounted (Admission.removed session s) := by
  intro u
  have hstored := storedFor_remove u hs
  rw [tally_removed, h u, ← hstored]
  exact Nat.add_sub_cancel _ _

theorem swept (h : Accounted s) : Accounted (swept s) := by
  have hloop : ∀ (l : List Session) (s : State), Accounted s → (∀ x ∈ l, x ∈ s.sessions) →
      (l.map Session.session_id).Nodup →
        Accounted (l.foldl (fun s session => Admission.removed session s) s) := by
    intro l
    induction l with
    | nil => exact fun s h _ _ => h
    | cons x l ih =>
        intro s h hin hnodup
        obtain ⟨hnew, hnodup⟩ := List.nodup_cons.mp hnodup
        refine ih _ (h.removed (hin x List.mem_cons_self)) (fun y hy => ?_) hnodup
        refine Table.mem_remove.mpr ⟨hin y (List.mem_cons_of_mem _ hy), fun e => ?_⟩
        exact hnew (List.mem_map.mpr ⟨y, hy, e⟩)
  refine hloop _ s h (fun x hx => (List.mem_filter.mp hx).1) ?_
  exact s.sessions.nodup.sublist (List.filter_sublist.map _)

/-- Nobody counted, nothing stored. -/
theorem no_sessions (h : Accounted s) (hnone : s._active_users = Table.empty) :
    s.sessions.rows = [] := by
  rw [List.eq_nil_iff_forall_not_mem]
  intro x hx
  have hpos : 0 < storedFor s.sessions x.credentials.user_id :=
    Table.count_pos.mpr ⟨x, hx, decide_eq_true rfl⟩
  rw [← h, tally, hnone] at hpos
  exact Nat.lt_irrefl 0 hpos

end Accounted

/-! ## Deletions and sweeps -/

section Removals

variable {cfg d} {s : State} {n : Nat}

variable (cfg d) in
/-- A deletion of a stored session goes through, or raises and changes nothing. -/
theorem delete_stored {session : Session} (hs : session ∈ s.sessions) :
    (∃ m, through cfg d 2 n = some m ∧
      (delete session.session_id).lift.solo (machine cfg d) (s, n) =
        some (.ok (), Admission.removed session s, m)) ∨
    (through cfg d 2 n = none ∧ ∃ e m,
      (delete session.session_id).lift.solo (machine cfg d) (s, n) = some (.error e, s, m)) := by
  have hfind : s.sessions.find? session.session_id = some session :=
    Table.find?_eq_some.mpr ⟨hs, rfl⟩
  have hget : cfg.machine.exec (.session_get session.session_id) s = some (.ok (some session), s) := by
    rw [← hfind]
    rfl
  have hdelete : cfg.machine.exec (.session_delete session.session_id) s =
      some (.ok (), { s with sessions := s.sessions.remove session.session_id }) := by
    show some ((cfg.backend.delete s.sessions session.session_id).1, _) = _
    rw [Backend.delete_of_stored ⟨session, hs, rfl⟩]
  simp only [through]
  rcases read_cases cfg d (.session_get session.session_id) n rfl hget with
    ⟨m, hfirst, hgot⟩ | ⟨hfirst, e, m, hfailed⟩
  · have hbegin : (delete session.session_id).lift.solo (machine cfg d) (s, n) = _ :=
      solo_lift_bind_ok hgot
    rw [hbegin, hfirst]
    cases hsecond : done cfg d m with
    | none =>
        refine .inr ⟨by simp [hsecond], ?_⟩
        have hraised := call_raises (.session_delete session.session_id) rfl hfirst hsecond s
        exact ⟨_, _, solo_lift_bind_error hraised⟩
    | some m' =>
        refine .inl ⟨m', by simp [hsecond], ?_⟩
        exact solo_lift_bind_ok (call_done _ rfl hsecond hdelete)
  · rw [hfirst]
    exact .inr ⟨rfl, e, m, solo_lift_bind_error hfailed⟩

/-- The loop of the sweep: two storage calls for each expired session. -/
theorem sweep_loop : ∀ {l : List Session} {s : State} {n : Nat}, Accounted s →
    (∀ x ∈ l, expired s.clock x → x ∈ s.sessions) → (l.map Session.session_id).Nodup →
      (∃ m, through cfg d (2 * (l.filter (expired s.clock)).length) n = some m ∧
        (l.forM deleteIfExpired).lift.solo (machine cfg d) (s, n) = some (.ok (),
          (l.filter (expired s.clock)).foldl (fun s session => Admission.removed session s) s, m)) ∨
      (through cfg d (2 * (l.filter (expired s.clock)).length) n = none ∧
        ∃ e t m, (l.forM deleteIfExpired).lift.solo (machine cfg d) (s, n) =
          some (.error e, t, m) ∧ Accounted t) := by
  intro l
  induction l with
  | nil => exact fun _ _ _ => .inl ⟨_, rfl, rfl⟩
  | cons x l ih =>
      intro s n hs hstored hnodup
      obtain ⟨hnew, hnodup⟩ := List.nodup_cons.mp hnodup
      cases hx : expired s.clock x with
      | false =>
          have hone : (deleteIfExpired x).lift.solo (machine cfg d) (s, n) =
              some (.ok (), s, n) := by
            show (if expired s.clock x = true then delete x.session_id
              else (return () : Prog Unit)).lift.solo _ (s, n) = _
            rw [hx]
            rfl
          have hloop : ((x :: l).forM deleteIfExpired).lift.solo (machine cfg d) (s, n) =
              (l.forM deleteIfExpired).lift.solo (machine cfg d) (s, n) := solo_lift_bind_ok hone
          rw [hloop, List.filter_cons_of_neg (by simp [hx])]
          exact ih hs (fun y hy => hstored y (List.mem_cons_of_mem _ hy)) hnodup
      | true =>
          have hin := hstored x List.mem_cons_self hx
          have hkind : (deleteIfExpired x).lift.solo (machine cfg d) (s, n) =
              (delete x.session_id).lift.solo (machine cfg d) (s, n) := by
            show (if expired s.clock x = true then delete x.session_id
              else (return () : Prog Unit)).lift.solo _ (s, n) = _
            rw [if_pos hx]
          rw [List.filter_cons_of_pos hx, List.length_cons, Nat.mul_add_one, Nat.add_comm,
            through_append]
          rcases delete_stored cfg d (n := n) hin with
            ⟨m, hthrough, hdel⟩ | ⟨hthrough, e, m, hdel⟩
          · have hloop : ((x :: l).forM deleteIfExpired).lift.solo (machine cfg d) (s, n) =
                (l.forM deleteIfExpired).lift.solo (machine cfg d) (Admission.removed x s, m) :=
              solo_lift_bind_ok (hkind.trans hdel)
            rw [hloop, hthrough, Option.bind_some, List.foldl_cons]
            refine ih (hs.removed hin) (fun y hy hexp => ?_) hnodup
            refine Table.mem_remove.mpr ⟨hstored y (List.mem_cons_of_mem _ hy) hexp, fun e => ?_⟩
            exact hnew (List.mem_map.mpr ⟨y, hy, e⟩)
          · rw [hthrough]
            exact .inr ⟨rfl, e, s, m, solo_lift_bind_error (hkind.trans hdel), hs⟩

/-- How many storage calls the sweep makes. -/
def sweepCalls (s : State) : Nat := 1 + 2 * (s.sessions.rows.filter (expired s.clock)).length

variable (cfg d) in
/-- A sweep goes through, or raises and has kept the account. -/
theorem sweep_cases (hs : Accounted s) :
    (∃ m, through cfg d (sweepCalls s) n = some m ∧
      _remove_expired_sessions.lift.solo (machine cfg d) (s, n) = some (.ok (), swept s, m)) ∨
    (through cfg d (sweepCalls s) n = none ∧ ∃ e t m,
      _remove_expired_sessions.lift.solo (machine cfg d) (s, n) = some (.error e, t, m) ∧
        Accounted t) := by
  rw [sweepCalls, through_append]
  simp only [through]
  rcases read_cases cfg d (.session_get_all ._remove_expired_sessions) n rfl rfl with
    ⟨m, hdone, hlist⟩ | ⟨hdone, e, m, hlist⟩
  · have hbegin : _remove_expired_sessions.lift.solo (machine cfg d) (s, n) =
        (s.sessions.rows.forM deleteIfExpired).lift.solo (machine cfg d) (s, m) :=
      solo_lift_bind_ok hlist
    rw [hbegin, hdone]
    exact sweep_loop hs (fun x hx _ => hx) s.sessions.nodup
  · rw [hdone]
    exact .inr ⟨rfl, e, s, m, solo_lift_bind_error hlist, hs⟩

end Removals

/-! ## Logins -/

/-- The storage calls made until the user is let in, if he is.  Before the restore nothing is
stored (`Reached.unrestored`), so all the restore does is list. -/
def admission (s : State) (user_id : String) : Option Nat :=
  if s._active_users_restored = false then done cfg d 0
  else if (s._active_users.len : Int) < cfg.active_users_quota then some 0
  else if Refused cfg (swept s) user_id then none
  else through cfg d (sweepCalls s) 0

/-- The user is counted with one session more. -/
def raised (user_id : String) (s : State) : State :=
  { s with _active_users := s._active_users.set user_id (tally s user_id + 1) }

/-- Nothing is counted before the restore. -/
def Unrestored (s : State) : Prop :=
  s._active_users_restored = false → s._active_users = Table.empty

section Logins

variable {cfg d} {s : State} {n : Nat}

theorem admitUser_refused {user_id : String} (h : Refused cfg s user_id) :
    (admitUser cfg user_id).lift.solo (machine cfg d) (s, n) = some (.ok false, s, n) := by
  show (if (s._active_users.len : Int) > cfg.active_users_quota then (return false : Prog Bool)
    else if (s._active_users.len : Int) = cfg.active_users_quota ∧ tally s user_id = 0 then
      return false else _).lift.solo _ (s, n) = _
  split
  · rfl
  · rename_i hover
    rw [if_pos (h.resolve_left hover)]
    rfl

theorem admitUser_admitted {user_id : String} (h : ¬ Refused cfg s user_id) :
    (admitUser cfg user_id).lift.solo (machine cfg d) (s, n) =
      some (.ok true, raised user_id s, n) := by
  obtain ⟨hover, hfull⟩ := not_or.mp h
  show (if (s._active_users.len : Int) > cfg.active_users_quota then (return false : Prog Bool)
    else if (s._active_users.len : Int) = cfg.active_users_quota ∧ tally s user_id = 0 then
      return false else _).lift.solo _ (s, n) = _
  rw [if_neg hover, if_neg hfull]
  rfl

theorem reclaim_room (h : (s._active_users.len : Int) < cfg.active_users_quota) :
    (reclaim cfg).lift.solo (machine cfg d) (s, n) = some (.ok (), s, n) := by
  show (if (s._active_users.len : Int) ≥ cfg.active_users_quota then _remove_expired_sessions
    else (return () : Prog Unit)).lift.solo _ (s, n) = _
  rw [if_neg (Int.not_le.mpr h)]
  rfl

theorem reclaim_full (h : ¬ (s._active_users.len : Int) < cfg.active_users_quota) :
    (reclaim cfg).lift.solo (machine cfg d) (s, n) =
      _remove_expired_sessions.lift.solo (machine cfg d) (s, n) := by
  show (if (s._active_users.len : Int) ≥ cfg.active_users_quota then _remove_expired_sessions
    else (return () : Prog Unit)).lift.solo _ (s, n) = _
  rw [if_pos (Int.not_lt.mp h)]

/-- The restore has been started. -/
def flagged (s : State) : State := { s with _active_users_restored := true }

variable (cfg d) in
/-- The restore of a manager that has nothing to restore. -/
theorem restoreOnce_cases (hs : Accounted s) (hnone : s._active_users = Table.empty)
    (hflag : s._active_users_restored = false) :
    (∃ m, done cfg d n = some m ∧
      (restoreOnce (_restore_active_users (addRestored cfg))).lift.solo (machine cfg d) (s, n) =
        some (.ok (), flagged s, m)) ∨
    (done cfg d n = none ∧ ∃ e m,
      (restoreOnce (_restore_active_users (addRestored cfg))).lift.solo (machine cfg d) (s, n) =
        some (.error e, flagged s, m)) := by
  have honce : (restoreOnce (_restore_active_users (addRestored cfg))).lift.solo
      (machine cfg d) (s, n) = (_restore_active_users (addRestored cfg)).lift.solo (machine cfg d)
        (flagged s, n) := by
    show (if s._active_users_restored = true then (return () : Prog Unit) else _).lift.solo
      _ (s, n) = _
    rw [hflag]
    rfl
  rw [honce]
  rcases read_cases cfg d (s := flagged s) (.session_get_all ._restore_active_users) n rfl rfl with ⟨m, hdone, hlist⟩ | ⟨hdone, e, m, hlist⟩
  · refine .inl ⟨m, hdone, (solo_lift_bind_ok hlist).trans ?_⟩
    show (s.sessions.rows.forM (restoreSession (addRestored cfg))).lift.solo _ _ = _
    rw [hs.no_sessions hnone]
    rfl
  · exact .inr ⟨hdone, e, m, solo_lift_bind_error hlist⟩

/-- What `_add_active_user_with_quota` comes to: the user is counted and nothing else, or he is
not let in, and the account is kept. -/
theorem add_cases (hquota : 0 < cfg.active_users_quota) (hs : Accounted s)
    (hunrestored : Unrestored s) (user_id : String) :
    (∃ t m, admission cfg d s user_id = some m ∧ Accounted t ∧
      (_add_active_user_with_quota cfg user_id).lift.solo (machine cfg d) (s, 0) =
        some (.ok true, raised user_id t, m)) ∨
    (admission cfg d s user_id = none ∧ ∃ r t m, r ≠ .ok true ∧ Accounted t ∧
      (_add_active_user_with_quota cfg user_id).lift.solo (machine cfg d) (s, 0) =
        some (r, t, m)) := by
  have hbody : _add_active_user_with_quota cfg user_id =
      (restoreOnce (_restore_active_users (addRestored cfg)) >>= fun _ =>
        reclaim cfg >>= fun _ => admitUser cfg user_id) := by
    unfold _add_active_user_with_quota addActiveUser
    rw [if_neg (Int.not_le.mpr hquota)]
  have hfree : ∀ t : State, (t._active_users.len : Int) < cfg.active_users_quota →
      ¬ Refused cfg t user_id := by
    intro t ht
    unfold Refused
    omega
  rw [hbody, admission]
  cases hflag : s._active_users_restored with
  | false =>
      -- nothing is counted, so nothing is stored: the restore lists, and finds nothing
      have hnone := hunrestored hflag
      have hroom : (s._active_users.len : Int) < cfg.active_users_quota := by
        rw [hnone]
        exact hquota
      rw [if_pos rfl]
      rcases restoreOnce_cases cfg d (n := 0) hs hnone hflag with
        ⟨m, hdone, honce⟩ | ⟨hdone, e, m, honce⟩
      · refine .inl ⟨flagged s, m, hdone, hs, ?_⟩
        rw [solo_lift_bind_ok honce, solo_lift_bind_ok (reclaim_room (s := flagged s) hroom),
          admitUser_admitted (hfree (flagged s) hroom)]
      · exact .inr ⟨hdone, .error e, flagged s, m, nofun, hs, solo_lift_bind_error honce⟩
  | true =>
      have honce : (restoreOnce (_restore_active_users (addRestored cfg))).lift.solo
          (machine cfg d) (s, 0) = some (.ok (), s, 0) := by
        show (if s._active_users_restored = true then (return () : Prog Unit) else _).lift.solo
          _ (s, 0) = _
        rw [hflag]
        rfl
      rw [if_neg Bool.noConfusion, solo_lift_bind_ok honce]
      by_cases hroom : (s._active_users.len : Int) < cfg.active_users_quota
      · rw [if_pos hroom, solo_lift_bind_ok (reclaim_room hroom),
          admitUser_admitted (hfree s hroom)]
        exact .inl ⟨s, 0, rfl, hs, rfl⟩
      · rw [if_neg hroom]
        rcases sweep_cases cfg d (n := 0) hs with
          ⟨m, hthrough, hsweep⟩ | ⟨hthrough, e, t, m, hsweep, ht⟩
        · rw [solo_lift_bind_ok ((reclaim_full hroom).trans hsweep)]
          by_cases hrefused : Refused cfg (swept s) user_id
          · rw [if_pos hrefused, admitUser_refused hrefused]
            exact .inr ⟨rfl, _, swept s, m, by simp, hs.swept, rfl⟩
          · rw [if_neg hrefused, admitUser_admitted hrefused]
            exact .inl ⟨swept s, m, hthrough, hs.swept, rfl⟩
        · rw [hthrough, ite_self]
          refine .inr ⟨rfl, .error e, t, m, nofun, ht, ?_⟩
          exact solo_lift_bind_error ((reclaim_full hroom).trans hsweep)

/-- An id has been drawn. -/
def drawnOne (s : State) : State := { s with drawn := s.drawn + 1 }

variable (cfg d) in
/-- `SessionManager.create` raises exactly if no attempt at its store succeeds; then it has
only drawn an id. -/
theorem create_cases (s : State) (credentials : LocalCredentials) (permissions : PermissionSet) :
    (¬ (done cfg d n = none ∧ d.MAX_RETRY_COUNT ≠ 0) ∧ ∃ session t m,
      (SessionManager.create cfg credentials permissions).lift.solo (machine cfg d) (s, n) =
        some (.ok session, t, m)) ∨
    ((done cfg d n = none ∧ d.MAX_RETRY_COUNT ≠ 0) ∧ ∃ e m,
      (SessionManager.create cfg credentials permissions).lift.solo (machine cfg d) (s, n) =
        some (.error e, drawnOne s, m)) := by
  let session : Session :=
    ⟨cfg.uuid4 s.drawn, s.clock + _expiry_interval, credentials, permissions⟩
  have hbegin : (SessionManager.create cfg credentials permissions).lift.solo (machine cfg d)
      (s, n) = (Coro.call (Op.session_store .create session) >>= fun _ =>
        (return session : Prog Session)).lift.solo (machine cfg d) (drawnOne s, n) := rfl
  rw [hbegin]
  cases hdone : done cfg d n with
  | some m =>
      refine .inl ⟨fun h => Option.some_ne_none m h.1, session, ?_⟩
      exact ⟨_, _, solo_lift_bind_ok (call_done (.session_store .create session) rfl hdone rfl)⟩
  | none =>
      have hfailed := call_failed (.session_store .create session) rfl hdone (drawnOne s)
      split at hfailed
      · rename_i hmax
        exact .inl ⟨fun h => h.2 hmax, session, _, _, solo_lift_bind_ok hfailed⟩
      · rename_i hmax
        exact .inr ⟨⟨rfl, hmax⟩, _, _, solo_lift_bind_error hfailed⟩

end Logins

/-! ## What is reached -/

/-- A program of the service: of the manager's attributes it changes nothing but by the
manager's own methods. -/
inductive Client : {α : Type} → Prog α → Prop
  | ret {α : Type} (a : α) : Client (.ret a)
  | raise {α : Type} (e : Exc) : Client (.raise e : Prog α)
  | bind {α β : Type} {p : Prog β} {f : β → Prog α} :
      Client p → (∀ b, Client (f b)) → Client (p >>= f)
  | sync {α : Type} (u : State → State) (f : State → α) :
      (∀ s, (u s)._active_users = s._active_users ∧
        (u s)._active_users_restored = s._active_users_restored) →
      Client (.sync u fun s => .ret (f s))
  | call (op : Op) : Client (Coro.call op)
  | create (credentials : LocalCredentials) (permissions : PermissionSet) :
      Client (QuotaSessionManager.create cfg credentials permissions)
  | delete (session_id : String) : Client (QuotaSessionManager.delete session_id)
  | _remove_expired_sessions : Client QuotaSessionManager._remove_expired_sessions

/-- `s` is reached from a new manager, whatever is stored, by clients that interleave and
whose operations may fail. -/
def Reached (s : State) : Prop :=
  ∃ (ι : Type) (_ : DecidableEq ι) (prog : ι → Prog Unit) (s₀ : State)
    (as : List (Act ι (Time ⊕ Fault Exc))),
    (∀ i, Client cfg (prog i)) ∧ s₀._active_users = Table.empty ∧
      s₀._active_users_restored = false ∧
        (Config.run (cfg.machine.faulty fun _ => false) (fun i => (prog i).lift)
          (.start (s₀, none)) as).state.1 = s

/-- The flag is never cleared, and nothing is counted while it is not set. -/
def unrestored (ι : Type) : Contract ι Op Op.Ans (State × Option (Fault Exc)) Exc Unit where
  inv w _ := Unrestored w.state.1
  rely _ a b :=
    a.1.state.1._active_users_restored = true → b.1.state.1._active_users_restored = true
  may _ _ _ := True
  refl _ _ h := h
  trans _ _ _ _ h h' ha := h' (h ha)

section Reach

open Contract.Triple (lift_bind lift_sync lift_read lift_call lift_forM)

variable {cfg : Settings} {ι : Type} {i : ι}

/-- The flag is known to be set, if `b`. -/
def Known (b : Bool) (a : World ι Op Op.Ans (State × Option (Fault Exc)) Exc × Unit) : Prop :=
  b = true → a.1.state.1._active_users_restored = true

theorem Known.stable (b : Bool) : (unrestored ι).Stable i (Known b) :=
  fun _ _ h hr hb => hr (h hb)

theorem exec_keeps {b : Backend} {op : Op} {s s' : State} {r : Except Exc op.Ans}
    (h : exec b op s = some (r, s')) : s'._active_users = s._active_users ∧
      s'._active_users_restored = s._active_users_restored := by
  cases op with
  | lock_acquire =>
      simp only [exec] at h
      split at h
      · cases h
      · cases h
        exact ⟨rfl, rfl⟩
  | _ =>
      cases h
      exact ⟨rfl, rfl⟩

/-- Code between two suspensions, given what it may do to the flag. -/
theorem sync_triple {α : Type} {b c : Bool} {u : State → State} {f : State → α}
    (h : ∀ s, Unrestored s → (b = true → s._active_users_restored = true) →
      Unrestored (u s) ∧ (s._active_users_restored = true → (u s)._active_users_restored = true) ∧
        (c = true → (u s)._active_users_restored = true)) :
    (unrestored ι).Triple (cfg.machine.faulty fun _ => false) i (Known b)
      (Coro.sync u fun s => .ret (f s) : Prog α).lift (fun _ => Known c) fun _ _ => True := by
  refine lift_sync fun w x hinv hb => ?_
  obtain ⟨hu, hflag, hc⟩ := h w.state.1 hinv hb
  exact ⟨(), hu, fun _ _ => hflag, hc⟩

theorem call_triple {b : Bool} (op : Op) :
    (unrestored ι).Triple (cfg.machine.faulty fun _ => false) i (Known b)
      (Coro.call op : Prog op.Ans).lift (fun _ => Known b) fun _ _ => True := by
  refine lift_call (.call (Known.stable b) (fun _ => Known.stable b)
    (fun _ => .const True) ?_)
  intro w x r s' hinv hb _ he
  have hkeeps : s'.1._active_users = w.state.1._active_users ∧
      s'.1._active_users_restored = w.state.1._active_users_restored := by
    rcases Machine.faulty_exec he with he | ⟨hs, -⟩ | ⟨-, _, _, -, he⟩
    · exact exec_keeps he
    · rw [hs]
      exact ⟨rfl, rfl⟩
    · exact exec_keeps he
  refine ⟨(), ?_, fun _ _ h => hkeeps.2.trans h, ?_⟩
  · intro hflag
    exact hkeeps.1.trans (hinv (hkeeps.2.symm.trans hflag))
  · cases r with
    | ok v => exact fun hbt => hkeeps.2.trans (hb hbt)
    | error e => trivial

theorem delete_triple {b : Bool} (session_id : String) :
    (unrestored ι).Triple (cfg.machine.faulty fun _ => false) i (Known b)
      (delete session_id).lift (fun _ => Known b) fun _ _ => True := by
  refine lift_bind (call_triple (.session_get session_id)) fun session => ?_
  cases session with
  | none => exact .raise fun _ _ _ => trivial
  | some session =>
      refine lift_bind (call_triple (.session_delete session_id)) fun _ => ?_
      refine sync_triple fun s hs hb => ⟨fun hflag => ?_, fun h => h, hb⟩
      show removeActiveUser s._active_users _ = Table.empty
      rw [hs hflag]
      rfl

theorem forM_triple {b : Bool} {f : Session → Prog Unit}
    (hf : ∀ session, (unrestored ι).Triple (cfg.machine.faulty fun _ => false) i (Known b)
      (f session).lift (fun _ => Known b) fun _ _ => True) (sessions : List Session) :
    (unrestored ι).Triple (cfg.machine.faulty fun _ => false) i (Known b)
      (sessions.forM f).lift (fun _ => Known b) fun _ _ => True :=
  lift_forM (J := fun _ => Known b) (fun session _ => hf session) sessions

theorem sweep_triple {b : Bool} :
    (unrestored ι).Triple (cfg.machine.faulty fun _ => false) i (Known b)
      _remove_expired_sessions.lift (fun _ => Known b) fun _ _ => True := by
  refine lift_bind (call_triple (.session_get_all ._remove_expired_sessions)) ?_
  refine forM_triple fun session => ?_
  refine lift_bind (S := fun _ => Known b) (lift_read fun _ _ _ h => h) fun expired => ?_
  split
  · exact delete_triple _
  · exact .ret fun _ _ h => h

/-- The body of `_add_active_user_with_quota`: by the time a user is counted the flag is set. -/
theorem addActiveUser_triple {b : Bool} {restore : Prog Unit} (user_id : String)
    (hrestore : (unrestored ι).Triple (cfg.machine.faulty fun _ => false) i (Known true)
      restore.lift (fun _ => Known true) fun _ _ => True) :
    (unrestored ι).Triple (cfg.machine.faulty fun _ => false) i (Known b)
      (addActiveUser cfg restore user_id).lift (fun _ => Known b) fun _ _ => True := by
  unfold addActiveUser
  split
  · exact .ret fun _ _ h => h
  · refine lift_bind (S := fun _ => Known true) ?_ fun _ => ?_
    · refine lift_bind (S := Known) (lift_read fun _ _ _ _ => id) fun restored => ?_
      cases restored with
      | true => exact .ret fun _ _ h => h
      | false =>
          refine lift_bind (S := fun _ => Known true) (sync_triple ?_) fun _ => hrestore
          exact fun s _ _ => ⟨nofun, fun _ => rfl, fun _ => rfl⟩
    refine lift_bind (S := fun _ => Known true) ?_ fun _ => ?_
    · refine lift_bind (S := fun _ => Known true) (lift_read fun _ _ _ h => h) fun _ => ?_
      split
      · exact sweep_triple
      · exact .ret fun _ _ h => h
    refine lift_bind (S := fun _ => Known true) (lift_read fun _ _ _ h => h) fun active => ?_
    dsimp only
    split
    · exact .ret fun _ _ h _ => h rfl
    split
    · exact .ret fun _ _ h _ => h rfl
    refine lift_bind (S := fun _ => Known true) (sync_triple ?_) fun _ =>
      .ret fun _ _ h _ => h rfl
    exact fun s _ hb => ⟨fun hflag => absurd (hflag.symm.trans (hb rfl)) Bool.noConfusion,
      fun h => h, hb⟩

theorem add_triple {b : Bool} (user_id : String) :
    (unrestored ι).Triple (cfg.machine.faulty fun _ => false) i (Known b)
      (_add_active_user_with_quota cfg user_id).lift (fun _ => Known b) fun _ _ => True := by
  refine addActiveUser_triple user_id ?_
  refine lift_bind (call_triple (.session_get_all ._restore_active_users)) ?_
  refine forM_triple fun session => ?_
  refine lift_bind (S := fun _ => Known true) (lift_read fun _ _ _ h => h) fun expired => ?_
  split
  · exact delete_triple _
  · refine lift_bind (addActiveUser_triple _ (.ret fun _ _ h => h)) fun _ => ?_
    exact .ret fun _ _ h => h

theorem client_triple {α : Type} {p : Prog α} (h : Client cfg p) :
    (unrestored ι).Triple (cfg.machine.faulty fun _ => false) i (Known false)
      p.lift (fun _ => Known false) fun _ _ => True := by
  induction h with
  | ret a => exact .ret fun _ _ h => h
  | raise e => exact .raise fun _ _ _ => trivial
  | bind _ _ ihp ihf => exact lift_bind ihp ihf
  | sync u f hu =>
      refine sync_triple fun s hs _ => ⟨fun hflag => ?_, fun h => (hu s).2.trans h, nofun⟩
      exact (hu s).1.trans (hs ((hu s).2.symm.trans hflag))
  | call op => exact call_triple op
  | create credentials permissions =>
      refine lift_bind (add_triple credentials.user_id) fun admitted => ?_
      cases admitted with
      | false => exact .raise fun _ _ _ => trivial
      | true =>
          refine lift_bind (S := fun _ => Known false) (sync_triple ?_) fun session_id => ?_
          · exact fun s hs _ => ⟨hs, fun h => h, nofun⟩
          refine lift_bind (S := fun _ => Known false) (lift_read fun _ _ _ h => h) fun _ => ?_
          exact lift_bind (call_triple _) fun _ => .ret fun _ _ h => h
  | delete session_id => exact delete_triple session_id
  | _remove_expired_sessions => exact sweep_triple

end Reach

/-- Nothing is counted before the restore, wherever the clients have got to. -/
theorem Reached.unrestored {cfg : Settings} {s : State} (h : Reached cfg s) : Unrestored s := by
  obtain ⟨ι, _, prog, s₀, as, hprog, hnone, -, rfl⟩ := h
  have hmay : ∀ (c : Config ι Op Op.Ans (State × Option (Fault Exc)) Exc Unit)
      (a : Act ι (Time ⊕ Fault Exc)), Config.AtOps (SessionFailure.unrestored ι).may c a := by
    intro c a
    cases a with
    | run i => exact fun _ _ => trivial
    | env r => trivial
  have henv : (SessionFailure.unrestored ι).AllowsEnv (cfg.machine.faulty fun _ => false) := by
    intro w x r hinv
    cases r with
    | inl elapsed => exact ⟨(), hinv, fun _ h => h⟩
    | inr fault => exact ⟨(), hinv, fun _ h => h⟩
  obtain ⟨_, hinv, -⟩ := Contract.Triple.run (fun i => Known.stable false)
    (fun i _ => Known.stable false) (fun i _ => .const True) henv
    (fun i => client_triple (hprog i)) (s := (s₀, none)) (x := ()) (fun _ => hnone) (fun i => nofun)
    (Config.along_of_forall hmay _ as)
  exact hinv

/-! ## Failed calls -/

/-- The login is admitted, and then no attempt at its store succeeds. -/
def StoreFails (s : State) : QuotaCall → Prop
  | .create credentials _ =>
      cfg.backend = .database ∧ 0 < cfg.active_users_quota ∧ 0 < d.MAX_RETRY_COUNT ∧
        ∃ n, admission cfg d s credentials.user_id = some n ∧
          ∀ k < d.MAX_RETRY_COUNT, d.fails (n + k) = true
  | _ => False

section Calls

variable {cfg d} {s : State}

theorem storeFails_create {n : Nat} {credentials : LocalCredentials} {permissions : PermissionSet}
    (hquota : 0 < cfg.active_users_quota)
    (hn : admission cfg d s credentials.user_id = some n) :
    StoreFails cfg d s (.create credentials permissions) ↔
      done cfg d n = none ∧ d.MAX_RETRY_COUNT ≠ 0 := by
  rw [done_eq_none]
  constructor
  · rintro ⟨hb, -, hmax, m, hm, hfails⟩
    cases hm.symm.trans hn
    exact ⟨⟨hb, hfails⟩, Nat.pos_iff_ne_zero.mp hmax⟩
  · rintro ⟨⟨hb, hfails⟩, hmax⟩
    exact ⟨hb, hquota, Nat.pos_of_ne_zero hmax, n, hn, hfails⟩

/-- A counted session that is not stored is one too many. -/
theorem not_accounted_raised {t : State} (ht : Accounted t) (user_id : String) :
    ¬ Accounted (drawnOne (raised user_id t)) := by
  intro h
  have hu := h user_id
  have hraised : tally (drawnOne (raised user_id t)) user_id = tally t user_id + 1 := by
    show ((t._active_users.set user_id (tally t user_id + 1)).get? user_id).getD 0 = _
    simp
  rw [hraised, ht user_id] at hu
  exact absurd hu (Nat.succ_ne_self _)

variable (cfg d) in
/-- What a call leaves when it raises. -/
def Keeps (s : State) (call : QuotaCall) : Prop :=
  ∀ e t n, (call.program cfg).lift.solo (machine cfg d) (s, 0) = some (.error e, t, n) → Accounted t

variable (cfg d) in
/-- The same of the method that the call makes. -/
def Spares {α : Type} (s : State) (p : Prog α) : Prop :=
  ∀ e t n, p.lift.solo (machine cfg d) (s, 0) = some (.error e, t, n) → Accounted t

theorem spares_map {α β : Type} (f : α → β) (p : Prog α) :
    Spares cfg d s (f <$> p) ↔ Spares cfg d s p := by
  have herror : ∀ e t n, (f <$> p).lift.solo (machine cfg d) (s, 0) = some (.error e, t, n) ↔
      p.lift.solo (machine cfg d) (s, 0) = some (.error e, t, n) := by
    intro e t n
    rw [← bind_pure_comp]
    show (p.bind fun a => .ret (f a)).lift.solo (machine cfg d) (s, 0) = _ ↔ _
    rw [Coro.lift_bind, Coro.solo_bind]
    rcases p.lift.solo (machine cfg d) (s, 0) with _ | ⟨e' | a, s'⟩
    · exact ⟨nofun, nofun⟩
    · constructor
      · intro h
        cases h
        rfl
      · intro h
        cases h
        rfl
    · exact ⟨nofun, nofun⟩
  unfold Spares
  simp only [herror]

theorem spares_of_ok {α : Type} {p : Prog α} {a : α} {s' : State × Nat}
    (h : p.lift.solo (machine cfg d) (s, 0) = some (.ok a, s')) : Spares cfg d s p := by
  intro e t n he
  rw [h] at he
  cases he

theorem spares_of_error {α : Type} {p : Prog α} {e : Exc} {t : State} {n : Nat}
    (h : p.lift.solo (machine cfg d) (s, 0) = some (.error e, t, n)) :
    Spares cfg d s p ↔ Accounted t := by
  refine ⟨fun hp => hp e t n h, fun ht e' t' n' he => ?_⟩
  rw [h] at he
  cases he
  exact ht

theorem spares_delete (hs : Accounted s) (session_id : String) :
    Spares cfg d s (delete session_id) := by
  by_cases hstored : ∃ session ∈ s.sessions, session.session_id = session_id
  · obtain ⟨session, hmem, rfl⟩ := hstored
    rcases delete_stored cfg d (n := 0) hmem with ⟨m, -, hrun⟩ | ⟨-, e, m, hrun⟩
    · exact spares_of_ok hrun
    · exact (spares_of_error hrun).mpr hs
  · have hfind : s.sessions.find? session_id = none :=
      Table.find?_eq_none.mpr fun session hmem hid => hstored ⟨session, hmem, hid⟩
    have hget : cfg.machine.exec (.session_get session_id) s = some (.ok none, s) := by
      rw [← hfind]
      rfl
    rcases read_cases cfg d (.session_get session_id) 0 rfl hget with
      ⟨m, -, hgot⟩ | ⟨-, e, m, hfailed⟩
    · have hrun : (delete session_id).lift.solo (machine cfg d) (s, 0) =
          some (.error .attributeError, s, m) := solo_lift_bind_ok hgot
      exact (spares_of_error hrun).mpr hs
    · exact (spares_of_error (solo_lift_bind_error hfailed)).mpr hs

theorem spares_create_iff (hs : Accounted s) (hunrestored : Unrestored s)
    (credentials : LocalCredentials) (permissions : PermissionSet) :
    Spares cfg d s (QuotaSessionManager.create cfg credentials permissions) ↔
      ¬ StoreFails cfg d s (.create credentials permissions) := by
  by_cases hquota : cfg.active_users_quota ≤ 0
  · have hadd : (_add_active_user_with_quota cfg credentials.user_id).lift.solo (machine cfg d)
        (s, 0) = some (.ok true, s, 0) := by
      rw [_add_active_user_with_quota, addActiveUser, if_pos hquota]
      rfl
    have hcreate : (QuotaSessionManager.create cfg credentials permissions).lift.solo
        (machine cfg d) (s, 0) = _ := solo_lift_bind_ok hadd
    refine iff_of_true ?_ fun h => Int.not_lt.mpr hquota h.2.1
    rcases create_cases cfg d (n := 0) s credentials permissions with
      ⟨-, session, t, m, hrun⟩ | ⟨-, e, m, hrun⟩
    · exact spares_of_ok (hcreate.trans hrun)
    · exact (spares_of_error (t := drawnOne s) (hcreate.trans hrun)).mpr hs
  · rcases add_cases (d := d) (Int.not_le.mp hquota) hs hunrestored credentials.user_id with
      ⟨t, m, hadmission, ht, hadd⟩ | ⟨hadmission, r, t, m, hr, ht, hadd⟩
    · -- let in, and counted: now all is up to the store
      have hcreate : (QuotaSessionManager.create cfg credentials permissions).lift.solo
          (machine cfg d) (s, 0) = _ := solo_lift_bind_ok hadd
      rw [storeFails_create (Int.not_le.mp hquota) hadmission]
      rcases create_cases cfg d (n := m) (raised credentials.user_id t) credentials permissions with
        ⟨hstore, session, t', m', hrun⟩ | ⟨hstore, e, m', hrun⟩
      · exact iff_of_true (spares_of_ok (hcreate.trans hrun)) hstore
      · rw [spares_of_error (hcreate.trans hrun)]
        exact iff_of_false (not_accounted_raised ht _) (not_not_intro hstore)
    · refine iff_of_true ?_ fun h => ?_
      · rcases r with e | admitted
        · exact (spares_of_error (t := t) (solo_lift_bind_error hadd)).mpr ht
        · cases admitted with
          | true => exact absurd rfl hr
          | false => exact (spares_of_error (t := t) (solo_lift_bind_ok hadd)).mpr ht
      · obtain ⟨-, -, -, n, hn, -⟩ := h
        rw [hadmission] at hn
        cases hn

/-- A call that raises leaves the counters equal to the stored sessions, unless it is a login
whose store fails for good. -/
theorem failed_keeps_iff (cfg : Settings) (d : Retries) (s : State) (hreached : Reached cfg s)
    (hs : Accounted s) (call : QuotaCall) :
    Keeps cfg d s call ↔ ¬ StoreFails cfg d s call := by
  show Spares cfg d s (call.program cfg) ↔ _
  cases call with
  | create credentials permissions =>
      exact (spares_map _ _).trans (spares_create_iff hs hreached.unrestored credentials permissions)
  | delete session_id =>
      exact iff_of_true ((spares_map _ _).mpr (spares_delete hs session_id)) id
  | _remove_expired_sessions =>
      refine iff_of_true ((spares_map _ _).mpr ?_) id
      rcases sweep_cases cfg d (n := 0) hs with ⟨m, -, hrun⟩ | ⟨-, e, t, m, hrun, ht⟩
      · exact spares_of_ok hrun
      · exact (spares_of_error hrun).mpr ht

end Calls

/-! ## A store that is down -/

/-- Room for one user. -/
def one : Settings := sampleSettings .database 0 1 .blank

/-- Alice logs in. -/
def login : QuotaCall := .create ⟨"alice", CSM_MONITOR_ROLE⟩ .empty

theorem reached_fresh : Reached one (.fresh Table.empty) :=
  ⟨Unit, inferInstance, fun _ => .ret (), .fresh Table.empty, [], fun _ => .ret (), rfl, rfl, rfl⟩

/-- The store is down from the start, so the restore fails. -/
theorem failed_keeps_iff_down : Keeps one ⟨2, fun _ => true⟩ (.fresh Table.empty) login := by
  refine (failed_keeps_iff one _ _ reached_fresh (fun _ => rfl) login).mpr ?_
  rintro ⟨-, -, -, n, hn, -⟩
  cases hn

/-- The store is down once the sessions have been listed: alice is counted, and no other user
will be let in. -/
theorem failed_login_counted :
    ¬ ∀ (d : Retries) (s : State), Reached one s → Accounted s → ∀ call, Keeps one d s call := by
  intro h
  have hkeeps := h ⟨2, fun n => decide (1 ≤ n)⟩ _ reached_fresh (fun _ => rfl) login
  refine (spares_create_iff (fun _ => rfl) (fun _ => rfl) _ _).mp ((spares_map _ _).mp hkeeps) ?_
  refine ⟨rfl, by decide, by decide, 1, rfl, fun k _ => ?_⟩
  show decide (1 ≤ 1 + k) = true
  exact decide_eq_true (Nat.le_add_right 1 k)

end CortxCsm.SessionFailure
