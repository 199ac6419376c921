/-
# `CortxCsm.SessionRestore` — the counters after a restart

`_restore_active_users` runs through the sessions it finds: it deletes an expired one and
counts the user of another.  `delete` is the method that takes the session off the count,
whether or not it was ever counted; and the add, when as many users are counted as the
quota has, first sweeps the store, also of the sessions the restore has still to come to.

So two orders of the list go wrong:

| | |
| :-- | :-- |
| a session of a user, then an expired one of the same user | the user's count is one short |
| sessions of as many users as the quota has, one more, then an expired one | it is swept, and its own `delete` raises |

Everything else is exact.

**Proved here.**

    the restore is a fold over the list              (`restore_solo`)
    no count exceeds the sessions listed             (`tally_le`)
    what the loop keeps when the list is harmless    (`Exact.next`)
    the restore is exact, exactly then               (`restore_exact_iff`)
-/
import CortxCsm.Admission

namespace CortxCsm.SessionRestore

open SessionManager QuotaSessionManager SessionQuota

/-! ## The restore as a fold -/

/-- `is_expired`, at a moment. -/
def expired (now : Time) (session : Session) : Bool := decide (now > session.expiry_time)

/-- The state after `_remove_expired_sessions`. -/
def swept (s : State) : State :=
  (s.sessions.rows.filter (expired s.clock)).foldl (fun s session => Admission.removed session s) s

variable (cfg : Settings)

/-- The state after `admitUser`. -/
def admitted (user_id : String) (s : State) : State :=
  if (s._active_users.len : Int) > cfg.active_users_quota ∨
      ((s._active_users.len : Int) = cfg.active_users_quota ∧
        (s._active_users.get? user_id).getD 0 = 0) then s
  else
    { s with
      _active_users :=
        s._active_users.set user_id ((s._active_users.get? user_id).getD 0 + 1) }

/-- The state after the nested `_add_active_user_with_quota`. -/
def counted (user_id : String) (s : State) : State :=
  admitted cfg user_id
    (if (s._active_users.len : Int) ≥ cfg.active_users_quota then swept s else s)

/-- The state after one iteration of the restore, unless it raises. -/
def restored (s : State) (session : Session) : Option State :=
  if expired s.clock session then
    (s.sessions.find? session.session_id).map fun stored => Admission.removed stored s
  else some (counted cfg session.credentials.user_id s)

section Solo

variable {cfg} {s s' : State} {session : Session}

/-- The loop of the sweep. -/
theorem sweep_loop : ∀ {l : List Session} {s : State},
    (∀ x ∈ l, expired s.clock x → x ∈ s.sessions) → (l.map Session.session_id).Nodup →
      (l.forM deleteIfExpired).solo cfg.machine s =
        some (.ok (), (l.filter (expired s.clock)).foldl
          (fun s session => Admission.removed session s) s) := by
  intro l
  induction l with
  | nil => exact fun _ _ => rfl
  | cons x l ih =>
      intro s hstored hnodup
      obtain ⟨hnew, hnodup⟩ := List.nodup_cons.mp hnodup
      show (deleteIfExpired x >>= fun _ => l.forM deleteIfExpired).solo cfg.machine s = _
      cases hx : expired s.clock x with
      | true =>
          have hone : (deleteIfExpired x).solo cfg.machine s =
              some (.ok (), Admission.removed x s) := by
            show (if expired s.clock x = true then delete x.session_id else return ()).solo _ s = _
            rw [if_pos hx]
            exact Admission.delete_removed (hstored x List.mem_cons_self hx)
          rw [Coro.solo_bind_ok hone, ih _ hnodup, List.filter_cons_of_pos hx, List.foldl_cons]
          · rfl
          · intro y hy hexp
            refine Table.mem_remove.mpr ⟨hstored y (List.mem_cons_of_mem _ hy) hexp, fun e => ?_⟩
            exact hnew (List.mem_map.mpr ⟨y, hy, e⟩)
      | false =>
          have hone : (deleteIfExpired x).solo cfg.machine s = some (.ok (), s) := by
            show (if expired s.clock x = true then delete x.session_id else return ()).solo _ s = _
            rw [hx]
            rfl
          rw [Coro.solo_bind_ok hone, ih (fun y hy => hstored y (List.mem_cons_of_mem _ hy)) hnodup,
            List.filter_cons_of_neg (by simp [hx])]

theorem sweep_solo (s : State) :
    _remove_expired_sessions.solo cfg.machine s = some (.ok (), swept s) := by
  show (s.sessions.rows.forM deleteIfExpired).solo cfg.machine s = _
  exact sweep_loop (fun x hx _ => hx) s.sessions.nodup

/-- The nested add, once the flag is set. -/
theorem addRestored_solo (hquota : 0 < cfg.active_users_quota)
    (hflag : s._active_users_restored = true) (user_id : String) :
    ∃ b, (addRestored cfg user_id).solo cfg.machine s =
      some (.ok b, counted cfg user_id s) := by
  have honce : (restoreOnce (return ())).solo cfg.machine s = some (.ok (), s) := by
    show (if s._active_users_restored = true then (return () : Prog Unit) else _).solo _ s = _
    rw [if_pos hflag]
    rfl
  have hreclaim : (reclaim cfg).solo cfg.machine s = some (.ok (),
      if (s._active_users.len : Int) ≥ cfg.active_users_quota then swept s else s) := by
    show (if (s._active_users.len : Int) ≥ cfg.active_users_quota then _remove_expired_sessions
      else (return () : Prog Unit)).solo _ s = _
    split
    · exact sweep_solo s
    · rfl
  have hadmit : ∀ s', ∃ b, (admitUser cfg user_id).solo cfg.machine s' =
      some (.ok b, admitted cfg user_id s') := by
    intro s'
    unfold admitUser admitted
    show ∃ b, (if (s'._active_users.len : Int) > cfg.active_users_quota then
        (return false : Prog Bool)
      else if (s'._active_users.len : Int) = cfg.active_users_quota ∧
        (s'._active_users.get? user_id).getD 0 = 0 then return false else _).solo _ s' = _
    by_cases hover : (s'._active_users.len : Int) > cfg.active_users_quota
    · rw [if_pos hover, if_pos (.inl hover)]
      exact ⟨false, rfl⟩
    · by_cases hfull : (s'._active_users.len : Int) = cfg.active_users_quota ∧
          (s'._active_users.get? user_id).getD 0 = 0
      · rw [if_neg hover, if_pos hfull, if_pos (.inr hfull)]
        exact ⟨false, rfl⟩
      · rw [if_neg hover, if_neg hfull, if_neg (not_or.mpr ⟨hover, hfull⟩)]
        exact ⟨true, rfl⟩
  obtain ⟨b, hb⟩ := hadmit (if (s._active_users.len : Int) ≥ cfg.active_users_quota then swept s
    else s)
  refine ⟨b, ?_⟩
  rw [addRestored, addActiveUser, if_neg (Int.not_le.mpr hquota), Coro.solo_bind_ok honce,
    Coro.solo_bind_ok hreclaim, hb]
  rfl

/-- One iteration of the restore. -/
theorem restoreSession_solo (hquota : 0 < cfg.active_users_quota)
    (hflag : s._active_users_restored = true) (session : Session) :
    (restoreSession (addRestored cfg) session).solo cfg.machine s =
      match restored cfg s session with
      | some s' => some (.ok (), s')
      | none => some (.error .attributeError, s) := by
  rw [restored]
  show (if expired s.clock session = true then delete session.session_id else
    (addRestored cfg session.credentials.user_id >>= fun _ => return ())).solo _ s = _
  split
  · rw [delete_solo]
    cases hfind : s.sessions.find? session.session_id with
    | none => rfl
    | some stored =>
        have hid : stored.session_id = session.session_id := (Table.find?_eq_some.mp hfind).2
        simp only [Option.map_some, Admission.removed, hid]
  · obtain ⟨b, hb⟩ := addRestored_solo hquota hflag session.credentials.user_id
    rw [Coro.solo_bind_ok hb]
    rfl

end Solo

/-! ## What one iteration may do -/

/-- The number of sessions a user is counted with. -/
def tally (s : State) (user_id : String) : Nat := (s._active_users.get? user_id).getD 0

/-- The unexpired sessions of a user in a list. -/
def liveFor (now : Time) (l : List Session) (user_id : String) : Nat :=
  l.countP fun x => !expired now x && decide (x.credentials.user_id = user_id)

/-- Nothing is stored, and time stands still. -/
structure Shrinks (s s' : State) : Prop where
  clock : s'.clock = s.clock
  flag : s'._active_users_restored = s._active_users_restored
  sessions : ∀ x ∈ s'.sessions, x ∈ s.sessions

namespace Shrinks

theorem refl (s : State) : Shrinks s s := ⟨rfl, rfl, fun _ h => h⟩

theorem trans {s s' s'' : State} (h : Shrinks s s') (h' : Shrinks s' s'') : Shrinks s s'' :=
  ⟨h'.clock.trans h.clock, h'.flag.trans h.flag, fun x hx => h.sessions x (h'.sessions x hx)⟩

theorem removed (s : State) (session : Session) : Shrinks s (Admission.removed session s) :=
  ⟨rfl, rfl, fun _ hx => (Table.mem_remove.mp hx).1⟩

end Shrinks

theorem tally_removed (s : State) (session : Session) (user_id : String) :
    tally (Admission.removed session s) user_id =
      tally s user_id - if session.credentials.user_id = user_id then 1 else 0 :=
  removeActiveUser_get? s._active_users session.credentials.user_id user_id

/-- Sweeping: everything expired goes, and no count goes up. -/
theorem swept_facts (s : State) :
    Shrinks s (swept s) ∧ (∀ x ∈ (swept s).sessions, expired s.clock x = false) ∧
      (∀ u, tally (swept s) u ≤ tally s u) := by
  have hloop : ∀ (l : List Session) (s' : State),
      Shrinks s' (l.foldl (fun s x => Admission.removed x s) s') ∧
        (∀ x ∈ (l.foldl (fun s x => Admission.removed x s) s').sessions, x ∉ l) ∧
        ∀ u, tally (l.foldl (fun s x => Admission.removed x s) s') u ≤ tally s' u := by
    intro l
    induction l with
    | nil => exact fun s' => ⟨.refl s', fun x _ => List.not_mem_nil, fun u => Nat.le_refl _⟩
    | cons y l ih =>
        intro s'
        obtain ⟨hshrinks, hgone, htally⟩ := ih (Admission.removed y s')
        refine ⟨(Shrinks.removed s' y).trans hshrinks, ?_, ?_⟩
        · intro x hx hmem
          rcases List.mem_cons.mp hmem with rfl | hmem
          · exact (Table.mem_remove.mp (hshrinks.sessions x hx)).2 rfl
          · exact hgone x hx hmem
        · intro u
          refine Nat.le_trans (htally u) ?_
          rw [tally_removed]
          exact Nat.sub_le _ _
  obtain ⟨hshrinks, hgone, htally⟩ := hloop (s.sessions.rows.filter (expired s.clock)) s
  refine ⟨hshrinks, fun x hx => ?_, htally⟩
  by_contra hexp
  exact hgone x hx (List.mem_filter.mpr ⟨hshrinks.sessions x hx, by simpa using hexp⟩)

/-- A sweep that finds nothing expired. -/
theorem swept_of_live {s : State} (h : ∀ x ∈ s.sessions, expired s.clock x = false) :
    swept s = s := by
  have hnil : s.sessions.rows.filter (expired s.clock) = [] := by
    rw [List.filter_eq_nil_iff]
    intro x hx hexp
    exact absurd ((h x hx).symm.trans hexp) Bool.noConfusion
  rw [swept, hnil]
  rfl

theorem admitted_facts (user_id : String) (s : State) :
    Shrinks s (admitted cfg user_id s) ∧
      ∀ u, tally (admitted cfg user_id s) u ≤ tally s u + if user_id = u then 1 else 0 := by
  rw [admitted]
  split
  · exact ⟨.refl s, fun u => Nat.le_add_right _ _⟩
  · refine ⟨⟨rfl, rfl, fun _ h => h⟩, fun u => ?_⟩
    simp only [tally, Table.get?_set]
    split
    · rename_i he
      rw [he]
      exact Nat.le_refl _
    · exact Nat.le_add_right _ _

section Steps

variable {cfg} {s s' : State} {session : Session}

/-- What an iteration that does not raise may do: remove the expired session, which is still
stored, or count the user of another, sweeping first when the quota is reached. -/
theorem restored_cases (h : restored cfg s session = some s') :
    (expired s.clock session = true ∧
      ∃ stored ∈ s.sessions, stored.session_id = session.session_id ∧
        s' = Admission.removed stored s) ∨
    (expired s.clock session = false ∧ s' = counted cfg session.credentials.user_id s) := by
  rw [restored] at h
  split at h
  · rename_i hexp
    obtain ⟨stored, hfind, rfl⟩ := Option.map_eq_some_iff.mp h
    obtain ⟨hmem, hid⟩ := Table.find?_eq_some.mp hfind
    exact .inl ⟨hexp, stored, hmem, hid, rfl⟩
  · rename_i hexp
    cases h
    exact .inr ⟨by simpa using hexp, rfl⟩

theorem counted_facts (cfg : Settings) (user_id : String) (s : State) :
    Shrinks s (counted cfg user_id s) ∧
      ∀ u, tally (counted cfg user_id s) u ≤ tally s u + if user_id = u then 1 else 0 := by
  rw [counted]
  split
  · obtain ⟨hshrinks, -, htally⟩ := swept_facts s
    obtain ⟨hshrinks', htally'⟩ := admitted_facts cfg user_id (swept s)
    exact ⟨hshrinks.trans hshrinks', fun u =>
      Nat.le_trans (htally' u) (Nat.add_le_add_right (htally u) _)⟩
  · exact admitted_facts cfg user_id s

theorem liveFor_cons (now : Time) (x : Session) (l : List Session) (u : String) :
    liveFor now (x :: l) u =
      liveFor now l u +
        if expired now x = false ∧ x.credentials.user_id = u then 1 else 0 := by
  rw [liveFor, List.countP_cons]
  simp [liveFor]

theorem liveFor_append (now : Time) (l l' : List Session) (u : String) :
    liveFor now (l ++ l') u = liveFor now l u + liveFor now l' u :=
  List.countP_append

/-- One iteration. -/
theorem restored_facts (h : restored cfg s session = some s') :
    Shrinks s s' ∧ ∀ u, tally s' u ≤ tally s u +
      if expired s.clock session = false ∧ session.credentials.user_id = u then 1 else 0 := by
  rcases restored_cases h with ⟨hexp, stored, -, -, rfl⟩ | ⟨hexp, rfl⟩
  · refine ⟨.removed s stored, fun u => ?_⟩
    rw [tally_removed]
    exact Nat.le_trans (Nat.sub_le _ _) (Nat.le_add_right _ _)
  · obtain ⟨hshrinks, htally⟩ := counted_facts cfg session.credentials.user_id s
    refine ⟨hshrinks, fun u => ?_⟩
    simpa only [hexp, true_and] using htally u

/-- No user is counted with more than the sessions listed. -/
theorem tally_le : ∀ {l : List Session} {s : State}, l.foldlM (restored cfg) s = some s' →
    Shrinks s s' ∧ ∀ u, tally s' u ≤ tally s u + liveFor s.clock l u := by
  intro l
  induction l with
  | nil =>
      intro s h
      cases h
      exact ⟨.refl _, fun u => Nat.le_add_right _ _⟩
  | cons x l ih =>
      intro s h
      obtain ⟨s₁, hone, hrest⟩ := Option.bind_eq_some_iff.mp h
      obtain ⟨hshrinks, htally⟩ := restored_facts hone
      obtain ⟨hshrinks', htally'⟩ := ih hrest
      refine ⟨hshrinks.trans hshrinks', fun u => ?_⟩
      have h₁ := htally u
      have h₂ := htally' u
      rw [hshrinks.clock] at h₂
      rw [liveFor_cons]
      omega

end Steps

/-! ## The users with unexpired sessions -/

def liveUsers (now : Time) (l : List Session) : List String :=
  ((l.filter fun x => !expired now x).map fun x => x.credentials.user_id).dedup

theorem mem_liveUsers {now : Time} {l : List Session} {u : String} :
    u ∈ liveUsers now l ↔ ∃ x ∈ l, expired now x = false ∧ x.credentials.user_id = u := by
  simp [liveUsers, and_assoc]

theorem liveFor_pos {now : Time} {l : List Session} {u : String} :
    0 < liveFor now l u ↔ u ∈ liveUsers now l := by
  rw [mem_liveUsers, liveFor, List.countP_pos_iff]
  simp

/-- As many names as there are distinct ones among them, at most. -/
theorem length_le_liveUsers {now : Time} (l : List Session) {names : List String}
    (hnodup : names.Nodup) (hsub : ∀ u ∈ names, u ∈ liveUsers now l) :
    names.length ≤ (liveUsers now l).length :=
  (List.subperm_of_subset hnodup hsub).length_le

theorem mem_liveUsers_append {now : Time} {l : List Session} (l' : List Session) {u : String}
    (h : u ∈ liveUsers now l) : u ∈ liveUsers now (l ++ l') := by
  obtain ⟨x, hx, hlive⟩ := mem_liveUsers.mp h
  exact mem_liveUsers.mpr ⟨x, List.mem_append_left l' hx, hlive⟩

theorem length_liveUsers_append (now : Time) (l l' : List Session) :
    (liveUsers now l).length ≤ (liveUsers now (l ++ l')).length :=
  length_le_liveUsers (l ++ l') (List.nodup_dedup _) fun _ hu => mem_liveUsers_append l' hu

/-- The list sets no trap: an expired session does not come after an unexpired one of the
same user, nor after an unexpired one that finds the quota full. -/
structure Harmless (cfg : Settings) (now : Time) (l : List Session) : Prop where
  own : ∀ before e after, l = before ++ e :: after → expired now e = true →
    ∀ x ∈ before, x.credentials.user_id = e.credentials.user_id → expired now x = true
  full : ∀ before x after, l = before ++ x :: after → expired now x = false →
    (∃ e ∈ after, expired now e = true) →
      ((liveUsers now before).length : Int) < cfg.active_users_quota

/-! ## Harmless lists -/

/-- What the restore keeps on the way through a harmless list. -/
structure Exact (s₀ : State) (done rest : List Session) (s : State) : Prop where
  left : Admission.Left s₀ (fun x => expired s₀.clock x = true) rest s
  tally : ∀ u, tally s u = liveFor s₀.clock done u
  positive : ∀ u, s._active_users.get? u ≠ some 0

namespace Exact

variable {cfg : Settings} {s₀ s : State} {done rest : List Session} {x : Session}

/-- As many users are counted as have an unexpired session so far. -/
theorem len_eq (h : Exact s₀ done rest s) :
    s._active_users.len = (liveUsers s₀.clock done).length := by
  rw [← Table.length_keys]
  refine ((List.perm_ext_iff_of_nodup s._active_users.nodup_keys (List.nodup_dedup _)).mpr ?_).length_eq
  intro u
  show u ∈ s._active_users.keys ↔ u ∈ liveUsers s₀.clock done
  rw [← liveFor_pos, ← h.tally u, Table.mem_keys]
  constructor
  · rintro ⟨n, hn⟩
    have hpos : n ≠ 0 := fun e => h.positive u (e ▸ hn)
    rw [SessionRestore.tally, hn]
    exact Nat.pos_of_ne_zero hpos
  · intro hpos
    cases hn : s._active_users.get? u with
    | some n => exact ⟨n, rfl⟩
    | none =>
        rw [SessionRestore.tally, hn] at hpos
        exact absurd hpos (Nat.lt_irrefl 0)

theorem next_expired (h : Exact s₀ done (x :: rest) s) (hexp : expired s₀.clock x = true)
    (hown : ∀ y ∈ done, y.credentials.user_id = x.credentials.user_id →
      expired s₀.clock y = true) :
    restored cfg s x = some (Admission.removed x s) ∧
      Exact s₀ (done ++ [x]) rest (Admission.removed x s) := by
  have hfind : s.sessions.find? x.session_id = some x := Table.find?_eq_some.mpr ⟨h.left.mem, rfl⟩
  refine ⟨?_, h.left.remove hexp, fun u => ?_, removeActiveUser_positive _ h.positive⟩
  · rw [restored, h.left.clock, hexp, if_pos rfl, hfind]
    rfl
  · have hlast : liveFor s₀.clock [x] u = 0 := by simp [liveFor, hexp]
    rw [tally_removed, h.tally u, liveFor_append, hlast]
    -- the user of the session has not been counted
    by_cases hu : x.credentials.user_id = u
    · have hzero : liveFor s₀.clock done u = 0 := by
        by_contra hpos
        obtain ⟨y, hy, hlive, hof⟩ := mem_liveUsers.mp (liveFor_pos.mp (Nat.pos_of_ne_zero hpos))
        exact absurd (hlive.symm.trans (hown y hy (hof.trans hu.symm))) Bool.noConfusion
      rw [hzero, if_pos hu]
    · rw [if_neg hu]
      rfl

/-- The sweep before an unexpired session has nothing to do. -/
theorem sweep_idle (h : Exact s₀ done (x :: rest) s) (hlive : expired s₀.clock x = false)
    (hfull : (∃ e ∈ rest, expired s₀.clock e = true) →
      ((liveUsers s₀.clock done).length : Int) < cfg.active_users_quota) :
    (if (s._active_users.len : Int) ≥ cfg.active_users_quota then swept s else s) = s := by
  split
  · rename_i hlen
    refine swept_of_live fun y hy => ?_
    rw [h.left.clock]
    by_contra hexp
    have hyexp : expired s₀.clock y = true := by simpa using hexp
    rcases List.mem_cons.mp (((h.left.sessions y).mp hy).2 hyexp) with rfl | hrest
    · exact absurd (hlive.symm.trans hyexp) Bool.noConfusion
    · have hlt := hfull ⟨y, hrest, hyexp⟩
      rw [h.len_eq] at hlen
      exact absurd hlen (Int.not_le.mpr hlt)
  · rfl

/-- A user is let in as long as the list has no more users than the quota. -/
theorem room (h : Exact s₀ done (x :: rest) s) (hlive : expired s₀.clock x = false)
    (hfew : ((liveUsers s₀.clock (done ++ [x])).length : Int) ≤ cfg.active_users_quota) :
    ¬ ((s._active_users.len : Int) > cfg.active_users_quota ∨
      ((s._active_users.len : Int) = cfg.active_users_quota ∧
        (s._active_users.get? x.credentials.user_id).getD 0 = 0)) := by
  have hle := length_liveUsers_append s₀.clock done [x]
  rw [h.len_eq]
  rintro (hover | ⟨heq, hnew⟩)
  · omega
  · -- one more user than the quota would have unexpired sessions
    have hnot : x.credentials.user_id ∉ liveUsers s₀.clock done := by
      intro hmem
      have hpos := liveFor_pos.mpr hmem
      rw [← h.tally] at hpos
      exact absurd hnew (Nat.pos_iff_ne_zero.mp hpos)
    have hin : ∀ u ∈ x.credentials.user_id :: liveUsers s₀.clock done,
        u ∈ liveUsers s₀.clock (done ++ [x]) := by
      intro u hu
      rcases List.mem_cons.mp hu with rfl | hu
      · exact mem_liveUsers.mpr ⟨x, by simp, hlive, rfl⟩
      · exact mem_liveUsers_append [x] hu
    have hmore := length_le_liveUsers (done ++ [x])
      (List.nodup_cons.mpr ⟨hnot, List.nodup_dedup _⟩) hin
    rw [List.length_cons] at hmore
    omega

theorem next_live (h : Exact s₀ done (x :: rest) s) (hlive : expired s₀.clock x = false)
    (hfull : (∃ e ∈ rest, expired s₀.clock e = true) →
      ((liveUsers s₀.clock done).length : Int) < cfg.active_users_quota)
    (hfew : ((liveUsers s₀.clock (done ++ [x])).length : Int) ≤ cfg.active_users_quota) :
    ∃ s', restored cfg s x = some s' ∧ Exact s₀ (done ++ [x]) rest s' := by
  refine ⟨counted cfg x.credentials.user_id s, ?_, ?_⟩
  · rw [restored, h.left.clock, hlive]
    rfl
  · rw [counted, h.sweep_idle hlive hfull, admitted, if_neg (h.room hlive hfew)]
    have hleft : Admission.Left s₀ (fun x => expired s₀.clock x = true) rest s :=
      h.left.skip (by simp [hlive])
    refine ⟨⟨hleft.clock, hleft.restored, hleft.listed, hleft.nodup, hleft.sessions⟩,
      fun u => ?_, fun u => ?_⟩
    · have hlast : liveFor s₀.clock [x] u = if x.credentials.user_id = u then 1 else 0 := by
        rw [liveFor_cons]
        simp [liveFor, hlive]
      rw [liveFor_append, hlast, ← h.tally u]
      simp only [SessionRestore.tally, Table.get?_set]
      split
      · rename_i hu
        rw [hu]
        rfl
      · rfl
    · rw [Table.get?_set]
      split
      · simp
      · exact h.positive u

end Exact

/-! ## The whole restore -/

section Restore

variable {cfg : Settings} {s s' : State}

/-- The loop is the fold; where the fold has no value it has raised. -/
theorem restore_loop (hquota : 0 < cfg.active_users_quota) : ∀ {l : List Session} {s : State},
    s._active_users_restored = true →
      (∀ s', l.foldlM (restored cfg) s = some s' →
        (l.forM (restoreSession (addRestored cfg))).solo cfg.machine s = some (.ok (), s')) ∧
      (l.foldlM (restored cfg) s = none → ∃ s',
        (l.forM (restoreSession (addRestored cfg))).solo cfg.machine s =
          some (.error .attributeError, s')) := by
  intro l
  induction l with
  | nil =>
      intro s _
      refine ⟨fun s' h => ?_, fun h => ?_⟩
      · cases h
        rfl
      · cases h
  | cons x l ih =>
      intro s hflag
      have hone := restoreSession_solo hquota hflag x
      show (∀ s', (restored cfg s x).bind (l.foldlM (restored cfg)) = some s' →
        (restoreSession (addRestored cfg) x >>= fun _ => l.forM _).solo _ s = _) ∧
          ((restored cfg s x).bind (l.foldlM (restored cfg)) = none → ∃ s',
            (restoreSession (addRestored cfg) x >>= fun _ => l.forM _).solo _ s = _)
      cases hx : restored cfg s x with
      | none =>
          rw [hx] at hone
          refine ⟨fun s' h => ?_, fun _ => ⟨s, Coro.solo_bind_error hone⟩⟩
          cases h
      | some s₁ =>
          rw [hx] at hone
          have hflag₁ := (restored_facts hx).1.flag.trans hflag
          rw [Coro.solo_bind_ok hone]
          exact ih hflag₁

/-- A restore that returns has run through the list, and one that cannot raises. -/
theorem restore_solo (hquota : 0 < cfg.active_users_quota)
    (hflag : s._active_users_restored = true) :
    (_restore_active_users (addRestored cfg)).solo cfg.machine s = some (.ok (), s') ↔
      s.sessions.rows.foldlM (restored cfg) s = some s' := by
  obtain ⟨hsome, hnone⟩ := restore_loop hquota (l := s.sessions.rows) hflag
  show (s.sessions.rows.forM (restoreSession (addRestored cfg))).solo cfg.machine s = _ ↔ _
  refine ⟨fun h => ?_, hsome s'⟩
  cases hfold : s.sessions.rows.foldlM (restored cfg) s with
  | some t =>
      have hrun := hsome t hfold
      rw [h] at hrun
      cases hrun
      rfl
  | none =>
      obtain ⟨t, ht⟩ := hnone hfold
      rw [h] at ht
      cases ht

/-- The manager as its only caller hands it to the restore: nothing counted, the flag set. -/
def started (s : State) : State :=
  { s with _active_users := Table.empty, _active_users_restored := true }

/-- What the restore is for. -/
def Restores (cfg : Settings) (s : State) : Prop :=
  ∃ s', (_restore_active_users (addRestored cfg)).solo cfg.machine (started s) = some (.ok (), s') ∧
    (∀ x, x ∈ s'.sessions ↔ x ∈ s.sessions ∧ expired s.clock x = false) ∧
    ∀ u, tally s' u = liveFor s.clock s.sessions.rows u

theorem Exact.start (s : State) : Exact (started s) [] s.sessions.rows (started s) :=
  ⟨.start (started s) _, fun _ => rfl, fun u h => by cases h⟩

/-- Through a harmless list. -/
theorem Exact.run (s₀ : State) (hharmless : Harmless cfg s₀.clock s₀.sessions.rows)
    (hfew : ((liveUsers s₀.clock s₀.sessions.rows).length : Int) ≤ cfg.active_users_quota) :
    ∀ {rest done : List Session} {s : State}, s₀.sessions.rows = done ++ rest →
      Exact s₀ done rest s →
      ∃ s', rest.foldlM (restored cfg) s = some s' ∧ Exact s₀ s₀.sessions.rows [] s' := by
  intro rest
  induction rest with
  | nil =>
      intro done s hrows h
      rw [List.append_nil] at hrows
      exact ⟨s, rfl, hrows ▸ h⟩
  | cons x rest ih =>
      intro done s hrows h
      have hrows' : s₀.sessions.rows = (done ++ [x]) ++ rest := by rw [hrows, List.append_cons]
      have hstep : ∃ s', restored cfg s x = some s' ∧ Exact s₀ (done ++ [x]) rest s' := by
        cases hx : expired s₀.clock x with
        | true => exact ⟨_, h.next_expired hx (hharmless.own done x rest hrows hx)⟩
        | false =>
            refine h.next_live hx (hharmless.full done x rest hrows hx) ?_
            have hle := length_liveUsers_append s₀.clock (done ++ [x]) rest
            rw [← hrows'] at hle
            omega
      obtain ⟨s₁, hone, hnext⟩ := hstep
      obtain ⟨s', hrest, hexact⟩ := ih hrows' hnext
      exact ⟨s', Option.bind_eq_some_iff.mpr ⟨s₁, hone, hrest⟩, hexact⟩

theorem restores_of_harmless (hquota : 0 < cfg.active_users_quota) (s : State)
    (hfew : ((liveUsers s.clock s.sessions.rows).length : Int) ≤ cfg.active_users_quota)
    (hharmless : Harmless cfg s.clock s.sessions.rows) : Restores cfg s := by
  obtain ⟨s', hrun, hexact⟩ := Exact.run (started s) hharmless hfew rfl (Exact.start s)
  refine ⟨s', (restore_solo hquota rfl).mpr hrun, fun x => ?_, hexact.tally⟩
  rw [hexact.left.sessions x]
  refine and_congr_right fun _ => ?_
  rw [← Bool.not_eq_true]
  exact ⟨fun h he => List.not_mem_nil (h he), fun h he => absurd he h⟩

/-- The list through which a fold has come, taken apart. -/
theorem fold_append {l l' : List Session} (h : (l ++ l').foldlM (restored cfg) s = some s') :
    ∃ s₁, l.foldlM (restored cfg) s = some s₁ ∧ l'.foldlM (restored cfg) s₁ = some s' := by
  rw [List.foldlM_append] at h
  exact Option.bind_eq_some_iff.mp h

theorem fold_cons {x : Session} {l : List Session}
    (h : (x :: l).foldlM (restored cfg) s = some s') :
    ∃ s₁, restored cfg s x = some s₁ ∧ l.foldlM (restored cfg) s₁ = some s' :=
  Option.bind_eq_some_iff.mp h

/-- The counts are exact only if they were exact everywhere on the way. -/
theorem tally_exact {s₀ s₁ : State} {done rest : List Session}
    (hnone : ∀ u, tally s₀ u = 0) (hdone : done.foldlM (restored cfg) s₀ = some s₁)
    (hrest : rest.foldlM (restored cfg) s₁ = some s')
    (hexact : ∀ u, tally s' u = liveFor s₀.clock (done ++ rest) u) (u : String) :
    tally s₁ u = liveFor s₀.clock done u := by
  obtain ⟨hshrinks, hle⟩ := tally_le hdone
  obtain ⟨-, hle'⟩ := tally_le hrest
  have h₁ := hle u
  have h₂ := hle' u
  rw [hshrinks.clock, ← Nat.sub_le_iff_le_add, hexact u, liveFor_append] at h₂
  rw [hnone u] at h₁
  omega

/-- An expired session the loop deletes is the one that was listed. -/
theorem restored_expired (s₀ : State) {e : Session} (hsub : ∀ x ∈ s.sessions, x ∈ s₀.sessions)
    (he : e ∈ s₀.sessions) (hexp : expired s.clock e = true) (h : restored cfg s e = some s') :
    e ∈ s.sessions ∧ s' = Admission.removed e s := by
  rcases restored_cases h with ⟨-, stored, hstored, hid, rfl⟩ | ⟨hlive, -⟩
  · have hsame : stored = e := Table.eq_of_key (hsub stored hstored) he hid
    exact hsame ▸ ⟨hstored, rfl⟩
  · exact absurd (hlive.symm.trans hexp) Bool.noConfusion

/-- A user with a count has a key. -/
theorem liveUsers_le_len {now : Time} {l : List Session}
    (h : ∀ u, tally s u = liveFor now l u) : (liveUsers now l).length ≤ s._active_users.len := by
  rw [← Table.length_keys]
  refine (List.subperm_of_subset (List.nodup_dedup _) fun u hu => ?_).length_le
  have hpos := liveFor_pos.mpr hu
  rw [← h u, tally] at hpos
  rw [Table.mem_keys]
  cases hn : s._active_users.get? u with
  | some n => exact ⟨n, rfl⟩
  | none =>
      rw [hn] at hpos
      exact absurd hpos (Nat.lt_irrefl 0)

/-- An exact restore at the entry `x`: it is in `s₁` before, and in `s₂` after. -/
structure Passes (cfg : Settings) (s : State) (before : List Session) (x : Session)
    (after : List Session) (s₁ s₂ : State) : Prop where
  one : restored cfg s₁ x = some s₂
  rest : ∃ s', after.foldlM (restored cfg) s₂ = some s'
  clock : s₁.clock = s.clock
  sessions : ∀ y ∈ s₁.sessions, y ∈ s.sessions
  tally : ∀ u, SessionRestore.tally s₁ u = liveFor s.clock before u
  next : ∀ u, SessionRestore.tally s₂ u = liveFor s.clock (before ++ [x]) u

theorem Restores.passes (hquota : 0 < cfg.active_users_quota) (h : Restores cfg s)
    {before after : List Session} {x : Session} (hrows : s.sessions.rows = before ++ x :: after) :
    ∃ s₁ s₂, Passes cfg s before x after s₁ s₂ := by
  obtain ⟨s', hsolo, -, hexact⟩ := h
  have hfold := (restore_solo hquota rfl).mp hsolo
  change s.sessions.rows.foldlM _ _ = _ at hfold
  have hzero : ∀ u, tally (started s) u = 0 := fun _ => rfl
  rw [hrows] at hfold hexact
  obtain ⟨s₁, hbefore, hrest⟩ := fold_append hfold
  obtain ⟨s₂, hone, hafter⟩ := fold_cons hrest
  obtain ⟨hshrinks, -⟩ := tally_le hbefore
  have hbefore₂ : (before ++ [x]).foldlM (restored cfg) (started s) = some s₂ := by
    rw [List.foldlM_append]
    refine Option.bind_eq_some_iff.mpr ⟨s₁, hbefore, ?_⟩
    rw [List.foldlM_cons, hone]
    rfl
  have htally := tally_exact hzero hbefore hrest hexact
  rw [List.append_cons] at hexact
  have hnext := tally_exact hzero hbefore₂ hafter hexact
  exact ⟨s₁, s₂, hone, ⟨s', hafter⟩, hshrinks.clock, hshrinks.sessions, htally, hnext⟩

/-- Deleting an expired session takes its user out of the count. -/
theorem own_of_restores (hquota : 0 < cfg.active_users_quota) (h : Restores cfg s)
    {before after : List Session} {e : Session} (hrows : s.sessions.rows = before ++ e :: after)
    (hexp : expired s.clock e = true) :
    ∀ x ∈ before, x.credentials.user_id = e.credentials.user_id → expired s.clock x = true := by
  intro x hx hof
  by_contra hlive
  have he : e ∈ s.sessions := by
    rw [Table.mem_def, hrows]
    simp
  obtain ⟨s₁, s₂, hpasses⟩ := h.passes hquota hrows
  have h₁ := hpasses.tally e.credentials.user_id
  have h₂ := hpasses.next e.credentials.user_id
  obtain ⟨-, rfl⟩ := restored_expired s hpasses.sessions he (hpasses.clock ▸ hexp) hpasses.one
  have hlast : liveFor s.clock [e] e.credentials.user_id = 0 := by simp [liveFor, hexp]
  have hpos : 0 < liveFor s.clock before e.credentials.user_id :=
    liveFor_pos.mpr (mem_liveUsers.mpr ⟨x, hx, by simpa using hlive, hof⟩)
  rw [tally_removed, if_pos rfl, liveFor_append, hlast] at h₂
  omega

/-- Where the quota is reached, a live session has everything expired swept before its user is
counted. -/
theorem swept_of_full (hquota : 0 < cfg.active_users_quota) (h : Restores cfg s)
    {before after : List Session} {x : Session} (hrows : s.sessions.rows = before ++ x :: after)
    (hlive : expired s.clock x = false)
    (hfull : ¬ ((liveUsers s.clock before).length : Int) < cfg.active_users_quota) :
    ∃ s₂ s', (∀ y ∈ s₂.sessions, y ∈ s.sessions ∧ expired s.clock y = false) ∧
      s₂.clock = s.clock ∧ after.foldlM (restored cfg) s₂ = some s' := by
  obtain ⟨s₁, s₂, hpasses⟩ := h.passes hquota hrows
  obtain ⟨s', hrest⟩ := hpasses.rest
  have hlen := liveUsers_le_len hpasses.tally
  have hshrinks := (restored_facts hpasses.one).1
  refine ⟨s₂, s', fun y hy => ⟨hpasses.sessions y (hshrinks.sessions y hy), ?_⟩,
    hshrinks.clock.trans hpasses.clock, hrest⟩
  rcases restored_cases hpasses.one with ⟨hx, -⟩ | ⟨-, rfl⟩
  · rw [hpasses.clock, hlive] at hx
    cases hx
  · rw [counted, if_pos (by omega)] at hy
    have hy' := (admitted_facts cfg _ (swept s₁)).1.sessions y hy
    exact hpasses.clock ▸ (swept_facts s₁).2.1 y hy'

/-- The loop then cannot delete an expired session that is still listed. -/
theorem full_of_restores (hquota : 0 < cfg.active_users_quota) (h : Restores cfg s)
    {before after : List Session} {x : Session} (hrows : s.sessions.rows = before ++ x :: after)
    (hlive : expired s.clock x = false) (hleft : ∃ e ∈ after, expired s.clock e = true) :
    ((liveUsers s.clock before).length : Int) < cfg.active_users_quota := by
  by_contra hfull
  obtain ⟨e, hafter, hexp⟩ := hleft
  have he : e ∈ s.sessions := by
    rw [Table.mem_def, hrows]
    simp [hafter]
  obtain ⟨s₂, s', hswept, hclock, hrest⟩ := swept_of_full hquota h hrows hlive hfull
  obtain ⟨mid, post, rfl⟩ := List.append_of_mem hafter
  obtain ⟨s₃, hmid, hrest₃⟩ := fold_append hrest
  obtain ⟨s₄, hdel, -⟩ := fold_cons hrest₃
  obtain ⟨hshrinks, -⟩ := tally_le hmid
  have hexp₃ : expired s₃.clock e = true := by
    rw [hshrinks.clock, hclock]
    exact hexp
  obtain ⟨hin, -⟩ := restored_expired s
    (fun y hy => (hswept y (hshrinks.sessions y hy)).1) he hexp₃ hdel
  have hnot := (hswept e (hshrinks.sessions e hin)).2
  exact absurd (hnot.symm.trans hexp) Bool.noConfusion

theorem harmless_of_restores (hquota : 0 < cfg.active_users_quota) {s : State}
    (h : Restores cfg s) : Harmless cfg s.clock s.sessions.rows :=
  ⟨fun _ _ _ hrows => own_of_restores hquota h hrows,
    fun _ _ _ hrows => full_of_restores hquota h hrows⟩

/-- The restore of at most as many users as the quota has is exact exactly when its list is
harmless. -/
theorem restore_exact_iff (cfg : Settings) (hquota : 0 < cfg.active_users_quota) (s : State)
    (hfew : ((liveUsers s.clock s.sessions.rows).length : Int) ≤ cfg.active_users_quota) :
    Restores cfg s ↔ Harmless cfg s.clock s.sessions.rows :=
  ⟨harmless_of_restores hquota, restores_of_harmless hquota s hfew⟩

end Restore

/-! ## Two lists -/

def sessionOf (session_id user_id : String) (expiry_time : Time) : Session :=
  ⟨session_id, expiry_time, ⟨user_id, CSM_MONITOR_ROLE⟩, .empty⟩

/-- A store with these sessions, in this order, at a time when those that expire at 1 have
expired. -/
def found (first second : Session) : State :=
  { State.fresh Table.empty with sessions := (Table.empty.upsert first).upsert second, clock := 5 }

/-- Room for five users. -/
def five : Settings := sampleSettings .inMemory 0 5 .blank

/-- Alice's expired session first. -/
theorem restore_exact_iff_oldest_first :
    Restores five (found (sessionOf "f" "alice" 1) (sessionOf "ff" "alice" 9)) := by
  refine (restore_exact_iff five (by decide) _ (by decide)).mpr ⟨?_, ?_⟩
  · intro before e after hrows hexp x hx
    rcases before with _ | ⟨y, before⟩
    · exact absurd hx List.not_mem_nil
    · have htail : [sessionOf "ff" "alice" 9] = before ++ e :: after := (List.cons.inj hrows).2
      have he : e ∈ [sessionOf "ff" "alice" 9] := by
        rw [htail]
        simp
      rw [List.mem_singleton.mp he] at hexp
      cases hexp
  · intro before x after hrows hlive hmore
    have hlen := congrArg List.length hrows
    have hle : (liveUsers 5 before).length ≤ before.length := by
      refine Nat.le_trans (List.dedup_sublist _).length_le ?_
      rw [List.length_map]
      exact List.length_filter_le _ before
    change (2 : Nat) = _ at hlen
    rw [List.length_append] at hlen
    show ((liveUsers 5 before).length : Int) < 5
    omega

/-- Alice's unexpired session first: it is taken off the count with the other. -/
theorem restore_inexact :
    ¬ ∀ s : State, ((liveUsers s.clock s.sessions.rows).length : Int) ≤ five.active_users_quota →
      Restores five s := by
  intro h
  have hrestores := h (found (sessionOf "f" "alice" 9) (sessionOf "ff" "alice" 1)) (by decide)
  have hown := (harmless_of_restores (by decide) hrestores).own
    [sessionOf "f" "alice" 9] (sessionOf "ff" "alice" 1) [] rfl rfl
    (sessionOf "f" "alice" 9) (List.mem_singleton_self _) rfl
  cases hown

end CortxCsm.SessionRestore
