/-
# `CortxCsm.SessionQuota` — are the session counters exact?

`create` counts a session and then stores it; `delete` reads a session, deletes it, and
then takes it off the count.  While a coroutine is between the two, one count too many
is its to settle: its *credit*.  Counters equal stored sessions plus credits, and when no
call is in flight there are no credits.

Two things break this.  A `delete` whose session has gone since it was read takes it off
a second time (`counters_inexact`); and the one-time restore counts every unexpired session it
finds, also those that are counted already because they were created meanwhile.

**Proved here.**

    one step of the books                                    (`Accounts.counted`, …)
    each method settles its credit                           (`delete_triple`, `create_triple`)
    the counters are exact, under the condition              (`counters_exact`)
    and not without it                                       (`counters_inexact`)
-/
import CortxCsm.SessionSteps
import Mathlib.Data.List.Dedup

namespace CortxCsm.SessionQuota

open SessionManager QuotaSessionManager

/-! ## Counting -/

/-- The number of sessions a user has in the store. -/
def storedFor (sessions : SessionStore) (user_id : String) : Nat :=
  sessions.count fun session => session.credentials.user_id = user_id

theorem storedFor_upsert {sessions : SessionStore} {session : Session} (user_id : String)
    (h : ∀ x ∈ sessions, x.session_id ≠ session.session_id) :
    storedFor (sessions.upsert session) user_id =
      storedFor sessions user_id + if session.credentials.user_id = user_id then 1 else 0 := by
  simpa [storedFor] using
    Table.count_upsert_new (fun x : Session => decide (x.credentials.user_id = user_id)) h

theorem storedFor_remove {sessions : SessionStore} {session : Session} (user_id : String)
    (h : session ∈ sessions) :
    storedFor (sessions.remove session.session_id) user_id +
      (if session.credentials.user_id = user_id then 1 else 0) = storedFor sessions user_id := by
  simpa [storedFor] using
    Table.count_remove (fun x : Session => decide (x.credentials.user_id = user_id)) h

section Credit

variable {ι : Type} [DecidableEq ι]

/-- The credits that are a user's. -/
def owed (credit : Dict ι String) (user_id : String) : Nat := credit.count fun c => c.2 = user_id

theorem owed_set {credit : Dict ι String} {i : ι} {v : String} (user_id : String)
    (h : credit.get? i = none) :
    owed (credit.set i v) user_id = owed credit user_id + if v = user_id then 1 else 0 := by
  simpa only [owed, decide_eq_true_eq] using
    Table.count_set (fun c : ι × String => decide (c.2 = user_id)) (v := v) h

theorem owed_pop {credit : Dict ι String} {i : ι} {v : String} (user_id : String)
    (h : credit.get? i = some v) :
    owed (credit.pop i) user_id + (if v = user_id then 1 else 0) = owed credit user_id := by
  simpa [owed] using Table.count_pop (fun c : ι × String => decide (c.2 = user_id)) h

end Credit

/-! ### `_remove_active_user` -/

theorem removeActiveUser_get? (active : Dict String Nat) (user_id v : String) :
    ((removeActiveUser active user_id).get? v).getD 0 =
      (active.get? v).getD 0 - if user_id = v then 1 else 0 := by
  unfold removeActiveUser
  split <;> rename_i hn
  · split
    · rename_i he
      rw [← he, hn]
    · rfl
  · rw [Table.get?_pop]
    split
    · rename_i he
      rw [← he, hn, Option.getD_none]
    · rfl
  · rw [Table.get?_set]
    split
    · rename_i he
      rw [← he, hn, Option.getD_some]
      rfl
    · rfl

theorem removeActiveUser_positive {active : Dict String Nat} (user_id : String)
    (h : ∀ v, active.get? v ≠ some 0) (v : String) :
    (removeActiveUser active user_id).get? v ≠ some 0 := by
  unfold removeActiveUser
  split
  · exact h v
  · rw [Table.get?_pop]
    split
    · simp
    · exact h v
  · rw [Table.get?_set]
    split
    · simp
    · exact h v

theorem removeActiveUser_len (active : Dict String Nat) (user_id : String) :
    (removeActiveUser active user_id).len ≤ active.len := by
  unfold removeActiveUser
  split <;> rename_i hn
  · exact Nat.le_refl _
  · exact Table.len_pop_le _ _
  · have hk : user_id ∈ active.keys := by
      by_contra hk
      rw [← Table.get?_eq_none] at hk
      rw [hk] at hn
      cases hn
    rw [Table.len_set, if_pos hk]

/-! ## The books -/

/-- What the counters promise. -/
def Exact (cfg : Settings) (s : State) : Prop :=
  (∀ user_id, (s._active_users.get? user_id).getD 0 = storedFor s.sessions user_id) ∧
    ((s.sessions.rows.map fun session => session.credentials.user_id).dedup.length : Int) ≤
      cfg.active_users_quota

/-- What a run is asked at an operation: a deletion finds its session, and the restore
finds expired sessions only. -/
def Regular : Op → State → Prop
  | .session_delete session_id, s => ∃ session ∈ s.sessions, session.session_id = session_id
  | .session_get_all ._restore_active_users, s =>
      ∀ session ∈ s.sessions, s.clock > session.expiry_time
  | _, _ => True

/-- The ghost value: each coroutine's credit, the user of each session ever stored, and the
ids drawn and not stored yet. -/
structure Books (ι : Type) where
  credit : Dict ι String
  owner : String → Option String
  pending : ι → Option String

section Contract

variable {ι : Type} [DecidableEq ι] {cfg : Settings}

structure Accounts (cfg : Settings) (s : State) (x : Books ι) : Prop where
  exact : ∀ user_id,
    (s._active_users.get? user_id).getD 0 = storedFor s.sessions user_id + owed x.credit user_id
  positive : ∀ user_id, s._active_users.get? user_id ≠ some 0
  within : (s._active_users.len : Int) ≤ cfg.active_users_quota
  owned : ∀ session ∈ s.sessions, x.owner session.session_id = some session.credentials.user_id
  ids : Ids cfg s (fun sid => (x.owner sid).isSome) x.pending

namespace Accounts

variable {s : State} {x : Books ι} {i : ι} {user_id : String}

omit [DecidableEq ι] in
/-- A user with a session has a counter. -/
theorem mem_keys (h : Accounts cfg s x) {session : Session} (hs : session ∈ s.sessions) :
    session.credentials.user_id ∈ s._active_users.keys := by
  by_contra hk
  rw [← Table.get?_eq_none] at hk
  have hpos : 0 < storedFor s.sessions session.credentials.user_id :=
    Table.count_pos.mpr ⟨session, hs, by simp⟩
  have hexact := h.exact session.credentials.user_id
  rw [hk, Option.getD_none] at hexact
  omega

/-- `admitUser` counts a session to come. -/
theorem counted (h : Accounts cfg s x) (hi : x.credit.get? i = none)
    (hnew : ¬ ((s._active_users.len : Int) = cfg.active_users_quota ∧
      (s._active_users.get? user_id).getD 0 = 0)) :
    Accounts cfg
      { s with _active_users :=
          s._active_users.set user_id ((s._active_users.get? user_id).getD 0 + 1) }
      { x with credit := x.credit.set i user_id } := by
  have hwithin := h.within
  refine ⟨fun v => ?_, fun v => ?_, ?_, h.owned, h.ids.keep rfl h.ids.stored⟩
  · have hexact := h.exact v
    simp only [Table.get?_set, owed_set v hi]
    split
    · rename_i he
      rw [he, Option.getD_some]
      omega
    · exact hexact
  · simp only [Table.get?_set]
    split
    · simp
    · exact h.positive v
  · simp only [Table.len_set]
    split
    · exact hwithin
    · rename_i hk
      rw [← Table.get?_eq_none] at hk
      rw [hk, Option.getD_none] at hnew
      push_cast
      omega

/-- `_generate_sid`. -/
theorem draw (h : Accounts cfg s x) (i : ι) :
    Accounts cfg { s with drawn := s.drawn + 1 }
      { x with pending := Function.update x.pending i (some (cfg.uuid4 s.drawn)) } :=
  ⟨h.exact, h.positive, h.within, h.owned, h.ids.draw i⟩

/-- The session `create` has counted is stored. -/
theorem store (h : Accounts cfg s x) {session : Session}
    (hi : x.credit.get? i = some session.credentials.user_id)
    (hp : x.pending i = some session.session_id) :
    Accounts cfg { s with sessions := s.sessions.upsert session }
      { credit := x.credit.pop i
        owner := Function.update x.owner session.session_id (some session.credentials.user_id)
        pending := Function.update x.pending i none } := by
  refine ⟨fun v => ?_, h.positive, h.within, fun y hy => ?_, h.ids.store hp fun sid => ?_⟩
  · have hexact := h.exact v
    have howed := owed_pop v hi
    simp only [storedFor_upsert v (h.ids.not_stored hp)]
    omega
  · rcases Table.mem_upsert.mp hy with rfl | ⟨hy, hne⟩
    · simp
    · simp [hne, h.owned y hy]
  · by_cases he : sid = session.session_id
    · simp [he]
    · simp [he]

/-- A stored session of `user_id` is deleted, and its count is now `i`'s to settle. -/
theorem delete (h : Accounts cfg s x) {session_id : String} (hi : x.credit.get? i = none)
    (howner : x.owner session_id = some user_id)
    (hs : ∃ session ∈ s.sessions, session.session_id = session_id) :
    Accounts cfg { s with sessions := s.sessions.remove session_id }
      { x with credit := x.credit.set i user_id } := by
  refine ⟨fun v => ?_, h.positive, h.within, fun y hy => ?_, h.ids.keep rfl fun y hy => ?_⟩
  · obtain ⟨session, hs, rfl⟩ := hs
    have huser : session.credentials.user_id = user_id :=
      Option.some.inj ((h.owned session hs).symm.trans howner)
    have hexact := h.exact v
    have hstored := storedFor_remove v hs
    rw [huser] at hstored
    simp only [owed_set v hi]
    omega
  · exact h.owned y (Table.mem_remove.mp hy).1
  · exact h.ids.stored y (Table.mem_remove.mp hy).1

/-- `_remove_active_user` settles it. -/
theorem discount (h : Accounts cfg s x) (hi : x.credit.get? i = some user_id) :
    Accounts cfg { s with _active_users := removeActiveUser s._active_users user_id }
      { x with credit := x.credit.pop i } := by
  refine ⟨fun v => ?_, removeActiveUser_positive user_id h.positive, ?_, h.owned,
    h.ids.keep rfl h.ids.stored⟩
  · have hexact := h.exact v
    have howed := owed_pop v hi
    simp only [removeActiveUser_get?]
    omega
  · have hlen := removeActiveUser_len s._active_users user_id
    have hwithin := h.within
    show ((removeActiveUser s._active_users user_id).len : Int) ≤ cfg.active_users_quota
    omega

/-- Nobody's credit left: the counters are exact. -/
theorem exact_of_settled (h : Accounts cfg s x) (hnone : ∀ i, x.credit.get? i = none) :
    Exact cfg s := by
  have howed : ∀ v, owed x.credit v = 0 := by
    intro v
    by_contra hv
    obtain ⟨⟨i, u⟩, hmem, _⟩ := Table.count_pos.mp (Nat.pos_of_ne_zero hv)
    have hi := Table.get?_eq_some.mpr hmem
    rw [hnone i] at hi
    cases hi
  refine ⟨fun v => by rw [h.exact v, howed v, Nat.add_zero], ?_⟩
  have hsub : (s.sessions.rows.map fun session => session.credentials.user_id).dedup ⊆
      s._active_users.keys := by
    intro v hv
    rw [List.mem_dedup, List.mem_map] at hv
    obtain ⟨session, hs, rfl⟩ := hv
    exact h.mem_keys hs
  have hlen := (List.subperm_of_subset (List.nodup_dedup _) hsub).length_le
  rw [Table.length_keys] at hlen
  have hwithin := h.within
  omega

end Accounts

/-! ## The contract -/

variable (cfg) in
/-- Nobody touches another coroutine's credit or pending id, and a session's user is settled. -/
def quota : Contract ι Op Op.Ans State Exc (Books ι) where
  inv w x := Accounts cfg w.state x
  rely i a b := b.2.credit.get? i = a.2.credit.get? i ∧ b.2.pending i = a.2.pending i ∧
    (∀ sid user_id, a.2.owner sid = some user_id → b.2.owner sid = some user_id) ∧
      a.1.state.clock ≤ b.1.state.clock
  may _ op w := Regular op w.state
  refl _ _ := ⟨rfl, rfl, fun _ _ h => h, Nat.le_refl _⟩
  trans := by
    rintro i a b c ⟨hc, hp, ho, ht⟩ ⟨hc', hp', ho', ht'⟩
    exact ⟨hc'.trans hc, hp'.trans hp, fun sid u h => ho' sid u (ho sid u h), ht.trans ht'⟩

variable {i : ι} {t : Time}

/-- Coroutine `i`'s credit and pending id, at the time `t` or later. -/
def Has (i : ι) (t : Time) (credit pending : Option String)
    (a : World ι Op Op.Ans State Exc × Books ι) : Prop :=
  a.2.credit.get? i = credit ∧ a.2.pending i = pending ∧ t ≤ a.1.state.clock

/-- The session ever stored as `session_id` is a session of `user_id`. -/
def Owner (session_id user_id : String) (a : World ι Op Op.Ans State Exc × Books ι) : Prop :=
  a.2.owner session_id = some user_id

theorem Has.stable {credit pending : Option String} :
    (quota cfg).Stable i (Has i t credit pending) :=
  fun _ _ h hr => ⟨hr.1.trans h.1, hr.2.1.trans h.2.1, h.2.2.trans hr.2.2.2⟩

theorem Owner.stable {session_id user_id : String} :
    (quota cfg).Stable i (Owner session_id user_id) :=
  fun _ _ h hr => hr.2.2.1 _ _ h

/-- An operation that changes nothing, with what its answer shows. -/
theorem read_triple {op : Op} {P : World ι Op Op.Ans State Exc × Books ι → Prop}
    {V : op.Ans → World ι Op Op.Ans State Exc × Books ι → Prop}
    {E : Exc → World ι Op Op.Ans State Exc × Books ι → Prop}
    (hP : (quota cfg).Stable i P) (hV : ∀ v, (quota cfg).Stable i (V v))
    (hE : ∀ e, (quota cfg).Stable i (E e))
    (hop : ∀ s r s', exec cfg.backend op s = some (r, s') → s' = s)
    (hans : ∀ w x r s', Accounts cfg w.state x → P (w, x) → Regular op w.state →
      exec cfg.backend op w.state = some (r, s') → ∃ v, r = .ok v ∧ V v (w.answer i op r s', x)) :
    (quota cfg).Triple cfg.machine i P (Coro.call op) V E := by
  refine .call hP hV hE ?_
  intro w x r s' hi hp hm he
  obtain ⟨v, rfl, hv⟩ := hans w x r s' hi hp hm he
  obtain rfl := hop _ _ _ he
  exact ⟨x, hi, fun _ _ => ⟨rfl, rfl, fun _ _ h => h, Nat.le_refl _⟩, hv⟩

/-! ## `delete` and the sweep -/

abbrev Clear (i : ι) (t : Time) : World ι Op Op.Ans State Exc × Books ι → Prop :=
  Has i t none none

theorem get_triple {session_id : String} :
    (quota cfg).Triple cfg.machine i (Clear i t) (get session_id)
      (fun found a => Clear i t a ∧ ∀ session ∈ found, Owner session_id session.credentials.user_id a)
      fun _ => Clear i t := by
  refine read_triple Has.stable (fun found => Has.stable.and (.all fun session => ?_))
    (fun _ => Has.stable) ?_ ?_
  · exact .imp _ Owner.stable
  · intro s r s' he
    cases he
    rfl
  · intro w x r s' hi hp _ he
    cases he
    refine ⟨_, rfl, hp, fun session hs => ?_⟩
    obtain ⟨hmem, hid⟩ := Table.find?_eq_some.mp hs
    exact hid ▸ hi.owned session hmem

theorem session_delete_triple {session_id user_id : String} :
    (quota cfg).Triple cfg.machine i (fun a => Clear i t a ∧ Owner session_id user_id a)
      (Coro.call (Op.session_delete session_id)) (fun _ => Has i t (some user_id) none)
      fun _ => Clear i t := by
  refine .call (Has.stable.and Owner.stable) (fun _ => Has.stable) (fun _ => Has.stable) ?_
  rintro w x r s' hi ⟨hclear, howner⟩ hfound he
  have hdelete : cfg.backend.delete w.state.sessions session_id =
      (.ok (), w.state.sessions.remove session_id) := Backend.delete_of_stored hfound
  simp only [Settings.machine, exec, hdelete, Option.some.injEq, Prod.mk.injEq] at he
  obtain ⟨rfl, rfl⟩ := he
  refine ⟨{ x with credit := x.credit.set i user_id }, hi.delete hclear.1 howner hfound, ?_, ?_⟩
  · exact fun j hj => ⟨by simp [hj.symm], rfl, fun _ _ h => h, Nat.le_refl _⟩
  · exact ⟨by simp, hclear.2⟩

theorem _remove_active_user_triple {user_id : String}
    {E : Exc → World ι Op Op.Ans State Exc × Books ι → Prop} :
    (quota cfg).Triple cfg.machine i (Has i t (some user_id) none) (_remove_active_user user_id)
      (fun _ => Clear i t) E := by
  refine .write fun w x hi hcredit => ?_
  refine ⟨{ x with credit := x.credit.pop i }, hi.discount hcredit.1, ?_, ?_⟩
  · exact fun j hj => ⟨by simp [hj.symm], rfl, fun _ _ h => h, Nat.le_refl _⟩
  · exact ⟨by simp, hcredit.2⟩

theorem delete_triple {session_id : String} :
    (quota cfg).Triple cfg.machine i (Clear i t) (delete session_id) (fun _ => Clear i t)
      fun _ => Clear i t := by
  refine get_triple.bind fun session => ?_
  cases session with
  | none => exact .raise fun _ _ h => h.1
  | some session =>
      refine (session_delete_triple.pre fun _ _ h => ⟨h.1, h.2 session rfl⟩).bind fun _ => ?_
      exact _remove_active_user_triple

theorem removals : Removals cfg (quota cfg) i (Clear i t) fun _ => Clear i t where
  get_all caller := by
    refine read_triple Has.stable (fun _ => Has.stable) (fun _ => Has.stable) ?_ ?_
    · intro s r s' he
      cases he
      rfl
    · intro w x r s' _ hp _ he
      cases he
      exact ⟨_, rfl, hp⟩
  delete _ := delete_triple

/-! ## `create` -/

/-- Restoring what has expired only deletes. -/
theorem restoreSession_triple {add : String → Prog Bool} {session : Session}
    (hexpired : t > session.expiry_time) :
    (quota cfg).Triple cfg.machine i (Clear i t) (restoreSession add session)
      (fun _ => Clear i t) fun _ => Clear i t := by
  refine .read_bind (S := fun expired a => Clear i t a ∧ expired = true) ?_ fun expired => ?_
  · intro w x _ hp
    exact ⟨hp, decide_eq_true (Nat.lt_of_lt_of_le hexpired hp.2.2)⟩
  refine .of_fact (fun _ _ h => h.2) fun he => ?_
  rw [he, if_pos rfl]
  exact delete_triple.pre fun _ _ h => h.1

theorem _restore_active_users_triple {add : String → Prog Bool} :
    (quota cfg).Triple cfg.machine i (Clear i t) (_restore_active_users add)
      (fun _ => Clear i t) fun _ => Clear i t := by
  refine Contract.Triple.bind (S := fun sessions a => ∃ t', t ≤ t' ∧ Clear i t' a ∧
    ∀ session ∈ sessions, t' > session.expiry_time) ?_ fun sessions => ?_
  · refine read_triple Has.stable (fun sessions => .exists fun t' => ?_) (fun _ => Has.stable) ?_ ?_
    · exact (Contract.Stable.const _).and (Has.stable.and (.const _))
    · intro s r s' he
      cases he
      rfl
    · intro w x r s' _ hp hlisted he
      cases he
      exact ⟨_, rfl, w.state.clock, hp.2.2, ⟨hp.1, hp.2.1, Nat.le_refl _⟩, hlisted⟩
  · refine .of_exists fun t' => .of_fact (fun _ _ h => h.1) fun ht => ?_
    refine .of_fact (fun _ _ h => h.2.2) fun hexpired => ?_
    have hloop := Contract.Triple.forM (K := quota cfg) (M := cfg.machine) (i := i)
      (f := restoreSession add) (E := fun _ => Clear i t')
      (J := fun listed a => Clear i t' a ∧ ∀ session ∈ listed, t' > session.expiry_time)
      (fun session listed => .of_fact (fun _ _ h => h.2) fun hall =>
        (restoreSession_triple (hall session List.mem_cons_self)).conseq (fun _ _ h => h.1)
          (fun _ _ _ h => ⟨h, fun s hs => hall s (List.mem_cons_of_mem _ hs)⟩) fun _ _ _ h => h)
      sessions
    exact hloop.conseq (fun _ _ h => ⟨h.2.1, hexpired⟩)
      (fun _ _ _ h => ⟨h.1.1, h.1.2.1, ht.trans h.1.2.2⟩)
      fun _ _ _ h => ⟨h.1, h.2.1, ht.trans h.2.2⟩

/-- The decision: the room it sees is the room there is. -/
theorem admitUser_triple {user_id : String} :
    (quota cfg).Triple cfg.machine i (Clear i t) (admitUser cfg user_id)
      (fun admitted => Has i t (if admitted then some user_id else none) none)
      fun _ => Clear i t := by
  refine .read_bind (S := fun active a => Clear i t a ∧ a.1.state._active_users = active)
    (fun _ _ _ h => ⟨h, rfl⟩) fun active => ?_
  dsimp only
  split
  · exact .ret fun _ _ h => h.1
  · split
    · exact .ret fun _ _ h => h.1
    · rename_i hnew
      refine Contract.Triple.bind (S := fun _ => Has i t (some user_id) none) ?_ fun _ =>
        .ret fun _ _ h => h
      refine .write fun w x hi hp => ?_
      obtain ⟨hclear, rfl⟩ := hp
      refine ⟨{ x with credit := x.credit.set i user_id }, hi.counted hclear.1 hnew, ?_, ?_⟩
      · exact fun j hj => ⟨by simp [hj.symm], rfl, fun _ _ h => h, Nat.le_refl _⟩
      · exact ⟨by simp, hclear.2⟩

/-- A step that changes nothing the books are about. -/
theorem flag_triple {P : World ι Op Op.Ans State Exc × Books ι → Prop}
    {E : Exc → World ι Op Op.Ans State Exc × Books ι → Prop} (restored : Bool)
    (hP : ∀ w x, P (w, x) → P ({ w with state :=
      { w.state with _active_users_restored := restored } }, x)) :
    (quota cfg).Triple cfg.machine i P
      (Coro.write fun s => { s with _active_users_restored := restored }) (fun _ => P) E := by
  refine .write fun w x hi hp => ⟨x, ?_, fun _ _ => ?_, hP w x hp⟩
  · exact ⟨hi.exact, hi.positive, hi.within, hi.owned, hi.ids.keep rfl hi.ids.stored⟩
  · exact ⟨rfl, rfl, fun _ _ h => h, Nat.le_refl _⟩

/-- `_add_active_user_with_quota`, whatever the restore is. -/
theorem addActiveUser_triple {restore : Prog Unit} {user_id : String}
    (hquota : 0 < cfg.active_users_quota)
    (hrestore : (quota cfg).Triple cfg.machine i (Clear i t) restore (fun _ => Clear i t)
      fun _ => Clear i t) :
    (quota cfg).Triple cfg.machine i (Clear i t) (addActiveUser cfg restore user_id)
      (fun admitted => Has i t (if admitted then some user_id else none) none)
      fun _ => Clear i t :=
  CortxCsm.addActiveUser_triple (flag_triple true fun _ _ h => h) hrestore
    removals._remove_expired_sessions admitUser_triple
    fun hunlimited => absurd hquota (Int.not_lt.mpr hunlimited)

/-- `SessionManager.create`: draw an id, and store the session that has been counted. -/
theorem store_triple {credentials : LocalCredentials} {permissions : PermissionSet} :
    (quota cfg).Triple cfg.machine i (Has i t (some credentials.user_id) none)
      (SessionManager.create cfg credentials permissions) (fun _ => Clear i t)
      fun _ => Clear i t := by
  refine Contract.Triple.bind
    (S := fun sid => Has i t (some credentials.user_id) (some sid)) ?_ fun session_id => ?_
  · refine .sync fun w x hi hp => ?_
    refine ⟨{ x with pending := Function.update x.pending i (some (cfg.uuid4 w.state.drawn)) },
      hi.draw i, ?_, ?_⟩
    · exact fun j hj => ⟨rfl, Function.update_of_ne hj _ _, fun _ _ h => h, Nat.le_refl _⟩
    · exact ⟨hp.1, Function.update_self i _ _, hp.2.2⟩
  · refine .read_bind (S := fun _ => Has i t (some credentials.user_id) (some session_id))
      (fun _ _ _ h => h) fun expiry_time => ?_
    refine Contract.Triple.bind (S := fun _ => Clear i t) ?_ fun _ => .ret fun _ _ h => h
    refine .call Has.stable (fun _ => Has.stable) (fun _ => Has.stable) ?_
    intro w x r s' hi hp _ he
    simp only [Settings.machine, exec, Backend.store_eq, Option.some.injEq, Prod.mk.injEq] at he
    obtain ⟨rfl, rfl⟩ := he
    refine ⟨_, hi.store hp.1 hp.2.1, ?_, ?_⟩
    · intro j hj
      refine ⟨by simp [hj.symm], Function.update_of_ne hj _ _, fun sid u h => ?_, Nat.le_refl _⟩
      show Function.update x.owner session_id _ sid = some u
      rw [Function.update_of_ne]
      · exact h
      · rintro rfl
        exact hi.ids.pending_new i sid hp.2.1 (by rw [h]; rfl)
    · exact ⟨by simp, Function.update_self i _ _, hp.2.2⟩

theorem create_triple {credentials : LocalCredentials} {permissions : PermissionSet}
    (hquota : 0 < cfg.active_users_quota) :
    (quota cfg).Triple cfg.machine i (Clear i t)
      (QuotaSessionManager.create cfg credentials permissions) (fun _ => Clear i t)
      fun _ => Clear i t := by
  refine (addActiveUser_triple hquota _restore_active_users_triple).bind fun admitted => ?_
  cases admitted with
  | true => exact store_triple
  | false => exact .raise fun _ _ h => h

/-! ## Runs -/

theorem program_triple (call : QuotaCall) (hquota : 0 < cfg.active_users_quota) :
    (quota cfg).Triple cfg.machine i (Clear i t) (call.program cfg) (fun _ => Clear i t)
      fun _ => Clear i t := by
  cases call with
  | create => exact .map (create_triple hquota)
  | delete => exact .map delete_triple
  | _remove_expired_sessions => exact .map removals._remove_expired_sessions

/-- **The session counters are exact** whenever no call is in flight, in every run whose
deletions find their session and whose restore finds expired sessions only. -/
theorem counters_exact (cfg : Settings) (hquota : 0 < cfg.active_users_quota)
    (calls : ι → QuotaCall) (users : UserStore) (as : List (Act ι Time))
    (has : Config.Along cfg.machine (fun i => (calls i).program cfg)
      (Config.AtOps fun _ op w => Regular op w.state) (.start (.fresh users)) as)
    (hquiet : (Config.run cfg.machine (fun i => (calls i).program cfg)
      (.start (.fresh users)) as).Quiet) :
    Exact cfg (Config.run cfg.machine (fun i => (calls i).program cfg)
      (.start (.fresh users)) as).state := by
  have hstart : Accounts cfg (.fresh users) (⟨.empty, fun _ => none, fun _ => none⟩ : Books ι) := by
    refine ⟨fun _ => rfl, (fun _ h => nomatch h), ?_, fun x h => absurd h (Table.not_mem_empty x), ?_⟩
    · exact Int.le_of_lt hquota
    · exact .start (fun _ h => nomatch h) fun x h => absurd h (Table.not_mem_empty x)
  have henv : (quota cfg : Contract ι Op Op.Ans State Exc (Books ι)).AllowsEnv cfg.machine := by
    intro w x elapsed hi
    refine ⟨x, ?_, fun _ => ⟨rfl, rfl, fun _ _ h => h, Nat.le_add_right _ _⟩⟩
    exact ⟨hi.exact, hi.positive, hi.within, hi.owned, hi.ids.keep rfl hi.ids.stored⟩
  obtain ⟨x, hi, hthreads⟩ := Contract.Triple.run (fun _ => Has.stable) (fun _ _ => Has.stable)
    (fun _ _ => Has.stable) henv (fun i => program_triple (t := 0) (calls i) hquota) hstart
    (fun _ => ⟨rfl, rfl, Nat.zero_le _⟩) has
  exact hi.exact_of_settled fun i => ((hthreads i).of_quiet (hquiet i)).1

end Contract

/-! ## What else happens -/

section Example

instance : (op : Op) → (s : State) → Decidable (Regular op s)
  | .session_delete session_id, s =>
      inferInstanceAs (Decidable (∃ session ∈ s.sessions, session.session_id = session_id))
  | .session_get_all ._restore_active_users, s =>
      inferInstanceAs (Decidable (∀ session ∈ s.sessions, s.clock > session.expiry_time))
  | .session_get_all .create, _ | .session_get_all .update, _
  | .session_get_all ._remove_expired_sessions, _
  | .session_get_all ._is_valid_session_exists, _
  | .session_get_all .delete_all_sessions_for_user, _
  | .lock_acquire, _ | .user_get _ _, _ | .user_count, _ | .user_count_admins, _
  | .user_store _, _ | .user_delete _, _ | .session_get _, _ | .session_store _ _, _ =>
      isTrue trivial

/-- At most two users at a time. -/
def twoUsers : Settings := sampleSettings .database 0 2 .blank

/-- Two sessions of alice, and two deletions of the first. -/
def twoLogouts : Fin 4 → QuotaCall
  | 0 => .create ⟨"alice", CSM_MONITOR_ROLE⟩ (.init .empty)
  | 1 => .create ⟨"alice", CSM_MONITOR_ROLE⟩ (.init .empty)
  | 2 => .delete "f"
  | 3 => .delete "f"

/-- The sessions are created, both deletions read the first, and then both delete it. -/
def bothRead : List (Act (Fin 4) Time) :=
  List.replicate 5 (.run 0) ++ List.replicate 3 (.run 1) ++ List.replicate 3 (.run 2) ++
    List.replicate 3 (.run 3) ++ List.replicate 2 (.run 2) ++ List.replicate 2 (.run 3)

/-- Bob's session is created while alice's `create` restores. -/
def twoLogins : Fin 4 → QuotaCall
  | 0 => .create ⟨"alice", CSM_MONITOR_ROLE⟩ (.init .empty)
  | _ => .create ⟨"bob", CSM_MONITOR_ROLE⟩ (.init .empty)

def whileRestoring : List (Act (Fin 4) Time) :=
  [.run 0] ++ List.replicate 3 (.run 1) ++ List.replicate 4 (.run 0)

/-- The state a run of these calls leaves. -/
abbrev final (calls : Fin 4 → QuotaCall) (as : List (Act (Fin 4) Time)) :
    Config (Fin 4) Op Op.Ans State Exc Response :=
  Config.run twoUsers.machine (fun i => (calls i).program twoUsers) (.start (.fresh .empty)) as

/-- The same session is taken off twice, and a session that is counted is restored. -/
theorem counters_inexact :
    ((final twoLogouts bothRead).Quiet ∧ ¬ Exact twoUsers (final twoLogouts bothRead).state) ∧
      (final twoLogins whileRestoring).Quiet ∧
        ¬ Exact twoUsers (final twoLogins whileRestoring).state := by
  refine ⟨⟨by decide +kernel, fun h => absurd (h.1 "alice") ?_⟩, by decide +kernel,
    fun h => absurd (h.1 "bob") ?_⟩
  · decide +kernel
  · decide +kernel

/-- Both creations at once, once the first has restored; then both deletions, of which the second
looks for the session when the first has deleted it, and raises. -/
def turnAbout : List (Act (Fin 4) Time) :=
  [.run 0, .run 0, .run 1, .run 0, .run 1, .run 0, .run 1, .run 0] ++
    [.run 2, .run 2, .run 3, .run 2, .run 2, .run 3, .run 2, .run 3, .run 3]

theorem counters_exact_turnAbout : Exact twoUsers (final twoLogouts turnAbout).state :=
  counters_exact twoUsers (by decide) twoLogouts .empty turnAbout (by decide +kernel)
    (by decide +kernel)

end Example

end CortxCsm.SessionQuota
