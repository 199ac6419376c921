/-
# `CortxCsm.SessionRevocation` — does a deleted session stay deleted?

`login` reuses a valid session of the user: it finds it in a listing, refreshes its expiry
time, and stores it again.  If the session is deleted after the listing, that store brings
it back (`session_returns`).

Everything else that stores a session stores one of its own, whose id is fresh.  So a
deleted session stays deleted as long as every refresh still finds its session in the
store; and an `auth_session` that is called after the deletion finds none.

**Proved here.**

    the operations keep a deleted session away              (`Dead.create`, `Dead.update`, …)
    `logout` returns once it has deleted                    (`delete_triple`)
    under the condition, deleted is deleted                 (`deleted_stays_deleted`)
    without it a session returns                            (`session_returns`)
-/
import CortxCsm.SessionSteps

namespace CortxCsm.SessionRevocation

open SessionManager QuotaSessionManager LoginService

/-! ## Deletions -/

/-- The session an operation deletes. -/
def deletes : Op → Option String
  | .session_delete session_id => some session_id
  | _ => none

/-- What a run is asked at an operation: a refresh finds its session in the store. -/
def RefreshesStored : Op → State → Prop
  | .session_store .update session, s => ∃ x ∈ s.sessions, x.session_id = session.session_id
  | _, _ => True

/-- The ghost value: the ids ever stored, and the ids drawn and not stored yet. -/
structure Known (ι : Type) where
  born : String → Prop
  pending : ι → Option String

section Contract

variable {ι : Type} {cfg : Settings}

/-- The session has been deleted. -/
def Deleted (hist : List (Event ι Op Op.Ans State Exc)) (sid : String) : Prop :=
  ∃ e ∈ hist, deletes e.op = some sid

theorem Deleted.append {hist : List (Event ι Op Op.Ans State Exc)} {sid : String}
    (h : Deleted hist sid) (es : List (Event ι Op Op.Ans State Exc)) : Deleted (hist ++ es) sid := by
  obtain ⟨e, he, hsid⟩ := h
  exact ⟨e, List.mem_append_left _ he, hsid⟩

theorem deleted_concat {hist : List (Event ι Op Op.Ans State Exc)}
    {e : Event ι Op Op.Ans State Exc} {sid : String} :
    Deleted (hist ++ [e]) sid ↔ Deleted hist sid ∨ deletes e.op = some sid := by
  simp only [Deleted, List.mem_append, List.mem_singleton, or_and_right, exists_or, exists_eq_left]

/-- The store `s` holds no session that `hist` has deleted. -/
def Gone (hist : List (Event ι Op Op.Ans State Exc)) (s : State) : Prop :=
  ∀ sid, Deleted hist sid → ∀ session ∈ s.sessions, session.session_id ≠ sid

/-- What is deleted is gone, and was gone at every operation since. -/
structure Dead (cfg : Settings) (w : World ι Op Op.Ans State Exc) (x : Known ι) : Prop where
  ids : Ids cfg w.state x.born x.pending
  born : ∀ sid, Deleted w.hist sid → x.born sid
  gone : Gone w.hist w.state
  since : ∀ l e l', w.hist = l ++ e :: l' → Gone l e.before

/-- One more event, if what had been deleted was gone when it happened. -/
theorem since_concat {hist : List (Event ι Op Op.Ans State Exc)}
    {e : Event ι Op Op.Ans State Exc}
    (h : ∀ l e' l', hist = l ++ e' :: l' → Gone l e'.before) (he : Gone hist e.before) :
    ∀ l e' l', hist ++ [e] = l ++ e' :: l' → Gone l e'.before := by
  intro l e' l' heq
  rcases List.eq_nil_or_concat l' with rfl | ⟨l'', e'', rfl⟩
  · obtain ⟨rfl, heq'⟩ := List.append_inj' heq rfl
    cases heq'
    exact he
  · have heq' : hist ++ [e] = (l ++ e' :: l'') ++ [e''] := by simpa using heq
    exact h l e' l'' (List.append_inj' heq' rfl).1

namespace Dead

variable {w : World ι Op Op.Ans State Exc} {x : Known ι} {i : ι} {op : Op}
  {r : Except Exc op.Ans} {s' : State}

/-- An operation that deletes nothing, and leaves the ids and the deleted sessions alone. -/
theorem answer (h : Dead cfg w x) {x' : Known ι} (hop : deletes op = none)
    (hids : Ids cfg s' x'.born x'.pending) (hborn : ∀ sid, x.born sid → x'.born sid)
    (hgone : Gone w.hist s') : Dead cfg (w.answer i op r s') x' := by
  have hdel : ∀ sid, Deleted (w.answer i op r s').hist sid → Deleted w.hist sid :=
    fun sid hd => (deleted_concat.mp hd).resolve_right fun e => nomatch hop.symm.trans e
  exact ⟨hids, fun sid hd => hborn sid (h.born sid (hdel sid hd)),
    fun sid hd => hgone sid (hdel sid hd), since_concat h.since h.gone⟩

/-- An operation that changes no session. -/
theorem keep (h : Dead cfg w x) (hop : deletes op = none)
    (hs : s'.sessions = w.state.sessions) (hdrawn : s'.drawn = w.state.drawn) :
    Dead cfg (w.answer i op r s') x :=
  h.answer hop (h.ids.keep hdrawn (hs ▸ h.ids.stored)) (fun _ hb => hb)
    fun sid hd session hm => h.gone sid hd session (hs ▸ hm)

/-- Code that changes no session. -/
theorem sync (h : Dead cfg w x) (hs : s'.sessions = w.state.sessions)
    (hdrawn : s'.drawn = w.state.drawn) : Dead cfg { w with state := s' } x :=
  ⟨h.ids.keep hdrawn (hs ▸ h.ids.stored), h.born,
    fun sid hd session hm => h.gone sid hd session (hs ▸ hm), h.since⟩

/-- A refresh of a stored session. -/
theorem update (h : Dead cfg w x) (hop : deletes op = none) {session : Session}
    (hstored : ∃ y ∈ w.state.sessions, y.session_id = session.session_id) :
    Dead cfg (w.answer i op r
      { w.state with sessions := w.state.sessions.upsert session }) x := by
  obtain ⟨y, hy, hid⟩ := hstored
  refine h.answer hop (h.ids.keep rfl fun z hz => ?_) (fun _ hb => hb) fun sid hd z hz => ?_
  · rcases Table.mem_upsert.mp hz with rfl | ⟨hz, _⟩
    · exact hid ▸ h.ids.stored y hy
    · exact h.ids.stored z hz
  · rcases Table.mem_upsert.mp hz with rfl | ⟨hz, _⟩
    · exact hid ▸ h.gone sid hd y hy
    · exact h.gone sid hd z hz

/-- A deletion of a session that was once stored. -/
theorem delete (h : Dead cfg w x) {sid : String} (hop : deletes op = some sid)
    (hborn : x.born sid) :
    Dead cfg (w.answer i op r { w.state with sessions := w.state.sessions.remove sid }) x := by
  refine ⟨h.ids.keep rfl fun y hy => h.ids.stored y (Table.mem_remove.mp hy).1, ?_, ?_,
    since_concat h.since h.gone⟩
  · intro sid' hd
    rcases deleted_concat.mp hd with hd | e
    · exact h.born sid' hd
    · cases hop.symm.trans e
      exact hborn
  · intro sid' hd y hy
    obtain ⟨hy, hne⟩ := Table.mem_remove.mp hy
    rcases deleted_concat.mp hd with hd | e
    · exact h.gone sid' hd y hy
    · cases hop.symm.trans e
      exact hne

/-- The store that `create` was suspended on: its id has never been stored. -/
theorem create [DecidableEq ι] (h : Dead cfg w x) (hop : deletes op = none) {session : Session}
    (hi : x.pending i = some session.session_id) :
    Dead cfg (w.answer i op r { w.state with sessions := w.state.sessions.upsert session })
      ⟨fun sid => x.born sid ∨ sid = session.session_id, Function.update x.pending i none⟩ := by
  refine h.answer hop (h.ids.store hi fun _ => Iff.rfl) (fun _ => Or.inl) fun sid hd y hy => ?_
  rcases Table.mem_upsert.mp hy with rfl | ⟨hy, _⟩
  · rintro rfl
    exact h.ids.pending_new i _ hi (h.born _ hd)
  · exact h.gone sid hd y hy

end Dead

/-! ## The contract -/

variable (cfg) in
def revocation : Contract ι Op Op.Ans State Exc (Known ι) where
  inv := Dead cfg
  rely i a b := b.2.pending i = a.2.pending i ∧ (∀ sid, a.2.born sid → b.2.born sid) ∧
    ∃ es, b.1.hist = a.1.hist ++ es ∧ ∀ e ∈ es, e.who ≠ i
  may _ op w := RefreshesStored op w.state
  refl _ _ := ⟨rfl, fun _ h => h, [], by simp, by simp⟩
  trans := by
    rintro i a b c ⟨hp, hb, es, hes, hwho⟩ ⟨hp', hb', fs, hfs, hwho'⟩
    refine ⟨hp'.trans hp, fun sid h => hb' sid (hb sid h), es ++ fs, ?_, fun e he => ?_⟩
    · rw [hfs, hes, List.append_assoc]
    · exact (List.mem_append.mp he).elim (hwho e) (hwho' e)

variable {i : ι}

/-- No id drawn and not stored. -/
def Clear (i : ι) (a : World ι Op Op.Ans State Exc × Known ι) : Prop := a.2.pending i = none

/-- The id has been stored at some time. -/
def Born (sid : String) (a : World ι Op Op.Ans State Exc × Known ι) : Prop := a.2.born sid

/-- One of `i`'s operations found the session stored. -/
def Found (i : ι) (sid : String) (a : World ι Op Op.Ans State Exc × Known ι) : Prop :=
  ∃ e ∈ a.1.hist, e.who = i ∧ ∃ session ∈ e.before.sessions, session.session_id = sid

theorem Clear.stable : (revocation cfg).Stable i (Clear i) := fun _ _ h hr => hr.1.trans h

theorem Born.stable {sid : String} : (revocation cfg).Stable i (Born sid) :=
  fun _ _ h hr => hr.2.1 sid h

theorem Deleted.stable {sid : String} :
    (revocation cfg).Stable i fun a => Deleted a.1.hist sid := by
  rintro a b h ⟨_, _, es, hes, _⟩
  show Deleted b.1.hist sid
  exact hes ▸ h.append es

theorem Found.stable {sid : String} : (revocation cfg).Stable i (Found i sid) := by
  rintro a b ⟨e, he, h⟩ ⟨_, _, es, hes, _⟩
  exact ⟨e, hes ▸ List.mem_append_left _ he, h⟩

/-- What `i` owes the others for an operation that keeps the ids. -/
theorem guar_answer {w : World ι Op Op.Ans State Exc} {x x' : Known ι} {op : Op}
    {r : Except Exc op.Ans} {s' : State} (hp : ∀ j, j ≠ i → x'.pending j = x.pending j)
    (hb : ∀ sid, x.born sid → x'.born sid) :
    (revocation cfg).guar i (w, x) (w.answer i op r s', x') :=
  fun j hj => ⟨hp j hj, hb, [⟨i, op, w.state, r⟩], rfl, by simpa using hj.symm⟩

/-- An operation that changes no session, with what its answer shows. -/
theorem keep_triple {op : Op} {V : op.Ans → World ι Op Op.Ans State Exc × Known ι → Prop}
    (hop : deletes op = none) (hV : ∀ v, (revocation cfg).Stable i (V v))
    (hexec : ∀ w x r s', Dead cfg w x → exec cfg.backend op w.state = some (r, s') →
      s'.sessions = w.state.sessions ∧ s'.drawn = w.state.drawn ∧
        ∃ v, r = .ok v ∧ V v (w.answer i op r s', x)) :
    (revocation cfg).Triple cfg.machine i (Clear i) (Coro.call op)
      (fun v a => Clear i a ∧ V v a) fun _ => Clear i := by
  refine .call Clear.stable (fun v => Clear.stable.and (hV v)) (fun _ => Clear.stable) ?_
  intro w x r s' hi hp _ he
  obtain ⟨hs, hdrawn, v, rfl, hv⟩ := hexec w x r s' hi he
  exact ⟨x, hi.keep hop hs hdrawn, guar_answer (fun _ _ => rfl) (fun _ h => h), hp, hv⟩

/-! ## Methods -/

theorem get_triple {session_id : String} :
    (revocation cfg).Triple cfg.machine i (Clear i) (get session_id)
      (fun found a => Clear i a ∧ (found.isSome → Born session_id a ∧ Found i session_id a))
      fun _ => Clear i := by
  refine keep_triple rfl (fun found => .imp _ (Born.stable.and Found.stable)) ?_
  intro w x r s' hi he
  cases he
  refine ⟨rfl, rfl, _, rfl, fun hsome => ?_⟩
  obtain ⟨session, hfound⟩ := Option.isSome_iff_exists.mp hsome
  obtain ⟨hmem, hid⟩ := Table.find?_eq_some.mp hfound
  refine ⟨hid ▸ hi.ids.stored session hmem, ?_⟩
  exact ⟨_, List.mem_append_right _ (List.mem_singleton_self _), rfl, session, hmem, hid⟩

/-- Code that changes no session. -/
theorem sync_triple {u : State → State} {P : World ι Op Op.Ans State Exc × Known ι → Prop}
    {E : Exc → World ι Op Op.Ans State Exc × Known ι → Prop}
    (hP : ∀ w x, P (w, x) → P ({ w with state := u w.state }, x))
    (hu : ∀ s, (u s).sessions = s.sessions ∧ (u s).drawn = s.drawn) :
    (revocation cfg).Triple cfg.machine i P (Coro.write u) (fun _ => P) E := by
  refine .write fun w x hi hp => ⟨x, hi.sync (hu _).1 (hu _).2, fun _ _ => ?_, hP w x hp⟩
  exact ⟨rfl, fun _ h => h, [], by simp, by simp⟩

theorem session_delete_triple (hdb : cfg.backend = .database) {session_id : String} :
    (revocation cfg).Triple cfg.machine i (fun a => Clear i a ∧ Born session_id a)
      (Coro.call (Op.session_delete session_id))
      (fun _ a => Clear i a ∧ Deleted a.1.hist session_id) fun _ => Clear i := by
  refine .call (Clear.stable.and Born.stable) (fun _ => Clear.stable.and Deleted.stable)
    (fun _ => Clear.stable) ?_
  intro w x r s' hi hp _ he
  simp only [Settings.machine, exec, hdb, Backend.delete, Option.some.injEq, Prod.mk.injEq] at he
  obtain ⟨rfl, rfl⟩ := he
  refine ⟨x, hi.delete rfl hp.2, guar_answer (fun _ _ => rfl) (fun _ h => h), hp.1, ?_⟩
  exact deleted_concat.mpr (Or.inr rfl)

theorem delete_triple (hdb : cfg.backend = .database) {session_id : String} :
    (revocation cfg).Triple cfg.machine i (Clear i) (delete session_id)
      (fun _ a => Clear i a ∧ Deleted a.1.hist session_id) fun _ => Clear i := by
  refine get_triple.bind fun session => ?_
  cases session with
  | none => exact .raise fun _ _ h => h.1
  | some session =>
      refine ((session_delete_triple hdb).pre fun _ _ h => ⟨h.1, (h.2 rfl).1⟩).bind fun _ => ?_
      exact sync_triple (fun _ _ h => h) fun _ => ⟨rfl, rfl⟩

variable [DecidableEq ι]

/-- `SessionManager.create`: the id drawn is fresh until it is stored. -/
theorem create_triple {credentials : LocalCredentials} {permissions : PermissionSet} :
    (revocation cfg).Triple cfg.machine i (Clear i)
      (SessionManager.create cfg credentials permissions) (fun _ => Clear i)
      fun _ => Clear i := by
  have hpending : ∀ sid, (revocation cfg).Stable i
      fun a : World ι Op Op.Ans State Exc × Known ι => a.2.pending i = some sid :=
    fun sid _ _ h hr => hr.1.trans h
  refine Contract.Triple.bind (S := fun sid a => a.2.pending i = some sid) ?_ fun session_id => ?_
  · refine .sync fun w x hi hp => ?_
    refine ⟨⟨x.born, Function.update x.pending i (some (cfg.uuid4 w.state.drawn))⟩,
      ⟨hi.ids.draw i, hi.born, hi.gone, hi.since⟩, ?_, Function.update_self i _ _⟩
    exact fun j hj => ⟨Function.update_of_ne hj _ _, fun _ h => h, [], by simp, by simp⟩
  · refine read_then fun expiry_time => ?_
    refine Contract.Triple.bind (S := fun _ => Clear i) ?_ fun _ => .ret fun _ _ h => h
    refine .call (hpending _) (fun _ => Clear.stable) (fun _ => Clear.stable) ?_
    intro w x r s' hi hp _ he
    simp only [Settings.machine, exec, Backend.store_eq, Option.some.injEq, Prod.mk.injEq] at he
    obtain ⟨rfl, rfl⟩ := he
    refine ⟨_, hi.create rfl hp, ?_, Function.update_self i _ _⟩
    exact guar_answer (fun j hj => Function.update_of_ne hj _ _) fun _ => Or.inl

omit [DecidableEq ι] in
/-- A refresh stores the session only where it is stored. -/
theorem update_session_expiry_time_triple (hdb : cfg.backend = .database) {session : Session} :
    (revocation cfg).Triple cfg.machine i (Clear i) (update_session_expiry_time cfg session)
      (fun _ => Clear i) fun _ => Clear i := by
  refine read_then fun expiry_time => ?_
  rw [hdb]
  refine Contract.Triple.bind (S := fun _ => Clear i)
    (sync_triple (fun _ _ h => h) fun _ => ⟨rfl, rfl⟩) fun _ => ?_
  refine Contract.Triple.bind (S := fun _ => Clear i) ?_ fun _ => .ret fun _ _ h => h
  refine .call Clear.stable (fun _ => Clear.stable) (fun _ => Clear.stable) ?_
  intro w x r s' hi hp hstored he
  simp only [Settings.machine, exec, Backend.store_eq, Option.some.injEq, Prod.mk.injEq] at he
  obtain ⟨rfl, rfl⟩ := he
  exact ⟨x, hi.update rfl hstored, guar_answer (fun _ _ => rfl) (fun _ h => h), hp⟩

variable [Runtime]

/-- All that `login` does leaves deleted sessions alone. -/
theorem loginSteps (hdb : cfg.backend = .database) :
    LoginSteps cfg (revocation cfg) i (fun _ => True) (fun _ => True) (fun _ => Clear i) (Clear i)
      fun _ => Clear i where
  raised _ _ _ h := h
  tally u hu := sync_triple (fun _ _ h => h) fun s => by
    obtain ⟨active, restored, e⟩ := hu s
    rw [e]
    exact ⟨rfl, rfl⟩
  get purpose user_id := by
    refine (keep_triple (V := fun _ _ => True) rfl (fun _ => .const _) ?_).bind fun _ =>
      .ret fun _ _ h => ⟨h.1, fun _ _ => trivial⟩
    intro w x r s' _ he
    cases he
    exact ⟨rfl, rfl, _, rfl, trivial⟩
  get_all caller := by
    refine (keep_triple (V := fun _ _ => True) rfl (fun _ => .const _) ?_).weaken
      (fun _ _ _ h => ⟨h.1, fun _ _ => trivial⟩) fun _ _ _ h => h
    intro w x r s' _ he
    cases he
    exact ⟨rfl, rfl, _, rfl, trivial⟩
  delete session_id := (delete_triple hdb).weaken (fun _ _ _ h => h.1) fun _ _ _ h => h
  create _ _ := create_triple
  refresh session _ := update_session_expiry_time_triple hdb

omit [DecidableEq ι] [Runtime] in
theorem auth_session_triple (hdb : cfg.backend = .database) {session_id : String} :
    (revocation cfg).Triple cfg.machine i (Clear i) (auth_session cfg session_id)
      (fun _ a => Clear i a ∧ Found i session_id a) fun _ => Clear i := by
  refine get_triple.bind fun session => ?_
  cases session with
  | none => exact .raise fun _ _ h => h.1
  | some session =>
      refine .pre (P := fun a => Clear i a ∧ Found i session_id a) ?_ fun _ _ h =>
        ⟨h.1, (h.2 rfl).2⟩
      refine read_then fun expired => ?_
      split
      · refine Contract.Triple.bind ((delete_triple hdb).pre fun _ _ h => h.1) fun _ => ?_
        exact .raise fun _ _ h => h.1
      · refine read_then fun expiry_time => ?_
        rw [hdb]
        exact Contract.Triple.bind (S := fun _ a => Clear i a ∧ Found i session_id a)
          (sync_triple (fun _ _ h => h) fun _ => ⟨rfl, rfl⟩) fun _ => .ret fun _ _ h => h

theorem delete_all_sessions_triple (hdb : cfg.backend = .database) {session_id : String} :
    (revocation cfg).Triple cfg.machine i (Clear i) (delete_all_sessions session_id)
      (fun _ => Clear i) fun _ => Clear i := by
  refine get_triple.bind fun session => ?_
  cases session with
  | none => exact (loginSteps hdb).delete _ |>.pre fun _ _ h => h.1
  | some session =>
      exact ((loginSteps hdb).quota.delete_all_sessions_for_user _).pre fun _ _ h => h.1

/-! ## Runs -/

/-- What a call that has returned says of its session. -/
def Outcome (i : ι) : LoginCall → World ι Op Op.Ans State Exc × Known ι → Prop
  | .logout session_id, a => Deleted a.1.hist session_id
  | .auth_session session_id, a => Found i session_id a
  | _, _ => True

omit [DecidableEq ι] [Runtime] in
theorem Outcome.stable {call : LoginCall} : (revocation cfg).Stable i (Outcome i call) := by
  cases call with
  | logout => exact Deleted.stable
  | auth_session => exact Found.stable
  | _ => exact .const True

theorem program_triple (hdb : cfg.backend = .database) (call : LoginCall) :
    (revocation cfg).Triple cfg.machine i (Clear i) (call.program cfg)
      (fun _ => Outcome i call) fun _ _ => True := by
  cases call with
  | login =>
      exact .map (((loginSteps hdb).login _ _).weaken (fun _ _ _ _ => trivial)
        fun _ _ _ _ => trivial)
  | logout => exact .map ((delete_triple hdb).weaken (fun _ _ _ h => h.2) fun _ _ _ _ => trivial)
  | auth_session =>
      exact .map ((auth_session_triple hdb).weaken (fun _ _ _ h => h.2) fun _ _ _ _ => trivial)
  | delete_all_sessions =>
      exact .map ((delete_all_sessions_triple hdb).weaken (fun _ _ _ _ => trivial)
        fun _ _ _ _ => trivial)
  | delete_all_sessions_for_user =>
      exact .map (((loginSteps hdb).quota.delete_all_sessions_for_user _).weaken
        (fun _ _ _ _ => trivial) fun _ _ _ _ => trivial)
  | _remove_expired_sessions =>
      exact .map ((loginSteps hdb).quota._remove_expired_sessions.weaken (fun _ _ _ _ => trivial)
        fun _ _ _ _ => trivial)

/-- Not called, so nothing asked yet. -/
def NotCalled (i : ι) (a : World ι Op Op.Ans State Exc × Known ι) : Prop :=
  Clear i a ∧ ∀ e ∈ a.1.hist, e.who ≠ i

omit [DecidableEq ι] [Runtime] in
theorem NotCalled.stable : (revocation cfg).Stable i (NotCalled i) := by
  rintro a b ⟨hclear, hnone⟩ ⟨hp, _, es, hes, hwho⟩
  refine ⟨hp.trans hclear, fun e he => ?_⟩
  rw [hes] at he
  exact (List.mem_append.mp he).elim (hnone e) (hwho e)

/-- The session is revoked: a deletion of it has been answered, or its `logout` has returned. -/
def Revoked (calls : ι → LoginCall) (sid : String)
    (c : Config ι Op Op.Ans State Exc Response) : Prop :=
  Deleted c.world.hist sid ∨ ∃ i, calls i = .logout sid ∧ (c.thread i).returned = true

/-- What a run keeps. -/
theorem run_dead (cfg : Settings) (hdb : cfg.backend = .database) (calls : ι → LoginCall)
    (s₀ : State) (hfresh : ∀ session ∈ s₀.sessions, Drawn cfg s₀ session.session_id)
    {as : List (Act ι Time)}
    (has : Config.Along cfg.machine (fun i => (calls i).program cfg)
      (Config.AtOps fun _ op w => RefreshesStored op w.state) (.start s₀) as) :
    ∃ x, Dead cfg (Config.run cfg.machine (fun i => (calls i).program cfg) (.start s₀) as).world x ∧
      ∀ i, Contract.Standing (NotCalled i) (fun _ => Outcome i (calls i)) (fun _ _ => True)
        ((Config.run cfg.machine (fun i => (calls i).program cfg) (.start s₀) as).thread i)
        ((Config.run cfg.machine (fun i => (calls i).program cfg) (.start s₀) as).world, x) := by
  have hstart : Dead cfg ⟨s₀, []⟩
      (⟨fun sid => Drawn cfg s₀ sid, fun _ => none⟩ : Known ι) := by
    refine ⟨.start (fun _ h => h) hfresh, ?_, ?_, fun l e l' h => ?_⟩
    · rintro sid ⟨e, he, _⟩
      exact absurd he List.not_mem_nil
    · rintro sid ⟨e, he, _⟩
      exact absurd he List.not_mem_nil
    · exact absurd h (by simp)
  have henv : (revocation cfg : Contract ι Op Op.Ans State Exc (Known ι)).AllowsEnv
      cfg.machine := by
    intro w x elapsed hi
    exact ⟨x, hi.sync rfl rfl, fun _ => ⟨rfl, fun _ h => h, [], by simp, by simp⟩⟩
  exact Contract.Triple.run (fun _ => NotCalled.stable) (fun _ _ => Outcome.stable)
    (fun _ _ => .const True) henv
    (fun i => (program_triple hdb (calls i)).pre fun _ _ h => h.1) hstart
    (fun _ => ⟨rfl, fun e he => absurd he List.not_mem_nil⟩) has

/-- **A deleted session stays deleted**, in every run whose refreshes find their session in
the store: however the run goes on, the store does not hold it, and no `auth_session` that
is called later accepts it. -/
theorem deleted_stays_deleted (cfg : Settings) (hdb : cfg.backend = .database)
    (calls : ι → LoginCall) (s₀ : State)
    (hfresh : ∀ session ∈ s₀.sessions, Drawn cfg s₀ session.session_id)
    (as bs : List (Act ι Time))
    (has : Config.Along cfg.machine (fun i => (calls i).program cfg)
      (Config.AtOps fun _ op w => RefreshesStored op w.state) (.start s₀) (as ++ bs))
    (sid : String)
    (hrevoked : Revoked calls sid
      (Config.run cfg.machine (fun i => (calls i).program cfg) (.start s₀) as)) :
    (∀ session ∈ (Config.run cfg.machine (fun i => (calls i).program cfg)
        (.start s₀) (as ++ bs)).state.sessions, session.session_id ≠ sid) ∧
      ∀ i, calls i = .auth_session sid →
        (Config.run cfg.machine (fun i => (calls i).program cfg) (.start s₀) as).thread i = .idle →
          ((Config.run cfg.machine (fun i => (calls i).program cfg)
            (.start s₀) (as ++ bs)).thread i).returned = false := by
  obtain ⟨x, -, hthreads⟩ := run_dead cfg hdb calls s₀ hfresh (Config.along_append.mp has).1
  obtain ⟨y, hi, hthreads'⟩ := run_dead cfg hdb calls s₀ hfresh has
  have hdeleted : Deleted (Config.run cfg.machine (fun i => (calls i).program cfg)
      (.start s₀) as).world.hist sid := by
    rcases hrevoked with h | ⟨i, hcall, hret⟩
    · exact h
    · obtain ⟨_, h⟩ := (hthreads i).of_returned hret
      rwa [hcall] at h
  have hext : ∃ es, (Config.run cfg.machine (fun i => (calls i).program cfg)
      (.start s₀) (as ++ bs)).world.hist =
        (Config.run cfg.machine (fun i => (calls i).program cfg) (.start s₀) as).world.hist ++ es := by
    rw [Config.run_append]
    exact Config.hist_run _ _
  obtain ⟨es, hes⟩ := hext
  refine ⟨hi.gone sid (hes ▸ hdeleted.append es), fun i hcall hidle => ?_⟩
  by_contra hret
  rw [Bool.not_eq_false] at hret
  obtain ⟨_, hfound⟩ := (hthreads' i).of_returned hret
  rw [hcall] at hfound
  obtain ⟨e, he, hwho, session, hmem, hid⟩ := hfound
  -- the look-up came after the deletion, and the session was gone by then
  have hnone := hthreads i
  rw [hidle] at hnone
  replace he : e ∈ _ ++ es := hes ▸ he
  rcases List.mem_append.mp he with he | he
  · exact hnone.2 e he hwho
  · obtain ⟨l, l', rfl⟩ := List.append_of_mem he
    rw [← List.append_assoc] at hes
    exact hi.since _ e l' hes sid (hdeleted.append l) session hmem hid

end Contract

/-! ## A logout during a login -/

section Example

/-- Two logins of alice, a logout and an authentication. -/
def twoLogins : Nat → LoginCall
  | 0 => .login "alice" "Seagate@1"
  | 1 => .login "alice" "Seagate@1"
  | 2 => .logout "f"
  | _ => .auth_session "f"

def onlyAlice : State := .fresh ⟨[sampleUser "alice" CSM_MONITOR_ROLE], by decide⟩

def unlimited : Settings := sampleSettings .database 0 0 .blank

/-- The second login lists the session of the first, and is about to refresh it when the
session is logged out. -/
def duringLogin : List (Act Nat Time) :=
  List.replicate 7 (.run 0) ++ List.replicate 5 (.run 1) ++ List.replicate 5 (.run 2)

/-- The second login goes on, and then the session is presented. -/
def afterLogout : List (Act Nat Time) := List.replicate 2 (.run 1) ++ List.replicate 3 (.run 3)

/-- The logout has returned; later the session is stored and accepted. -/
theorem session_returns :
    Revoked twoLogins "f" (Config.run unlimited.machine
        (fun i => (twoLogins i).program unlimited) (.start onlyAlice) duringLogin) ∧
      (∃ session ∈ (Config.run unlimited.machine (fun i => (twoLogins i).program unlimited)
        (.start onlyAlice) (duringLogin ++ afterLogout)).state.sessions,
          session.session_id = "f") ∧
      (Config.run unlimited.machine (fun i => (twoLogins i).program unlimited)
        (.start onlyAlice) duringLogin).thread 3 = .idle ∧
      ((Config.run unlimited.machine (fun i => (twoLogins i).program unlimited)
        (.start onlyAlice) (duringLogin ++ afterLogout)).thread 3).returned = true := by
  refine ⟨Or.inr ⟨2, rfl, ?_⟩, ?_, Config.thread_of_not_run (by decide), ?_⟩
  · decide +kernel
  · decide +kernel
  · decide +kernel

instance : (op : Op) → (s : State) → Decidable (RefreshesStored op s)
  | .session_store .update session, s =>
      inferInstanceAs (Decidable (∃ x ∈ s.sessions, x.session_id = session.session_id))
  | .session_store .create _, _ | .session_store ._restore_active_users _, _
  | .session_store ._remove_expired_sessions _, _
  | .session_store ._is_valid_session_exists _, _
  | .session_store .delete_all_sessions_for_user _, _
  | .lock_acquire, _ | .user_get _ _, _ | .user_count, _ | .user_count_admins, _
  | .user_store _, _ | .user_delete _, _ | .session_get _, _ | .session_get_all _, _
  | .session_delete _, _ => isTrue trivial

def beforeLogout : List (Act Nat Time) :=
  List.replicate 7 (.run 0) ++ List.replicate 7 (.run 1) ++ List.replicate 5 (.run 2)

/-- The second login comes to its end, the session is logged out, and then presented. -/
theorem deleted_stays_deleted_alice :
    ((Config.run unlimited.machine (fun i => (twoLogins i).program unlimited) (.start onlyAlice)
      (beforeLogout ++ List.replicate 3 (.run 3))).thread 3).returned = false := by
  refine (deleted_stays_deleted unlimited rfl twoLogins onlyAlice ?_ beforeLogout
    (List.replicate 3 (.run 3)) ?_ "f" ?_).2 3 rfl ?_
  · exact fun session h => absurd h (Table.not_mem_empty session)
  · decide +kernel
  · exact Or.inr ⟨2, rfl, by decide +kernel⟩
  · exact Config.thread_of_not_run (by decide)

end Example

end CortxCsm.SessionRevocation
