/-
# `CortxCsm.UserDeletion` — does a deleted user keep a session?

`CsmUsersView.delete` removes the user first, then lists the sessions and deletes those
of the user, one by one.  A `login` has read the user long before it stores a session.
It can store one after the sessions have been listed (`session_left`); and a `DELETE` whose
session has meanwhile gone raises, with the rest of its list still to delete.

Between its two halves a request is *removing*: sessions without a user are its to delete.
The invariant says that every stored session has its user or is somebody's to delete.

**Proved here.**

    the operations keep every session accounted for        (`Covered.user_delete`, …)
    a request deletes what it has to                       (`delete_triple`)
    under the condition no user's session outlives it      (`no_session_left`)
    without it one can                                     (`session_left`)
-/
import CortxCsm.SessionSteps

namespace CortxCsm.UserDeletion

open SessionManager QuotaSessionManager LoginService CsmUserService

/-- The user is in the user store. -/
def HasUser (s : State) (user_id : String) : Prop := ∃ user ∈ s.users, user.user_id = user_id

instance (s : State) (user_id : String) : Decidable (HasUser s user_id) :=
  inferInstanceAs (Decidable (∃ user ∈ s.users, user.user_id = user_id))

/-- Every stored session belongs to a user in the user store. -/
def SessionsOwned (s : State) : Prop :=
  ∀ session ∈ s.sessions, HasUser s session.credentials.user_id

instance (s : State) : Decidable (SessionsOwned s) :=
  inferInstanceAs (Decidable (∀ session ∈ s.sessions, HasUser s session.credentials.user_id))

/-! ## The condition on a run -/

/-- The user whose record an operation deletes. -/
def deletesUser : Op → Option String
  | .user_delete user_id => some user_id
  | _ => none

/-- The operation lists the sessions. -/
def lists : Op → Bool
  | .session_get_all _ => true
  | _ => false

section Condition

variable {ι : Type} [Runtime]

/-- Some request has deleted a user of this name, and has not listed the sessions yet. -/
def ToBeListed (hist : List (Event ι Op Op.Ans State Exc)) (user_id : String) : Prop :=
  ∃ e ∈ hist, (∃ name ∈ deletesUser e.op, lower name = lower user_id) ∧
    ∀ e' ∈ hist, e'.who = e.who → lists e'.op = false

/-- What a run is asked at an operation: who stores a session finds its user in the user
store, or has it listed by a deletion to come; and a `DELETE` finds the sessions it deletes. -/
def InOrder (cfg : Settings) (calls : ι → AccountCall) (i : ι) (op : Op)
    (w : World ι Op Op.Ans State Exc) : Prop :=
  match op with
  | .session_store _ session =>
      HasUser w.state session.credentials.user_id ∨
        ToBeListed w.hist session.credentials.user_id
  | .session_get session_id =>
      (calls i).isDelete = true →
        ∃ session ∈ w.state.sessions, session.session_id = session_id
  | .session_delete session_id =>
      (calls i).isDelete = true →
        (cfg.backend.delete w.state.sessions session_id).1 = .ok ()
  | _ => True

end Condition

/-! ## Who is to delete what -/

/-- What a request still has to delete: the sessions of a name that it has not listed yet,
or the rest of its list. -/
inductive Duty
  | listing (name : String)
  | removing (session_ids : List String)

def Duty.Covers [Runtime] : Duty → Session → Prop
  | .listing name, session => lower session.credentials.user_id = name
  | .removing session_ids, session => session.session_id ∈ session_ids

theorem Duty.Covers.congr [Runtime] {d : Duty} {y session : Session} (h : d.Covers y)
    (hid : y.session_id = session.session_id) (hcred : y.credentials = session.credentials) :
    d.Covers session := by
  cases d with
  | listing name =>
      show lower session.credentials.user_id = name
      rw [← hcred]
      exact h
  | removing session_ids =>
      show session.session_id ∈ session_ids
      rw [← hid]
      exact h

section Contract

variable {ι : Type} [Runtime] {cfg : Settings} {calls : ι → AccountCall}

structure Covered (w : World ι Op Op.Ans State Exc) (x : ι → Duty) : Prop where
  covered : ∀ session ∈ w.state.sessions,
    HasUser w.state session.credentials.user_id ∨ ∃ i, (x i).Covers session
  listing : ∀ e ∈ w.hist, ∀ name ∈ deletesUser e.op,
    (∃ e' ∈ w.hist, e'.who = e.who ∧ lists e'.op = true) ∨ x e.who = .listing (lower name)

namespace Covered

variable {w : World ι Op Op.Ans State Exc} {x : ι → Duty} {i : ι} {op : Op}
  {r : Except Exc op.Ans} {s' : State}

/-- An operation that deletes no user and changes no duty. -/
theorem answer (h : Covered w x) (hop : deletesUser op = none)
    (hs : ∀ session ∈ s'.sessions,
      HasUser s' session.credentials.user_id ∨ ∃ i, (x i).Covers session) :
    Covered (w.answer i op r s') x := by
  refine ⟨hs, fun e he name hname => ?_⟩
  rcases List.mem_append.mp he with he | he
  · rcases h.listing e he name hname with ⟨e', he', hl⟩ | hl
    · exact Or.inl ⟨e', List.mem_append_left _ he', hl⟩
    · exact Or.inr hl
  · rw [List.mem_singleton.mp he, hop] at hname
    exact absurd hname (Option.not_mem_none name)

/-- Code or an operation that adds no session and takes no user. -/
theorem shrink (h : Covered w x) (hu : s'.users = w.state.users)
    (hs : ∀ session ∈ s'.sessions, session ∈ w.state.sessions) :
    ∀ session ∈ s'.sessions,
      HasUser s' session.credentials.user_id ∨ ∃ i, (x i).Covers session := by
  intro session hm
  refine (h.covered session (hs session hm)).imp_left fun hu' => ?_
  unfold HasUser
  rwa [hu]

/-- The user is deleted, and its sessions are `i`'s to list. -/
theorem user_delete [DecidableEq ι] (h : Covered w x) {user_id : String} (hi : x i = .removing [])
    (hop : deletesUser op = some user_id) :
    Covered (w.answer i op r { w.state with users := w.state.users.remove user_id })
      (Function.update x i (.listing (lower user_id))) := by
  refine ⟨fun session hm => ?_, fun e he name hname => ?_⟩
  · rcases h.covered session hm with ⟨user, hu, hid⟩ | ⟨j, hj⟩
    · by_cases hdel : user.user_id = user_id
      · refine Or.inr ⟨i, ?_⟩
        rw [Function.update_self]
        show lower session.credentials.user_id = lower user_id
        rw [← hid, hdel]
      · exact Or.inl ⟨user, Table.mem_remove.mpr ⟨hu, hdel⟩, hid⟩
    · refine Or.inr ⟨j, ?_⟩
      have hji : j ≠ i := by
        rintro rfl
        rw [hi] at hj
        exact absurd hj List.not_mem_nil
      rwa [Function.update_of_ne hji]
  · rcases List.mem_append.mp he with he | he
    · rcases h.listing e he name hname with ⟨e', he', hl⟩ | hl
      · exact Or.inl ⟨e', List.mem_append_left _ he', hl⟩
      · have hei : e.who ≠ i := by
          rintro hei
          rw [hei, hi] at hl
          cases hl
        exact Or.inr ((Function.update_of_ne hei _ _).trans hl)
    · rw [List.mem_singleton.mp he] at hname ⊢
      cases hop.symm.trans hname
      exact Or.inr (Function.update_self i _ _)

/-- The ids of the sessions of a name. -/
def idsOf (name : String) (sessions : List Session) : List String :=
  (sessions.filter fun session => lower session.credentials.user_id = name).map Session.session_id

/-- The sessions are listed, and those of the name are `i`'s to delete. -/
theorem list [DecidableEq ι] (h : Covered w x) {name : String} (hi : x i = .listing name)
    (hlists : lists op = true) (hop : deletesUser op = none) :
    Covered (w.answer i op r w.state)
      (Function.update x i (.removing (idsOf name w.state.sessions.rows))) := by
  refine ⟨fun session hm => ?_, fun e he name' hname => ?_⟩
  · refine (h.covered session hm).imp_right fun ⟨j, hj⟩ => ?_
    by_cases hji : j = i
    · subst hji
      refine ⟨j, ?_⟩
      rw [Function.update_self]
      rw [hi] at hj
      exact List.mem_map.mpr ⟨session, List.mem_filter.mpr ⟨hm, decide_eq_true hj⟩, rfl⟩
    · exact ⟨j, by rwa [Function.update_of_ne hji]⟩
  · rcases List.mem_append.mp he with he | he
    · rcases h.listing e he name' hname with ⟨e', he', hl⟩ | hl
      · exact Or.inl ⟨e', List.mem_append_left _ he', hl⟩
      · by_cases hei : e.who = i
        · exact Or.inl ⟨_, List.mem_append_right _ (List.mem_singleton_self _), hei.symm, hlists⟩
        · exact Or.inr ((Function.update_of_ne hei _ _).trans hl)
    · rw [List.mem_singleton.mp he, hop] at hname
      exact absurd hname (Option.not_mem_none name')

/-- The first session of `i`'s list is deleted. -/
theorem session_delete [DecidableEq ι] (h : Covered w x) {sid : String} {sids : List String}
    (hi : x i = .removing (sid :: sids)) (hop : deletesUser op = none) :
    Covered (w.answer i op r { w.state with sessions := w.state.sessions.remove sid })
      (Function.update x i (.removing sids)) := by
  have hkeep : Covered (w.answer i op r { w.state with sessions := w.state.sessions.remove sid }) x :=
    h.answer hop (h.shrink rfl fun _ hm => (Table.mem_remove.mp hm).1)
  refine ⟨fun session hm => ?_, fun e he name hname => ?_⟩
  · refine (hkeep.covered session hm).imp_right fun ⟨j, hj⟩ => ⟨j, ?_⟩
    by_cases hji : j = i
    · subst hji
      rw [Function.update_self]
      rw [hi] at hj
      exact (List.mem_cons.mp hj).resolve_left (Table.mem_remove.mp hm).2
    · rwa [Function.update_of_ne hji]
  · refine (hkeep.listing e he name hname).imp_right fun hl => ?_
    have hei : e.who ≠ i := by
      rintro hei
      rw [hei, hi] at hl
      cases hl
    exact (Function.update_of_ne hei _ _).trans hl

/-- A session is stored whose user is in the user store, or is to be listed. -/
theorem session_store (h : Covered w x) {session : Session} (hop : deletesUser op = none)
    (hs : HasUser w.state session.credentials.user_id ∨
      ToBeListed w.hist session.credentials.user_id) :
    Covered (w.answer i op r { w.state with sessions := w.state.sessions.upsert session }) x := by
  refine h.answer hop fun y hy => ?_
  rcases Table.mem_upsert.mp hy with rfl | ⟨hy, _⟩
  · refine hs.imp_right fun ⟨e, he, ⟨name, hname, hlower⟩, hnone⟩ => ?_
    rcases h.listing e he name hname with ⟨e', he', hwho, hl⟩ | hl
    · exact nomatch (hnone e' he' hwho).symm.trans hl
    · refine ⟨e.who, ?_⟩
      rw [hl]
      exact hlower.symm
  · exact h.covered y hy

end Covered

/-! ## The contract -/

variable (cfg calls) in
/-- Nobody touches another request's duty. -/
def deletion : Contract ι Op Op.Ans State Exc (ι → Duty) where
  inv := Covered
  rely i a b := b.2 i = a.2 i
  may := InOrder cfg calls
  refl _ _ := rfl
  trans _ _ _ _ h h' := h'.trans h

variable {i : ι}

/-- `i`'s duty. -/
def Owes (i : ι) (d : Duty) (a : World ι Op Op.Ans State Exc × (ι → Duty)) : Prop := a.2 i = d

/-- Nothing to delete. -/
abbrev Clear (i : ι) : World ι Op Op.Ans State Exc × (ι → Duty) → Prop := Owes i (.removing [])

theorem Owes.stable {d : Duty} : (deletion cfg calls).Stable i (Owes i d) :=
  fun _ _ h hr => hr.trans h

/-- An operation that adds no session and takes no user, with what its answer shows. -/
theorem keep_triple {op : Op} {d : Duty} {V : op.Ans → Prop} (hop : deletesUser op = none)
    (hexec : ∀ s r s', exec cfg.backend op s = some (r, s') → s'.users = s.users ∧
      (∀ session ∈ s'.sessions, session ∈ s.sessions) ∧ ∀ v, r = .ok v → V v) :
    (deletion cfg calls).Triple cfg.machine i (Owes i d) (Coro.call op)
      (fun v a => Owes i d a ∧ V v) fun _ => Owes i d := by
  refine .call Owes.stable (fun v => Owes.stable.and (.const _)) (fun _ => Owes.stable) ?_
  intro w x r s' hi hp _ he
  obtain ⟨hu, hs, hv⟩ := hexec _ r s' he
  refine ⟨x, hi.answer hop (hi.shrink hu hs), fun _ _ => rfl, ?_⟩
  cases r with
  | ok v => exact ⟨hp, hv v rfl⟩
  | error e => exact hp

/-- Code that adds no session and takes no user. -/
theorem sync_triple {u : State → State} {d : Duty}
    {E : Exc → World ι Op Op.Ans State Exc × (ι → Duty) → Prop}
    (hu : ∀ s, (u s).users = s.users ∧ ∀ session ∈ (u s).sessions, ∃ y ∈ s.sessions,
      y.session_id = session.session_id ∧ y.credentials = session.credentials) :
    (deletion cfg calls).Triple cfg.machine i (Owes i d) (Coro.write u) (fun _ => Owes i d) E := by
  refine .write fun w x hi hp => ⟨x, ⟨fun session hm => ?_, hi.listing⟩, fun _ _ => rfl, hp⟩
  obtain ⟨hsame, hfrom⟩ := hu w.state
  obtain ⟨y, hy, hid, hcred⟩ := hfrom session hm
  rcases hi.covered y hy with h | ⟨j, hj⟩
  · refine Or.inl ?_
    unfold HasUser
    rw [hsame, ← hcred]
    exact h
  · exact Or.inr ⟨j, hj.congr hid hcred⟩

theorem get_user_triple {d : Duty} {purpose : Purpose} {user_id : String} :
    (deletion cfg calls).Triple cfg.machine i (Owes i d) (UserManager.get purpose user_id)
      (fun user a => Owes i d a ∧ ∀ u ∈ user, lower u.user_id = lower user_id)
      fun _ => Owes i d := by
  refine (keep_triple (V := fun _ => True) rfl ?_).bind fun users => .ret fun _ _ h =>
    ⟨h.1, fun u hu => (UserManager.search_some hu).2⟩
  intro s r s' he
  cases he
  exact ⟨rfl, fun _ h => h, fun _ _ => trivial⟩

theorem store_triple {caller : Caller} {session : Session} {d : Duty} :
    (deletion cfg calls).Triple cfg.machine i (Owes i d)
      (Coro.call (Op.session_store caller session)) (fun _ => Owes i d) fun _ => Owes i d := by
  refine .call Owes.stable (fun _ => Owes.stable) (fun _ => Owes.stable) ?_
  intro w x r s' hi hp hm he
  simp only [Settings.machine, exec, Backend.store_eq, Option.some.injEq, Prod.mk.injEq] at he
  obtain ⟨rfl, rfl⟩ := he
  exact ⟨x, hi.session_store rfl hm, fun _ _ => rfl, hp⟩

/-! ## `delete_user` and the removal of the sessions -/

variable [DecidableEq ι]

theorem user_delete_triple {user_id : String} :
    (deletion cfg calls).Triple cfg.machine i (Clear i) (UserManager.delete user_id)
      (fun _ => Owes i (.listing (lower user_id))) fun _ => Clear i := by
  refine .call Owes.stable (fun _ => Owes.stable) (fun _ => Owes.stable) ?_
  intro w x r s' hi hp _ he
  cases he
  exact ⟨_, hi.user_delete hp rfl, fun j hj => Function.update_of_ne hj _ _,
    Function.update_self i _ _⟩

theorem delete_user_triple {user_id loggedin_user_id : String} :
    (deletion cfg calls).Triple cfg.machine i (Clear i) (delete_user user_id loggedin_user_id)
      (fun _ => Owes i (.listing (lower user_id))) fun _ => Clear i := by
  refine get_user_triple.bind fun user => ?_
  cases user with
  | none => exact .raise fun _ _ h => h.1
  | some user =>
      refine .of_fact (fun _ _ h => h.2 user rfl) fun hname => ?_
      refine .pre (P := Clear i) ?_ fun _ _ h => h.1
      refine Contract.Triple.bind (S := fun _ => Clear i) ?_ fun _ => get_user_triple.bind ?_
      · unfold checkLastAdmin
        split
        · refine (keep_triple (V := fun _ => True) rfl ?_).bind fun num_admins =>
            .raiseIf (fun _ _ _ h => h.1) fun _ _ _ h => h.1
          intro s r s' he
          cases he
          exact ⟨rfl, fun _ h => h, fun _ _ => trivial⟩
        · exact .ret fun _ _ h => h
      · intro loggedin_user
        cases loggedin_user with
        | none => exact .raise fun _ _ h => h.1
        | some loggedin_user =>
            refine .guard (fun _ _ _ h => h.1) fun _ => ?_
            refine (user_delete_triple.pre fun _ _ h => h.1).bind fun _ => ?_
            exact .ret fun _ _ h => hname ▸ h

theorem list_triple {name : String} {caller : Caller} :
    (deletion cfg calls).Triple cfg.machine i (Owes i (.listing name)) (get_all caller)
      (fun sessions => Owes i (.removing (Covered.idsOf name sessions))) fun _ => Clear i := by
  refine .call Owes.stable (fun _ => Owes.stable) (fun _ => Owes.stable) ?_
  intro w x r s' hi hp _ he
  cases he
  exact ⟨_, hi.list hp rfl rfl, fun j hj => Function.update_of_ne hj _ _,
    Function.update_self i _ _⟩

/-- A `DELETE` finds the session it deletes, and so does not raise. -/
theorem delete_triple (hcall : (calls i).isDelete = true) {sid : String} {sids : List String} :
    (deletion cfg calls).Triple cfg.machine i (Owes i (.removing (sid :: sids)))
      (QuotaSessionManager.delete sid) (fun _ => Owes i (.removing sids)) fun _ => Clear i := by
  refine Contract.Triple.bind (S := fun session a =>
    Owes i (.removing (sid :: sids)) a ∧ session.isSome) ?_ fun session => ?_
  · refine .call Owes.stable (fun _ => Owes.stable.and (.const _)) (fun _ => Owes.stable) ?_
    intro w x r s' hi hp hm he
    cases he
    refine ⟨x, hi.answer rfl hi.covered, fun _ _ => rfl, hp, ?_⟩
    obtain ⟨session, hmem, hid⟩ := hm hcall
    rw [Table.find?_eq_some.mpr ⟨hmem, hid⟩, Option.isSome_some]
  cases session with
  | none => exact .of_fact (fun _ _ h => h.2) fun h => nomatch h
  | some session =>
      refine Contract.Triple.bind (S := fun _ => Owes i (.removing sids)) ?_ fun _ =>
        sync_triple fun s => ⟨rfl, fun y hy => ⟨y, hy, rfl, rfl⟩⟩
      refine .pre (P := Owes i (.removing (sid :: sids))) ?_ fun _ _ h => h.1
      refine .call Owes.stable (fun _ => Owes.stable) (fun _ => Owes.stable) ?_
      intro w x r s' hi hp hm he
      simp only [Settings.machine, exec, Backend.delete_ok (hm hcall), Option.some.injEq,
        Prod.mk.injEq] at he
      obtain ⟨rfl, rfl⟩ := he
      exact ⟨_, hi.session_delete hp rfl, fun j hj => Function.update_of_ne hj _ _,
        Function.update_self i _ _⟩

theorem delete_all_sessions_for_user_triple (hcall : (calls i).isDelete = true)
    {user_id : String} :
    (deletion cfg calls).Triple cfg.machine i (Owes i (.listing (lower user_id)))
      (delete_all_sessions_for_user user_id) (fun _ => Clear i) fun _ => Clear i := by
  refine list_triple.bind fun sessions => .forM
    (J := fun rest => Owes i (.removing (Covered.idsOf (lower user_id) rest)))
    (fun session rest => ?_) sessions
  unfold deleteIfOwned
  split
  · rename_i howned
    have hids : Covered.idsOf (lower user_id) (session :: rest) =
        session.session_id :: Covered.idsOf (lower user_id) rest := by
      simp [Covered.idsOf, howned]
    rw [hids]
    exact delete_triple hcall
  · rename_i hother
    have hids : Covered.idsOf (lower user_id) (session :: rest) =
        Covered.idsOf (lower user_id) rest := by
      simp [Covered.idsOf, hother]
    rw [hids]
    exact .ret fun _ _ h => h

/-! ## `login` -/

omit [DecidableEq ι] in
/-- A `login` has nothing to delete at any of its steps. -/
theorem loginSteps : LoginSteps cfg (deletion cfg calls) i (fun _ => True) (fun _ => True)
    (fun _ => Clear i) (Clear i) fun _ => Clear i where
  raised _ _ _ h := h
  tally u hu := sync_triple fun s => by
    obtain ⟨active, restored, e⟩ := hu s
    rw [e]
    exact ⟨rfl, fun y hy => ⟨y, hy, rfl, rfl⟩⟩
  get purpose user_id :=
    get_user_triple.weaken (fun _ _ _ h => ⟨h.1, fun _ _ => trivial⟩) fun _ _ _ h => h
  get_all caller := by
    refine (keep_triple (V := fun _ => True) rfl ?_).weaken
      (fun _ _ _ h => ⟨h.1, fun _ _ => trivial⟩) fun _ _ _ h => h
    intro s r s' he
    cases he
    exact ⟨rfl, fun _ h => h, fun _ _ => trivial⟩
  delete session_id := by
    refine Contract.Triple.bind (S := fun _ => Clear i) ?_ fun session => ?_
    · refine (keep_triple (V := fun _ => True) rfl ?_).weaken (fun _ _ _ h => h.1)
        fun _ _ _ h => h
      intro s r s' he
      cases he
      exact ⟨rfl, fun _ h => h, fun _ _ => trivial⟩
    cases session with
    | none => exact .raise fun _ _ h => h
    | some session =>
        refine Contract.Triple.bind (S := fun _ => Clear i) ?_ fun _ =>
          sync_triple fun s => ⟨rfl, fun y hy => ⟨y, hy, rfl, rfl⟩⟩
        refine (keep_triple (V := fun _ => True) rfl ?_).weaken (fun _ _ _ h => h.1)
          fun _ _ _ h => h
        intro s r s' he
        cases he
        exact ⟨rfl, fun _ h => Backend.mem_of_mem_delete h, fun _ _ => trivial⟩
  create _ _ := by
    refine Contract.Triple.bind (S := fun _ => Clear i) ?_ fun session_id =>
      read_then fun expiry_time =>
        store_triple.bind fun _ => .ret fun _ _ h => h
    refine .sync fun w x hi hp => ⟨x, ?_, fun _ _ => rfl, hp⟩
    exact ⟨hi.covered, hi.listing⟩
  refresh session _ := by
    refine read_then fun expiry_time => ?_
    refine Contract.Triple.bind (S := fun _ => Clear i) ?_ fun _ =>
      store_triple.bind fun _ => .ret fun _ _ h => h
    exact sync_triple fun s => expiryAssigned_keeps _ _ _ s

/-! ## Runs -/

theorem program_triple (call : AccountCall) (hcall : calls i = call) :
    (deletion cfg calls).Triple cfg.machine i (Clear i) (call.program cfg) (fun _ => Clear i)
      fun _ => Clear i := by
  cases call with
  | login =>
      exact .map ((loginSteps.login _ _).weaken
        (fun _ _ _ h => Returned.kept (L := fun _ => Clear i) (fun _ _ h => h) h)
        fun _ _ _ h => h)
  | delete =>
      refine .map ?_
      refine delete_user_triple.bind fun resp => ?_
      refine (delete_all_sessions_for_user_triple ?_).bind fun _ => .ret fun _ _ h => h
      rw [hcall]
      rfl

/-- **No session is left behind** by a deleted user, whenever no request is in flight, in
every run in which sessions are stored for users that are there, or are to be listed by a
deletion, and a `DELETE` finds the sessions it deletes. -/
theorem no_session_left (cfg : Settings) (calls : ι → AccountCall) (s₀ : State)
    (howned : SessionsOwned s₀) (as : List (Act ι Time))
    (has : Config.Along cfg.machine (fun i => (calls i).program cfg)
      (Config.AtOps (InOrder cfg calls)) (.start s₀) as)
    (hquiet : (Config.run cfg.machine (fun i => (calls i).program cfg) (.start s₀) as).Quiet) :
    SessionsOwned (Config.run cfg.machine (fun i => (calls i).program cfg) (.start s₀) as).state := by
  have hstart : Covered (⟨s₀, []⟩ : World ι Op Op.Ans State Exc) fun _ => .removing [] :=
    ⟨fun session hm => Or.inl (howned session hm), fun e he => absurd he List.not_mem_nil⟩
  have henv : (deletion cfg calls).AllowsEnv cfg.machine :=
    fun w x elapsed hi => ⟨x, ⟨hi.covered, hi.listing⟩, fun _ => rfl⟩
  obtain ⟨x, hi, hthreads⟩ := Contract.Triple.run (fun _ => Owes.stable) (fun _ _ => Owes.stable)
    (fun _ _ => Owes.stable) henv (fun i => program_triple (calls i) rfl) hstart (fun _ => rfl) has
  intro session hm
  refine (hi.covered session hm).resolve_right fun ⟨i, hcovers⟩ => ?_
  have hnone : x i = .removing [] := (hthreads i).of_quiet (hquiet i)
  rw [hnone] at hcovers
  exact absurd hcovers List.not_mem_nil

end Contract

/-! ## A login during a deletion -/

section Example

/-- Alice logs in, and the administrator deletes alice. -/
def loginAndDelete : Bool → AccountCall
  | true => .login "alice" "Seagate@1"
  | false => .delete "alice" "root"

def rootAndAlice : State :=
  .fresh ⟨[sampleUser "root" CSM_SUPER_USER_ROLE, sampleUser "alice" CSM_MONITOR_ROLE], by decide⟩

def unlimited : Settings := sampleSettings .database 0 0 .blank

/-- The login is about to store its session when the deletion runs from start to end. -/
def duringLogin : List (Act Bool Time) :=
  List.replicate 5 (.run true) ++ List.replicate 9 (.run false) ++ List.replicate 2 (.run true)

/-- Alice is gone, and her session is there. -/
theorem session_left :
    SessionsOwned rootAndAlice ∧
      (Config.run unlimited.machine (fun i => (loginAndDelete i).program unlimited)
        (.start rootAndAlice) duringLogin).Quiet ∧
      ¬ SessionsOwned (Config.run unlimited.machine (fun i => (loginAndDelete i).program unlimited)
        (.start rootAndAlice) duringLogin).state := by
  decide +kernel

instance (hist : List (Event Bool Op Op.Ans State Exc)) (user_id : String) :
    Decidable (ToBeListed hist user_id) :=
  inferInstanceAs (Decidable (∃ e ∈ hist,
    (∃ name ∈ deletesUser e.op, lower name = lower user_id) ∧
      ∀ e' ∈ hist, e'.who = e.who → lists e'.op = false))

instance (i : Bool) : (op : Op) → (w : World Bool Op Op.Ans State Exc) →
    Decidable (InOrder unlimited loginAndDelete i op w)
  | .session_store _ session, w =>
      inferInstanceAs (Decidable (HasUser w.state session.credentials.user_id ∨
        ToBeListed w.hist session.credentials.user_id))
  | .session_get session_id, w =>
      inferInstanceAs (Decidable ((loginAndDelete i).isDelete = true →
        ∃ session ∈ w.state.sessions, session.session_id = session_id))
  | .session_delete _, _ => isTrue fun _ => rfl
  | .lock_acquire, _ | .user_get _ _, _ | .user_count, _ | .user_count_admins, _
  | .user_store _, _ | .user_delete _, _ | .session_get_all _, _ => isTrue trivial

def loginFirst : List (Act Bool Time) :=
  List.replicate 7 (.run true) ++ List.replicate 13 (.run false)

/-- The login's session is deleted with alice. -/
theorem no_session_left_alice :
    SessionsOwned (Config.run unlimited.machine (fun i => (loginAndDelete i).program unlimited)
      (.start rootAndAlice) loginFirst).state := by
  refine no_session_left unlimited loginAndDelete rootAndAlice ?_ loginFirst ?_ ?_
  · decide +kernel
  · decide +kernel
  · decide +kernel

end Example

end CortxCsm.UserDeletion
