/-
# `CortxCsm.SingleSession` — do concurrent logins of a user share one session?

`login` lists the sessions, finds none of the user's, and stores a new one some awaits
later, with no lock.  Two logins that have both listed by then both store one
(`two_sessions`).

What a run is asked is that a login that stores a new session finds none of the user's
stored, and that none of the user's is deleted; a login deletes a session only when the
copy of it that was listed has expired, be it that another login has refreshed it since.
Then the first session stored is the user's only one, and every later login finds it.

The ghost value is its id, once it is there.

**Proved here.**

    refreshes and other users' sessions keep the one session   (`One.upsert`, `One.remove`)
    each method meets its contract                             (`login_triple`)
    all logins return the one session                          (`single_session`)
    two logins at once store two                               (`two_sessions`)
-/
import CortxCsm.SessionSteps

namespace CortxCsm.SingleSession

open SessionManager QuotaSessionManager LoginService

section Runtime

variable [Runtime]

/-- The sessions of the user: none, or the one with the id. -/
structure One (user_id : String) (sessions : SessionStore) (x : Option String) : Prop where
  only : ∀ session ∈ sessions, IsOf user_id session ↔ x = some session.session_id
  stored : ∀ sid ∈ x, ∃ session ∈ sessions, session.session_id = sid

namespace One

variable {user_id : String} {sessions : SessionStore} {x : Option String}

/-- A session of the user is stored under the id. -/
theorem upsert (h : One user_id sessions x) {session : Session} (hof : IsOf user_id session)
    (hx : x = none ∨ x = some session.session_id) :
    One user_id (sessions.upsert session) (some session.session_id) where
  only y hy := by
    rcases Table.mem_upsert.mp hy with rfl | ⟨hy, hne⟩
    · exact ⟨fun _ => rfl, fun _ => hof⟩
    · have hother : some session.session_id ≠ some y.session_id :=
        fun e => hne (Option.some.inj e).symm
      rw [h.only y hy]
      rcases hx with rfl | rfl
      · exact ⟨fun e => absurd e.symm (Option.some_ne_none _), fun e => absurd e hother⟩
      · exact Iff.rfl
  stored sid hsid := ⟨session, Table.self_mem_upsert _ _, Option.mem_some.mp hsid⟩

/-- A session of somebody else goes. -/
theorem remove (h : One user_id sessions x) {session_id : String}
    (hother : ∀ session ∈ sessions, session.session_id = session_id → ¬ IsOf user_id session) :
    One user_id (sessions.remove session_id) x where
  only y hy := h.only y (Table.mem_remove.mp hy).1
  stored sid hsid := by
    obtain ⟨session, hmem, hid⟩ := h.stored sid hsid
    refine ⟨session, Table.mem_remove.mpr ⟨hmem, fun e => ?_⟩, hid⟩
    refine hother session hmem e ((h.only session hmem).mpr ?_)
    rw [hid]
    exact Option.mem_def.mp hsid

/-- The same sessions, up to their expiry times. -/
theorem expiryAssigned {b : Backend} {session_id : String} {expiry_time : Time} {s : State}
    (h : One user_id s.sessions x) :
    One user_id (expiryAssigned b session_id expiry_time s).sessions x := by
  unfold CortxCsm.expiryAssigned
  split
  · rename_i found hfound
    obtain ⟨hmem, hid⟩ := Table.find?_eq_some.mp hfound
    constructor
    · intro y hy
      rcases Table.mem_upsert.mp hy with rfl | ⟨hy, -⟩
      · exact h.only found hmem
      · exact h.only y hy
    · intro sid hsid
      obtain ⟨session, hs, hsid'⟩ := h.stored sid hsid
      by_cases he : session.session_id = found.session_id
      · exact ⟨_, Table.self_mem_upsert _ _, he.symm.trans hsid'⟩
      · exact ⟨session, Table.mem_upsert.mpr (.inr ⟨hs, he⟩), hsid'⟩
  · exact h

theorem unique (h : One user_id sessions x) {session : Session} (hmem : session ∈ sessions)
    (hx : x = some session.session_id) {other : Session} (hother : other ∈ sessions)
    (hof : IsOf user_id other) : other = session := by
  have hid := (h.only other hother).mp hof
  rw [hx] at hid
  exact Table.eq_of_key hother hmem (Option.some.inj hid).symm

end One

/-! ## The contract -/

/-- What a run is asked at an operation: a new session is stored where the user has none,
and none of the user's is deleted. -/
def OneAtATime (user_id : String) (s : State) : Op → Prop
  | .session_store .create _ => ∀ session ∈ s.sessions, ¬ IsOf user_id session
  | .session_delete session_id =>
      ∀ session ∈ s.sessions, session.session_id = session_id → ¬ IsOf user_id session
  | _ => True

variable {ι : Type} (user_id : String)

def single : Contract ι Op Op.Ans State Exc (Option String) where
  inv w x := One user_id w.state.sessions x
  rely _ a b := ∀ sid, a.2 = some sid → b.2 = some sid
  may _ op w := OneAtATime user_id w.state op
  refl _ _ _ h := h
  trans _ _ _ _ h h' sid hsid := h' sid (h sid hsid)

abbrev Bound (ι : Type) := World ι Op Op.Ans State Exc × Option String

/-- The session is the user's. -/
def Theirs (session : Session) (a : Bound ι) : Prop := a.2 = some session.session_id

/-- Of the sessions listed, those of the user are the one. -/
def Listed (sessions : List Session) (a : Bound ι) : Prop :=
  ∀ session ∈ sessions, IsOf user_id session → Theirs session a

variable {user_id} {cfg : Settings} {i : ι}

theorem Theirs.stable {session : Session} : (single user_id).Stable i (Theirs session) :=
  fun _ _ h hr => hr _ h

theorem Listed.stable {sessions : List Session} :
    (single user_id).Stable i (Listed user_id sessions) :=
  fun _ _ h hr session hs hof => hr _ (h session hs hof)

/-- Whoever leaves the ghost value owes nothing. -/
theorem guar_same {w w' : World ι Op Op.Ans State Exc} {x : Option String} :
    (single user_id).guar i (w, x) (w', x) := fun _ _ _ h => h

/-! ## Operations -/

/-- An operation that leaves the one session, and what it answers. -/
theorem op_triple {op : Op} {P : Bound ι → Prop} {R : op.Ans → Bound ι → Prop}
    (hP : (single user_id).Stable i P) (hR : ∀ v, (single user_id).Stable i (R v))
    (hop : ∀ (w : World ι Op Op.Ans State Exc) x r s', One user_id w.state.sessions x →
      P (w, x) → OneAtATime user_id w.state op → exec cfg.backend op w.state = some (r, s') →
        One user_id s'.sessions x ∧ ∀ v, r = .ok v → R v (w.answer i op r s', x)) :
    (single user_id).Triple cfg.machine i P (Coro.call op) R fun _ _ => True := by
  refine .call hP hR (fun _ => .const _) ?_
  intro w x r s' hinv hp hmay he
  obtain ⟨hone, hok⟩ := hop w x r s' hinv hp hmay he
  refine ⟨x, hone, guar_same, ?_⟩
  cases r with
  | ok v => exact hok v rfl
  | error e => trivial

/-- Code between two awaits that changes no session. -/
theorem sync_triple {u : State → State} {P : Bound ι → Prop}
    (hP : ∀ w x s', P (w, x) → P ({ w with state := s' }, x))
    (hu : ∀ s x, One user_id s.sessions x → One user_id (u s).sessions x) :
    (single user_id).Triple cfg.machine i P (Coro.write u) (fun _ => P) fun _ _ => True :=
  .write fun w x hinv hp => ⟨x, hu w.state x hinv, guar_same, hP w x _ hp⟩

theorem get_all_triple (caller : Caller) :
    (single user_id).Triple cfg.machine i (fun _ => True) (get_all caller)
      (fun sessions => Listed user_id sessions) fun _ _ => True := by
  refine op_triple (.const _) (fun _ => Listed.stable) ?_
  intro w x r s' hinv _ _ he
  cases he
  refine ⟨hinv, fun v hv => ?_⟩
  cases hv
  exact fun session hs hof => (hinv.only session hs).mp hof

/-! ## Methods -/

/-- A `delete`, before which `P` is known and survives. -/
theorem delete_triple {P : Bound ι → Prop} (hP : (single user_id).Stable i P)
    (hkeep : ∀ w w' x, P (w, x) → P (w', x)) (session_id : String) :
    (single user_id).Triple cfg.machine i P (delete session_id) (fun _ => P)
      fun _ _ => True := by
  refine Contract.Triple.bind (S := fun _ => P) ?_ fun session => ?_
  · refine op_triple hP (fun _ => hP) ?_
    intro w x r s' hinv hp _ he
    cases he
    exact ⟨hinv, fun _ _ => hkeep _ _ x hp⟩
  · cases session with
    | none => exact .raise fun _ _ _ => trivial
    | some session =>
        refine Contract.Triple.bind (S := fun _ => P) ?_ fun _ => ?_
        · refine op_triple hP (fun _ => hP) ?_
          intro w x r s' hinv hp hmay he
          refine ⟨?_, fun _ _ => hkeep _ _ x hp⟩
          have hsessions : s'.sessions = (cfg.backend.delete w.state.sessions session_id).2 :=
            congrArg (fun rs => rs.2.sessions) (Option.some.inj he).symm
          rw [hsessions]
          cases hb : cfg.backend with
          | database => exact hinv.remove hmay
          | inMemory =>
              rw [Backend.delete_inMemory]
              split
              · exact hinv.remove hmay
              · exact hinv
        · exact sync_triple (fun _ _ _ hp => hkeep _ _ _ hp) fun _ _ h => h

theorem quotaSteps : QuotaSteps cfg (single user_id) i (fun _ => True) fun _ _ => True where
  tally u hu := by
    refine sync_triple (fun _ _ _ _ => trivial) fun s x h => ?_
    obtain ⟨active, restored, e⟩ := hu s
    rw [e]
    exact h
  get_all caller := (get_all_triple caller).weaken (fun _ _ _ _ => trivial) fun _ _ _ h => h
  delete session_id := delete_triple (.const _) (fun _ _ _ _ => trivial) session_id

/-- The user had no session, and now has this one. -/
theorem create_triple {credentials : LocalCredentials} {permissions : PermissionSet}
    (hof : lower credentials.user_id = lower user_id) :
    (single user_id).Triple cfg.machine i (fun _ => True)
      (SessionManager.create cfg credentials permissions) Theirs fun _ _ => True := by
  refine Contract.Triple.bind (S := fun _ _ => True) ?_ fun session_id => ?_
  · exact .sync fun w x hinv _ => ⟨x, hinv, guar_same, trivial⟩
  · refine read_then fun expiry_time => ?_
    refine Contract.Triple.bind
      (S := fun _ => Theirs ⟨session_id, expiry_time, credentials, permissions⟩) ?_ fun _ =>
        .ret fun _ _ h => h
    refine .call (.const _) (fun _ => Theirs.stable) (fun _ => .const _) ?_
    intro w x r s' hinv _ hmay he
    simp only [Settings.machine, exec, Backend.store_eq, Option.some.injEq, Prod.mk.injEq] at he
    obtain ⟨rfl, rfl⟩ := he
    have hnone : x = none := by
      cases hx : x with
      | none => rfl
      | some sid =>
          obtain ⟨session, hmem, hid⟩ := hinv.stored sid hx
          exact absurd ((hinv.only session hmem).mpr (by rw [hid, hx])) (hmay session hmem)
    refine ⟨some session_id, hinv.upsert hof (.inl hnone), ?_, rfl⟩
    intro j _ sid hsid
    rw [hnone] at hsid
    exact absurd hsid.symm (Option.some_ne_none sid)

/-- The one session is refreshed. -/
theorem update_session_expiry_time_triple {session : Session} (hof : IsOf user_id session) :
    (single user_id).Triple cfg.machine i (Theirs session)
      (update_session_expiry_time cfg session) Theirs fun _ _ => True := by
  refine read_then fun expiry_time => ?_
  refine Contract.Triple.bind (S := fun _ => Theirs session)
    (sync_triple (fun _ _ _ h => h) fun _ _ h => h.expiryAssigned) fun _ => ?_
  refine Contract.Triple.bind (S := fun _ => Theirs session) ?_ fun _ => .ret fun _ _ h => h
  refine op_triple Theirs.stable (fun _ => Theirs.stable) ?_
  intro w x r s' hinv hp _ he
  simp only [exec, Backend.store_eq, Option.some.injEq, Prod.mk.injEq] at he
  obtain ⟨rfl, rfl⟩ := he
  have hx : x = some session.session_id := hp
  refine ⟨?_, fun _ _ => hp⟩
  have hone : One user_id (w.state.sessions.upsert { session with expiry_time := expiry_time })
      (some session.session_id) := hinv.upsert hof (.inr hx)
  rw [hx]
  exact hone

theorem login_triple {name : String} (hname : lower name = lower user_id) (password : Str) :
    (single user_id).Triple cfg.machine i (fun _ => True) (login cfg name password)
      (Returned Theirs fun _ => True) fun _ _ => True := by
  refine CortxCsm.login_triple (U := fun user => lower user.user_id = lower user_id) ?_
    (fun _ _ => authenticate_triple fun _ _ _ _ => trivial) fun user huser => ?_
  · refine Contract.Triple.bind (S := fun _ _ => True) ?_ fun all_users => ?_
    · refine op_triple (.const _) (fun _ => .const _) ?_
      intro w x r s' hinv _ _ he
      cases he
      exact ⟨hinv, fun _ _ => trivial⟩
    · refine .ret fun _ _ _ => ⟨trivial, fun user hfound => ?_⟩
      exact (UserManager.search_some (Option.mem_def.mp hfound)).2.trans hname
  · refine sessionFor_triple (get_all_triple _) (fun _ _ _ => trivial)
      (fun sessions => delete_triple Listed.stable fun _ _ _ h => h) ?_ ?_
    · intro sessions session hs hof
      have hof' : IsOf user_id session := hof.trans hname
      exact (update_session_expiry_time_triple hof').pre fun _ _ h => h session hs hof'
    · exact create_session_triple (quotaSteps.add_active_user _) (create_triple huser)
        fun _ _ _ _ _ => trivial

/-! ## Runs -/

/-- The session a login has returned. -/
def given : Option (Except Exc Response) → Option String
  | some (.ok (.login session_id _)) => session_id
  | _ => none

omit [Runtime] in
theorem given_eq {result : Option (Except Exc Response)} {sid : String}
    (h : given result = some sid) :
    ∃ reset_password, result = some (.ok (.login (some sid) reset_password)) := by
  unfold given at h
  split at h
  · rename_i reset_password
    cases h
    exact ⟨reset_password, rfl⟩
  · cases h

/-- What a login has returned is the one session. -/
def Handed (response : Response) (a : Bound ι) : Prop :=
  ∀ sid, given (some (.ok response)) = some sid → a.2 = some sid

theorem Handed.stable {response : Response} : (single user_id).Stable i (Handed response) :=
  fun _ _ h hr sid e => hr sid (h sid e)

/-- The logins, each with its spelling of the id. -/
def logins (cfg : Settings) (names : ι → String) (passwords : ι → Str) (i : ι) : Prog Response :=
  (LoginCall.login (names i) (passwords i)).program cfg

/-- Where a run of them leads. -/
abbrev after [DecidableEq ι] (cfg : Settings) (names : ι → String) (passwords : ι → Str)
    (s : State) (as : List (Act ι Time)) : Config ι Op Op.Ans State Exc Response :=
  Config.run cfg.machine (logins cfg names passwords) (.start s) as

/-- **One session.**  When all logins of a user have ended and returned a session, there
is one session of the user and all have returned it, in every run in which a new session
is only stored where the user has none, and none of the user's is deleted. -/
theorem single_session [DecidableEq ι] [Nonempty ι] (cfg : Settings) (user_id : String)
    (names : ι → String) (passwords : ι → Str) (hnames : ∀ i, lower (names i) = lower user_id)
    (s : State) (hs : ∀ session ∈ s.sessions, ¬ IsOf user_id session) (as : List (Act ι Time))
    (has : Config.Along cfg.machine (logins cfg names passwords)
      (Config.AtOps fun _ op w => OneAtATime user_id w.state op) (.start s) as)
    (hended : ∀ i, ∃ sid, given ((after cfg names passwords s as).thread i).result = some sid) :
    ∃ session ∈ (after cfg names passwords s as).state.sessions, IsOf user_id session ∧
      (∀ other ∈ (after cfg names passwords s as).state.sessions,
        IsOf user_id other → other = session) ∧
      ∀ i, given ((after cfg names passwords s as).thread i).result =
        some session.session_id := by
  have hstart : One user_id s.sessions none := by
    refine ⟨fun session hm => ?_, fun sid h => absurd h (Option.not_mem_none sid)⟩
    exact ⟨fun hof => absurd hof (hs session hm), fun h => absurd h.symm (Option.some_ne_none _)⟩
  have henv : (single user_id : Contract ι Op Op.Ans State Exc (Option String)).AllowsEnv
      cfg.machine := fun w x elapsed hinv => ⟨x, hinv, fun _ _ h => h⟩
  have hprogram : ∀ i, (single user_id).Triple cfg.machine i (fun _ => True)
      (logins cfg names passwords i) Handed fun _ _ => True := by
    intro i
    refine .map ((login_triple (hnames i) (passwords i)).weaken ?_ fun _ _ _ h => h)
    intro result a _ hreturned sid e
    cases result with
    | none => cases e
    | some found =>
        obtain ⟨session, hid, htheirs⟩ := hreturned
        cases e
        rw [← hid]
        exact htheirs
  obtain ⟨x, hinv, hthreads⟩ := Contract.Triple.run (fun _ => .const True)
    (fun _ _ => Handed.stable) (fun _ _ => .const True) henv hprogram hstart (fun _ => trivial) has
  have hhanded : ∀ i sid,
      given ((after cfg names passwords s as).thread i).result = some sid → x = some sid := by
    intro i sid hgiven
    obtain ⟨reset_password, hresult⟩ := given_eq hgiven
    exact (hthreads i).of_ok hresult sid rfl
  obtain ⟨sid, hfirst⟩ := hended (Classical.arbitrary ι)
  have hx : x = some sid := hhanded _ sid hfirst
  obtain ⟨session, hmem, hid⟩ := hinv.stored sid hx
  have hone : x = some session.session_id := by rw [hid, hx]
  refine ⟨session, hmem, (hinv.only session hmem).mpr hone, ?_, ?_⟩
  · exact fun other hother hof => hinv.unique hmem hone hother hof
  · intro i
    obtain ⟨sid', hgiven⟩ := hended i
    rw [hgiven, ← hhanded i sid' hgiven, hone]

end Runtime

/-! ## Two logins at once -/

section Example

/-- Alice logs in twice, once under another capitalisation. -/
def spellings : Fin 2 → String
  | 0 => "alice"
  | 1 => "Alice"

theorem nodup_onlyAlice : ([sampleUser "alice" CSM_MONITOR_ROLE].map User.user_id).Nodup :=
  List.nodup_singleton _

def onlyAlice : State := .fresh ⟨_, nodup_onlyAlice⟩

def unlimited : Settings := sampleSettings .database 0 0 .blank

/-- Where the two logins lead. -/
abbrev afterBoth (as : List (Act (Fin 2) Time)) : Config (Fin 2) Op Op.Ans State Exc Response :=
  after unlimited spellings (fun _ => "Seagate@1") onlyAlice as

/-- Both list the sessions before either stores one. -/
def bothListFirst : List (Act (Fin 2) Time) :=
  List.replicate 5 (.run 0) ++ List.replicate 5 (.run 1) ++ List.replicate 2 (.run 0) ++
    List.replicate 2 (.run 1)

theorem two_sessions :
    (∀ i, ∃ sid, given ((afterBoth bothListFirst).thread i).result = some sid) ∧
      ¬ ∃ session ∈ (afterBoth bothListFirst).state.sessions, IsOf "alice" session ∧
        (∀ other ∈ (afterBoth bothListFirst).state.sessions,
          IsOf "alice" other → other = session) ∧
        ∀ i, given ((afterBoth bothListFirst).thread i).result = some session.session_id := by
  have hfirst : given ((afterBoth bothListFirst).thread 0).result = some "f" := by decide +kernel
  have hsecond : given ((afterBoth bothListFirst).thread 1).result = some "ff" := by
    decide +kernel
  constructor
  · exact Fin.forall_fin_two.mpr ⟨⟨"f", hfirst⟩, ⟨"ff", hsecond⟩⟩
  · rintro ⟨session, -, -, -, hall⟩
    have hsame : some "f" = some "ff" := by rw [← hfirst, ← hsecond, hall 0, hall 1]
    revert hsame
    decide

instance (user_id : String) : (op : Op) → (s : State) → Decidable (OneAtATime user_id s op)
  | .session_store .create _, s =>
      inferInstanceAs (Decidable (∀ session ∈ s.sessions, ¬ IsOf user_id session))
  | .session_delete session_id, s =>
      inferInstanceAs (Decidable (∀ session ∈ s.sessions, session.session_id = session_id →
        ¬ IsOf user_id session))
  | .session_store .update _, _ | .session_store ._restore_active_users _, _
  | .session_store ._remove_expired_sessions _, _
  | .session_store ._is_valid_session_exists _, _
  | .session_store .delete_all_sessions_for_user _, _
  | .lock_acquire, _ | .user_get _ _, _ | .user_count, _ | .user_count_admins, _
  | .user_store _, _ | .user_delete _, _ | .session_get _, _ | .session_get_all _, _ =>
      isTrue trivial

/-- Turn about, until the first stores its session; the second lists the sessions after that. -/
def turnAbout : List (Act (Fin 2) Time) :=
  [.run 0, .run 1, .run 0, .run 1, .run 0, .run 1] ++ List.replicate 4 (.run 0) ++
    List.replicate 4 (.run 1)

theorem single_session_turnAbout :
    ∃ session ∈ (afterBoth turnAbout).state.sessions, IsOf "alice" session ∧
      (∀ other ∈ (afterBoth turnAbout).state.sessions,
        IsOf "alice" other → other = session) ∧
      ∀ i, given ((afterBoth turnAbout).thread i).result = some session.session_id := by
  refine single_session unlimited "alice" spellings (fun _ => "Seagate@1") (by decide) onlyAlice
    ?_ turnAbout (by decide +kernel) ?_
  · exact fun session h => absurd h (Table.not_mem_empty session)
  · exact Fin.forall_fin_two.mpr ⟨⟨"f", by decide +kernel⟩, ⟨"f", by decide +kernel⟩⟩

end Example

end CortxCsm.SingleSession
