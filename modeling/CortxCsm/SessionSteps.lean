/-
# `CortxCsm.SessionSteps` — what the session methods are made of

`create` draws an id, suspends on the store, and only then is the session there.
`Ids` is what holds of ids in between: `born` are the ids that have been stored, and
`pending` the id each coroutine has drawn and not stored yet.  A pending id has never
been stored and nobody else has it, so the store that comes adds a session and
overwrites none.

`login` and the methods below it do a handful of things to the shared state: change the
counters, list the sessions, delete one, store one, refresh one.  What survives listing and
deleting survives every removal (`Removals`); if it survives the counters too, the
bookkeeping of the quota (`QuotaSteps`); what survives them all survives `login`
(`LoginSteps`).

**Proved here.**

    a fresh id, from the draw to the store                 (`Ids.draw`, `Ids.store`)
    what deletions keep, a sweep keeps                     (`Removals._remove_expired_sessions`)
    what removals and counters keep, the quota keeps       (`QuotaSteps.add_active_user`)
    `login`, from its parts                                (`login_triple`)
    what the steps keep, `login` keeps                     (`LoginSteps.login`)
-/
import CortxCsm.Sessions

namespace CortxCsm

variable {ι : Type}

/-- No later draw gives `sid`. -/
def Drawn (cfg : Settings) (s : State) (sid : String) : Prop :=
  ∀ n, s.drawn ≤ n → cfg.uuid4 n ≠ sid

structure Ids (cfg : Settings) (s : State) (born : String → Prop) (pending : ι → Option String) :
    Prop where
  stored : ∀ session ∈ s.sessions, born session.session_id
  drawn : ∀ sid, born sid → Drawn cfg s sid
  pending_drawn : ∀ i sid, pending i = some sid → Drawn cfg s sid
  pending_new : ∀ i sid, pending i = some sid → ¬ born sid
  pending_once : ∀ i j sid, pending i = some sid → pending j = some sid → i = j

namespace Ids

variable {cfg : Settings} {s s' : State} {born : String → Prop} {pending : ι → Option String}

theorem start (hdrawn : ∀ sid, born sid → Drawn cfg s sid)
    (hstored : ∀ session ∈ s.sessions, born session.session_id) :
    Ids cfg s born (fun (_ : ι) => none) where
  stored := hstored
  drawn := hdrawn
  pending_drawn _ _ h := nomatch h
  pending_new _ _ h := nomatch h
  pending_once _ _ _ h := nomatch h

/-- A step that stores no new session. -/
theorem keep (h : Ids cfg s born pending) (hdrawn : s'.drawn = s.drawn)
    (hs : ∀ session ∈ s'.sessions, born session.session_id) : Ids cfg s' born pending where
  stored := hs
  drawn sid hb n hn := h.drawn sid hb n (hdrawn ▸ hn)
  pending_drawn i sid hi n hn := h.pending_drawn i sid hi n (hdrawn ▸ hn)
  pending_new := h.pending_new
  pending_once := h.pending_once

theorem not_stored (h : Ids cfg s born pending) {i : ι} {sid : String}
    (hi : pending i = some sid) : ∀ session ∈ s.sessions, session.session_id ≠ sid :=
  fun session hs e => h.pending_new i sid hi (e ▸ h.stored session hs)

variable [DecidableEq ι]

theorem pending_update {i j : ι} {x : Option String} {sid : String}
    (h : Function.update pending i x j = some sid) :
    (j = i ∧ x = some sid) ∨ pending j = some sid := by
  by_cases hj : j = i
  · subst hj
    rw [Function.update_self] at h
    exact Or.inl ⟨rfl, h⟩
  · rw [Function.update_of_ne hj] at h
    exact Or.inr h

/-- `_generate_sid`. -/
theorem draw (h : Ids cfg s born pending) (i : ι) :
    Ids cfg { s with drawn := s.drawn + 1 } born
      (Function.update pending i (some (cfg.uuid4 s.drawn))) := by
  have hnew : ¬ Drawn cfg s (cfg.uuid4 s.drawn) := fun h => h s.drawn (Nat.le_refl _) rfl
  have hlater : ∀ sid, Drawn cfg s sid → Drawn cfg { s with drawn := s.drawn + 1 } sid :=
    fun sid h n hn => h n (Nat.le_of_succ_le hn)
  refine ⟨h.stored, fun sid hb => hlater sid (h.drawn sid hb), ?_, ?_, ?_⟩
  · intro j sid hj
    rcases pending_update hj with ⟨_, e⟩ | hj
    · cases e
      exact fun n hn e => absurd (cfg.uuid4_injective e) (Nat.ne_of_gt hn)
    · exact hlater sid (h.pending_drawn j sid hj)
  · intro j sid hj hb
    rcases pending_update hj with ⟨_, e⟩ | hj
    · cases e
      exact hnew (h.drawn _ hb)
    · exact h.pending_new j sid hj hb
  · intro j k sid hj hk
    rcases pending_update hj with ⟨hji, e⟩ | hj <;> rcases pending_update hk with ⟨hki, e'⟩ | hk
    · exact hji.trans hki.symm
    · cases e
      exact (hnew (h.pending_drawn k _ hk)).elim
    · cases e'
      exact (hnew (h.pending_drawn j _ hj)).elim
    · exact h.pending_once j k sid hj hk

/-- The store that `create` was suspended on. -/
theorem store (h : Ids cfg s born pending) {i : ι} {session : Session}
    (hi : pending i = some session.session_id) {born' : String → Prop}
    (hborn : ∀ sid, born' sid ↔ born sid ∨ sid = session.session_id) :
    Ids cfg { s with sessions := s.sessions.upsert session } born'
      (Function.update pending i none) := by
  have hother : ∀ j sid, Function.update pending i none j = some sid →
      j ≠ i ∧ pending j = some sid := by
    intro j sid hj
    refine ⟨fun e => ?_, ?_⟩
    · rw [e, Function.update_self] at hj
      cases hj
    · exact (pending_update hj).resolve_left fun h => nomatch h.2
  refine ⟨?_, ?_, fun j sid hj => h.pending_drawn j sid (hother j sid hj).2, ?_, ?_⟩
  · intro x hx
    rcases Table.mem_upsert.mp hx with rfl | ⟨hx, _⟩
    · exact (hborn _).mpr (Or.inr rfl)
    · exact (hborn _).mpr (Or.inl (h.stored x hx))
  · intro sid hb
    rcases (hborn sid).mp hb with hb | rfl
    · exact h.drawn sid hb
    · exact h.pending_drawn i _ hi
  · intro j sid hj hb
    obtain ⟨hji, hj⟩ := hother j sid hj
    rcases (hborn sid).mp hb with hb | rfl
    · exact h.pending_new j sid hj hb
    · exact hji (h.pending_once j i _ hj hi)
  · intro j k sid hj hk
    exact h.pending_once j k sid (hother j sid hj).2 (hother k sid hk).2

end Ids

/-! ## Steps -/

section Steps

open SessionManager QuotaSessionManager LoginService

variable [Runtime] {Γ : Type} {cfg : Settings} {K : Contract ι Op Op.Ans State Exc Γ} {i : ι}
  {P : World ι Op Op.Ans State Exc × Γ → Prop}
  {E : Exc → World ι Op Op.Ans State Exc × Γ → Prop}

/-- A session of the user, whatever the capitalisation. -/
def IsOf (user_id : String) (session : Session) : Prop :=
  lower session.credentials.user_id = lower user_id

instance (user_id : String) (session : Session) : Decidable (IsOf user_id session) :=
  inferInstanceAs (Decidable (lower session.credentials.user_id = lower user_id))

omit [Runtime] in
/-- Reading is no step. -/
theorem read_then {α β : Type} {f : State → α} {g : α → Prog β}
    {R : β → World ι Op Op.Ans State Exc × Γ → Prop}
    (hg : ∀ v, K.Triple cfg.machine i P (g v) R E) :
    K.Triple cfg.machine i P (Coro.read f >>= g) R E :=
  .read_bind (S := fun _ => P) (fun _ _ _ h => h) hg

/-- `P` is kept by listing the sessions, and by deleting one. -/
structure Removals (cfg : Settings) (K : Contract ι Op Op.Ans State Exc Γ) (i : ι)
    (P : World ι Op Op.Ans State Exc × Γ → Prop)
    (E : Exc → World ι Op Op.Ans State Exc × Γ → Prop) : Prop where
  get_all : ∀ caller, K.Triple cfg.machine i P (get_all caller) (fun _ => P) E
  delete : ∀ session_id,
    K.Triple cfg.machine i P (QuotaSessionManager.delete session_id) (fun _ => P) E

namespace Removals

variable (h : Removals cfg K i P E)
include h

omit [Runtime] in
/-- A loop over the sessions listed. -/
theorem each_listed {f : Session → Prog Unit}
    (hf : ∀ session, K.Triple cfg.machine i P (f session) (fun _ => P) E) (caller : Caller) :
    K.Triple cfg.machine i P (SessionManager.get_all caller >>= fun sessions => sessions.forM f)
      (fun _ => P) E :=
  (h.get_all caller).bind fun sessions =>
    Contract.Triple.forM (J := fun _ => P) (fun session _ => hf session) sessions

omit [Runtime] in
theorem deleteIfExpired (session : Session) :
    K.Triple cfg.machine i P (deleteIfExpired session) (fun _ => P) E := by
  refine read_then fun expired => ?_
  split
  · exact h.delete _
  · exact .ret fun _ _ hp => hp

omit [Runtime] in
theorem _remove_expired_sessions :
    K.Triple cfg.machine i P _remove_expired_sessions (fun _ => P) E :=
  h.each_listed h.deleteIfExpired _

theorem deleteIfOwned (user_id : String) (session : Session) :
    K.Triple cfg.machine i P (deleteIfOwned user_id session) (fun _ => P) E := by
  unfold LoginService.deleteIfOwned
  split
  · exact h.delete _
  · exact .ret fun _ _ hp => hp

theorem delete_all_sessions_for_user (user_id : String) :
    K.Triple cfg.machine i P (delete_all_sessions_for_user user_id) (fun _ => P) E :=
  h.each_listed (h.deleteIfOwned user_id) _

end Removals

omit [Runtime] in
/-- The body of `_add_active_user_with_quota`, from its parts. -/
theorem addActiveUser_triple {restore : Prog Unit} {user_id : String}
    {R : Bool → World ι Op Op.Ans State Exc × Γ → Prop}
    (hflag : K.Triple cfg.machine i P
      (Coro.write fun s : State => { s with _active_users_restored := true }) (fun _ => P) E)
    (hrestore : K.Triple cfg.machine i P restore (fun _ => P) E)
    (hsweep : K.Triple cfg.machine i P _remove_expired_sessions (fun _ => P) E)
    (hdecide : K.Triple cfg.machine i P (admitUser cfg user_id) R E)
    (hunlimited : cfg.active_users_quota ≤ 0 → ∀ a, P a → R true a) :
    K.Triple cfg.machine i P (addActiveUser cfg restore user_id) R E := by
  unfold QuotaSessionManager.addActiveUser
  split
  · rename_i hquota
    exact .ret fun a _ hp => hunlimited hquota a hp
  · refine Contract.Triple.bind (S := fun _ => P) ?_ fun _ =>
      Contract.Triple.bind (S := fun _ => P) ?_ fun _ => hdecide
    · refine read_then fun restored => ?_
      split
      · exact .ret fun _ _ hp => hp
      · exact hflag.bind fun _ => hrestore
    · refine read_then fun active_users => ?_
      split
      · exact hsweep
      · exact .ret fun _ _ hp => hp

/-- `P` is kept by what the bookkeeping of the quota and the removals do. -/
structure QuotaSteps (cfg : Settings) (K : Contract ι Op Op.Ans State Exc Γ) (i : ι)
    (P : World ι Op Op.Ans State Exc × Γ → Prop)
    (E : Exc → World ι Op Op.Ans State Exc × Γ → Prop) : Prop extends Removals cfg K i P E where
  tally : ∀ u : State → State, (∀ s, ∃ active restored,
      u s = { s with _active_users := active, _active_users_restored := restored }) →
    K.Triple cfg.machine i P (Coro.write u) (fun _ => P) E

namespace QuotaSteps

variable (h : QuotaSteps cfg K i P E)
include h

omit [Runtime] in
theorem admitUser (user_id : String) :
    K.Triple cfg.machine i P (admitUser cfg user_id) (fun _ => P) E := by
  refine read_then fun active => ?_
  dsimp only
  split
  · exact .ret fun _ _ hp => hp
  · split
    · exact .ret fun _ _ hp => hp
    · exact (h.tally _ fun s => ⟨_, s._active_users_restored, rfl⟩).bind fun _ =>
        .ret fun _ _ hp => hp

omit [Runtime] in
theorem addActiveUser {restore : Prog Unit}
    (hrestore : K.Triple cfg.machine i P restore (fun _ => P) E) (user_id : String) :
    K.Triple cfg.machine i P (addActiveUser cfg restore user_id) (fun _ => P) E :=
  addActiveUser_triple (h.tally _ fun s => ⟨s._active_users, true, rfl⟩) hrestore
    h._remove_expired_sessions (h.admitUser user_id) fun _ _ hp => hp

omit [Runtime] in
theorem restoreSession (session : Session) :
    K.Triple cfg.machine i P (restoreSession (addRestored cfg) session) (fun _ => P) E := by
  refine read_then fun expired => ?_
  split
  · exact h.delete _
  · exact (h.addActiveUser (.ret fun _ _ hp => hp) _).bind fun _ => .ret fun _ _ hp => hp

omit [Runtime] in
theorem add_active_user (user_id : String) :
    K.Triple cfg.machine i P (_add_active_user_with_quota cfg user_id) (fun _ => P) E :=
  h.addActiveUser (h.each_listed h.restoreSession _) user_id

end QuotaSteps

/-! ## `login` -/

/-- What is left when a session was found, or none. -/
def OrNone (L : Session → World ι Op Op.Ans State Exc × Γ → Prop)
    (P : World ι Op Op.Ans State Exc × Γ → Prop) :
    Option Session → World ι Op Op.Ans State Exc × Γ → Prop
  | none => P
  | some session => L session

/-- What `login` leaves when it returns `(None, None)`, or the id of a session. -/
def Returned (L : Session → World ι Op Op.Ans State Exc × Γ → Prop)
    (P : World ι Op Op.Ans State Exc × Γ → Prop) :
    Option (String × Option Bool) → World ι Op Op.Ans State Exc × Γ → Prop
  | none, a => P a
  | some (session_id, _), a => ∃ session, session.session_id = session_id ∧ L session a

section Login

variable {L : Session → World ι Op Op.Ans State Exc × Γ → Prop} {user_id : String}

theorem findValid_triple
    (hdelete : ∀ session_id,
      K.Triple cfg.machine i P (QuotaSessionManager.delete session_id) (fun _ => P) E) :
    ∀ sessions : List Session,
      (∀ session ∈ sessions, lower session.credentials.user_id = lower user_id →
        K.Triple cfg.machine i P (update_session_expiry_time cfg session) L E) →
      K.Triple cfg.machine i P (findValid cfg user_id sessions) (OrNone L P) E
  | [], _ => .ret fun _ _ hp => hp
  | each_session :: rest, hrefresh => by
      have hrest := findValid_triple hdelete rest fun session hs =>
        hrefresh session (List.mem_cons_of_mem _ hs)
      unfold LoginService.findValid
      split
      · rename_i huser
        refine read_then fun expired => ?_
        split
        · exact (hdelete _).bind fun _ => hrest
        · refine (hrefresh _ List.mem_cons_self huser).bind fun refreshed => ?_
          exact .ret fun _ _ hl => hl
      · exact hrest

omit [Runtime] in
theorem create_session_triple {credentials : LocalCredentials} {permissions : PermissionSet}
    (hadd : K.Triple cfg.machine i P (_add_active_user_with_quota cfg credentials.user_id)
      (fun _ => P) E)
    (hcreate : K.Triple cfg.machine i P (SessionManager.create cfg credentials permissions) L E)
    (hrefused : ∀ e a, e.isCsm = true → K.inv a.1 a.2 → P a → E e a) :
    K.Triple cfg.machine i P (QuotaSessionManager.create cfg credentials permissions) L E := by
  refine hadd.bind fun admitted => ?_
  split
  · exact hcreate
  · exact .raise fun a => hrefused _ a rfl

theorem sessionFor_triple {user : User} {credentials : LocalCredentials}
    {S : List Session → World ι Op Op.Ans State Exc × Γ → Prop}
    (hget_all : K.Triple cfg.machine i P (get_all ._is_valid_session_exists) S E)
    (hkept : ∀ sessions a, S sessions a → P a)
    (hdelete : ∀ sessions session_id, K.Triple cfg.machine i (S sessions)
      (QuotaSessionManager.delete session_id) (fun _ => S sessions) E)
    (hrefresh : ∀ sessions, ∀ session ∈ sessions,
      lower session.credentials.user_id = lower user_id →
        K.Triple cfg.machine i (S sessions) (update_session_expiry_time cfg session) L E)
    (hcreate : K.Triple cfg.machine i P (QuotaSessionManager.create cfg credentials
      (cfg.role_manager.effective [user.user_role])) L E) :
    K.Triple cfg.machine i P (sessionFor cfg user_id user credentials) L E := by
  have hfind : K.Triple cfg.machine i P (_is_valid_session_exists cfg user_id) (OrNone L P) E := by
    refine hget_all.bind fun sessions => ?_
    refine (findValid_triple (hdelete sessions) sessions (hrefresh sessions)).weaken ?_
      fun _ _ _ he => he
    intro found a _ hf
    cases found with
    | none => exact hkept sessions a hf
    | some session => exact hf
  refine hfind.bind fun found => ?_
  cases found with
  | some session => exact .ret fun _ _ hl => hl
  | none => exact hcreate

theorem login_triple {password : Str} {U : User → Prop}
    (hget : K.Triple cfg.machine i P (UserManager.get .record user_id)
      (fun user a => P a ∧ ∀ u ∈ user, U u) E)
    (hauth : ∀ user, U user → K.Triple cfg.machine i P (AuthService.authenticate user password)
      (fun credentials a => P a ∧ ∀ c ∈ credentials, c = ⟨user.user_id, user.user_role⟩) E)
    (hsession : ∀ user, U user → K.Triple cfg.machine i P
      (sessionFor cfg user_id user ⟨user.user_id, user.user_role⟩) L E) :
    K.Triple cfg.machine i P (login cfg user_id password) (Returned L P) E := by
  refine hget.bind fun user => ?_
  cases user with
  | none => exact .ret fun _ _ hp => hp.1
  | some user =>
      refine .of_fact (fun _ _ hp => hp.2 user rfl) fun hu => ?_
      refine ((hauth user hu).pre fun _ _ hp => hp.1).bind fun credentials => ?_
      cases credentials with
      | none => exact .ret fun _ _ hp => hp.1
      | some credentials =>
          refine .of_fact (fun _ _ hp => hp.2 credentials rfl) fun hc => ?_
          rw [hc]
          refine ((hsession user hu).pre fun _ _ hp => hp.1).bind fun session => ?_
          exact .ret fun _ _ hl => ⟨session, rfl, hl⟩

end Login

omit [Runtime] in
theorem Returned.kept {L : Session → World ι Op Op.Ans State Exc × Γ → Prop}
    {P : World ι Op Op.Ans State Exc × Γ → Prop} (hL : ∀ session a, L session a → P a) :
    ∀ {result : Option (String × Option Bool)} {a : World ι Op Op.Ans State Exc × Γ},
      Returned L P result a → P a
  | none, _, hr => hr
  | some _, _, ⟨session, _, hl⟩ => hL session _ hl

/-- `P` is kept by each thing the session methods do, and `E` is what a raise leaves.  `U` is
what is known of a user that is logged in and `S` of a session that was listed; `L` is what
storing the session that a login hands out leaves. -/
structure LoginSteps (cfg : Settings) (K : Contract ι Op Op.Ans State Exc Γ) (i : ι)
    (U : User → Prop) (S : Session → Prop)
    (L : Session → World ι Op Op.Ans State Exc × Γ → Prop)
    (P : World ι Op Op.Ans State Exc × Γ → Prop)
    (E : Exc → World ι Op Op.Ans State Exc × Γ → Prop) : Prop where
  raised : ∀ e a, K.inv a.1 a.2 → P a → E e a
  tally : ∀ u : State → State, (∀ s, ∃ active restored,
      u s = { s with _active_users := active, _active_users_restored := restored }) →
    K.Triple cfg.machine i P (Coro.write u) (fun _ => P) E
  get : ∀ purpose user_id,
    K.Triple cfg.machine i P (UserManager.get purpose user_id)
      (fun user a => P a ∧ ∀ u ∈ user, U u) E
  get_all : ∀ caller, K.Triple cfg.machine i P (get_all caller)
    (fun sessions a => P a ∧ ∀ session ∈ sessions, S session) E
  delete : ∀ session_id,
    K.Triple cfg.machine i P (QuotaSessionManager.delete session_id) (fun _ => P) E
  create : ∀ user, U user → K.Triple cfg.machine i P
    (SessionManager.create cfg ⟨user.user_id, user.user_role⟩
      (cfg.role_manager.effective [user.user_role])) L E
  refresh : ∀ session, S session →
    K.Triple cfg.machine i P (update_session_expiry_time cfg session) L E

namespace LoginSteps

variable {U : User → Prop} {S : Session → Prop}
  {L : Session → World ι Op Op.Ans State Exc × Γ → Prop}

variable (h : LoginSteps cfg K i U S L P E)
include h

theorem quota : QuotaSteps cfg K i P E where
  tally := h.tally
  get_all caller := (h.get_all caller).weaken (fun _ _ _ hp => hp.1) fun _ _ _ he => he
  delete := h.delete

theorem sessionFor (user_id : String) {user : User} (hu : U user) :
    K.Triple cfg.machine i P (sessionFor cfg user_id user ⟨user.user_id, user.user_role⟩) L E := by
  refine sessionFor_triple (h.get_all _) (fun _ _ hp => hp.1) ?_ ?_ ?_
  · intro sessions session_id
    refine .of_fact (fun _ _ hp => hp.2) fun hlisted => ?_
    exact (h.delete session_id).conseq (fun _ _ hp => hp.1) (fun _ _ _ hp => ⟨hp, hlisted⟩)
      fun _ _ _ he => he
  · intro sessions session hs _
    refine .of_fact (fun _ _ hp => hp.2 session hs) fun hlisted => ?_
    exact (h.refresh session hlisted).pre fun _ _ hp => hp.1
  · exact create_session_triple (h.quota.add_active_user _) (h.create user hu)
      fun e a _ => h.raised e a

theorem login (user_id : String) (password : Str) :
    K.Triple cfg.machine i P (login cfg user_id password) (Returned L P) E :=
  login_triple (h.get _ _) (fun _ _ => authenticate_triple h.raised)
    fun _ hu => h.sessionFor user_id hu

end LoginSteps

end Steps

end CortxCsm
