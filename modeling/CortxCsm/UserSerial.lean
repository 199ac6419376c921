/-
# `CortxCsm.UserSerial` — are the user operations serializable?

`update_user` reads the whole record, awaits two or three times, and saves the whole
record; `delete_user` reads and deletes; only `create_user` takes the lock.  Two updates
of one user that overlap lose one of them (`update_lost`).

The methods have the shape of `CortxCsm.Lib.Serial`: they read, write once and return.
So a run is serializable whenever each save and each deletion happens while everything
its request has been answered by the user store is still what the store would answer.

Timestamps and salts are the request's (`Stamp`), so the serial run leaves the very same
records; `SameUsers` compares stores with both left aside, as the counterexample needs.

**Proved here.**

    the user store as a shared part                         (`userShared`)
    each method reads, then writes once                     (`create_user_tracks`, …)
    under the condition the run is serializable             (`users_serializable`)
    without it an update can be lost                        (`update_lost`)
-/
import CortxCsm.Lib.Serial
import CortxCsm.Users

namespace CortxCsm

/-! ## Stores, timestamps and salts aside -/

section Same

variable [Runtime]

/-- The same password, possibly hashed with another salt. -/
def SamePassword (p q : Option String) : Prop :=
  p = q ∨ ∃ password salt salt',
    p = some (hashpw password salt) ∧ q = some (hashpw password salt')

/-- The same user, timestamps and salt aside. -/
structure User.Same (u v : User) : Prop where
  user_id : u.user_id = v.user_id
  user_type : u.user_type = v.user_type
  user_role : u.user_role = v.user_role
  user_password : SamePassword u.user_password v.user_password
  email_address : u.email_address = v.email_address
  reset_password : u.reset_password = v.reset_password
  alert_notification : u.alert_notification = v.alert_notification

/-- The same users. -/
def SameUsers (users users' : UserStore) : Prop :=
  (∀ u ∈ users, ∃ v ∈ users', u.Same v) ∧ ∀ v ∈ users', ∃ u ∈ users, u.Same v

theorem User.Same.refl (u : User) : u.Same u := ⟨rfl, rfl, rfl, Or.inl rfl, rfl, rfl, rfl⟩

theorem SameUsers.of_eq {users users' : UserStore} (h : users = users') : SameUsers users users' :=
  h ▸ ⟨fun u hu => ⟨u, hu, .refl u⟩, fun u hu => ⟨u, hu, .refl u⟩⟩

end Same

/-- Two records that a look-up for this purpose does not tell apart. -/
def Purpose.Alike : Purpose → Option User → Option User → Prop
  | .record, user, user' => user = user'
  | .role, user, user' =>
      user.map (fun u => (u.user_id, u.user_role)) = user'.map fun u => (u.user_id, u.user_role)

instance : (purpose : Purpose) → (user user' : Option User) → Decidable (purpose.Alike user user')
  | .record, user, user' => inferInstanceAs (Decidable (user = user'))
  | .role, user, user' => inferInstanceAs (Decidable
      (user.map (fun u => (u.user_id, u.user_role)) = user'.map fun u => (u.user_id, u.user_role)))

/-- The users of `c` are those that the calls which have returned leave when they are run
one after the other, in some order. -/
def Serializable [Runtime] {ι : Type} (M : Machine Op Op.Ans State Exc Time)
    (prog : ι → Prog Response) (s₀ : State) (c : Config ι Op Op.Ans State Exc Response) : Prop :=
  ∃ order : List ι, order.Nodup ∧
    (∀ i, i ∈ order ↔ (c.thread i).returned = true) ∧
    ∃ s, serialRun M prog s₀ order = some s ∧ SameUsers s.users c.state.users

namespace UserSerial

open CsmUserService

/-! ## The user store -/

/-- The operations that read the user store. -/
def ReadsUsers : Op → Prop
  | .user_get _ _ | .user_count | .user_count_admins => True
  | _ => False

/-- The operations that write it. -/
def WritesUsers : Op → Prop
  | .user_store _ | .user_delete _ => True
  | _ => False

section

variable [Runtime]

/-- Answers that lead to the same decision: look-ups find records that are alike, the
quota is reached or not, and there is one admin or not. -/
def AlikeAnswers (users_quota : Int) : (op : Op) → op.Ans → op.Ans → Prop
  | .user_get purpose user_id, users, users' =>
      Purpose.Alike purpose (UserManager.search users user_id) (UserManager.search users' user_id)
  | .user_count, n, n' => ((n : Int) ≥ users_quota ↔ (n' : Int) ≥ users_quota)
  | .user_count_admins, n, n' => (n = 1 ↔ n' = 1)
  | _, _, _ => True

def userShared (cfg : Settings) : Shared cfg.machine UserStore where
  view := State.users
  Reads := ReadsUsers
  Writes := WritesUsers
  value
    | .user_get _ _, _, users => users.rows
    | .user_count, _, users => users.rows.length
    | .user_count_admins, _, users => users.count User.isAdmin
    | .lock_acquire, h, _ | .user_store _, h, _ | .user_delete _, h, _ | .session_get _, h, _
    | .session_get_all _, h, _ | .session_store _ _, h, _ | .session_delete _, h, _ => h.elim
  read_exec op s hr := by
    cases op with
    | user_get | user_count | user_count_admins => rfl
    | _ => exact hr.elim
  Alike := AlikeAnswers cfg.users_quota
  keep op s r s' hw he := by
    cases op with
    | user_store | user_delete => exact absurd trivial hw
    | lock_acquire =>
        simp only [Settings.machine, exec] at he
        split at he
        · cases he
        · cases he
          rfl
    | _ =>
        simp only [Settings.machine, exec, Option.some.injEq, Prod.mk.injEq] at he
        rw [← he.2]
  write_view op s t r s' hw hv he := by
    cases op with
    | user_store | user_delete =>
        simp only [Settings.machine, exec, Option.some.injEq, Prod.mk.injEq] at he
        obtain ⟨rfl, rfl⟩ := he
        refine ⟨_, rfl, ?_⟩
        simp only [hv]
    | _ => exact hw.elim

end

/-- A request may be started alone when nobody holds the lock. -/
def Unlocked (s : State) : Prop := s.lock = false

section Methods

variable [Runtime] {ι : Type} {cfg : Settings} {prog : ι → Prog Response} {s₀ : State} {i : ι}

/-! ## What only reads -/

theorem get_readOnly {β : Type} {purpose : Purpose} {user_id : String}
    {f : Option User → Prog β} (hf : ∀ u u', Purpose.Alike purpose u u' → f u = f u') :
    (userShared cfg).ReadOnly f (UserManager.get purpose user_id) :=
  (Shared.ReadOnly.call trivial fun _ _ h => hf _ _ h).bind fun _ => trivial

/-- Before what asks only whether there is one admin. -/
theorem count_admins_readOnly {β : Type} {f : Nat → Prog β}
    (hf : ∀ n n', (n = 1 ↔ n' = 1) → f n = f n') :
    (userShared cfg).ReadOnly f UserManager.count_admins :=
  Shared.ReadOnly.call trivial hf

omit [Runtime] in
/-- `raiseIf` sees its condition only up to equivalence. -/
theorem raiseIf_congr {p q : Prop} [Decidable p] [Decidable q] (h : p ↔ q) (e : Exc) :
    (raiseIf p e : Prog Unit) = raiseIf q e := by
  unfold raiseIf
  simp only [h]

theorem oneAdmin_readOnly {β : Type} {f : Unit → Prog β} {e : Exc} :
    (userShared cfg).ReadOnly f
      (UserManager.count_admins >>= fun num_admins => raiseIf (num_admins = 1) e) :=
  (count_admins_readOnly fun _ _ h => by rw [raiseIf_congr h]).bind fun _ => .raiseIf

theorem checkLastAdmin_readOnly {β : Type} {f : Unit → Prog β} (user : User) (user_id : String) :
    (userShared cfg).ReadOnly f (checkLastAdmin user user_id) := by
  unfold checkLastAdmin
  split
  · exact oneAdmin_readOnly
  · trivial

theorem allowed_readOnly {β : Type} {f : Bool → Prog β} (rules : UpdateRules)
    (loggedin_user user : User) :
    (userShared cfg).ReadOnly f (rules.allowed loggedin_user user) := by
  unfold UpdateRules.allowed
  split <;> trivial

theorem checkRole_readOnly {β : Type} {f : Unit → Prog β} (user loggedin_user : User)
    (role : Option String) : (userShared cfg).ReadOnly f (checkRole user loggedin_user role) := by
  unfold checkRole
  split
  · trivial
  · split
    · trivial
    · refine (allowed_readOnly _ _ _).bind fun _ => Shared.ReadOnly.raiseIf.bind fun _ => ?_
      split
      · split
        · exact oneAdmin_readOnly
        · trivial
      · exact .raiseIf

theorem checkCurrentPassword_readOnly {β : Type} {f : Unit → Prog β} (user loggedin_user : User)
    (current_password : Option String) :
    (userShared cfg).ReadOnly f (checkCurrentPassword user loggedin_user current_password) := by
  unfold checkCurrentPassword
  split
  · trivial
  · split
    · refine Shared.ReadOnly.bind ?_ fun _ => .raiseIf
      unfold Passwd.verify
      split
      · trivial
      · trivial
      · split <;> trivial
    · trivial

theorem _validate_user_update_readOnly {β : Type} {f : Unit → Prog β} (user loggedin_user : User)
    (new_values : UserPatch) :
    (userShared cfg).ReadOnly f (_validate_user_update user loggedin_user new_values) :=
  (allowed_readOnly _ _ _).bind fun _ => Shared.ReadOnly.raiseIf.bind fun _ =>
    (checkRole_readOnly _ _ _).bind fun _ => checkCurrentPassword_readOnly _ _ _

/-- A look-up before what uses the id and the role only. -/
theorem get_role_readOnly {β : Type} {user_id : String} {f : Option User → Prog β}
    (hf : ∀ u u' : User, u.user_id = u'.user_id → u.user_role = u'.user_role →
      f (some u) = f (some u')) :
    (userShared cfg).ReadOnly f (UserManager.get .role user_id) := by
  refine get_readOnly fun user user' h => ?_
  cases user with
  | none =>
      cases user' with
      | none => rfl
      | some u' => cases h
  | some u =>
      cases user' with
      | none => cases h
      | some u' =>
          obtain ⟨hid, hrole⟩ := Prod.mk.inj (Option.some.inj h)
          exact hf u u' hid hrole

/-- A look-up before anything. -/
theorem get_record_readOnly {β : Type} {user_id : String} {f : Option User → Prog β} :
    (userShared cfg).ReadOnly f (UserManager.get .record user_id) :=
  get_readOnly fun _ _ h => congrArg f h

omit [Runtime] in
/-- The validation sees the id and the role of the logged-in user. -/
theorem _validate_user_update_congr [Runtime] {user loggedin_user loggedin_user' : User}
    {new_values : UserPatch} (hid : loggedin_user.user_id = loggedin_user'.user_id)
    (hrole : loggedin_user.user_role = loggedin_user'.user_role) :
    _validate_user_update user loggedin_user new_values =
      _validate_user_update user loggedin_user' new_values := by
  simp only [_validate_user_update, UpdateRules.allowed, denialOf, checkRole, checkRoleChange,
    checkCurrentPassword, hid, hrole]

/-! ## Methods -/

/-- `p`, whose result is shown by `f`, is tracked up to its write and has then written. -/
abbrev Writer (cfg : Settings) (prog : ι → Prog Response) (s₀ : State) (i : ι) {α : Type}
    (f : α → Response) (p : Prog α) : Prop :=
  ((userShared cfg).contract prog Unlocked s₀).Triple cfg.machine i
    ((userShared cfg).Tracks prog Unlocked i id (f <$> p)) p (fun _ a => i ∈ a.2)
    fun _ a => i ∉ a.2

/-- A method that reads, and goes on. -/
theorem read_then {α β : Type} {f : α → Response} {p : Prog β} {g : β → Prog α}
    (hp : (userShared cfg).ReadOnly g p)
    (hg : ∀ v, Writer cfg prog s₀ i f (g v)) : Writer cfg prog s₀ i f (p >>= g) :=
  Shared.read_bind (C := fun p => f <$> p) (fun _ => rfl) (fun _ _ => rfl) hp hg

/-- A write after which a value is returned. -/
theorem write_return {α : Type} {f : α → Response} {op : Op} {v : α}
    (hw : WritesUsers op) :
    Writer cfg prog s₀ i f (Coro.call op >>= fun _ => pure v) := by
  refine (Shared.commit_triple (C := fun p => f <$> (p >>= fun _ => pure v)) (fun _ => rfl)
    (fun _ _ => rfl) hw ?_ ?_).bind fun _ => .ret fun _ _ h => h
  · intro s r s' he
    cases op with
    | user_store | user_delete =>
        simp only [Settings.machine, exec, Option.some.injEq, Prod.mk.injEq] at he
        exact ⟨_, he.1.symm⟩
    | _ => exact hw.elim
  · intro s u t hf he
    refine ⟨f v, t, rfl, ?_, rfl⟩
    cases op with
    | user_store | user_delete =>
        simp only [Settings.machine, exec, Option.some.injEq, Prod.mk.injEq] at he
        rw [← he.2]
        exact hf
    | _ => exact hw.elim

theorem delete_user_tracks {f : String → Response} {user_id loggedin_user_id : String} :
    Writer cfg prog s₀ i f (delete_user user_id loggedin_user_id) := by
  refine read_then
    (get_role_readOnly fun u u' hid hrole => by simp only [checkLastAdmin, hid, hrole])
    fun user => ?_
  cases user with
  | none => exact .raise fun _ _ h => h.1
  | some user =>
      refine read_then (checkLastAdmin_readOnly _ _) fun _ => ?_
      refine read_then (get_role_readOnly fun u u' _ hrole => by simp only [hrole])
        fun loggedin_user => ?_
      cases loggedin_user with
      | none => exact .raise fun _ _ h => h.1
      | some loggedin_user =>
          exact read_then .raiseIf fun _ => write_return trivial

theorem update_user_tracks {f : UserDict → Response} {stamp : Stamp} {user_id : String}
    {new_values : UserPatch} {loggedin_user_id : String} :
    Writer cfg prog s₀ i f (update_user stamp user_id new_values loggedin_user_id) := by
  refine read_then get_record_readOnly fun user => ?_
  cases user with
  | none => exact .raise fun _ _ h => h.1
  | some user =>
      refine read_then
        (get_role_readOnly fun u u' hid hrole => by
          simp only [_validate_user_update_congr hid hrole])
        fun loggedin_user => ?_
      cases loggedin_user with
      | none => exact .raise fun _ _ h => h.1
      | some loggedin_user =>
          exact read_then (_validate_user_update_readOnly _ _ _) fun _ => write_return trivial

/-- The context of the body of `create_user`: the lock's release, then the answer. -/
def underLock (f : UserDict → Response) (p : Prog User) : Prog Response :=
  f <$> (p.ensure lock_release >>= fun user => pure (_user_to_dict user))

omit [Runtime] in
theorem underLock_context (f : UserDict → Response) : Shared.Context (underLock f) :=
  fun _ _ => rfl

/-- What `create_user` holds while it tracks its run alone: the lock. -/
def locked (s : State) : State := { s with lock := true }

/-- Reading under the lock. -/
theorem locked_read {β : Type} {f : UserDict → Response} {p : Prog β} {g : β → Prog User}
    (hp : (userShared cfg).ReadOnly g p)
    (hg : ∀ v, ((userShared cfg).contract prog Unlocked s₀).Triple cfg.machine i
      ((userShared cfg).Tracks prog Unlocked i locked (underLock f (g v))) (g v)
      (fun _ a => i ∈ a.2) fun _ a => i ∉ a.2) :
    ((userShared cfg).contract prog Unlocked s₀).Triple cfg.machine i
      ((userShared cfg).Tracks prog Unlocked i locked (underLock f (p >>= g))) (p >>= g)
      (fun _ a => i ∈ a.2) fun _ a => i ∉ a.2 :=
  Shared.read_bind (g := locked) (fun _ => rfl) (underLock_context f) hp hg

theorem createUnderLock_tracks {f : UserDict → Response} {stamp : Stamp}
    {user_id password role : String} {creator_id : Option String} {email : String} :
    ((userShared cfg).contract prog Unlocked s₀).Triple cfg.machine i
      ((userShared cfg).Tracks prog Unlocked i locked
        (underLock f (createUnderLock cfg.users_quota stamp user_id password role creator_id email)))
      (createUnderLock cfg.users_quota stamp user_id password role creator_id email)
      (fun _ a => i ∈ a.2) fun _ a => i ∉ a.2 := by
  refine locked_read ?_ fun creator => ?_
  · unfold creatorOf
    split
    · trivial
    · split
      · trivial
      · exact get_role_readOnly fun u u' _ hrole => by simp only [hrole]
  cases creator with
  | none => exact .raise fun _ _ h => h.1
  | some creator =>
      refine locked_read .raiseIf fun _ => ?_
      refine locked_read (Shared.ReadOnly.call trivial fun n n' h => ?_)
        fun existing_users_count => ?_
      · rw [raiseIf_congr (and_congr_left' h)]
      refine locked_read .raiseIf fun _ => ?_
      refine Contract.Triple.bind (S := fun _ a => i ∈ a.2) ?_ fun _ => .ret fun _ _ h => h
      refine Shared.read_bind (g := locked) (fun _ => rfl) ((underLock_context f).bind _)
        (get_role_readOnly fun u u' hid _ => by simp only [hid]) fun existing_user => ?_
      cases existing_user with
      | some existing_user => exact .raise fun _ _ h => h.1
      | none =>
          refine Shared.commit_triple (g := locked) (fun _ => rfl) ((underLock_context f).bind _)
            trivial ?_ ?_
          · intro s r s' he
            simp only [Settings.machine, exec, Option.some.injEq, Prod.mk.injEq] at he
            exact ⟨_, he.1.symm⟩
          · exact fun s u t hf he => ⟨_, { t with lock := false }, rfl, rfl, rfl⟩

theorem create_user_tracks {f : UserDict → Response} {stamp : Stamp}
    {user_id password role : String} {creator_id : Option String} {email : String} :
    Writer cfg prog s₀ i f
      (create_user cfg.users_quota stamp user_id password role creator_id email) := by
  refine Contract.Triple.bind (Shared.neutral_triple (v := ()) (k := locked)
    (C := fun p => f <$> (p >>= fun _ => _)) (fun _ _ => rfl) (fun h => h) ?_ ?_) fun _ => ?_
  · intro s r s' he
    simp only [Settings.machine, exec] at he
    split at he
    · cases he
    · cases he
      rfl
  · intro s hf
    simp only [Settings.machine, exec, id, locked]
    rw [if_neg (by rw [hf]; exact Bool.false_ne_true)]
  · refine Contract.Triple.bind (.ensure createUnderLock_tracks (fun _ => ?_) fun _ => ?_)
      fun _ => .ret fun _ _ h => h
    · exact Shared.write_triple (P := fun order => i ∈ order) fun _ => rfl
    · exact Shared.write_triple (P := fun order => i ∉ order) fun _ => rfl

/-! ## The condition can be decided -/

instance : DecidablePred ReadsUsers
  | .user_get _ _ | .user_count | .user_count_admins => isTrue trivial
  | .lock_acquire | .user_store _ | .user_delete _ | .session_get _ | .session_get_all _
  | .session_store _ _ | .session_delete _ => isFalse id

instance : DecidablePred WritesUsers
  | .user_store _ | .user_delete _ => isTrue trivial
  | .lock_acquire | .user_get _ _ | .user_count | .user_count_admins | .session_get _
  | .session_get_all _ | .session_store _ _ | .session_delete _ => isFalse id

instance (users_quota : Int) :
    (op : Op) → (v v' : op.Ans) → Decidable (AlikeAnswers users_quota op v v')
  | .user_get purpose _, _, _ => inferInstanceAs (Decidable (purpose.Alike _ _))
  | .user_count, n, n' => inferInstanceAs (Decidable ((n : Int) ≥ _ ↔ (n' : Int) ≥ _))
  | .user_count_admins, (n : Nat), (n' : Nat) => inferInstanceAs (Decidable (n = 1 ↔ n' = 1))
  | .lock_acquire, _, _ | .user_store _, _, _ | .user_delete _, _, _ | .session_get _, _, _
  | .session_get_all _, _, _ | .session_store _ _, _, _ | .session_delete _, _, _ =>
      isTrue trivial

instance : DecidablePred (userShared cfg).Reads := inferInstanceAs (DecidablePred ReadsUsers)

instance : DecidablePred (userShared cfg).Writes := inferInstanceAs (DecidablePred WritesUsers)

instance (op : Op) (v v' : op.Ans) : Decidable ((userShared cfg).Alike op v v') :=
  inferInstanceAs (Decidable (AlikeAnswers cfg.users_quota op v v'))

/-! ## Runs -/

theorem program_tracks (stamp : Stamp) (call : UserCall) :
    ((userShared cfg).contract prog Unlocked s₀).Triple cfg.machine i
      ((userShared cfg).Tracks prog Unlocked i id (call.program cfg stamp))
      (call.program cfg stamp) (fun _ a => i ∈ a.2) fun _ a => i ∉ a.2 := by
  cases call with
  | create_user => exact create_user_tracks.map
  | update_user => exact update_user_tracks.map
  | delete_user => exact delete_user_tracks.map

end Methods

/-- **The user operations are serializable** in every run whose writes are made on answers
that still hold: the users left are those of the calls that returned, one after the other. -/
theorem users_serializable [Runtime] {ι : Type} [DecidableEq ι] (cfg : Settings)
    (stamps : ι → Stamp) (calls : ι → UserCall) (users : UserStore) (as : List (Act ι Time))
    (has : Config.Along cfg.machine (UserCall.programs cfg stamps calls)
      (Config.AtOps (userShared cfg).WritesOnTrueReads) (.start (.fresh users)) as)
    (hquiet : (Config.run cfg.machine (UserCall.programs cfg stamps calls)
      (.start (.fresh users)) as).Quiet) :
    Serializable cfg.machine (UserCall.programs cfg stamps calls) (.fresh users)
      (Config.run cfg.machine (UserCall.programs cfg stamps calls) (.start (.fresh users)) as) := by
  have htracks : ∀ i, ((userShared cfg).contract (UserCall.programs cfg stamps calls) Unlocked
      (.fresh users)).Triple cfg.machine i (fun a => i ∉ a.2) (UserCall.programs cfg stamps calls i)
      (fun _ a => i ∈ a.2) fun _ a => i ∉ a.2 :=
    fun i => (program_tracks (stamps i) (calls i)).pre fun _ _ h => ⟨h, fun _ _ _ => rfl⟩
  obtain ⟨order, hnd, hmem, s, hs, hv⟩ :=
    (userShared cfg).serializable (show Unlocked (.fresh users) from rfl) (fun _ _ => rfl) htracks
      has hquiet
  exact ⟨order, hnd, hmem, s, hs, .of_eq hv⟩

/-! ## Two updates of one user -/

section Example

def adminAndUser : UserStore :=
  ⟨[sampleUser "root" CSM_SUPER_USER_ROLE, sampleUser "carl" CSM_MANAGE_ROLE], by decide⟩

/-- The administrator changes carl's address, and carl's role. -/
def twoChanges : Bool → UserCall
  | true => .update_user "carl" (.ofEmail "carl@csm") "root"
  | false => .update_user "carl" (.ofRole CSM_MONITOR_ROLE (by decide)) "root"

abbrev changing : Bool → Prog Response :=
  UserCall.programs (sampleSettings .database 0 0 .blank) (fun _ => ⟨"", 0, 0⟩) twoChanges

/-- Both read, and then both save. -/
def bothRead : List (Act Bool Time) :=
  List.replicate 5 (.run true) ++ List.replicate 5 (.run false) ++
    List.replicate 2 (.run true) ++ List.replicate 2 (.run false)

abbrev changed : Config Bool Op Op.Ans State Exc Response :=
  Config.run (sampleSettings .database 0 0 .blank).machine changing (.start (.fresh adminAndUser))
    bothRead

/-- In either order, carl has the new address. -/
theorem address_kept :
    (∀ s ∈ serialRun (sampleSettings .database 0 0 .blank).machine changing (.fresh adminAndUser)
      [true, false], ∀ u ∈ s.users, u.user_id = "carl" → u.email_address = "carl@csm") ∧
    (∀ s ∈ serialRun (sampleSettings .database 0 0 .blank).machine changing (.fresh adminAndUser)
      [false, true], ∀ u ∈ s.users, u.user_id = "carl" → u.email_address = "carl@csm") := by
  decide +kernel

/-- Interleaved, the second save puts the old one back. -/
theorem update_lost : changed.Quiet ∧
    ¬ Serializable (sampleSettings .database 0 0 .blank).machine changing (.fresh adminAndUser)
      changed := by
  refine ⟨by decide +kernel, ?_⟩
  rintro ⟨order, hnd, hmem, s, hs, -, hsame⟩
  have hall : ∀ i, i ∈ order := fun i => (hmem i).mpr (by revert i; decide +kernel)
  have hlen : order.length = 2 :=
    ((List.perm_ext_iff_of_nodup hnd (by decide)).mpr fun i => by
      cases i <;> simp [hall] : order.Perm [true, false]).length_eq
  have hcarl : ∃ v ∈ changed.state.users, v.user_id = "carl" ∧ v.email_address = "user@csm" := by
    decide +kernel
  obtain ⟨v, hv, hid, hmail⟩ := hcarl
  obtain ⟨u, hu, hsame⟩ := hsame v hv
  have hkept : u.email_address = "carl@csm" := by
    obtain ⟨i, j, rfl⟩ := List.length_eq_two.mp hlen
    have hij : i ≠ j := by simpa using hnd
    cases i with
    | true =>
        obtain rfl : j = false := by simpa using hij.symm
        exact address_kept.1 s hs u hu (hsame.user_id.trans hid)
    | false =>
        obtain rfl : j = true := by simpa using hij.symm
        exact address_kept.2 s hs u hu (hsame.user_id.trans hid)
  rw [hsame.email_address, hmail] at hkept
  exact absurd hkept (by decide)

/-- One after the other, both changes are kept. -/
theorem users_serializable_changes :
    Serializable (sampleSettings .database 0 0 .blank).machine changing (.fresh adminAndUser)
      (Config.run (sampleSettings .database 0 0 .blank).machine changing
        (.start (.fresh adminAndUser)) (List.replicate 7 (.run true) ++ List.replicate 7 (.run false))) :=
  users_serializable (sampleSettings .database 0 0 .blank) (fun _ => ⟨"", 0, 0⟩) twoChanges
    adminAndUser (List.replicate 7 (.run true) ++ List.replicate 7 (.run false))
    (by decide +kernel) (by decide +kernel)

end Example

end UserSerial

end CortxCsm
