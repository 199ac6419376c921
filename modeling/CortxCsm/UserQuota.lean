/-
# `CortxCsm.UserQuota` — the quota of users, and one user for each id

`create_user` counts, looks for the id and stores in three awaited steps, and only
its lock keeps them together; `delete_user` never takes the lock.  Whoever holds the
lock is the only one who stores, so for him the users can only become fewer: what he
has counted is still enough, and an id that was free is still free.

A request may be cancelled, or fail in the storage, at any of its awaits
(`Machine.faulty`); every way out of `create_user` goes through the `finally` that
releases the lock.

**Proved here.**

    storing a counted new user, and deleting, keep the quota   (`Room.insert`, `Room.shrink`)
    the holder's knowledge survives the others                 (`Holds.stable`)
    each method meets its contract, whatever goes wrong        (`create_user_triple`, …)
    the quota holds and the lock is free without a creation    (`quota_kept`)
-/
import CortxCsm.Lib.Faults
import CortxCsm.Users

namespace CortxCsm.UserQuota

open CsmUserService
open Contract.Triple (lift_bind lift_map lift_raiseIf lift_call lift_ensure)

/-! ## The store -/

/-- `P` stays when users go. -/
def Lasting (P : UserStore → Prop) : Prop :=
  ∀ users users' : UserStore, users'.rows.Sublist users.rows → P users → P users'

theorem Lasting.and {P Q : UserStore → Prop} (hP : Lasting P) (hQ : Lasting Q) :
    Lasting fun users => P users ∧ Q users :=
  fun _ _ hs h => ⟨hP _ _ hs h.1, hQ _ _ hs h.2⟩

theorem Lasting.const (p : Prop) : Lasting fun _ => p := fun _ _ _ h => h

theorem lasting_length (n : Nat) : Lasting fun users => users.rows.length ≤ n :=
  fun _ _ hs h => hs.length_le.trans h

section Runtime

variable [Runtime]

/-- At most `quota` users, and their ids differ up to case. -/
structure Room (quota : Int) (users : UserStore) : Prop where
  bounded : (users.rows.length : Int) ≤ quota
  distinct : ∀ a ∈ users, ∀ b ∈ users, lower a.user_id = lower b.user_id → a = b

variable {quota : Int} {users users' : UserStore}

/-- Fewer users. -/
theorem Room.shrink (h : Room quota users) (hs : users'.rows.Sublist users.rows) :
    Room quota users' where
  bounded := by
    have hlen := hs.length_le
    have hbound := h.bounded
    omega
  distinct := fun a ha b hb => h.distinct a (hs.subset ha) b (hs.subset hb)

/-- The id is not taken, up to case. -/
def Free (user_id : String) (users : UserStore) : Prop :=
  ∀ user ∈ users, lower user.user_id ≠ lower user_id

/-- One more user, with an id that was free. -/
theorem Room.insert (h : Room quota users) {user : User} (hroom : (users.rows.length : Int) < quota)
    (hfree : Free user.user_id users) : Room quota (users.upsert user) := by
  have hnew : ∀ other ∈ users, other.user_id ≠ user.user_id :=
    fun other ho hid => hfree other ho (by rw [hid])
  constructor
  · rw [Table.rows_upsert_of_new hnew, List.length_append, List.length_singleton]
    omega
  · intro a ha b hb hid
    rcases Table.mem_upsert.mp ha with ha | ⟨ha, -⟩
    · rcases Table.mem_upsert.mp hb with hb | ⟨hb, -⟩
      · rw [ha, hb]
      · rw [ha] at hid
        exact absurd hid.symm (hfree b hb)
    · rcases Table.mem_upsert.mp hb with hb | ⟨hb, -⟩
      · rw [hb] at hid
        exact absurd hid (hfree a ha)
      · exact h.distinct a ha b hb hid

/-! ## The contract -/

/-- The state of the process, with the armed fault. -/
abbrev Faulty := State × Option (Fault Exc)

/-- `acquire` takes the lock on its way out: cancelled, it has not. -/
def atomic : Op → Bool
  | .lock_acquire => true
  | _ => false

abbrev faultyMachine (cfg : Settings) :
    Machine Op Op.Ans Faulty Exc (Time ⊕ Fault Exc) := cfg.machine.faulty atomic

section Contract

variable {ι : Type} (creates : ι → Prop) (quota : Int)

/-- The ghost value is who holds the lock.  For him the others only make users fewer. -/
def quotaKept : Contract ι Op Op.Ans Faulty Exc (Option ι) where
  inv w holder := Room quota w.state.1.users ∧ (w.state.1.lock = true ↔ holder.isSome) ∧
    ∀ i ∈ holder, creates i
  rely i a b := (a.2 = some i ↔ b.2 = some i) ∧
    (a.2 = some i → b.1.state.1.users.rows.Sublist a.1.state.1.users.rows)
  may _ _ _ := True
  refl _ _ := ⟨Iff.rfl, fun _ => List.Sublist.refl _⟩
  trans _ _ _ _ h h' :=
    ⟨h.1.trans h'.1, fun ha => (h'.2 (h.1.mp ha)).trans (h.2 ha)⟩

/-- A boundary of the contract. -/
abbrev Bound (ι : Type) := World ι Op Op.Ans Faulty Exc × Option ι

/-- `i` does not hold the lock. -/
def Outside (i : ι) (a : Bound ι) : Prop := a.2 ≠ some i

/-- `i` holds the lock, and knows `P` of the users. -/
def Holds (i : ι) (P : UserStore → Prop) (a : Bound ι) : Prop :=
  a.2 = some i ∧ P a.1.state.1.users

theorem lasting_free (user_id : String) : Lasting (Free user_id) :=
  fun _ _ hs h user hu => h user (hs.subset hu)

variable {creates quota} {i : ι}

theorem Outside.stable : (quotaKept creates quota).Stable i (Outside i) :=
  fun _ _ h hr hb => h (hr.1.mpr hb)

theorem Holds.stable {P : UserStore → Prop} (hP : Lasting P) :
    (quotaKept creates quota).Stable i (Holds i P) :=
  fun _ _ h hr => ⟨hr.1.mp h.1, hP _ _ (hr.2 h.1) h.2⟩

/-- Whoever changes nobody's lock and only takes users away owes nothing more. -/
theorem guar_shrink {w w' : World ι Op Op.Ans Faulty Exc} {holder : Option ι}
    (hs : w'.state.1.users.rows.Sublist w.state.1.users.rows) :
    (quotaKept creates quota).guar i (w, holder) (w', holder) :=
  fun _ _ => ⟨Iff.rfl, fun _ => hs⟩

/-! ## Operations -/

variable {cfg : Settings}

/-- What an operation that at most takes users away leaves. -/
def Takes (op : Op) : Prop :=
  ∀ (b : Backend) (s s' : State) (r : Except Exc op.Ans), exec b op s = some (r, s') →
    s'.users.rows.Sublist s.users.rows ∧ s'.lock = s.lock

/-- Such an operation, and what its value `v` says of the users. -/
theorem takes_triple {op : Op} (hop : Takes op) {P : Bound ι → Prop}
    {R : op.Ans → Bound ι → Prop} {E : Bound ι → Prop}
    (hP : (quotaKept creates quota).Stable i P) (hR : ∀ v, (quotaKept creates quota).Stable i (R v))
    (hE : (quotaKept creates quota).Stable i E)
    (hok : ∀ w holder v s', P (w, holder) → exec cfg.backend op w.state.1 = some (.ok v, s'.1) →
      R v (w.answer i op (.ok v) s', holder))
    (herr : ∀ w holder e s', P (w, holder) → E (w.answer i op (.error e) s', holder)) :
    (quotaKept creates quota).Triple (faultyMachine cfg) i P (Coro.call op).lift R fun _ => E := by
  refine lift_call (.call hP hR (fun _ => hE) ?_)
  intro w holder r s' hinv hp _ he
  have hleft : s'.1.users.rows.Sublist w.state.1.users.rows ∧ s'.1.lock = w.state.1.lock := by
    rcases Machine.faulty_exec he with he | ⟨hs, -⟩ | ⟨-, _, r₀, -, he⟩
    · exact hop _ _ _ _ he
    · rw [hs]
      exact ⟨List.Sublist.refl _, rfl⟩
    · exact hop _ _ _ _ he
  refine ⟨holder, ⟨hinv.1.shrink hleft.1, ?_, hinv.2.2⟩, guar_shrink hleft.1, ?_⟩
  · show s'.1.lock = true ↔ _
    rw [hleft.2]
    exact hinv.2.1
  · cases r with
    | error e => exact herr w holder e s' hp
    | ok v =>
        rcases Machine.faulty_exec he with he | ⟨-, e, hr⟩ | ⟨-, e, _, hr, -⟩
        · exact hok w holder v s' hp he
        · cases hr
        · cases hr

/-- A read by whoever holds the lock. -/
theorem read_triple {op : Op} {P : UserStore → Prop} {V : op.Ans → UserStore → Prop}
    (hP : Lasting P) (hV : ∀ v, Lasting (V v))
    (hop : ∀ (b : Backend) (s s' : State) (r : Except Exc op.Ans), exec b op s = some (r, s') →
      s' = s ∧ ∀ v, r = .ok v → V v s.users) :
    (quotaKept creates quota).Triple (faultyMachine cfg) i (Holds i P) (Coro.call op).lift
      (fun v => Holds i fun users => P users ∧ V v users)
      fun _ => Holds i fun _ => True := by
  refine takes_triple ?_ (Holds.stable hP) (fun v => Holds.stable (hP.and (hV v)))
    (Holds.stable (.const True)) ?_ ?_
  · intro b s s' r he
    rw [(hop b s s' r he).1]
    exact ⟨List.Sublist.refl _, rfl⟩
  · intro w holder v s' hp he
    obtain ⟨hs, hv⟩ := hop _ _ _ _ he
    refine ⟨hp.1, ?_⟩
    show P s'.1.users ∧ V v s'.1.users
    rw [hs]
    exact ⟨hp.2, hv v rfl⟩
  · exact fun w holder e s' hp => ⟨hp.1, trivial⟩

theorem outside_triple {op : Op} (hop : Takes op) :
    (quotaKept creates quota).Triple (faultyMachine cfg) i (Outside i) (Coro.call op).lift
      (fun _ => Outside i) fun _ => Outside i :=
  takes_triple hop Outside.stable (fun _ => Outside.stable) Outside.stable
    (fun _ _ _ _ h _ => h) fun _ _ _ _ h => h

omit [Runtime] in
theorem takes_user_get (purpose : Purpose) (user_id : String) :
    Takes (.user_get purpose user_id) := by
  intro b s s' r he
  cases he
  exact ⟨List.Sublist.refl _, rfl⟩

omit [Runtime] in
theorem takes_user_count_admins : Takes .user_count_admins := by
  intro b s s' r he
  cases he
  exact ⟨List.Sublist.refl _, rfl⟩

omit [Runtime] in
theorem takes_user_delete (user_id : String) : Takes (.user_delete user_id) := by
  intro b s s' r he
  cases he
  exact ⟨List.filter_sublist, rfl⟩

/-- The holder reads all users: nobody else is stored, and nobody else will be. -/
theorem get_triple {P : UserStore → Prop} (hP : Lasting P) (user_id : String) :
    (quotaKept creates quota).Triple (faultyMachine cfg) i (Holds i P)
      (UserManager.get .role user_id).lift
      (fun user => Holds i fun users => P users ∧ (user = none → Free user_id users))
      fun _ => Holds i fun _ => True := by
  refine lift_bind (S := fun all_users => Holds i fun users => P users ∧
    ∀ user ∈ users, user ∈ all_users) ?_ ?_
  · refine read_triple hP (fun all_users users users' hs h user hu => h user (hs.subset hu)) ?_
    intro b s s' r he
    cases he
    exact ⟨rfl, fun v hv => by cases hv; exact fun _ hu => hu⟩
  · intro all_users
    refine .ret fun a _ h => ⟨h.1, h.2.1, fun hnone user hu => ?_⟩
    exact UserManager.search_none hnone user (h.2.2 user hu)

theorem count_triple :
    (quotaKept creates quota).Triple (faultyMachine cfg) i (Holds i fun _ => True)
      UserManager.count.lift
      (fun n => Holds i fun users => True ∧ users.rows.length ≤ n)
      fun _ => Holds i fun _ => True := by
  refine read_triple (.const True) lasting_length ?_
  intro b s s' r he
  cases he
  exact ⟨rfl, fun v hv => by cases hv; exact Nat.le_refl _⟩

theorem lock_acquire_triple (hcreates : creates i) :
    (quotaKept creates quota).Triple (faultyMachine cfg) i (Outside i) lock_acquire.lift
      (fun _ => Holds i fun _ => True) fun _ => Outside i := by
  refine lift_call (.call Outside.stable (fun _ => Holds.stable (.const True))
    (fun _ => Outside.stable) ?_)
  intro w holder r s' hinv hout _ he
  rcases Machine.faulty_exec he with he | ⟨hs, e, rfl⟩ | ⟨hatomic, -⟩
  · -- the lock was free, so nobody held it
    simp only [Settings.machine, exec] at he
    split at he
    · cases he
    · rename_i hfree
      have hnone : holder = none := by
        cases hh : holder with
        | none => rfl
        | some j =>
            rw [hh] at hinv
            exact absurd (hinv.2.1.mpr rfl) hfree
      obtain ⟨rfl, hs⟩ := Prod.mk.inj (Option.some.inj he)
      refine ⟨some i, ⟨?_, ?_, ?_⟩, ?_, rfl, trivial⟩
      · show Room quota s'.1.users
        rw [← hs]
        exact hinv.1
      · show s'.1.lock = true ↔ _
        rw [← hs]
        exact ⟨fun _ => rfl, fun _ => rfl⟩
      · intro j hj
        rw [← Option.mem_some.mp hj]
        exact hcreates
      · intro j hj
        rw [hnone]
        have hfrom : (none : Option ι) ≠ some j := (Option.some_ne_none j).symm
        have hto : some i ≠ some j := fun h => hj (Option.some.inj h).symm
        exact ⟨⟨fun h => absurd h hfrom, fun h => absurd h hto⟩, fun h => absurd h hfrom⟩
  · refine ⟨holder, ?_, ?_, hout⟩
    · show Room quota s'.1.users ∧ (s'.1.lock = true ↔ _) ∧ _
      rw [hs]
      exact hinv
    · refine guar_shrink ?_
      show s'.1.users.rows.Sublist w.state.1.users.rows
      rw [hs]
  · cases hatomic

theorem lock_release_triple {E : Exc → Bound ι → Prop} :
    (quotaKept creates quota).Triple (faultyMachine cfg) i (Holds i fun _ => True)
      lock_release.lift (fun _ => Outside i) E := by
  refine .write fun w holder hinv hheld => ⟨none, ⟨hinv.1, ?_, ?_⟩, ?_, ?_⟩
  · exact Iff.rfl
  · exact fun j hj => absurd hj (Option.not_mem_none j)
  · intro j hj
    have hfrom : holder ≠ some j := fun h => hj (Option.some.inj (h.symm.trans hheld.1))
    have hto : (none : Option ι) ≠ some j := (Option.some_ne_none j).symm
    exact ⟨⟨fun h => absurd h hfrom, fun h => absurd h hto⟩, fun h => absurd h hfrom⟩
  · exact (Option.some_ne_none i).symm

/-- The holder stores a new user. -/
theorem user_store_triple {user : User} :
    (quotaKept creates quota).Triple (faultyMachine cfg) i
      (Holds i fun users => (users.rows.length : Int) < quota ∧ Free user.user_id users)
      (Coro.call (Op.user_store user)).lift (fun _ => Holds i fun _ => True)
      fun _ => Holds i fun _ => True := by
  have hlasting : Lasting fun users => (users.rows.length : Int) < quota := by
    intro users users' hs h
    have hlen := hs.length_le
    omega
  refine lift_call (.call (Holds.stable (hlasting.and (lasting_free _)))
    (fun _ => Holds.stable (.const True)) (fun _ => Holds.stable (.const True)) ?_)
  intro w holder r s' hinv hheld _ he
  have hstored : (s'.1.users = w.state.1.users.upsert user ∨ s'.1.users = w.state.1.users) ∧
      s'.1.lock = w.state.1.lock := by
    rcases Machine.faulty_exec he with he | ⟨hs, -⟩ | ⟨-, _, _, -, he⟩
    · obtain ⟨-, hs⟩ := Prod.mk.inj (Option.some.inj he)
      rw [← hs]
      exact ⟨.inl rfl, rfl⟩
    · rw [hs]
      exact ⟨.inr rfl, rfl⟩
    · obtain ⟨-, hs⟩ := Prod.mk.inj (Option.some.inj he)
      rw [← hs]
      exact ⟨.inl rfl, rfl⟩
  have hroom : Room quota s'.1.users := by
    rcases hstored.1 with hs | hs
    · rw [hs]
      exact hinv.1.insert hheld.2.1 hheld.2.2
    · rw [hs]
      exact hinv.1
  refine ⟨holder, ⟨hroom, ?_, hinv.2.2⟩, ?_, ?_⟩
  · show s'.1.lock = true ↔ _
    rw [hstored.2]
    exact hinv.2.1
  · -- nobody else holds the lock
    intro j hj
    have hother : holder ≠ some j := fun h => hj (Option.some.inj (h.symm.trans hheld.1))
    exact ⟨Iff.rfl, fun h => absurd h hother⟩
  · cases r with
    | ok v => exact ⟨hheld.1, trivial⟩
    | error e => exact ⟨hheld.1, trivial⟩

/-! ## Methods -/

theorem creatorOf_triple (creator_id : Option String) :
    (quotaKept creates quota).Triple (faultyMachine cfg) i (Holds i fun _ => True)
      (creatorOf creator_id).lift (fun _ => Holds i fun _ => True)
      fun _ => Holds i fun _ => True := by
  unfold creatorOf
  split
  · exact .ret fun _ _ h => h
  · split
    · exact .ret fun _ _ h => h
    · exact (get_triple (.const True) _).weaken (fun _ _ _ h => ⟨h.1, trivial⟩) fun _ _ _ h => h

theorem create_triple {user : User} :
    (quotaKept creates quota).Triple (faultyMachine cfg) i
      (Holds i fun users => (users.rows.length : Int) < quota) (UserManager.create user).lift
      (fun _ => Holds i fun _ => True) fun _ => Holds i fun _ => True := by
  have hlasting : Lasting fun users => (users.rows.length : Int) < quota := by
    intro users users' hs h
    have hlen := hs.length_le
    omega
  refine lift_bind (get_triple hlasting user.user_id) fun existing_user => ?_
  cases existing_user with
  | some existing_user => exact .raise fun _ _ h => ⟨h.1, trivial⟩
  | none => exact user_store_triple.pre fun _ _ h => ⟨h.1, h.2.1, h.2.2 rfl⟩

theorem createUnderLock_triple (hquota : 0 < quota) (stamp : Stamp)
    (user_id password role : String) (creator_id : Option String) (email : String) :
    (quotaKept creates quota).Triple (faultyMachine cfg) i (Holds i fun _ => True)
      (createUnderLock quota stamp user_id password role creator_id email).lift
      (fun _ => Holds i fun _ => True) fun _ => Holds i fun _ => True := by
  refine lift_bind (creatorOf_triple creator_id) fun creator => ?_
  cases creator with
  | none => exact .raise fun _ _ h => h
  | some creator =>
      refine lift_bind (lift_raiseIf (fun _ _ _ h => h) (R := fun _ => Holds i fun _ => True)
        fun _ _ _ h => h) fun _ => ?_
      refine lift_bind count_triple fun existing_users_count => ?_
      refine lift_bind (lift_raiseIf
        (R := fun _ => Holds i fun users => (users.rows.length : Int) < quota)
        (fun _ _ _ h => ⟨h.1, trivial⟩) ?_) fun _ => ?_
      · intro hroom a _ h
        refine ⟨h.1, ?_⟩
        have hcount : (a.1.state.1.users.rows.length : Int) ≤ existing_users_count := by
          exact_mod_cast h.2.2
        omega
      · exact lift_bind create_triple fun _ => .ret fun _ _ h => h

/-- Whatever happens, the lock is given back. -/
theorem create_user_triple (hcreates : creates i) (hquota : 0 < quota) (stamp : Stamp)
    (user_id password role : String) (creator_id : Option String) (email : String) :
    (quotaKept creates quota).Triple (faultyMachine cfg) i (Outside i)
      (create_user quota stamp user_id password role creator_id email).lift
      (fun _ => Outside i) fun _ => Outside i := by
  refine lift_bind (lock_acquire_triple hcreates) fun _ => ?_
  refine lift_bind (S := fun _ => Outside i) (lift_ensure
    (createUnderLock_triple hquota stamp user_id password role creator_id email)
    (fun _ => lock_release_triple) fun _ => lock_release_triple) fun user => ?_
  exact .ret fun _ _ h => h

theorem checkLastAdmin_triple (user : User) (user_id : String) :
    (quotaKept creates quota).Triple (faultyMachine cfg) i (Outside i)
      (checkLastAdmin user user_id).lift (fun _ => Outside i) fun _ => Outside i := by
  unfold checkLastAdmin
  split
  · exact lift_bind (outside_triple takes_user_count_admins) fun _ =>
      lift_raiseIf (fun _ _ _ h => h) fun _ _ _ h => h
  · exact .ret fun _ _ h => h

theorem delete_user_triple (user_id loggedin_user_id : String) :
    (quotaKept creates quota).Triple (faultyMachine cfg) i (Outside i)
      (delete_user user_id loggedin_user_id).lift (fun _ => Outside i) fun _ => Outside i := by
  have hget : ∀ id, (quotaKept creates quota).Triple (faultyMachine cfg) i (Outside i)
      (UserManager.get .role id).lift (fun _ => Outside i) fun _ => Outside i :=
    fun id => lift_bind (outside_triple (takes_user_get .role id)) fun _ => .ret fun _ _ h => h
  refine lift_bind (hget user_id) fun user => ?_
  cases user with
  | none => exact .raise fun _ _ h => h
  | some user =>
      refine lift_bind (checkLastAdmin_triple user user_id) fun _ => ?_
      refine lift_bind (hget loggedin_user_id) fun loggedin_user => ?_
      cases loggedin_user with
      | none => exact .raise fun _ _ h => h
      | some loggedin_user =>
          refine lift_bind (lift_raiseIf (R := fun _ => Outside i) (fun _ _ _ h => h)
            fun _ _ _ h => h) fun _ => ?_
          refine lift_bind (outside_triple (takes_user_delete user.user_id)) fun _ => ?_
          exact .ret fun _ _ h => h

end Contract

/-! ## Runs -/

/-- A `create_user`. -/
def IsCreate : UserCall → Prop
  | .create_user .. => True
  | _ => False

/-- A `create_user` or a `delete_user`. -/
def IsCreateOrDelete : UserCall → Prop
  | .update_user .. => False
  | _ => True

variable {ι : Type} [DecidableEq ι] {cfg : Settings} {stamps : ι → Stamp} {calls : ι → UserCall}

/-- The coroutines of the calls, when faults may be armed. -/
def programs (cfg : Settings) (stamps : ι → Stamp) (calls : ι → UserCall) (i : ι) :
    Coro Op Op.Ans Faulty Exc Response :=
  ((calls i).program cfg (stamps i)).lift

omit [DecidableEq ι] in
theorem program_triple (stamps : ι → Stamp) (hcalls : ∀ i, IsCreateOrDelete (calls i))
    (hquota : 0 < cfg.users_quota) (i : ι) :
    (quotaKept (fun i => IsCreate (calls i)) cfg.users_quota).Triple (faultyMachine cfg) i
      (Outside i) (programs cfg stamps calls i) (fun _ => Outside i) fun _ => Outside i := by
  have hkind := hcalls i
  unfold programs
  cases h : calls i with
  | create_user user_id password role creator_id email =>
      refine lift_map (create_user_triple ?_ hquota _ user_id password role creator_id email)
      show IsCreate (calls i)
      rw [h]
      trivial
  | update_user user_id new_values loggedin_user_id =>
      rw [h] at hkind
      exact hkind.elim
  | delete_user user_id loggedin_user_id =>
      exact lift_map (delete_user_triple user_id loggedin_user_id)

/-- **The quota.**  Whatever is created, deleted, cancelled and denied, and whatever
fails, in every state reached there are at most `users_quota` users, with ids that
differ up to case, and the lock is free when no creation is in flight. -/
theorem quota_kept (hcalls : ∀ i, IsCreateOrDelete (calls i))
    (hquota : 0 < cfg.users_quota) {s : State} (hlock : s.lock = false)
    (hroom : Room cfg.users_quota s.users) (as : List (Act ι (Time ⊕ Fault Exc))) :
    let c := Config.run (faultyMachine cfg) (programs cfg stamps calls) (.start (s, none)) as
    Room cfg.users_quota c.state.1.users ∧
      ((∀ i, IsCreate (calls i) → ¬ (c.thread i).InFlight) → c.state.1.lock = false) := by
  intro c
  have henv : (quotaKept (fun i => IsCreate (calls i)) cfg.users_quota).AllowsEnv
      (faultyMachine cfg) := by
    intro w holder r hinv
    cases r with
    | inl elapsed => exact ⟨holder, hinv, fun _ => ⟨Iff.rfl, fun _ => List.Sublist.refl _⟩⟩
    | inr fault => exact ⟨holder, hinv, fun _ => ⟨Iff.rfl, fun _ => List.Sublist.refl _⟩⟩
  have hmay : ∀ (c : Config ι Op Op.Ans Faulty Exc Response) (a : Act ι (Time ⊕ Fault Exc)),
      Config.AtOps (quotaKept (fun i => IsCreate (calls i)) cfg.users_quota).may c a := by
    intro c a
    cases a with
    | run i => exact fun _ _ => trivial
    | env r => trivial
  have hstart : (quotaKept (fun i => IsCreate (calls i)) cfg.users_quota).inv
      ⟨(s, none), []⟩ none := by
    refine ⟨hroom, ?_, fun i hi => absurd hi (Option.not_mem_none i)⟩
    show s.lock = true ↔ _
    rw [hlock]
    exact Iff.rfl
  obtain ⟨holder, hinv, hthreads⟩ := Contract.Triple.run
    (fun i => Outside.stable) (fun i _ => Outside.stable) (fun i _ => Outside.stable) henv
    (program_triple stamps hcalls hquota) hstart (fun i => (Option.some_ne_none i).symm)
    (Config.along_of_forall hmay _ as)
  refine ⟨hinv.1, fun hquiet => ?_⟩
  have hnobody : holder = none := by
    cases hh : holder with
    | none => rfl
    | some i =>
        rw [hh] at hinv hthreads
        exact absurd rfl ((hthreads i).of_quiet (hquiet i (hinv.2.2 i rfl)))
  rw [hnobody] at hinv
  exact Bool.eq_false_of_not_eq_true fun hl => Bool.false_ne_true (hinv.2.1.mp hl)

end Runtime

/-! ## Two creations of one user, and a cancellation -/

section Example

def rootOnly : State := .fresh ⟨[sampleUser "root" CSM_SUPER_USER_ROLE], List.nodup_singleton _⟩

/-- Root creates the same user twice, in two spellings. -/
def bothCreate : Bool → UserCall
  | true => .create_user "alice" "Seagate@1" CSM_MONITOR_ROLE (some "root") "alice@csm"
  | false => .create_user "Alice" "Seagate@1" CSM_MONITOR_ROLE (some "root") "alice@csm"

/-- The first creation has counted when it is cancelled; the second waits for the lock. -/
def cancelled : List (Act Bool (Time ⊕ Fault Exc)) :=
  [.run true, .run true, .run false, .run false, .run true, .run true, .run true, .run true,
    .env (.inr (.lost .cancelledError)), .run true, .run true, .run false, .run false]

theorem quota_kept_cancelled :
    let cfg := sampleSettings .database 2 0 .blank
    let c := Config.run (faultyMachine cfg) (programs cfg (fun _ => ⟨"", 0, 0⟩) bothCreate)
      (.start (rootOnly, none)) cancelled
    Room cfg.users_quota c.state.1.users ∧
      ((∀ i, IsCreate (bothCreate i) → ¬ (c.thread i).InFlight) → c.state.1.lock = false) :=
  quota_kept (by rintro (_ | _) <;> trivial) (by decide) rfl
    ⟨by decide, by decide +kernel⟩ cancelled

end Example

end CortxCsm.UserQuota
