/-
# `CortxCsm.LastAdmin` — is there always an admin?

`delete_user` and `update_user` ask `count_admins() == 1` and write some awaits
later; neither takes the lock of `create_user`.  Two admins can therefore both
pass the guard and both go (`last_admin_lost`).

What the guard does buy is this.  Call an operation *removing* when the record
it deletes or overwrites is an admin's and none is put in its place.  If no
removing operation of another request falls between a request's first look at the
user store and its own removing operation, the admin the request relied on is still
there when it writes: another one than its target.

The proof is one outline for each method.  A request knows `Other i t` — if no
other request has removed an admin since my first read, some admin is not `t` —
which the rely keeps, and every removing write is covered by it.

**Proved here.**

    an operation that removes no admin keeps them all      (`exec_keeps_admin`)
    each method meets its contract                         (`create_user_triple`, …)
    under the condition there is always an admin           (`last_admin_kept`)
    without it the last one can go                         (`last_admin_lost`)
-/
import CortxCsm.Lib.Outline
import CortxCsm.Users

namespace CortxCsm.LastAdmin

open CsmUserService

/-! ## Admins -/

/-- The store holds at least one admin. -/
def HasAdmin (s : State) : Prop := ∃ user ∈ s.users, user.isAdmin

instance (s : State) : Decidable (HasAdmin s) :=
  inferInstanceAs (Decidable (∃ user ∈ s.users, user.isAdmin))

/-- `op` takes an admin away: it deletes one, or saves a record that is no admin's over one. -/
def Removes : Op → State → Prop
  | .user_store user, s => ¬ user.isAdmin ∧ ∃ old ∈ s.users, old.user_id = user.user_id ∧ old.isAdmin
  | .user_delete user_id, s => ∃ old ∈ s.users, old.user_id = user_id ∧ old.isAdmin
  | _, _ => False

instance : (op : Op) → (s : State) → Decidable (Removes op s)
  | .user_store user, s =>
      inferInstanceAs (Decidable (¬ user.isAdmin ∧
        ∃ old ∈ s.users, old.user_id = user.user_id ∧ old.isAdmin))
  | .user_delete user_id, s =>
      inferInstanceAs (Decidable (∃ old ∈ s.users, old.user_id = user_id ∧ old.isAdmin))
  | .lock_acquire, _ | .user_get _ _, _ | .user_count, _ | .user_count_admins, _
  | .session_get _, _ | .session_get_all _, _ | .session_store _ _, _ | .session_delete _, _ =>
      inferInstanceAs (Decidable False)

/-- An admin of `s` is, under its id, an admin of `s'`. -/
def AdminsStay (s s' : State) : Prop :=
  ∀ user ∈ s.users, user.isAdmin → ∃ user' ∈ s'.users, user'.user_id = user.user_id ∧ user'.isAdmin

theorem AdminsStay.refl (s : State) : AdminsStay s s := fun user hu ha => ⟨user, hu, rfl, ha⟩

theorem AdminsStay.trans {s s' s'' : State} (h : AdminsStay s s') (h' : AdminsStay s' s'') :
    AdminsStay s s'' := by
  intro user hu ha
  obtain ⟨user', hu', hid, ha'⟩ := h user hu ha
  obtain ⟨user'', hu'', hid', ha''⟩ := h' user' hu' ha'
  exact ⟨user'', hu'', hid'.trans hid, ha''⟩

theorem AdminsStay.of_users {s s' : State} (h : s'.users = s.users) : AdminsStay s s' :=
  fun user hu ha => ⟨user, h ▸ hu, rfl, ha⟩

/-- An operation that removes no admin keeps them all. -/
theorem exec_keeps_admin {b : Backend} {op : Op} {s s' : State} {r : Except Exc op.Ans}
    (h : exec b op s = some (r, s')) (hn : ¬ Removes op s) : AdminsStay s s' := by
  cases op with
  | user_store user =>
      simp only [exec, Option.some.injEq, Prod.mk.injEq] at h
      obtain ⟨-, rfl⟩ := h
      intro old hold ha
      by_cases hid : old.user_id = user.user_id
      · refine ⟨user, Table.self_mem_upsert _ _, hid.symm, ?_⟩
        by_contra hna
        exact hn ⟨hna, old, hold, hid, ha⟩
      · exact ⟨old, Table.mem_upsert.mpr (Or.inr ⟨hold, hid⟩), rfl, ha⟩
  | user_delete user_id =>
      simp only [exec, Option.some.injEq, Prod.mk.injEq] at h
      obtain ⟨-, rfl⟩ := h
      intro old hold ha
      have hid : old.user_id ≠ user_id := fun hid => hn ⟨old, hold, hid, ha⟩
      exact ⟨old, Table.mem_remove.mpr ⟨hold, hid⟩, rfl, ha⟩
  | lock_acquire =>
      simp only [exec] at h
      split at h
      · cases h
      · cases h
        exact .of_users rfl
  | _ =>
      simp only [exec, Option.some.injEq, Prod.mk.injEq] at h
      obtain ⟨-, rfl⟩ := h
      exact .of_users rfl

/-- Two admins, if there is one and they do not count one. -/
theorem exists_other_admin {users : UserStore} (h : ∃ user ∈ users, user.isAdmin)
    (hc : users.count User.isAdmin ≠ 1) (t : String) :
    ∃ user ∈ users, user.user_id ≠ t ∧ user.isAdmin := by
  obtain ⟨user, hu, ha⟩ := h
  by_cases ht : user.user_id = t
  · have hrem := Table.count_remove User.isAdmin hu
    rw [if_pos ha] at hrem
    have hpos : 0 < (users.remove user.user_id).count User.isAdmin := by
      have : 0 < users.count User.isAdmin := Table.count_pos.mpr ⟨user, hu, ha⟩
      omega
    obtain ⟨other, hother, ho⟩ := Table.count_pos.mp hpos
    obtain ⟨hother, hne⟩ := Table.mem_remove.mp hother
    exact ⟨other, hother, ht ▸ hne, ho⟩
  · exact ⟨user, hu, ht, ha⟩

/-! ## The condition on a run -/

section Contract

variable {ι : Type} [DecidableEq ι]

/-- The history since request `i`'s first answer. -/
def since (i : ι) (hist : List (Event ι Op Op.Ans State Exc)) :
    List (Event ι Op Op.Ans State Exc) :=
  hist.dropWhile fun e => e.who ≠ i

/-- No other request has removed an admin since `i`'s first answer. -/
def Undisturbed (i : ι) (hist : List (Event ι Op Op.Ans State Exc)) : Prop :=
  ∀ e ∈ since i hist, e.who ≠ i → ¬ Removes e.op e.before

/-- What a run is asked at the operation `op` of request `i`: where it removes an admin,
the request has not been disturbed. -/
def RemovesUndisturbed (i : ι) (op : Op) (w : World ι Op Op.Ans State Exc) : Prop :=
  Removes op w.state → Undisturbed i w.hist

instance (i : ι) (op : Op) (w : World ι Op Op.Ans State Exc) :
    Decidable (RemovesUndisturbed i op w) :=
  inferInstanceAs (Decidable (Removes op w.state →
    ∀ e ∈ since i w.hist, e.who ≠ i → ¬ Removes e.op e.before))

theorem since_append {i : ι} {hist es : List (Event ι Op Op.Ans State Exc)}
    (h : ∃ e ∈ hist, e.who = i) : since i (hist ++ es) = since i hist ++ es := by
  induction hist with
  | nil =>
      obtain ⟨e, he, _⟩ := h
      exact absurd he List.not_mem_nil
  | cons e hist ih =>
      by_cases he : e.who = i
      · simp [since, he]
      · have h' : ∃ e ∈ hist, e.who = i := by
          obtain ⟨e', he', hi⟩ := h
          rcases List.mem_cons.mp he' with rfl | he'
          · exact absurd hi he
          · exact ⟨e', he', hi⟩
        have hdrop : ∀ l, since i (e :: l) = since i l := fun l => by simp [since, he]
        rw [List.cons_append, hdrop, hdrop, ih h']

/-- The contract: an admin is stored; the others' steps keep all admins if none of them
was removing. -/
def lastAdmin : Contract ι Op Op.Ans State Exc Unit where
  inv w _ := HasAdmin w.state
  rely i a b := ∃ es, b.1.hist = a.1.hist ++ es ∧ (∀ e ∈ es, e.who ≠ i) ∧
    ((∀ e ∈ es, ¬ Removes e.op e.before) → AdminsStay a.1.state b.1.state)
  may := RemovesUndisturbed
  refl i a := ⟨[], by simp, by simp, fun _ => .refl _⟩
  trans := by
    rintro i a b c ⟨es, hes, hwho, hstay⟩ ⟨fs, hfs, hwho', hstay'⟩
    refine ⟨es ++ fs, by rw [hfs, hes, List.append_assoc], ?_, ?_⟩
    · intro e he
      exact (List.mem_append.mp he).elim (hwho e) (hwho' e)
    · intro hn
      exact (hstay fun e he => hn e (List.mem_append_left _ he)).trans
        (hstay' fun e he => hn e (List.mem_append_right _ he))

/-- What request `i` may conclude about a target `t`: undisturbed, it leaves an admin. -/
def Other (i : ι) (t : String) (w : World ι Op Op.Ans State Exc) : Prop :=
  (∃ e ∈ w.hist, e.who = i) ∧
    (Undisturbed i w.hist → ∃ user ∈ w.state.users, user.user_id ≠ t ∧ user.isAdmin)

theorem Other.stable {i : ι} {t : String} {a b : World ι Op Op.Ans State Exc × Unit}
    (h : Other i t a.1) (hr : lastAdmin.rely i a b) : Other i t b.1 := by
  obtain ⟨es, hes, hwho, hstay⟩ := hr
  obtain ⟨hseen, hother⟩ := h
  refine ⟨?_, ?_⟩
  · obtain ⟨e, he, hi⟩ := hseen
    exact ⟨e, hes ▸ List.mem_append_left _ he, hi⟩
  · intro hu
    unfold Undisturbed at hu
    rw [hes, since_append hseen] at hu
    obtain ⟨user, hm, hne, ha⟩ := hother fun e he => hu e (List.mem_append_left _ he)
    obtain ⟨user', hm', hid, ha'⟩ :=
      hstay (fun e he => hu e (List.mem_append_right _ he) (hwho e he)) user hm ha
    exact ⟨user', hm', hid ▸ hne, ha'⟩

/-- `i`'s own operation, if it changes no user. -/
theorem Other.answer {i : ι} {t : String} {w : World ι Op Op.Ans State Exc} (h : Other i t w)
    {op : Op} {r : Except Exc op.Ans} {s' : State} (hs : s'.users = w.state.users) :
    Other i t (w.answer i op r s') := by
  refine ⟨?_, ?_⟩
  · obtain ⟨e, he, hi⟩ := h.1
    exact ⟨e, List.mem_append_left _ he, hi⟩
  · intro hu
    unfold Undisturbed at hu
    rw [World.answer_hist, since_append h.1] at hu
    rw [World.answer_state, hs]
    exact h.2 fun e he => hu e (List.mem_append_left _ he)

/-- An admin that an answer has just shown. -/
theorem Other.now {i : ι} {t : String} {w : World ι Op Op.Ans State Exc} {op : Op}
    {r : Except Exc op.Ans} {s' : State}
    (h : ∃ user ∈ s'.users, user.user_id ≠ t ∧ user.isAdmin) :
    Other i t (w.answer i op r s') :=
  ⟨⟨_, List.mem_append_right _ (List.mem_singleton_self _), rfl⟩, fun _ => h⟩

/-! ## Operations -/

variable {cfg : Settings} {i : ι}

/-- What `i` knows of a set of targets. -/
def OtherThan (i : ι) (T : String → Prop) (a : World ι Op Op.Ans State Exc × Unit) : Prop :=
  ∀ t, T t → Other i t a.1

theorem OtherThan.stable (T : String → Prop) : lastAdmin.Stable i (OtherThan i T) :=
  fun _ _ h hr t ht => (h t ht).stable hr

/-- No obligation but the invariant: what an operation owes to the others it does by itself. -/
theorem guar_answer {w : World ι Op Op.Ans State Exc} {op : Op} {r : Except Exc op.Ans} {s' : State}
    (he : exec cfg.backend op w.state = some (r, s')) :
    lastAdmin.guar i (w, ()) (w.answer i op r s', ()) := by
  intro j hj
  refine ⟨[⟨i, op, w.state, r⟩], rfl, by simpa using hj.symm, ?_⟩
  intro hn
  exact exec_keeps_admin he (hn _ (List.mem_singleton_self _))

/-- An operation that changes no user. -/
theorem keep_triple {op : Op} {T : String → Prop} {V : op.Ans → World ι Op Op.Ans State Exc → Prop}
    (hV : ∀ v, lastAdmin.Stable i fun a => V v a.1)
    (hop : ∀ (w : World ι Op Op.Ans State Exc) r s', HasAdmin w.state →
      exec cfg.backend op w.state = some (r, s') →
      s'.users = w.state.users ∧ ∃ v, r = .ok v ∧ V v (w.answer i op r s')) :
    lastAdmin.Triple cfg.machine i (OtherThan i T) (Coro.call op)
      (fun v a => OtherThan i T a ∧ V v a.1) (fun _ _ => True) := by
  refine .call (OtherThan.stable T) (fun v => (OtherThan.stable T).and (hV v)) (fun _ => .const _) ?_
  intro w _ r s' hadmin hknown _ he
  obtain ⟨hs, v, rfl, hv⟩ := hop w r s' hadmin he
  refine ⟨(), ?_, guar_answer he, fun t ht => (hknown t ht).answer hs, hv⟩
  show HasAdmin s'
  unfold HasAdmin
  rw [hs]
  exact hadmin

theorem count_admins_triple {T : String → Prop} :
    lastAdmin.Triple cfg.machine i (OtherThan i T) UserManager.count_admins
      (fun num_admins a => OtherThan i T a ∧ (num_admins ≠ 1 → ∀ t, Other i t a.1))
      (fun _ _ => True) := by
  refine keep_triple (V := fun n w => n ≠ 1 → ∀ t, Other i t w) ?_ ?_
  · intro n a b h hr hn t
    exact (h hn t).stable hr
  · intro w r s' hadmin he
    simp only [exec, Option.some.injEq, Prod.mk.injEq] at he
    obtain ⟨rfl, rfl⟩ := he
    exact ⟨rfl, _, rfl, fun hn t => .now (exists_other_admin hadmin hn t)⟩

/-- A write: another admin than its target is known, unless it removes none. -/
theorem write_triple {op : Op} {t : String} {p : Prop}
    (hop : ∀ s, ∃ v s', exec cfg.backend op s = some (.ok v, s') ∧
      ∀ user ∈ s.users, user.user_id ≠ t → user ∈ s'.users)
    (hp : ∀ s, Removes op s → p) :
    lastAdmin.Triple cfg.machine i (fun a => p → Other i t a.1) (Coro.call op) (fun _ _ => True)
      (fun _ _ => True) := by
  refine .call (fun a b h hr hp => (h hp).stable hr) (fun _ => .const _) (fun _ => .const _) ?_
  intro w _ r s' hadmin hknown hm he
  refine ⟨(), ?_, guar_answer he, ?_⟩
  · by_cases hrem : Removes op w.state
    · obtain ⟨other, ho, hne, ha⟩ := (hknown (hp _ hrem)).2 (hm hrem)
      obtain ⟨v, s'', he', hkeep⟩ := hop w.state
      cases he.symm.trans he'
      exact ⟨other, hkeep other ho hne, ha⟩
    · obtain ⟨admin, hmem, ha⟩ := hadmin
      obtain ⟨admin', hmem', -, ha'⟩ := exec_keeps_admin he hrem admin hmem ha
      exact ⟨admin', hmem', ha'⟩
  · cases r with
    | ok v => trivial
    | error e => trivial

theorem user_store_triple {user : User} :
    lastAdmin.Triple cfg.machine i (fun a => ¬ user.isAdmin → Other i user.user_id a.1)
      (Coro.call (Op.user_store user)) (fun _ _ => True) (fun _ _ => True) :=
  write_triple
    (fun _ => ⟨_, _, rfl, fun _ hu hne => Table.mem_upsert.mpr (Or.inr ⟨hu, hne⟩)⟩)
    (fun _ h => h.1)

theorem user_delete_triple {user_id : String} :
    lastAdmin.Triple cfg.machine i (fun a => Other i user_id a.1) (UserManager.delete user_id)
      (fun _ _ => True) (fun _ _ => True) :=
  (write_triple (p := True)
    (fun _ => ⟨_, _, rfl, fun _ hu hne => Table.mem_remove.mpr ⟨hu, hne⟩⟩)
    (fun _ _ => trivial)).pre fun _ _ h _ => h

variable [Runtime]

/-- What a look-up shows: an admin is another one than any other target, and whoever is
no admin leaves the admin that is stored. -/
def Shows (i : ι) (user_id : String) : Option User → World ι Op Op.Ans State Exc → Prop
  | none, w => Other i user_id w
  | some user, w =>
      (user.isAdmin → ∀ t, t ≠ user.user_id → Other i t w) ∧
        (¬ user.isAdmin → Other i user.user_id w)

omit [Runtime] in
theorem Shows.stable {i : ι} {user_id : String} {user : Option User} :
    lastAdmin.Stable i fun a => Shows i user_id user a.1 := by
  intro a b h hr
  cases user with
  | none =>
      have h' : Other i user_id a.1 := h
      exact h'.stable hr
  | some user => exact ⟨fun ha t ht => (h.1 ha t ht).stable hr, fun ha => (h.2 ha).stable hr⟩

theorem shows_search {w : World ι Op Op.Ans State Exc} {user_id : String} {op : Op}
    {r : Except Exc op.Ans} (h : HasAdmin w.state) :
    Shows i user_id (UserManager.search w.state.users.rows user_id)
      (w.answer i op r w.state) := by
  obtain ⟨admin, hadmin, ha⟩ := h
  cases hs : UserManager.search w.state.users.rows user_id with
  | none =>
      have hne := UserManager.search_none hs admin hadmin
      exact .now ⟨admin, hadmin, fun e => hne (by rw [e]), ha⟩
  | some user =>
      have hu := (UserManager.search_some hs).1
      refine ⟨fun hua t ht => .now ⟨user, hu, ht.symm, hua⟩, fun hna => ?_⟩
      refine .now ⟨admin, hadmin, fun e => hna ?_, ha⟩
      rw [← Table.eq_of_key hadmin hu e]
      exact ha

theorem get_triple {purpose : Purpose} {user_id : String} {T : String → Prop} :
    lastAdmin.Triple cfg.machine i (OtherThan i T) (UserManager.get purpose user_id)
      (fun user a => OtherThan i T a ∧ Shows i user_id user a.1) (fun _ _ => True) := by
  refine (keep_triple
    (V := fun all_users w => Shows i user_id (UserManager.search all_users user_id) w)
    (fun _ => Shows.stable) ?_).bind fun all_users => .ret fun _ _ h => h
  intro w r s' hadmin he
  simp only [exec, Option.some.injEq, Prod.mk.injEq] at he
  obtain ⟨rfl, rfl⟩ := he
  exact ⟨rfl, _, rfl, shows_search hadmin⟩

/-! ## Methods -/

omit [Runtime] in
/-- An admin passes the guard only if there is another one. -/
theorem checkLastAdmin_triple {user : User} {user_id : String} :
    lastAdmin.Triple cfg.machine i (fun a => ¬ user.isAdmin → Other i user.user_id a.1)
      (checkLastAdmin user user_id) (fun _ a => Other i user.user_id a.1) (fun _ _ => True) := by
  unfold checkLastAdmin
  split
  · refine ((count_admins_triple (T := fun _ => False)).pre fun _ _ _ _ h => h.elim).bind ?_
    intro num_admins
    refine .raiseIf (fun _ _ _ _ => trivial) fun hn _ _ h => h.2 hn _
  · rename_i hrole
    exact .ret fun _ _ h => h fun hadmin => hrole (User.isAdmin_iff.mp hadmin)

theorem delete_user_triple {user_id loggedin_user_id : String} :
    lastAdmin.Triple cfg.machine i (fun _ => True) (delete_user user_id loggedin_user_id)
      (fun _ _ => True) (fun _ _ => True) := by
  refine ((get_triple (T := fun _ => False)).pre fun _ _ _ _ h => h.elim).bind ?_
  intro user
  cases user with
  | none => exact .raise fun _ _ _ => trivial
  | some user =>
      refine (checkLastAdmin_triple.pre fun _ _ h => h.2.2).bind fun _ => ?_
      refine ((get_triple (T := fun t => t = user.user_id)).pre fun _ _ h t ht => ht ▸ h).bind ?_
      intro loggedin_user
      cases loggedin_user with
      | none => exact .raise fun _ _ _ => trivial
      | some loggedin_user =>
          refine .guard (fun _ _ _ _ => trivial) fun _ => ?_
          refine (user_delete_triple.pre fun _ _ h => h.1 _ rfl).bind fun _ => ?_
          exact .ret fun _ _ _ => trivial

omit [Runtime] in
/-- A role change leaves another admin than the user. -/
theorem checkRoleChange_triple {user loggedin_user : User} {role : String}
    (hrank : user.isAdmin → loggedin_user.isAdmin) :
    lastAdmin.Triple cfg.machine i
      (fun a => (¬ user.isAdmin → Other i user.user_id a.1) ∧
        (loggedin_user.isAdmin → ∀ t, t ≠ loggedin_user.user_id → Other i t a.1))
      (checkRoleChange user loggedin_user role)
      (fun _ a => Other i user.user_id a.1) (fun _ _ => True) := by
  refine (allowed_triple fun _ _ _ => trivial).bind fun allowed => ?_
  refine .guard (fun _ _ _ _ => trivial) fun _ => ?_
  split
  · rename_i hadmin
    split
    · refine ((count_admins_triple (T := fun _ => False)).pre fun _ _ _ _ h => h.elim).bind ?_
      intro num_admins
      exact .raiseIf (fun _ _ _ _ => trivial) fun hn _ _ h => h.2 hn _
    · rename_i hne
      exact .ret fun _ _ h => h.1.2 (User.isAdmin_iff.mpr hadmin) _ hne
  · rename_i hadmin
    refine .raiseIf (fun _ _ _ _ => trivial) fun _ _ _ h => h.1.1 fun h' => hadmin ?_
    exact User.isAdmin_iff.mp (hrank h')

/-- What is saved either is an admin's record, or leaves another admin. -/
theorem _validate_user_update_triple {user loggedin_user : User} {new_values : UserPatch}
    (stamp : Stamp) :
    lastAdmin.Triple cfg.machine i
      (fun a => (¬ user.isAdmin → Other i user.user_id a.1) ∧
        (loggedin_user.isAdmin → ∀ t, t ≠ loggedin_user.user_id → Other i t a.1))
      (_validate_user_update user loggedin_user new_values)
      (fun _ a => ¬ (updated user new_values stamp).isAdmin → Other i user.user_id a.1)
      (fun _ _ => True) := by
  refine (allowed_triple fun _ _ _ => trivial).bind fun allowed => ?_
  refine .guard (fun _ _ _ _ => trivial) fun hallowed => ?_
  refine .of_fact (q := user.isAdmin → loggedin_user.isAdmin) ?_ fun hrank => ?_
  · rintro a _ ⟨_, rule, hrule, rfl⟩ hadmin
    rw [User.isAdmin_iff] at hadmin ⊢
    rcases passwd_rule hrule (by simpa using hallowed) with h | ⟨_, h | h⟩ | ⟨_, h, _⟩
    · exact h
    · exact absurd (hadmin.symm.trans h) (by decide)
    · exact absurd (hadmin.symm.trans h) (by decide)
    · exact absurd (hadmin.symm.trans h) (by decide)
  refine Contract.Triple.bind (S := fun _ a =>
    ¬ (updated user new_values stamp).isAdmin → Other i user.user_id a.1) ?_ fun _ =>
      checkCurrentPassword_triple.weaken (fun _ _ _ h => h) fun _ _ _ _ => trivial
  unfold checkRole
  split
  · rename_i hnone
    refine .ret fun _ _ h hn => h.1.1 fun hadmin => hn ?_
    simpa [updated, User.update, User.isAdmin, hnone] using hadmin
  · rename_i role hsome
    split
    · rename_i hempty
      have hknown := new_values.role_known role hsome
      rw [hempty] at hknown
      exact absurd hknown (by decide)
    · exact ((checkRoleChange_triple hrank).pre fun _ _ h => h.1).weaken
        (fun _ _ _ h _ => h) fun _ _ _ _ => trivial

theorem update_user_triple {stamp : Stamp} {user_id : String} {new_values : UserPatch}
    {loggedin_user_id : String} :
    lastAdmin.Triple cfg.machine i (fun _ => True)
      (update_user stamp user_id new_values loggedin_user_id) (fun _ _ => True)
      (fun _ _ => True) := by
  refine ((get_triple (T := fun _ => False)).pre fun _ _ _ _ h => h.elim).bind ?_
  intro user
  cases user with
  | none => exact .raise fun _ _ _ => trivial
  | some user =>
      refine ((get_triple (T := fun t => ¬ user.isAdmin ∧ t = user.user_id)).pre
        fun _ _ h t ht => ht.2 ▸ h.2.2 ht.1).bind ?_
      intro loggedin_user
      cases loggedin_user with
      | none => exact .raise fun _ _ _ => trivial
      | some loggedin_user =>
          refine ((_validate_user_update_triple stamp).pre fun _ _ h =>
            ⟨fun hn => h.1 _ ⟨hn, rfl⟩, h.2.1⟩).bind fun _ => ?_
          exact user_store_triple.bind fun _ => .ret fun _ _ _ => trivial

/-- A new record overwrites nobody its look-up could see. -/
theorem create_triple {user : User} :
    lastAdmin.Triple cfg.machine i (fun _ => True) (UserManager.create user) (fun _ _ => True)
      (fun _ _ => True) := by
  refine ((get_triple (T := fun _ => False)).pre fun _ _ _ _ h => h.elim).bind ?_
  intro existing_user
  cases existing_user with
  | none => exact user_store_triple.pre fun _ _ h _ => h.2
  | some existing_user => exact .raise fun _ _ _ => trivial

theorem createUnderLock_triple {users_quota : Int} {stamp : Stamp} {user_id password role : String}
    {creator_id : Option String} {email : String} :
    lastAdmin.Triple cfg.machine i (fun _ => True)
      (createUnderLock users_quota stamp user_id password role creator_id email)
      (fun _ _ => True) (fun _ _ => True) := by
  refine Contract.Triple.bind (S := fun _ _ => True) ?_ fun creator => ?_
  · unfold creatorOf
    split
    · exact .ret fun _ _ _ => trivial
    · split
      · exact .ret fun _ _ _ => trivial
      · exact ((get_triple (T := fun _ => False)).pre fun _ _ _ _ h => h.elim).weaken
          (fun _ _ _ _ => trivial) fun _ _ _ _ => trivial
  · cases creator with
    | none => exact .raise fun _ _ _ => trivial
    | some creator =>
        refine .guard (fun _ _ _ _ => trivial) fun _ => ?_
        refine ((keep_triple (T := fun _ => False) (V := fun _ _ => True) (fun _ => .const _)
          ?_).pre fun _ _ _ _ h => h.elim).bind fun existing_users_count => ?_
        · intro w r s' _ he
          simp only [exec, Option.some.injEq, Prod.mk.injEq] at he
          obtain ⟨rfl, rfl⟩ := he
          exact ⟨rfl, _, rfl, trivial⟩
        refine .guard (fun _ _ _ _ => trivial) fun _ => ?_
        exact (create_triple.pre fun _ _ _ => trivial).bind fun _ => .ret fun _ _ _ => trivial

theorem create_user_triple {users_quota : Int} {stamp : Stamp} {user_id password role : String}
    {creator_id : Option String} {email : String} :
    lastAdmin.Triple cfg.machine i (fun _ => True)
      (create_user users_quota stamp user_id password role creator_id email)
      (fun _ _ => True) (fun _ _ => True) := by
  have hrelease : lastAdmin.Triple cfg.machine i (fun _ => True) lock_release (fun _ _ => True)
      (fun _ _ => True) :=
    .write fun w x hadmin _ =>
      ⟨(), hadmin, fun _ _ => ⟨[], by simp, by simp, fun _ => .of_users rfl⟩, trivial⟩
  refine Contract.Triple.bind (S := fun _ _ => True) ?_ fun _ => ?_
  · refine ((keep_triple (T := fun _ => False) (V := fun _ _ => True) (fun _ => .const _) ?_).pre
      fun _ _ _ _ h => h.elim).weaken (fun _ _ _ _ => trivial) fun _ _ _ _ => trivial
    intro w r s' _ he
    simp only [exec] at he
    split at he
    · cases he
    · cases he
      exact ⟨rfl, _, rfl, trivial⟩
  · refine Contract.Triple.bind (.ensure createUnderLock_triple (fun _ => hrelease)
      fun _ => hrelease) fun _ => .ret fun _ _ _ => trivial

/-- Every request of the service meets the contract. -/
theorem program_triple (call : UserCall) (stamp : Stamp) :
    lastAdmin.Triple cfg.machine i (fun _ => True) (call.program cfg stamp) (fun _ _ => True)
      (fun _ _ => True) := by
  cases call with
  | create_user => exact .map create_user_triple
  | update_user => exact .map update_user_triple
  | delete_user => exact .map delete_user_triple

/-- **There is always an admin**, in every run in which no request removes an admin after
another request has removed one since its own first answer. -/
theorem last_admin_kept (cfg : Settings) (stamps : ι → Stamp) (calls : ι → UserCall) (s : State)
    (hs : HasAdmin s) (as : List (Act ι Time))
    (h : Config.Along cfg.machine (UserCall.programs cfg stamps calls)
      (Config.AtOps RemovesUndisturbed) (.start s) as) :
    HasAdmin (Config.run cfg.machine (UserCall.programs cfg stamps calls) (.start s) as).state := by
  have henv : (lastAdmin : Contract ι Op Op.Ans State Exc Unit).AllowsEnv cfg.machine :=
    fun w x elapsed hi => ⟨(), hi, fun _ => ⟨[], by simp, by simp, fun _ => .of_users rfl⟩⟩
  obtain ⟨_, hinv, _⟩ := Contract.Triple.run (fun _ => .const True) (fun _ _ => .const True)
    (fun _ _ => .const True) henv (fun i => program_triple (calls i) (stamps i)) (x := ()) hs
    (fun _ => trivial) h
  exact hinv

end Contract

/-! ## Two admins who delete themselves -/

section Example

def twoAdmins : State :=
  .fresh ⟨[sampleUser "alice" CSM_SUPER_USER_ROLE, sampleUser "bob" CSM_SUPER_USER_ROLE], by decide⟩

/-- Alice deletes alice, and bob deletes bob. -/
def bothLeave : Bool → UserCall
  | true => .delete_user "alice" "alice"
  | false => .delete_user "bob" "bob"

/-- Each on its own coroutine. -/
def bothLeaving : Bool → Prog Response :=
  UserCall.programs (sampleSettings .database 0 0 .blank) (fun _ => ⟨"", 0, 0⟩) bothLeave

/-- Both requests run up to their deletion, and then both delete. -/
def bothPassTheGuard : List (Act Bool Time) :=
  List.replicate 7 (.run true) ++ List.replicate 7 (.run false) ++
    List.replicate 2 (.run true) ++ List.replicate 2 (.run false)

/-- Both guards count two admins, and no admin is left. -/
theorem last_admin_lost :
    HasAdmin twoAdmins ∧
      ¬ HasAdmin (Config.run (sampleSettings .database 0 0 .blank).machine bothLeaving
        (.start twoAdmins) bothPassTheGuard).state := by
  decide +kernel

/-- Bob's request has begun when alice leaves, and has not yet counted the admins. -/
def bobCountsLate : List (Act Bool Time) :=
  List.replicate 3 (.run false) ++ List.replicate 9 (.run true) ++ List.replicate 6 (.run false)

/-- Bob's guard counts one admin, and bob remains. -/
theorem last_admin_kept_overlapping :
    HasAdmin (Config.run (sampleSettings .database 0 0 .blank).machine bothLeaving
      (.start twoAdmins) bobCountsLate).state :=
  last_admin_kept (sampleSettings .database 0 0 .blank) (fun _ => ⟨"", 0, 0⟩) bothLeave twoAdmins
    (by decide) bobCountsLate (by decide +kernel)

end Example

end CortxCsm.LastAdmin
