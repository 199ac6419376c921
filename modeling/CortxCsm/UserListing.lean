/-
# `CortxCsm.UserListing` — `get_user_list`, read page by page

`UserManager.get_list` hands filter, order, offset and limit to the database, so each page is
cut out of the users as they are when it is read, while other requests create, change and
delete users.  Nobody's id changes, so in a list sorted by id a user only moves when another
one comes in or goes.

The database is not part of the repository.  Its answers to queries are a parameter, and so is
its `like`; what is relied on is `Answers`:

| | |
| :-- | :-- |
| `selects` | a query without offset and limit is answered with the users that pass its filter |
| `sorts` | they come in the order that it asks for |
| `cuts` | an offset and a limit take a part out of that answer |

**Proved here.**

    a request that the schema lets through is answered          (`get_user_list_ok`)
    its pages are the pages of the whole list                   (`shown_eq`)
    creating and changing users makes none of them vanish       (`users_stay`)
    who is missed, and who is read twice, while users change    (`user_pages_exact`)
-/
import CortxCsm.Lib.Effects
import CortxCsm.Lib.Paging
import CortxCsm.Users
import Mathlib.Data.List.Sort
import Mathlib.Data.String.Basic

namespace CortxCsm

/-! ## Queries -/

def CSM_USER_SORTABLE_FIELDS : List String :=
  ["user_id", "username", "email", "user_type", "role", "created_time", "updated_time",
    "email_address", "user_role"]

/-- The fields of `User` that a list of users can be sorted by. -/
inductive SortField
  | user_id
  | user_type
  | user_role
  | email_address
  | updated_time
  | created_time
  deriving DecidableEq

/-- `getattr(User, sort.field)`. -/
def SortField.ofName : String → Option SortField
  | "user_id" => some .user_id
  | "user_type" => some .user_type
  | "user_role" => some .user_role
  | "email_address" => some .email_address
  | "updated_time" => some .updated_time
  | "created_time" => some .created_time
  | _ => none

def SortField.le : SortField → User → User → Bool
  | .user_id, a, b => a.user_id ≤ b.user_id
  | .user_type, a, b => a.user_type ≤ b.user_type
  | .user_role, a, b => a.user_role ≤ b.user_role
  | .email_address, a, b => a.email_address ≤ b.email_address
  | .updated_time, a, b => a.updated_time ≤ b.updated_time
  | .created_time, a, b => a.created_time ≤ b.created_time

inductive SortOrder
  | ASC
  | DESC
  deriving DecidableEq

/-- `SortBy`, with the field looked up. -/
structure SortBy where
  field : SortField
  order : SortOrder

def SortBy.le (sort : SortBy) (a b : User) : Bool :=
  match sort.order with
  | .ASC => sort.field.le a b
  | .DESC => sort.field.le b a

/-- The fields that `get_list` filters by. -/
inductive FilterField
  | user_role
  | user_id

def FilterField.of : FilterField → User → String
  | .user_role => User.user_role
  | .user_id => User.user_id

/-- `Compare(field, 'like', text)`. -/
structure Compare where
  field : FilterField
  text : String

/-- `Query`; all of `filter_by` have to hold. -/
structure Query where
  offset : Option Nat
  limit : Option Nat
  order_by : Option SortBy
  filter_by : List Compare

/-- The query without its offset and limit. -/
def Query.whole (query : Query) : Query := { query with offset := none, limit := none }

/-- The user passes the filter. -/
def Query.passes (like : String → String → Bool) (query : Query) (user : User) : Bool :=
  query.filter_by.all fun compare => like (compare.field.of user) compare.text

/-- What an offset and a limit leave. -/
def cut (offset limit : Option Nat) (users : List User) : List User :=
  let rest := users.drop (offset.getD 0)
  match limit with
  | some limit => rest.take limit
  | none => rest

/-- What is relied on of a database that answers queries with `db` and compares with `like`. -/
structure Answers (like : String → String → Bool) (db : Query → UserStore → List User) : Prop where
  selects : ∀ (query : Query) (users : UserStore),
    (db query.whole users).Perm (users.rows.filter (query.passes like))
  sorts : ∀ (query : Query) (users : UserStore) (sort : SortBy), query.order_by = some sort →
    (db query.whole users).Pairwise fun a b => sort.le a b = true
  cuts : ∀ (query : Query) (users : UserStore),
    db query users = cut query.offset query.limit (db query.whole users)

section

variable (db : Query → UserStore → List User)

namespace UserManager

/-- An offset or a limit, unless it is 0. -/
def given (n : Option Nat) : Option Nat := n.filter (· ≠ 0)

/-- The comparison with a text, unless it is empty. -/
def likeIfGiven (field : FilterField) (text : Option String) : List Compare :=
  (text.filter (· ≠ "")).toList.map (Compare.mk field)

/-- The query that `get_list` builds. -/
def listQuery (offset limit : Option Nat) (sort : Option SortBy) (role username : Option String) :
    Query where
  offset := given offset
  limit := given limit
  order_by := sort
  filter_by := likeIfGiven .user_role role ++ likeIfGiven .user_id username

def get_list (offset limit : Option Nat) (sort : Option SortBy) (role username : Option String)
    (users : UserStore) : List User :=
  db (listQuery offset limit sort role username) users

end UserManager

/-- `CsmGetUsersSchema().load(query)`, without the offset and the limit. -/
structure GetUsersRequest where
  sort_by : String
  sort_dir : String
  username : Option String
  role : Option String
  sortable : sort_by ∈ CSM_USER_SORTABLE_FIELDS
  direction : sort_dir ∈ ["desc", "asc"]

namespace CsmUserService

def USERS_MSG_CANNOT_SORT : String := "users_non_sortable_field"

def field_mapping : String → Option String
  | "id" => some "user_id"
  | "username" => some "user_id"
  | "email" => some "email_address"
  | "role" => some "user_role"
  | _ => none

/-- `InvalidRequest`, for a field that is not sortable. -/
def cannotSort : Exc :=
  .csm ⟨.InvalidRequest, CSM_INVALID_REQUEST, some "Cannot sort by the selected field",
    some USERS_MSG_CANNOT_SORT, none⟩

/-- `get_user_list`, with the users as they are at its one await. -/
def get_user_list (limit offset : Option Nat) (sort_by sort_dir : String)
    (role username : Option String) (users : UserStore) : Except Exc (List UserDict) := do
  let sort_by := (field_mapping sort_by).getD sort_by
  if sort_by ≠ "" ∧ sort_by ∉ CSM_USER_SORTABLE_FIELDS then
    throw cannotSort
  match SortField.ofName sort_by with
  | none => throw .attributeError
  | some field =>
      let sort : SortBy := ⟨field, if sort_dir = "asc" then .ASC else .DESC⟩
      let user_list := UserManager.get_list db (UserManager.given offset)
        (UserManager.given limit) (some sort) role username users
      return user_list.map _user_to_dict

end CsmUserService

end

namespace UserListing

open CsmUserService UserManager Paging

/-! ## What a request shows -/

section Shown

variable (like : String → String → Bool) (db : Query → UserStore → List User) (r : GetUsersRequest)

/-- The ids that the request shows with that offset and limit. -/
def shown (offset limit : Option Nat) (users : UserStore) : List String :=
  match get_user_list db limit offset r.sort_by r.sort_dir r.role r.username users with
  | .ok user_list => user_list.map UserDict.id
  | .error _ => []

/-- The ids shown without offset and limit. -/
abbrev listing (users : UserStore) : List String := shown db r none none users

/-- Which users the request is about. -/
def wanted (user : User) : Bool :=
  (listQuery none none none r.role r.username).passes like user

variable {like db r}

/-- Without a filter for the role, the id decides. -/
theorem wanted_of_id (hrole : r.role = none) (user : User) : wanted like r user =
    (likeIfGiven .user_id r.username).all fun compare => like user.user_id compare.text := by
  unfold wanted Query.passes listQuery
  rw [hrole]
  unfold likeIfGiven
  simp [FilterField.of, Function.comp_def]

/-- Every field that the schema lets through is one of `User` by then. -/
theorem sortable_field : ∀ sort_by ∈ CSM_USER_SORTABLE_FIELDS, ∃ field,
    SortField.ofName ((field_mapping sort_by).getD sort_by) = some field ∧
      (field_mapping sort_by).getD sort_by ∈ CSM_USER_SORTABLE_FIELDS ∧
      (sort_by = "user_id" → field = .user_id) := by
  decide

theorem get_user_list_ok (db : Query → UserStore → List User) (r : GetUsersRequest) :
    ∃ sort : SortBy, (r.sort_by = "user_id" → sort.field = .user_id) ∧
      sort.order = (if r.sort_dir = "asc" then .ASC else .DESC) ∧
      ∀ limit offset users,
        get_user_list db limit offset r.sort_by r.sort_dir r.role r.username users =
          .ok ((get_list db (given offset) (given limit) (some sort) r.role r.username users).map
            _user_to_dict) := by
  obtain ⟨field, hname, hin, hid⟩ := sortable_field r.sort_by r.sortable
  refine ⟨⟨field, if r.sort_dir = "asc" then .ASC else .DESC⟩, hid, rfl, fun _ _ _ => ?_⟩
  unfold get_user_list
  simp only [hname, hin, not_true, and_false, if_false]
  rfl

theorem given_given (n : Option Nat) : given (given n) = given n := by
  cases n with
  | none => rfl
  | some n =>
      unfold given
      rw [Option.filter_filter]
      simp

/-- A page of the users that are answered. -/
theorem cut_page {size : Nat} (hsize : 0 < size) (n : Nat) (users : List User) :
    cut (given (some (n * size))) (given (some size)) users = page size n users := by
  have hlimit : given (some size) = some size :=
    Option.filter_eq_some_iff.mpr ⟨rfl, decide_eq_true hsize.ne'⟩
  have hoffset : (given (some (n * size))).getD 0 = n * size := by
    by_cases hzero : n * size = 0
    · rw [hzero]
      rfl
    · rw [show given (some (n * size)) = some (n * size) from
        Option.filter_eq_some_iff.mpr ⟨rfl, decide_eq_true hzero⟩]
      rfl
  unfold cut page
  rw [hlimit, hoffset]

/-- What is shown is cut out of one list, of the users that are wanted in the order of the
request. -/
theorem shown_eq (hdb : Answers like db) (r : GetUsersRequest) : ∃ sort : SortBy,
    (r.sort_by = "user_id" → sort.field = .user_id) ∧
    sort.order = (if r.sort_dir = "asc" then .ASC else .DESC) ∧
    ∀ users : UserStore, ∃ found : List User,
      found.Perm (users.rows.filter (wanted like r)) ∧
      (found.Pairwise fun a b => sort.le a b = true) ∧
      listing db r users = found.map User.user_id ∧
      ∀ size n, 0 < size →
        shown db r (some (n * size)) (some size) users = page size n (listing db r users) := by
  obtain ⟨sort, hfield, horder, hok⟩ := get_user_list_ok db r
  refine ⟨sort, hfield, horder, fun users => ?_⟩
  -- the query without offset and limit
  let query := listQuery none none (some sort) r.role r.username
  have hshown : ∀ offset limit, shown db r offset limit users =
      (cut (given offset) (given limit) (db query users)).map User.user_id := by
    intro offset limit
    unfold shown
    rw [hok limit offset users]
    show List.map UserDict.id (List.map _user_to_dict _) = _
    rw [List.map_map, get_list, hdb.cuts]
    simp only [listQuery, given_given]
    rfl
  have hall : listing db r users = (db query users).map User.user_id := hshown none none
  refine ⟨db query users, hdb.selects query users, hdb.sorts query users sort rfl, hall,
    fun size n hsize => ?_⟩
  rw [hall, hshown, cut_page hsize]
  exact map_page User.user_id size n _

/-! ## Sorted by id -/

/-- Who comes first in a list by id. -/
def Before (r : GetUsersRequest) (a b : String) : Prop :=
  if r.sort_dir = "asc" then a < b else b < a

instance : DecidableRel (Before r) := fun a b => by
  unfold Before
  infer_instance

instance : Std.Asymm (Before r) where
  asymm a b h h' := by
    unfold Before at h h'
    split at h
    · rename_i hasc
      rw [if_pos hasc] at h'
      exact lt_asymm h h'
    · rename_i hdesc
      rw [if_neg hdesc] at h'
      exact lt_asymm h h'

theorem before_iff {sort : SortBy} (hfield : sort.field = .user_id)
    (horder : sort.order = if r.sort_dir = "asc" then .ASC else .DESC) (a b : User) :
    Before r a.user_id b.user_id ↔ sort.le a b = true ∧ a.user_id ≠ b.user_id := by
  unfold Before SortBy.le
  rw [horder, hfield]
  split
  · rw [lt_iff_le_and_ne]
    exact and_congr_left' decide_eq_true_iff.symm
  · rw [lt_iff_le_and_ne, ne_comm]
    exact and_congr_left' decide_eq_true_iff.symm

theorem mem_listing (hdb : Answers like db) {users : UserStore} {x : String} :
    x ∈ listing db r users ↔
      ∃ user ∈ users, wanted like r user = true ∧ user.user_id = x := by
  obtain ⟨sort, -, -, h⟩ := shown_eq hdb r
  obtain ⟨found, hperm, -, hall, -⟩ := h users
  rw [hall, List.mem_map]
  simp only [hperm.mem_iff, List.mem_filter, and_assoc]
  rfl

theorem listing_sorted (hdb : Answers like db) (hsort : r.sort_by = "user_id")
    (users : UserStore) : (listing db r users).Pairwise (Before r) := by
  obtain ⟨sort, hfield, horder, h⟩ := shown_eq hdb r
  obtain ⟨found, hperm, hle, hall, -⟩ := h users
  rw [hall, List.pairwise_map]
  have hne : found.Pairwise fun a b => a.user_id ≠ b.user_id := by
    have hnodup : (users.rows.filter (wanted like r)).Pairwise fun a b => a.user_id ≠ b.user_id :=
      (List.pairwise_map.mp users.nodup).filter _
    exact hperm.symm.pairwise hnodup fun h => h.symm
  exact (hle.and hne).imp fun {a b} hab => (before_iff (hfield hsort) horder a b).mpr hab

end Shown

/-! ## Users who stay -/

section Requests

/-- No user has gone. -/
def Stay (s s' : State) : Prop :=
  ∀ x, (∃ user ∈ s.users, user.user_id = x) → ∃ user ∈ s'.users, user.user_id = x

theorem Stay.refl (s : State) : Stay s s := fun _ h => h

theorem Stay.trans {a b c : State} (hab : Stay a b) (hbc : Stay b c) : Stay a c :=
  fun x h => hbc x (hab x h)

theorem stay_of_users {s s' : State} (h : s'.users = s.users) : Stay s s' := by
  unfold Stay
  rw [h]
  exact fun _ hx => hx

/-- What has run when page `k` is read. -/
def moment {ι : Type} (segments : Nat → List (Act ι Time)) (k : Nat) : List (Act ι Time) :=
  (List.range (k + 1)).flatMap segments

theorem moment_succ {ι : Type} (segments : Nat → List (Act ι Time)) (k : Nat) :
    moment segments (k + 1) = moment segments k ++ segments (k + 1) := by
  unfold moment
  rw [List.range_succ, List.flatMap_append, List.flatMap_singleton]

variable [Runtime] {ι : Type}

abbrev Staying (cfg : Settings) {α : Type} (p : Prog α) : Prop := p.Within cfg.machine Stay

variable {cfg : Settings}

omit [Runtime] in
theorem staying_op {op : Op} (h : ∀ user_id, op ≠ .user_delete user_id) :
    Staying cfg (Coro.call op) := by
  refine .call fun s r s' he => ?_
  cases op with
  | user_delete user_id => exact absurd rfl (h user_id)
  | user_store user =>
      cases he
      rintro x ⟨y, hy, rfl⟩
      by_cases hid : y.user_id = user.user_id
      · exact ⟨user, Table.self_mem_upsert _ _, hid.symm⟩
      · exact ⟨y, Table.mem_upsert.mpr (.inr ⟨hy, hid⟩), rfl⟩
  | lock_acquire =>
      replace he : exec cfg.backend .lock_acquire s = some (r, s') := he
      simp only [exec] at he
      split at he
      · cases he
      · cases he
        exact stay_of_users rfl
  | user_get | user_count | user_count_admins | session_get | session_get_all | session_store
    | session_delete =>
      cases he
      exact stay_of_users rfl

theorem staying_get {purpose : Purpose} {user_id : String} :
    Staying cfg (UserManager.get purpose user_id) :=
  (staying_op fun _ => Op.noConfusion).bind fun _ => .ret _

theorem staying_create_user {stamp : Stamp} {user_id password role : String}
    {creator_id : Option String} {email : String} :
    Staying cfg (create_user cfg.users_quota stamp user_id password role creator_id email) := by
  have hcreator : Staying cfg (creatorOf creator_id) := by
    cases creator_id with
    | none => exact .ret none
    | some id =>
        rw [creatorOf]
        split
        · exact .ret none
        · exact staying_get
  have hcreate : ∀ user, Staying cfg (UserManager.create user) := by
    refine fun user => staying_get.bind fun existing_user => ?_
    cases existing_user with
    | some existing_user => exact .raise _
    | none => exact staying_op fun _ => Op.noConfusion
  have hbody : Staying cfg
      (createUnderLock cfg.users_quota stamp user_id password role creator_id email) := by
    refine hcreator.bind fun creator => ?_
    cases creator with
    | none => exact .raise _
    | some creator =>
        refine Coro.Within.raiseIf.bind fun _ => ?_
        refine (staying_op fun _ => Op.noConfusion).bind fun existing_users_count => ?_
        exact Coro.Within.raiseIf.bind fun _ => (hcreate _).bind fun _ => .ret _
  have hrelease : Staying cfg lock_release := .write fun _ => stay_of_users rfl
  exact (staying_op fun _ => Op.noConfusion).bind fun _ => (hbody.ensure hrelease).bind fun _ => .ret _

theorem staying_update_user {stamp : Stamp} {user_id : String} {new_values : UserPatch}
    {loggedin_user_id : String} :
    Staying cfg (update_user stamp user_id new_values loggedin_user_id) := by
  have hallowed : ∀ (rules : UpdateRules) loggedin_user user,
      Staying cfg (rules.allowed loggedin_user user) := by
    intro rules loggedin_user user
    unfold UpdateRules.allowed
    split
    · exact .raise _
    · exact .ret _
  have hrole : ∀ user loggedin_user role, Staying cfg (checkRole user loggedin_user role) := by
    intro user loggedin_user role
    unfold checkRole
    split
    · exact .ret ()
    · split
      · exact .ret ()
      · refine (hallowed _ _ _).bind fun allowed => Coro.Within.raiseIf.bind fun _ => ?_
        split
        · split
          · exact (staying_op fun _ => Op.noConfusion).bind fun _ => .raiseIf
          · exact .ret ()
        · exact .raiseIf
  have hpassword : ∀ user loggedin_user current_password,
      Staying cfg (checkCurrentPassword user loggedin_user current_password) := by
    intro user loggedin_user current_password
    unfold checkCurrentPassword
    split
    · exact .ret ()
    · split
      · refine Coro.Within.bind ?_ fun ok => .raiseIf
        unfold Passwd.verify
        split
        · exact .raise _
        · exact .raise _
        · split
          · exact .raise _
          · exact .ret _
      · exact .ret ()
  refine staying_get.bind fun user => ?_
  cases user with
  | none => exact .raise _
  | some user =>
      refine staying_get.bind fun loggedin_user => ?_
      cases loggedin_user with
      | none => exact .raise _
      | some loggedin_user =>
          refine Coro.Within.bind ?_ fun _ => ?_
          · refine (hallowed _ _ _).bind fun allowed => Coro.Within.raiseIf.bind fun _ => ?_
            exact (hrole _ _ _).bind fun _ => hpassword _ _ _
          · exact (staying_op fun _ => Op.noConfusion).bind fun _ => .ret _

/-- Without a request that deletes, no user goes. -/
theorem users_stay [DecidableEq ι] (cfg : Settings) (users : UserStore) (stamps : ι → Stamp)
    {calls : ι → UserCall}
    (h : ∀ i user_id loggedin_user_id, calls i ≠ .delete_user user_id loggedin_user_id)
    (as bs : List (Act ι Time)) :
    let after := fun as => Config.run cfg.machine (UserCall.programs cfg stamps calls)
      (.start (.fresh users)) as
    Stay (after as).state (after (as ++ bs)).state := by
  refine Config.within_run Stay.refl Stay.trans (fun _ _ => stay_of_users rfl) (fun i => ?_) _ as bs
  unfold UserCall.programs
  cases hcall : calls i with
  | create_user => exact .map staying_create_user
  | update_user => exact .map staying_update_user
  | delete_user user_id loggedin_user_id => exact absurd hcall (h i user_id loggedin_user_id)

/-! ## Reading page by page -/

/-- **Reading the users page by page.**  While users are created, changed and deleted, in any
interleaving, a client reads the pages of a list by id one after the other, up to one that is
not full.  A user who is listed throughout is on some page, unless one before him has gone from
the list between two reads; he is on one page only, unless one before him has come into it.
With no deletion going on, and no filter for the role, nobody who was there at first is missed;
while the list stays as it is, the pages are the list. -/
theorem user_pages_exact [DecidableEq ι] (like : String → String → Bool)
    (db : Query → UserStore → List User) (hdb : Answers like db) (cfg : Settings)
    (users₀ : UserStore) (stamps : ι → Stamp) (calls : ι → UserCall)
    (segments : Nat → List (Act ι Time)) (r : GetUsersRequest) (hsort : r.sort_by = "user_id")
    (size n : Nat) (hsize : 0 < size) :
    let users := fun k => (Config.run cfg.machine (UserCall.programs cfg stamps calls)
      (.start (.fresh users₀)) (moment segments k)).state.users
    let all := fun k => listing db r (users k)
    let page := fun k => shown db r (some (k * size)) (some size) (users k)
    (page n).length < size →
      (∀ x, (∀ k ≤ n, x ∈ all k) → (∀ k ≤ n, x ∉ page k) →
        ∃ k < n, ∃ y, Before r y x ∧ y ∈ all k ∧ y ∉ all (k + 1)) ∧
      (∀ x i j, i < j → (∀ k, i ≤ k → k ≤ j → x ∈ all k) → x ∈ page i → x ∈ page j →
        ∃ k, i ≤ k ∧ k < j ∧ ∃ y, Before r y x ∧ y ∉ all k ∧ y ∈ all (k + 1)) ∧
      ((∀ i user_id loggedin_user_id, calls i ≠ .delete_user user_id loggedin_user_id) →
        r.role = none → ∀ x ∈ all 0, ∃ k ≤ n, x ∈ page k) ∧
      ((∀ k ≤ n, all k = all 0) → (List.range (n + 1)).flatMap page = all 0) := by
  intro users all page hlast
  have hpage : ∀ k, page k = Paging.page size k (all k) := by
    intro k
    obtain ⟨sort, -, -, h⟩ := shown_eq hdb r
    obtain ⟨found, -, -, -, hpages⟩ := h (users k)
    exact hpages size k hsize
  have hsorted : ∀ k, (all k).Pairwise (Before r) := fun k => listing_sorted hdb hsort (users k)
  have hshort : (all n).length < (n + 1) * size := by
    rw [hpage] at hlast
    exact length_of_last hlast
  have hmissed : ∀ x, (∀ k ≤ n, x ∈ all k) → (∀ k ≤ n, x ∉ page k) →
      ∃ k < n, ∃ y, Before r y x ∧ y ∈ all k ∧ y ∉ all (k + 1) := by
    intro x hx hmissed
    exact left_of_missed hsorted hx hshort fun k hk => hpage k ▸ hmissed k hk
  refine ⟨hmissed, fun x i j hij hx hi hj => ?_, fun hcalls hrole x hx => ?_, fun hsame => ?_⟩
  · rw [hpage] at hi hj
    exact came_of_seen_twice hij hsorted hx hi hj
  · have hstay : ∀ k y, y ∈ all k → y ∈ all (k + 1) := by
      intro k y hy
      obtain ⟨user, huser, hwanted, hid⟩ := (mem_listing hdb).mp hy
      have hnext := users_stay cfg users₀ stamps hcalls (moment segments k)
        (segments (k + 1)) y ⟨user, huser, hid⟩
      rw [← moment_succ] at hnext
      obtain ⟨user', huser', hid'⟩ := hnext
      refine (mem_listing hdb).mpr ⟨user', huser', ?_, hid'⟩
      have hsame : wanted like r user' = wanted like r user := by
        rw [wanted_of_id hrole, wanted_of_id hrole, hid', hid]
      rw [hsame]
      exact hwanted
    have hthere : ∀ k, x ∈ all k := by
      intro k
      induction k with
      | zero => exact hx
      | succ k ih => exact hstay k x ih
    by_contra hnone
    obtain ⟨k, -, y, -, hin, hout⟩ := hmissed x (fun k _ => hthere k)
      fun k hk hmem => hnone ⟨k, hk, hmem⟩
    exact hout (hstay k y hin)
  · have hpages : (List.range (n + 1)).flatMap page =
        (List.range (n + 1)).flatMap fun k => Paging.page size k (all 0) := by
      refine List.flatMap_congr fun k hk => ?_
      rw [hpage, hsame k (Nat.le_of_lt_succ (List.mem_range.mp hk))]
    rw [hpages]
    rw [hsame n le_rfl] at hshort
    exact flatten_pages_of_last hshort

end Requests

/-! ## Abe, who comes in while the pages are read -/

section Example

/-- A database that sorts the users it has filtered. -/
def sorting (like : String → String → Bool) (query : Query) (users : UserStore) : List User :=
  let found := users.rows.filter (query.passes like)
  let sorted := match query.order_by with
    | some sort => found.insertionSort fun a b => sort.le a b = true
    | none => found
  cut query.offset query.limit sorted

theorem SortBy.trans_total (sort : SortBy) :
    IsTrans User (fun a b => sort.le a b = true) ∧ Std.Total fun a b => sort.le a b = true := by
  obtain ⟨field, order⟩ := sort
  have htrans : ∀ a b c : User, field.le a b = true → field.le b c = true →
      field.le a c = true := by
    intro a b c hab hbc
    cases field <;> exact decide_eq_true ((of_decide_eq_true hab).trans (of_decide_eq_true hbc))
  have htotal : ∀ a b : User, field.le a b = true ∨ field.le b a = true := by
    intro a b
    cases field <;> exact (le_total _ _).imp decide_eq_true decide_eq_true
  cases order with
  | ASC => exact ⟨⟨htrans⟩, ⟨htotal⟩⟩
  | DESC => exact ⟨⟨fun a b c hab hbc => htrans c b a hbc hab⟩, ⟨fun a b => htotal b a⟩⟩

theorem sorting_answers (like : String → String → Bool) : Answers like (sorting like) where
  selects query users := by
    unfold sorting
    cases horder : query.whole.order_by with
    | none => exact .refl _
    | some sort => exact List.perm_insertionSort _ _
  sorts query users sort hsort := by
    obtain ⟨htrans, htotal⟩ := SortBy.trans_total sort
    have horder : query.whole.order_by = some sort := hsort
    unfold sorting
    rw [horder]
    exact List.pairwise_insertionSort (fun a b => sort.le a b = true) _
  cuts query users := rfl

/-- The first users, two at a time. -/
def firstUsers : GetUsersRequest := ⟨"user_id", "asc", none, none, by decide, by decide⟩

def threeUsers : UserStore :=
  ((Table.empty.upsert (sampleUser "alice" CSM_SUPER_USER_ROLE)).upsert
    (sampleUser "bob" CSM_MONITOR_ROLE)).upsert (sampleUser "carol" CSM_MONITOR_ROLE)

def comesIn (_ : Fin 1) : UserCall :=
  .create_user "abe" "Seagate@1" CSM_MONITOR_ROLE (some "alice") "abe@csm"

/-- Abe is created after the first page has been read. -/
def betweenPages (k : Nat) : List (Act (Fin 1) Time) :=
  if k = 1 then List.replicate 10 (.run 0) else []

/-- Carol is on some page, and Bob is on two, as one before him has come in. -/
theorem user_pages_exact_abe :
    let users := fun k => (Config.run (sampleSettings .database 0 0 RoleManager.blank).machine
      (UserCall.programs (sampleSettings .database 0 0 RoleManager.blank) (fun _ => ⟨"salt", 0, 0⟩)
        comesIn) (.start (.fresh threeUsers)) (moment betweenPages k)).state.users
    let all := fun k => listing (sorting fun _ _ => false) firstUsers (users k)
    let page := fun k =>
      shown (sorting fun _ _ => false) firstUsers (some (k * 2)) (some 2) (users k)
    (∃ k ≤ 2, "carol" ∈ page k) ∧ "bob" ∈ page 0 ∧ "bob" ∈ page 1 ∧
      ∃ k, 0 ≤ k ∧ k < 1 ∧ ∃ y, Before firstUsers y "bob" ∧ y ∉ all k ∧ y ∈ all (k + 1) := by
  intro users all page
  obtain ⟨-, htwice, hnone, -⟩ := user_pages_exact (fun _ _ => false) (sorting fun _ _ => false)
    (sorting_answers _) (sampleSettings .database 0 0 RoleManager.blank) threeUsers
    (fun _ => ⟨"salt", 0, 0⟩) comesIn betweenPages firstUsers rfl 2 2 (by decide)
    (by decide +kernel)
  have hfirst : "bob" ∈ page 0 := by decide +kernel
  have hsecond : "bob" ∈ page 1 := by decide +kernel
  have hthere : ∀ k ≤ 1, "bob" ∈ all k := by decide +kernel
  exact ⟨hnone (fun _ _ _ => UserCall.noConfusion) rfl "carol" (by decide +kernel), hfirst, hsecond,
    htwice "bob" 0 1 (by decide) (fun k _ hk => hthere k hk) hfirst hsecond⟩

end Example

end UserListing

end CortxCsm
