/-
# `CortxCsm.Storage` — the records, the two stores, and what awaiting them does

The services share one process state: the user store behind `UserManager`, the
session store behind `SessionFactory`, the lock of `CsmUserService`, and the
attributes of the one `QuotaSessionManager`.  A service method is a coroutine
over that state (`Prog`); it suspends only on the operations of `Op`, which are
the awaits of the storage wrappers and of `Lock.acquire`.  A wrapper repeats a
failing access; here every access succeeds, so each wrapper is one operation.

| | |
| :-- | :-- |
| `csm/core/data/models/users.py` | `User` |
| `csm/core/data/models/session.py` | `SessionModel` |
| `csm/core/services/session/session_factory.py` | `Session`, `InMemory`, `Database` |

`InMemory` keeps the session objects themselves and none of its methods
suspends; a coroutine that changes an object it got from there changes the store
(`assignExpiry`).  `Database` keeps models and every read builds new objects.
The store of the model is the table of sessions a read would build:
`convert_roundtrip` says that this is the session that was stored.
-/
import CortxCsm.Errors
import CortxCsm.Roles
import CortxCsm.Lib.Triple

namespace CortxCsm

/-! ## What comes with the interpreter -/

/-- `str.lower`, and `bcrypt` on texts.  `checkpw` is `none` where it raises
`ValueError` (its second argument is no hash). -/
class Runtime where
  lower : String → String
  hashpw : String → String → String
  checkpw : String → String → Option Bool
  checkpw_hashpw : ∀ password salt, checkpw password (hashpw password salt) = some true

export Runtime (lower hashpw checkpw)

/-- A text of the interpreter: characters, and halves of surrogate pairs that stand alone. -/
structure Str where
  points : List (Char ⊕ Fin 0x800)
  deriving DecidableEq

namespace Str

/-- A text of characters only. -/
def ofString (s : String) : Str := ⟨s.toList.map .inl⟩

instance : Coe String Str := ⟨ofString⟩

/-- `encode('utf-8')`, as the text that the bytes are of; half a pair has no encoding. -/
def encode (s : Str) : Option String := (s.points.mapM Sum.getLeft?).map String.ofList

@[simp] theorem encode_ofString (s : String) : (ofString s).encode = some s := by
  have hchars : ∀ l : List Char,
      (l.map (.inl : Char → Char ⊕ Fin 0x800)).mapM Sum.getLeft? = some l := by
    intro l
    induction l with
    | nil => rfl
    | cons c l ih => simp [List.mapM_cons, ih]
  simp [encode, ofString, hchars]

end Str

/-- Microseconds. -/
abbrev Time := Nat

/-! ## Users -/

def CSM_SUPER_USER_ROLE : String := "admin"
def CSM_MANAGE_ROLE : String := "manage"
def CSM_MONITOR_ROLE : String := "monitor"
def CSM_USER_ROLES : List String := [CSM_SUPER_USER_ROLE, CSM_MANAGE_ROLE, CSM_MONITOR_ROLE]

structure User where
  user_id : String
  user_type : String
  user_role : String
  user_password : Option String
  email_address : String
  reset_password : Option Bool
  alert_notification : Bool
  updated_time : Time
  created_time : Time
  deriving DecidableEq

/-- `Compare(User.user_role, '=', const.CSM_SUPER_USER_ROLE)`. -/
def User.isAdmin (user : User) : Bool := user.user_role = CSM_SUPER_USER_ROLE

@[simp] theorem User.isAdmin_iff {user : User} :
    user.isAdmin = true ↔ user.user_role = CSM_SUPER_USER_ROLE := decide_eq_true_iff

abbrev UserStore := Table User.user_id

/-! ## Sessions -/

/-- `LocalCredentials`; no other policy ever issues credentials. -/
structure LocalCredentials where
  user_id : String
  user_role : String
  deriving DecidableEq

structure Session where
  session_id : String
  expiry_time : Time
  credentials : LocalCredentials
  permissions : PermissionSet

/-- `get_user_role`. -/
def Session.get_user_role (session : Session) : String := session.credentials.user_role

abbrev SessionStore := Table Session.session_id

structure SessionModel where
  _session_id : String
  _expiry_time : Time
  _user_id : String
  _user_role : String
  _permission : Dict String (Finset String)

def convert_session_to_model (session : Session) : SessionModel where
  _session_id := session.session_id
  _expiry_time := session.expiry_time
  _user_id := session.credentials.user_id
  _user_role := session.credentials.user_role
  _permission := session.permissions._items

def convert_model_to_session (model : SessionModel) : Session where
  session_id := model._session_id
  expiry_time := model._expiry_time
  credentials := ⟨model._user_id, model._user_role⟩
  permissions := .init model._permission

@[simp] theorem convert_roundtrip (session : Session) :
    convert_model_to_session (convert_session_to_model session) = session := by
  cases session
  simp [convert_model_to_session, convert_session_to_model, PermissionSet.init_items]

/-! ## The process -/

/-- `session_backend_keys`: the backend the configuration selects. -/
inductive Backend
  | inMemory
  | database
  deriving DecidableEq

/-- What is fixed while the process runs.  `uuid4` gives the identifiers in the order
in which they are drawn. -/
structure Settings where
  users_quota : Int
  active_users_quota : Int
  backend : Backend
  role_manager : RoleManager
  uuid4 : Nat → String
  uuid4_injective : Function.Injective uuid4

structure State where
  users : UserStore
  lock : Bool
  sessions : SessionStore
  _active_users : Dict String Nat
  _active_users_restored : Bool
  clock : Time
  drawn : Nat

/-- The method that awaits a session-store operation; the store does not see it. -/
inductive Caller
  | create
  | update
  | _restore_active_users
  | _remove_expired_sessions
  | _is_valid_session_exists
  | delete_all_sessions_for_user
  deriving DecidableEq

/-- What the method that looks a user up does with the record; the store does not see it. -/
inductive Purpose
  /-- Reads all of it, -/
  | record
  /-- or its id and role only. -/
  | role
  deriving DecidableEq

/-- What the services await. -/
inductive Op
  | lock_acquire
  | user_get (purpose : Purpose) (user_id : String)
  | user_count
  | user_count_admins
  | user_store (user : User)
  | user_delete (user_id : String)
  | session_get (session_id : String)
  | session_get_all (caller : Caller)
  | session_store (caller : Caller) (session : Session)
  | session_delete (session_id : String)

@[reducible] def Op.Ans : Op → Type
  | .lock_acquire => Unit
  | .user_get _ _ => List User
  | .user_count => Nat
  | .user_count_admins => Nat
  | .user_store _ => Unit
  | .user_delete _ => Unit
  | .session_get _ => Option Session
  | .session_get_all _ => List Session
  | .session_store _ _ => Unit
  | .session_delete _ => Unit

namespace Backend

/-- `delete`: popping a missing key of `_stg` raises, deleting no document does not. -/
def delete (b : Backend) (sessions : SessionStore) (session_id : String) :
    Except Exc Unit × SessionStore :=
  match b with
  | .database => (.ok (), sessions.remove session_id)
  | .inMemory =>
      if (sessions.find? session_id).isSome then (.ok (), sessions.remove session_id)
      else (.error .keyError, sessions)

theorem delete_inMemory (sessions : SessionStore) (session_id : String) :
    Backend.inMemory.delete sessions session_id =
      if (sessions.find? session_id).isSome then (.ok (), sessions.remove session_id)
      else (.error .keyError, sessions) := rfl

/-- A deletion that does not raise. -/
theorem delete_ok {b : Backend} {sessions : SessionStore} {session_id : String}
    (h : (b.delete sessions session_id).1 = .ok ()) :
    b.delete sessions session_id = (.ok (), sessions.remove session_id) := by
  cases b with
  | database => rfl
  | inMemory =>
      rw [delete_inMemory] at h ⊢
      split
      · rfl
      · rename_i hs
        rw [if_neg hs] at h
        cases h

/-- What a deletion leaves was there before. -/
theorem mem_of_mem_delete {b : Backend} {sessions : SessionStore} {session_id : String}
    {session : Session} (h : session ∈ (b.delete sessions session_id).2) : session ∈ sessions := by
  cases b with
  | database => exact (Table.mem_remove.mp h).1
  | inMemory =>
      rw [delete_inMemory] at h
      split at h
      · exact (Table.mem_remove.mp h).1
      · exact h

/-- Both delete a session that is there. -/
theorem delete_of_stored {b : Backend} {sessions : SessionStore} {session_id : String}
    (h : ∃ session ∈ sessions, session.session_id = session_id) :
    b.delete sessions session_id = (.ok (), sessions.remove session_id) := by
  cases b with
  | database => rfl
  | inMemory =>
      refine if_pos ?_
      obtain ⟨session, hs, hid⟩ := h
      rw [Table.find?_eq_some.mpr ⟨hs, hid⟩, Option.isSome_some]

/-- `store`: what a later read hands out for `session`. -/
def store (b : Backend) (sessions : SessionStore) (session : Session) : SessionStore :=
  match b with
  | .database => sessions.upsert (convert_model_to_session (convert_session_to_model session))
  | .inMemory => sessions.upsert session

@[simp] theorem store_eq (b : Backend) (sessions : SessionStore) (session : Session) :
    b.store sessions session = sessions.upsert session := by
  cases b with
  | database => rw [store, convert_roundtrip]
  | inMemory => rfl

end Backend

/-- The answer to an operation, and the state it leaves. -/
def exec (b : Backend) : (op : Op) → State → Option (Except Exc op.Ans × State)
  | .lock_acquire, s => if s.lock then none else some (.ok (), { s with lock := true })
  | .user_get _ _, s => some (.ok s.users.rows, s)
  | .user_count, s => some (.ok s.users.rows.length, s)
  | .user_count_admins, s => some (.ok (s.users.count User.isAdmin), s)
  | .user_store user, s => some (.ok (), { s with users := s.users.upsert user })
  | .user_delete user_id, s => some (.ok (), { s with users := s.users.remove user_id })
  | .session_get session_id, s => some (.ok (s.sessions.find? session_id), s)
  | .session_get_all _, s => some (.ok s.sessions.rows, s)
  | .session_store _ session, s =>
      some (.ok (), { s with sessions := b.store s.sessions session })
  | .session_delete session_id, s =>
      some ((b.delete s.sessions session_id).1,
        { s with sessions := (b.delete s.sessions session_id).2 })

/-- The process: its operations, and a clock that moves on by itself. -/
def Settings.machine (cfg : Settings) : Machine Op Op.Ans State Exc Time where
  exec := exec cfg.backend
  env := fun elapsed s => { s with clock := s.clock + elapsed }

/-- One member of `Runtime`, to run the model with: case of ASCII letters only, and a
hash that shows the password before the salt. -/
instance (priority := low) asciiRuntime : Runtime where
  lower s := String.ofList (s.toList.map Char.toLower)
  hashpw password salt := String.ofList (password.toList ++ '$' :: salt.toList)
  checkpw password hashed :=
    if '$' ∈ hashed.toList then some ((password.toList ++ ['$']).isPrefixOf hashed.toList) else none
  checkpw_hashpw password salt := by simp

/-- Settings to run the model with. -/
def sampleSettings (backend : Backend) (users_quota active_users_quota : Int)
    (role_manager : RoleManager) : Settings where
  users_quota := users_quota
  active_users_quota := active_users_quota
  backend := backend
  role_manager := role_manager
  uuid4 n := String.ofList (List.replicate (n + 1) 'f')
  uuid4_injective n m h := by
    simpa using congrArg String.length h

/-- The process when it starts: these users, and no session. -/
def State.fresh (users : UserStore) : State where
  users := users
  lock := false
  sessions := Table.empty
  _active_users := Table.empty
  _active_users_restored := false
  clock := 0
  drawn := 0

/-! ## Programs -/

/-- A service method. -/
abbrev Prog := Coro Op Op.Ans State Exc

export Coro (raiseIf)

def lock_acquire : Prog Unit := Coro.call Op.lock_acquire

def lock_release : Prog Unit := Coro.write fun s => { s with lock := false }

/-- `session.expiry_time = expiry_time`, as the store sees it. -/
def expiryAssigned (b : Backend) (session_id : String) (expiry_time : Time) (s : State) : State :=
  match b, s.sessions.find? session_id with
  | .inMemory, some session =>
      { s with sessions := s.sessions.upsert { session with expiry_time := expiry_time } }
  | _, _ => s

def assignExpiry (b : Backend) (session_id : String) (expiry_time : Time) : Prog Unit :=
  Coro.write (expiryAssigned b session_id expiry_time)

/-- Nothing else is assigned. -/
theorem expiryAssigned_keeps (b : Backend) (session_id : String) (expiry_time : Time) (s : State) :
    (expiryAssigned b session_id expiry_time s).users = s.users ∧
      ∀ session ∈ (expiryAssigned b session_id expiry_time s).sessions, ∃ y ∈ s.sessions,
        y.session_id = session.session_id ∧ y.credentials = session.credentials := by
  unfold expiryAssigned
  split
  · rename_i found hfound
    refine ⟨rfl, fun session hm => ?_⟩
    rcases Table.mem_upsert.mp hm with rfl | ⟨hm, _⟩
    · exact ⟨found, (Table.find?_eq_some.mp hfound).1, rfl, rfl⟩
    · exact ⟨session, hm, rfl, rfl⟩
  · exact ⟨rfl, fun session hm => ⟨session, hm, rfl, rfl⟩⟩

end CortxCsm
