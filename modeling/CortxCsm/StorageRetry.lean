/-
# `CortxCsm.StorageRetry` — the retry wrappers of the storage calls

`UserManager` (`users.py`) and `Database` (`session_factory.py`) make every storage call
through a wrapper: a loop over `range(0, MAX_RETRY_COUNT)` that leaves at the first call that
does not raise, sleeps after a `DataAccessError` or a `ClientConnectorError`, and raises it on
the last pass.  The seven loops are written out by hand and differ in what follows a success.

| | |
| :-- | :-- |
| `break`, then `return response` | `UserManager._store`, `_count`, `_get` |
| `return response` inside the loop | `Database._get` |
| `break`, and nothing is returned | `UserManager._delete`, `Database._store`, `_delete` |

A loop without passes falls out of the first with an unbound name and of the others with
`None`; with at least one pass none of them is left but through a successful call or an
exception.

**Proved here.**

    all seven make the attempts they should         (`wrappers_meet`)
    a deletion does not say what the call returned  (`delete_drops`)
    the retries of `SessionFailure` are these       (`database_retries`)
-/
import CortxCsm.SessionFailure
import CortxCsm.Lib.Retry

namespace CortxCsm

namespace StorageRetry

open Retry

/-- What a storage call raises, and the error of Python's own. -/
inductive Failure
  | DataAccessError (desc : String)
  | ClientConnectorError (desc : String)
  | UnboundLocalError
  | other (e : Exc)
  deriving DecidableEq, Repr

/-- `except (DataAccessError, ClientConnectorError)`. -/
def Failure.retryable : Failure → Bool
  | .DataAccessError _ => true
  | .ClientConnectorError _ => true
  | _ => false

/-- `Compare(field, op, value)`. -/
structure Compare where
  field : String
  op : String
  value : String
  deriving DecidableEq, Repr

/-- The calls of `self.storage(User)`. -/
inductive UserRequest (Query : Type)
  | store (user : User)
  | count (filter_query : Option Compare)
  | get (query : Query)
  | delete (filter : Compare)

/-- The calls of `self.storage(SessionModel)`. -/
inductive SessionRequest (Query : Type)
  | get (query : Query)
  | store (sessionModel : SessionModel)
  | delete (filter : Compare)

section Wrappers

variable {R Query α : Type}

/-- What follows a loop that assigns a name and breaks: `return response`. -/
def bound : Option α → Retry.Prog R Failure (Option α)
  | some response => pure (some response)
  | none => throw .UnboundLocalError

/-- What follows a loop that returns out of itself. -/
def returned (response : Option α) : Retry.Prog R Failure (Option α) := pure response

/-- What follows a loop that breaks without a name. -/
def nothing (_ : Option α) : Retry.Prog R Failure (Option α) := pure none

/-- `UserManager.__init__`. -/
structure UserManager where
  MAX_RETRY_COUNT : Nat
  RETRY_SLEEP_DURATION : Nat

namespace UserManager

variable (self : UserManager) (outcomes : Nat → Except Failure α)

/-- The loop over `range(0, self.MAX_RETRY_COUNT)`. -/
def loop (r : UserRequest Query) : Retry.Prog (UserRequest Query) Failure (Option α) :=
  Retry.retrying Failure.retryable self.MAX_RETRY_COUNT self.RETRY_SLEEP_DURATION outcomes r

/-- "Stores a new user in DB." -/
def _store (user : User) : Retry.Prog (UserRequest Query) Failure (Option α) :=
  self.loop outcomes (.store user) >>= bound

/-- "Count operation based on query on DB." -/
def _count (filter_query : Option Compare) : Retry.Prog (UserRequest Query) Failure (Option α) :=
  self.loop outcomes (.count filter_query) >>= bound

/-- "Get users based on query from DB." -/
def _get (query : Query) : Retry.Prog (UserRequest Query) Failure (Option α) :=
  self.loop outcomes (.get query) >>= bound

/-- "Delete users based on query from DB." -/
def _delete (user_id : String) : Retry.Prog (UserRequest Query) Failure (Option α) :=
  self.loop outcomes (.delete ⟨"user_id", "=", user_id⟩) >>= nothing

end UserManager

/-- `Database.__init__`. -/
structure Database where
  MAX_RETRY_COUNT : Nat
  RETRY_SLEEP_DURATION : Nat

namespace Database

variable (self : Database) (outcomes : Nat → Except Failure α)

/-- The loop over `range(0, self.MAX_RETRY_COUNT)`. -/
def loop (r : SessionRequest Query) : Retry.Prog (SessionRequest Query) Failure (Option α) :=
  Retry.retrying Failure.retryable self.MAX_RETRY_COUNT self.RETRY_SLEEP_DURATION outcomes r

/-- "Get session details based on query from DB." -/
def _get (query : Query) : Retry.Prog (SessionRequest Query) Failure (Option α) :=
  self.loop outcomes (.get query) >>= returned

/-- "Stores session in DB." -/
def _store (sessionModel : SessionModel) : Retry.Prog (SessionRequest Query) Failure (Option α) :=
  self.loop outcomes (.store sessionModel) >>= nothing

/-- "Delete session based on query from DB." -/
def _delete (session_id : String) : Retry.Prog (SessionRequest Query) Failure (Option α) :=
  self.loop outcomes (.delete ⟨"_session_id", "=", session_id⟩) >>= nothing

end Database

end Wrappers

/-! ## One specification for the seven -/

section Spec

variable {R Query α : Type}

/-- What a wrapper that returns the response, or nothing, gives of it. -/
abbrev Answers (n : Nat) (outcomes : Nat → Except Failure α) (view : α → Option α) (r : R)
    (run : Retry.Prog R Failure (Option α)) : Prop :=
  Meets Failure.retryable n outcomes view r run

variable (manager : UserManager) (database : Database) (outcomes : Nat → Except Failure α)

/-- Whatever the outcomes of the calls, every wrapper makes `min(n, k + 1)` attempts, raises
the `n`-th error worth another attempt and any other error at once, and does not end well
without a call that did; the four that return something return what the first such call
returned. -/
theorem wrappers_meet (hmanager : 1 ≤ manager.MAX_RETRY_COUNT)
    (hdatabase : 1 ≤ database.MAX_RETRY_COUNT) (user : User) (filter_query : Option Compare)
    (query : Query) (user_id session_id : String) (sessionModel : SessionModel) :
    (Answers manager.MAX_RETRY_COUNT outcomes some (.store user : UserRequest Query)
        (manager._store outcomes user) ∧
      Answers manager.MAX_RETRY_COUNT outcomes some (.count filter_query : UserRequest Query)
        (manager._count outcomes filter_query) ∧
      Answers manager.MAX_RETRY_COUNT outcomes some (.get query)
        (manager._get outcomes query) ∧
      Answers manager.MAX_RETRY_COUNT outcomes (fun _ => none)
        (.delete ⟨"user_id", "=", user_id⟩ : UserRequest Query)
        (manager._delete outcomes user_id)) ∧
    Answers database.MAX_RETRY_COUNT outcomes some (.get query)
        (database._get outcomes query) ∧
      Answers database.MAX_RETRY_COUNT outcomes (fun _ => none)
        (.store sessionModel : SessionRequest Query) (database._store outcomes sessionModel) ∧
      Answers database.MAX_RETRY_COUNT outcomes (fun _ => none)
        (.delete ⟨"_session_id", "=", session_id⟩ : SessionRequest Query)
        (database._delete outcomes session_id) := by
  have hbound : ∀ {S : Type} (v : α), (bound (some v) : Retry.Prog S Failure (Option α)) =
      pure (some v) := fun _ => rfl
  have hnothing : ∀ {S : Type} (v : α), (nothing (some v) : Retry.Prog S Failure (Option α)) =
      pure none := fun _ => rfl
  refine ⟨⟨?_, ?_, ?_, ?_⟩, ?_, ?_, ?_⟩
  · exact meets_of_retrying hmanager hbound
  · exact meets_of_retrying hmanager hbound
  · exact meets_of_retrying hmanager hbound
  · exact meets_of_retrying hmanager hnothing
  · exact meets_of_retrying hdatabase fun _ => rfl
  · exact meets_of_retrying hdatabase hnothing
  · exact meets_of_retrying hdatabase hnothing

end Spec

/-- Two failures worth another attempt, a success, then a failure that is not. -/
def flaky : Nat → Except Failure Nat
  | 0 => .error (.DataAccessError "timeout")
  | 1 => .error (.ClientConnectorError "refused")
  | 2 => .ok 7
  | _ => .error (.other .typeError)

theorem wrappers_meet_flaky :
    1 ≤ (⟨3, 1⟩ : UserManager).MAX_RETRY_COUNT ∧ 1 ≤ (⟨2, 1⟩ : Database).MAX_RETRY_COUNT ∧
      Answers 3 flaky some (.get "all" : UserRequest String)
        (UserManager._get ⟨3, 1⟩ flaky "all") ∧
      Answers 2 flaky some (.get "all") (Database._get ⟨2, 1⟩ flaky "all") :=
  have h := wrappers_meet ⟨3, 1⟩ ⟨2, 1⟩ flaky (by decide) (by decide)
    ⟨"", "", "", none, "", none, false, 0, 0⟩ none "all" "" "" ⟨"", 0, "", "", Table.empty⟩
  ⟨by decide, by decide, h.1.2.2.1, h.2.1⟩

/-- A deletion that the storage answers with how many users it has deleted returns nothing. -/
theorem delete_drops :
    ¬ Answers 1 (fun _ => .ok 1) some (.delete ⟨"user_id", "=", "alice"⟩ : UserRequest String)
      (UserManager._delete ⟨1, 0⟩ (fun _ => .ok 1) "alice") := by
  intro h
  have hlead : leading Failure.retryable (fun _ => (.ok 1 : Except Failure Nat)) = (0 : Nat) := by
    refine leading_eq (fun i hi => absurd hi (Nat.not_lt_zero i)) ?_
    rintro ⟨e, he, -⟩
    cases he
  have hret := h.returns hlead (Nat.lt_succ_self 0) rfl
  cases hret

/-! ## The retries that a login meets -/

section SessionFailures

open SessionManager QuotaSessionManager SessionFailure

variable {cfg : Settings} {d : Retries} {s s' : State} {n : Nat}

/-- `except DataAccessError`, the only failure a call meets there. -/
def dataAccess (e : Exc) : Bool := e = .dataAccessError

/-- An operation of the session store, tried again as `SessionFailure` has it, is the loop over
the outcomes that its failures make. -/
theorem database_retries {op : Op} {r o : Except Exc op.Ans} (hop : fallThrough op = some r)
    (hb : cfg.backend = .database) (hn : 1 ≤ d.MAX_RETRY_COUNT)
    (ho : o ≠ .error .dataAccessError) (hexec : cfg.machine.exec op s = some (o, s'))
    (pause : Nat) :
    ∃ result,
      (Retry.retrying dataAccess d.MAX_RETRY_COUNT pause (told d.fails .dataAccessError o n) op
        []).1 = result.map some ∧
      (SessionFailure.machine cfg d).exec op (s, n) =
        some (result, if (passed d.fails d.MAX_RETRY_COUNT n).isSome then s' else s,
          n + (calls (Retry.retrying dataAccess d.MAX_RETRY_COUNT pause
            (told d.fails .dataAccessError o n) op []).2).length) := by
  have ho' : ¬ Again dataAccess o := by
    rintro ⟨e, he, hdata⟩
    exact ho (he.trans (congrArg Except.error (of_decide_eq_true hdata)))
  have hdata : dataAccess .dataAccessError = true := decide_eq_true rfl
  obtain ⟨result, hloop, hretried⟩ := retried_eq d.fails n op r hn hdata ho' hexec pause
  refine ⟨result, hloop, ?_⟩
  have hmachine : (SessionFailure.machine cfg d).exec op (s, n) =
      retried d.fails .dataAccessError r (cfg.machine.exec op) d.MAX_RETRY_COUNT (s, n) := by
    simp only [SessionFailure.machine, hb, hop]
  rw [hmachine, hretried]

end SessionFailures

end StorageRetry

end CortxCsm
