/-
# `CortxCsm.Capacity` — the capacity status, and the one error object of its service

`StorageCapacityService` has a single `CapacityError`.  A request that fails writes
its status and reason into it, leaves the contexts of the response and of the
client session, and only then do the views read it.

| | |
| :-- | :-- |
| `csm/core/services/storage_capacity.py` | `request`, `get_cluster_data`, `_create_error` |
| `csm/core/controllers/storage_capacity.py` | `CapacityStatusView`, `CapacityManagementView` |

What a session's attempts meet is a parameter (`Backend`), one outcome for each
attempt; leaving a context always succeeds.  `time.sleep` does not suspend.

What is proved: along a run in which no step overwrites the object while another
request has still to report what it wrote, every request answers for its own reply
(`capacity_not_mixed`); and that without this it does not (`capacity_mixed`).
-/
import CortxCsm.Lib.Coroutine

namespace CortxCsm

structure CapacityError where
  http_status : Nat
  message_id : String
  message : String
  deriving DecidableEq, Repr

/-- The attributes of the service; those of the error are set together. -/
structure CapacityService where
  capacity_error : Option CapacityError
  deriving DecidableEq, Repr

def CAPACITY_SERVICE_ERROR : Nat := 0x3010

inductive CapacityExc
  | ClientConnectorError
  | other
  | CsmInternalError (desc : String)
  | CsmHttpException (status error_code : Nat) (message_id message : String)
  | UnboundLocalError
  | AttributeError
  deriving DecidableEq, Repr

/-- How an attempt to get a reply ends: no connection, another error, or a status, a
reason and a body (`none` where it is no JSON). -/
inductive Attempt (B : Type)
  | refused
  | broken
  | reply (status : Nat) (reason : String) (body : Option B)

/-- The attempts of each session. -/
abbrev CapacityBackend (ι B : Type) := ι → Nat → Attempt B

/-! ## The operations -/

/-- The awaits; `retry` counts the requests of a session. -/
inductive CapacityOp (ι : Type)
  | enterSession (session : ι)
  | request (session : ι) (method url : String) (retry : Nat)
  | json (session : ι) (retry : Nat)
  | exitResponse (session : ι) (retry : Nat)
  | exitSession (session : ι)

/-- `resp.status` and `resp.reason`. -/
structure ClientResponse where
  status : Nat
  reason : String

/-- What `get_cluster_data` returns: the body, or the object of the service itself. -/
inductive ClusterData (B : Type)
  | body (data : B)
  | capacity_error

/-- Whether the operation leaves a context. -/
def CapacityOp.isExit {ι : Type} : CapacityOp ι → Bool
  | .exitResponse _ _ => true
  | .exitSession _ => true
  | _ => false

def CapacityOp.Ans {ι : Type} (B : Type) : CapacityOp ι → Type
  | .request .. => ClientResponse
  | .json .. => B
  | _ => Unit

section

variable {ι B : Type}

abbrev CapacityProg (ι B α : Type) :=
  Coro (CapacityOp ι) (CapacityOp.Ans B) CapacityService CapacityExc α

/-- What an operation is answered. -/
def CapacityBackend.answer (backend : CapacityBackend ι B) :
    (op : CapacityOp ι) → Except CapacityExc (op.Ans B)
  | .enterSession _ => .ok ()
  | .request session _ _ retry =>
      match backend session retry with
      | .refused => .error .ClientConnectorError
      | .broken => .error .other
      | .reply status reason _ => .ok ⟨status, reason⟩
  | .json session retry =>
      match backend session retry with
      | .reply _ _ (some data) => .ok data
      | _ => .error .other
  | .exitResponse _ _ => .ok ()
  | .exitSession _ => .ok ()

def capacityMachine (backend : CapacityBackend ι B) :
    Machine (CapacityOp ι) (CapacityOp.Ans B) CapacityService CapacityExc Empty where
  exec op s := some (backend.answer op, s)
  env r := r.elim

/-! ## The service and the views -/

def ClientSession.aenter (session : ι) : CapacityProg ι B Unit :=
  Coro.call (CapacityOp.enterSession session)

def ClientSession.request (session : ι) (method url : String) (retry : Nat) :
    CapacityProg ι B ClientResponse :=
  Coro.call (CapacityOp.request session method url retry)

def ClientSession.aexit (session : ι) : CapacityProg ι B Unit :=
  Coro.call (CapacityOp.exitSession session)

def ClientResponse.json (session : ι) (retry : Nat) : CapacityProg ι B B :=
  Coro.call (CapacityOp.json session retry)

def ClientResponse.aexit (session : ι) (retry : Nat) : CapacityProg ι B Unit :=
  Coro.call (CapacityOp.exitResponse session retry)

namespace StorageCapacityService

def _create_error (status : Nat) (reason : String) : CapacityProg ι B Unit :=
  Coro.write fun s => { s with capacity_error := some ⟨status, reason, reason⟩ }

/-- The body of `async with session.request(...) as resp`. -/
def handleResponse (session : ι) (retry : Nat) (expected_success_code : Nat)
    (resp : ClientResponse) : CapacityProg ι B (ClusterData B) :=
  if resp.status ≠ expected_success_code then do
    _create_error resp.status resp.reason
    return .capacity_error
  else do
    let data ← ClientResponse.json session retry
    return .body data

def request (session : ι) (method url : String) (expected_success_code retry : Nat) :
    CapacityProg ι B (ClusterData B) := do
  let resp ← ClientSession.request session method url retry
  Coro.ensure (handleResponse session retry expected_success_code resp)
    (ClientResponse.aexit session retry)

/-- The loop, with `left` attempts to come of `MAX_RETRY_COUNT`. -/
def fetch (session : ι) (method url : String) (expected_success_code MAX_RETRY_COUNT : Nat) :
    Nat → CapacityProg ι B (ClusterData B)
  | 0 => throw .UnboundLocalError
  | left + 1 =>
      Coro.handle (request session method url expected_success_code (MAX_RETRY_COUNT - (left + 1)))
        fun
        | .ClientConnectorError =>
            if left = 0 then do
              _create_error 503 "Unable to connect to the service"
              return .capacity_error
            else fetch session method url expected_success_code MAX_RETRY_COUNT left
        | _ => throw (.CsmInternalError "Error in obtaining response")

/-- What `Conf.get` returns: the service, the path, and how often to try. -/
structure Conf where
  endpoint : String
  cluster_api : String
  MAX_RETRY_COUNT : Nat

def clusterUrl (conf : Conf) (data_filter : Option String) : String :=
  match data_filter with
  | some resource =>
      if resource = "" then conf.endpoint ++ conf.cluster_api
      else conf.endpoint ++ conf.cluster_api ++ "/" ++ resource
  | none => conf.endpoint ++ conf.cluster_api

def get_cluster_data (conf : Conf) (session : ι) (data_filter : Option String) :
    CapacityProg ι B (ClusterData B) := do
  ClientSession.aenter session
  Coro.ensure (fetch session "GET" (clusterUrl conf data_filter) 200 conf.MAX_RETRY_COUNT
    conf.MAX_RETRY_COUNT) (ClientSession.aexit session)

end StorageCapacityService

open StorageCapacityService

/-- The second half of both views. -/
def respond : ClusterData B → CapacityProg ι B B
  | .body data => return data
  | .capacity_error => do
      match ← Coro.read CapacityService.capacity_error with
      | none => throw .AttributeError
      | some resp =>
          throw (.CsmHttpException resp.http_status CAPACITY_SERVICE_ERROR resp.message_id
            resp.message)

def CapacityStatusView.get (conf : Conf) (session : ι) : CapacityProg ι B B := do
  let resp ← get_cluster_data conf session none
  respond resp

def CapacityManagementView.get (conf : Conf) (session : ι) (path_param : String) :
    CapacityProg ι B B := do
  let resp ← get_cluster_data conf session (some path_param)
  respond resp

/-- A request to one of the views. -/
inductive CapacityCall
  | status
  | management (path_param : String)

def CapacityCall.program (conf : Conf) (session : ι) : CapacityCall → CapacityProg ι B B
  | .status => CapacityStatusView.get conf session
  | .management path_param => CapacityManagementView.get conf session path_param

/-- Both views do the same, with a different path. -/
theorem CapacityCall.program_eq (conf : Conf) (session : ι) (call : CapacityCall) :
    ∃ data_filter, (call.program conf session : CapacityProg ι B B) =
      get_cluster_data conf session data_filter >>= respond := by
  cases call with
  | status => exact ⟨none, rfl⟩
  | management path_param => exact ⟨some path_param, rfl⟩

/-! ## What a request has of its own -/

/-- The error a reply of the backend stands for: a status other than 200, or the last
attempt without a connection. -/
def CapacityBackend.failure (backend : CapacityBackend ι B) (MAX_RETRY_COUNT : Nat) :
    CapacityOp ι → Option CapacityError
  | .request session _ _ retry =>
      match backend session retry with
      | .reply status reason _ => if status ≠ 200 then some ⟨status, reason, reason⟩ else none
      | .refused =>
          if retry + 1 = MAX_RETRY_COUNT then
            some ⟨503, "Unable to connect to the service", "Unable to connect to the service"⟩
          else none
      | .broken => none
  | _ => none

def CapacityError.raised (error : CapacityError) : CapacityExc :=
  .CsmHttpException error.http_status CAPACITY_SERVICE_ERROR error.message_id error.message

/-- The body of a reply with status 200. -/
def bodyAnswer : Option B → Except CapacityExc B
  | some data => .ok data
  | none => .error (.CsmInternalError "Error in obtaining response")

/-- How a request should end, from its attempts. -/
def CapacityBackend.ownAnswer (backend : CapacityBackend ι B) (MAX_RETRY_COUNT : Nat)
    (session : ι) : Nat → Except CapacityExc B
  | 0 => .error .UnboundLocalError
  | left + 1 =>
      match backend session (MAX_RETRY_COUNT - (left + 1)) with
      | .reply status reason body =>
          if status ≠ 200 then .error (CapacityError.raised ⟨status, reason, reason⟩)
          else bodyAnswer body
      | .refused =>
          if left = 0 then
            .error (CapacityError.raised ⟨503, "Unable to connect to the service",
              "Unable to connect to the service"⟩)
          else backend.ownAnswer MAX_RETRY_COUNT session left
      | .broken => .error (.CsmInternalError "Error in obtaining response")

/-! ## Between the write and the read

`Follows` reads one request from top to bottom.  `unread` is the error it has written and
not yet read, `fresh` the failure of its last operation: it writes exactly that, at once,
and until it reads it does nothing but leave its contexts. -/

structure Mode where
  unread : Option CapacityError
  fresh : Option CapacityError

section Follows

variable {α β : Type} (backend : CapacityBackend ι B) (limit : Nat)

def Follows (Q : Except CapacityExc α → Mode → Prop) : CapacityProg ι B α → Mode → Prop
  | .ret a, m => Q (.ok a) m
  | .raise e, m => Q (.error e) m
  | .await op k, m => (m.unread ≠ none → op.isExit = true) ∧
      Follows Q (k (backend.answer op)) ⟨m.unread, backend.failure limit op⟩
  | .sync u k, m => ∀ s : CapacityService,
      (∀ error, m.unread = some error → s.capacity_error = some error) →
        (u s = s ∧ Follows Q (k s) m) ∨
          ∃ error, m = ⟨none, some error⟩ ∧ u s = ⟨some error⟩ ∧
            Follows Q (k s) ⟨some error, some error⟩

variable {backend limit}

theorem follows_mono {Q Q' : Except CapacityExc α → Mode → Prop} (h : ∀ r m, Q r m → Q' r m) :
    ∀ {p : CapacityProg ι B α} {m : Mode}, Follows backend limit Q p m →
      Follows backend limit Q' p m := by
  intro p
  induction p with
  | ret a => exact fun hp => h _ _ hp
  | raise e => exact fun hp => h _ _ hp
  | await op k ih => exact fun hp => ⟨hp.1, ih _ hp.2⟩
  | sync u k ih =>
      intro m hp s hs
      rcases hp s hs with ⟨hu, hk⟩ | ⟨error, hm, hu, hk⟩
      · exact Or.inl ⟨hu, ih s hk⟩
      · exact Or.inr ⟨error, hm, hu, ih s hk⟩

theorem follows_graft {Q : Except CapacityExc β → Mode → Prop}
    {k : Except CapacityExc α → CapacityProg ι B β} :
    ∀ {p : CapacityProg ι B α} {m : Mode},
      Follows backend limit (fun r => Follows backend limit Q (k r)) p m →
        Follows backend limit Q (p.graft k) m := by
  intro p
  induction p with
  | ret a => exact id
  | raise e => exact id
  | await op n ih => exact fun hp => ⟨hp.1, ih _ hp.2⟩
  | sync u n ih =>
      intro m hp s hs
      rcases hp s hs with ⟨hu, hk⟩ | ⟨error, hm, hu, hk⟩
      · exact Or.inl ⟨hu, ih s hk⟩
      · exact Or.inr ⟨error, hm, hu, ih s hk⟩

theorem follows_bind {Q : Except CapacityExc β → Mode → Prop} {f : α → CapacityProg ι B β}
    {p : CapacityProg ι B α} {m : Mode} (hp : Follows backend limit (fun
      | .ok a => Follows backend limit Q (f a)
      | .error e => Q (.error e)) p m) : Follows backend limit Q (p >>= f) m := by
  show Follows backend limit Q (p.bind f) m
  rw [Coro.graft_bind]
  exact follows_graft (follows_mono (fun r _ hr => by cases r <;> exact hr) hp)

theorem follows_handle {Q : Except CapacityExc α → Mode → Prop}
    {h : CapacityExc → CapacityProg ι B α} {p : CapacityProg ι B α} {m : Mode}
    (hp : Follows backend limit (fun
      | .ok a => Q (.ok a)
      | .error e => Follows backend limit Q (h e)) p m) :
    Follows backend limit Q (p.handle h) m := by
  rw [Coro.graft_handle]
  exact follows_graft (follows_mono (fun r _ hr => by cases r <;> exact hr) hp)

/-- A context is left whatever happened in it. -/
theorem follows_ensure_exit (op : CapacityOp ι) {Q : Except CapacityExc α → Mode → Prop}
    (hop : op.isExit = true) {fin : CapacityProg ι B Unit}
    (hfin : ∃ k, fin = .await op k ∧ k (backend.answer op) = .ret ())
    {p : CapacityProg ι B α} {m : Mode}
    (hp : Follows backend limit (fun r m => Q r ⟨m.unread, backend.failure limit op⟩) p m) :
    Follows backend limit Q (p.ensure fin) m := by
  obtain ⟨k, rfl, hk⟩ := hfin
  rw [Coro.graft_ensure]
  refine follows_graft (follows_mono (fun r m hr => ?_) hp)
  cases r with
  | ok v =>
      refine ⟨fun _ => hop, ?_⟩
      show Follows backend limit Q (Coro.bind (k (backend.answer op)) _) _
      rw [hk]
      exact hr
  | error e =>
      refine ⟨fun _ => hop, ?_⟩
      show Follows backend limit Q (Coro.bind (k (backend.answer op)) _) _
      rw [hk]
      exact hr

theorem follows_create_error {Q : Except CapacityExc Unit → Mode → Prop} {status : Nat}
    {reason : String} {m : Mode} (hm : m = ⟨none, some ⟨status, reason, reason⟩⟩)
    (hQ : Q (.ok ()) ⟨some ⟨status, reason, reason⟩, some ⟨status, reason, reason⟩⟩) :
    Follows backend limit Q (_create_error status reason) m :=
  fun _ _ => Or.inr ⟨_, hm, rfl, hQ⟩

/-! ### The service and the views -/

theorem follows_enter {Q : Except CapacityExc Unit → Mode → Prop} {session : ι} {fresh}
    (hQ : Q (.ok ()) ⟨none, none⟩) :
    Follows backend limit Q (ClientSession.aenter session) ⟨none, fresh⟩ :=
  ⟨fun h => absurd rfl h, hQ⟩

/-- An attempt writes the error of its reply and nothing else. -/
theorem follows_request {session : ι} {method url : String} {retry : Nat} {fresh} :
    Follows backend limit (fun r m =>
        match backend session retry with
        | .reply status reason body =>
            if status ≠ 200 then
              r = .ok .capacity_error ∧ m.unread = some ⟨status, reason, reason⟩
            else m.unread = none ∧ match body with
              | some data => r = .ok (.body data)
              | none => r = .error .other
        | .refused => r = .error .ClientConnectorError ∧
            m = ⟨none, backend.failure limit (.request session method url retry)⟩
        | .broken => r = .error .other ∧ m.unread = none)
      (request session method url 200 retry) ⟨none, fresh⟩ := by
  unfold request
  refine follows_bind ⟨fun h => absurd rfl h, ?_⟩
  cases hreply : backend session retry with
  | refused =>
      simp only [CapacityBackend.answer, hreply]
      exact ⟨rfl, rfl⟩
  | broken =>
      simp only [CapacityBackend.answer, hreply]
      exact ⟨rfl, rfl⟩
  | reply status reason body =>
      by_cases hstatus : status ≠ 200
      · simp only [CapacityBackend.answer, CapacityBackend.failure, hreply, if_pos hstatus]
        show Follows backend limit _ (Coro.ensure (handleResponse session retry 200
          ⟨status, reason⟩) (ClientResponse.aexit session retry)) _
        refine follows_ensure_exit (.exitResponse session retry) rfl ⟨_, rfl, rfl⟩ ?_
        unfold handleResponse
        rw [if_pos hstatus]
        exact follows_bind (follows_create_error rfl ⟨rfl, rfl⟩)
      · simp only [CapacityBackend.answer, CapacityBackend.failure, hreply, if_neg hstatus]
        show Follows backend limit _ (Coro.ensure (handleResponse session retry 200
          ⟨status, reason⟩) (ClientResponse.aexit session retry)) _
        refine follows_ensure_exit (.exitResponse session retry) rfl ⟨_, rfl, rfl⟩ ?_
        unfold handleResponse
        rw [if_neg hstatus]
        refine follows_bind ⟨fun h => absurd rfl h, ?_⟩
        cases body with
        | some data =>
            simp only [CapacityBackend.answer, hreply]
            exact ⟨rfl, rfl⟩
        | none =>
            simp only [CapacityBackend.answer, hreply]
            exact ⟨rfl, rfl⟩

/-- What `get_cluster_data` ends with, for a request whose answer should be `own`: the
reference to the error object stands for the error it has not read yet. -/
def Fetched (own : Except CapacityExc B) :
    Except CapacityExc (ClusterData B) → Option CapacityError → Prop
  | .ok (.body data), unread => own = .ok data ∧ unread = none
  | .ok .capacity_error, unread => ∃ error, unread = some error ∧ own = .error error.raised
  | .error e, unread => own = .error e ∧ unread = none

theorem follows_fetch {session : ι} {method url : String} : ∀ {left : Nat} {fresh},
    left ≤ limit → Follows backend limit
      (fun r m => Fetched (backend.ownAnswer limit session left) r m.unread)
      (fetch session method url 200 limit left) ⟨none, fresh⟩
  | 0, _, _ => ⟨rfl, rfl⟩
  | left + 1, _, hleft => by
      refine follows_handle (follows_mono (fun r m h => ?_) follows_request)
      cases hreply : backend session (limit - (left + 1)) with
      | reply status reason body =>
          simp only [hreply] at h
          by_cases hstatus : status ≠ 200
          · have hown : backend.ownAnswer limit session (left + 1) =
                .error (CapacityError.raised ⟨status, reason, reason⟩) := by
              simp only [CapacityBackend.ownAnswer, hreply, if_pos hstatus]
            rw [if_pos hstatus] at h
            obtain ⟨rfl, hunread⟩ := h
            exact ⟨_, hunread, hown⟩
          · rw [if_neg hstatus] at h
            cases body with
            | some data =>
                have hown : backend.ownAnswer limit session (left + 1) = .ok data := by
                  simp only [CapacityBackend.ownAnswer, hreply, if_neg hstatus, bodyAnswer]
                obtain ⟨hunread, rfl⟩ := h
                exact ⟨hown, hunread⟩
            | none =>
                have hown : backend.ownAnswer limit session (left + 1) =
                    .error (.CsmInternalError "Error in obtaining response") := by
                  simp only [CapacityBackend.ownAnswer, hreply, if_neg hstatus, bodyAnswer]
                obtain ⟨hunread, rfl⟩ := h
                exact ⟨hown, hunread⟩
      | broken =>
          have hown : backend.ownAnswer limit session (left + 1) =
              .error (.CsmInternalError "Error in obtaining response") := by
            simp only [CapacityBackend.ownAnswer, hreply]
          simp only [hreply] at h
          obtain ⟨rfl, hunread⟩ := h
          exact ⟨hown, hunread⟩
      | refused =>
          have hlast : limit - (left + 1) + 1 = limit ↔ left = 0 := by omega
          simp only [hreply] at h
          obtain ⟨rfl, rfl⟩ := h
          simp only [CapacityBackend.failure, CapacityBackend.ownAnswer, hreply, hlast]
          by_cases hl : left = 0
          · rw [if_pos hl, if_pos hl, if_pos hl]
            exact follows_bind (follows_create_error rfl ⟨_, rfl, rfl⟩)
          · rw [if_neg hl, if_neg hl, if_neg hl]
            exact follows_fetch (Nat.le_of_succ_le hleft)

theorem follows_respond {own : Except CapacityExc B} {resp : ClusterData B} {m : Mode}
    (h : Fetched own (.ok resp) m.unread) :
    Follows backend limit (fun r _ => r = own) (respond resp) m := by
  cases resp with
  | body data => exact h.1.symm
  | capacity_error =>
      obtain ⟨error, hunread, rfl⟩ := h
      rintro ⟨capacity_error⟩ hs
      cases hs error hunread
      exact Or.inl ⟨rfl, rfl⟩

/-- A request answers for its own attempts. -/
theorem follows_program (conf : Conf) (session : ι) (call : CapacityCall) :
    Follows backend conf.MAX_RETRY_COUNT
      (fun r _ => r = backend.ownAnswer conf.MAX_RETRY_COUNT session conf.MAX_RETRY_COUNT)
      (call.program conf session) ⟨none, none⟩ := by
  obtain ⟨data_filter, hprog⟩ := call.program_eq (B := B) conf session
  rw [hprog]
  refine follows_bind (follows_bind (follows_enter ?_))
  show Follows backend conf.MAX_RETRY_COUNT _ (Coro.ensure _ (ClientSession.aexit session)) _
  refine follows_ensure_exit (.exitSession session) rfl ⟨_, rfl, rfl⟩ (follows_mono (fun r m h => ?_)
    (follows_fetch (Nat.le_refl _)))
  cases r with
  | ok resp => exact follows_respond h
  | error e => exact h.1.symm

/-- The code up to the next suspension: the object stays as it is, or the failure of the
last operation is written into it. -/
theorem follows_advance {Q : Except CapacityExc α → Mode → Prop} {p : CapacityProg ι B α} :
    ∀ {m : Mode} {s : CapacityService}, Follows backend limit Q p m →
      (∀ error, m.unread = some error → s.capacity_error = some error) →
      ∃ m', Follows backend limit Q (p.advance s).1 m' ∧
        (((p.advance s).2 = s ∧ m'.unread = m.unread) ∨
          ∃ error, m.fresh = some error ∧ (p.advance s).2 = ⟨some error⟩ ∧
            m'.unread = some error) := by
  induction p with
  | ret a => exact fun h _ => ⟨_, h, Or.inl ⟨rfl, rfl⟩⟩
  | raise e => exact fun h _ => ⟨_, h, Or.inl ⟨rfl, rfl⟩⟩
  | await op k _ => exact fun h _ => ⟨_, h, Or.inl ⟨rfl, rfl⟩⟩
  | sync u k ih =>
      intro m s h hs
      rcases h s hs with ⟨hu, hk⟩ | ⟨error, rfl, hu, hk⟩
      · simp only [Coro.advance, hu]
        exact ih s hk hs
      · have hwritten : ∀ error', some error = some error' →
            (⟨some error⟩ : CapacityService).capacity_error = some error' := fun _ he => he
        obtain ⟨m', hm', hchange⟩ := ih s hk hwritten
        simp only [Coro.advance, hu]
        refine ⟨m', hm', Or.inr ⟨error, rfl, ?_⟩⟩
        rcases hchange with hsame | ⟨error', hfresh, hnew⟩
        · exact hsame
        · cases hfresh
          exact hnew

end Follows

/-! ## Runs -/

theorem failure_of_isExit {backend : CapacityBackend ι B} {limit : Nat} {op : CapacityOp ι}
    (h : op.isExit = true) : backend.failure limit op = none := by
  cases op with
  | exitResponse session retry => rfl
  | exitSession session => rfl
  | _ => cases h

variable [DecidableEq ι]

abbrev CapacityConfig (ι B : Type) :=
  Config ι (CapacityOp ι) (CapacityOp.Ans B) CapacityService CapacityExc B

/-- The last operation of a request. -/
def lastOp (c : CapacityConfig ι B) (i : ι) : Option (CapacityOp ι) :=
  (c.world.hist.filter fun event => event.who = i).getLast?.map Event.op

section Runs

variable (backend : CapacityBackend ι B) (limit : Nat)

/-- A request in flight whose attempts have failed, and which is not just about to write
so: what it wrote it has still to read. -/
def Unreported (c : CapacityConfig ι B) (i : ι) : Prop :=
  (c.thread i).InFlight ∧
    (∃ event ∈ c.world.hist, event.who = i ∧ backend.failure limit event.op ≠ none) ∧
      ∀ p, c.thread i = .answered p → ∀ op, lastOp c i = some op →
        backend.failure limit op = none

/-- A step changes the error object only while no other request has an error to report. -/
def SparesOthers (prog : ι → CapacityProg ι B B) (c : CapacityConfig ι B) : Act ι Empty → Prop
  | .run i => (c.step (capacityMachine backend) prog (.run i)).state ≠ c.state →
      ∀ j, j ≠ i → ¬ Unreported backend limit c j
  | .env _ => True

/-- Where a request stands, with the error it has written and not read. -/
def TracksThread (Q : Except CapacityExc B → Mode → Prop) (unread : Option CapacityError)
    (last : Option (CapacityOp ι)) :
    Thread (CapacityOp ι) (CapacityOp.Ans B) CapacityService CapacityExc B → Prop
  | .idle => unread = none
  | .waiting p => ∃ fresh, Follows backend limit Q p ⟨unread, fresh⟩
  | .answered p => ∃ op, last = some op ∧ (unread ≠ none → op.isExit = true) ∧
      Follows backend limit Q p ⟨unread, backend.failure limit op⟩

/-- Every request is tracked, and the object holds what a request has written and not read. -/
structure Tracks (Q : ι → Except CapacityExc B → Mode → Prop) (x : ι → Option CapacityError)
    (c : CapacityConfig ι B) : Prop where
  thread : ∀ i, TracksThread backend limit (Q i) (x i) (lastOp c i) (c.thread i)
  failed : ∀ i error, x i = some error →
    ∃ event ∈ c.world.hist, event.who = i ∧ backend.failure limit event.op ≠ none
  object : ∀ i error, (c.thread i).InFlight → x i = some error →
    c.state.capacity_error = some error

variable {backend limit} {Q : ι → Except CapacityExc B → Mode → Prop}
  {x : ι → Option CapacityError} {c : CapacityConfig ι B}

theorem Tracks.unreported (h : Tracks backend limit Q x c) {i : ι} {error : CapacityError}
    (hi : (c.thread i).InFlight) (hx : x i = some error) : Unreported backend limit c i := by
  refine ⟨hi, h.failed i error hx, fun p hp op hop => ?_⟩
  have ht := h.thread i
  rw [hp] at ht
  obtain ⟨op', hop', hexit, -⟩ := ht
  rw [hop] at hop'
  cases hop'
  exact failure_of_isExit (hexit (by rw [hx]; exact Option.some_ne_none error))

/-- A request resumes, or is called. -/
theorem Tracks.resume (h : Tracks backend limit Q x c) {i : ι} {p : CapacityProg ι B B} {fresh}
    (hp : Follows backend limit (Q i) p ⟨x i, fresh⟩)
    (hobject : ∀ error, x i = some error → c.state.capacity_error = some error)
    (hfresh : ∀ error, fresh = some error →
      ∃ event ∈ c.world.hist, event.who = i ∧ backend.failure limit event.op ≠ none)
    (hspares : (p.advance c.state).2 ≠ c.state → ∀ j, j ≠ i → ¬ Unreported backend limit c j) :
    ∃ x', Tracks backend limit Q x' ⟨⟨(p.advance c.state).2, c.world.hist⟩,
      Function.update c.thread i (.waiting (p.advance c.state).1)⟩ := by
  obtain ⟨m', hm', hchange⟩ := follows_advance hp hobject
  refine ⟨Function.update x i m'.unread, ?_, ?_, ?_⟩
  · intro j
    by_cases hj : j = i
    · subst hj
      dsimp only
      rw [Function.update_self, Function.update_self]
      exact ⟨m'.fresh, hm'⟩
    · dsimp only
      rw [Function.update_of_ne hj, Function.update_of_ne hj]
      exact h.thread j
  · intro j error hx
    by_cases hj : j = i
    · subst hj
      rw [Function.update_self] at hx
      rcases hchange with ⟨-, hsame⟩ | ⟨error', hf, -, -⟩
      · exact h.failed j error (hsame.symm.trans hx)
      · exact hfresh error' hf
    · rw [Function.update_of_ne hj] at hx
      exact h.failed j error hx
  · intro j error hflight hx
    by_cases hj : j = i
    · subst hj
      rw [Function.update_self] at hx
      rcases hchange with ⟨hstate, hsame⟩ | ⟨error', -, hstate, hunread⟩
      · show (p.advance c.state).2.capacity_error = _
        rw [hstate]
        exact hobject error (hsame.symm.trans hx)
      · show (p.advance c.state).2.capacity_error = _
        rw [hstate]
        exact hunread.symm.trans hx
    · dsimp only at hflight
      rw [Function.update_of_ne hj] at hx hflight
      by_cases hstate : (p.advance c.state).2 = c.state
      · show (p.advance c.state).2.capacity_error = _
        rw [hstate]
        exact h.object j error hflight hx
      · exact absurd (h.unreported hflight hx) (hspares hstate j hj)

theorem lastOp_answer (w : World ι (CapacityOp ι) (CapacityOp.Ans B) CapacityService CapacityExc)
    (thread thread' : ι → Thread (CapacityOp ι) (CapacityOp.Ans B) CapacityService CapacityExc B)
    (i j : ι) (op : CapacityOp ι) (r : Except CapacityExc (op.Ans B)) (s : CapacityService) :
    lastOp ⟨w.answer i op r s, thread'⟩ j =
      if j = i then some op else lastOp ⟨w, thread⟩ j := by
  unfold lastOp
  rw [World.answer_hist, List.filter_append]
  by_cases hj : j = i
  · subst hj
    simp
  · simp [hj, Ne.symm hj]

/-- The operation of a request happens. -/
theorem Tracks.answered (h : Tracks backend limit Q x c) {i : ι} {op : CapacityOp ι}
    {k : Except CapacityExc (op.Ans B) → CapacityProg ι B B}
    (hi : c.thread i = .waiting (.await op k)) :
    Tracks backend limit Q x ⟨c.world.answer i op (backend.answer op) c.state,
      Function.update c.thread i (.answered (k (backend.answer op)))⟩ := by
  have ht := h.thread i
  rw [hi] at ht
  obtain ⟨fresh, hexit, hk⟩ := ht
  refine ⟨?_, ?_, ?_⟩
  · intro j
    rw [lastOp_answer c.world c.thread]
    by_cases hj : j = i
    · subst hj
      rw [if_pos rfl]
      dsimp only
      rw [Function.update_self]
      exact ⟨op, rfl, hexit, hk⟩
    · rw [if_neg hj]
      dsimp only
      rw [Function.update_of_ne hj]
      exact h.thread j
  · intro j error hx
    obtain ⟨event, hmem, hwho, hfails⟩ := h.failed j error hx
    exact ⟨event, List.mem_append_left _ hmem, hwho, hfails⟩
  · intro j error hflight hx
    by_cases hj : j = i
    · subst hj
      refine h.object j error ?_ hx
      rw [hi]
      exact Thread.inFlight_await _ _
    · dsimp only at hflight
      rw [Function.update_of_ne hj] at hflight
      exact h.object j error hflight hx

theorem Tracks.step {prog : ι → CapacityProg ι B B}
    (hprog : ∀ i, Follows backend limit (Q i) (prog i) ⟨none, none⟩)
    (h : Tracks backend limit Q x c) (a : Act ι Empty)
    (ha : SparesOthers backend limit prog c a) :
    ∃ x', Tracks backend limit Q x' (c.step (capacityMachine backend) prog a) := by
  cases a with
  | env r => exact r.elim
  | run i =>
      have ht := h.thread i
      have hself : ∀ error, (c.thread i).InFlight → x i = some error →
          c.state.capacity_error = some error := h.object i
      simp only [SparesOthers, Config.step] at ha ⊢
      generalize hi : c.thread i = t at ht hself ha ⊢
      have hended : ∃ x', Tracks backend limit Q x' ⟨c.world, Function.update c.thread i t⟩ := by
        rw [← hi, Function.update_eq_self]
        exact ⟨x, h⟩
      cases t with
      | idle =>
          have hx : x i = none := ht
          have hp : Follows backend limit (Q i) (prog i) ⟨x i, none⟩ := hx ▸ hprog i
          refine h.resume hp (fun error hsome => ?_) (fun _ h => nomatch h) ha
          rw [hx] at hsome
          cases hsome
      | answered p =>
          obtain ⟨op, hop, -, hp⟩ := ht
          refine h.resume hp (fun error => hself error (Thread.inFlight_answered p)) ?_ ha
          intro error hfails
          obtain ⟨event, hlast, rfl⟩ := Option.map_eq_some_iff.mp hop
          obtain ⟨hmem, hwho⟩ := List.mem_filter.mp (List.mem_of_getLast? hlast)
          refine ⟨event, hmem, of_decide_eq_true hwho, ?_⟩
          rw [hfails]
          exact Option.some_ne_none error
      | waiting p =>
          cases p with
          | await op k => exact ⟨x, h.answered hi⟩
          | ret v => exact hended
          | raise e => exact hended
          | sync u k => exact hended

theorem tracked_start (s : CapacityService) :
    Tracks backend limit Q (fun _ => none) (.start s) :=
  ⟨fun _ => rfl, fun _ _ h => (nomatch h), fun _ _ _ h => (nomatch h)⟩

/-- Along a run that spares what others have written, requests stay tracked. -/
theorem Tracks.run {prog : ι → CapacityProg ι B B}
    (hprog : ∀ i, Follows backend limit (Q i) (prog i) ⟨none, none⟩) {s : CapacityService}
    {as : List (Act ι Empty)}
    (h : Config.Along (capacityMachine backend) prog (SparesOthers backend limit prog)
      (.start s) as) :
    ∃ x, Tracks backend limit Q x (Config.run (capacityMachine backend) prog (.start s) as) := by
  have hstep : ∀ (c : CapacityConfig ι B) (a : Act ι Empty),
      (∃ x, Tracks backend limit Q x c) → SparesOthers backend limit prog c a →
        ∃ x, Tracks backend limit Q x (c.step (capacityMachine backend) prog a) := by
    rintro c a ⟨x, hx⟩ ha
    exact hx.step hprog a ha
  exact Config.run_induction hstep ⟨_, tracked_start s⟩ h

/-! ## What a request should answer -/

omit [DecidableEq ι] in
/-- The first attempt that is not refused decides. -/
theorem ownAnswer_of_reached {i : ι} {n : Nat} (hn : n < limit)
    (hreached : backend i n ≠ .refused) :
    ∀ {left : Nat}, left ≤ limit → limit - left ≤ n →
      (∀ m, limit - left ≤ m → m < n → backend i m = .refused) →
      backend.ownAnswer limit i left = backend.ownAnswer limit i (limit - n)
  | 0, _, hle, _ => by omega
  | left + 1, hleft, hle, hrefused => by
      by_cases h : limit - (left + 1) = n
      · rw [show limit - n = left + 1 by omega]
      · have hm : backend i (limit - (left + 1)) = .refused :=
          hrefused _ (Nat.le_refl _) (by omega)
        have hmore : left ≠ 0 := by omega
        rw [CapacityBackend.ownAnswer, hm]
        dsimp only
        rw [if_neg hmore]
        exact ownAnswer_of_reached hn hreached (by omega) (by omega)
          fun m hlo hhi => hrefused m (by omega) hhi

omit [DecidableEq ι] in
theorem ownAnswer_of_reply {i : ι} {n : Nat} {status : Nat} {reason : String} {body : Option B}
    (hn : n < limit) (hrefused : ∀ m < n, backend i m = .refused)
    (hreply : backend i n = .reply status reason body) :
    backend.ownAnswer limit i limit =
      if status ≠ 200 then .error (CapacityError.raised ⟨status, reason, reason⟩)
      else bodyAnswer body := by
  have hreached : backend i n ≠ .refused := by
    rw [hreply]
    exact fun h => nomatch h
  rw [ownAnswer_of_reached hn hreached (Nat.le_refl _) (by omega) fun m _ hm => hrefused m hm,
    show limit - n = (limit - n - 1) + 1 by omega, CapacityBackend.ownAnswer,
    show limit - (limit - n - 1 + 1) = n by omega, hreply]

omit [DecidableEq ι] in
theorem ownAnswer_of_refused {i : ι} (hrefused : ∀ m < limit, backend i m = .refused) :
    ∀ {left : Nat}, 0 < left → left ≤ limit → backend.ownAnswer limit i left =
      .error (CapacityError.raised ⟨503, "Unable to connect to the service",
        "Unable to connect to the service"⟩)
  | left + 1, _, hleft => by
      rw [CapacityBackend.ownAnswer, hrefused _ (by omega)]
      dsimp only
      by_cases h : left = 0
      · rw [if_pos h]
      · rw [if_neg h]
        exact ownAnswer_of_refused hrefused (Nat.pos_of_ne_zero h) (by omega)

end Runs

/-- **Errors are not mixed up.**  In a run in which no step changes the error object while
another request has an error to report, every request that ends answers its own reply, or
503 when it got no connection. -/
theorem capacity_not_mixed (conf : Conf) (backend : CapacityBackend ι B) (calls : ι → CapacityCall)
    (s : CapacityService) (as : List (Act ι Empty))
    (h : Config.Along (capacityMachine backend) (fun i => (calls i).program conf i)
      (SparesOthers backend conf.MAX_RETRY_COUNT fun i => (calls i).program conf i) (.start s) as)
    (i : ι) (r : Except CapacityExc B)
    (hr : ((Config.run (capacityMachine backend) (fun i => (calls i).program conf i)
      (.start s) as).thread i).result = some r) :
    (∀ n status reason body, n < conf.MAX_RETRY_COUNT → (∀ m < n, backend i m = .refused) →
        backend i n = .reply status reason body → status ≠ 200 →
          r = .error (.CsmHttpException status CAPACITY_SERVICE_ERROR reason reason)) ∧
      (∀ n reason data, n < conf.MAX_RETRY_COUNT → (∀ m < n, backend i m = .refused) →
        backend i n = .reply 200 reason (some data) → r = .ok data) ∧
      (0 < conf.MAX_RETRY_COUNT → (∀ m < conf.MAX_RETRY_COUNT, backend i m = .refused) →
        r = .error (.CsmHttpException 503 CAPACITY_SERVICE_ERROR
          "Unable to connect to the service" "Unable to connect to the service")) := by
  have hown : r = backend.ownAnswer conf.MAX_RETRY_COUNT i conf.MAX_RETRY_COUNT := by
    obtain ⟨x, hx⟩ := Tracks.run (fun i => follows_program conf i (calls i)) h
    have ht := hx.thread i
    generalize (Config.run (capacityMachine backend) (fun i => (calls i).program conf i)
      (.start s) as).thread i = t at ht hr
    match t, ht, hr with
    | .waiting (.ret v), ⟨_, hv⟩, hr => exact (Option.some.inj hr).symm.trans hv
    | .waiting (.raise e), ⟨_, he⟩, hr => exact (Option.some.inj hr).symm.trans he
  refine ⟨?_, ?_, ?_⟩
  · intro n status reason body hn hrefused hreply hstatus
    rw [hown, ownAnswer_of_reply hn hrefused hreply, if_pos hstatus]
    rfl
  · intro n reason data hn hrefused hreply
    rw [hown, ownAnswer_of_reply hn hrefused hreply]
    rfl
  · intro hpos hrefused
    rw [hown, ownAnswer_of_refused hrefused hpos (Nat.le_refl _)]
    rfl

end

/-! ### Two replies -/

/-- One session meets 404, the other 500. -/
def twoReplies : CapacityBackend Bool String
  | true, _ => .reply 404 "Not Found" none
  | false, _ => .reply 500 "Internal Server Error" none

def clusterConf : StorageCapacityService.Conf := ⟨"https://hctl", "/v1/cluster", 5⟩

instance : (t : Thread (CapacityOp Bool) (CapacityOp.Ans String) CapacityService CapacityExc
    String) → (P : Prop) → [Decidable P] → Decidable (∀ p, t = .answered p → P)
  | .answered p, P, _ => decidable_of_iff P ⟨fun h _ _ => h, fun h => h p rfl⟩
  | .idle, _, _ => isTrue nofun
  | .waiting _, _, _ => isTrue nofun

instance (limit : Nat) (c : CapacityConfig Bool String) (i : Bool) :
    Decidable (Unreported twoReplies limit c i) :=
  inferInstanceAs (Decidable ((c.thread i).InFlight ∧
    (∃ event ∈ c.world.hist, event.who = i ∧ twoReplies.failure limit event.op ≠ none) ∧
      ∀ p, c.thread i = .answered p → ∀ op ∈ lastOp c i, twoReplies.failure limit op = none))

instance (limit : Nat) (prog : Bool → CapacityProg Bool String String)
    (c : CapacityConfig Bool String) :
    (a : Act Bool Empty) → Decidable (SparesOthers twoReplies limit prog c a)
  | .run i =>
      inferInstanceAs (Decidable
        ((c.step (capacityMachine twoReplies) prog (.run i)).state ≠ c.state →
          ∀ j, j ≠ i → ¬ Unreported twoReplies limit c j))
  | .env _ => isTrue trivial

/-- Both requests are under way: one has its session and waits for its reply while the other
meets 500, writes its error and leaves. -/
def beforeReply : List (Act Bool Empty) :=
  List.replicate 2 (.run true) ++ List.replicate 9 (.run false) ++ List.replicate 7 (.run true)

theorem capacity_not_mixed_overlapping :
    (Config.run (capacityMachine twoReplies)
        (fun i => CapacityCall.status.program clusterConf i) (.start ⟨none⟩)
          beforeReply).thread true =
      .waiting (.raise (.CsmHttpException 404 CAPACITY_SERVICE_ERROR "Not Found" "Not Found")) ∧
    ∀ r, ((Config.run (capacityMachine twoReplies)
        (fun i => CapacityCall.status.program clusterConf i) (.start ⟨none⟩)
          beforeReply).thread true).result = some r →
      r = .error (.CsmHttpException 404 CAPACITY_SERVICE_ERROR "Not Found" "Not Found") := by
  refine ⟨rfl, fun r hr => ?_⟩
  have hown := capacity_not_mixed clusterConf twoReplies (fun _ => .status) ⟨none⟩
    beforeReply (by decide +kernel) true r hr
  exact hown.1 0 404 "Not Found" none (by decide) (fun m hm => absurd hm (Nat.not_lt_zero m))
    rfl (by decide)

/-- One request has written its error and leaves its contexts while the other runs. -/
def whileLeaving : List (Act Bool Empty) :=
  List.replicate 5 (.run true) ++ List.replicate 9 (.run false) ++ List.replicate 4 (.run true)

/-- The reply was 404; the answer is 500. -/
theorem capacity_mixed :
    twoReplies true 0 = .reply 404 "Not Found" none ∧
      (Config.run (capacityMachine twoReplies)
        (fun i => CapacityCall.status.program clusterConf i) (.start ⟨none⟩)
          whileLeaving).thread true =
        .waiting (.raise (.CsmHttpException 500 CAPACITY_SERVICE_ERROR "Internal Server Error"
          "Internal Server Error")) :=
  ⟨rfl, rfl⟩

end CortxCsm
