/-
# `CortxCsm.ClusterShutdown` — the shutdown signal over the message bus

The view asks the service for its bus object and has it initialised when there is
none; the service stores the object before its producer is initialised, and never
takes it back.  The signal is sent through whatever object is stored; `send` only
logs when the object has no producer.

| | |
| :-- | :-- |
| `csm/core/controllers/cluster_management.py` | `ClusterOperationsView` |
| `csm/core/services/cluster_management.py` | `init_message_bus`, `request_operation` |
| `csm/common/comm.py` | `MessageBusComm` |
| `csm/common/ha/cluster_management/operations.py`, `operations_factory.py` | the operation |

The bus itself is a parameter of each request (`BusFaults`): which endpoints are
configured, and which of the constructor, the producers and the sends succeed.

What is proved: every success that is reported was sent, exactly when no request is
accepted after one whose constructor succeeded and whose producer was never
initialised (`shutdown_reported_exact`).
-/
import CortxCsm.Storage
import CortxCsm.Lib.Schema

namespace CortxCsm

inductive ClusterExc
  | csm (e : CsmError)
  | messageBus
  | keyError
  | typeError
  deriving DecidableEq, Repr

/-- `CsmServiceNotAvailable(desc)`. -/
def serviceNotAvailable (desc : String) : ClusterExc :=
  .csm ⟨.CsmServiceNotAvailable, CSM_SERVICE_NOT_AVAILABLE, some desc, some "ServiceNotAvailable",
    none⟩

/-- `InvalidRequest(desc)`. -/
def invalidRequest (desc : String) : ClusterExc :=
  .csm ⟨.InvalidRequest, CSM_INVALID_REQUEST, some desc, some "MalformedRequest", none⟩

/-! ## The bus -/

/-- A `MessageProducer`, with what it is made of. -/
structure MessageProducer where
  producer_id : String
  message_type : String
  method : String
  deriving DecidableEq, Repr

/-- `MessageBusComm`, as far as a sender uses it. -/
structure MessageBusComm where
  producer : Option MessageProducer
  is_running : Bool
  deriving DecidableEq, Repr

/-- A list of messages that a producer took without an error. -/
structure Delivery where
  producer : MessageProducer
  messages : List String
  deriving DecidableEq, Repr

/-- What a request finds: the endpoints of the configuration, and what fails. -/
structure BusFaults where
  endpoints : List (Option String)
  constructor : Bool
  producer : Nat → Bool
  send : Nat → Bool

/-- `Conf.get` of the index of CSM. -/
structure ClusterConf where
  producer : MessageProducer
  MAX_RETRY_COUNT : Nat

/-- `for retry in range(0, MAX_RETRY_COUNT)`, left at the first success; `left` attempts
are to come. -/
def retrying {σ : Type} (attempt : Nat → σ → Bool × σ) : (left retry : Nat) → σ → Bool × σ
  | 0, _, s => (false, s)
  | left + 1, retry, s =>
      match attempt retry s with
      | (true, s') => (true, s')
      | (false, s') => retrying attempt left (retry + 1) s'

/-- `MessageBusComm.init(type=const.PRODUCER, ...)`: whether it raises nothing. -/
def MessageBusComm.init (producer : MessageProducer) (ok : Bool) (bus : MessageBusComm) :
    Bool × MessageBusComm :=
  (ok, { producer := if ok then some producer else bus.producer, is_running := true })

/-- `MessageBusComm.send`: whether it raises nothing, and what was delivered. -/
def MessageBusComm.send (ok : Bool) (messages : List String)
    (s : MessageBusComm × List Delivery) : Bool × MessageBusComm × List Delivery :=
  match s.1.producer with
  | some producer =>
      if s.1.is_running then
        (ok, s.1, if ok then s.2 ++ [⟨producer, messages⟩] else s.2)
      else (true, { s.1 with producer := none }, s.2)
  | none => (true, s)

/-! ## The service -/

/-- `ClusterManagementAppService`. -/
structure ClusterService where
  message_bus_obj : Option MessageBusComm
  deriving DecidableEq, Repr

namespace ClusterService

def init_message_bus_producer (conf : ClusterConf) (faults : BusFaults) (retry : Nat)
    (bus : MessageBusComm) : Bool × MessageBusComm :=
  bus.init conf.producer (faults.producer retry)

/-- A new object, and the attempts to initialise its producer. -/
def initialised (conf : ClusterConf) (faults : BusFaults) : Bool × MessageBusComm :=
  retrying (init_message_bus_producer conf faults) conf.MAX_RETRY_COUNT 0 ⟨none, false⟩

def init_message_bus (conf : ClusterConf) (faults : BusFaults) (service : ClusterService) :
    Except ClusterExc Unit × ClusterService :=
  if ∃ ep ∈ faults.endpoints, ep = none ∨ ep = some "" then
    (.error (serviceNotAvailable "Kafka endpoint not found."), service)
  else if !faults.constructor then (.error .messageBus, service)
  else
    let bus := initialised conf faults
    (if bus.1 then .ok ()
      else .error (serviceNotAvailable "Communiction channel is not available"),
      ⟨some bus.2⟩)

end ClusterService

/-- `str({"start_cluster_shutdown": 1})`. -/
def shutdownMessage : String := "\x7b'start_cluster_shutdown': 1\x7d"

/-- `ClusterShutdownSignal.execute`, with the object of the service. -/
def ClusterShutdownSignal.execute (conf : ClusterConf) (faults : BusFaults)
    (message_bus_object : Option MessageBusComm) :
    Except ClusterExc Unit × Option MessageBusComm × List Delivery :=
  match message_bus_object with
  | none => (.error (serviceNotAvailable "Error while sending shutdown signal"), none, [])
  | some bus =>
      let sent := retrying (fun retry => MessageBusComm.send (faults.send retry) [shutdownMessage])
        conf.MAX_RETRY_COUNT 0 (bus, [])
      (if sent.1 then .ok ()
        else .error (serviceNotAvailable "Error while sending shutdown signal"),
        some sent.2.1, sent.2.2)

/-! ## The view -/

/-- A request for the operation `shutdown_signal`: the resource of the path, the role of
the user, the parameter `arguments_format` of the query, and the body beside the
operation. -/
structure ShutdownRequest where
  resource : String
  role : String
  query : Option String
  req_body : List (String × Json)

/-- `ClusterOperationsQueryParameter.load`. -/
def ClusterOperationsQueryParameter.load (query : Option String) : Except ClusterExc String :=
  let arguments_format := query.getD "nested"
  if arguments_format ∈ ["flat", "nested"] then .ok arguments_format
  else .error (invalidRequest "Arguments_format: Incorrect Value: must be from flat nested")

/-- `operation_arguments`. -/
def ShutdownRequest.operation_arguments (request : ShutdownRequest) :
    Except ClusterExc Json := do
  let arguments_format ← ClusterOperationsQueryParameter.load request.query
  if arguments_format = "flat" then return .obj request.req_body
  match request.req_body.lookup "arguments" with
  | some arguments => return arguments
  | none => throw .keyError

/-- Whether the arguments can be passed as keywords of `request_operation`. -/
def keywords : Json → Bool
  | .obj entries => entries.all fun entry => entry.1 ∉ ["self", "resource", "operation"]
  | _ => false

/-- What `post` checks before the operation is looked up. -/
def ClusterOperationsView.validate (request : ShutdownRequest) : Except ClusterExc Unit := do
  let arguments ← request.operation_arguments
  if request.role ≠ CSM_SUPER_USER_ROLE then
    throw (.csm (csmPermissionDenied (some (s!"Operation 'shutdown_signal' can not be " ++
      s!"performed by the user with role: '{request.role}'")) PERMISSION_DENIED_ERROR none))
  if !keywords arguments then throw .typeError

/-- `ResourceOperationsFactory.get_operations_by_resource(...).get_operation(...)`. -/
def ResourceOperationsFactory.get_operation (resource : String) : Except ClusterExc Unit :=
  if resource = "cluster" then .ok ()
  else if resource = "node" then
    .error (invalidRequest "Node does not support shutdown_signal operation.")
  else
    .error (invalidRequest "Invalid resource or the resource does not support any operations.")

/-- How a request ends: with `Shutdown signal sent successfully.`, or with an error. -/
inductive ShutdownReply
  | sent
  | error (e : ClusterExc)
  deriving DecidableEq, Repr

/-- A request served: the reply, the service after it, and what it delivered. -/
structure Served where
  reply : ShutdownReply
  service : ClusterService
  delivered : List Delivery
  deriving DecidableEq, Repr

namespace ClusterOperationsView

/-- `post`, up to the plugin. -/
def post (conf : ClusterConf) (request : ShutdownRequest) (faults : BusFaults)
    (service : ClusterService) : Served :=
  match validate request with
  | .error e => ⟨.error e, service, []⟩
  | .ok () =>
      match ResourceOperationsFactory.get_operation request.resource with
      | .error e => ⟨.error e, service, []⟩
      | .ok () =>
          match ClusterShutdownSignal.execute conf faults service.message_bus_obj with
          | (.error e, bus, delivered) => ⟨.error e, ⟨bus⟩, delivered⟩
          | (.ok (), bus, delivered) => ⟨.sent, ⟨bus⟩, delivered⟩

/-- The constructor of the view, and then `post`. -/
def serve (conf : ClusterConf) (request : ShutdownRequest) (faults : BusFaults)
    (service : ClusterService) : Served :=
  match service.message_bus_obj with
  | some _ => post conf request faults service
  | none =>
      match service.init_message_bus conf faults with
      | (.error e, service) => ⟨.error e, service, []⟩
      | (.ok (), service) => post conf request faults service

end ClusterOperationsView

open ClusterOperationsView

/-- One request after the other. -/
def serveAll (conf : ClusterConf) :
    ClusterService → List (ShutdownRequest × BusFaults) → List Served
  | _, [] => []
  | service, call :: calls =>
      let served := serve conf call.1 call.2 service
      served :: serveAll conf served.service calls

/-- What the reply says is so: sent, and the message passed to a producer that took it;
or an error. -/
def Served.honest (served : Served) : Prop :=
  (served.reply = .sent ∧ ∃ d ∈ served.delivered, d.messages = [shutdownMessage]) ∨
    ∃ e, served.reply = .error e

/-! ## What fails -/

/-- The constructor of the bus is reached and succeeds. -/
def BusFaults.constructs (faults : BusFaults) : Prop :=
  (∀ ep ∈ faults.endpoints, ep ≠ none ∧ ep ≠ some "") ∧ faults.constructor = true

/-- Some attempt to initialise the producer succeeds. -/
def BusFaults.initialises (conf : ClusterConf) (faults : BusFaults) : Prop :=
  ∃ retry < conf.MAX_RETRY_COUNT, faults.producer retry = true

/-- The request passes every check before the operation is executed. -/
def ShutdownRequest.accepted (request : ShutdownRequest) : Prop :=
  ClusterOperationsView.validate request = .ok () ∧
    ResourceOperationsFactory.get_operation request.resource = .ok ()

/-- The first request whose constructor succeeded never had its producer initialised, and
some later request is accepted. -/
def halfInitialised (conf : ClusterConf) (calls : List (ShutdownRequest × BusFaults)) : Prop :=
  ∃ before call after, calls = before ++ call :: after ∧
    (∀ earlier ∈ before, ¬ earlier.2.constructs) ∧
    call.2.constructs ∧ ¬ call.2.initialises conf ∧
    ∃ later ∈ after, later.1.accepted

/-! ## Attempts -/

section

variable {σ : Type} (attempt : Nat → σ → Bool × σ)

/-- What every failed attempt keeps and the successful one establishes. -/
theorem retrying_spec (P Q : σ → Prop) (hok : ∀ retry s, P s → (attempt retry s).1 = true →
    Q (attempt retry s).2) (hfail : ∀ retry s, P s → (attempt retry s).1 = false →
    P (attempt retry s).2) (left retry : Nat) {s : σ} (hs : P s) :
    ((retrying attempt left retry s).1 = true → Q (retrying attempt left retry s).2) ∧
      ((retrying attempt left retry s).1 = false → P (retrying attempt left retry s).2) := by
  induction left generalizing retry s with
  | zero => exact ⟨fun h => Bool.noConfusion h, fun _ => hs⟩
  | succ left ih =>
      unfold retrying
      rcases h : attempt retry s with ⟨ok, s'⟩
      cases ok with
      | true =>
          have hq := hok retry s hs (by rw [h])
          rw [h] at hq
          exact ⟨fun _ => hq, fun h => Bool.noConfusion h⟩
      | false =>
          have hp := hfail retry s hs (by rw [h])
          rw [h] at hp
          exact ih (retry + 1) hp

/-- Where an attempt fails or not whatever it starts from, some attempt succeeds exactly
when the loop does. -/
theorem retrying_iff (ok : Nat → Bool) (hattempt : ∀ retry s, (attempt retry s).1 = ok retry)
    {left retry : Nat} {s : σ} :
    (retrying attempt left retry s).1 = true ↔ ∃ k < left, ok (retry + k) = true := by
  induction left generalizing retry s with
  | zero =>
      constructor
      · intro h
        exact Bool.noConfusion h
      · rintro ⟨k, hk, -⟩
        omega
  | succ left ih =>
      have hfirst := hattempt retry s
      unfold retrying
      rcases h : attempt retry s with ⟨b, s'⟩
      rw [h] at hfirst
      subst hfirst
      cases hok : ok retry with
      | true => exact ⟨fun _ => ⟨0, by omega, hok⟩, fun _ => rfl⟩
      | false =>
          show (retrying attempt left (retry + 1) s').1 = true ↔ _
          rw [ih]
          constructor
          · rintro ⟨k, hk, hsucc⟩
            exact ⟨k + 1, by omega, by rwa [show retry + (k + 1) = retry + 1 + k by omega]⟩
          · rintro ⟨k, hk, hsucc⟩
            rcases k with _ | k
            · rw [Nat.add_zero, hok] at hsucc
              cases hsucc
            · exact ⟨k, by omega, by rwa [show retry + 1 + k = retry + (k + 1) by omega]⟩

end

/-! ## The object -/

variable {conf : ClusterConf} {faults : BusFaults} {request : ShutdownRequest}

theorem initialised_iff :
    (ClusterService.initialised conf faults).1 = true ↔ faults.initialises conf := by
  unfold ClusterService.initialised
  rw [retrying_iff (ClusterService.init_message_bus_producer conf faults) faults.producer
    fun _ _ => rfl]
  simp only [Nat.zero_add]
  exact Iff.rfl

theorem initialised_ready (h : faults.initialises conf) :
    (ClusterService.initialised conf faults).2 = ⟨some conf.producer, true⟩ := by
  have hspec := retrying_spec (ClusterService.init_message_bus_producer conf faults)
    (fun _ => True) (fun bus => bus = ⟨some conf.producer, true⟩)
    (by
      intro retry bus _ hok
      have hprod : faults.producer retry = true := hok
      simp [ClusterService.init_message_bus_producer, MessageBusComm.init, hprod])
    (fun _ _ _ _ => trivial) conf.MAX_RETRY_COUNT 0 (s := ⟨none, false⟩) trivial
  exact hspec.1 (initialised_iff.mpr h)

theorem initialised_half (h : ¬ faults.initialises conf) :
    (ClusterService.initialised conf faults).2.producer = none := by
  have hspec := retrying_spec (ClusterService.init_message_bus_producer conf faults)
    (fun bus => bus.producer = none) (fun _ => True) (fun _ _ _ _ => trivial)
    (by
      intro retry bus hbus hfail
      have hprod : faults.producer retry = false := hfail
      simp [ClusterService.init_message_bus_producer, MessageBusComm.init, hprod, hbus])
    conf.MAX_RETRY_COUNT 0 (s := ⟨none, false⟩) rfl
  apply hspec.2
  rw [← Bool.not_eq_true]
  exact fun hok => h (initialised_iff.mp hok)

/-- Without a producer the first attempt to send raises nothing and sends nothing. -/
theorem execute_half {bus : MessageBusComm} (hmax : 1 ≤ conf.MAX_RETRY_COUNT)
    (hbus : bus.producer = none) :
    ClusterShutdownSignal.execute conf faults (some bus) = (.ok (), some bus, []) := by
  obtain ⟨left, hleft⟩ : ∃ left, conf.MAX_RETRY_COUNT = left + 1 :=
    ⟨conf.MAX_RETRY_COUNT - 1, by omega⟩
  simp [ClusterShutdownSignal.execute, hleft, retrying, MessageBusComm.send, hbus]

/-- With a producer the message is sent or an error is raised, and the producer stays. -/
theorem execute_ready (conf : ClusterConf) (faults : BusFaults) (producer : MessageProducer) :
    let executed := ClusterShutdownSignal.execute conf faults (some ⟨some producer, true⟩)
    executed.2.1 = some ⟨some producer, true⟩ ∧
      (executed.1 = .ok () → ∃ d ∈ executed.2.2, d.messages = [shutdownMessage]) := by
  let attempt := fun retry => MessageBusComm.send (faults.send retry) [shutdownMessage]
  have hspec := retrying_spec attempt (fun s => s.1 = ⟨some producer, true⟩)
    (fun s => s.1 = ⟨some producer, true⟩ ∧ ∃ d ∈ s.2, d.messages = [shutdownMessage])
    (by
      rintro retry ⟨bus, delivered⟩ rfl hok
      have hsend : faults.send retry = true := hok
      simp [attempt, MessageBusComm.send, hsend])
    (by
      rintro retry ⟨bus, delivered⟩ rfl hfail
      rfl)
    conf.MAX_RETRY_COUNT 0 (s := (⟨some producer, true⟩, [])) rfl
  intro executed
  cases hsent : (retrying attempt conf.MAX_RETRY_COUNT 0 (⟨some producer, true⟩, [])).1 with
  | true =>
      obtain ⟨hbus, hd⟩ := hspec.1 hsent
      exact ⟨congrArg some hbus, fun _ => hd⟩
  | false =>
      refine ⟨congrArg some (hspec.2 hsent), ?_⟩
      intro hok
      have herror : executed.1 =
          .error (serviceNotAvailable "Error while sending shutdown signal") := by
        show (if _ then _ else _) = _
        rw [if_neg (by rw [hsent]; exact Bool.false_ne_true)]
      rw [herror] at hok
      cases hok

/-! ## One request -/

namespace ClusterOperationsView

theorem post_refused (conf : ClusterConf) (faults : BusFaults) (service : ClusterService)
    (h : ¬ request.accepted) :
    ∃ e, post conf request faults service = ⟨.error e, service, []⟩ := by
  unfold post
  cases hv : validate request with
  | error e => exact ⟨e, rfl⟩
  | ok u =>
      cases hg : ResourceOperationsFactory.get_operation request.resource with
      | error e => exact ⟨e, rfl⟩
      | ok u' => exact absurd ⟨hv, hg⟩ h

theorem post_accepted {service : ClusterService} (h : request.accepted)
    {outcome : Except ClusterExc Unit} {bus : Option MessageBusComm} {delivered : List Delivery}
    (hexec : ClusterShutdownSignal.execute conf faults service.message_bus_obj =
      (outcome, bus, delivered)) :
    post conf request faults service = ⟨outcome.casesOn .error fun _ => .sent, ⟨bus⟩, delivered⟩ :=
  by
  unfold post
  rw [h.1, h.2, hexec]
  cases outcome <;> rfl

/-- With a producer the reply is honest, and the producer stays. -/
theorem serve_ready (conf : ClusterConf) (request : ShutdownRequest) (faults : BusFaults)
    (producer : MessageProducer) :
    let served := serve conf request faults ⟨some ⟨some producer, true⟩⟩
    served.honest ∧ served.service = ⟨some ⟨some producer, true⟩⟩ := by
  intro served
  have hserved : served = post conf request faults ⟨some ⟨some producer, true⟩⟩ := rfl
  rw [hserved]
  by_cases h : request.accepted
  · obtain ⟨hbus, hsent⟩ := execute_ready conf faults producer
    rcases hexec : ClusterShutdownSignal.execute conf faults (some ⟨some producer, true⟩)
      with ⟨outcome, bus, delivered⟩
    rw [hexec] at hbus hsent
    rw [post_accepted h hexec]
    cases outcome with
    | error e => exact ⟨.inr ⟨e, rfl⟩, congrArg ClusterService.mk hbus⟩
    | ok u => exact ⟨.inl ⟨rfl, hsent rfl⟩, congrArg ClusterService.mk hbus⟩
  · obtain ⟨e, he⟩ := post_refused conf faults ⟨some ⟨some producer, true⟩⟩ h
    rw [he]
    exact ⟨.inr ⟨e, rfl⟩, rfl⟩

/-- With an object that has no producer an accepted request reports a signal it never
sent; the object stays. -/
theorem serve_half (request : ShutdownRequest) (faults : BusFaults) {bus : MessageBusComm}
    (hmax : 1 ≤ conf.MAX_RETRY_COUNT) (hbus : bus.producer = none) :
    let served := serve conf request faults ⟨some bus⟩
    (served.honest ↔ ¬ request.accepted) ∧ served.service = ⟨some bus⟩ := by
  intro served
  have hserved : served = post conf request faults ⟨some bus⟩ := rfl
  rw [hserved]
  by_cases h : request.accepted
  · rw [post_accepted h (execute_half hmax hbus)]
    refine ⟨⟨?_, fun hn => absurd h hn⟩, rfl⟩
    rintro (⟨-, d, hd, -⟩ | ⟨e, he⟩)
    · exact absurd hd List.not_mem_nil
    · cases he
  · obtain ⟨e, he⟩ := post_refused conf faults ⟨some bus⟩ h
    rw [he]
    exact ⟨⟨fun _ => h, fun _ => .inr ⟨e, rfl⟩⟩, rfl⟩

/-- Without an object a request whose constructor is not reached, or fails, leaves none. -/
theorem serve_unconstructed (conf : ClusterConf) (request : ShutdownRequest)
    (h : ¬ faults.constructs) :
    ∃ e, serve conf request faults ⟨none⟩ = ⟨.error e, ⟨none⟩, []⟩ := by
  unfold serve
  have hinit : ∃ e, ClusterService.init_message_bus conf faults ⟨none⟩ =
      (.error e, (⟨none⟩ : ClusterService)) := by
    unfold ClusterService.init_message_bus
    split
    · exact ⟨_, rfl⟩
    · rename_i hendpoints
      cases hcons : faults.constructor with
      | false => exact ⟨_, rfl⟩
      | true =>
          refine absurd ⟨fun ep hep => ?_, hcons⟩ h
          exact ⟨fun hn => hendpoints ⟨ep, hep, .inl hn⟩, fun hn => hendpoints ⟨ep, hep, .inr hn⟩⟩
  obtain ⟨e, he⟩ := hinit
  exact ⟨e, by simp only [he]⟩

theorem init_message_bus_constructed (conf : ClusterConf) (service : ClusterService)
    (h : faults.constructs) :
    service.init_message_bus conf faults =
      (if (ClusterService.initialised conf faults).1 then .ok ()
        else .error (serviceNotAvailable "Communiction channel is not available"),
        ⟨some (ClusterService.initialised conf faults).2⟩) := by
  unfold ClusterService.init_message_bus
  have hendpoints : ¬ ∃ ep ∈ faults.endpoints, ep = none ∨ ep = some "" := by
    rintro ⟨ep, hep, hnone | hempty⟩
    · exact (h.1 ep hep).1 hnone
    · exact (h.1 ep hep).2 hempty
  rw [if_neg hendpoints, h.2]
  rfl

/-- Without an object, where the constructor succeeds and the producer too, the request
goes on as with a producer. -/
theorem serve_initialised (request : ShutdownRequest) (h : faults.constructs)
    (hinit : faults.initialises conf) :
    serve conf request faults ⟨none⟩ =
      serve conf request faults ⟨some ⟨some conf.producer, true⟩⟩ := by
  have hbus := init_message_bus_constructed conf ⟨none⟩ h
  rw [if_pos (initialised_iff.mpr hinit), initialised_ready hinit] at hbus
  unfold serve
  simp only [hbus]

/-- Without an object, where the constructor succeeds and the producer does not, the
request fails and leaves the object. -/
theorem serve_uninitialised (request : ShutdownRequest) (h : faults.constructs)
    (hinit : ¬ faults.initialises conf) :
    ∃ e bus, bus.producer = none ∧
      serve conf request faults ⟨none⟩ = ⟨.error e, ⟨some bus⟩, []⟩ := by
  have hbus := init_message_bus_constructed conf ⟨none⟩ h
  rw [if_neg fun hok => hinit (initialised_iff.mp hok)] at hbus
  refine ⟨serviceNotAvailable "Communiction channel is not available",
    (ClusterService.initialised conf faults).2, initialised_half hinit, ?_⟩
  unfold serve
  simp only [hbus]

end ClusterOperationsView

/-! ## All requests -/

theorem serveAll_ready {producer : MessageProducer}
    {calls : List (ShutdownRequest × BusFaults)} :
    ∀ served ∈ serveAll conf ⟨some ⟨some producer, true⟩⟩ calls, served.honest := by
  induction calls with
  | nil => exact fun served h => absurd h List.not_mem_nil
  | cons call calls ih =>
      intro served hserved
      have hserve := serve_ready conf call.1 call.2 producer
      unfold serveAll at hserved
      rcases List.mem_cons.mp hserved with rfl | hmem
      · exact hserve.1
      · rw [hserve.2] at hmem
        exact ih served hmem

theorem serveAll_half {bus : MessageBusComm} (hmax : 1 ≤ conf.MAX_RETRY_COUNT)
    (hbus : bus.producer = none) {calls : List (ShutdownRequest × BusFaults)} :
    (∀ served ∈ serveAll conf ⟨some bus⟩ calls, served.honest) ↔
      ∀ call ∈ calls, ¬ call.1.accepted := by
  induction calls with
  | nil => simp [serveAll]
  | cons call calls ih =>
      obtain ⟨hhonest, hservice⟩ := serve_half call.1 call.2 hmax hbus
      unfold serveAll
      rw [List.forall_mem_cons, List.forall_mem_cons, hhonest, hservice, ih]

/-- The condition, with one more request in front. -/
theorem halfInitialised_cons {call : ShutdownRequest × BusFaults}
    {calls : List (ShutdownRequest × BusFaults)} :
    halfInitialised conf (call :: calls) ↔
      (call.2.constructs ∧ ¬ call.2.initialises conf ∧ ∃ later ∈ calls, later.1.accepted) ∨
        (¬ call.2.constructs ∧ halfInitialised conf calls) := by
  constructor
  · rintro ⟨before, first, after, hcalls, hbefore, hcons, hinit, hlater⟩
    rcases before with _ | ⟨earlier, before⟩
    · obtain ⟨rfl, rfl⟩ := List.cons.inj hcalls
      exact .inl ⟨hcons, hinit, hlater⟩
    · obtain ⟨rfl, rfl⟩ := List.cons.inj hcalls
      exact .inr ⟨hbefore call List.mem_cons_self, before, first, after, rfl,
        fun c hc => hbefore c (List.mem_cons_of_mem _ hc), hcons, hinit, hlater⟩
  · rintro (⟨hcons, hinit, hlater⟩ | ⟨hcall, before, first, after, rfl, hbefore, hrest⟩)
    · exact ⟨[], call, calls, rfl, fun c hc => absurd hc List.not_mem_nil, hcons, hinit, hlater⟩
    · exact ⟨call :: before, first, after, rfl, List.forall_mem_cons.mpr ⟨hcall, hbefore⟩, hrest⟩

/-- Every signal reported as sent was sent, exactly when no request is accepted after the
first one whose constructor succeeded and whose producer was never initialised. -/
theorem shutdown_reported_exact (hmax : 1 ≤ conf.MAX_RETRY_COUNT)
    (calls : List (ShutdownRequest × BusFaults)) :
    (∀ served ∈ serveAll conf ⟨none⟩ calls, served.honest) ↔ ¬ halfInitialised conf calls := by
  induction calls with
  | nil =>
      refine ⟨?_, fun _ served h => absurd h List.not_mem_nil⟩
      rintro - ⟨before, call, after, hcalls, -⟩
      exact List.cons_ne_nil call after (List.append_eq_nil_iff.mp hcalls.symm).2
  | cons call calls ih =>
      unfold serveAll
      rw [List.forall_mem_cons, halfInitialised_cons]
      by_cases hcons : call.2.constructs
      · by_cases hinit : call.2.initialises conf
        · -- the producer is there, and from now on stays
          have hserve := serve_ready conf call.1 call.2 conf.producer
          rw [serve_initialised call.1 hcons hinit, hserve.2]
          constructor
          · rintro - (⟨-, hn, -⟩ | ⟨hn, -⟩)
            · exact hn hinit
            · exact hn hcons
          · exact fun _ => ⟨hserve.1, serveAll_ready⟩
        · -- the object stays without a producer
          obtain ⟨e, bus, hbus, hserve⟩ := serve_uninitialised call.1 hcons hinit
          rw [hserve, serveAll_half hmax hbus]
          constructor
          · rintro ⟨-, hrefused⟩ (⟨-, -, later, hlater, hacc⟩ | ⟨hn, -⟩)
            · exact hrefused later hlater hacc
            · exact hn hcons
          · intro h
            refine ⟨.inr ⟨e, rfl⟩, ?_⟩
            intro later hlater hacc
            exact h (.inl ⟨hcons, hinit, later, hlater, hacc⟩)
      · -- nothing is stored
        obtain ⟨e, hserve⟩ := serve_unconstructed conf call.1 hcons
        rw [hserve, ih]
        constructor
        · rintro ⟨-, hrest⟩ (⟨h, -⟩ | ⟨-, h⟩)
          · exact hcons h
          · exact hrest h
        · exact fun h => ⟨.inr ⟨e, rfl⟩, fun hrest => h (.inr ⟨hcons, hrest⟩)⟩

/-! ## A bus that is down at first -/

def clusterStop : ClusterConf := ⟨⟨"cluster_stop_producer", "cluster_stop", "sync"⟩, 3⟩

def shutdownCluster : ShutdownRequest :=
  ⟨"cluster", CSM_SUPER_USER_ROLE, none, [("arguments", .obj [])]⟩

def busUp : BusFaults := ⟨[some "tcp://kafka:9092"], true, fun _ => true, fun _ => true⟩

/-- The constructor succeeds, no producer can be initialised. -/
def producersDown : BusFaults := { busUp with producer := fun _ => false }

theorem shutdown_reported_exact_retried :
    1 ≤ clusterStop.MAX_RETRY_COUNT ∧
      ((∀ served ∈ serveAll clusterStop ⟨none⟩ [(shutdownCluster, producersDown)],
        served.honest) ↔
          ¬ halfInitialised clusterStop [(shutdownCluster, producersDown)]) :=
  ⟨by decide, shutdown_reported_exact (by decide) [(shutdownCluster, producersDown)]⟩

/-- The second request reports a signal that went nowhere. -/
theorem shutdown_not_sent :
    ¬ ∀ conf : ClusterConf, 1 ≤ conf.MAX_RETRY_COUNT → ∀ calls : List (ShutdownRequest × BusFaults),
      ∀ served ∈ serveAll conf ⟨none⟩ calls, served.honest := by
  intro h
  have hserved := h clusterStop (by decide) [(shutdownCluster, producersDown),
    (shutdownCluster, busUp)] ⟨.sent, ⟨some ⟨none, true⟩⟩, []⟩ (by decide)
  rcases hserved with ⟨-, d, hd, -⟩ | ⟨e, he⟩
  · exact absurd hd List.not_mem_nil
  · cases he

end CortxCsm
