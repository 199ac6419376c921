/-
# `CortxCsm.EmailQueue` — mails that are queued and sent by a worker

`EmailSenderQueue.enqueue_bulk_email` (`email_queue.py`) makes messages of at most 50
recipients and queues them; one coroutine takes them and sends them through `EmailSender`
(`email.py`).  The coroutine handles an `EmailError` and nothing else: any other exception ends
it with its message unreported, `start_worker_sync` sees a worker and starts no other, and
`join` never returns.

| | |
| :-- | :-- |
| `EmailSender._send` | what a message meets, by the answers of the SMTP library |
| `Event` | what happens to a queue, in any order |
| `Delivered` | what a graceful stop is to find |

**Proved here.**

    chunks put together are the list                         (`flatten_chunk_generator`)
    a message that meets only what is handled is survived    (`survives_send`)
    every recipient is attempted exactly if no exception of
    another class is raised before the queue is empty        (`delivered_iff`)
-/
import CortxCsm.Lib.Raising
import CortxCsm.Lib.WorkQueue
import Mathlib.Algebra.GroupWithZero.Nat
import Mathlib.Data.List.Forall2

namespace CortxCsm

namespace EmailQueue

/-! ## The sender -/

/-- What `smtplib` raises; a server's answer is `none` if it is not UTF-8. -/
inductive SmtpError
  | SMTPServerDisconnected
  | SMTPHeloError (smtp_error : Option String)
  | SMTPAuthenticationError (smtp_error : Option String)
  | SMTPSenderRefused (smtp_error : Option String)
  /-- It has the recipients, and no `smtp_error`. -/
  | SMTPRecipientsRefused
  /-- The other classes with an answer of the server. -/
  | SMTPResponseException (smtp_error : Option String)
  /-- The other subclasses of `SMTPException`. -/
  | SMTPException
  | ConnectionRefusedError
  /-- A time-out, an unknown host, a failed handshake. -/
  | other
  deriving DecidableEq, Repr

/-- The subclasses of `EmailError`. -/
inductive EmailErrorClass
  | InvalidCredentialsError
  | OutOfAttemptsEmailError
  | ServerCommunicationError
  | BadEmailMessageError
  deriving DecidableEq, Repr

/-- What `send_message` raises. -/
inductive SendExc
  | email (cls : EmailErrorClass) (desc : String)
  | attributeError
  | unicodeDecodeError
  | smtp (e : SmtpError)
  deriving DecidableEq, Repr

/-- An `EmailError` with `e.smtp_error.decode('utf-8')`. -/
def decoded (cls : EmailErrorClass) : Option String → SendExc
  | some text => .email cls text
  | none => .unicodeDecodeError

/-- One attempt to connect: it succeeds, or raises before or after `_is_connected` is set. -/
inductive Connecting
  | connected
  | raised (created : Bool) (e : SmtpError)
  deriving DecidableEq, Repr

/-- What the SMTP library answers, attempt by attempt. -/
structure Smtp where
  connect : Nat → Connecting
  transmit : Nat → Option SmtpError

/-- The sender, with the number of attempts it has made. -/
structure EmailSender where
  _is_connected : Bool
  connects : Nat
  transmits : Nat
  deriving DecidableEq, Repr

namespace EmailSender

def SEND_MAIL_ATTEMPTS : Nat := 1

def _close : Raising EmailSender SendExc Unit :=
  modify fun self => { self with _is_connected := false }

/-- What the handlers of `_reconnect` make of an exception; `none` is another attempt. -/
def handleConnect : SmtpError → Option SendExc
  | .SMTPServerDisconnected => none
  | .SMTPHeloError _ => none
  | .ConnectionRefusedError => none
  | .SMTPAuthenticationError _ => some (.email .InvalidCredentialsError "Authentication failed")
  | .SMTPSenderRefused smtp_error => some (decoded .ServerCommunicationError smtp_error)
  | .SMTPResponseException smtp_error => some (decoded .ServerCommunicationError smtp_error)
  | .SMTPRecipientsRefused => some .attributeError
  | .SMTPException => some .attributeError
  | .other => some (.smtp .other)

/-- The loop of `_reconnect`. -/
def _reconnect (smtp : Smtp) : (reconnect_attempts : Nat) → Raising EmailSender SendExc Unit
  | 0 => throw (.email .OutOfAttemptsEmailError "Failed to establish connection with the server")
  | left + 1 => do
      _close
      let self ← get
      match smtp.connect self.connects with
      | .connected =>
          set { self with _is_connected := true, connects := self.connects + 1 }
      | .raised created e =>
          set { self with _is_connected := created, connects := self.connects + 1 }
          match handleConnect e with
          | none => _reconnect smtp left
          | some e => throw e

/-- What the handlers of `_send` make of an exception; `none` is another attempt. -/
def handleTransmit : SmtpError → Option SendExc
  | .SMTPHeloError _ => none
  | .SMTPServerDisconnected => none
  | .SMTPSenderRefused smtp_error => some (decoded .BadEmailMessageError smtp_error)
  | .SMTPRecipientsRefused => some .attributeError
  | e => some (.smtp e)

/-- `if not self._is_connected: self._reconnect()`. -/
def connected (smtp : Smtp) (reconnect_attempts : Nat) : Raising EmailSender SendExc Unit := do
  let self ← get
  if !self._is_connected then _reconnect smtp reconnect_attempts else pure ()

/-- The loop of `_send`. -/
def sendLoop (smtp : Smtp) (reconnect_attempts : Nat) : Nat → Raising EmailSender SendExc Unit
  | 0 => throw (.email .OutOfAttemptsEmailError "Failed to send the message")
  | left + 1 => do
      connected smtp reconnect_attempts
      let self ← get
      set { self with transmits := self.transmits + 1 }
      match smtp.transmit self.transmits with
      | none => pure ()
      | some e =>
          match handleTransmit e with
          | none => do
              _close
              sendLoop smtp reconnect_attempts left
          | some e => throw e

def _send (smtp : Smtp) (reconnect_attempts : Nat) : Raising EmailSender SendExc Unit :=
  sendLoop smtp reconnect_attempts SEND_MAIL_ATTEMPTS

end EmailSender

/-- How the attempt at a message ends, for the worker. -/
inductive SendOutcome
  | success
  | emailError
  | other
  deriving DecidableEq, Repr

/-- `except EmailError` catches the email errors. -/
def SendOutcome.of : Except SendExc Unit → SendOutcome
  | .ok () => .success
  | .error (.email _ _) => .emailError
  | .error _ => .other

/-! ### What the sender lets through -/

namespace EmailSender

/-- The handler tries again or makes an `EmailError` of it. -/
def Handled (h : Option SendExc) : Prop := ∀ e, h = some e → ∃ cls desc, e = .email cls desc

/-- The run ends well or with an `EmailError`. -/
def Survives {α : Type} (p : Raising EmailSender SendExc α) : Prop :=
  ∀ self e, (p self).1 = .error e → ∃ cls desc, e = .email cls desc

variable {α β : Type}

theorem survives_bind {p : Raising EmailSender SendExc α} {f : α → Raising EmailSender SendExc β}
    (hp : Survives p) (hf : ∀ a, Survives (f a)) : Survives (p >>= f) := by
  intro self e he
  rw [Raising.bind_apply] at he
  cases hr : p self with
  | mk r self' =>
      rw [hr] at he
      cases r with
      | ok a => exact hf a self' e he
      | error e' =>
          have hfirst := hp self e'
          rw [hr] at hfirst
          cases he
          exact hfirst rfl

theorem survives_of_ok {p : Raising EmailSender SendExc α}
    (h : ∀ self, ∃ a, (p self).1 = .ok a) : Survives p := by
  intro self e he
  obtain ⟨a, ha⟩ := h self
  rw [ha] at he
  cases he

theorem survives_email (cls : EmailErrorClass) (desc : String) :
    Survives (throw (.email cls desc) : Raising EmailSender SendExc α) := by
  intro self e he
  cases he
  exact ⟨cls, desc, rfl⟩

theorem survives_handled {h : Option SendExc} (hh : Handled h)
    {again : Raising EmailSender SendExc Unit} (hagain : Survives again) :
    Survives (match h with | none => again | some e => throw e) := by
  cases h with
  | none => exact hagain
  | some e =>
      obtain ⟨cls, desc, rfl⟩ := hh e rfl
      exact survives_email cls desc

variable {smtp : Smtp}

theorem survives_reconnect
    (hconnect : ∀ i created e, smtp.connect i = .raised created e → Handled (handleConnect e)) :
    ∀ n, Survives (_reconnect smtp n)
  | 0 => survives_email _ _
  | n + 1 => by
      refine survives_bind (survives_of_ok fun _ => ⟨(), rfl⟩) fun _ => ?_
      refine survives_bind (survives_of_ok fun self => ⟨self, rfl⟩) fun self => ?_
      cases hc : smtp.connect self.connects with
      | connected => exact survives_of_ok fun _ => ⟨⟨⟩, rfl⟩
      | raised created e =>
          refine survives_bind (survives_of_ok fun _ => ⟨⟨⟩, rfl⟩) fun _ => ?_
          exact survives_handled (hconnect _ _ _ hc) (survives_reconnect hconnect n)

theorem survives_connected
    (hconnect : ∀ i created e, smtp.connect i = .raised created e → Handled (handleConnect e))
    (n : Nat) : Survives (connected smtp n) := by
  refine survives_bind (survives_of_ok fun self => ⟨self, rfl⟩) fun self => ?_
  cases self._is_connected with
  | true => exact survives_of_ok fun _ => ⟨⟨⟩, rfl⟩
  | false => exact survives_reconnect hconnect n

/-- A message that only meets what the handlers are for does not end the worker. -/
theorem survives_send
    (hconnect : ∀ i created e, smtp.connect i = .raised created e → Handled (handleConnect e))
    (htransmit : ∀ i e, smtp.transmit i = some e → Handled (handleTransmit e))
    (reconnect_attempts : Nat) : Survives (_send smtp reconnect_attempts) := by
  have hloop : ∀ left, Survives (sendLoop smtp reconnect_attempts left) := by
    intro left
    induction left with
    | zero => exact survives_email _ _
    | succ left ih =>
        refine survives_bind (survives_connected hconnect reconnect_attempts) fun _ => ?_
        refine survives_bind (survives_of_ok fun self => ⟨self, rfl⟩) fun self => ?_
        refine survives_bind (survives_of_ok fun _ => ⟨⟨⟩, rfl⟩) fun _ => ?_
        cases ht : smtp.transmit self.transmits with
        | none => exact survives_of_ok fun _ => ⟨⟨⟩, rfl⟩
        | some e =>
            refine survives_handled (htransmit _ _ ht) ?_
            exact survives_bind (survives_of_ok fun _ => ⟨⟨⟩, rfl⟩) fun _ => ih
  exact hloop SEND_MAIL_ATTEMPTS

/-- Refused recipients have no answer of the server, which the handler reads. -/
theorem not_handled_recipientsRefused : ¬ Handled (handleTransmit .SMTPRecipientsRefused) := by
  intro h
  obtain ⟨cls, desc, he⟩ := h .attributeError rfl
  cases he

end EmailSender

/-! ## Messages -/

def EMAIL_BCC_BULK_LIMIT : Nat := 50

/-- `range(0, total_size, chunk_size)` has this many numbers. -/
def chunks (total_size chunk_size : Nat) : Nat := (total_size + (chunk_size - 1)) / chunk_size

def chunk_generator {α : Type} (orig_list : List α) (chunk_size : Nat) : List (List α) :=
  (List.range (chunks orig_list.length chunk_size)).map fun k =>
    (orig_list.drop (k * chunk_size)).take chunk_size

/-- The header that the recipients are put in. -/
inductive Header
  | To
  | Bcc
  deriving DecidableEq, Repr

/-- A copy of a message with one more header. -/
structure Message (Body : Type) where
  body : Body
  header : Header
  recipients : List String
  deriving DecidableEq, Repr

/-- `', '.join(recipients)`. -/
def Message.value {Body : Type} (message : Message Body) : String :=
  ", ".intercalate message.recipients

section Chunks

variable {α : Type} {orig_list : List α} {chunk_size : Nat}

theorem flatten_slices (l : List α) (c : Nat) : ∀ n : Nat,
    ((List.range n).map fun k => (l.drop (k * c)).take c).flatten = l.take (n * c)
  | 0 => by simp
  | n + 1 => by
      rw [List.range_succ, List.map_append, List.flatten_append, flatten_slices l c n,
        List.map_singleton, List.flatten_singleton, Nat.succ_mul, List.take_add]

theorem le_chunks_mul (total : Nat) (h : 0 < chunk_size) :
    total ≤ chunks total chunk_size * chunk_size := by
  have hdiv := Nat.div_add_mod (total + (chunk_size - 1)) chunk_size
  have hmod := Nat.mod_lt (total + (chunk_size - 1)) h
  rw [Nat.mul_comm] at hdiv
  unfold chunks
  omega

/-- Put together, the chunks are the list. -/
theorem flatten_chunk_generator (h : 0 < chunk_size) :
    (chunk_generator orig_list chunk_size).flatten = orig_list := by
  unfold chunk_generator
  rw [flatten_slices]
  exact List.take_of_length_le (le_chunks_mul _ h)

theorem length_chunk_generator :
    (chunk_generator orig_list chunk_size).length = chunks orig_list.length chunk_size := by
  unfold chunk_generator
  rw [List.length_map, List.length_range]

/-- A chunk is not empty and not too long. -/
theorem chunk_bounds (h : 0 < chunk_size) {chunk : List α}
    (hchunk : chunk ∈ chunk_generator orig_list chunk_size) :
    chunk ≠ [] ∧ chunk.length ≤ chunk_size := by
  obtain ⟨k, hk, rfl⟩ := List.mem_map.mp hchunk
  constructor
  · have hlt : k * chunk_size + 1 ≤ orig_list.length := by
      have hk' : k + 1 ≤ (orig_list.length + (chunk_size - 1)) / chunk_size := List.mem_range.mp hk
      have hmul := (Nat.le_div_iff_mul_le h).mp hk'
      rw [Nat.succ_mul] at hmul
      omega
    intro hnil
    have hlen := congrArg List.length hnil
    rw [List.length_take, List.length_drop, List.length_nil] at hlen
    omega
  · exact List.length_take_le _ _

end Chunks

/-! ## The queue -/

section Queue

variable {Body Config : Type}

/-- The queue with its worker. -/
abbrev EmailSenderQueue (Body Config : Type) := WorkQueue.State (Message Body × Config)

/-- One call of `enqueue_bulk_email`. -/
structure BulkCall (Body Config : Type) where
  message : Body
  recipients : List String
  config : Config

namespace EmailSenderQueue

def enqueue_email (self : EmailSenderQueue Body Config) (message : Message Body)
    (config : Config) : EmailSenderQueue Body Config :=
  self.put (message, config)

/-- The coroutine does not suspend, so the messages are queued together. -/
def enqueue_bulk_email (self : EmailSenderQueue Body Config) (message : Body)
    (recipients : List String) (config : Config) : EmailSenderQueue Body Config :=
  match recipients with
  | [] => self
  | [recipient] => enqueue_email self ⟨message, .To, [recipient]⟩ config
  | _ =>
      (chunk_generator recipients EMAIL_BCC_BULK_LIMIT).foldl
        (fun self bcc_list => enqueue_email self ⟨message, .Bcc, bcc_list⟩ config) self

def start_worker_sync (self : EmailSenderQueue Body Config) : EmailSenderQueue Body Config :=
  self.start

/-- `_worker`, from one suspension to the next. -/
def _worker (outcomes : Nat → SendOutcome) :
    EmailSenderQueue Body Config → EmailSenderQueue Body Config :=
  WorkQueue.State.work fun i => outcomes i ≠ .other

/-- `join_worker` and a graceful `stop_worker` come back from `queue.join()`. -/
def Joins (self : EmailSenderQueue Body Config) : Prop :=
  self.worker ≠ .absent ∧ self.unfinished = 0

end EmailSenderQueue

/-- What happens to a queue. -/
inductive Event (Body Config : Type)
  | enqueue_bulk_email (call : BulkCall Body Config)
  | start_worker
  | worker

open EmailSenderQueue

variable (outcomes : Nat → SendOutcome)

def happens (self : EmailSenderQueue Body Config) :
    Event Body Config → EmailSenderQueue Body Config
  | .enqueue_bulk_email call =>
      enqueue_bulk_email self call.message call.recipients call.config
  | .start_worker => start_worker_sync self
  | .worker => _worker outcomes self

/-- A new queue after these events. -/
def after (events : List (Event Body Config)) : EmailSenderQueue Body Config :=
  events.foldl (happens outcomes) .empty

/-- The calls among the events. -/
def calls : List (Event Body Config) → List (BulkCall Body Config)
  | [] => []
  | .enqueue_bulk_email call :: events => call :: calls events
  | _ :: events => calls events

/-- Messages that together carry a call. -/
structure Carries (call : BulkCall Body Config) (part : List (Message Body × Config)) : Prop where
  recipients : part.flatMap (fun m => m.1.recipients) = call.recipients
  nonempty : ∀ m ∈ part, m.1.recipients ≠ []
  limit : ∀ m ∈ part, m.1.recipients.length ≤ EMAIL_BCC_BULK_LIMIT
  copies : ∀ m ∈ part, m.1.body = call.message ∧ m.2 = call.config

/-- After the events the worker goes on until the queue is joined.  The queue is empty then, and
what was attempted are messages that carry the calls, one after the other. -/
def Delivered (events : List (Event Body Config)) : Prop :=
  ∃ k, Joins ((_worker outcomes)^[k] (after outcomes events)) ∧
    ((_worker outcomes)^[k] (after outcomes events)).queue = [] ∧
    ∃ parts, List.Forall₂ Carries (calls events) parts ∧
      ((_worker outcomes)^[k] (after outcomes events)).attempted = parts.flatten

/-- How many messages a call makes. -/
def messageCount (call : BulkCall Body Config) : Nat :=
  chunks call.recipients.length EMAIL_BCC_BULK_LIMIT

/-- The messages of a call. -/
def messages (call : BulkCall Body Config) : List (Message Body × Config) :=
  match call.recipients with
  | [] => []
  | [recipient] => [(⟨call.message, .To, [recipient]⟩, call.config)]
  | recipients =>
      (chunk_generator recipients EMAIL_BCC_BULK_LIMIT).map fun bcc_list =>
        (⟨call.message, .Bcc, bcc_list⟩, call.config)

theorem enqueue_bulk_email_eq (self : EmailSenderQueue Body Config) (call : BulkCall Body Config) :
    enqueue_bulk_email self call.message call.recipients call.config =
      self.putAll (messages call) := by
  unfold enqueue_bulk_email messages
  split
  · rfl
  · rfl
  · rw [WorkQueue.State.putAll, List.foldl_map]
    rfl

theorem carries_messages (call : BulkCall Body Config) : Carries call (messages call) := by
  have hlimit : 0 < EMAIL_BCC_BULK_LIMIT := by decide
  unfold messages
  split
  · rename_i h
    exact ⟨h.symm, fun m hm => absurd hm List.not_mem_nil, fun m hm => absurd hm List.not_mem_nil,
      fun m hm => absurd hm List.not_mem_nil⟩
  · rename_i recipient h
    refine ⟨?_, ?_, ?_, ?_⟩
    · rw [h]
      rfl
    · intro m hm
      rw [List.mem_singleton.mp hm]
      exact List.cons_ne_nil _ _
    · intro m hm
      rw [List.mem_singleton.mp hm]
      show 1 ≤ 50
      decide
    · intro m hm
      rw [List.mem_singleton.mp hm]
      exact ⟨rfl, rfl⟩
  · refine ⟨?_, ?_, ?_, ?_⟩
    · rw [List.flatMap_map]
      show (chunk_generator call.recipients EMAIL_BCC_BULK_LIMIT).flatMap id = _
      rw [List.flatMap_id, flatten_chunk_generator hlimit]
    · intro m hm
      obtain ⟨chunk, hchunk, rfl⟩ := List.mem_map.mp hm
      exact (chunk_bounds hlimit hchunk).1
    · intro m hm
      obtain ⟨chunk, hchunk, rfl⟩ := List.mem_map.mp hm
      exact (chunk_bounds hlimit hchunk).2
    · intro m hm
      obtain ⟨chunk, hchunk, rfl⟩ := List.mem_map.mp hm
      exact ⟨rfl, rfl⟩

theorem length_messages (call : BulkCall Body Config) :
    (messages call).length = messageCount call := by
  unfold messages messageCount
  split
  · rename_i h
    rw [h]
    rfl
  · rename_i h
    rw [h, List.length_singleton, List.length_singleton]
    decide
  · rw [List.length_map, length_chunk_generator]

/-! ## Runs -/

variable {outcomes}

/-- The worker survives an outcome. -/
def goesOn (outcomes : Nat → SendOutcome) (i : Nat) : Bool := outcomes i ≠ .other

theorem accounted_foldl {events : List (Event Body Config)} :
    ∀ {items : List (Message Body × Config)} {self : EmailSenderQueue Body Config},
      WorkQueue.Accounted (goesOn outcomes) items self →
        WorkQueue.Accounted (goesOn outcomes) (items ++ (calls events).flatMap messages)
          (events.foldl (happens outcomes) self) := by
  induction events with
  | nil =>
      intro items self h
      simpa [calls] using h
  | cons event events ih =>
      intro items self h
      cases event with
      | enqueue_bulk_email call =>
          have hput := h.putAll (messages call)
          rw [← enqueue_bulk_email_eq] at hput
          have hrest := ih hput
          rwa [List.append_assoc] at hrest
      | start_worker => exact ih h.start
      | worker => exact ih h.work

/-- What was put in a queue is accounted for. -/
theorem accounted_after (outcomes : Nat → SendOutcome) (events : List (Event Body Config)) :
    WorkQueue.Accounted (goesOn outcomes) ((calls events).flatMap messages)
      (after outcomes events) :=
  accounted_foldl .empty

/-- A worker that was started once is there. -/
theorem worker_foldl {events : List (Event Body Config)} :
    ∀ {self : EmailSenderQueue Body Config},
      self.worker ≠ .absent ∨ Event.start_worker ∈ events →
        (events.foldl (happens outcomes) self).worker ≠ .absent := by
  induction events with
  | nil =>
      rintro self (h | h)
      · exact h
      · cases h
  | cons event events ih =>
      intro self h
      cases event with
      | enqueue_bulk_email call =>
          refine ih ?_
          show (enqueue_bulk_email self call.message call.recipients call.config).worker ≠ _ ∨ _
          rw [enqueue_bulk_email_eq, WorkQueue.State.worker_putAll]
          exact h.imp_right fun hmem => by simpa using hmem
      | start_worker => exact ih (.inl self.worker_start)
      | worker =>
          have hmem : Event.start_worker ∈ Event.worker :: events → Event.start_worker ∈ events :=
            fun hmem => by simpa using hmem
          exact ih (h.imp WorkQueue.State.worker_work hmem)

theorem parts_carry : ∀ l : List (BulkCall Body Config), List.Forall₂ Carries l (l.map messages)
  | [] => .nil
  | call :: l => .cons (carries_messages call) (parts_carry l)

theorem length_flatMap_messages : ∀ l : List (BulkCall Body Config),
    (l.flatMap messages).length = (l.map messageCount).sum
  | [] => rfl
  | call :: l => by
      rw [List.flatMap_cons, List.length_append, length_messages, length_flatMap_messages l]
      rfl

/-- A stop comes to its end exactly if the worker survives every message. -/
theorem exists_joins_iff {events : List (Event Body Config)} (hstart : .start_worker ∈ events) :
    (∃ k, Joins ((_worker outcomes)^[k] (after outcomes events))) ↔
      ∀ i < ((calls events).map messageCount).sum, outcomes i ≠ .other := by
  have hworker : (after outcomes events).worker ≠ .absent := worker_foldl (.inr hstart)
  have hiff := WorkQueue.drained_iff (accounted_after outcomes events) hworker
  rw [length_flatMap_messages] at hiff
  have hjoins : ∀ k, Joins ((_worker outcomes)^[k] (after outcomes events)) ↔
      ((WorkQueue.State.work (goesOn outcomes))^[k] (after outcomes events)).unfinished = 0 := by
    intro k
    exact ⟨fun h => h.2, fun h => ⟨WorkQueue.State.worker_iterate hworker k, h⟩⟩
  rw [exists_congr hjoins, hiff]
  constructor
  · intro h i hi
    exact of_decide_eq_true (h i hi)
  · intro h i hi
    exact decide_eq_true (h i hi)

/-- Whatever happens to the queue and in whatever order, every recipient of every call gets one
attempt, in messages of at most 50 and in order, and the stop finds the queue empty, exactly if
no message that is queued meets an exception that is no `EmailError`. -/
theorem delivered_iff (outcomes : Nat → SendOutcome) (events : List (Event Body Config))
    (hstart : .start_worker ∈ events) :
    Delivered outcomes events ↔
      ∀ i < ((calls events).map messageCount).sum, outcomes i ≠ .other := by
  rw [← exists_joins_iff hstart]
  constructor
  · rintro ⟨k, hjoins, -, -⟩
    exact ⟨k, hjoins⟩
  · rintro ⟨k, hjoins⟩
    have hacc := (accounted_after outcomes events).work_iterate k
    obtain ⟨hqueue, hattempted, -⟩ := hacc.joined hjoins.2
    exact ⟨k, hjoins, hqueue, _, parts_carry (calls events), hattempted⟩

end Queue

/-- Two alerts to one operator each. -/
def twoAlerts : List (Event String Unit) :=
  [.start_worker, .enqueue_bulk_email ⟨"disk", ["a@seagate.com"], ()⟩, .worker,
    .enqueue_bulk_email ⟨"fan", ["b@seagate.com"], ()⟩]

theorem delivered_iff_twoAlerts :
    .start_worker ∈ twoAlerts ∧ (Delivered (fun _ => .emailError) twoAlerts ↔
      ∀ i < ((calls twoAlerts).map messageCount).sum, SendOutcome.emailError ≠ .other) :=
  ⟨List.mem_cons_self, delivered_iff (fun _ => .emailError) twoAlerts List.mem_cons_self⟩

/-- A server that refuses the recipients of every message. -/
def refusing : Smtp where
  connect _ := .connected
  transmit _ := some .SMTPRecipientsRefused

/-- The first alert's recipient is refused: the second alert is never attempted. -/
theorem refused_stops_worker :
    SendOutcome.of (EmailSender._send refusing 2 ⟨false, 0, 0⟩).1 = .other ∧
      ¬ Delivered (fun _ => SendOutcome.of (EmailSender._send refusing 2 ⟨false, 0, 0⟩).1)
        twoAlerts := by
  have hother : SendOutcome.of (EmailSender._send refusing 2 ⟨false, 0, 0⟩).1 = .other := rfl
  refine ⟨hother, ?_⟩
  rintro ⟨k, hjoins, -, -⟩
  have hall := (exists_joins_iff List.mem_cons_self).mp ⟨k, hjoins⟩
  exact hall 0 (by decide) hother

end EmailQueue

end CortxCsm
