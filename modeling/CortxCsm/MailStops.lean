/-
# `CortxCsm.MailStops` — stopping the mail worker

`EmailSenderQueue.stop_worker(True)` (`email_queue.py`) waits for `queue.join()` and then cancels
the worker; `stop_worker()` cancels it at once.  A mail whose worker is cancelled, or ends by
an exception, while the mail is with `send_message` is never reported by `task_done`, so
`join` never comes back after that.  A call that `join` has come back to is not resumed at
once: mails can be put and another call can take the worker before it is.

| | |
| :-- | :-- |
| `Act` | a call of one of the methods, or the next step of a task |
| `EmailSenderQueue.put` | the mails put, in their order |
| `Interrupts` | a step that takes the worker from a mail |
| `Overtaken` | another call has taken the worker from a call that waits for it |

**Proved here.**

    the count is of the mails that are not reported            (`Sound.does`)
    a mail is dropped exactly where its worker is interrupted  (`allReported_run_iff`)
    a call that waits can come through exactly if no mail has
    been dropped, and then all mails put before it began have
    been reported; it fails exactly if it was overtaken        (`stops_exact`)
-/
import CortxCsm.EmailQueue
import CortxCsm.Lib.Run

namespace CortxCsm

namespace MailStops

open EmailQueue (BulkCall SendOutcome messages)

/-- A message in the queue, with its SMTP configuration. -/
abbrev Email (Body Config : Type) : Type := EmailQueue.Message Body × Config

/-- The coroutine `_worker`. -/
inductive Worker (Mail : Type)
  /-- At `queue.get()`. -/
  | getting
  /-- At `send_message`. -/
  | sending (mail : Mail)
  /-- Ended by an exception that is no `EmailError`. -/
  | ended
  deriving DecidableEq, Repr

/-- A call that waits for `queue.join()`. -/
structure Waiter (Task : Type) where
  task : Task
  /-- A graceful `stop_worker`, and not a `join_worker`. -/
  stops : Bool
  /-- How many mails had been put when it began. -/
  begun : ℕ
  deriving DecidableEq, Repr

structure EmailSenderQueue (Mail Task : Type) where
  queue : List Mail
  _unfinished_tasks : ℕ
  worker : Option (Worker Mail)
  /-- The calls that wait. -/
  joining : List (Waiter Task)
  /-- The calls that `join` has come back to, and that are not resumed yet. -/
  joined : List (Waiter Task)
  /-- The tasks that were resumed with an `AttributeError`. -/
  failed : List Task
  /-- The mails that a worker is done with, and whether it reported them. -/
  attempted : List (Mail × Bool)
  deriving DecidableEq, Repr

variable {Mail Task : Type}

namespace EmailSenderQueue

def init : EmailSenderQueue Mail Task := ⟨[], 0, none, [], [], [], []⟩

variable (self : EmailSenderQueue Mail Task)

/-- The mail at `send_message`. -/
def inHand : List Mail :=
  match self.worker with
  | some (.sending mail) => [mail]
  | _ => []

/-- The mails put. -/
def put : List Mail := self.attempted.map Prod.fst ++ self.inHand ++ self.queue

/-- `put_nowait`, mail by mail. -/
def put_nowait (mails : List Mail) : EmailSenderQueue Mail Task :=
  { self with queue := self.queue ++ mails
              _unfinished_tasks := self._unfinished_tasks + mails.length }

def start_worker_sync : EmailSenderQueue Mail Task :=
  match self.worker with
  | some _ => self
  | none => { self with worker := some .getting }

/-- `queue.get()`: the worker takes a mail to `send_message`, or waits for one. -/
def get : EmailSenderQueue Mail Task :=
  match self.queue with
  | [] => { self with worker := some .getting }
  | mail :: queue => { self with queue, worker := some (.sending mail) }

/-- `queue.task_done()`, which ends the waiting when it was the last one. -/
def task_done : EmailSenderQueue Mail Task :=
  if self._unfinished_tasks - 1 = 0 then
    { self with _unfinished_tasks := 0, joined := self.joined ++ self.joining, joining := [] }
  else { self with _unfinished_tasks := self._unfinished_tasks - 1 }

/-- The worker is done with the mail. -/
def attempt (mail : Mail) (reported : Bool) : EmailSenderQueue Mail Task :=
  { self with attempted := self.attempted ++ [(mail, reported)] }

/-- `_worker`, from one suspension to the next. -/
def _worker (outcome : SendOutcome) : EmailSenderQueue Mail Task :=
  match self.worker with
  | some .getting => self.get
  | some (.sending mail) =>
      match outcome with
      | .other => { self.attempt mail false with worker := some .ended }
      | _ => (self.attempt mail true).task_done.get
  | _ => self

/-- `self.worker.cancel()` and `self.worker = None`. -/
def cancel : EmailSenderQueue Mail Task :=
  match self.worker with
  | some (.sending mail) => { self.attempt mail false with worker := none }
  | _ => { self with worker := none }

/-- `queue.join()` for a task: it waits, or goes on at once. -/
def join (task : Task) (stops : Bool) (goesOn : EmailSenderQueue Mail Task) :
    EmailSenderQueue Mail Task :=
  if 0 < self._unfinished_tasks then
    { self with joining := self.joining ++ [⟨task, stops, self.put.length⟩] }
  else goesOn

def join_worker (task : Task) : EmailSenderQueue Mail Task :=
  match self.worker with
  | none => self
  | some _ => self.join task false self

def stop_worker (task : Task) (graceful : Bool) : EmailSenderQueue Mail Task :=
  match self.worker with
  | none => self
  | some _ => if graceful then self.join task true self.cancel else self.cancel

/-- The first call that `join` has come back to goes on. -/
def resume : EmailSenderQueue Mail Task :=
  match self.joined with
  | [] => self
  | waiter :: joined =>
      if waiter.stops then
        match self.worker with
        | none => { self with joined, failed := self.failed ++ [waiter.task] }
        | some _ => { self with joined }.cancel
      else { self with joined }

end EmailSenderQueue

open EmailSenderQueue

/-- What happens to a queue. -/
inductive Act (Body Config Task : Type)
  | enqueue_email (message : EmailQueue.Message Body) (config : Config)
  | enqueue_bulk_email (call : BulkCall Body Config)
  | start_worker
  | join_worker (task : Task)
  | stop_worker (task : Task) (graceful : Bool)
  /-- The worker's next step, and how its mail went if it has one. -/
  | worker (outcome : SendOutcome)
  /-- A call goes on after `join`. -/
  | resume

variable {Body Config : Type}

/-- The mails that a call puts. -/
def mails : Act Body Config Task → List (Email Body Config)
  | .enqueue_email message config => [(message, config)]
  | .enqueue_bulk_email call => messages call
  | _ => []

def step (self : EmailSenderQueue (Email Body Config) Task) :
    Act Body Config Task → EmailSenderQueue (Email Body Config) Task
  | .enqueue_email message config => self.put_nowait [(message, config)]
  | .enqueue_bulk_email call => self.put_nowait (messages call)
  | .start_worker => self.start_worker_sync
  | .join_worker task => self.join_worker task
  | .stop_worker task graceful => self.stop_worker task graceful
  | .worker outcome => self._worker outcome
  | .resume => self.resume

/-- Every mail that a worker was done with has been reported. -/
def AllReported (self : EmailSenderQueue Mail Task) : Prop := ∀ a ∈ self.attempted, a.2 = true

/-- The worker is taken away. -/
def Cancels (self : EmailSenderQueue Mail Task) : Act Body Config Task → Prop
  | .stop_worker _ graceful => self.worker.isSome ∧ (graceful = true → self._unfinished_tasks = 0)
  | .resume => self.worker.isSome ∧ ∃ waiter, self.joined.head? = some waiter ∧ waiter.stops = true
  | _ => False

/-- The worker is taken from a mail, or ends with it. -/
def Interrupts (self : EmailSenderQueue Mail Task) (a : Act Body Config Task) : Prop :=
  self.inHand ≠ [] ∧ (Cancels self a ∨ a = .worker .other)

/-! ## What a step does -/

/-- It is the worker's own step. -/
def Works : Act Body Config Task → Prop
  | .worker _ => True
  | _ => False

/-- The step takes no worker away. -/
def Quiet (self : EmailSenderQueue Mail Task) (a : Act Body Config Task) : Prop :=
  ¬ Cancels self a ∧ ¬ Interrupts self a

section

variable {self : EmailSenderQueue Mail Task} {a : Act Body Config Task}

theorem quiet_of_not_works (hnot : ¬ Cancels self a) (ha : ¬ Works a) : Quiet self a := by
  refine ⟨hnot, fun h => h.2.elim hnot ?_⟩
  rintro rfl
  exact ha trivial

theorem quiet_of_inHand (hnot : ¬ Cancels self a) (h : self.inHand = []) : Quiet self a :=
  ⟨hnot, fun hi => hi.1 h⟩

theorem quiet_of_not_other (hnot : ¬ Cancels self a) (ha : a ≠ .worker .other) : Quiet self a :=
  ⟨hnot, fun h => h.2.elim hnot ha⟩

end

/-- What a step does to the queue. -/
inductive Does (self : EmailSenderQueue (Email Body Config) Task) (a : Act Body Config Task) :
    EmailSenderQueue (Email Body Config) Task → Prop
  | puts (hquiet : Quiet self a) : Does self a (self.put_nowait (mails a))
  | stays (hmails : mails a = []) (hquiet : Quiet self a) : Does self a self
  | starts (hmails : mails a = []) (hquiet : Quiet self a) (ha : a = .start_worker)
      (hworker : self.worker = none) : Does self a { self with worker := some .getting }
  | takes (hmails : mails a = []) (hquiet : Quiet self a) (hworker : self.worker = some .getting) :
      Does self a self.get
  | reports (hmails : mails a = []) (hquiet : Quiet self a) (mail : Email Body Config)
      (hworker : self.worker = some (.sending mail)) :
      Does self a (self.attempt mail true).task_done.get
  | ends (hmails : mails a = []) (hnot : ¬ Cancels self a) (hends : Interrupts self a)
      (mail : Email Body Config) (hworker : self.worker = some (.sending mail)) :
      Does self a { self.attempt mail false with worker := some .ended }
  | waits (hmails : mails a = []) (hquiet : Quiet self a) (task : Task) (stops : Bool)
      (hworker : self.worker.isSome) (hcount : 0 < self._unfinished_tasks) :
      Does self a { self with joining := self.joining ++ [⟨task, stops, self.put.length⟩] }
  | cancels (hmails : mails a = []) (hcancels : Cancels self a) (joined : List (Waiter Task))
      (hjoined : joined <:+ self.joined) : Does self a { self with joined }.cancel
  | resumes (hmails : mails a = []) (hquiet : Quiet self a) (waiter : Waiter Task)
      (joined : List (Waiter Task)) (hjoined : self.joined = waiter :: joined)
      (failed : List Task) : Does self a { self with joined, failed }

section

variable {self : EmailSenderQueue Mail Task} {waiter : Waiter Task} {joined : List (Waiter Task)}

/-- A graceful stop fails where there is no worker any more. -/
theorem resume_of_none (hjoined : self.joined = waiter :: joined) (hstops : waiter.stops = true)
    (hworker : self.worker = none) :
    self.resume = { self with joined, failed := self.failed ++ [waiter.task] } := by
  rw [EmailSenderQueue.resume, hjoined]
  simp only [hstops, if_true, hworker]

theorem resume_of_some {worker : Worker Mail} (hjoined : self.joined = waiter :: joined)
    (hstops : waiter.stops = true) (hworker : self.worker = some worker) :
    self.resume = { self with joined }.cancel := by
  rw [EmailSenderQueue.resume, hjoined]
  simp only [hstops, if_true, hworker]

end

section

variable (self : EmailSenderQueue (Email Body Config) Task)

theorem start_worker_does : Does self .start_worker self.start_worker_sync := by
  have hquiet : Quiet self (.start_worker : Act Body Config Task) :=
    quiet_of_not_works id id
  rw [start_worker_sync]
  cases hworker : self.worker with
  | none => exact .starts rfl hquiet rfl hworker
  | some _ => exact .stays rfl hquiet

theorem join_worker_does (task : Task) : Does self (.join_worker task) (self.join_worker task) := by
  have hquiet : Quiet self (.join_worker task : Act Body Config Task) :=
    quiet_of_not_works id id
  rw [EmailSenderQueue.join_worker]
  cases hworker : self.worker with
  | none => exact .stays rfl hquiet
  | some _ =>
      dsimp only
      rw [join]
      split
      · rename_i hcount
        exact .waits rfl hquiet task false (by rw [hworker]; rfl) hcount
      · exact .stays rfl hquiet

theorem stop_worker_does (task : Task) (graceful : Bool) :
    Does self (.stop_worker task graceful) (self.stop_worker task graceful) := by
  have hcancels : Cancels self (.stop_worker task graceful : Act Body Config Task) ↔
      self.worker.isSome ∧ (graceful = true → self._unfinished_tasks = 0) := Iff.rfl
  have hquiet : ¬ Cancels self (.stop_worker task graceful : Act Body Config Task) →
      Quiet self (.stop_worker task graceful : Act Body Config Task) :=
    fun hnot => quiet_of_not_works hnot id
  rw [EmailSenderQueue.stop_worker]
  cases hworker : self.worker with
  | none =>
      refine .stays rfl (hquiet fun h => ?_)
      rw [hcancels, hworker] at h
      exact Bool.noConfusion h.1
  | some worker =>
      have hsome : self.worker.isSome := by rw [hworker]; rfl
      cases graceful with
      | false =>
          exact .cancels rfl (hcancels.mpr ⟨hsome, fun h => Bool.noConfusion h⟩) self.joined
            List.suffix_rfl
      | true =>
          dsimp only
          rw [if_pos rfl, join]
          split
          · rename_i hcount
            refine .waits rfl (hquiet fun h => ?_) task true hsome hcount
            exact absurd ((hcancels.mp h).2 rfl) (Nat.pos_iff_ne_zero.mp hcount)
          · rename_i hcount
            exact .cancels rfl (hcancels.mpr ⟨hsome, fun _ => Nat.eq_zero_of_not_pos hcount⟩)
              self.joined List.suffix_rfl

theorem worker_does (outcome : SendOutcome) :
    Does self (.worker outcome) (self._worker outcome) := by
  have hnot : ¬ Cancels self (.worker outcome : Act Body Config Task) := id
  rw [_worker]
  cases hworker : self.worker with
  | none =>
      have hinHand : self.inHand = [] := by rw [inHand, hworker]
      exact .stays rfl (quiet_of_inHand hnot hinHand)
  | some worker =>
      cases worker with
      | getting =>
          have hinHand : self.inHand = [] := by rw [inHand, hworker]
          exact .takes rfl (quiet_of_inHand hnot hinHand) hworker
      | ended =>
          have hinHand : self.inHand = [] := by rw [inHand, hworker]
          exact .stays rfl (quiet_of_inHand hnot hinHand)
      | sending mail =>
          have hinHand : self.inHand = [mail] := by rw [inHand, hworker]
          have hends : outcome = .other →
              Interrupts self (.worker outcome : Act Body Config Task) := by
            rintro rfl
            exact ⟨by rw [hinHand]; exact List.cons_ne_nil _ _, .inr rfl⟩
          have hquiet : outcome ≠ .other → Quiet self (.worker outcome : Act Body Config Task) :=
            fun h => quiet_of_not_other hnot fun he => h (Act.worker.inj he)
          cases outcome with
          | success => exact .reports rfl (hquiet SendOutcome.noConfusion) mail hworker
          | emailError => exact .reports rfl (hquiet SendOutcome.noConfusion) mail hworker
          | other => exact .ends rfl hnot (hends rfl) mail hworker

theorem resume_does : Does self .resume self.resume := by
  have hquiet : ¬ Cancels self (.resume : Act Body Config Task) →
      Quiet self (.resume : Act Body Config Task) := fun hnot => quiet_of_not_works hnot id
  have hcancels : Cancels self (.resume : Act Body Config Task) ↔ self.worker.isSome ∧
      ∃ waiter, self.joined.head? = some waiter ∧ waiter.stops = true := Iff.rfl
  cases hjoined : self.joined with
  | nil =>
      have hresume : self.resume = self := by rw [EmailSenderQueue.resume, hjoined]
      rw [hresume]
      refine .stays rfl (hquiet fun h => ?_)
      obtain ⟨waiter, hhead, -⟩ := (hcancels.mp h).2
      rw [hjoined] at hhead
      cases hhead
  | cons waiter joined =>
      have hhead : self.joined.head? = some waiter := by rw [hjoined]; rfl
      cases hstops : waiter.stops with
      | false =>
          have hresume : self.resume = { self with joined } := by
            rw [EmailSenderQueue.resume, hjoined]
            simp only [hstops, Bool.false_eq_true, if_false]
          rw [hresume]
          refine .resumes rfl (hquiet fun h => ?_) waiter joined hjoined _
          obtain ⟨other, hother, hothers⟩ := (hcancels.mp h).2
          rw [← Option.some.inj (hhead.symm.trans hother), hstops] at hothers
          exact Bool.noConfusion hothers
      | true =>
          cases hworker : self.worker with
          | none =>
              rw [resume_of_none hjoined hstops hworker]
              refine .resumes rfl (hquiet fun h => ?_) waiter joined hjoined _
              rw [hcancels, hworker] at h
              exact Bool.noConfusion h.1
          | some worker =>
              rw [resume_of_some hjoined hstops hworker]
              refine .cancels rfl ?_ joined ?_
              · exact hcancels.mpr ⟨by rw [hworker]; rfl, waiter, hhead, hstops⟩
              · rw [hjoined]
                exact List.suffix_cons _ _

theorem step_does (a : Act Body Config Task) : Does self a (step self a) := by
  cases a with
  | enqueue_email message config =>
      exact .puts (quiet_of_not_works id id)
  | enqueue_bulk_email call => exact .puts (quiet_of_not_works id id)
  | start_worker => exact start_worker_does self
  | join_worker task => exact join_worker_does self task
  | stop_worker task graceful => exact stop_worker_does self task graceful
  | worker outcome => exact worker_does self outcome
  | resume => exact resume_does self

end

/-! ## What stays as it is -/

section

variable (self : EmailSenderQueue Mail Task)

@[simp] theorem attempted_get : self.get.attempted = self.attempted := by
  rw [EmailSenderQueue.get]
  split <;> rfl

@[simp] theorem joining_get : self.get.joining = self.joining := by
  rw [EmailSenderQueue.get]
  split <;> rfl

@[simp] theorem joined_get : self.get.joined = self.joined := by
  rw [EmailSenderQueue.get]
  split <;> rfl

@[simp] theorem unfinished_get : self.get._unfinished_tasks = self._unfinished_tasks := by
  rw [EmailSenderQueue.get]
  split <;> rfl

/-- A worker that gets a mail has it, or none is there. -/
theorem inHand_get : self.get.inHand ++ self.get.queue = self.queue := by
  rw [EmailSenderQueue.get]
  split
  · rfl
  · rename_i hqueue
    rw [hqueue]
    rfl

theorem get_of_cons {mail : Mail} {queue : List Mail} (hqueue : self.queue = mail :: queue) :
    self.get = { self with queue, worker := some (.sending mail) } := by
  rw [EmailSenderQueue.get, hqueue]

theorem put_get : self.get.put = self.attempted.map Prod.fst ++ self.queue := by
  rw [EmailSenderQueue.put, attempted_get, List.append_assoc, inHand_get]

@[simp] theorem attempted_task_done : self.task_done.attempted = self.attempted := by
  rw [task_done]
  split <;> rfl

@[simp] theorem queue_task_done : self.task_done.queue = self.queue := by
  rw [task_done]
  split <;> rfl

@[simp] theorem unfinished_task_done :
    self.task_done._unfinished_tasks = self._unfinished_tasks - 1 := by
  rw [task_done]
  split
  · rename_i hzero
    exact hzero.symm
  · rfl

theorem isSome_get : self.get.worker.isSome := by
  rw [EmailSenderQueue.get]
  split <;> rfl

theorem worker_cancel : self.cancel.worker = none := by
  rw [cancel]
  split <;> rfl

theorem joining_cancel : self.cancel.joining = self.joining := by
  rw [cancel]
  split <;> rfl

theorem joined_cancel : self.cancel.joined = self.joined := by
  rw [cancel]
  split <;> rfl

/-- The mail in hand is dropped. -/
theorem attempted_cancel :
    self.cancel.attempted = self.attempted ++ self.inHand.map fun mail => (mail, false) := by
  rw [cancel, inHand]
  split
  · rfl
  · exact (List.append_nil _).symm

theorem put_cancel : self.cancel.put = self.put := by
  have hinHand : self.cancel.inHand = [] := by rw [inHand, worker_cancel]
  have hqueue : self.cancel.queue = self.queue := by
    rw [cancel]
    split <;> rfl
  rw [EmailSenderQueue.put, EmailSenderQueue.put, hinHand, hqueue, attempted_cancel,
    List.map_append, List.map_map, List.append_nil]
  have hid : (Prod.fst ∘ fun mail : Mail => (mail, false)) = id := rfl
  rw [hid, List.map_id]

end

section

variable {self t : EmailSenderQueue (Email Body Config) Task} {a : Act Body Config Task}

/-- A step only adds the mails that it puts. -/
theorem Does.put (h : Does self a t) : t.put = self.put ++ mails a := by
  cases h with
  | puts hquiet => exact (List.append_assoc _ _ _).symm
  | stays hmails hquiet => rw [hmails, List.append_nil]
  | starts hmails hquiet ha hworker =>
      rw [hmails, List.append_nil, EmailSenderQueue.put, EmailSenderQueue.put, inHand, inHand,
        hworker]
  | takes hmails hquiet hworker =>
      rw [hmails, List.append_nil, put_get, EmailSenderQueue.put, inHand, hworker, List.append_nil]
  | reports hmails hquiet mail hworker =>
      rw [hmails, List.append_nil, put_get, attempted_task_done, queue_task_done,
        EmailSenderQueue.put, inHand, hworker, attempt, List.map_append]
      rfl
  | ends hmails hnot hends mail hworker =>
      rw [hmails, List.append_nil, EmailSenderQueue.put, EmailSenderQueue.put, inHand, inHand,
        hworker, attempt, List.map_append, List.append_nil]
      rfl
  | waits hmails hquiet task stops hworker hcount => rw [hmails, List.append_nil]; rfl
  | cancels hmails hcancels joined hjoined => rw [hmails, List.append_nil, put_cancel]; rfl
  | resumes hmails hquiet waiter joined hjoined failed => rw [hmails, List.append_nil]; rfl

/-- What has become of a mail does not change. -/
theorem Does.attempted (h : Does self a t) : self.attempted <+: t.attempted := by
  cases h with
  | puts hquiet => exact List.prefix_rfl
  | stays hmails hquiet => exact List.prefix_rfl
  | starts hmails hquiet ha hworker => exact List.prefix_rfl
  | takes hmails hquiet hworker => rw [attempted_get]
  | reports hmails hquiet mail hworker =>
      rw [attempted_get, attempted_task_done]
      exact List.prefix_append _ _
  | ends hmails hnot hends mail hworker => exact List.prefix_append _ _
  | waits hmails hquiet task stops hworker hcount => exact List.prefix_rfl
  | cancels hmails hcancels joined hjoined =>
      rw [attempted_cancel]
      exact List.prefix_append _ _
  | resumes hmails hquiet waiter joined hjoined failed => exact List.prefix_rfl

/-- There is no worker after a step that takes him away, or where there was none. -/
theorem Does.worker_eq_none_iff (h : Does self a t) (ha : a ≠ .start_worker) :
    t.worker = none ↔ Cancels self a ∨ self.worker = none := by
  have hkept : t.worker = self.worker → ¬ Cancels self a →
      (t.worker = none ↔ Cancels self a ∨ self.worker = none) := by
    intro hworker hnot
    rw [hworker]
    exact ⟨.inr, fun h => h.resolve_left hnot⟩
  have hthere : t.worker.isSome → self.worker.isSome → ¬ Cancels self a →
      (t.worker = none ↔ Cancels self a ∨ self.worker = none) := by
    intro ht hself hnot
    refine iff_of_false (Option.isSome_iff_ne_none.mp ht) ?_
    rintro (hcancels | hnone)
    · exact hnot hcancels
    · exact Option.isSome_iff_ne_none.mp hself hnone
  cases h with
  | puts hquiet => exact hkept rfl hquiet.1
  | stays hmails hquiet => exact hkept rfl hquiet.1
  | starts hmails hquiet hstart hworker => exact absurd hstart ha
  | takes hmails hquiet hworker =>
      exact hthere (isSome_get _) (by rw [hworker]; rfl) hquiet.1
  | reports hmails hquiet mail hworker =>
      exact hthere (isSome_get _) (by rw [hworker]; rfl) hquiet.1
  | ends hmails hnot hends mail hworker => exact hthere rfl (by rw [hworker]; rfl) hnot
  | waits hmails hquiet task stops hworker hcount => exact hkept rfl hquiet.1
  | cancels hmails hcancels joined hjoined => exact iff_of_true (worker_cancel _) (.inl hcancels)
  | resumes hmails hquiet waiter joined hjoined failed => exact hkept rfl hquiet.1

theorem start_worker_ne_none : (step self .start_worker).worker ≠ none := by
  have hstart : (step self .start_worker).worker = self.worker.or (some .getting) := by
    show self.start_worker_sync.worker = _
    rw [start_worker_sync]
    cases hworker : self.worker with
    | none => rfl
    | some worker => exact hworker
  rw [hstart]
  cases self.worker with
  | none => exact Option.some_ne_none _
  | some _ => exact Option.some_ne_none _

/-- A mail is dropped by the steps that interrupt its worker, and by no others. -/
theorem Does.allReported_iff (h : Does self a t) (hself : AllReported self) :
    AllReported t ↔ ¬ Interrupts self a := by
  cases h with
  | puts hquiet => exact iff_of_true hself hquiet.2
  | stays hmails hquiet => exact iff_of_true hself hquiet.2
  | starts hmails hquiet hstart hworker => exact iff_of_true hself hquiet.2
  | takes hmails hquiet hworker =>
      refine iff_of_true ?_ hquiet.2
      rw [AllReported, attempted_get]
      exact hself
  | reports hmails hquiet mail hworker =>
      refine iff_of_true ?_ hquiet.2
      rw [AllReported, attempted_get, attempted_task_done]
      refine List.forall_mem_append.mpr ⟨hself, fun b hb => ?_⟩
      rw [List.mem_singleton.mp hb]
  | ends hmails hnot hends mail hworker =>
      refine iff_of_false (fun h => ?_) (not_not_intro hends)
      have hlast := h (mail, false) (List.mem_append_right _ (List.mem_singleton_self _))
      exact Bool.noConfusion hlast
  | waits hmails hquiet task stops hworker hcount => exact iff_of_true hself hquiet.2
  | cancels hmails hcancels joined hjoined =>
      rw [AllReported, attempted_cancel, List.forall_mem_append]
      have hinHand : ({ self with joined }).inHand = self.inHand := rfl
      rw [hinHand]
      constructor
      · rintro ⟨-, hdropped⟩ ⟨hne, -⟩
        obtain ⟨mail, hmail⟩ := List.exists_mem_of_ne_nil _ hne
        exact Bool.noConfusion (hdropped _ (List.mem_map_of_mem hmail))
      · intro hnot
        have hempty : self.inHand = [] := by
          by_contra hne
          exact hnot ⟨hne, .inl hcancels⟩
        rw [hempty]
        exact ⟨hself, fun b hb => absurd hb List.not_mem_nil⟩
  | resumes hmails hquiet waiter joined hjoined failed => exact iff_of_true hself hquiet.2

end

/-! ## The count -/

/-- How many mails were dropped. -/
def dropped (self : EmailSenderQueue Mail Task) : ℕ := self.attempted.countP fun a => !a.2

theorem dropped_eq_zero_iff {self : EmailSenderQueue Mail Task} :
    dropped self = 0 ↔ AllReported self := by
  rw [dropped, List.countP_eq_zero]
  exact forall₂_congr fun a _ => by cases a.2 <;> simp

/-- What is true of a queue after any calls and steps. -/
structure Sound (s : EmailSenderQueue Mail Task) : Prop where
  count : s._unfinished_tasks = dropped s + s.inHand.length + s.queue.length
  ended : s.worker = some .ended → ¬ AllReported s
  waiting : s.joining ≠ [] → 0 < s._unfinished_tasks
  begun : ∀ waiter ∈ s.joining, waiter.begun ≤ s.put.length
  promised : ∀ waiter ∈ s.joined, waiter.begun ≤ s.attempted.length ∧
    ∀ a ∈ s.attempted.take waiter.begun, a.2 = true

namespace Sound

theorem init : Sound (EmailSenderQueue.init : EmailSenderQueue Mail Task) where
  count := rfl
  ended h := by cases h
  waiting h := absurd rfl h
  begun _ h := absurd h List.not_mem_nil
  promised _ h := absurd h List.not_mem_nil

variable {self : EmailSenderQueue (Email Body Config) Task} {a : Act Body Config Task}
  {t : EmailSenderQueue (Email Body Config) Task}

/-- What was promised to a call stays so. -/
theorem promised_of_prefix (h : Sound self) (hattempted : self.attempted <+: t.attempted)
    {waiter : Waiter Task} (hwaiter : waiter ∈ self.joined) :
    waiter.begun ≤ t.attempted.length ∧ ∀ a ∈ t.attempted.take waiter.begun, a.2 = true := by
  obtain ⟨hle, hall⟩ := h.promised waiter hwaiter
  obtain ⟨more, hmore⟩ := hattempted
  rw [← hmore, List.length_append, List.take_append_of_le_length hle]
  exact ⟨Nat.le_add_right_of_le hle, hall⟩

/-- A step that leaves the count and the calls that wait as they are. -/
theorem kept (h : Sound self) (hdoes : Does self a t) (hmails : mails a = [])
    (hattempted : t.attempted = self.attempted)
    (hhere : t.inHand.length + t.queue.length = self.inHand.length + self.queue.length)
    (hended : t.worker = some .ended → self.worker = some .ended)
    (hunfinished : t._unfinished_tasks = self._unfinished_tasks)
    (hjoining : t.joining = self.joining) (hjoined : t.joined ⊆ self.joined) : Sound t where
  count := by
    have hcount := h.count
    rw [hunfinished, dropped, hattempted, Nat.add_assoc, hhere, ← Nat.add_assoc]
    exact hcount
  ended ht hall := h.ended (hended ht) (by rw [AllReported, ← hattempted]; exact hall)
  waiting := by
    rw [hjoining, hunfinished]
    exact h.waiting
  begun := by
    rw [hjoining, hdoes.put, hmails, List.append_nil]
    exact h.begun
  promised waiter hwaiter := h.promised_of_prefix hdoes.attempted (hjoined hwaiter)

theorem put_nowait (h : Sound self) (more : List (Email Body Config)) :
    Sound (self.put_nowait more) where
  count := by
    have hcount := h.count
    show self._unfinished_tasks + more.length = dropped self + self.inHand.length +
      (self.queue ++ more).length
    rw [List.length_append]
    omega
  ended := h.ended
  waiting hne := Nat.add_pos_left (h.waiting hne) _
  begun waiter hwaiter := by
    have hput : (self.put_nowait more).put = self.put ++ more := (List.append_assoc _ _ _).symm
    rw [hput, List.length_append]
    exact Nat.le_add_right_of_le (h.begun waiter hwaiter)
  promised := h.promised

/-- A mail is dropped with its worker. -/
theorem dropping (h : Sound self) (hdoes : Does self a t) (hmails : mails a = [])
    (hattempted : t.attempted = self.attempted ++ self.inHand.map fun mail => (mail, false))
    (hinHand : t.inHand = []) (hqueue : t.queue = self.queue)
    (hended : t.worker = some .ended → self.inHand ≠ [])
    (hunfinished : t._unfinished_tasks = self._unfinished_tasks)
    (hjoining : t.joining = self.joining) (hjoined : t.joined ⊆ self.joined) : Sound t where
  count := by
    have hall : ∀ l : List (Email Body Config),
        (l.map fun mail => (mail, false)).countP (fun a => !a.2) = l.length := by
      intro l
      rw [List.countP_map]
      exact List.countP_eq_length.mpr fun _ _ => rfl
    rw [hunfinished, hinHand, hqueue, dropped, hattempted, List.countP_append, hall]
    exact h.count
  ended ht hall := by
    obtain ⟨mail, hmail⟩ := List.exists_mem_of_ne_nil _ (hended ht)
    rw [AllReported, hattempted] at hall
    exact Bool.noConfusion (hall _ (List.mem_append_right _ (List.mem_map_of_mem hmail)))
  waiting := by
    rw [hjoining, hunfinished]
    exact h.waiting
  begun := by
    rw [hjoining, hdoes.put, hmails, List.append_nil]
    exact h.begun
  promised waiter hwaiter := h.promised_of_prefix hdoes.attempted (hjoined hwaiter)

/-- The worker reports its mail and takes the next. -/
theorem reports (h : Sound self) (hmails : mails a = []) (hquiet : Quiet self a)
    {mail : Email Body Config} (hworker : self.worker = some (.sending mail)) :
    Sound (self.attempt mail true).task_done.get := by
  have hdoes : Does self a (self.attempt mail true).task_done.get :=
    .reports hmails hquiet mail hworker
  have hput := hdoes.put
  rw [hmails, List.append_nil] at hput
  have hattempted : (self.attempt mail true).task_done.get.attempted =
      self.attempted ++ [(mail, true)] := by
    rw [attempted_get, attempted_task_done]
    rfl
  have hdropped : dropped (self.attempt mail true).task_done.get = dropped self := by
    rw [dropped, hattempted, List.countP_append]
    rfl
  have hunfinished : (self.attempt mail true).task_done.get._unfinished_tasks =
      self._unfinished_tasks - 1 := by
    rw [unfinished_get, unfinished_task_done]
    rfl
  have hhere : (self.attempt mail true).task_done.get.inHand.length +
      (self.attempt mail true).task_done.get.queue.length = self.queue.length := by
    rw [← List.length_append, inHand_get, queue_task_done]
    rfl
  have hinHand : self.inHand = [mail] := by rw [inHand, hworker]
  have hcount := h.count
  rw [hinHand, List.length_singleton] at hcount
  refine ⟨?_, ?_, ?_, ?_, ?_⟩
  · rw [hunfinished, hdropped, Nat.add_assoc, hhere]
    omega
  · intro ht
    rw [EmailSenderQueue.get] at ht
    split at ht <;> cases ht
  · rw [hunfinished, joining_get, task_done]
    split
    · exact fun hne => absurd rfl hne
    · rename_i hmore
      exact fun _ => Nat.pos_of_ne_zero hmore
  · rw [hput, joining_get, task_done]
    split
    · exact fun _ hwaiter => absurd hwaiter List.not_mem_nil
    · exact h.begun
  · intro waiter hwaiter
    by_cases hbefore : waiter ∈ self.joined
    · exact h.promised_of_prefix hdoes.attempted hbefore
    · rw [joined_get, task_done] at hwaiter
      split at hwaiter
      · -- the last one is reported: the call has waited for all of them
        rename_i hzero
        have hlast : waiter ∈ self.joining := (List.mem_append.mp hwaiter).resolve_left hbefore
        have hall : AllReported (self.attempt mail true).task_done.get := by
          rw [← dropped_eq_zero_iff, hdropped]
          have hzero' : self._unfinished_tasks - 1 = 0 := hzero
          omega
        refine ⟨?_, fun b hb => hall b (List.mem_of_mem_take hb)⟩
        have hbegun := h.begun waiter hlast
        have hempty : self.queue.length = 0 := by
          have hzero' : self._unfinished_tasks - 1 = 0 := hzero
          omega
        rw [hattempted, List.length_append, List.length_singleton]
        rw [EmailSenderQueue.put, List.length_append, List.length_append, List.length_map, hinHand,
          hempty] at hbegun
        exact hbegun
      · exact absurd hwaiter hbefore

theorem does (h : Sound self) (hdoes : Does self a t) : Sound t := by
  cases hdoes with
  | puts hquiet => exact h.put_nowait _
  | stays hmails hquiet => exact h
  | starts hmails hquiet hstart hworker =>
      have hinHand : self.inHand = [] := by rw [inHand, hworker]
      exact h.kept (.starts hmails hquiet hstart hworker) hmails rfl (by rw [hinHand]; rfl)
        (fun ht => by cases ht) rfl rfl (List.Subset.refl _)
  | takes hmails hquiet hworker =>
      have hinHand : self.inHand = [] := by rw [inHand, hworker]
      refine h.kept (.takes hmails hquiet hworker) hmails (attempted_get _) ?_ ?_
        (unfinished_get _) (joining_get _) (by rw [joined_get]; exact List.Subset.refl _)
      · rw [← List.length_append, inHand_get, hinHand, List.length_nil, Nat.zero_add]
      · intro ht
        rw [EmailSenderQueue.get] at ht
        split at ht <;> cases ht
  | reports hmails hquiet mail hworker => exact h.reports hmails hquiet hworker
  | ends hmails hnot hends mail hworker =>
      have hinHand : self.inHand = [mail] := by rw [inHand, hworker]
      refine h.dropping (.ends hmails hnot hends mail hworker) hmails ?_ rfl rfl ?_ rfl rfl
        (List.Subset.refl _)
      · rw [hinHand]
        rfl
      · rw [hinHand]
        exact fun _ => List.cons_ne_nil _ _
  | waits hmails hquiet task stops hworker hcount =>
      refine ⟨h.count, h.ended, fun _ => hcount, ?_, h.promised⟩
      intro waiter hwaiter
      rcases List.mem_append.mp hwaiter with hbefore | hlast
      · exact h.begun waiter hbefore
      · rw [List.mem_singleton.mp hlast]
        exact Nat.le_refl _
  | cancels hmails hcancels joined hjoined =>
      refine h.dropping (.cancels hmails hcancels joined hjoined) hmails (attempted_cancel _) ?_ ?_
        ?_ ?_ (joining_cancel _) ?_
      · rw [inHand, worker_cancel]
      · rw [cancel]
        split <;> rfl
      · rw [worker_cancel]
        exact fun ht => by cases ht
      · rw [cancel]
        split <;> rfl
      · rw [joined_cancel]
        exact hjoined.subset
  | resumes hmails hquiet waiter joined hjoined failed =>
      refine h.kept (.resumes hmails hquiet waiter joined hjoined failed) hmails rfl rfl id rfl rfl
        ?_
      rw [hjoined]
      exact List.subset_cons_self _ _

theorem run (h : Sound self) (acts : List (Act Body Config Task)) :
    Sound (Run.run step self acts) :=
  Run.invariant_run (P := fun _ => True) (fun s a _ hs => hs.does (step_does s a))
    (fun _ _ => trivial) h

end Sound

/-! ## Runs -/

section

variable {self : EmailSenderQueue (Email Body Config) Task}

theorem put_run : ∀ (acts : List (Act Body Config Task))
    (self : EmailSenderQueue (Email Body Config) Task),
    (Run.run step self acts).put = self.put ++ acts.flatMap mails
  | [], self => (List.append_nil _).symm
  | a :: acts, self => by
      rw [Run.run_cons, put_run acts, (step_does self a).put, List.append_assoc]
      rfl

theorem allReported_step_iff (a : Act Body Config Task) :
    AllReported (step self a) ↔ AllReported self ∧ ¬ Interrupts self a := by
  have hdoes := step_does self a
  constructor
  · intro h
    have hself : AllReported self := fun b hb => h b (hdoes.attempted.subset hb)
    exact ⟨hself, (hdoes.allReported_iff hself).mp h⟩
  · rintro ⟨hself, hnot⟩
    exact (hdoes.allReported_iff hself).mpr hnot

/-- No mail is dropped in a run exactly if no step of it interrupts a worker with a mail. -/
theorem allReported_run_iff : ∀ {acts : List (Act Body Config Task)}
    {self : EmailSenderQueue (Email Body Config) Task},
    AllReported (Run.run step self acts) ↔
      AllReported self ∧ ∀ v ∈ Run.visits step self acts, ¬ Interrupts v.1 v.2
  | [], self => ⟨fun h => ⟨h, fun v hv => absurd hv List.not_mem_nil⟩, And.left⟩
  | a :: acts, self => by
      rw [Run.run_cons, allReported_run_iff, allReported_step_iff, Run.visits,
        List.forall_mem_cons, and_assoc]

/-! ## Coming through -/

/-- The worker is started if there is none, and its sending goes well. -/
def Served : Act Body Config Task → Prop
  | .start_worker => True
  | .worker .success => True
  | _ => False

theorem step_sending {mail : Email Body Config}
    (hworker : self.worker = some (.sending mail)) :
    step self (.worker .success) = (self.attempt mail true).task_done.get := by
  show self._worker .success = _
  rw [_worker, hworker]

theorem unfinished_sending {mail : Email Body Config} (h : Sound self)
    (hall : AllReported self) (hworker : self.worker = some (.sending mail)) :
    self._unfinished_tasks - 1 = self.queue.length := by
  have hinHand : self.inHand = [mail] := by rw [inHand, hworker]
  have hcount := h.count
  rw [dropped_eq_zero_iff.mpr hall, hinHand, List.length_singleton] at hcount
  omega

/-- All calls that wait come back from `join`, if the worker is served. -/
def ComesBack (self : EmailSenderQueue (Email Body Config) Task) : Prop :=
  ∃ acts : List (Act Body Config Task), (∀ a ∈ acts, Served a) ∧
    (Run.run step self acts).joined = self.joined ++ self.joining

/-- The worker with a mail goes on to the last one. -/
theorem sending_comesBack (n : ℕ) :
    ∀ {self : EmailSenderQueue (Email Body Config) Task} {mail : Email Body Config},
      self.queue.length = n → Sound self → AllReported self →
        self.worker = some (.sending mail) → ComesBack self := by
  have hserved : Served (.worker .success : Act Body Config Task) := trivial
  induction n with
  | zero =>
      intro self mail hlength h hall hworker
      have hlast : (self.attempt mail true)._unfinished_tasks - 1 = 0 :=
        (unfinished_sending h hall hworker).trans hlength
      refine ⟨[.worker .success], List.forall_mem_singleton.mpr hserved, ?_⟩
      rw [Run.run_cons, Run.run_nil, step_sending hworker, joined_get, task_done, if_pos hlast]
      rfl
  | succ n ih =>
      intro self mail hlength h hall hworker
      have hmore : (self.attempt mail true)._unfinished_tasks - 1 ≠ 0 := by
        have hcount : (self.attempt mail true)._unfinished_tasks - 1 = n + 1 :=
          (unfinished_sending h hall hworker).trans hlength
        rw [hcount]
        exact Nat.succ_ne_zero n
      have hquiet : ¬ Interrupts self (.worker .success : Act Body Config Task) := by
        rintro ⟨-, hcancels | hother⟩
        · exact hcancels
        · cases hother
      cases hqueue : self.queue with
      | nil =>
          rw [hqueue] at hlength
          cases hlength
      | cons next queue =>
          have hget := get_of_cons (self.attempt mail true).task_done
            ((queue_task_done _).trans hqueue)
          have hstep : step self (.worker .success) = _ := (step_sending hworker).trans hget
          rw [hqueue] at hlength
          obtain ⟨acts, hacts, hjoined⟩ := @ih (step self (.worker .success)) next
            (by rw [hstep]; exact Nat.succ.inj hlength) (h.does (step_does self _))
            ((allReported_step_iff _).mpr ⟨hall, hquiet⟩) (by rw [hstep])
          refine ⟨.worker .success :: acts, List.forall_mem_cons.mpr ⟨hserved, hacts⟩, ?_⟩
          rw [Run.run_cons, hjoined, hstep, task_done, if_neg hmore]
          rfl

/-- A worker that waits at the queue takes its first mail. -/
theorem getting_comesBack (h : Sound self) (hall : AllReported self)
    (hworker : self.worker = some .getting) (hne : self.joining ≠ []) : ComesBack self := by
  have hstep : step self (.worker .success) = self.get := by
    show self._worker .success = _
    rw [_worker, hworker]
  have hinHand : self.inHand = [] := by rw [inHand, hworker]
  have hcount := h.count
  rw [dropped_eq_zero_iff.mpr hall, hinHand, List.length_nil] at hcount
  have hpos := h.waiting hne
  cases hqueue : self.queue with
  | nil =>
      rw [hqueue, List.length_nil] at hcount
      omega
  | cons mail queue =>
      have hsound := h.does (step_does self (.worker .success))
      rw [hstep, get_of_cons _ hqueue] at hsound
      obtain ⟨acts, hacts, hjoined⟩ := sending_comesBack _ rfl hsound hall rfl
      refine ⟨.worker .success :: acts, List.forall_mem_cons.mpr ⟨trivial, hacts⟩, ?_⟩
      rw [Run.run_cons, hstep, get_of_cons _ hqueue]
      exact hjoined

theorem comesBack (h : Sound self) (hall : AllReported self) (hne : self.joining ≠ []) :
    ComesBack self := by
  cases hworker : self.worker with
  | none =>
      have hstep : step self .start_worker = { self with worker := some .getting } := by
        show self.start_worker_sync = _
        rw [start_worker_sync, hworker]
      have hsound := h.does (step_does self .start_worker)
      rw [hstep] at hsound
      obtain ⟨acts, hacts, hjoined⟩ := getting_comesBack hsound hall rfl hne
      refine ⟨.start_worker :: acts, List.forall_mem_cons.mpr ⟨trivial, hacts⟩, ?_⟩
      rw [Run.run_cons, hstep]
      exact hjoined
  | some worker =>
      cases worker with
      | getting => exact getting_comesBack h hall hworker hne
      | sending mail => exact sending_comesBack _ rfl h hall hworker
      | ended => exact absurd hall (h.ended hworker)

/-- The calls that wait go on waiting. -/
structure Waits (s t : EmailSenderQueue Mail Task) : Prop where
  joining : s.joining <+: t.joining
  joined : t.joined <:+ s.joined

theorem Does.waits_of_dropped {a : Act Body Config Task}
    {t : EmailSenderQueue (Email Body Config) Task} (hdoes : Does self a t) (h : Sound self)
    (hdropped : ¬ AllReported self) : Waits self t := by
  cases hdoes with
  | puts hquiet => exact ⟨List.prefix_rfl, List.suffix_rfl⟩
  | stays hmails hquiet => exact ⟨List.prefix_rfl, List.suffix_rfl⟩
  | starts hmails hquiet hstart hworker => exact ⟨List.prefix_rfl, List.suffix_rfl⟩
  | takes hmails hquiet hworker =>
      refine ⟨?_, ?_⟩
      · rw [joining_get]
      · rw [joined_get]
  | reports hmails hquiet mail hworker =>
      have hinHand : self.inHand = [mail] := by rw [inHand, hworker]
      have hcount := h.count
      rw [hinHand, List.length_singleton] at hcount
      have hpos : dropped self ≠ 0 := fun hzero => hdropped (dropped_eq_zero_iff.mp hzero)
      have hmore : (self.attempt mail true)._unfinished_tasks - 1 ≠ 0 := by
        show self._unfinished_tasks - 1 ≠ 0
        omega
      refine ⟨?_, ?_⟩
      · rw [joining_get, task_done, if_neg hmore]
        exact List.prefix_rfl
      · rw [joined_get, task_done, if_neg hmore]
        exact List.suffix_rfl
  | ends hmails hnot hends mail hworker => exact ⟨List.prefix_rfl, List.suffix_rfl⟩
  | waits hmails hquiet task stops hworker hcount =>
      exact ⟨List.prefix_append _ _, List.suffix_rfl⟩
  | cancels hmails hcancels joined hjoined =>
      refine ⟨?_, ?_⟩
      · rw [joining_cancel]
      · rw [joined_cancel]
        exact hjoined
  | resumes hmails hquiet waiter joined hjoined failed =>
      refine ⟨List.prefix_rfl, ?_⟩
      rw [hjoined]
      exact List.suffix_cons _ _

/-- Once a mail has been dropped, no call comes back from `join` any more. -/
theorem waits_of_dropped : ∀ (acts : List (Act Body Config Task))
    {self : EmailSenderQueue (Email Body Config) Task}, Sound self → ¬ AllReported self →
      Waits self (Run.run step self acts)
  | [], _, _, _ => ⟨List.prefix_rfl, List.suffix_rfl⟩
  | a :: acts, self, h, hdropped => by
      have hfirst := (step_does self a).waits_of_dropped h hdropped
      have hstill : ¬ AllReported (step self a) :=
        fun hall => hdropped ((allReported_step_iff a).mp hall).1
      have hrest := waits_of_dropped acts (h.does (step_does self a)) hstill
      exact ⟨hfirst.joining.trans hrest.joining, hrest.joined.trans hfirst.joined⟩

theorem comesBack_iff (h : Sound self) (hne : self.joining ≠ []) :
    ComesBack self ↔ AllReported self := by
  constructor
  · rintro ⟨acts, -, hjoined⟩
    by_contra hdropped
    have hlength := (waits_of_dropped acts h hdropped).joined.length_le
    rw [hjoined, List.length_append] at hlength
    have hpos := List.length_pos_of_ne_nil hne
    omega
  · exact fun hall => comesBack h hall hne

end

/-! ## Calls that are overtaken -/

/-- The calls that are not through: they wait, or are not resumed yet. -/
def pending (self : EmailSenderQueue Mail Task) : List (Waiter Task) := self.joining ++ self.joined

/-- While the call was not through, another one took the worker, and none was started since. -/
def Overtaken (acts : List (Act Body Config Task)) (waiter : Waiter Task) : Prop :=
  ∃ before v after, Run.visits step init acts = before ++ v :: after ∧ Cancels v.1 v.2 ∧
    waiter ∈ pending v.1 ∧ ∀ u ∈ after, u.2 ≠ .start_worker

section

variable {self t : EmailSenderQueue (Email Body Config) Task} {a : Act Body Config Task}
  {waiter : Waiter Task}

/-- A call only begins to wait where there is a worker. -/
theorem Does.pending (h : Does self a t) (hwaiter : waiter ∈ pending t) (ht : t.worker = none) :
    waiter ∈ pending self := by
  cases h with
  | puts hquiet => exact hwaiter
  | stays hmails hquiet => exact hwaiter
  | starts hmails hquiet hstart hworker => cases ht
  | takes hmails hquiet hworker => exact absurd ht (Option.isSome_iff_ne_none.mp (isSome_get _))
  | reports hmails hquiet mail hworker =>
      exact absurd ht (Option.isSome_iff_ne_none.mp (isSome_get _))
  | ends hmails hnot hends mail hworker => cases ht
  | waits hmails hquiet task stops hworker hcount =>
      exact absurd ht (Option.isSome_iff_ne_none.mp hworker)
  | cancels hmails hcancels joined hjoined =>
      rw [MailStops.pending, joining_cancel, joined_cancel] at hwaiter
      exact (List.mem_append.mp hwaiter).elim (List.mem_append_left _)
        fun h => List.mem_append_right _ (hjoined.subset h)
  | resumes hmails hquiet other joined hjoined failed =>
      refine (List.mem_append.mp hwaiter).elim (List.mem_append_left _)
        fun h => List.mem_append_right _ ?_
      rw [hjoined]
      exact List.mem_cons_of_mem _ h

theorem worker_step_eq_none_iff : (step self a).worker = none ↔
    a ≠ .start_worker ∧ (Cancels self a ∨ self.worker = none) := by
  by_cases ha : a = .start_worker
  · rw [ha]
    exact iff_of_false start_worker_ne_none fun h => h.1 rfl
  · rw [(step_does self a).worker_eq_none_iff ha]
    exact ⟨fun h => ⟨ha, h⟩, And.right⟩

theorem worker_step_of_cancels (h : Cancels self a) : (step self a).worker = none := by
  refine worker_step_eq_none_iff.mpr ⟨?_, .inl h⟩
  rintro rfl
  exact h

/-- Where a worker was taken away and none started since, there is none. -/
theorem worker_eq_none_of_cancels {acts : List (Act Body Config Task)}
    {before after : List (EmailSenderQueue (Email Body Config) Task × Act Body Config Task)}
    {v : EmailSenderQueue (Email Body Config) Task × Act Body Config Task}
    (hvisits : Run.visits step self acts = before ++ v :: after) (hv : Cancels v.1 v.2)
    (hafter : ∀ u ∈ after, u.2 ≠ .start_worker) : (Run.run step self acts).worker = none := by
  have hon : ∀ (s : EmailSenderQueue (Email Body Config) Task) (a : Act Body Config Task),
      Cancels s a → (step s a).worker.isNone = true := by
    intro s a h
    rw [worker_step_of_cancels h]
    rfl
  have hoff : ∀ (s : EmailSenderQueue (Email Body Config) Task) (a : Act Body Config Task),
      a = .start_worker → (step s a).worker.isNone = false := by
    rintro s a rfl
    exact Option.isNone_eq_false_iff.mpr (Option.isSome_iff_ne_none.mpr start_worker_ne_none)
  have hkeep : ∀ (s : EmailSenderQueue (Email Body Config) Task) (a : Act Body Config Task),
      ¬ Cancels s a → ¬ a = .start_worker →
        (step s a).worker.isNone = s.worker.isNone := by
    intro s a hnot hstart
    rw [Bool.eq_iff_iff, Option.isNone_iff_eq_none, Option.isNone_iff_eq_none,
      worker_step_eq_none_iff]
    exact ⟨fun h => h.2.resolve_left hnot, fun h => ⟨hstart, .inr h⟩⟩
  have hflag := @Run.flag_run_iff _ _ step (fun s => s.worker.isNone) Cancels _ hon hoff hkeep acts
    self
  exact Option.isNone_iff_eq_none.mp (hflag.mpr (.inr ⟨before, v, after, hvisits, hv, hafter⟩))

/-- A call that is not through finds no worker exactly if it was overtaken. -/
theorem worker_eq_none_iff (acts : List (Act Body Config Task))
    (hwaiter : waiter ∈ pending (Run.run step init acts)) :
    (Run.run step init acts).worker = none ↔ Overtaken acts waiter := by
  refine ⟨fun hnone => ?_, fun ⟨_, _, _, hvisits, hv, _, hafter⟩ =>
    worker_eq_none_of_cancels hvisits hv hafter⟩
  induction acts using List.reverseRecOn with
  | nil => exact absurd hwaiter List.not_mem_nil
  | append_singleton acts a ih =>
      rw [Run.run_append, Run.run_cons, Run.run_nil] at hwaiter hnone
      have hbefore := (step_does _ a).pending hwaiter hnone
      have hvisits : Run.visits step init (acts ++ [a]) = _ := Run.visits_append acts [a] _
      obtain ⟨hstart, hcancels | hgone⟩ := worker_step_eq_none_iff.mp hnone
      · exact ⟨_, _, [], hvisits, hcancels, hbefore, fun u hu => absurd hu List.not_mem_nil⟩
      · obtain ⟨before, v, after, hrun, hv, hpending, hafter⟩ := ih hbefore hgone
        rw [hrun, List.append_assoc] at hvisits
        refine ⟨before, v, _, hvisits, hv, hpending, ?_⟩
        exact List.forall_mem_append.mpr ⟨hafter, List.forall_mem_singleton.mpr hstart⟩

/-- A graceful stop fails where it finds no worker. -/
theorem resume_fails_iff {joined : List (Waiter Task)} (hjoined : self.joined = waiter :: joined)
    (hstops : waiter.stops = true) :
    self.resume.failed = self.failed ++ [waiter.task] ↔ self.worker = none := by
  cases hworker : self.worker with
  | none => exact iff_of_true (by rw [resume_of_none hjoined hstops hworker]) rfl
  | some worker =>
      refine iff_of_false ?_ (Option.some_ne_none _)
      have hfailed : self.resume.failed = self.failed := by
        rw [resume_of_some hjoined hstops hworker, cancel]
        split <;> rfl
      rw [hfailed]
      intro h
      exact absurd (List.self_eq_append_right.mp h) (List.cons_ne_nil _ _)

/-- After any calls and steps: the mails that were put are, in their order, those a worker is done
with, the one in hand and those in the queue; they were all reported unless a step interrupted a
worker with its mail; the calls that wait can come back from `join` exactly if they were, and
otherwise wait for ever; the mails put before a call began have been reported when it comes back;
and a graceful stop that comes back fails exactly if it was overtaken. -/
theorem stops_exact (acts : List (Act Body Config Task)) :
    let self : EmailSenderQueue (Email Body Config) Task := Run.run step init acts
    self.put = acts.flatMap mails ∧
      (AllReported self ↔ ∀ v ∈ Run.visits step init acts, ¬ Interrupts v.1 v.2) ∧
      (self.joining ≠ [] → (ComesBack self ↔ AllReported self)) ∧
      (¬ AllReported self → ∀ more : List (Act Body Config Task),
        Waits self (Run.run step self more)) ∧
      (∀ waiter ∈ self.joined, waiter.begun ≤ self.attempted.length ∧
        ∀ a ∈ self.attempted.take waiter.begun, a.2 = true) ∧
      ∀ waiter joined, self.joined = waiter :: joined → waiter.stops = true →
        ((step self .resume).failed = self.failed ++ [waiter.task] ↔ Overtaken acts waiter) := by
  intro self
  have h : Sound self := Sound.init.run acts
  have hinit : AllReported (EmailSenderQueue.init : EmailSenderQueue (Email Body Config) Task) :=
    fun _ ha => absurd ha List.not_mem_nil
  refine ⟨?_, ?_, comesBack_iff h, fun hdropped more => waits_of_dropped more h hdropped,
    h.promised, ?_⟩
  · exact put_run acts _
  · exact allReported_run_iff.trans (and_iff_right hinit)
  · intro waiter joined hjoined hstops
    have hwaiter : waiter ∈ pending self := by
      refine List.mem_append_right _ ?_
      rw [hjoined]
      exact List.mem_cons_self
    exact (resume_fails_iff hjoined hstops).trans (worker_eq_none_iff acts hwaiter)

end

/-- Two graceful stops wait for one mail: the first takes the worker, and the second fails. -/
example : (Run.run step init
    [.start_worker, .enqueue_email ⟨"disk", .To, ["a@seagate.com"]⟩ (), .stop_worker "first" true,
      .stop_worker "second" true, .worker .success, .worker .success, .resume, .resume]).failed =
    ["second"] := rfl

end MailStops

end CortxCsm
