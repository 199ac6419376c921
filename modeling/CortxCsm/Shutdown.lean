/-
# `CortxCsm.Shutdown` — `CsmRestApi._shut_down` while requests are served

Each signal makes a task of its own.  SIGTERM copies the list of the connections that are open
and waits, one connection after the other and a second at a time, until they are gone; SIGINT
does not wait.  Either then cancels every task of the loop and stops it.

| step | |
| :-- | :-- |
| `connect`, `lost` | a client opens a connection, and it is closed |
| `request` | a request comes to the throttler and to the check of `rest_middleware` |
| `handed` | its body and its session have been awaited, and its handler begins |
| `ended` | it ends, in the middlewares or in its handler, in a response or otherwise |
| `signal`, `run` | a signal comes in, and its task is run or wakes up |

The flag is looked at once, before the body and the session of a request are awaited: a request
that has passed this check comes to its handler even if the agent has begun to shut down
meanwhile.  A handler is not told that its client has gone, so it may outlive its connection.

**Proved here.**

    the counter, and one outcome for a request                    (`Serving.step`)
    to wait for one after the other is to wait for all            (`waited_iff`)
    SIGTERM lets no further request in, cancels none whose client is still there,
    and stops the agent once the connections it found are gone    (`shut_down_exact`)
-/
import CortxCsm.Lib.Run
import Mathlib.Data.List.Perm.Subperm
import Mathlib.Data.List.TakeWhile

namespace CortxCsm.Shutdown

open Run

inductive Signal
  | SIGINT
  | SIGTERM
deriving DecidableEq

/-- Where a task of `_shut_down` stands: not begun, or at `asyncio.sleep(1)` for the first of
the connections that are `left` to the loop. -/
inductive ShutDownTask
  | scheduled (signal : Signal)
  | sleeping (original_connections left : List Nat)

/-- The answers before the check and at it, and how a request ends that has passed it. -/
inductive Answer (Res : Type)
  | tooManyRequests
  | shuttingDown
  | ended (res : Res)

/-- The attributes of `CsmRestApi`, the server's connections in the order in which they were
opened, the requests that are between the check and their handlers (`admitted`), those that
handlers work on, and what has become of the others. -/
structure Agent (Req Res : Type) where
  __is_shutting_down : Bool
  __nreq : Int
  __request_quota : Int
  connections : List Nat
  opened : Nat
  admitted : List (Nat × Req)
  handling : List (Nat × Req)
  tasks : List ShutDownTask
  arrived : List (Nat × Req)
  answered : List ((Nat × Req) × Answer Res)
  cancelled : List (Nat × Req)
  stopped : Bool

inductive AgentAct (Req Res : Type)
  | connect
  | lost (connection : Nat)
  | request (connection : Nat) (request : Req)
  | handed (connection : Nat)
  | ended (connection : Nat) (res : Res)
  | signal (signal : Signal)
  | run (task : Nat)

variable {Req Res : Type}

def Agent.start (quota : Int) : Agent Req Res :=
  ⟨false, 0, quota, [], 0, [], [], [], [], [], [], false⟩

namespace Agent

/-- The requests that have passed the check and not ended. -/
def inside (s : Agent Req Res) : List (Nat × Req) := s.admitted ++ s.handling

def answer (s : Agent Req Res) (request : Nat × Req) (answer : Answer Res) : Agent Req Res :=
  { s with answered := s.answered ++ [(request, answer)] }

/-- `task.cancel()` for all tasks, and `loop.stop()`. -/
def cancelAll (s : Agent Req Res) : Agent Req Res :=
  { s with admitted := [], handling := [], cancelled := s.inside, stopped := true }

/-- The connections that the loop still waits for. -/
def stillOpen (s : Agent Req Res) (left : List Nat) : List Nat :=
  left.dropWhile fun c => c ∉ s.connections

/-- The loop of `_shut_down` from where it stands to the next sleep, or to its end. -/
def waitFor (s : Agent Req Res) (task : Nat) (original_connections left : List Nat) :
    Agent Req Res :=
  match s.stillOpen left with
  | [] => s.cancelAll
  | left => { s with tasks := s.tasks.set task (.sleeping original_connections left) }

end Agent

namespace CsmRestApi

/-- `throttler_middleware` and `rest_middleware` up to the check, between which nothing is
awaited; a request that is answered on the way leaves the counter where it was. -/
def request (s : Agent Req Res) (connection : Nat) (request : Req) : Agent Req Res :=
  let s := { s with arrived := s.arrived ++ [(connection, request)] }
  if s.__nreq ≥ s.__request_quota then s.answer (connection, request) .tooManyRequests
  else if s.__is_shutting_down then s.answer (connection, request) .shuttingDown
  else { s with __nreq := s.__nreq + 1, admitted := s.admitted ++ [(connection, request)] }

/-- `rest_middleware` and `session_middleware` have awaited what they do, and call the handler:
the flag is not looked at again. -/
def handed (s : Agent Req Res) (connection : Nat) : Agent Req Res :=
  match s.admitted.find? (·.1 == connection) with
  | some request =>
      { s with
        admitted := s.admitted.eraseP (·.1 == connection)
        handling := s.handling ++ [request] }
  | none => s

/-- The first stretch of `_shut_down`. -/
def _shut_down (s : Agent Req Res) (task : Nat) (server : Bool) : Agent Req Res :=
  let s := { s with __is_shutting_down := true }
  if server then s.waitFor task s.connections s.connections else s.cancelAll

def _handle_sigint (s : Agent Req Res) (task : Nat) : Agent Req Res := _shut_down s task false

def _handle_sigterm (s : Agent Req Res) (task : Nat) : Agent Req Res := _shut_down s task true

def runTask (s : Agent Req Res) (task : Nat) : Agent Req Res :=
  match s.tasks[task]? with
  | some (.scheduled .SIGINT) => _handle_sigint s task
  | some (.scheduled .SIGTERM) => _handle_sigterm s task
  | some (.sleeping original_connections left) => s.waitFor task original_connections left
  | none => s

/-- A request ends, by its handler or before it; it is found by the connection, which has one at
a time. -/
def ended (s : Agent Req Res) (connection : Nat) (res : Res) : Agent Req Res :=
  match s.handling.find? (·.1 == connection) with
  | some request =>
      let s := { s with
        __nreq := s.__nreq - 1
        handling := s.handling.eraseP (·.1 == connection) }
      s.answer request (.ended res)
  | none =>
      match s.admitted.find? (·.1 == connection) with
      | some request =>
          let s := { s with
            __nreq := s.__nreq - 1
            admitted := s.admitted.eraseP (·.1 == connection) }
          s.answer request (.ended res)
      | none => s

def step (s : Agent Req Res) (a : AgentAct Req Res) : Agent Req Res :=
  if s.stopped then s
  else
    match a with
    | .connect =>
        { s with connections := s.connections ++ [s.opened], opened := s.opened + 1 }
    | .lost connection => { s with connections := s.connections.filter (· ≠ connection) }
    | .request connection r =>
        if connection ∈ s.connections ∧ s.inside.find? (·.1 == connection) = none then
          request s connection r
        else s
    | .handed connection => handed s connection
    | .ended connection res => ended s connection res
    | .signal signal => { s with tasks := s.tasks ++ [.scheduled signal] }
    | .run task => runTask s task

end CsmRestApi

open CsmRestApi

variable {s s' : Agent Req Res}

/-! ## Waiting -/

/-- What `_shut_down` knows at its `sleep`: the connections it copied and has passed are gone,
and a request that is still inside came over one of those copied, or has lost its client. -/
structure Waits (s : Agent Req Res) (original_connections left : List Nat) : Prop where
  shutting_down : s.__is_shutting_down = true
  issued : ∀ c ∈ original_connections, c < s.opened
  copied : left ⊆ original_connections
  passed : ∀ c ∈ original_connections, c ∈ s.connections → c ∈ left
  inside : ∀ p ∈ s.inside, p.1 ∈ s.connections → p.1 ∈ original_connections

theorem stillOpen_eq_nil {left : List Nat} :
    s.stillOpen left = [] ↔ ∀ c ∈ left, c ∉ s.connections := by
  unfold Agent.stillOpen
  rw [List.dropWhile_eq_nil_iff]
  constructor
  · intro h c hc
    exact of_decide_eq_true (h c hc)
  · intro h c hc
    exact decide_eq_true (h c hc)

theorem stillOpen_subset {left : List Nat} : s.stillOpen left ⊆ left :=
  (List.dropWhile_suffix _).subset

/-- The loop only passes connections that are gone. -/
theorem mem_stillOpen : ∀ {left : List Nat} {c : Nat}, c ∈ left → c ∈ s.connections →
    c ∈ s.stillOpen left
  | d :: left, c, hc, hopen => by
      unfold Agent.stillOpen
      rw [List.dropWhile_cons]
      split
      · rename_i hgone
        have hne : c ≠ d := fun h => of_decide_eq_true hgone (h ▸ hopen)
        exact mem_stillOpen ((List.mem_cons.mp hc).resolve_left hne) hopen
      · exact hc

/-- To wait for the connections one after the other is to wait for all of them. -/
theorem waited_iff {original_connections left : List Nat} (h : Waits s original_connections left) :
    s.stillOpen left = [] ↔ ∀ c ∈ original_connections, c ∉ s.connections := by
  rw [stillOpen_eq_nil]
  constructor
  · intro hgone c hc hopen
    exact hgone c (h.passed c hc hopen) hopen
  · intro hgone c hc
    exact hgone c (h.copied hc)

theorem Waits.stillOpen {original_connections left : List Nat}
    (h : Waits s original_connections left) :
    Waits s original_connections (s.stillOpen left) where
  shutting_down := h.shutting_down
  issued := h.issued
  copied := fun _ hc => h.copied (stillOpen_subset hc)
  passed := fun c hc hopen => mem_stillOpen (h.passed c hc hopen) hopen
  inside := h.inside

/-! ## Steps -/

/-- What no step takes back: once the agent shuts down no request gets inside, and a connection
that is gone stays gone. -/
structure Later (s s' : Agent Req Res) : Prop where
  shutting_down : s.__is_shutting_down = true → s'.__is_shutting_down = true
  opened : s.opened ≤ s'.opened
  connections : ∀ c < s.opened, c ∈ s'.connections → c ∈ s.connections
  admitted : s.__is_shutting_down = true → s'.admitted.Sublist s.admitted
  inside : s.__is_shutting_down = true → s'.inside.Subperm s.inside

theorem Later.refl : Later s s :=
  ⟨fun h => h, le_rfl, fun _ _ h => h, fun _ => List.Sublist.refl _, fun _ => List.Subperm.refl _⟩

theorem Waits.later {original_connections left : List Nat} (h : Waits s original_connections left)
    (hheld : ∀ p ∈ s.inside, p.1 < s.opened) (hl : Later s s') :
    Waits s' original_connections left where
  shutting_down := hl.shutting_down h.shutting_down
  issued := fun c hc => (h.issued c hc).trans_le hl.opened
  copied := h.copied
  passed := fun c hc hopen => h.passed c hc (hl.connections c (h.issued c hc) hopen)
  inside := fun p hp hopen => by
    have hp' := (hl.inside h.shutting_down).subset hp
    exact h.inside p hp' (hl.connections p.1 (hheld p hp') hopen)

/-- What a step does. -/
inductive Does (s : Agent Req Res) : AgentAct Req Res → Agent Req Res → Prop
  | nothing (a : AgentAct Req Res) : Does s a s
  | connects : Does s .connect
      { s with connections := s.connections ++ [s.opened], opened := s.opened + 1 }
  | loses (c : Nat) : Does s (.lost c) { s with connections := s.connections.filter (· ≠ c) }
  | answers (c : Nat) (r : Req) (answer : Answer Res) : Does s (.request c r)
      { s with arrived := s.arrived ++ [(c, r)], answered := s.answered ++ [((c, r), answer)] }
  | admits (c : Nat) (r : Req) (hopen : c ∈ s.connections)
      (hrunning : s.__is_shutting_down = false) : Does s (.request c r)
      { s with
        arrived := s.arrived ++ [(c, r)]
        __nreq := s.__nreq + 1
        admitted := s.admitted ++ [(c, r)] }
  | hands (c : Nat) (p : Nat × Req) (admitted : List (Nat × Req))
      (hperm : s.admitted.Perm (p :: admitted)) (hsub : admitted.Sublist s.admitted) :
      Does s (.handed c) { s with admitted := admitted, handling := s.handling ++ [p] }
  | ends (c : Nat) (res : Res) (p : Nat × Req) (admitted handling : List (Nat × Req))
      (hperm : s.inside.Perm (p :: (admitted ++ handling)))
      (hsub : admitted.Sublist s.admitted) :
      Does s (.ended c res)
        { s with
          __nreq := s.__nreq - 1
          admitted := admitted
          handling := handling
          answered := s.answered ++ [(p, .ended res)] }
  | signals (signal : Signal) : Does s (.signal signal)
      { s with tasks := s.tasks ++ [.scheduled signal] }
  | interrupts (task : Nat) (htask : s.tasks[task]? = some (.scheduled .SIGINT)) :
      Does s (.run task) { s with __is_shutting_down := true }.cancelAll
  | begins (task : Nat) (htask : s.tasks[task]? = some (.scheduled .SIGTERM)) :
      Does s (.run task)
        ({ s with __is_shutting_down := true }.waitFor task s.connections s.connections)
  | wakes (task : Nat) (original_connections left : List Nat)
      (htask : s.tasks[task]? = some (.sleeping original_connections left)) :
      Does s (.run task) (s.waitFor task original_connections left)

theorem does_request (c : Nat) (r : Req) (hopen : c ∈ s.connections) :
    Does s (.request c r) (request s c r) := by
  unfold request
  dsimp only
  split
  · exact .answers c r .tooManyRequests
  · split
    · exact .answers c r .shuttingDown
    · rename_i hrunning
      exact .admits c r hopen (Bool.eq_false_iff.mpr hrunning)

/-- The request of a connection, and the others. -/
theorem perm_eraseP {requests : List (Nat × Req)} {c : Nat} {p : Nat × Req}
    (hfind : requests.find? (·.1 == c) = some p) :
    requests.Perm (p :: requests.eraseP (·.1 == c)) := by
  obtain ⟨hp, before, after, hsplit, hbefore⟩ := List.find?_eq_some_iff_append.mp hfind
  have herase : requests.eraseP (·.1 == c) = before ++ after := by
    rw [hsplit, List.eraseP_append_right _ fun b hb => by simpa using hbefore b hb]
    exact congrArg (before ++ ·) (List.eraseP_cons_of_pos hp)
  rw [herase, hsplit]
  exact List.perm_middle

theorem does_handed (c : Nat) : Does s (.handed c) (handed s c) := by
  unfold handed
  cases hfind : s.admitted.find? (·.1 == c) with
  | none => exact .nothing _
  | some p => exact .hands c p _ (perm_eraseP hfind) List.eraseP_sublist

theorem does_ended (c : Nat) (res : Res) : Does s (.ended c res) (ended s c res) := by
  unfold ended
  cases hfind : s.handling.find? (·.1 == c) with
  | some p =>
      refine .ends c res p s.admitted _ ?_ (List.Sublist.refl _)
      exact ((perm_eraseP hfind).append_left _).trans List.perm_middle
  | none =>
      dsimp only
      cases hadmitted : s.admitted.find? (·.1 == c) with
      | none => exact .nothing _
      | some p =>
          refine .ends c res p _ s.handling ?_ List.eraseP_sublist
          exact (perm_eraseP hadmitted).append_right _

theorem does_run (task : Nat) : Does s (.run task) (runTask s task) := by
  unfold runTask
  split
  · rename_i htask
    exact .interrupts task htask
  · rename_i htask
    exact .begins task htask
  · rename_i original_connections left htask
    exact .wakes task original_connections left htask
  · exact .nothing _

theorem does_step (s : Agent Req Res) (a : AgentAct Req Res) : Does s a (step s a) := by
  unfold step
  split
  · exact .nothing a
  · cases a with
    | connect => exact .connects
    | lost c => exact .loses c
    | request c r =>
        dsimp only
        split
        · rename_i hcan
          exact does_request c r hcan.1
        · exact .nothing _
    | handed c => exact does_handed c
    | ended c res => exact does_ended c res
    | signal signal => exact .signals signal
    | run task => exact does_run task

/-- What `waitFor` does: the agent stops, or the task sleeps on. -/
theorem waitFor_cases (s : Agent Req Res) (task : Nat) (original_connections left : List Nat) :
    (s.stillOpen left = [] ∧ s.waitFor task original_connections left = s.cancelAll) ∨
      (s.stillOpen left ≠ [] ∧ s.waitFor task original_connections left =
        { s with
          tasks := s.tasks.set task (.sleeping original_connections (s.stillOpen left)) }) := by
  unfold Agent.waitFor
  cases hopen : s.stillOpen left with
  | nil => exact .inl ⟨rfl, rfl⟩
  | cons c left => exact .inr ⟨List.cons_ne_nil c left, rfl⟩

theorem later_cancelAll : Later s s.cancelAll :=
  ⟨fun h => h, le_rfl, fun _ _ h => h, fun _ => List.nil_sublist _, fun _ => List.nil_subperm⟩

theorem later_waitFor {task : Nat} {original_connections left : List Nat} :
    Later s (s.waitFor task original_connections left) := by
  rcases waitFor_cases s task original_connections left with ⟨-, h⟩ | ⟨-, h⟩
  · rw [h]
    exact later_cancelAll
  · rw [h]
    exact ⟨fun h => h, le_rfl, fun _ _ h => h, fun _ => List.Sublist.refl _,
      fun _ => List.Subperm.refl _⟩

/-- The flag is set, and the rest as before. -/
theorem later_shutting_down (h : Later { s with __is_shutting_down := true } s') : Later s s' where
  shutting_down := fun _ => h.shutting_down rfl
  opened := h.opened
  connections := h.connections
  admitted := fun _ => h.admitted rfl
  inside := fun _ => h.inside rfl

/-- A step that leaves the flag, the connections and who is inside. -/
theorem later_aside (hflag : s'.__is_shutting_down = s.__is_shutting_down)
    (hopened : s'.opened = s.opened) (hconnections : s'.connections = s.connections)
    (hadmitted : s'.admitted = s.admitted) (hhandling : s'.handling = s.handling) : Later s s' where
  shutting_down := fun h => hflag.trans h
  opened := hopened.ge
  connections := fun _ _ h => hconnections ▸ h
  admitted := fun _ => hadmitted ▸ List.Sublist.refl _
  inside := fun _ => by
    unfold Agent.inside
    rw [hadmitted, hhandling]

/-- A request goes from the middlewares to its handler. -/
theorem perm_handed {admitted rest handling : List (Nat × Req)} {p : Nat × Req}
    (hperm : admitted.Perm (p :: rest)) :
    (rest ++ (handling ++ [p])).Perm (admitted ++ handling) := by
  rw [← List.append_assoc]
  exact (List.perm_append_singleton p _).trans (hperm.symm.append_right handling)

theorem Does.later {a : AgentAct Req Res} (h : Does s a s') : Later s s' := by
  cases h with
  | nothing => exact .refl
  | connects =>
      refine ⟨fun h => h, Nat.le_succ _, fun c hc hopen => ?_, fun _ => List.Sublist.refl _,
        fun _ => List.Subperm.refl _⟩
      rcases List.mem_append.mp hopen with hopen | hnew
      · exact hopen
      · exact absurd (List.mem_singleton.mp hnew) hc.ne
  | loses c =>
      exact ⟨fun h => h, le_rfl, fun _ _ hopen => List.mem_of_mem_filter hopen,
        fun _ => List.Sublist.refl _, fun _ => List.Subperm.refl _⟩
  | answers c r answer => exact later_aside rfl rfl rfl rfl rfl
  | admits c r _ hrunning =>
      have hnot : s.__is_shutting_down ≠ true := Bool.eq_false_iff.mp hrunning
      exact ⟨fun h => h, le_rfl, fun _ _ h => h, fun h => absurd h hnot, fun h => absurd h hnot⟩
  | hands c p admitted hperm hsub =>
      exact ⟨fun h => h, le_rfl, fun _ _ h => h, fun _ => hsub,
        fun _ => (perm_handed hperm).subperm⟩
  | ends c res p admitted handling hperm hsub =>
      exact ⟨fun h => h, le_rfl, fun _ _ h => h, fun _ => hsub,
        fun _ => (List.sublist_cons_self p _).subperm.trans hperm.symm.subperm⟩
  | signals signal => exact later_aside rfl rfl rfl rfl rfl
  | interrupts task htask => exact later_shutting_down later_cancelAll
  | begins task htask => exact later_shutting_down later_waitFor
  | wakes task original_connections left htask => exact later_waitFor

theorem later_run (as : List (AgentAct Req Res)) : ∀ s : Agent Req Res, Later s (run step s as) := by
  induction as with
  | nil => exact fun _ => .refl
  | cons a as ih =>
      intro s
      have hstep := (does_step s a).later
      have hrest := ih (step s a)
      refine ⟨fun h => hrest.shutting_down (hstep.shutting_down h),
        hstep.opened.trans hrest.opened, fun c hc hopen => ?_, fun h => ?_, fun h => ?_⟩
      · exact hstep.connections c hc
          (hrest.connections c (hc.trans_le hstep.opened) hopen)
      · exact (hrest.admitted (hstep.shutting_down h)).trans (hstep.admitted h)
      · exact (hrest.inside (hstep.shutting_down h)).trans (hstep.inside h)

/-! ## The counter, and one outcome for each request -/

/-- A request that has arrived is inside, answered, or cancelled. -/
structure Serving (s : Agent Req Res) : Prop where
  counter : s.stopped = false → s.__nreq = s.inside.length
  outcome : s.arrived.Perm (s.inside ++ (s.answered.map Prod.fst ++ s.cancelled))
  cancelled : s.stopped = false → s.cancelled = []

theorem Serving.start (quota : Int) : Serving (.start quota : Agent Req Res) where
  counter := fun _ => rfl
  outcome := List.Perm.nil
  cancelled := fun _ => rfl

theorem Serving.cancelAll (h : Serving s) (hrunning : s.stopped = false) :
    Serving s.cancelAll where
  counter := fun h => by cases h
  outcome := by
    have houtcome := h.outcome
    rw [h.cancelled hrunning, List.append_nil] at houtcome
    exact houtcome.trans List.perm_append_comm
  cancelled := fun h => by cases h

theorem Serving.waitFor (h : Serving s) (hrunning : s.stopped = false) (task : Nat)
    (original_connections left : List Nat) :
    Serving (s.waitFor task original_connections left) := by
  rcases waitFor_cases s task original_connections left with ⟨-, he⟩ | ⟨-, he⟩
  · rw [he]
    exact h.cancelAll hrunning
  · rw [he]
    exact ⟨h.counter, h.outcome, h.cancelled⟩

theorem Does.serving {a : AgentAct Req Res} (hd : Does s a s') (hrunning : s.stopped = false)
    (h : Serving s) : Serving s' := by
  have hnone := h.cancelled hrunning
  have houtcome := h.outcome
  cases hd with
  | nothing => exact h
  | connects => exact ⟨h.counter, h.outcome, h.cancelled⟩
  | loses c => exact ⟨h.counter, h.outcome, h.cancelled⟩
  | answers c r answer =>
      refine ⟨h.counter, ?_, h.cancelled⟩
      show (s.arrived ++ [(c, r)]).Perm _
      rw [hnone, List.append_nil] at houtcome ⊢
      rw [List.map_append, ← List.append_assoc]
      exact houtcome.append_right _
  | admits c r =>
      have hinside : (s.admitted ++ [(c, r)] ++ s.handling).Perm (s.inside ++ [(c, r)]) := by
        rw [List.append_assoc, Agent.inside, List.append_assoc]
        exact List.perm_append_comm.append_left _
      refine ⟨fun hs => ?_, ?_, h.cancelled⟩
      · show s.__nreq + 1 = ((s.admitted ++ [(c, r)] ++ s.handling).length : Int)
        rw [h.counter hs, hinside.length_eq, List.length_append, List.length_singleton]
        rfl
      · show (s.arrived ++ [(c, r)]).Perm
          ((s.admitted ++ [(c, r)] ++ s.handling) ++ (s.answered.map Prod.fst ++ s.cancelled))
        refine (houtcome.append_right _).trans (.trans ?_ (hinside.symm.append_right _))
        rw [List.append_assoc s.inside, List.append_assoc s.inside]
        exact List.perm_append_comm.append_left _
  | hands c p admitted hperm hsub =>
      have hinside : (admitted ++ (s.handling ++ [p])).Perm s.inside := perm_handed hperm
      refine ⟨fun hs => ?_, ?_, h.cancelled⟩
      · show s.__nreq = ((admitted ++ (s.handling ++ [p])).length : Int)
        rw [h.counter hs, hinside.length_eq]
      · exact houtcome.trans (hinside.symm.append_right _)
  | ends c res p admitted handling hperm hsub =>
      refine ⟨fun hs => ?_, ?_, h.cancelled⟩
      · show s.__nreq - 1 = ((admitted ++ handling).length : Int)
        rw [h.counter hs, hperm.length_eq, List.length_cons]
        omega
      · show s.arrived.Perm ((admitted ++ handling) ++
          ((s.answered ++ [(p, Answer.ended res)]).map Prod.fst ++ s.cancelled))
        rw [hnone, List.append_nil] at houtcome ⊢
        refine houtcome.trans ((hperm.append_right _).trans ?_)
        rw [List.map_append, ← List.append_assoc]
        exact (List.perm_append_singleton p _).symm
  | signals signal => exact ⟨h.counter, h.outcome, h.cancelled⟩
  | interrupts task htask =>
      have hset : Serving { s with __is_shutting_down := true } :=
        ⟨h.counter, h.outcome, h.cancelled⟩
      exact hset.cancelAll hrunning
  | begins task htask =>
      have hset : Serving { s with __is_shutting_down := true } :=
        ⟨h.counter, h.outcome, h.cancelled⟩
      exact hset.waitFor hrunning task _ _
  | wakes task original_connections left htask => exact h.waitFor hrunning task _ _

theorem step_of_stopped (h : s.stopped = true) (a : AgentAct Req Res) : step s a = s := by
  unfold step
  exact if_pos h

theorem stopped_run (as : List (AgentAct Req Res)) (h : s.stopped = true) :
    (run step s as).stopped = true := by
  have hstep : ∀ (s : Agent Req Res) (a : AgentAct Req Res), True → s.stopped = true →
      (step s a).stopped = true := fun s a _ h => by rwa [step_of_stopped h]
  exact invariant_run hstep (fun _ _ => trivial) h

theorem Serving.step (h : Serving s) (a : AgentAct Req Res) : Serving (step s a) := by
  cases hstopped : s.stopped with
  | true => rwa [step_of_stopped hstopped]
  | false => exact (does_step s a).serving hstopped h

/-! ## The tasks that wait -/

/-- Connections have been opened, and whatever sleeps `Waits`. -/
structure Waiting (s : Agent Req Res) : Prop where
  issued : ∀ c ∈ s.connections, c < s.opened
  held : ∀ p ∈ s.inside, p.1 < s.opened
  waits : ∀ original_connections left,
    .sleeping original_connections left ∈ s.tasks → Waits s original_connections left

theorem Waiting.start (quota : Int) : Waiting (.start quota : Agent Req Res) where
  issued := fun _ h => absurd h List.not_mem_nil
  held := fun _ h => absurd h List.not_mem_nil
  waits := fun _ _ h => absurd h List.not_mem_nil

/-- A step after which the tasks that sleep are those that slept before. -/
theorem Waiting.keeps (h : Waiting s) (hl : Later s s')
    (hissued : ∀ c ∈ s'.connections, c < s'.opened) (hheld : ∀ p ∈ s'.inside, p.1 < s'.opened)
    (htasks : ∀ original_connections left, .sleeping original_connections left ∈ s'.tasks →
      .sleeping original_connections left ∈ s.tasks) : Waiting s' :=
  ⟨hissued, hheld, fun o l hmem => (h.waits o l (htasks o l hmem)).later h.held hl⟩

theorem Waiting.cancelAll (h : Waiting s) : Waiting s.cancelAll :=
  h.keeps later_cancelAll h.issued (fun _ hp => absurd hp List.not_mem_nil) fun _ _ hmem => hmem

theorem Waiting.waitFor (h : Waiting s) {task : Nat} {original_connections left : List Nat}
    (hw : Waits s original_connections left) :
    Waiting (s.waitFor task original_connections left) := by
  rcases waitFor_cases s task original_connections left with ⟨-, he⟩ | ⟨-, he⟩
  · rw [he]
    exact h.cancelAll
  · rw [he]
    refine ⟨h.issued, h.held, fun o l hmem => ?_⟩
    rcases List.mem_or_eq_of_mem_set hmem with hmem | heq
    · have hold := h.waits o l hmem
      exact ⟨hold.shutting_down, hold.issued, hold.copied, hold.passed, hold.inside⟩
    · cases heq
      have hnew := hw.stillOpen
      exact ⟨hnew.shutting_down, hnew.issued, hnew.copied, hnew.passed, hnew.inside⟩

theorem Waiting.shutting_down (h : Waiting s) :
    Waiting { s with __is_shutting_down := true } :=
  h.keeps (later_shutting_down .refl) h.issued h.held fun _ _ hmem => hmem

/-- What is copied is all that is open. -/
theorem Waiting.copies (h : Waiting s) (hset : s.__is_shutting_down = true) :
    Waits s s.connections s.connections :=
  ⟨hset, h.issued, List.Subset.refl _, fun _ _ hopen => hopen, fun _ _ hopen => hopen⟩

theorem Does.waiting {a : AgentAct Req Res} (hd : Does s a s') (h : Waiting s) : Waiting s' := by
  have hl := hd.later
  cases hd with
  | nothing => exact h
  | connects =>
      refine h.keeps hl (fun c hc => ?_) (fun p hp => (h.held p hp).trans (Nat.lt_succ_self _))
        fun _ _ hmem => hmem
      rcases List.mem_append.mp hc with hc | hnew
      · exact (h.issued c hc).trans (Nat.lt_succ_self _)
      · rw [List.mem_singleton.mp hnew]
        exact Nat.lt_succ_self _
  | loses c =>
      exact h.keeps hl (fun d hd => h.issued d (List.mem_of_mem_filter hd)) h.held
        fun _ _ hmem => hmem
  | answers c r answer => exact h.keeps hl h.issued h.held fun _ _ hmem => hmem
  | admits c r hopen _ =>
      refine h.keeps hl h.issued (fun p hp => ?_) fun _ _ hmem => hmem
      rcases List.mem_append.mp hp with hp | hp
      · rcases List.mem_append.mp hp with hp | hnew
        · exact h.held p (List.mem_append_left _ hp)
        · rw [List.mem_singleton.mp hnew]
          exact h.issued c hopen
      · exact h.held p (List.mem_append_right _ hp)
  | hands c p admitted hperm hsub =>
      exact h.keeps hl h.issued (fun q hq => h.held q ((perm_handed hperm).mem_iff.mp hq))
        fun _ _ hmem => hmem
  | ends c res p admitted handling hperm hsub =>
      exact h.keeps hl h.issued
        (fun q hq => h.held q (hperm.mem_iff.mpr (List.mem_cons_of_mem p hq))) fun _ _ hmem => hmem
  | signals signal =>
      refine h.keeps hl h.issued h.held fun o l hmem => ?_
      rcases List.mem_append.mp hmem with hmem | hnew
      · exact hmem
      · cases List.mem_singleton.mp hnew
  | interrupts task htask => exact h.shutting_down.cancelAll
  | begins task htask => exact h.shutting_down.waitFor (h.shutting_down.copies rfl)
  | wakes task o l htask => exact h.waitFor (h.waits o l (List.mem_of_getElem? htask))

/-- A task that has copied the connections keeps its copy. -/
theorem Does.copy {a : AgentAct Req Res} (hd : Does s a s') {k : Nat} {o l : List Nat}
    (h : s.tasks[k]? = some (.sleeping o l)) : ∃ l', s'.tasks[k]? = some (.sleeping o l') := by
  have hwait : ∀ (t : Agent Req Res), t.tasks = s.tasks → ∀ task o' l',
      (∀ o'' l'', s.tasks[task]? = some (.sleeping o'' l'') → o'' = o') →
        ∃ l'', (t.waitFor task o' l').tasks[k]? = some (.sleeping o l'') := by
    intro t htasks task o' l' hsame
    rcases waitFor_cases t task o' l' with ⟨-, he⟩ | ⟨-, he⟩
    · rw [he]
      exact ⟨l, by rw [← h, ← htasks]; rfl⟩
    · rw [he]
      show ∃ l'', (t.tasks.set task _)[k]? = _
      rw [htasks]
      by_cases hk : task = k
      · subst hk
        have hlt : task < s.tasks.length := (List.getElem?_eq_some_iff.mp h).1
        rw [List.getElem?_set_self hlt, hsame o l h]
        exact ⟨_, rfl⟩
      · rw [List.getElem?_set_ne hk]
        exact ⟨l, h⟩
  cases hd with
  | nothing | connects | loses | answers | admits | hands | ends | interrupts => exact ⟨l, h⟩
  | signals signal =>
      exact ⟨l, (List.getElem?_append_left (List.getElem?_eq_some_iff.mp h).1).trans h⟩
  | begins task htask =>
      refine hwait { s with __is_shutting_down := true } rfl task _ _ fun o'' l'' hs => ?_
      rw [htask] at hs
      cases hs
  | wakes task o' l' htask =>
      refine hwait s rfl task _ _ fun o'' l'' hs => ?_
      rw [htask] at hs
      cases hs
      rfl

theorem copy_run (as : List (AgentAct Req Res)) : ∀ {s : Agent Req Res} {k : Nat} {o l : List Nat},
    s.tasks[k]? = some (.sleeping o l) → ∃ l', (run step s as).tasks[k]? = some (.sleeping o l') := by
  induction as with
  | nil => exact fun h => ⟨_, h⟩
  | cons a as ih =>
      intro s k o l h
      obtain ⟨l', hnext⟩ := (does_step s a).copy h
      exact ih hnext

/-! ## Who is cancelled -/

/-- No SIGINT, and whoever was cancelled has lost its client. -/
structure Spared (s : Agent Req Res) : Prop where
  signals : .scheduled .SIGINT ∉ s.tasks
  cancelled : ∀ p ∈ s.cancelled, p.1 ∉ s.connections

theorem Spared.waitFor (h : Spared s) {task : Nat} {o l : List Nat} (hw : Waits s o l) :
    Spared (s.waitFor task o l) := by
  rcases waitFor_cases s task o l with ⟨hnone, he⟩ | ⟨-, he⟩
  · rw [he]
    exact ⟨h.signals, fun p hp hopen => (waited_iff hw).mp hnone p.1 (hw.inside p hp hopen) hopen⟩
  · rw [he]
    refine ⟨fun hmem => ?_, h.cancelled⟩
    rcases List.mem_or_eq_of_mem_set hmem with hmem | heq
    · exact h.signals hmem
    · cases heq

theorem Does.spared {a : AgentAct Req Res} (hd : Does s a s') (ha : a ≠ .signal .SIGINT)
    (hrunning : s.stopped = false) (hserving : Serving s) (hwaiting : Waiting s) (h : Spared s) :
    Spared s' := by
  have hnone := hserving.cancelled hrunning
  cases hd with
  | nothing | answers | admits | hands | ends => exact ⟨h.signals, h.cancelled⟩
  | connects => exact ⟨h.signals, fun p hp => absurd (hnone ▸ hp) List.not_mem_nil⟩
  | loses c => exact ⟨h.signals, fun p hp => absurd (hnone ▸ hp) List.not_mem_nil⟩
  | signals signal =>
      refine ⟨fun hmem => ?_, h.cancelled⟩
      rcases List.mem_append.mp hmem with hmem | hnew
      · exact h.signals hmem
      · cases List.mem_singleton.mp hnew
        exact ha rfl
  | interrupts task htask => exact absurd (List.mem_of_getElem? htask) h.signals
  | begins task htask =>
      have hset : Spared { s with __is_shutting_down := true } := ⟨h.signals, h.cancelled⟩
      exact hset.waitFor (hwaiting.shutting_down.copies rfl)
  | wakes task o l htask => exact h.waitFor (hwaiting.waits o l (List.mem_of_getElem? htask))

theorem serving_run (quota : Int) (as : List (AgentAct Req Res)) :
    Serving (run step (.start quota) as) ∧ Waiting (run step (.start quota) as) := by
  have hstep : ∀ (s : Agent Req Res) (a : AgentAct Req Res), True → Serving s ∧ Waiting s →
      Serving (step s a) ∧ Waiting (step s a) :=
    fun s a _ h => ⟨h.1.step a, (does_step s a).waiting h.2⟩
  exact invariant_run hstep (fun _ _ => trivial) ⟨.start quota, .start quota⟩

theorem spared_run (quota : Int) {as : List (AgentAct Req Res)}
    (h : .signal .SIGINT ∉ as) : Spared (run step (.start quota) as) := by
  have hstep : ∀ (s : Agent Req Res) (a : AgentAct Req Res), a ≠ .signal .SIGINT →
      (Serving s ∧ Waiting s) ∧ Spared s →
        (Serving (step s a) ∧ Waiting (step s a)) ∧ Spared (step s a) := by
    rintro s a ha ⟨⟨hserving, hwaiting⟩, hspared⟩
    refine ⟨⟨hserving.step a, (does_step s a).waiting hwaiting⟩, ?_⟩
    cases hstopped : s.stopped with
    | true => rwa [step_of_stopped hstopped]
    | false => exact (does_step s a).spared ha hstopped hserving hwaiting hspared
  exact (invariant_run hstep (fun a ha hs => h (hs ▸ ha))
    ⟨⟨.start quota, .start quota⟩, fun h => absurd h List.not_mem_nil,
      fun _ hp => absurd hp List.not_mem_nil⟩).2

/-! ## Shutting down -/

theorem stopped_waitFor {o l : List Nat} (hrunning : s.stopped = false) (hw : Waits s o l)
    (task : Nat) : (s.waitFor task o l).stopped = true ↔ ∀ c ∈ o, c ∉ s.connections := by
  rw [← waited_iff hw]
  rcases waitFor_cases s task o l with ⟨hnone, he⟩ | ⟨hsome, he⟩
  · rw [he]
    exact iff_of_true rfl hnone
  · rw [he]
    refine iff_of_false (fun h => ?_) hsome
    rw [show s.stopped = true from h] at hrunning
    cases hrunning

theorem step_run (hrunning : s.stopped = false) (task : Nat) :
    step s (.run task) = runTask s task := by
  unfold step
  rw [hrunning]
  rfl

/-- The first stretch of a task of SIGTERM. -/
theorem sigterm_begins {task : Nat} (hwaiting : Waiting s) (hrunning : s.stopped = false)
    (htask : s.tasks[task]? = some (.scheduled .SIGTERM)) :
    (step s (.run task)).__is_shutting_down = true ∧
      ((step s (.run task)).stopped = true ↔ s.connections = []) ∧
      ((step s (.run task)).stopped = false →
        ∃ left, (step s (.run task)).tasks[task]? = some (.sleeping s.connections left)) := by
  have hstep : step s (.run task) =
      ({ s with __is_shutting_down := true }.waitFor task s.connections s.connections) := by
    rw [step_run hrunning, runTask, htask]
    rfl
  have hw := hwaiting.shutting_down.copies rfl
  have hstopped := stopped_waitFor (s := { s with __is_shutting_down := true }) hrunning hw task
  rw [hstep]
  refine ⟨?_, hstopped.trans ?_, fun h => ?_⟩
  · exact later_waitFor.shutting_down rfl
  · rw [List.eq_nil_iff_forall_not_mem]
    exact ⟨fun h c hc => h c hc hc, fun h c hc => absurd hc (h c)⟩
  · rcases waitFor_cases { s with __is_shutting_down := true } task s.connections s.connections
      with ⟨-, he⟩ | ⟨-, he⟩
    · rw [he] at h
      cases h
    · rw [he]
      have hlt : task < s.tasks.length := (List.getElem?_eq_some_iff.mp htask).1
      exact ⟨_, List.getElem?_set_self hlt⟩

/-- A task that wakes up stops the agent once all it has copied are gone. -/
theorem sigterm_wakes {task : Nat} {o l : List Nat} (hwaiting : Waiting s)
    (hrunning : s.stopped = false) (htask : s.tasks[task]? = some (.sleeping o l)) :
    (step s (.run task)).stopped = true ↔ ∀ c ∈ o, c ∉ s.connections := by
  have hstep : step s (.run task) = s.waitFor task o l := by
    rw [step_run hrunning, runTask, htask]
  rw [hstep]
  exact stopped_waitFor hrunning (hwaiting.waits o l (List.mem_of_getElem? htask)) task

/-- **Shutting down.**  Whatever order connections, requests, their awaits, endings of handlers
and signals come in: every request that has arrived is inside (past the check, on its way to its
handler or with it), answered or cancelled, and the counter of the throttler counts those
inside; without SIGINT, none is cancelled whose client is still connected.  From the moment a task
of SIGTERM has begun no request gets inside, so that only those reach a handler that had passed
the check by then; and the task stops the agent on waking exactly when all the connections open at
that moment are gone, whichever have been opened since. -/
theorem shut_down_exact (quota : Int) (as : List (AgentAct Req Res)) :
    let after := fun as => run step (.start quota : Agent Req Res) as
    ((after as).arrived.Perm
        ((after as).inside ++ ((after as).answered.map Prod.fst ++ (after as).cancelled)) ∧
      ((after as).stopped = false → (after as).__nreq = (after as).inside.length)) ∧
    (.signal .SIGINT ∉ as → ∀ p ∈ (after as).cancelled, p.1 ∉ (after as).connections) ∧
    ∀ bs task cs, as = bs ++ .run task :: cs →
      (after bs).tasks[task]? = some (.scheduled .SIGTERM) → (after bs).stopped = false →
        (after as).admitted.Sublist (after bs).admitted ∧
        (after as).inside.Subperm (after bs).inside ∧
        ((after (bs ++ [.run task])).stopped = true ↔ (after bs).connections = []) ∧
        ((after as).stopped = false →
          ((after (as ++ [.run task])).stopped = true ↔
            ∀ c ∈ (after bs).connections, c ∉ (after as).connections)) := by
  intro after
  have hrun : ∀ as, Serving (after as) ∧ Waiting (after as) := serving_run quota
  refine ⟨⟨(hrun as).1.outcome, (hrun as).1.counter⟩, fun h => (spared_run quota h).cancelled, ?_⟩
  rintro bs task cs rfl htask hrunning
  have hone : after (bs ++ [.run task]) = step (after bs) (.run task) := run_append _ _ _
  have hrest : after (bs ++ .run task :: cs) = run step (step (after bs) (.run task)) cs :=
    run_append _ _ _
  obtain ⟨hset, hstops, hsleeps⟩ := sigterm_begins (hrun bs).2 hrunning htask
  have hlater := later_run cs (step (after bs) (.run task))
  have hbegun : Later { after bs with __is_shutting_down := true }
      (step (after bs) (.run task)) := by
    rw [step_run hrunning, runTask, htask]
    exact later_waitFor
  refine ⟨?_, ?_, hone ▸ hstops, fun hrunning' => ?_⟩
  · rw [hrest]
    exact (hlater.admitted hset).trans (hbegun.admitted rfl)
  · rw [hrest]
    exact (hlater.inside hset).trans (hbegun.inside rfl)
  · have hnot : (step (after bs) (.run task)).stopped = false := by
      cases hstopped : (step (after bs) (.run task)).stopped with
      | false => rfl
      | true =>
          rw [hrest, stopped_run cs hstopped] at hrunning'
          cases hrunning'
    obtain ⟨left, hsleeping⟩ := hsleeps hnot
    obtain ⟨left', hsleeping'⟩ := copy_run cs hsleeping
    rw [← hrest] at hsleeping'
    have hwake : after (bs ++ .run task :: cs ++ [.run task]) =
        step (after (bs ++ .run task :: cs)) (.run task) := run_append _ _ _
    rw [hwake]
    exact sigterm_wakes (hrun _).2 hrunning' hsleeping'

/-- A request that waits for its body comes to its handler after the signal; one that comes over
a new connection is refused, and that connection is not waited for. -/
example :
    let s := run step (.start 10 : Agent Nat Nat)
      [.connect, .request 0 7, .signal .SIGTERM, .run 0, .connect, .request 1 8, .handed 0,
        .ended 0 200, .run 0, .lost 0, .run 0]
    s.answered = [((1, 8), .shuttingDown), ((0, 7), .ended 200)] ∧ s.connections = [1] ∧
      s.stopped = true := ⟨rfl, rfl, rfl⟩

end CortxCsm.Shutdown
