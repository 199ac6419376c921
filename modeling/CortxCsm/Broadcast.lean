/-
# `CortxCsm.Broadcast` — messages pushed to the web clients

`push` of `csm/core/agent/api.py` hands a message from any thread to the event loop;
`_websock_bg` takes the messages one after the other from an `asyncio.Queue` and sends each to
a copy of the set of clients that are connected at that moment.  The copy is a `WeakSet`: it
is walked in any order, and a client whose handler has ended may vanish from it.  One `try`
stands around the whole walk, so an exception from one client ends it for those still to come.

| step | |
| :-- | :-- |
| `push`, `put` | a message is pushed, and the loop gets round to queueing it |
| `connect`, `disconnect`, `collect` | `process_websocket` begins and ends, a client is forgotten |
| `get`, `sent`, `failed` | `_websock_bg` resumes |
| `cancel` | `_on_shutdown` |

What a client was sent and what it is still owed make up its account.

**Proved here.**

    a client is sent what was pushed, in order, nothing twice; one that stays
    connected misses nothing exactly when no walk breaks off before its turn
                                                             (`broadcast_exact`)
    until the task is cancelled, every message can still go out  (`can_rest`)
-/
import CortxCsm.Lib.Ledger

namespace CortxCsm.Broadcast

/-- Where `_websock_bg` stands: at `_queue.get()`, at `ws.send_str(json_msg)` with the clients
that come after `ws`, or ended. -/
inductive WebsockTask (Client Msg : Type)
  | getting
  | sending (msg : Msg) (ws : Client) (clients : List Client)
  | done

namespace WebsockTask

variable {Client Msg : Type}

/-- The clients whose turn for the message is now or still to come. -/
def turns : WebsockTask Client Msg → List Client
  | .sending _ ws clients => ws :: clients
  | _ => []

@[simp] theorem turns_getting : (getting : WebsockTask Client Msg).turns = [] := rfl

@[simp] theorem turns_done : (done : WebsockTask Client Msg).turns = [] := rfl

@[simp] theorem turns_sending (msg : Msg) (ws : Client) (clients : List Client) :
    (sending msg ws clients).turns = ws :: clients := rfl

end WebsockTask

/-- The class attributes of `CsmRestApi`, the calls of `_async_push` that the loop has
scheduled, and what each client was sent. -/
structure Websockets (Client Msg Text : Type) where
  scheduled : List Msg
  _queue : List Msg
  _wsclients : List Client
  task : WebsockTask Client Msg
  sent : Client → List Text

inductive WebsockAct (Client Msg : Type)
  | push (msg : Msg)
  | put
  | connect (ws : Client)
  | disconnect (ws : Client)
  | collect (ws : Client)
  /-- `clients` is the copy of `_wsclients` in the order in which it is walked. -/
  | get (clients : List Client)
  | sent
  | failed
  | cancel

section

variable {Client Msg Text : Type} [DecidableEq Client]

/-- No message pushed, no client connected. -/
def Websockets.start : Websockets Client Msg Text := ⟨[], [], [], .getting, fun _ => []⟩

/-- `json_serializer` is `none` where `json.dumps` raises; `cancelIsException` says whether
`asyncio.CancelledError` derives from `Exception`, as it does up to Python 3.7. -/
structure WebsockRuntime (Msg Text : Type) where
  json_serializer : Msg → Option Text
  cancelIsException : Bool

variable (R : WebsockRuntime Msg Text)

namespace CsmRestApi

/-- `_websock_broadcast` from the top of its loop to the next `await`. -/
def _websock_broadcast (msg : Msg) : List Client → WebsockTask Client Msg
  | [] => .getting
  | ws :: clients =>
      match R.json_serializer msg with
      | none => .getting
      | some _ => .sending msg ws clients

/-- `except Exception` around the walk. -/
def brokenOff : WebsockTask Client Msg → WebsockTask Client Msg
  | .sending _ _ _ => .getting
  | task => task

/-- `AsyncioCancelledError` at the `await`: `_websock_bg` ends with it, unless the handler of
`_websock_broadcast` has it first. -/
def cancelled : WebsockTask Client Msg → WebsockTask Client Msg
  | .sending _ _ _ => if R.cancelIsException then .getting else .done
  | _ => .done

def websockStep (w : Websockets Client Msg Text) :
    WebsockAct Client Msg → Websockets Client Msg Text
  | .push msg => { w with scheduled := w.scheduled ++ [msg] }
  | .put =>
      match w.scheduled with
      | [] => w
      | msg :: scheduled => { w with scheduled, _queue := w._queue ++ [msg] }
  | .connect ws => if ws ∈ w._wsclients then w else { w with _wsclients := ws :: w._wsclients }
  | .disconnect ws => { w with _wsclients := w._wsclients.filter (· ≠ ws) }
  | .collect ws =>
      match w.task with
      | .sending msg now clients =>
          if ws ∈ w._wsclients then w
          else { w with task := .sending msg now (clients.filter (· ≠ ws)) }
      | _ => w
  | .get clients =>
      match w.task, w._queue with
      | .getting, msg :: _queue =>
          if clients.Nodup ∧ clients ⊆ w._wsclients ∧ w._wsclients ⊆ clients then
            { w with _queue, task := _websock_broadcast R msg clients }
          else w
      | _, _ => w
  | .sent =>
      match w.task with
      | .sending msg ws clients =>
          { w with
            task := _websock_broadcast R msg clients
            sent := Function.update w.sent ws (w.sent ws ++ (R.json_serializer msg).toList) }
      | _ => w
  | .failed => { w with task := brokenOff w.task }
  | .cancel => { w with task := cancelled R w.task }

end CsmRestApi

open CsmRestApi Run

/-! ## A client's account -/

/-- What the messages are sent as; a message that cannot be serialized is never sent. -/
def texts (msgs : List Msg) : List Text := msgs.filterMap R.json_serializer

omit [DecidableEq Client] in
@[simp] theorem texts_nil : texts R [] = [] := rfl

theorem texts_cons (msg : Msg) (msgs : List Msg) :
    texts R (msg :: msgs) = (R.json_serializer msg).toList ++ texts R msgs := by
  unfold texts
  cases h : R.json_serializer msg with
  | none => simp [h]
  | some text => simp [h]

theorem texts_append (msgs msgs' : List Msg) :
    texts R (msgs ++ msgs') = texts R msgs ++ texts R msgs' := List.filterMap_append

/-- What the walk that is under way still has for the client. -/
def underWay (ws : Client) : WebsockTask Client Msg → List Text
  | .sending msg now clients => if ws ∈ now :: clients then texts R [msg] else []
  | _ => []

/-- What the client has not been sent yet. -/
def Websockets.owed (w : Websockets Client Msg Text) (ws : Client) : List Text :=
  underWay R ws w.task ++ texts R (w._queue ++ w.scheduled)

def Websockets.account (ws : Client) (w : Websockets Client Msg Text) : List Text :=
  w.sent ws ++ w.owed R ws

/-- What is pushed by a step. -/
def pushed : WebsockAct Client Msg → List Msg
  | .push msg => [msg]
  | _ => []

/-- A walk breaks off, with the client's turn now or still to come. -/
def Misses (ws : Client) (w : Websockets Client Msg Text) : WebsockAct Client Msg → Prop
  | .failed | .cancel => ws ∈ w.task.turns
  | _ => False

/-- A walk sends a message that can be serialized, to each of its clients once. -/
structure Walking (w : Websockets Client Msg Text) : Prop where
  clients : w._wsclients.Nodup
  nodup : w.task.turns.Nodup
  text : ∀ msg ws clients, w.task = .sending msg ws clients → texts R [msg] ≠ []

variable {R} {w : Websockets Client Msg Text} {ws : Client}

theorem underWay_sending (msg : Msg) (now : Client) (clients : List Client) :
    underWay R ws (.sending msg now clients) =
      if ws ∈ now :: clients then texts R [msg] else [] := rfl

/-- A walk that begins, or goes on, has the message for the clients it is given. -/
theorem underWay_websock_broadcast (msg : Msg) (clients : List Client) :
    underWay R ws (_websock_broadcast R msg clients) =
      if ws ∈ clients then texts R [msg] else [] := by
  cases clients with
  | nil => rfl
  | cons now clients =>
      cases htext : R.json_serializer msg with
      | none =>
          have hnone : texts R [msg] = [] := by simp [texts_cons, htext]
          simp [_websock_broadcast, htext, underWay, hnone]
      | some text =>
          simp only [_websock_broadcast, htext]
          exact underWay_sending msg now clients

omit [DecidableEq Client] in
theorem turns_websock_broadcast (msg : Msg) (clients : List Client) :
    (_websock_broadcast R msg clients).turns = clients ∨
      (_websock_broadcast R msg clients).turns = [] := by
  cases clients with
  | nil => exact .inr rfl
  | cons now clients =>
      cases htext : R.json_serializer msg with
      | none => exact .inr (by simp [_websock_broadcast, htext])
      | some text => exact .inl (by simp [_websock_broadcast, htext])

omit [DecidableEq Client] in
theorem text_websock_broadcast {msg msg' : Msg} {clients clients' : List Client} {now : Client}
    (h : _websock_broadcast R msg clients = .sending msg' now clients') :
    texts R [msg'] ≠ [] := by
  cases clients with
  | nil => cases h
  | cons c clients =>
      cases htext : R.json_serializer msg with
      | none =>
          simp only [_websock_broadcast, htext] at h
          cases h
      | some text =>
          simp only [_websock_broadcast, htext] at h
          cases h
          simp [texts_cons, htext]

theorem underWay_of_turns {task : WebsockTask Client Msg} (h : task.turns = []) :
    underWay R ws task = [] := by
  cases task with
  | getting => rfl
  | done => rfl
  | sending msg now clients => cases h

/-! ## What a step does -/

omit [DecidableEq Client] in
theorem Walking.start : Walking R (.start : Websockets Client Msg Text) where
  clients := List.nodup_nil
  nodup := List.nodup_nil
  text _ _ _ h := by cases h

omit [DecidableEq Client] in
theorem Walking.broadcast {msg : Msg} {clients : List Client} (h : clients.Nodup)
    {w' : Websockets Client Msg Text} (hclients : w'._wsclients.Nodup)
    (htask : w'.task = _websock_broadcast R msg clients) : Walking R w' where
  clients := hclients
  nodup := by
    rw [htask]
    rcases turns_websock_broadcast (R := R) msg clients with hturns | hturns
    · rwa [hturns]
    · rw [hturns]
      exact List.nodup_nil
  text msg' now clients' h' := text_websock_broadcast (htask.symm.trans h')

omit [DecidableEq Client] in
theorem Walking.rest {w' : Websockets Client Msg Text} (hclients : w'._wsclients.Nodup)
    (h : w'.task.turns = []) : Walking R w' where
  clients := hclients
  nodup := by
    rw [h]
    exact List.nodup_nil
  text msg now clients h' := by
    rw [h'] at h
    cases h

omit [DecidableEq Client] in
theorem turns_brokenOff (task : WebsockTask Client Msg) : (brokenOff task).turns = [] := by
  cases task with
  | getting => rfl
  | done => rfl
  | sending msg now clients => rfl

omit [DecidableEq Client] in
theorem turns_cancelled (task : WebsockTask Client Msg) : (cancelled R task).turns = [] := by
  cases task with
  | getting => rfl
  | done => rfl
  | sending msg now clients =>
      simp only [cancelled]
      split
      · rfl
      · rfl

theorem Walking.step (h : Walking R w) (a : WebsockAct Client Msg) :
    Walking R (websockStep R w a) := by
  cases a with
  | push msg => exact ⟨h.clients, h.nodup, h.text⟩
  | put =>
      simp only [websockStep]
      split
      · exact h
      · exact ⟨h.clients, h.nodup, h.text⟩
  | connect c =>
      simp only [websockStep]
      split
      · exact h
      · rename_i hnew
        exact ⟨List.nodup_cons.mpr ⟨hnew, h.clients⟩, h.nodup, h.text⟩
  | disconnect c => exact ⟨h.clients.filter _, h.nodup, h.text⟩
  | collect c =>
      simp only [websockStep]
      split
      · rename_i msg now clients htask
        split
        · exact h
        · have hnodup := h.nodup
          rw [htask, WebsockTask.turns_sending, List.nodup_cons] at hnodup
          refine ⟨h.clients, ?_, fun msg' now' clients' h' => ?_⟩
          · show (now :: clients.filter (· ≠ c)).Nodup
            rw [List.nodup_cons]
            exact ⟨fun hmem => hnodup.1 (List.mem_of_mem_filter hmem), hnodup.2.filter _⟩
          · cases h'
            exact h.text msg now clients htask
      · exact h
  | get clients =>
      simp only [websockStep]
      split
      · split
        · rename_i hcopy
          exact Walking.broadcast hcopy.1 h.clients rfl
        · exact h
      · exact h
  | sent =>
      simp only [websockStep]
      split
      · rename_i msg now clients htask
        have hnodup := h.nodup
        rw [htask, WebsockTask.turns_sending, List.nodup_cons] at hnodup
        exact Walking.broadcast hnodup.2 h.clients rfl
      · exact h
  | failed => exact Walking.rest h.clients (turns_brokenOff w.task)
  | cancel => exact Walking.rest h.clients (turns_cancelled w.task)

/-- What a step can do to the account of a client. -/
inductive Accounts (R : WebsockRuntime Msg Text) (ws : Client) (w : Websockets Client Msg Text)
    (a : WebsockAct Client Msg) : Prop
  | keeps (hmiss : ¬ Misses ws w a)
      (h : (websockStep R w a).account R ws = w.account R ws ++ texts R (pushed a))
  | misses (hmiss : Misses ws w a) (text : List Text) (htext : text ≠ [])
      (hbefore : w.account R ws ++ texts R (pushed a) =
        w.sent ws ++ (text ++ texts R (w._queue ++ w.scheduled)))
      (hafter : (websockStep R w a).account R ws =
        w.sent ws ++ texts R (w._queue ++ w.scheduled))
  | absent (h : ws ∉ w._wsclients)
      (hsub : ((websockStep R w a).account R ws).Sublist (w.account R ws ++ texts R (pushed a)))

/-- A step that leaves alone what was sent and what is owed. -/
theorem Accounts.same {a : WebsockAct Client Msg} (hmiss : ¬ Misses ws w a)
    (hpush : pushed a = []) (hsent : (websockStep R w a).sent ws = w.sent ws)
    (howed : (websockStep R w a).owed R ws = w.owed R ws) : Accounts R ws w a := by
  refine .keeps hmiss ?_
  unfold Websockets.account
  rw [hsent, howed, hpush, texts_nil, List.append_nil]

/-- A step that is not possible. -/
theorem Accounts.still {a : WebsockAct Client Msg} (hmiss : ¬ Misses ws w a)
    (hpush : pushed a = []) (h : websockStep R w a = w) : Accounts R ws w a :=
  .same hmiss hpush (by rw [h]) (by rw [h])

/-- A step that leaves no walk under way. -/
theorem Accounts.breaks (h : Walking R w) {a : WebsockAct Client Msg}
    (hmiss : Misses ws w a ↔ ws ∈ w.task.turns) (hpush : pushed a = [])
    {task : WebsockTask Client Msg} (hstep : websockStep R w a = { w with task })
    (hturns : underWay R ws task = []) : Accounts R ws w a := by
  have hafter : (websockStep R w a).account R ws =
      w.sent ws ++ texts R (w._queue ++ w.scheduled) := by
    rw [hstep]
    unfold Websockets.account Websockets.owed
    rw [hturns, List.nil_append]
  have hbefore : w.account R ws ++ texts R (pushed a) =
      w.sent ws ++ (underWay R ws w.task ++ texts R (w._queue ++ w.scheduled)) := by
    rw [hpush, texts_nil, List.append_nil]
    rfl
  cases htask : w.task with
  | getting =>
      rw [htask] at hmiss hbefore
      exact .keeps (fun hn => List.not_mem_nil (hmiss.mp hn)) (hafter.trans hbefore.symm)
  | done =>
      rw [htask] at hmiss hbefore
      exact .keeps (fun hn => List.not_mem_nil (hmiss.mp hn)) (hafter.trans hbefore.symm)
  | sending msg now clients =>
      rw [htask] at hmiss hbefore
      rw [underWay_sending] at hbefore
      by_cases hturn : ws ∈ now :: clients
      · rw [if_pos hturn] at hbefore
        exact .misses (hmiss.mpr hturn) _ (h.text msg now clients htask) hbefore hafter
      · rw [if_neg hturn, List.nil_append] at hbefore
        exact .keeps (fun hn => hturn (hmiss.mp hn)) (hafter.trans hbefore.symm)

theorem accounts_put : Accounts R ws w .put := by
  cases hscheduled : w.scheduled with
  | nil => exact .still (fun hn => hn) rfl (by simp [websockStep, hscheduled])
  | cons msg scheduled =>
      have hstep : websockStep R w .put = { w with scheduled, _queue := w._queue ++ [msg] } := by
        simp only [websockStep, hscheduled]
      refine .same (fun hn => hn) rfl (by rw [hstep]) ?_
      rw [hstep]
      unfold Websockets.owed
      rw [hscheduled]
      simp

theorem accounts_collect (c : Client) : Accounts R ws w (.collect c) := by
  cases htask : w.task with
  | getting => exact .still (fun hn => hn) rfl (by simp [websockStep, htask])
  | done => exact .still (fun hn => hn) rfl (by simp [websockStep, htask])
  | sending msg now clients =>
      by_cases hconnected : c ∈ w._wsclients
      · exact .still (fun hn => hn) rfl (by simp [websockStep, htask, hconnected])
      · have hstep : websockStep R w (.collect c) =
            { w with task := .sending msg now (clients.filter (· ≠ c)) } := by
          simp only [websockStep, htask, if_neg hconnected]
        have hbefore : w.owed R ws = underWay R ws (.sending msg now clients) ++
            texts R (w._queue ++ w.scheduled) := by rw [← htask]; rfl
        have hafter : (websockStep R w (.collect c)).owed R ws =
            underWay R ws (.sending msg now (clients.filter (· ≠ c))) ++
              texts R (w._queue ++ w.scheduled) := by rw [hstep]; rfl
        by_cases hc : ws = c
        · refine .absent (hc ▸ hconnected) ?_
          have hless : (underWay R ws (.sending msg now (clients.filter (· ≠ c)))).Sublist
              (underWay R ws (.sending msg now clients)) := by
            rw [underWay_sending, underWay_sending]
            by_cases hmem : ws ∈ now :: clients
            · rw [if_pos hmem]
              split
              · exact List.Sublist.refl _
              · exact List.nil_sublist _
            · rw [if_neg hmem, if_neg]
              intro hmem'
              rcases List.mem_cons.mp hmem' with hnow | hlater
              · exact hmem (List.mem_cons.mpr (.inl hnow))
              · exact hmem (List.mem_cons_of_mem _ (List.mem_of_mem_filter hlater))
          unfold Websockets.account
          rw [hafter, hbefore, show pushed (.collect c : WebsockAct Client Msg) = [] from rfl,
            texts_nil, List.append_nil, hstep]
          exact (hless.append_right _).append_left _
        · refine .same (fun hn => hn) rfl (by rw [hstep]) ?_
          have hsame : ws ∈ now :: clients.filter (· ≠ c) ↔ ws ∈ now :: clients := by simp [hc]
          rw [hafter, hbefore, underWay_sending, underWay_sending, if_congr hsame rfl rfl]

theorem accounts_get (clients : List Client) : Accounts R ws w (.get clients) := by
  cases htask : w.task with
  | done => exact .still (fun hn => hn) rfl (by simp [websockStep, htask])
  | sending msg now clients => exact .still (fun hn => hn) rfl (by simp [websockStep, htask])
  | getting =>
      cases hqueue : w._queue with
      | nil => exact .still (fun hn => hn) rfl (by simp [websockStep, htask, hqueue])
      | cons msg _queue =>
          by_cases hcopy : clients.Nodup ∧ clients ⊆ w._wsclients ∧ w._wsclients ⊆ clients
          · have hstep : websockStep R w (.get clients) =
                { w with _queue, task := _websock_broadcast R msg clients } := by
              simp only [websockStep, htask, hqueue, if_pos hcopy]
            have hbefore : w.owed R ws = texts R [msg] ++ texts R (_queue ++ w.scheduled) := by
              unfold Websockets.owed
              rw [htask, hqueue, ← texts_append]
              rfl
            have hafter : (websockStep R w (.get clients)).owed R ws =
                (if ws ∈ clients then texts R [msg] else []) ++
                  texts R (_queue ++ w.scheduled) := by
              rw [← underWay_websock_broadcast, hstep]
              rfl
            by_cases hconnected : ws ∈ w._wsclients
            · refine .same (fun hn => hn) rfl (by rw [hstep]) ?_
              rw [hafter, hbefore, if_pos (hcopy.2.2 hconnected)]
            · refine .absent hconnected ?_
              have hnot : ws ∉ clients := fun hmem => hconnected (hcopy.2.1 hmem)
              unfold Websockets.account
              rw [hafter, hbefore, if_neg hnot, hstep, List.nil_append,
                show pushed (.get clients : WebsockAct Client Msg) = [] from rfl, texts_nil,
                List.append_nil]
              exact (List.sublist_append_right _ _).append_left _
          · exact .still (fun hn => hn) rfl (by simp [websockStep, htask, hqueue, hcopy])

theorem accounts_sent (h : Walking R w) : Accounts R ws w .sent := by
  cases htask : w.task with
  | getting => exact .still (fun hn => hn) rfl (by simp [websockStep, htask])
  | done => exact .still (fun hn => hn) rfl (by simp [websockStep, htask])
  | sending msg now clients =>
      have hnodup := h.nodup
      rw [htask, WebsockTask.turns_sending, List.nodup_cons] at hnodup
      have hone : (R.json_serializer msg).toList = texts R [msg] := by simp [texts_cons]
      have hstep : websockStep R w .sent =
          { w with
            task := _websock_broadcast R msg clients
            sent := Function.update w.sent now (w.sent now ++ texts R [msg]) } := by
        simp only [websockStep, htask, hone]
      have hbefore : w.owed R ws = (if ws ∈ now :: clients then texts R [msg] else []) ++
          texts R (w._queue ++ w.scheduled) := by
        unfold Websockets.owed
        rw [htask, underWay_sending]
      have hafter : (websockStep R w .sent).owed R ws =
          (if ws ∈ clients then texts R [msg] else []) ++ texts R (w._queue ++ w.scheduled) := by
        rw [← underWay_websock_broadcast, hstep]
        rfl
      by_cases hnow : ws = now
      · -- its turn is over: it was sent what it was owed first
        subst hnow
        refine .keeps (fun hn => hn) ?_
        unfold Websockets.account
        rw [hafter, hbefore, if_neg hnodup.1, if_pos List.mem_cons_self, hstep,
          show pushed (.sent : WebsockAct Client Msg) = [] from rfl, texts_nil]
        simp
      · refine .same (fun hn => hn) rfl ?_ ?_
        · rw [hstep]
          exact Function.update_of_ne hnow _ _
        · have hsame : ws ∈ now :: clients ↔ ws ∈ clients := by simp [hnow]
          rw [hafter, hbefore, if_congr hsame rfl rfl]

theorem accounts_step (ws : Client) (h : Walking R w) (a : WebsockAct Client Msg) : Accounts R ws w a := by
  cases a with
  | push msg =>
      refine .keeps (fun hn => hn) ?_
      show w.sent ws ++ (underWay R ws w.task ++ texts R (w._queue ++ (w.scheduled ++ [msg]))) = _
      rw [← List.append_assoc w._queue, texts_append, ← List.append_assoc (underWay R ws w.task),
        ← List.append_assoc]
      rfl
  | put => exact accounts_put
  | connect c =>
      refine .same (fun hn => hn) rfl ?_ ?_
      · simp only [websockStep]
        split
        · rfl
        · rfl
      · simp only [websockStep]
        split
        · rfl
        · rfl
  | disconnect c => exact .same (fun hn => hn) rfl rfl rfl
  | collect c => exact accounts_collect c
  | get clients => exact accounts_get clients
  | sent => exact accounts_sent h
  | failed => exact .breaks h Iff.rfl rfl rfl (underWay_of_turns (turns_brokenOff w.task))
  | cancel => exact .breaks h Iff.rfl rfl rfl (underWay_of_turns (turns_cancelled w.task))

/-! ## Runs -/

theorem Walking.run (h : Walking R w) (as : List (WebsockAct Client Msg)) :
    Walking R (run (websockStep R) w as) :=
  invariant_run (P := fun _ => True) (fun _ a _ hw => hw.step a) (fun _ _ => trivial) h

theorem orderly : Ledger.Orderly (websockStep R) (Websockets.account R ws)
    (fun a => texts R (pushed a)) (Walking R) fun _ => True := by
  refine ⟨fun w a _ h => h.step a, fun w a _ h => ?_⟩
  cases accounts_step ws h a with
  | keeps hmiss hkept =>
      rw [hkept]
  | misses hmiss text htext hbefore hafter =>
      rw [hbefore, hafter]
      exact (List.sublist_append_right _ _).append_left _
  | absent hws hsub => exact hsub

theorem connected_step {a : WebsockAct Client Msg} (ha : a ≠ .disconnect ws)
    (h : ws ∈ w._wsclients) : ws ∈ (websockStep R w a)._wsclients := by
  cases a with
  | push msg => exact h
  | failed => exact h
  | cancel => exact h
  | connect c =>
      simp only [websockStep]
      split
      · exact h
      · exact List.mem_cons_of_mem _ h
  | disconnect c =>
      have hne : ws ≠ c := fun he => ha (he ▸ rfl)
      exact List.mem_filter.mpr ⟨h, decide_eq_true hne⟩
  | put =>
      simp only [websockStep]
      split
      · exact h
      · exact h
  | collect c =>
      simp only [websockStep]
      split
      · split
        · exact h
        · exact h
      · exact h
  | get clients =>
      simp only [websockStep]
      split
      · split
        · exact h
        · exact h
      · exact h
  | sent =>
      simp only [websockStep]
      split
      · exact h
      · exact h

/-- Among the connected, a client whose account lacks something is one that a walk missed. -/
theorem account_step_iff (h : Walking R w) (hws : ws ∈ w._wsclients)
    (a : WebsockAct Client Msg) :
    (websockStep R w a).account R ws = w.account R ws ++ texts R (pushed a) ↔
      ¬ Misses ws w a := by
  cases accounts_step ws h a with
  | keeps hmiss hkept => exact iff_of_true hkept hmiss
  | misses hmiss text htext hbefore hafter =>
      refine iff_of_false (fun heq => htext ?_) fun hn => hn hmiss
      rw [hbefore, hafter] at heq
      have hlen := congrArg List.length heq
      simp only [List.length_append] at hlen
      exact List.length_eq_zero_iff.mp (by omega)
  | absent hgone hsub => exact absurd hws hgone

omit [DecidableEq Client] in
theorem gains_texts (as : List (WebsockAct Client Msg)) :
    Ledger.gains (fun a => texts R (pushed a)) as = texts R (as.flatMap pushed) := by
  induction as with
  | nil => rfl
  | cons a as ih => rw [Ledger.gains_cons, ih, List.flatMap_cons, texts_append]

/-- A client that stays connected misses nothing exactly when no walk misses it. -/
theorem account_run_iff (h : Walking R w) (hws : ws ∈ w._wsclients)
    {as : List (WebsockAct Client Msg)} (hstays : .disconnect ws ∉ as) :
    (run (websockStep R) w as).account R ws =
        w.account R ws ++ texts R (as.flatMap pushed) ↔
      ∀ v ∈ visits (websockStep R) w as, ¬ Misses ws v.1 v.2 := by
  have horderly : Ledger.Orderly (websockStep R) (Websockets.account R ws)
      (fun a => texts R (pushed a)) (fun w => Walking R w ∧ ws ∈ w._wsclients)
      (· ≠ .disconnect ws) :=
    ⟨fun w a ha h => ⟨h.1.step a, connected_step ha h.2⟩,
      fun w a _ h => orderly.sublist w a trivial h.1⟩
  have has : ∀ a ∈ as, a ≠ .disconnect ws := fun a ha he => hstays (he ▸ ha)
  rw [← gains_texts]
  exact Ledger.account_run_iff horderly (fun w a _ h => account_step_iff h.1 h.2 a) has ⟨h, hws⟩

/-! ## Coming to rest -/

/-- The steps of the loop itself, when every client takes what it is sent. -/
def Serves : WebsockAct Client Msg → Prop
  | .put | .get _ | .sent => True
  | _ => False

omit [DecidableEq Client] in
theorem Serves.not_misses {a : WebsockAct Client Msg} (h : Serves a) : ¬ Misses ws w a := by
  cases a with
  | put => exact fun hn => hn
  | get clients => exact fun hn => hn
  | sent => exact fun hn => hn
  | push msg => exact h.elim
  | connect c => exact h.elim
  | disconnect c => exact h.elim
  | collect c => exact h.elim
  | failed => exact h.elim
  | cancel => exact h.elim

omit [DecidableEq Client] in
theorem Serves.pushed {a : WebsockAct Client Msg} (h : Serves a) : pushed a = [] := by
  cases a with
  | push msg => exact h.elim
  | put => rfl
  | get clients => rfl
  | sent => rfl
  | connect c => rfl
  | disconnect c => rfl
  | collect c => rfl
  | failed => rfl
  | cancel => rfl

/-- While the loop serves the clients, what they are sent is what they were owed. -/
theorem account_serves (h : Walking R w) (hws : ws ∈ w._wsclients)
    {as : List (WebsockAct Client Msg)} (hserves : ∀ a ∈ as, Serves a) :
    (run (websockStep R) w as).account R ws = w.account R ws := by
  have hnone : as.flatMap Broadcast.pushed = [] :=
    List.flatMap_eq_nil_iff.mpr fun a ha => (hserves a ha).pushed
  have hkept := (account_run_iff h hws fun hmem => hserves _ hmem).mpr
    fun v hv => (hserves v.2 (mem_of_mem_visits hv)).not_misses
  rw [hkept, hnone, texts_nil, List.append_nil]

/-- Nothing is waiting and no walk is under way. -/
structure Websockets.AtRest (w : Websockets Client Msg Text) : Prop where
  task : w.task = .getting
  queue : w._queue = []
  scheduled : w.scheduled = []

theorem Websockets.AtRest.owed (h : w.AtRest) : w.owed R ws = [] := by
  unfold Websockets.owed
  rw [h.task, h.queue, h.scheduled]
  rfl

/-- The walk that is under way is finished. -/
theorem walk_ends (msg : Msg) (clients : List Client) : ∀ {w : Websockets Client Msg Text},
    w.task = _websock_broadcast R msg clients →
      ∃ as, (∀ a ∈ as, Serves a) ∧ (run (websockStep R) w as).task = .getting ∧
        (run (websockStep R) w as)._queue = w._queue ∧
          (run (websockStep R) w as).scheduled = w.scheduled := by
  induction clients with
  | nil =>
      intro w htask
      exact ⟨[], fun a ha => absurd ha List.not_mem_nil, htask, rfl, rfl⟩
  | cons now clients ih =>
      intro w htask
      cases htext : R.json_serializer msg with
      | none =>
          simp only [_websock_broadcast, htext] at htask
          exact ⟨[], fun a ha => absurd ha List.not_mem_nil, htask, rfl, rfl⟩
      | some text =>
          simp only [_websock_broadcast, htext] at htask
          have hnext : (websockStep R w .sent).task = _websock_broadcast R msg clients := by
            simp only [websockStep, htask]
          have hkept : (websockStep R w .sent)._queue = w._queue ∧
              (websockStep R w .sent).scheduled = w.scheduled := by
            simp only [websockStep, htask]
            exact ⟨trivial, trivial⟩
          obtain ⟨as, hserves, hend, hqueue, hscheduled⟩ := ih hnext
          refine ⟨.sent :: as, List.forall_mem_cons.mpr ⟨trivial, hserves⟩, hend, ?_, ?_⟩
          · exact hqueue.trans hkept.1
          · exact hscheduled.trans hkept.2

theorem queue_empties : ∀ {msgs : List Msg} {w : Websockets Client Msg Text}, w._queue = msgs →
    Walking R w → w.task = .getting →
      ∃ as, (∀ a ∈ as, Serves a) ∧ (run (websockStep R) w as).task = .getting ∧
        (run (websockStep R) w as)._queue = [] ∧
          (run (websockStep R) w as).scheduled = w.scheduled
  | [], w, hqueue, _, htask => ⟨[], fun a ha => absurd ha List.not_mem_nil, htask, hqueue, rfl⟩
  | msg :: msgs, w, hqueue, h, htask => by
      -- the set may be walked in the order in which it is kept here
      have hcopy : w._wsclients.Nodup ∧ w._wsclients ⊆ w._wsclients ∧
          w._wsclients ⊆ w._wsclients :=
        ⟨h.clients, List.Subset.refl _, List.Subset.refl _⟩
      have hstep : websockStep R w (.get w._wsclients) =
          { w with _queue := msgs, task := _websock_broadcast R msg w._wsclients } := by
        simp only [websockStep, htask, hqueue, if_pos hcopy]
      obtain ⟨as, hserves, hend, hkept, hscheduled⟩ :=
        walk_ends (R := R) (w := websockStep R w (.get w._wsclients)) msg w._wsclients
          (by rw [hstep])
      have hwalking := (h.step (.get w._wsclients)).run as
      obtain ⟨as', hserves', hend', hempty, hscheduled'⟩ :=
        queue_empties (by rw [hkept, hstep]) hwalking hend
      have hrun : run (websockStep R) w (.get w._wsclients :: (as ++ as')) =
          run (websockStep R) (run (websockStep R) (websockStep R w (.get w._wsclients)) as) as' :=
        run_append (websockStep R w (.get w._wsclients)) as as'
      refine ⟨.get w._wsclients :: (as ++ as'), ?_, ?_, ?_, ?_⟩
      · exact List.forall_mem_cons.mpr ⟨trivial, List.forall_mem_append.mpr ⟨hserves, hserves'⟩⟩
      · rw [hrun]
        exact hend'
      · rw [hrun]
        exact hempty
      · rw [hrun, hscheduled', hscheduled, hstep]

/-- Everything scheduled is queued. -/
theorem all_put : ∀ {msgs : List Msg} {w : Websockets Client Msg Text}, w.scheduled = msgs →
    ∃ as, (∀ a ∈ as, Serves a) ∧ (run (websockStep R) w as).task = w.task ∧
      (run (websockStep R) w as).scheduled = []
  | [], w, hscheduled => ⟨[], fun a ha => absurd ha List.not_mem_nil, rfl, hscheduled⟩
  | msg :: msgs, w, hscheduled => by
      have hstep : websockStep R w .put =
          { w with scheduled := msgs, _queue := w._queue ++ [msg] } := by
        simp only [websockStep, hscheduled]
      obtain ⟨as, hserves, htask, hnone⟩ :=
        all_put (w := websockStep R w .put) (by rw [hstep])
      refine ⟨.put :: as, List.forall_mem_cons.mpr ⟨trivial, hserves⟩, ?_, hnone⟩
      exact htask.trans (by rw [hstep])

/-- As long as the task has not ended, the loop can come to rest. -/
theorem can_rest (h : Walking R w) (htask : w.task ≠ .done) :
    ∃ as, (∀ a ∈ as, Serves a) ∧ (run (websockStep R) w as).AtRest := by
  obtain ⟨as, hserves, hsame, hnone⟩ := all_put (R := R) (w := w) rfl
  obtain ⟨as', hserves', hend, -, hscheduled⟩ : ∃ as', (∀ a ∈ as', Serves a) ∧
      (run (websockStep R) (run (websockStep R) w as) as').task = .getting ∧
        (run (websockStep R) (run (websockStep R) w as) as')._queue =
          (run (websockStep R) w as)._queue ∧
        (run (websockStep R) (run (websockStep R) w as) as').scheduled =
          (run (websockStep R) w as).scheduled := by
    cases hw : w.task with
    | getting => exact ⟨[], fun a ha => absurd ha List.not_mem_nil, hsame.trans hw, rfl, rfl⟩
    | done => exact absurd hw htask
    | sending msg now clients =>
        refine walk_ends msg (now :: clients) ?_
        rw [hsame, hw]
        cases htext : R.json_serializer msg with
        | none => exact absurd (by simp [texts_cons, htext]) (h.text msg now clients hw)
        | some text => simp only [_websock_broadcast, htext]
  have hrun : run (websockStep R) w (as ++ as') =
      run (websockStep R) (run (websockStep R) w as) as' := run_append _ _ _
  have hnext := h.run (as ++ as')
  rw [hrun] at hnext
  obtain ⟨as'', hserves'', hend', hempty, hscheduled'⟩ :=
    queue_empties rfl hnext hend
  have hrun' : run (websockStep R) w (as ++ as' ++ as'') =
      run (websockStep R) (run (websockStep R) (run (websockStep R) w as) as') as'' := by
    rw [run_append, hrun]
  refine ⟨as ++ as' ++ as'', ?_, ?_⟩
  · exact List.forall_mem_append.mpr ⟨List.forall_mem_append.mpr ⟨hserves, hserves'⟩, hserves''⟩
  · rw [hrun']
    exact ⟨hend', hempty, hscheduled'.trans (hscheduled.trans hnone)⟩

/-- **Broadcast.**  Whatever order pushes, clients, failures and the loop's own steps come in:
a client is sent a subsequence of what was pushed; between two moments at which it is
connected throughout, what it was sent and is owed grows by exactly what was pushed, if and
only if no walk breaks off in between with its turn still to come; and until the task is
cancelled the loop can come to rest, where every client connected has been sent all it was
owed. -/
theorem broadcast_exact (R : WebsockRuntime Msg Text)
    (as : List (WebsockAct Client Msg)) :
    let after := fun as => run (websockStep R) (.start : Websockets Client Msg Text) as
    (∀ ws, ((after as).sent ws).Sublist (texts R (as.flatMap pushed))) ∧
      (∀ ws bs cs, as = bs ++ cs → ws ∈ (after bs)._wsclients → .disconnect ws ∉ cs →
        ((after as).account R ws = (after bs).account R ws ++ texts R (cs.flatMap pushed) ↔
          ∀ v ∈ visits (websockStep R) (after bs) cs, ¬ Misses ws v.1 v.2)) ∧
      ((after as).task ≠ .done →
        ∃ cs, (∀ a ∈ cs, Serves a) ∧ (after (as ++ cs)).AtRest ∧
          ∀ ws ∈ (after as)._wsclients,
            (after (as ++ cs)).sent ws = (after as).account R ws) := by
  intro after
  have hwalking : ∀ as, Walking R (after as) := fun as => Walking.start.run as
  refine ⟨fun ws => ?_, ?_, fun hdone => ?_⟩
  · have hsub : ((after as).account R ws).Sublist
        (Ledger.gains (fun a => texts R (pushed a)) as) :=
      Ledger.sublist_run orderly (fun _ _ => trivial) Walking.start
    rw [gains_texts] at hsub
    exact (List.sublist_append_left _ _).trans hsub
  · rintro ws bs cs rfl hws hstays
    have hrun : after (bs ++ cs) = run (websockStep R) (after bs) cs := run_append _ _ _
    rw [hrun]
    exact account_run_iff (hwalking bs) hws hstays
  · obtain ⟨cs, hserves, hrest⟩ := can_rest (hwalking as) hdone
    have hrun : after (as ++ cs) = run (websockStep R) (after as) cs := run_append _ _ _
    refine ⟨cs, hserves, hrun ▸ hrest, fun ws hws => ?_⟩
    have hsent := account_serves (hwalking as) hws hserves
    rw [Websockets.account, hrest.owed, List.append_nil] at hsent
    rw [hrun]
    exact hsent

/-- The client after one that fails is not sent the message. -/
example :
    let R : WebsockRuntime Nat Nat := ⟨some, true⟩
    let w := run (websockStep R) (.start : Websockets Bool Nat Nat)
      [.connect true, .connect false, .push 5, .push 6, .put, .put, .get [true, false], .failed,
        .get [true, false], .sent, .sent]
    w.sent true = [6] ∧ w.sent false = [6] := ⟨rfl, rfl⟩

end

end CortxCsm.Broadcast
