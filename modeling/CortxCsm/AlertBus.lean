/-
# `CortxCsm.AlertBus` — alerts from the message bus

`MessageBusComm.recv` of `csm/common/comm.py` reads a topic message by message and hands each
to `_plugin_callback` of `archive/plugins/cortx/alert.py`, which consumes it and acknowledges
it.  An acknowledgement is for all that was read, a consumer that comes back begins after what
its group has acknowledged, and only a `MessageBusError` keeps the loop going.

What the callback makes of a text:

| | acknowledged | consumed | the loop |
| :-- | :-- | :-- | :-- |
| no JSON, an empty value, no sensor message | no | no | goes on |
| not accepted by the schema | yes | no | goes on |
| an alert | if consumed | tried | goes on |
| a value that is no object, a title that is no text | no | no | ends |

**Proved here.**

    what was acknowledged was consumed, refused or none of the monitor's
    business, exactly when no acknowledgement is made over an alert that
    could not be consumed
    a text is ever handled exactly when none before it ends the loop
                                                       (`listener_exact`)
-/
import CortxCsm.Alerts
import CortxCsm.Lib.Schema

namespace CortxCsm.AlertBus

/-! ## `AlertPlugin` -/

/-- `json.loads`, `none` where it raises; `str.lower`; and at a time what
`_convert_to_csm_schema` makes of a text, if `AlertSchemaValidator` accepts it. -/
structure PluginRuntime where
  loads : String → Option Json
  lower : String → String
  convert : Int → String → Option Message

/-- `if sensor_queue_msg:`. -/
def truthy : Json → Bool
  | .null => false
  | .bool b => b
  | .int n => decide (n ≠ 0)
  | .float repr => decide (repr ≠ "0.0" ∧ repr ≠ "-0.0")
  | .str s => decide (s ≠ "")
  | .arr items => !items.isEmpty
  | .obj entries => !entries.isEmpty

/-- What `_plugin_callback` decides before it consumes anything. -/
inductive Verdict
  | ignores
  | refuses
  | consumes (message : Message)
  /-- An `AttributeError` outside of its `try` blocks. -/
  | raises

variable (R : PluginRuntime)

/-- The `try` block about a sensor message. -/
def converted (now : Int) (message : String) : Verdict :=
  match R.convert now message with
  | none => .refuses
  | some alert_data => .consumes alert_data

def verdict (now : Int) (message : String) : Verdict :=
  match R.loads message with
  | none => .ignores
  | some sensor_queue_msg =>
      if truthy sensor_queue_msg then
        match sensor_queue_msg with
        | .obj entries =>
            match (entries.lookup "title").getD (.str "") with
            | .str title =>
                if "sensor".toList <:+: (R.lower title).toList then converted R now message
                else .ignores
            | _ => .raises
        | _ => .raises
      else .ignores

/-! ## The listener -/

/-- How a text was handled; a consumed alert is known by its id. -/
inductive Outcome
  | ignored
  | refused
  | consumed (alert_uuid : String)
  | failed
  | raised
  deriving DecidableEq

/-- Where the listener's thread is: in `consumer.receive`, at `acknowledge`, or past `recv`. -/
inductive Stage
  | receiving
  | acknowledging
  | ended
  deriving DecidableEq

/-- The topic, what the consumer group has acknowledged of it, where the consumer stands, and
the collections.  The topic holds texts: bytes that are no UTF-8, which would end the loop where
they are decoded, are not among its messages.  Nothing reads `handled`: each text that was
received, by its place, with what became of it. -/
structure Listener where
  log : List String
  committed : Nat
  position : Nat
  is_running : Bool
  stage : Stage
  state : AlertState
  handled : List (Nat × Outcome)

def Listener.start (state : AlertState) : Listener := ⟨[], 0, 0, true, .receiving, state, []⟩

inductive BusAct
  | produce (message : String)
  | receive (weather : AlertMonitorService.Weather)
  | acknowledge
  /-- The bus raises `MessageBusError`. -/
  | busError
  | stop
  /-- The process comes up again. -/
  | restart
  /-- A request changes the alerts. -/
  | request (alerts : AlertStore)

variable (es_retry : Nat)

/-- The text at the position, handled with `outcome`. -/
def Listener.handle (l : Listener) (outcome : Outcome) (stage : Stage) (state : AlertState) :
    Listener :=
  { l with
    position := l.position + 1
    stage
    state
    handled := l.handled ++ [(l.position, outcome)] }

/-- `_plugin_callback`, up to its acknowledgement. -/
def Listener.callback (l : Listener) (weather : AlertMonitorService.Weather) (message : String) :
    Listener :=
  match verdict R weather.now message with
  | .ignores => l.handle .ignored .receiving l.state
  | .refuses => l.handle .refused .acknowledging l.state
  | .raises => l.handle .raised .ended l.state
  | .consumes alert_data =>
      match AlertMonitorService._consume es_retry weather alert_data l.state with
      | (true, state) => l.handle (.consumed alert_data.alert_uuid) .acknowledging state
      | (false, state) => l.handle .failed .receiving state

def Listener.step (l : Listener) : BusAct → Listener
  | .produce message => { l with log := l.log ++ [message] }
  | .receive weather =>
      match l.stage with
      | .receiving =>
          if l.is_running then
            match l.log[l.position]? with
            | some message => l.callback R es_retry weather message
            | none => l
          else { l with stage := .ended }
      | _ => l
  | .acknowledge =>
      match l.stage with
      | .acknowledging => { l with committed := l.position, stage := .receiving }
      | _ => l
  | .busError =>
      match l.stage with
      | .acknowledging => { l with stage := .receiving }
      | _ => l
  | .stop => { l with is_running := false }
  | .restart => { l with position := l.committed, is_running := true, stage := .receiving }
  | .request alerts => { l with state := { l.state with alerts } }

open Run

/-! ## What became of a text -/

/-- The text was received, and each time it could not be consumed. -/
def Listener.Failed (l : Listener) (i : Nat) : Prop :=
  (∃ o, (i, o) ∈ l.handled) ∧ ∀ o, (i, o) ∈ l.handled → o = .failed

/-- An alert of this id is in the history. -/
def Recorded (state : AlertState) (alert_uuid : String) : Prop :=
  ∃ alert ∈ state.history, alert.alert_uuid = alert_uuid

/-- The text need not come again: it is no alert, or it is in the history. -/
def Listener.Settled (l : Listener) (i : Nat) : Prop :=
  ∃ o, (i, o) ∈ l.handled ∧ o ≠ .failed ∧
    ∀ alert_uuid, o = .consumed alert_uuid → Recorded l.state alert_uuid

/-- An acknowledgement over a text that could not be consumed. -/
def Leaps (l : Listener) : BusAct → Prop
  | .acknowledge => l.stage = .acknowledging ∧ ∃ i, l.committed ≤ i ∧ i < l.position ∧ l.Failed i
  | _ => False

/-- The text ends the loop. -/
def Poison (message : String) : Prop := verdict R 0 message = .raises

/-! ## The callback -/

section Callback

variable {R es_retry}

/-- Whether a text ends the loop does not depend on the time. -/
theorem verdict_raises_iff (now : Int) (message : String) :
    verdict R now message = .raises ↔ Poison R message := by
  have hconverted : ∀ now, converted R now message ≠ .raises := by
    intro now h
    unfold converted at h
    split at h
    · cases h
    · cases h
  unfold Poison verdict
  split
  · exact Iff.rfl
  · split
    · split
      · split
        · split
          · exact iff_of_false (hconverted now) (hconverted 0)
          · exact Iff.rfl
        · exact Iff.rfl
      · exact Iff.rfl
    · exact Iff.rfl

theorem Recorded.upsert {history : AlertStore} {alerts alerts' : AlertStore} {alert : AlertModel}
    {alert_uuid : String} (h : Recorded ⟨alerts, history⟩ alert_uuid) :
    Recorded ⟨alerts', history.upsert alert⟩ alert_uuid := by
  obtain ⟨other, hmem, hid⟩ := h
  by_cases hsame : other.alert_uuid = alert.alert_uuid
  · exact ⟨alert, Table.self_mem_upsert _ _, hsame.symm.trans hid⟩
  · exact ⟨other, Table.mem_upsert.mpr (.inr ⟨hmem, hsame⟩), hid⟩

/-- What consuming an alert does to the history. -/
theorem consume_records (weather : AlertMonitorService.Weather) (message : Message)
    (s : AlertState) {consumed : Bool} {s' : AlertState}
    (h : AlertMonitorService._consume es_retry weather message s = (consumed, s')) :
    (∀ alert_uuid, Recorded s alert_uuid → Recorded s' alert_uuid) ∧
      (consumed = true → Recorded s' message.alert_uuid) := by
  have hid : (AlertMonitorService.supported weather message).alert_uuid = message.alert_uuid := by
    unfold AlertMonitorService.supported
    split
    · split
      · rfl
      · rfl
    · rfl
  unfold AlertMonitorService._consume at h
  dsimp only at h
  split at h
  · cases h
    exact ⟨fun _ hr => hr, fun hn => (nomatch hn)⟩
  · split at h
    · cases h
      exact ⟨fun _ hr => hr.upsert, fun _ => ⟨_, Table.self_mem_upsert _ _, hid⟩⟩
    · cases h
      exact ⟨fun _ hr => hr, fun hn => (nomatch hn)⟩

/-- The callback handles the text at the position. -/
structure Handles (l : Listener) (message : String) (o : Outcome) (stage : Stage)
    (state : AlertState) : Prop where
  ends : stage = .ended ↔ Poison R message
  acknowledges : stage = .acknowledging → o ≠ .failed
  keeps : ∀ alert_uuid, Recorded l.state alert_uuid → Recorded state alert_uuid
  records : ∀ alert_uuid, o = .consumed alert_uuid → Recorded state alert_uuid

variable (es_retry) in
theorem callback_handles (l : Listener) (weather : AlertMonitorService.Weather)
    (message : String) : ∃ o stage state,
      l.callback R es_retry weather message = l.handle o stage state ∧
        Handles (R := R) l message o stage state := by
  have hends := verdict_raises_iff (R := R) weather.now message
  unfold Listener.callback
  cases hverdict : verdict R weather.now message with
  | ignores =>
      rw [hverdict] at hends
      have hclean : ¬ Poison R message := fun hp => nomatch hends.mpr hp
      refine ⟨_, _, _, rfl, ⟨?_, ?_, fun _ h => h, ?_⟩⟩
      · exact iff_of_false (fun h => nomatch h) hclean
      · exact fun _ h => nomatch h
      · exact fun _ h => nomatch h
  | refuses =>
      rw [hverdict] at hends
      have hclean : ¬ Poison R message := fun hp => nomatch hends.mpr hp
      refine ⟨_, _, _, rfl, ⟨?_, ?_, fun _ h => h, ?_⟩⟩
      · exact iff_of_false (fun h => nomatch h) hclean
      · exact fun _ h => nomatch h
      · exact fun _ h => nomatch h
  | raises =>
      refine ⟨_, _, _, rfl, ⟨?_, ?_, fun _ h => h, ?_⟩⟩
      · exact iff_of_true rfl (hends.mp hverdict)
      · exact fun h => nomatch h
      · exact fun _ h => nomatch h
  | consumes alert_data =>
      rw [hverdict] at hends
      have hclean : ¬ Poison R message := fun hp => nomatch hends.mpr hp
      dsimp only
      split
      · rename_i state hconsume
        obtain ⟨hkeeps, hrecords⟩ := consume_records weather alert_data l.state hconsume
        refine ⟨_, _, _, rfl, ⟨?_, ?_, hkeeps, ?_⟩⟩
        · exact iff_of_false (fun h => nomatch h) hclean
        · exact fun _ h => nomatch h
        · intro alert_uuid h
          cases h
          exact hrecords rfl
      · rename_i state hconsume
        obtain ⟨hkeeps, -⟩ := consume_records weather alert_data l.state hconsume
        refine ⟨_, _, _, rfl, ⟨?_, ?_, hkeeps, ?_⟩⟩
        · exact iff_of_false (fun h => nomatch h) hclean
        · exact fun h => nomatch h
        · exact fun _ h => nomatch h

end Callback

/-! ## Runs -/

section Runs

variable {R es_retry} {l : Listener}

/-- What the listener keeps track of. -/
structure Tracked (R : PluginRuntime) (l : Listener) : Prop where
  committed : l.committed ≤ l.position
  position : l.position ≤ l.log.length
  seen : ∀ i < l.position, ∃ o, (i, o) ∈ l.handled
  within : ∀ i o, (i, o) ∈ l.handled → i < l.log.length ∧ ∀ j < i, ¬ ∃ t ∈ l.log[j]?, Poison R t
  clean : ∀ i < l.position, (∃ t ∈ l.log[i]?, Poison R t) →
    l.committed ≤ i ∧ i + 1 = l.position ∧ l.stage = .ended
  acknowledging : l.stage = .acknowledging →
    ∃ i o, i + 1 = l.position ∧ (i, o) ∈ l.handled ∧ o ≠ .failed
  recorded : ∀ i alert_uuid, (i, .consumed alert_uuid) ∈ l.handled → Recorded l.state alert_uuid

theorem Tracked.start (state : AlertState) : Tracked R (.start state) where
  committed := le_refl _
  position := le_refl _
  seen i hi := absurd hi (Nat.not_lt_zero i)
  within _ _ h := absurd h List.not_mem_nil
  clean i hi := absurd hi (Nat.not_lt_zero i)
  acknowledging h := nomatch h
  recorded _ _ h := absurd h List.not_mem_nil

/-- A text that is received is handled. -/
theorem Tracked.handle (h : Tracked R l) (hstage : l.stage = .receiving) {message : String}
    (hmessage : l.log[l.position]? = some message) {o : Outcome} {stage : Stage}
    {state : AlertState} (hhandles : Handles (R := R) l message o stage state) :
    Tracked R (l.handle o stage state) where
  committed := Nat.le_succ_of_le h.committed
  position := by
    obtain ⟨hlt, -⟩ := List.getElem?_eq_some_iff.mp hmessage
    exact hlt
  seen i hi := by
    rcases Nat.lt_succ_iff_lt_or_eq.mp hi with hlt | rfl
    · obtain ⟨o', ho'⟩ := h.seen i hlt
      exact ⟨o', List.mem_append_left _ ho'⟩
    · exact ⟨o, List.mem_append_right _ (List.mem_singleton.mpr rfl)⟩
  within i o' hmem := by
    rcases List.mem_append.mp hmem with hold | hnew
    · exact h.within i o' hold
    · cases List.mem_singleton.mp hnew
      obtain ⟨hlt, -⟩ := List.getElem?_eq_some_iff.mp hmessage
      refine ⟨hlt, fun j hj hpoison => ?_⟩
      obtain ⟨-, -, hended⟩ := h.clean j hj hpoison
      rw [hstage] at hended
      cases hended
  clean i hi hpoison := by
    rcases Nat.lt_succ_iff_lt_or_eq.mp hi with hlt | rfl
    · obtain ⟨-, -, hended⟩ := h.clean i hlt hpoison
      rw [hstage] at hended
      cases hended
    · obtain ⟨t, ht, hp⟩ := hpoison
      have htext : t = message := Option.some.inj (ht.symm.trans hmessage)
      exact ⟨h.committed, rfl, hhandles.ends.mpr (htext ▸ hp)⟩
  acknowledging hack :=
    ⟨l.position, o, rfl, List.mem_append_right _ (List.mem_singleton.mpr rfl),
      hhandles.acknowledges hack⟩
  recorded i alert_uuid hmem := by
    rcases List.mem_append.mp hmem with hold | hnew
    · exact hhandles.keeps alert_uuid (h.recorded i alert_uuid hold)
    · exact hhandles.records alert_uuid (congrArg Prod.snd (List.mem_singleton.mp hnew)).symm

/-- The topic only grows, so what stands at a place stays there. -/
theorem getElem?_produce {i : Nat} (h : i < l.log.length) (message : String) :
    (l.log ++ [message])[i]? = l.log[i]? := List.getElem?_append_left h

theorem Tracked.step (h : Tracked R l) (a : BusAct) : Tracked R (l.step R es_retry a) := by
  cases a with
  | produce message =>
      refine ⟨h.committed, ?_, h.seen, ?_, ?_, h.acknowledging, h.recorded⟩
      · show l.position ≤ (l.log ++ [message]).length
        rw [List.length_append]
        exact Nat.le_add_right_of_le h.position
      · intro i o hmem
        obtain ⟨hlt, hbefore⟩ := h.within i o hmem
        refine ⟨?_, fun j hj => ?_⟩
        · show i < (l.log ++ [message]).length
          rw [List.length_append]
          exact Nat.lt_add_right _ hlt
        · show ¬ ∃ t ∈ (l.log ++ [message])[j]?, Poison R t
          rw [getElem?_produce (hj.trans hlt)]
          exact hbefore j hj
      · intro i hi hpoison
        have hlt : i < l.log.length := Nat.lt_of_lt_of_le hi h.position
        have hpoison' : ∃ t ∈ (l.log ++ [message])[i]?, Poison R t := hpoison
        rw [getElem?_produce hlt] at hpoison'
        exact h.clean i hi hpoison'
  | receive weather =>
      simp only [Listener.step]
      cases hstage : l.stage with
      | acknowledging => exact h
      | ended => exact h
      | receiving =>
          dsimp only
          split
          · split
            · rename_i message hmessage
              obtain ⟨o, stage, state, heq, hhandles⟩ :=
                callback_handles (R := R) es_retry l weather message
              rw [heq]
              exact h.handle hstage hmessage hhandles
            · exact h
          · refine ⟨h.committed, h.position, h.seen, h.within, ?_, (fun hn => nomatch hn),
              h.recorded⟩
            intro i hi hpoison
            obtain ⟨hcommitted, hlast, -⟩ := h.clean i hi hpoison
            exact ⟨hcommitted, hlast, rfl⟩
  | acknowledge =>
      simp only [Listener.step]
      split
      · rename_i hstage
        refine ⟨le_refl _, h.position, h.seen, h.within, ?_, (fun hn => nomatch hn), h.recorded⟩
        intro i hi hpoison
        obtain ⟨-, -, hended⟩ := h.clean i hi hpoison
        rw [hstage] at hended
        cases hended
      · exact h
  | busError =>
      simp only [Listener.step]
      split
      · rename_i hstage
        refine ⟨h.committed, h.position, h.seen, h.within, ?_, (fun hn => nomatch hn), h.recorded⟩
        intro i hi hpoison
        obtain ⟨-, -, hended⟩ := h.clean i hi hpoison
        rw [hstage] at hended
        cases hended
      · exact h
  | stop => exact ⟨h.committed, h.position, h.seen, h.within, h.clean, h.acknowledging, h.recorded⟩
  | restart =>
      refine ⟨le_refl _, h.committed.trans h.position, ?_, h.within, ?_, (fun hn => nomatch hn),
        h.recorded⟩
      · exact fun i hi => h.seen i (Nat.lt_of_lt_of_le hi h.committed)
      · intro i hi hpoison
        obtain ⟨hcommitted, -, -⟩ := h.clean i (Nat.lt_of_lt_of_le hi h.committed) hpoison
        exact absurd hi (Nat.not_lt.mpr hcommitted)
  | request alerts =>
      exact ⟨h.committed, h.position, h.seen, h.within, h.clean, h.acknowledging, h.recorded⟩

theorem Tracked.run (h : Tracked R l) (as : List BusAct) :
    Tracked R (Run.run (Listener.step R es_retry) l as) :=
  Run.invariant_run (P := fun _ => True) (fun _ a _ hl => hl.step a) (fun _ _ => trivial) h

/-! ### What was acknowledged -/

/-- None of the acknowledged texts is one that could not be consumed. -/
def NoneLost (l : Listener) : Prop := ∀ i < l.committed, ¬ l.Failed i

/-- An acknowledged text was handled, so it is settled unless it failed. -/
theorem noneLost_iff (h : Tracked R l) : NoneLost l ↔ ∀ i < l.committed, l.Settled i := by
  refine forall_congr' fun i => forall_congr' fun hi => ?_
  obtain ⟨o, ho⟩ := h.seen i (Nat.lt_of_lt_of_le hi h.committed)
  constructor
  · intro hfailed
    have hsome : ∃ o, (i, o) ∈ l.handled ∧ o ≠ .failed := by
      by_contra hnone
      refine hfailed ⟨⟨o, ho⟩, fun o' ho' => ?_⟩
      by_contra hne
      exact hnone ⟨o', ho', hne⟩
    obtain ⟨o', ho', hne⟩ := hsome
    refine ⟨o', ho', hne, fun alert_uuid heq => ?_⟩
    exact h.recorded i alert_uuid (heq ▸ ho')
  · rintro ⟨o', ho', hne, -⟩ hfailed
    exact hne (hfailed.2 o' ho')

/-- What was said of an acknowledged text is not said again. -/
theorem failed_handle {i : Nat} (h : i < l.position) {o : Outcome} {stage : Stage}
    {state : AlertState} : (l.handle o stage state).Failed i ↔ l.Failed i := by
  have hsame : ∀ o', (i, o') ∈ (l.handle o stage state).handled ↔ (i, o') ∈ l.handled := by
    intro o'
    show (i, o') ∈ l.handled ++ [(l.position, o)] ↔ _
    rw [List.mem_append, List.mem_singleton, Prod.mk.injEq]
    exact or_iff_left fun heq => Nat.ne_of_lt h heq.1
  exact and_congr (exists_congr hsame) (forall_congr' fun o' => imp_congr_left (hsame o'))

theorem noneLost_step (h : Tracked R l) (hnone : NoneLost l) (a : BusAct) :
    NoneLost (l.step R es_retry a) ↔ ¬ Leaps l a := by
  cases a with
  | produce message => exact iff_of_true hnone fun hn => hn
  | stop => exact iff_of_true hnone fun hn => hn
  | restart => exact iff_of_true hnone fun hn => hn
  | request alerts => exact iff_of_true hnone fun hn => hn
  | busError =>
      refine iff_of_true ?_ fun hn => hn
      simp only [Listener.step]
      split
      · exact hnone
      · exact hnone
  | receive weather =>
      refine iff_of_true ?_ fun hn => hn
      simp only [Listener.step]
      split
      · split
        · split
          · rename_i message hmessage
            obtain ⟨o, stage, state, heq, -⟩ :=
              callback_handles (R := R) es_retry l weather message
            rw [heq]
            intro i hi hfailed
            exact hnone i hi ((failed_handle (Nat.lt_of_lt_of_le hi h.committed)).mp hfailed)
          · exact hnone
        · exact hnone
      · exact hnone
  | acknowledge =>
      cases hstage : l.stage with
      | receiving =>
          simp only [Listener.step, hstage]
          refine iff_of_true hnone fun hn => ?_
          rw [Leaps, hstage] at hn
          cases hn.1
      | ended =>
          simp only [Listener.step, hstage]
          refine iff_of_true hnone fun hn => ?_
          rw [Leaps, hstage] at hn
          cases hn.1
      | acknowledging =>
          simp only [Listener.step, hstage]
          constructor
          · rintro hall ⟨-, i, -, hi, hfailed⟩
            exact hall i hi hfailed
          · intro hleap i hi hfailed
            by_cases hold : i < l.committed
            · exact hnone i hold hfailed
            · exact hleap ⟨hstage, i, Nat.not_lt.mp hold, hi, hfailed⟩

theorem settled_iff_not_leaps (state : AlertState) (as : List BusAct) :
    (∀ t, Reached (Listener.step R es_retry) (.start state) as t →
        ∀ i < t.committed, t.Settled i) ↔
      ∀ v ∈ visits (Listener.step R es_retry) (.start state) as, ¬ Leaps v.1 v.2 := by
  have hstep : ∀ (l : Listener) (a : BusAct), True → Tracked R l ∧ NoneLost l →
      ((Tracked R (l.step R es_retry a) ∧ NoneLost (l.step R es_retry a)) ↔ ¬ Leaps l a) :=
    fun l a _ h => (and_iff_right (h.1.step a)).trans (noneLost_step h.1 h.2 a)
  have hstart : Tracked R (.start state) ∧ NoneLost (.start state) :=
    ⟨.start state, fun i hi => absurd hi (Nat.not_lt_zero i)⟩
  rw [← invariant_iff _ hstep (fun _ _ => trivial) hstart]
  refine forall_congr' fun t => forall_congr' fun ht => ?_
  obtain ⟨pre, -, rfl⟩ := ht
  have htracked : Tracked R (Run.run (Listener.step R es_retry) (.start state) pre) :=
    (Tracked.start state).run pre
  rw [← noneLost_iff htracked, and_iff_right htracked]

/-! ### What is handled -/

theorem log_step (a : BusAct) : l.log <+: (l.step R es_retry a).log := by
  cases a with
  | produce message => exact List.prefix_append _ _
  | stop => exact List.prefix_rfl
  | restart => exact List.prefix_rfl
  | request alerts => exact List.prefix_rfl
  | receive weather =>
      simp only [Listener.step]
      split
      · split
        · split
          · rename_i message hmessage
            obtain ⟨o, stage, state, heq, -⟩ :=
              callback_handles (R := R) es_retry l weather message
            rw [heq]
            exact List.prefix_rfl
          · exact List.prefix_rfl
        · exact List.prefix_rfl
      · exact List.prefix_rfl
  | acknowledge =>
      simp only [Listener.step]
      split
      · exact List.prefix_rfl
      · exact List.prefix_rfl
  | busError =>
      simp only [Listener.step]
      split
      · exact List.prefix_rfl
      · exact List.prefix_rfl

theorem log_run (as : List BusAct) : ∀ {l : Listener},
    l.log <+: (Run.run (Listener.step R es_retry) l as).log := by
  induction as with
  | nil =>
      intro l
      exact List.prefix_rfl
  | cons a as ih =>
      intro l
      exact (log_step a).trans ih

/-- The loop is at `receive` and goes on. -/
structure Listening (l : Listener) : Prop where
  stage : l.stage = .receiving
  running : l.is_running = true

variable (es_retry) in
/-- One text further. -/
theorem advance (hlistening : Listening l) {message : String}
    (hmessage : l.log[l.position]? = some message) (hclean : ¬ Poison R message) :
    ∃ bs, let l' := Run.run (Listener.step R es_retry) l bs
      Listening l' ∧ l'.position = l.position + 1 ∧ l'.log = l.log := by
  let weather : AlertMonitorService.Weather := ⟨0, none, fun _ => false, true, true⟩
  obtain ⟨o, stage, state, heq, hhandles⟩ :=
    callback_handles (R := R) es_retry l weather message
  have hreceive : l.step R es_retry (.receive weather) = l.handle o stage state := by
    simp only [Listener.step, hlistening.stage, hlistening.running, if_true, hmessage]
    exact heq
  cases stage with
  | receiving =>
      refine ⟨[.receive weather], ?_⟩
      dsimp only
      rw [run_cons, run_nil, hreceive]
      exact ⟨⟨rfl, hlistening.running⟩, rfl, rfl⟩
  | ended => exact absurd (hhandles.ends.mp rfl) hclean
  | acknowledging =>
      refine ⟨[.receive weather, .acknowledge], ?_⟩
      dsimp only
      rw [run_cons, run_cons, run_nil, hreceive]
      exact ⟨⟨rfl, hlistening.running⟩, rfl, rfl⟩

variable (es_retry) in
theorem advances (n : Nat) : ∀ {l : Listener}, Listening l → l.position + n ≤ l.log.length →
    (∀ j < l.position + n, ¬ ∃ t ∈ l.log[j]?, Poison R t) →
      ∃ bs, let l' := Run.run (Listener.step R es_retry) l bs
        Listening l' ∧ l'.position = l.position + n ∧ l'.log = l.log := by
  induction n with
  | zero =>
      intro l hlistening _ _
      exact ⟨[], hlistening, rfl, rfl⟩
  | succ n ih =>
      intro l hlistening hlen hclean
      have hlt : l.position < l.log.length := by omega
      have hmessage : l.log[l.position]? = some l.log[l.position] := List.getElem?_eq_getElem hlt
      have hnow : ¬ Poison R l.log[l.position] := fun hp =>
        hclean l.position (by omega) ⟨_, hmessage, hp⟩
      obtain ⟨bs, hlistening', hposition, hlog⟩ :=
        advance es_retry hlistening hmessage hnow
      obtain ⟨cs, hend⟩ := ih (l := Run.run (Listener.step R es_retry) l bs) hlistening'
        (by rw [hposition, hlog]; omega) (by
          intro j hj
          rw [hlog]
          exact hclean j (by omega))
      refine ⟨bs ++ cs, ?_⟩
      dsimp only at hend ⊢
      rw [run_append, hend.2.1, hend.2.2, hposition, hlog]
      exact ⟨hend.1, by omega, rfl⟩

variable (es_retry) in
/-- A text can be handled as long as none before it ends the loop. -/
theorem can_handle (h : Tracked R l) {i : Nat} (hi : i < l.log.length)
    (hclean : ∀ j < i, ¬ ∃ t ∈ l.log[j]?, Poison R t) :
    ∃ bs o, (i, o) ∈ (Run.run (Listener.step R es_retry) l bs).handled := by
  by_cases hseen : i < l.position
  · obtain ⟨o, ho⟩ := h.seen i hseen
    exact ⟨[], o, ho⟩
  · -- after a restart the consumer reads on from what was acknowledged
    let fresh := l.step R es_retry .restart
    have hbehind : fresh.position ≤ i := h.committed.trans (Nat.not_lt.mp hseen)
    obtain ⟨bs, hlistening, hposition, hlog⟩ :=
      advances (R := R) es_retry (i - fresh.position) (l := fresh) ⟨rfl, rfl⟩
        (by show fresh.position + (i - fresh.position) ≤ l.log.length; omega)
        (fun j hj => hclean j (by omega))
    have hat : (Run.run (Listener.step R es_retry) fresh bs).position = i := by
      rw [hposition]
      omega
    have hmessage : (Run.run (Listener.step R es_retry) fresh bs).log[i]? = some l.log[i] := by
      rw [hlog]
      exact List.getElem?_eq_getElem hi
    let weather : AlertMonitorService.Weather := ⟨0, none, fun _ => false, true, true⟩
    obtain ⟨o, stage, state, heq, -⟩ := callback_handles (R := R) es_retry
      (Run.run (Listener.step R es_retry) fresh bs) weather l.log[i]
    refine ⟨.restart :: (bs ++ [.receive weather]), o, ?_⟩
    have hreceive : (Run.run (Listener.step R es_retry) fresh bs).step R es_retry
        (.receive weather) =
          (Run.run (Listener.step R es_retry) fresh bs).handle o stage state := by
      simp only [Listener.step, hlistening.stage, hlistening.running, if_true, hat, hmessage]
      exact heq
    have hrun : Run.run (Listener.step R es_retry) l (.restart :: (bs ++ [.receive weather])) =
        (Run.run (Listener.step R es_retry) fresh bs).handle o stage state := by
      rw [run_cons, run_append, run_cons, run_nil]
      exact hreceive
    rw [hrun]
    exact List.mem_append_right _ (List.mem_singleton.mpr (by rw [hat]))

end Runs

/-- **The listener.**  In every run over the bus, with the texts, the failures and the
restarts in any order: what was acknowledged stays settled exactly when no acknowledgement is
made over an alert that could not be consumed; an acknowledgement follows a text that is
settled; and a text is handled in some continuation exactly when none before it ends the
loop. -/
theorem listener_exact (state : AlertState) (as : List BusAct) :
    let after := fun as => Run.run (Listener.step R es_retry) (.start state) as
    ((∀ t, Reached (Listener.step R es_retry) (.start state) as t →
          ∀ i < t.committed, t.Settled i) ↔
        ∀ v ∈ visits (Listener.step R es_retry) (.start state) as, ¬ Leaps v.1 v.2) ∧
      ((after as).stage = .acknowledging →
        ∃ i, i + 1 = (after as).position ∧ (after as).Settled i) ∧
      ∀ i < (after as).log.length,
        ((∃ bs o, (i, o) ∈ (after (as ++ bs)).handled) ↔
          ∀ j < i, ¬ ∃ t ∈ (after as).log[j]?, Poison R t) := by
  intro after
  have htracked : ∀ as, Tracked R (after as) := fun as => (Tracked.start state).run as
  have hrun : ∀ bs, after (as ++ bs) = Run.run (Listener.step R es_retry) (after as) bs :=
    fun bs => run_append _ as bs
  refine ⟨settled_iff_not_leaps state as, fun hstage => ?_, fun i hi => ?_⟩
  · obtain ⟨i, o, hlast, hmem, hne⟩ := (htracked as).acknowledging hstage
    refine ⟨i, hlast, o, hmem, hne, fun alert_uuid heq => ?_⟩
    exact (htracked as).recorded i alert_uuid (heq ▸ hmem)
  · constructor
    · rintro ⟨bs, o, hmem⟩ j hj
      obtain ⟨-, hbefore⟩ := (htracked (as ++ bs)).within i o hmem
      have hlog : (after as).log <+: (after (as ++ bs)).log := by
        rw [hrun]
        exact log_run bs
      obtain ⟨more, hmore⟩ := hlog
      have hsame : (after (as ++ bs)).log[j]? = (after as).log[j]? := by
        rw [← hmore]
        exact List.getElem?_append_left (hj.trans hi)
      rw [← hsame]
      exact hbefore j hj
    · intro hclean
      obtain ⟨bs, o, hmem⟩ := can_handle es_retry (htracked as) hi hclean
      refine ⟨bs, o, ?_⟩
      rw [hrun]
      exact hmem

end CortxCsm.AlertBus
