/-
# `CortxCsm.AlertNotices` — which alerts the clients are told of

`_consume` of `archive/core/services/alerts.py` hands what it has recorded to its listeners; the
one that is ever added is `AlertHttpNotifyService.handle_alert`, which pushes the alert to the
clients of the web socket.  It is added when an alert is stored and removed when one is resolved
or updated, whichever sensor they are of.

| the message | the listener | the clients are told |
| :-- | :-- | :-- |
| stored as a new alert | is added | yes |
| resolves or updates the open alerts | is removed | no |
| is a duplicate, or in no known state | stays as it is | if it is there |
| cannot be recorded | stays as it is | no |

**Proved here.**

    the alerts are those of `AlertMonitorService._consume`    (`alerts_of_consume`)
    a message is told exactly if it is new, or is a repetition
    and what was last stored or updated had been stored       (`alerts_told_exact`)
-/
import CortxCsm.Redelivery

namespace CortxCsm

namespace AlertNotices

open AlertRepository AlertMonitorService Redelivery Run

/-! ## The monitor and its listener -/

/-- The collections, whether the listener is among `_observers`, and what it has pushed. -/
structure Monitor where
  store : AlertState
  listens : Bool
  pushed : List AlertModel

def Monitor.start (store : AlertState) : Monitor := ⟨store, false, []⟩

/-- What `_resolve_alert` returns. -/
def alert_updated (new_alert : Message) (prev_alert : AlertModel) : Bool :=
  !_is_duplicate_alert new_alert prev_alert &&
    (_is_good_alert new_alert.state || _is_bad_alert new_alert.state)

/-- How a message is recorded. -/
inductive Recording
  | stored
  | updated
  | repeated
  deriving DecidableEq

def recording (message : Message) : (prev_alert : Option AlertModel) → Recording
  | none => .stored
  | some prev_alert => if alert_updated message prev_alert then .updated else .repeated

/-- `add_listener` and `remove_listener`. -/
def listening (listens : Bool) : Recording → Bool
  | .stored => true
  | .updated => false
  | .repeated => listens

/-- The alert that the listeners are given. -/
def announced (message : Message) : (prev_alert : Option AlertModel) → AlertModel
  | none => firstAlert message
  | some prev_alert =>
      if alert_updated message prev_alert then
        { AlertModel.ofMessage message with alert_uuid := prev_alert.alert_uuid }
      else .ofMessage message

/-- `_notify_listeners`, and `none` where the push raises. -/
def _notify_listeners (pushes listens : Bool) (alert : AlertModel) (pushed : List AlertModel) :
    Option (List AlertModel) :=
  if listens then
    if pushes then some (pushed ++ [alert]) else none
  else some pushed

/-- `_consume`, with the listener; `pushes` says that a push does not raise. -/
def _consume (es_retry : Nat) (weather : Weather) (pushes : Bool) (message : Message)
    (self : Monitor) : Bool × Monitor :=
  let message := supported weather message
  let prev_alert := _get_previous_alert es_retry weather self.store.alerts message.sensor_info
    message.module_type
  match recorded weather message self.store.alerts prev_alert with
  | none => (false, self)
  | some alerts =>
      let listens := listening self.listens (recording message prev_alert)
      match _notify_listeners pushes listens (announced message prev_alert) self.pushed with
      | none => (false, ⟨⟨alerts, self.store.history⟩, listens, self.pushed⟩)
      | some pushed =>
          if weather.archives then
            (true, ⟨⟨alerts, self.store.history.upsert (.ofMessage message)⟩, listens, pushed⟩)
          else (false, ⟨⟨alerts, self.store.history⟩, listens, pushed⟩)

/-- A call to the services, and whether a push that it makes gets through. -/
structure MonitorCall where
  call : AlertCall
  pushes : Bool

def step (es_retry : Nat) (self : Monitor) (c : MonitorCall) : Monitor :=
  match c.call with
  | .consume weather message => (_consume es_retry weather c.pushes message self).2
  | call => { self with store := call.step es_retry self.store }

/-- The previous alert that `_consume` goes by. -/
def previous (es_retry : Nat) (weather : Weather) (message : Message) (s : AlertState) :
    Option AlertModel :=
  let message := supported weather message
  _get_previous_alert es_retry weather s.alerts message.sensor_info message.module_type

/-- How a message is recorded in that state, if it is. -/
def recordedAs (es_retry : Nat) (weather : Weather) (message : Message) (s : AlertState) :
    Option Recording :=
  (recorded weather (supported weather message) s.alerts (previous es_retry weather message s)).map
    fun _ => recording (supported weather message) (previous es_retry weather message s)

/-- The call records a message that way. -/
def Records (es_retry : Nat) (r : Recording) (self : Monitor) (c : MonitorCall) : Prop :=
  ∃ weather message, c.call = .consume weather message ∧
    recordedAs es_retry weather message self.store = some r

/-- One alert more has been pushed. -/
def Told (self self' : Monitor) : Prop := ∃ alert, self'.pushed = self.pushed ++ [alert]

/-! ## One message -/

variable {es_retry : Nat} {weather : Weather} {pushes : Bool} {message : Message} {self : Monitor}

/-- What a message does to the listener and the clients. -/
inductive Tells (es_retry : Nat) (weather : Weather) (pushes : Bool) (message : Message)
    (self self' : Monitor) : Prop
  | unrecorded (hr : recordedAs es_retry weather message self.store = none) (h : self' = self)
  | recorded (r : Recording) (hr : recordedAs es_retry weather message self.store = some r)
      (hlistens : self'.listens = listening self.listens r)
      (htold : Told self self' ↔ pushes = true ∧ self'.listens = true)

theorem told_notify {listens : Bool} {alert : AlertModel} {store : AlertState} :
    (∀ pushed, _notify_listeners pushes listens alert self.pushed = some pushed →
      (Told self ⟨store, listens, pushed⟩ ↔ pushes = true ∧ listens = true)) ∧
    (_notify_listeners pushes listens alert self.pushed = none →
      (Told self ⟨store, listens, self.pushed⟩ ↔ pushes = true ∧ listens = true)) := by
  have hsame : ¬ Told self ⟨store, listens, self.pushed⟩ := by
    rintro ⟨alert, h⟩
    have hlength := congrArg List.length h
    simp at hlength
  unfold _notify_listeners
  cases listens with
  | false =>
      refine ⟨fun pushed h => ?_, fun h => (by cases h)⟩
      cases h
      exact iff_of_false hsame fun h => Bool.noConfusion h.2
  | true =>
      cases pushes with
      | false =>
          refine ⟨fun pushed h => (by cases h), fun _ => ?_⟩
          exact iff_of_false hsame fun h => Bool.noConfusion h.1
      | true =>
          refine ⟨fun pushed h => ?_, fun h => (by cases h)⟩
          cases h
          exact iff_of_true ⟨alert, rfl⟩ ⟨rfl, rfl⟩

theorem consume_tells (es_retry : Nat) (weather : Weather) (pushes : Bool) (message : Message)
    (self : Monitor) :
    Tells es_retry weather pushes message self
      (_consume es_retry weather pushes message self).2 := by
  have hprevious : _get_previous_alert es_retry weather self.store.alerts
      (supported weather message).sensor_info (supported weather message).module_type =
        previous es_retry weather message self.store := rfl
  unfold _consume
  dsimp only
  rw [hprevious]
  cases hrecorded : recorded weather (supported weather message) self.store.alerts
      (previous es_retry weather message self.store) with
  | none =>
      refine .unrecorded ?_ rfl
      unfold recordedAs
      rw [hrecorded, Option.map_none]
  | some alerts =>
      have hr : recordedAs es_retry weather message self.store =
          some (recording (supported weather message)
            (previous es_retry weather message self.store)) := by
        unfold recordedAs
        rw [hrecorded, Option.map_some]
      dsimp only
      cases hnotify : _notify_listeners pushes _ _ self.pushed with
      | none => exact .recorded _ hr rfl (told_notify.2 hnotify)
      | some pushed =>
          dsimp only
          split
          · exact .recorded _ hr rfl (told_notify.1 pushed hnotify)
          · exact .recorded _ hr rfl (told_notify.1 pushed hnotify)

/-- An alert that is announced while the listener is there has the id of its message. -/
theorem announced_of_listening {message : Message} {prev_alert : Option AlertModel} {listens : Bool}
    (h : listening listens (recording message prev_alert) = true) :
    (announced message prev_alert).alert_uuid = message.alert_uuid ∧
      (announced message prev_alert).state = message.state := by
  cases prev_alert with
  | none =>
      unfold announced
      dsimp only
      by_cases hgood : _is_good_alert message.state = true
      · rw [firstAlert, if_pos hgood]
        exact ⟨rfl, rfl⟩
      · rw [firstAlert, if_neg hgood]
        exact ⟨rfl, rfl⟩
  | some prev_alert =>
      unfold announced
      unfold recording at h
      dsimp only at h ⊢
      cases hupdated : alert_updated message prev_alert with
      | false => exact ⟨rfl, rfl⟩
      | true =>
          rw [hupdated] at h
          cases h

theorem notify_cases {listens : Bool} {alert : AlertModel} {pushed pushed' : List AlertModel}
    (h : _notify_listeners pushes listens alert pushed = some pushed') :
    pushed' = pushed ∨ listens = true ∧ pushed' = pushed ++ [alert] := by
  unfold _notify_listeners at h
  cases listens with
  | false =>
      cases h
      exact .inl rfl
  | true =>
      cases pushes with
      | false => cases h
      | true =>
          cases h
          exact .inr ⟨rfl, rfl⟩

/-- Nothing is pushed, or one alert with the id of the message. -/
theorem pushed_consume (es_retry : Nat) (weather : Weather) (pushes : Bool) (message : Message)
    (self : Monitor) :
    (_consume es_retry weather pushes message self).2.pushed = self.pushed ∨
      ∃ alert, (_consume es_retry weather pushes message self).2.pushed = self.pushed ++ [alert] ∧
        alert.alert_uuid = message.alert_uuid ∧ alert.state = message.state := by
  obtain ⟨text, hsupported⟩ := supported_eq weather message
  unfold _consume
  rw [hsupported]
  dsimp only
  cases recorded weather _ self.store.alerts _ with
  | none => exact .inl rfl
  | some alerts =>
      dsimp only
      cases hnotify : _notify_listeners pushes _ _ self.pushed with
      | none => exact .inl rfl
      | some pushed =>
          have hpushed : pushed = self.pushed ∨ ∃ alert, pushed = self.pushed ++ [alert] ∧
              alert.alert_uuid = message.alert_uuid ∧ alert.state = message.state := by
            rcases notify_cases hnotify with hsame | ⟨hlistens, hone⟩
            · exact .inl hsame
            · exact .inr ⟨_, hone, announced_of_listening hlistens⟩
          dsimp only
          split
          · exact hpushed
          · exact hpushed

/-- The listener does not matter to the alerts. -/
theorem alerts_of_consume (es_retry : Nat) (weather : Weather) (pushes : Bool) (message : Message)
    (self : Monitor) :
    (_consume es_retry weather pushes message self).2.store.alerts =
      (AlertMonitorService._consume es_retry weather message self.store).2.alerts := by
  unfold _consume AlertMonitorService._consume
  dsimp only
  cases recorded weather (supported weather message) self.store.alerts
      (_get_previous_alert es_retry weather self.store.alerts
        (supported weather message).sensor_info (supported weather message).module_type) with
  | none => rfl
  | some alerts =>
      dsimp only
      cases _notify_listeners pushes _ _ self.pushed with
      | none =>
          cases weather.archives with
          | false => rfl
          | true => rfl
      | some pushed =>
          dsimp only
          cases weather.archives with
          | false => rfl
          | true => rfl

/-! ## Runs -/

variable {c : MonitorCall}

theorem step_consume (h : c.call = .consume weather message) :
    step es_retry self c = (_consume es_retry weather c.pushes message self).2 := by
  unfold step
  rw [h]

/-- What a call does to the listener. -/
theorem listens_step (es_retry : Nat) (self : Monitor) (c : MonitorCall) :
    (Records es_retry .stored self c → (step es_retry self c).listens = true) ∧
      (Records es_retry .updated self c → (step es_retry self c).listens = false) ∧
      (¬ Records es_retry .stored self c → ¬ Records es_retry .updated self c →
        (step es_retry self c).listens = self.listens) := by
  have hrecords : ∀ r, Records es_retry r self c →
      (step es_retry self c).listens = listening self.listens r := by
    rintro r ⟨weather, message, hcall, hr⟩
    rw [step_consume hcall]
    cases consume_tells es_retry weather c.pushes message self with
    | unrecorded hnone => cases hnone.symm.trans hr
    | recorded r' hr' hlistens =>
        cases hr'.symm.trans hr
        exact hlistens
  refine ⟨hrecords .stored, hrecords .updated, fun hstored hupdated => ?_⟩
  cases hcall : c.call with
  | consume weather message =>
      rw [step_consume hcall]
      cases consume_tells es_retry weather c.pushes message self with
      | unrecorded _ h => rw [h]
      | recorded r hr hlistens =>
          cases r with
          | stored => exact absurd ⟨weather, message, hcall, hr⟩ hstored
          | updated => exact absurd ⟨weather, message, hcall, hr⟩ hupdated
          | repeated => exact hlistens
  | update_alert now raises alert_id acknowledged =>
      unfold step
      rw [hcall]
  | update_all_alerts now raises alert_ids =>
      unfold step
      rw [hcall]

/-- What was last stored or updated in a run had been stored. -/
def StoredLast (es_retry : Nat) (store : AlertState) (calls : List MonitorCall) : Prop :=
  ∃ before v after, visits (step es_retry) (.start store) calls = before ++ v :: after ∧
    Records es_retry .stored v.1 v.2 ∧ ∀ w ∈ after, ¬ Records es_retry .updated w.1 w.2

theorem listens_iff (es_retry : Nat) (store : AlertState) (calls : List MonitorCall) :
    (run (step es_retry) (.start store) calls).listens = true ↔
      StoredLast es_retry store calls := by
  refine Iff.trans (flag_run_iff (fun self c => (listens_step es_retry self c).1)
    (fun self c => (listens_step es_retry self c).2.1)
    fun self c => (listens_step es_retry self c).2.2) ?_
  exact or_iff_right fun h => Bool.noConfusion h.1

/-! ## A message that comes twice -/

/-- A message is told on the listener that it leaves. -/
theorem told_iff :
    Told self (_consume es_retry weather pushes message self).2 ↔
      pushes = true ∧ (recordedAs es_retry weather message self.store = some .stored ∨
        recordedAs es_retry weather message self.store = some .repeated ∧ self.listens = true) := by
  cases consume_tells es_retry weather pushes message self with
  | unrecorded hr h =>
      rw [hr, h]
      refine iff_of_false ?_ fun h => ?_
      · rintro ⟨alert, halert⟩
        have hlength := congrArg List.length halert
        simp at hlength
      · rcases h.2 with h | ⟨h, -⟩
        · cases h
        · cases h
  | recorded r hr hlistens htold =>
      rw [htold, hr, hlistens]
      cases r with
      | stored => simp [listening]
      | updated => simp [listening]
      | repeated => simp [listening]

/-- With the previous alert fetched and the writes done, what is open for the sensor decides. -/
theorem recordedAs_fair (hfair : Fair es_retry weather) (hfresh : Fresh message) (s : AlertState) :
    recordedAs es_retry weather message s = some (recording message
      (retrieve_by_sensor_info s.alerts message.sensor_info message.module_type)) := by
  obtain ⟨text, hsupported⟩ := supported_eq weather message
  have hfresh' : Fresh { message with support_message := text } :=
    ⟨hfresh.acknowledged, hfresh.resolved⟩
  obtain ⟨alerts, hrecorded, -⟩ := recorded_delivers hfair.stores hfresh' s.alerts
  have hfetch : previous es_retry weather message s =
      retrieve_by_sensor_info s.alerts message.sensor_info message.module_type := by
    unfold previous
    rw [hsupported]
    rcases get_previous_alert_cases es_retry weather s.alerts message.sensor_info
      message.module_type with ⟨hunfetched, -⟩ | ⟨-, heq⟩
    · exact absurd hunfetched hfair.fetched
    · exact heq
  have hrecording : ∀ prev_alert, recording { message with support_message := text } prev_alert =
      recording message prev_alert
    | none => rfl
    | some _ => rfl
  unfold recordedAs
  rw [hsupported, hfetch, hrecorded, Option.map_some, hrecording]

/-- What is open for the sensor after a delivery that is recorded in one way. -/
theorem recording_again {alerts once : AlertStore} (h : Delivers message alerts once)
    (hopen : retrieve_by_sensor_info once message.sensor_info message.module_type ≠ none) :
    let first := recording message
      (retrieve_by_sensor_info alerts message.sensor_info message.module_type)
    let again := recording message
      (retrieve_by_sensor_info once message.sensor_info message.module_type)
    again = .repeated ∨ again = .updated ∧ first = .updated := by
  intro first again
  obtain ⟨prev_alert, hprev⟩ := Option.ne_none_iff_exists'.mp hopen
  have hagain : again = if alert_updated message prev_alert then .updated else .repeated := by
    show recording message _ = _
    rw [hprev]
    rfl
  rcases h.retrieved hprev with hstate | ⟨hsame, -⟩
  · have hdup : alert_updated message prev_alert = false := by
      simp [alert_updated, _is_duplicate_alert, hstate]
    rw [hagain, hdup]
    exact .inl rfl
  · cases hupdated : alert_updated message prev_alert with
    | false =>
        rw [hagain, hupdated]
        exact .inl rfl
    | true =>
        have hfirst : first = again := by
          show recording message _ = recording message _
          rw [hsame]
        rw [hfirst, hagain, hupdated]
        exact .inr ⟨rfl, rfl⟩

/-- A message without marks of its own (`Fresh`) that is delivered twice, with both deliveries
fetching and writing (`Fair`) and both pushes getting through, is told again exactly if it was
told, or if its first delivery has resolved alerts that were all acknowledged. -/
theorem told_again_iff (hfresh : Fresh message) (hfair : Fair es_retry weather) {again : Weather}
    (hagain : Fair es_retry again) (self : Monitor) :
    let once := (_consume es_retry weather true message self).2
    Told once (_consume es_retry again true message once).2 ↔
      Told self once ∨ Closes message self.store.alerts := by
  intro once
  have hdelivers : Delivers message self.store.alerts once.store.alerts := by
    rw [alerts_of_consume]
    exact consume_delivers hfair hfresh self.store
  have hfirst := recordedAs_fair hfair hfresh self.store
  have hsecond := recordedAs_fair hagain hfresh once.store
  have hlistens : once.listens = listening self.listens (recording message
      (retrieve_by_sensor_info self.store.alerts message.sensor_info message.module_type)) := by
    cases consume_tells es_retry weather true message self with
    | unrecorded hr _ => cases hr.symm.trans hfirst
    | recorded r hr h _ =>
        cases hr.symm.trans hfirst
        exact h
  rw [told_iff, told_iff, hfirst, hsecond, ← hdelivers.closes_iff hfresh]
  simp only [true_and, Option.some.injEq]
  by_cases hopen : retrieve_by_sensor_info once.store.alerts message.sensor_info
      message.module_type = none
  · exact iff_of_true (.inl (by rw [hopen]; rfl)) (.inr hopen)
  · rw [or_iff_left hopen]
    rcases recording_again hdelivers hopen with hrepeated | ⟨hupdated, hbefore⟩
    · rw [hrepeated, hlistens]
      cases recording message _ with
      | stored => simp [listening]
      | updated => simp [listening]
      | repeated => simp [listening]
    · rw [hupdated, hbefore]
      simp

/-! ## Which alerts are told -/

/-- **What the clients are told.**  After any run of messages and requests, with anything failing,
a message is pushed to the clients exactly if its push gets through and it is stored as a new
alert, or repeats one, or is in no known state, while what was last stored or updated, for any
sensor, had been stored: no alert is ever told that resolves or updates another.  Delivered twice
in a row without marks of its own (`Fresh`), with the previous alert fetched and the writes done
both times (`Fair`) and both pushes getting through, it is told the second time exactly if it was
the first time, or if the first delivery has resolved alerts that were all acknowledged. -/
theorem alerts_told_exact (es_retry : Nat) (store : AlertState) (calls : List MonitorCall)
    (weather : Weather) (message : Message) :
    let self := run (step es_retry) (.start store) calls
    let after := fun pushes => (_consume es_retry weather pushes message self).2
    (∀ pushes, Told self (after pushes) ↔ pushes = true ∧
        (recordedAs es_retry weather message self.store = some .stored ∨
          recordedAs es_retry weather message self.store = some .repeated ∧
            StoredLast es_retry store calls)) ∧
      (∀ pushes, (after pushes).pushed = self.pushed ∨
        ∃ alert, (after pushes).pushed = self.pushed ++ [alert] ∧
          alert.alert_uuid = message.alert_uuid ∧ alert.state = message.state) ∧
      (Fresh message → Fair es_retry weather → ∀ again, Fair es_retry again →
        (Told (after true) (_consume es_retry again true message (after true)).2 ↔
          Told self (after true) ∨ Closes message self.store.alerts)) := by
  intro self after
  refine ⟨fun pushes => ?_, fun pushes => ?_, fun hfresh hfair again hagain => ?_⟩
  · rw [told_iff, ← listens_iff]
  · exact pushed_consume es_retry weather pushes message self
  · exact told_again_iff hfresh hfair hagain self

/-- The resolution of an acknowledged fault is told when it comes the second time. -/
theorem alerts_told_exact_resolution :
    let self := run (step 1) (.start acknowledgedOnly) []
    let once := (_consume 1 calm true faultResolved self).2
    ¬ Told self once ∧ Told once (_consume 1 calm true faultResolved once).2 := by
  intro self once
  obtain ⟨htold, -, hagain⟩ := alerts_told_exact 1 acknowledgedOnly [] calm faultResolved
  refine ⟨fun h => ?_, (hagain ⟨rfl, rfl⟩ fair_calm calm fair_calm).mpr
    (.inr closes_acknowledgedOnly)⟩
  have hupdated : recordedAs 1 calm faultResolved self.store = some .updated := by decide +kernel
  rw [htold true, hupdated] at h
  rcases h.2 with h | h
  · cases h
  · cases h.1

end AlertNotices

end CortxCsm
