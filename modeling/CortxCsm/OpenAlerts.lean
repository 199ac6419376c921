/-
# `CortxCsm.OpenAlerts` — one open alert for each sensor

An alert is closed by two marks, `acknowledged` and `resolved`, which users and messages set
independently.  Whatever a call writes is one of four things:

| | |
| :-- | :-- |
| a first alert | a new row, or one over an alert of the same id |
| a duplicate | over the previous open alert of the sensor |
| an update | all open alerts of the sensor, where they stand |
| an acknowledgement | over the alert of the id, if it is not closed already |

Only the first can open a second alert, and it does where the fetch of the previous one has
failed for good: `_get_previous_alert` then returns what it returns when there is none.

**Proved here.**

    what consuming a message does                  (`consume_cases`)
    what each write keeps                          (`OneOpen.replace`, …)
    exactly a blind insertion breaks it            (`oneOpen_step`)
    in every state of every run                    (`one_open_iff`)
-/
import CortxCsm.Alerts

namespace CortxCsm

/-- Not both acknowledged and resolved. -/
def AlertModel.Open (alert : AlertModel) : Prop :=
  ¬ (alert.acknowledged = true ∧ alert.resolved = true)

instance (alert : AlertModel) : Decidable alert.Open := inferInstanceAs (Decidable (¬ _))

/-- Two alerts about one sensor. -/
def AlertModel.SameSensor (alert other : AlertModel) : Prop :=
  alert.sensor_info = other.sensor_info ∧ alert.module_type = other.module_type

namespace AlertRepository

theorem openFor_iff {sensor_info module_type : String} {alert : AlertModel} :
    openFor sensor_info module_type alert = true ↔
      (alert.sensor_info = sensor_info ∧ alert.module_type = module_type) ∧ alert.Open := by
  unfold openFor AlertModel.Open
  rw [not_and_or]
  simp

theorem retrieve_by_sensor_info_eq_some {alerts : AlertStore} {sensor_info module_type : String}
    {alert : AlertModel} (h : retrieve_by_sensor_info alerts sensor_info module_type = some alert) :
    alert ∈ alerts ∧ (alert.sensor_info = sensor_info ∧ alert.module_type = module_type) ∧
      alert.Open :=
  ⟨List.mem_of_find?_eq_some h, openFor_iff.mp (List.find?_some h)⟩

theorem retrieve_by_sensor_info_eq_none {alerts : AlertStore} {sensor_info module_type : String}
    (h : retrieve_by_sensor_info alerts sensor_info module_type = none) :
    ∀ alert ∈ alerts, alert.Open →
      ¬ (alert.sensor_info = sensor_info ∧ alert.module_type = module_type) := by
  intro alert hmem hopen hsensor
  exact List.find?_eq_none.mp h alert hmem (openFor_iff.mpr ⟨hsensor, hopen⟩)

end AlertRepository

namespace AlertMonitorService

open AlertRepository

/-! ## What consuming a message does -/

variable {es_retry : Nat} {weather : Weather} {message : Message} {s : AlertState}

/-- Nothing but the support text is added. -/
theorem supported_eq (weather : Weather) (message : Message) :
    ∃ text, supported weather message = { message with support_message := text } := by
  unfold supported
  split
  · split
    · exact ⟨_, rfl⟩
    · exact ⟨message.support_message, rfl⟩
  · exact ⟨message.support_message, rfl⟩

/-- No state is good and bad. -/
theorem not_bad_of_good {state : String} (h : _is_good_alert state = true) :
    _is_bad_alert state = false := by
  have hall : ∀ state ∈ GOOD_ALERT, _is_bad_alert state = false := by decide
  exact hall state (of_decide_eq_true h)

/-- The mark `resolved` that an update gives the open alerts of the sensor. -/
def Marks (new_alert : Message) (prev_alert : AlertModel) (resolved : Bool) : Prop :=
  (_is_good_alert new_alert.state = true ∧
    ((_is_good_alert prev_alert.state = true ∧ resolved = prev_alert.resolved) ∨
      (_is_good_alert prev_alert.state = false ∧ prev_alert.resolved = false ∧ resolved = true))) ∨
  (_is_bad_alert new_alert.state = true ∧
    ((_is_bad_alert prev_alert.state = true ∧ resolved = prev_alert.resolved) ∨
      (_is_bad_alert prev_alert.state = false ∧ resolved = new_alert.resolved)))

/-- What is written over the alert `prev_alert` by a duplicate of it. -/
def duplicate (weather : Weather) (new_alert : Message) (prev_alert : AlertModel) : AlertModel :=
  { AlertModel.ofMessage new_alert with
    alert_uuid := prev_alert.alert_uuid
    resolved := prev_alert.resolved
    acknowledged := prev_alert.acknowledged
    comments := prev_alert.comments
    updated_time := weather.now }

theorem update_alert_eq_some {flag update_resolve : Bool} {prev_alert : AlertModel}
    {alerts alerts' : AlertStore}
    (h : _update_alert weather flag message prev_alert update_resolve alerts = some alerts') :
    alerts' = update_by_sensor_info alerts prev_alert.sensor_info prev_alert.module_type
      (updateParams weather flag message prev_alert update_resolve) := by
  unfold _update_alert at h
  split at h
  · exact (Option.some.inj h).symm
  · cases h

/-- Nothing, or an update of what is open for the sensor of the previous alert. -/
def Updates (message : Message) (prev_alert : AlertModel) (alerts alerts' : AlertStore) : Prop :=
  alerts' = alerts ∨ ∃ update_params : UpdateParams, update_params.state = message.state ∧
    Marks message prev_alert update_params.resolved ∧
    alerts' = update_by_sensor_info alerts prev_alert.sensor_info prev_alert.module_type
      update_params

theorem resolveGood_updates {prev_alert : AlertModel} {alerts alerts' : AlertStore}
    (hnew : _is_good_alert message.state = true)
    (h : resolveGood weather message prev_alert alerts = some alerts') :
    Updates message prev_alert alerts alerts' := by
  unfold resolveGood at h
  rw [if_pos hnew] at h
  split at h
  · rename_i hprev
    exact .inr ⟨_, rfl, .inl ⟨hnew, .inl ⟨hprev, rfl⟩⟩, update_alert_eq_some h⟩
  · rename_i hprev
    unfold _resolve at h
    split at h
    · cases h
      exact .inl rfl
    · rename_i hresolved
      have hupdate := update_alert_eq_some h
      refine .inr ⟨_, ?_, ?_, hupdate⟩
      · rfl
      · exact .inl ⟨hnew, .inr ⟨eq_false_of_ne_true hprev, eq_false_of_ne_true hresolved, rfl⟩⟩

theorem resolveBad_updates {prev_alert : AlertModel} {alerts alerts' : AlertStore}
    (h : resolveBad weather message prev_alert alerts = some alerts') :
    Updates message prev_alert alerts alerts' := by
  unfold resolveBad at h
  split at h
  · rename_i hnew
    split at h
    · rename_i hprev
      exact .inr ⟨_, rfl, .inr ⟨hnew, .inl ⟨hprev, rfl⟩⟩, update_alert_eq_some h⟩
    · rename_i hprev
      exact .inr ⟨_, rfl, .inr ⟨hnew, .inr ⟨eq_false_of_ne_true hprev, rfl⟩⟩,
        update_alert_eq_some h⟩
  · cases h
    exact .inl rfl

/-- `_resolve_alert`: a duplicate, or what one of the two halves does. -/
theorem resolve_alert_cases {prev_alert : AlertModel} {alerts alerts' : AlertStore}
    (h : _resolve_alert weather message prev_alert alerts = some alerts') :
    (message.state = prev_alert.state ∧
      alerts' = alerts.upsert (duplicate weather message prev_alert)) ∨
    Updates message prev_alert alerts alerts' := by
  unfold _resolve_alert at h
  split at h
  · rename_i hdup
    have hstate : message.state = prev_alert.state := of_decide_eq_true hdup
    cases h
    unfold _update_duplicate_alert
    split
    · exact .inl ⟨hstate, rfl⟩
    · exact .inr (.inl rfl)
  · obtain ⟨mid, hgood, hbad⟩ := Option.bind_eq_some_iff.mp h
    by_cases hnew : _is_good_alert message.state = true
    · unfold resolveBad at hbad
      rw [not_bad_of_good hnew, if_neg Bool.false_ne_true] at hbad
      cases hbad
      exact .inr (resolveGood_updates hnew hgood)
    · unfold resolveGood at hgood
      rw [if_neg hnew] at hgood
      cases hgood
      exact .inr (resolveBad_updates hbad)

/-- All attempts to fetch the previous alert raise. -/
def Unfetched (es_retry : Nat) (weather : Weather) : Prop :=
  ∀ k < es_retry, weather.raises k = true

theorem get_previous_alert_cases (es_retry : Nat) (weather : Weather) (alerts : AlertStore)
    (sensor_info module_type : String) :
    (Unfetched es_retry weather ∧
      _get_previous_alert es_retry weather alerts sensor_info module_type = none) ∨
    (¬ Unfetched es_retry weather ∧
      _get_previous_alert es_retry weather alerts sensor_info module_type =
        retrieve_by_sensor_info alerts sensor_info module_type) := by
  have hpassed : passed weather.raises es_retry 0 = none ↔
      ∀ k < es_retry, weather.raises (0 + k) = true := passed_eq_none
  simp only [Nat.zero_add] at hpassed
  unfold _get_previous_alert
  cases h : passed weather.raises es_retry 0 with
  | none => exact .inl ⟨hpassed.mp h, rfl⟩
  | some n =>
      refine .inr ⟨fun hall => ?_, rfl⟩
      rw [hpassed.mpr hall] at h
      cases h

/-- The archive does not matter to the alerts. -/
theorem consume_alerts (es_retry : Nat) (weather : Weather) (message : Message) (s : AlertState) :
    let m := supported weather message
    let alerts := (_consume es_retry weather message s).2.alerts
    alerts = s.alerts ∨ recorded weather m s.alerts
      (_get_previous_alert es_retry weather s.alerts m.sensor_info m.module_type) =
        some alerts := by
  intro m alerts
  show (_consume es_retry weather message s).2.alerts = _ ∨
    _ = some (_consume es_retry weather message s).2.alerts
  unfold _consume
  dsimp only
  cases hrec : recorded weather m s.alerts
      (_get_previous_alert es_retry weather s.alerts m.sensor_info m.module_type) with
  | none => exact .inl rfl
  | some alerts' =>
      dsimp only
      split
      · exact .inr rfl
      · exact .inr rfl

theorem recorded_first {alerts alerts' : AlertStore}
    (h : recorded weather message alerts none = some alerts') :
    weather.stores = true ∧ alerts' = alerts.upsert (firstAlert message) := by
  simp only [recorded] at h
  split at h
  · rename_i hstores
    exact ⟨hstores, (Option.some.inj h).symm⟩
  · cases h

/-- Consuming a message: nothing is written; a first alert is, the previous one being unfetched
or not there; or the previous open alert is found, and is written over by a duplicate or updated
with all that are open for the sensor. -/
theorem consume_cases (es_retry : Nat) (weather : Weather) (message : Message) (s : AlertState) :
    let m := supported weather message
    let alerts := (_consume es_retry weather message s).2.alerts
    alerts = s.alerts ∨
    ((Unfetched es_retry weather ∨
        retrieve_by_sensor_info s.alerts m.sensor_info m.module_type = none) ∧
      weather.stores = true ∧ alerts = s.alerts.upsert (firstAlert m)) ∨
    ∃ prev_alert, retrieve_by_sensor_info s.alerts m.sensor_info m.module_type = some prev_alert ∧
      ((m.state = prev_alert.state ∧
          alerts = s.alerts.upsert (duplicate weather m prev_alert)) ∨
        ∃ update_params : UpdateParams, update_params.state = m.state ∧
          Marks m prev_alert update_params.resolved ∧
          alerts = update_by_sensor_info s.alerts m.sensor_info m.module_type update_params) := by
  intro m alerts
  rcases consume_alerts es_retry weather message s with h | h
  · exact .inl h
  rcases get_previous_alert_cases es_retry weather s.alerts m.sensor_info m.module_type with
    ⟨hunfetched, hprev⟩ | ⟨-, hprev⟩
  · rw [hprev] at h
    exact .inr (.inl ⟨.inl hunfetched, recorded_first h⟩)
  · rw [hprev] at h
    cases hfetch : retrieve_by_sensor_info s.alerts m.sensor_info m.module_type with
    | none =>
        rw [hfetch] at h
        exact .inr (.inl ⟨.inr rfl, recorded_first h⟩)
    | some prev_alert =>
        rw [hfetch] at h
        obtain ⟨-, ⟨hsensor, hmodule⟩, -⟩ := retrieve_by_sensor_info_eq_some hfetch
        rcases resolve_alert_cases h with hdup | hsame | hupdate
        · exact .inr (.inr ⟨prev_alert, rfl, .inl hdup⟩)
        · exact .inl hsame
        · rw [hsensor, hmodule] at hupdate
          exact .inr (.inr ⟨prev_alert, rfl, .inr hupdate⟩)

/-- A message whose previous alert cannot be fetched is stored as a first one. -/
theorem consume_unfetched (hunfetched : Unfetched es_retry weather) (hstores : weather.stores = true) :
    (_consume es_retry weather message s).2.alerts =
      s.alerts.upsert (firstAlert (supported weather message)) := by
  rcases get_previous_alert_cases es_retry weather s.alerts
    (supported weather message).sensor_info (supported weather message).module_type with
    ⟨-, hprev⟩ | ⟨hfetched, -⟩
  · unfold _consume
    dsimp only
    rw [hprev, recorded, if_pos hstores]
    dsimp only
    split
    · rfl
    · rfl
  · exact absurd hunfetched hfetched

end AlertMonitorService

namespace AlertsAppService

open AlertRepository

/-! ## What the requests do -/

/-- `update_alert` writes nothing, or over an open alert of the id. -/
theorem update_alert_cases (now : Int) (raises : Bool) (alert_id : String)
    (acknowledged : Option Bool) (s : AlertState) :
    (update_alert now raises alert_id acknowledged s).2.alerts = s.alerts ∨
    ∃ alert ∈ s.alerts, raises = false ∧ alert.alert_uuid = alert_id ∧ alert.Open ∧
      (update_alert now raises alert_id acknowledged s).2.alerts = s.alerts.upsert
        (match acknowledged with
          | some acknowledged => acknowledge now acknowledged alert
          | none => alert) := by
  unfold update_alert
  split
  · exact .inl rfl
  · rename_i hraises
    cases hfind : retrieve s.alerts alert_id with
    | none => exact .inl rfl
    | some alert =>
        obtain ⟨hmem, huuid⟩ := Table.find?_eq_some.mp hfind
        dsimp only
        split
        · exact .inl rfl
        · rename_i hclosed
          refine .inr ⟨alert, hmem, eq_false_of_ne_true hraises, huuid, ?_, rfl⟩
          rintro ⟨hack, hres⟩
          rw [hack, hres] at hclosed
          exact hclosed rfl

/-- And over one it does write, if it is retrieved. -/
theorem update_alert_open {s : AlertState} {alert : AlertModel} (hmem : alert ∈ s.alerts)
    (hopen : alert.Open) (now : Int) (acknowledged : Bool) :
    (update_alert now false alert.alert_uuid (some acknowledged) s).2.alerts =
      s.alerts.upsert (acknowledge now acknowledged alert) := by
  have hfind : retrieve s.alerts alert.alert_uuid = some alert :=
    Table.find?_eq_some.mpr ⟨hmem, rfl⟩
  have hnot : ¬ (alert.resolved && alert.acknowledged) = true := by
    rw [Bool.and_eq_true]
    exact fun h => hopen h.symm
  simp only [update_alert, hfind, Bool.false_eq_true, if_false, if_neg hnot]

/-- What acknowledging a stored alert keeps, `update_all_alerts` keeps. -/
theorem update_all_alerts_keeps {P : AlertStore → Prop} {now : Int}
    (h : ∀ alerts alert, alert ∈ alerts → P alerts → P (alerts.upsert (acknowledge now true alert))) :
    ∀ (alert_ids : List String) (raises : Nat → Bool) (s : AlertState), P s.alerts →
      P (update_all_alerts now raises alert_ids s).2.alerts := by
  intro alert_ids
  induction alert_ids with
  | nil => exact fun _ _ hs => hs
  | cons alert_id rest ih =>
      intro raises s hs
      unfold update_all_alerts
      split
      · exact hs
      · cases hfind : retrieve s.alerts alert_id with
        | none => exact hs
        | some alert => exact ih _ _ (h _ _ (Table.find?_eq_some.mp hfind).1 hs)

end AlertsAppService

/-! ## What each write keeps -/

/-- At most one open alert for each sensor. -/
def OneOpen (alerts : AlertStore) : Prop :=
  ∀ a ∈ alerts, ∀ b ∈ alerts, a.Open → b.Open → a.SameSensor b → a.alert_uuid = b.alert_uuid

namespace OneOpen

open AlertRepository

variable {alerts : AlertStore} {alert old : AlertModel}

/-- Over an alert of the same sensor that was open, if the new one is. -/
theorem replace (h : OneOpen alerts) (hold : old ∈ alerts)
    (huuid : alert.alert_uuid = old.alert_uuid) (hsensor : alert.SameSensor old)
    (hopen : alert.Open → old.Open) : OneOpen (alerts.upsert alert) := by
  intro a ha b hb hao hbo hab
  rcases Table.mem_upsert.mp ha with rfl | ⟨hain, -⟩
  · rcases Table.mem_upsert.mp hb with rfl | ⟨hbin, -⟩
    · rfl
    · rw [huuid]
      exact h old hold b hbin (hopen hao) hbo
        ⟨hsensor.1.symm.trans hab.1, hsensor.2.symm.trans hab.2⟩
  · rcases Table.mem_upsert.mp hb with rfl | ⟨hbin, -⟩
    · rw [huuid]
      exact h a hain old hold hao (hopen hbo) ⟨hab.1.trans hsensor.1, hab.2.trans hsensor.2⟩
    · exact h a hain b hbin hao hbo hab

/-- Where the open alerts of a sensor are updated. -/
theorem update (h : OneOpen alerts) (sensor_info module_type : String)
    (update_params : UpdateParams) :
    OneOpen (update_by_sensor_info alerts sensor_info module_type update_params) := by
  have hwas : ∀ a ∈ update_by_sensor_info alerts sensor_info module_type update_params, a.Open →
      ∃ r ∈ alerts, r.Open ∧ a.alert_uuid = r.alert_uuid ∧ a.SameSensor r := by
    intro a ha hao
    obtain ⟨r, hr, rfl⟩ := Table.mem_updateWhere.mp ha
    split
    · rename_i hp
      exact ⟨r, hr, (openFor_iff.mp hp).2, rfl, rfl, rfl⟩
    · rename_i hp
      rw [if_neg hp] at hao
      exact ⟨r, hr, hao, rfl, rfl, rfl⟩
  intro a ha b hb hao hbo hab
  obtain ⟨r, hr, hro, hru, hrs⟩ := hwas a ha hao
  obtain ⟨t, ht, hto, htu, hts⟩ := hwas b hb hbo
  rw [hru, htu]
  exact h r hr t ht hro hto
    ⟨hrs.1.symm.trans (hab.1.trans hts.1), hrs.2.symm.trans (hab.2.trans hts.2)⟩

/-- A new alert is one too many if it is open and another of its sensor is. -/
theorem insert_iff (h : OneOpen alerts) :
    OneOpen (alerts.upsert alert) ↔
      (alert.Open → ∀ b ∈ alerts, b.Open → b.SameSensor alert →
        b.alert_uuid = alert.alert_uuid) := by
  constructor
  · intro h' hopen b hb hbo hsame
    by_contra hne
    exact hne (h' b (Table.mem_upsert.mpr (.inr ⟨hb, hne⟩)) alert (Table.self_mem_upsert _ _)
      hbo hopen hsame)
  · intro hnew a ha b hb hao hbo hab
    rcases Table.mem_upsert.mp ha with rfl | ⟨hain, -⟩
    · rcases Table.mem_upsert.mp hb with rfl | ⟨hbin, -⟩
      · rfl
      · exact (hnew hao b hbin hbo ⟨hab.1.symm, hab.2.symm⟩).symm
    · rcases Table.mem_upsert.mp hb with rfl | ⟨hbin, -⟩
      · exact hnew hbo a hain hao hab
      · exact h a hain b hbin hao hbo hab

end OneOpen

/-! ## Runs -/

section Runs

open AlertMonitorService AlertsAppService AlertRepository

/-- A first alert for the message is open. -/
def Message.Opens (message : Message) : Prop :=
  ¬ (message.acknowledged = true ∧ (message.resolved = true ∨ message.state ∈ GOOD_ALERT))

/-- The message opens an alert, and none of the attempts to fetch the open one there is
succeeds. -/
def Blind (es_retry : Nat) (s : AlertState) : AlertCall → Prop
  | .consume weather message =>
      (weather.stores = true ∧ Unfetched es_retry weather) ∧ message.Opens ∧
        ∃ b ∈ s.alerts, b.Open ∧ b.sensor_info = message.sensor_info ∧
          b.module_type = message.module_type ∧ b.alert_uuid ≠ message.alert_uuid
  | _ => False

variable {es_retry : Nat} {s : AlertState}

theorem firstAlert_supported (weather : Weather) (message : Message) :
    (firstAlert (supported weather message)).alert_uuid = message.alert_uuid ∧
      (firstAlert (supported weather message)).sensor_info = message.sensor_info ∧
      (firstAlert (supported weather message)).module_type = message.module_type ∧
      ((firstAlert (supported weather message)).Open ↔ message.Opens) := by
  obtain ⟨text, htext⟩ := supported_eq weather message
  rw [htext]
  unfold firstAlert _is_good_alert Message.Opens AlertModel.Open
  split
  · rename_i hgood
    exact ⟨rfl, rfl, rfl, by simp [AlertModel.ofMessage, of_decide_eq_true hgood]⟩
  · rename_i hgood
    have hstate : message.state ∉ GOOD_ALERT := of_decide_eq_false (eq_false_of_ne_true hgood)
    exact ⟨rfl, rfl, rfl, by simp [AlertModel.ofMessage, hstate]⟩

theorem oneOpen_consume (h : OneOpen s.alerts) (weather : Weather) (message : Message) :
    OneOpen (_consume es_retry weather message s).2.alerts ↔
      ¬ Blind es_retry s (.consume weather message) := by
  obtain ⟨huuid, hsensor, hmodule, hopens⟩ := firstAlert_supported weather message
  by_cases hblind : weather.stores = true ∧ Unfetched es_retry weather
  · rw [consume_unfetched hblind.2 hblind.1, h.insert_iff, hopens, huuid]
    unfold AlertModel.SameSensor
    rw [hsensor, hmodule]
    constructor
    · rintro hnew ⟨-, hmessage, b, hb, hbo, hbs, hbm, hne⟩
      exact hne (hnew hmessage b hb hbo ⟨hbs, hbm⟩)
    · intro hno hmessage b hb hbo hsame
      by_contra hne
      exact hno ⟨hblind, hmessage, b, hb, hbo, hsame.1, hsame.2, hne⟩
  · refine iff_of_true ?_ fun hb => hblind hb.1
    rcases consume_cases es_retry weather message s with
      hsame | ⟨hprev, hstores, hfirst⟩ | ⟨prev_alert, hprev, hwrite⟩
    · rw [hsame]
      exact h
    · rw [hfirst, h.insert_iff]
      intro _ b hb hbo hsame
      have hnone := hprev.resolve_left fun hunfetched => hblind ⟨hstores, hunfetched⟩
      obtain ⟨text, htext⟩ := supported_eq weather message
      refine absurd ?_ (retrieve_by_sensor_info_eq_none hnone b hb hbo)
      rw [htext]
      exact ⟨hsame.1.trans hsensor, hsame.2.trans hmodule⟩
    · obtain ⟨hmem, ⟨hps, hpm⟩, -⟩ := retrieve_by_sensor_info_eq_some hprev
      rcases hwrite with ⟨-, hdup⟩ | ⟨update_params, -, -, hupdate⟩
      · rw [hdup]
        exact h.replace hmem rfl ⟨hps.symm, hpm.symm⟩ fun hopen => hopen
      · rw [hupdate]
        exact h.update _ _ _

/-- One step: exactly a blind insertion opens a second alert. -/
theorem oneOpen_step (h : OneOpen s.alerts) (call : AlertCall) :
    OneOpen (call.step es_retry s).alerts ↔ ¬ Blind es_retry s call := by
  cases call with
  | consume weather message => exact oneOpen_consume h weather message
  | update_alert now raises alert_id acknowledged =>
      refine iff_of_true ?_ id
      rcases update_alert_cases now raises alert_id acknowledged s with
        hsame | ⟨alert, hmem, -, -, hopen, hwrite⟩
      · exact hsame ▸ h
      · rw [AlertCall.step, hwrite]
        cases acknowledged with
        | none => exact h.replace hmem rfl ⟨rfl, rfl⟩ fun _ => hopen
        | some acknowledged => exact h.replace hmem rfl ⟨rfl, rfl⟩ fun _ => hopen
  | update_all_alerts now raises alert_ids =>
      refine iff_of_true (update_all_alerts_keeps ?_ alert_ids raises s h) id
      intro alerts alert hmem halerts
      refine halerts.replace hmem rfl ⟨rfl, rfl⟩ ?_
      rintro hnew ⟨hack, hres⟩
      exact hnew ⟨rfl, by simp [acknowledge, hres]⟩

/-- From an empty store, in every state of the run at most one alert is open for each sensor
exactly when no message is stored blindly. -/
theorem one_open_iff (es_retry : Nat) (calls : List AlertCall) :
    (∀ s, Run.Reached (AlertCall.step es_retry) .empty calls s → OneOpen s.alerts) ↔
      ∀ v ∈ Run.visits (AlertCall.step es_retry) .empty calls, ¬ Blind es_retry v.1 v.2 :=
  Run.invariant_iff (fun s : AlertState => OneOpen s.alerts) (P := fun _ => True)
    (fun _ call _ h => oneOpen_step h call) (fun _ _ => trivial)
    fun a ha => absurd ha (Table.not_mem_empty a)

/-! ## Two faults, and a store that does not answer -/

/-- A faulty fan. -/
def fanFault (alert_uuid state : String) : Message :=
  ⟨alert_uuid, "1_1_srvnode-1", "fan", "enclosure:hw:fan", state, "warning", false, false, none,
    none, "", 0, 0⟩

/-- The fan fails. -/
def firstFault : AlertCall :=
  .consume ⟨0, none, fun _ => false, true, true⟩ (fanFault "a" "fault")

/-- Then it is missing, and the store does not answer. -/
def unansweredFault : AlertCall :=
  .consume ⟨1, none, fun _ => true, true, true⟩ (fanFault "b" "missing")

theorem two_open : ¬ ∀ (calls : List AlertCall) (s : AlertState),
    Run.Reached (AlertCall.step 5) .empty calls s → OneOpen s.alerts := by
  intro h
  have hfirst := h [firstFault] _ ⟨[firstFault], List.prefix_rfl, rfl⟩
  have hboth := h [firstFault, unansweredFault] _
    ⟨[firstFault, unansweredFault], List.prefix_rfl, rfl⟩
  refine (oneOpen_step hfirst unansweredFault).mp hboth ?_
  refine ⟨⟨rfl, fun _ _ => rfl⟩, fun hclosed => Bool.noConfusion hclosed.1, ?_⟩
  decide +kernel

end Runs

end CortxCsm
