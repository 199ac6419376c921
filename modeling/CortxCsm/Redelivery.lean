/-
# `CortxCsm.Redelivery` — an alert that comes twice

A message that was consumed but not acknowledged comes again.  The second time its sensor
usually has an open alert in the state of the message: it is a duplicate and changes no mark.
If the first delivery has closed whatever was open for the sensor, the second finds nothing
open and stores the message as a new alert.

| the first delivery | an open alert of the sensor is left |
| :-- | :-- |
| stores a first alert | that one |
| writes a duplicate over the open alert | that one |
| leaves the open alert alone | that one |
| marks the open alerts unresolved | all |
| marks the open alerts resolved | those not acknowledged |

**Proved here.**

    what the two deliveries do                       (`consume_fair`, `deliver_cases`)
    what is stored anew stays open                   (`Delivers.stored`, `Delivers.anew`)
    the second changes a mark exactly when the first has resolved
    alerts that were all acknowledged                (`redelivery_iff`)
-/
import CortxCsm.OpenAlerts

namespace CortxCsm.Redelivery

open AlertRepository AlertMonitorService

/-- What users and the health of a sensor are told by. -/
structure AlertMarks where
  alert_uuid : String
  sensor_info : String
  module_type : String
  state : String
  resolved : Bool
  acknowledged : Bool
  comments : List CommentModel
  deriving DecidableEq

def marks (alert : AlertModel) : AlertMarks where
  alert_uuid := alert.alert_uuid
  sensor_info := alert.sensor_info
  module_type := alert.module_type
  state := alert.state
  resolved := alert.resolved
  acknowledged := alert.acknowledged
  comments := alert.comments

/-- The same alerts in the same order, with the same marks. -/
def SameMarks (alerts alerts' : AlertStore) : Prop := alerts.rows.map marks = alerts'.rows.map marks

/-- The previous alert can be fetched, and writes succeed. -/
structure Fair (es_retry : Nat) (weather : Weather) : Prop where
  fetched : ¬ Unfetched es_retry weather
  stores : weather.stores = true

/-- The plugin hands on no marks of its own. -/
structure Fresh (message : Message) : Prop where
  acknowledged : message.acknowledged = false
  resolved : message.resolved = false

/-! ## One delivery -/

/-- The mark that an alert in another state gets, if it gets one. -/
def marked (message : Message) (prev_alert : AlertModel) : Option Bool :=
  if _is_good_alert message.state then
    if _is_good_alert prev_alert.state then some prev_alert.resolved
    else if prev_alert.resolved then none
    else some true
  else if _is_bad_alert message.state then
    if _is_bad_alert prev_alert.state then some prev_alert.resolved
    else some message.resolved
  else none

/-- What a delivery does to the alerts. -/
inductive Delivers (message : Message) (alerts alerts' : AlertStore) : Prop
  | first (hnone : retrieve_by_sensor_info alerts message.sensor_info message.module_type = none)
      (alert : AlertModel) (halert : alert.alert_uuid = message.alert_uuid ∧
        openFor message.sensor_info message.module_type alert = true ∧
          alert.state = message.state)
      (h : alerts' = alerts.upsert alert)
  | rewrites (prev_alert alert : AlertModel)
      (hprev : retrieve_by_sensor_info alerts message.sensor_info message.module_type =
        some prev_alert)
      (hstate : message.state = prev_alert.state) (hmarks : marks alert = marks prev_alert)
      (h : alerts' = alerts.upsert alert)
  | updates (prev_alert : AlertModel)
      (hprev : retrieve_by_sensor_info alerts message.sensor_info message.module_type =
        some prev_alert)
      (hstate : message.state ≠ prev_alert.state) (update_params : UpdateParams)
      (hparams : update_params.state = message.state ∧
        marked message prev_alert = some update_params.resolved)
      (h : alerts' =
        update_by_sensor_info alerts message.sensor_info message.module_type update_params)
  | leaves (prev_alert : AlertModel)
      (hprev : retrieve_by_sensor_info alerts message.sensor_info message.module_type =
        some prev_alert)
      (hstate : message.state ≠ prev_alert.state) (hmarked : marked message prev_alert = none)
      (h : alerts' = alerts)

variable {es_retry : Nat} {weather : Weather} {message : Message} {s : AlertState}

theorem update_alert_fair (hstores : weather.stores = true) (flag : Bool) (alert : Message)
    (prev_alert : AlertModel) (update_resolve : Bool) (alerts : AlertStore) :
    _update_alert weather flag alert prev_alert update_resolve alerts =
      some (update_by_sensor_info alerts prev_alert.sensor_info prev_alert.module_type
        (updateParams weather flag alert prev_alert update_resolve)) := by
  unfold _update_alert
  rw [if_pos hstores]

/-- An alert in another state is updated with the mark, or left alone. -/
theorem resolve_alert_fair (hstores : weather.stores = true) {prev_alert : AlertModel}
    (hstate : message.state ≠ prev_alert.state) (alerts : AlertStore) :
    (marked message prev_alert = none ∧
      _resolve_alert weather message prev_alert alerts = some alerts) ∨
    ∃ update_params : UpdateParams, update_params.state = message.state ∧
      marked message prev_alert = some update_params.resolved ∧
      _resolve_alert weather message prev_alert alerts =
        some (update_by_sensor_info alerts prev_alert.sensor_info prev_alert.module_type
          update_params) := by
  have hdup : ¬ _is_duplicate_alert message prev_alert = true := by
    simpa [_is_duplicate_alert] using hstate
  unfold _resolve_alert
  rw [if_neg hdup]
  by_cases hgood : _is_good_alert message.state = true
  · have hbad : ¬ _is_bad_alert message.state = true := by
      rw [not_bad_of_good hgood]
      exact Bool.false_ne_true
    unfold resolveGood marked
    rw [if_pos hgood, if_pos hgood]
    by_cases hprev : _is_good_alert prev_alert.state = true
    · rw [if_pos hprev, if_pos hprev, update_alert_fair hstores]
      refine .inr ⟨updateParams weather false message prev_alert false, rfl, rfl, ?_⟩
      simp [resolveBad, hbad]
    · rw [if_neg hprev, if_neg hprev, _resolve]
      by_cases hresolved : prev_alert.resolved = true
      · rw [if_pos hresolved, if_pos hresolved]
        exact .inl ⟨rfl, by simp [resolveBad, hbad]⟩
      · rw [if_neg hresolved, if_neg hresolved, update_alert_fair hstores]
        refine .inr ⟨updateParams weather false message { prev_alert with resolved := true } false,
          rfl, rfl, ?_⟩
        simp [resolveBad, hbad]
  · unfold resolveGood marked
    rw [if_neg hgood, if_neg hgood, Option.bind_some]
    unfold resolveBad
    by_cases hbad : _is_bad_alert message.state = true
    · rw [if_pos hbad, if_pos hbad]
      by_cases hprev : _is_bad_alert prev_alert.state = true
      · rw [if_pos hprev, if_pos hprev, update_alert_fair hstores]
        exact .inr ⟨updateParams weather true message prev_alert false, rfl, rfl, rfl⟩
      · rw [if_neg hprev, if_neg hprev, update_alert_fair hstores]
        exact .inr ⟨updateParams weather true message prev_alert true, rfl, rfl, rfl⟩
    · rw [if_neg hbad, if_neg hbad]
      exact .inl ⟨rfl, rfl⟩

/-- A first alert is open, as the plugin has it. -/
theorem firstAlert_fresh (h : Fresh message) :
    (firstAlert message).alert_uuid = message.alert_uuid ∧
      openFor message.sensor_info message.module_type (firstAlert message) = true ∧
        (firstAlert message).state = message.state := by
  have hopen : ∀ alert : AlertModel, alert.acknowledged = false →
      alert.sensor_info = message.sensor_info → alert.module_type = message.module_type →
        openFor message.sensor_info message.module_type alert = true := by
    intro alert hack hsensor hmodule
    refine openFor_iff.mpr ⟨⟨hsensor, hmodule⟩, fun hclosed => ?_⟩
    rw [hack] at hclosed
    exact Bool.false_ne_true hclosed.1
  unfold firstAlert
  split
  · exact ⟨rfl, hopen _ h.acknowledged rfl rfl, rfl⟩
  · exact ⟨rfl, hopen _ h.acknowledged rfl rfl, rfl⟩

theorem recorded_delivers (hstores : weather.stores = true) (hfresh : Fresh message)
    (alerts : AlertStore) : ∃ alerts',
      recorded weather message alerts
          (retrieve_by_sensor_info alerts message.sensor_info message.module_type) =
        some alerts' ∧ Delivers message alerts alerts' := by
  cases hprev : retrieve_by_sensor_info alerts message.sensor_info message.module_type with
  | none =>
      refine ⟨alerts.upsert (firstAlert message), ?_, ?_⟩
      · rw [recorded, if_pos hstores]
      · exact .first hprev _ (firstAlert_fresh hfresh) rfl
  | some prev_alert =>
      obtain ⟨-, ⟨hsensor, hmodule⟩, -⟩ := retrieve_by_sensor_info_eq_some hprev
      by_cases hstate : message.state = prev_alert.state
      · refine ⟨alerts.upsert (duplicate weather message prev_alert), ?_, ?_⟩
        · have hdup : _is_duplicate_alert message prev_alert = true := decide_eq_true hstate
          rw [recorded, _resolve_alert, if_pos hdup, _update_duplicate_alert, if_pos hstores]
          rfl
        · refine .rewrites prev_alert _ hprev hstate ?_ rfl
          simp only [marks, duplicate, AlertModel.ofMessage, hstate, hsensor, hmodule]
      · rw [recorded]
        rcases resolve_alert_fair hstores hstate alerts with
          ⟨hmarked, heq⟩ | ⟨update_params, hparams, hmarked, heq⟩
        · exact ⟨alerts, heq, .leaves prev_alert hprev hstate hmarked rfl⟩
        · rw [hsensor, hmodule] at heq
          exact ⟨_, heq, .updates prev_alert hprev hstate update_params ⟨hparams, hmarked⟩ rfl⟩

theorem consume_delivers (hfair : Fair es_retry weather) (hfresh : Fresh message)
    (s : AlertState) :
    Delivers message s.alerts (_consume es_retry weather message s).2.alerts := by
  -- the support text is in nothing that a delivery is told by
  obtain ⟨text, hsupported⟩ := supported_eq weather message
  have hfetch : _get_previous_alert es_retry weather s.alerts message.sensor_info
      message.module_type =
        retrieve_by_sensor_info s.alerts message.sensor_info message.module_type := by
    rcases get_previous_alert_cases es_retry weather s.alerts message.sensor_info
      message.module_type with ⟨hunfetched, -⟩ | ⟨-, heq⟩
    · exact absurd hunfetched hfair.fetched
    · exact heq
  have hfresh' : Fresh { message with support_message := text } :=
    ⟨hfresh.acknowledged, hfresh.resolved⟩
  obtain ⟨alerts', heq, hdelivers⟩ := recorded_delivers hfair.stores hfresh' s.alerts
  have hconsume : (_consume es_retry weather message s).2.alerts = alerts' := by
    unfold _consume
    rw [hsupported]
    dsimp only at heq ⊢
    rw [hfetch, heq]
    dsimp only
    split
    · rfl
    · rfl
  rw [hconsume]
  cases hdelivers with
  | first hnone alert halert h => exact .first hnone alert halert h
  | rewrites prev_alert alert hprev hstate hmarks h =>
      exact .rewrites prev_alert alert hprev hstate hmarks h
  | updates prev_alert hprev hstate update_params hparams h =>
      exact .updates prev_alert hprev hstate update_params hparams h
  | leaves prev_alert hprev hstate hmarked h => exact .leaves prev_alert hprev hstate hmarked h

/-! ## The open alerts of the sensor afterwards -/

/-- The delivery resolves alerts that are all acknowledged. -/
def Closes (message : Message) (alerts : AlertStore) : Prop :=
  _is_good_alert message.state = true ∧
    (∃ prev_alert, retrieve_by_sensor_info alerts message.sensor_info message.module_type =
        some prev_alert ∧ _is_good_alert prev_alert.state = false ∧
          prev_alert.resolved = false) ∧
    ∀ alert ∈ alerts, openFor message.sensor_info message.module_type alert = true →
      alert.acknowledged = true

variable {alerts alerts' : AlertStore}

theorem openFor_apply {sensor_info module_type : String} (update_params : UpdateParams)
    {alert : AlertModel} (h : openFor sensor_info module_type alert = true) :
    openFor sensor_info module_type (update_params.apply alert) = true ↔
      ¬ (alert.acknowledged = true ∧ update_params.resolved = true) := by
  obtain ⟨hsensor, -⟩ := openFor_iff.mp h
  rw [openFor_iff]
  exact and_iff_right hsensor

/-- After an update nothing is open for the sensor if it resolves and all were acknowledged. -/
theorem retrieve_update_eq_none {sensor_info module_type : String}
    (update_params : UpdateParams) {prev_alert : AlertModel}
    (hprev : retrieve_by_sensor_info alerts sensor_info module_type = some prev_alert) :
    retrieve_by_sensor_info
        (update_by_sensor_info alerts sensor_info module_type update_params) sensor_info
        module_type = none ↔
      update_params.resolved = true ∧
        ∀ alert ∈ alerts, openFor sensor_info module_type alert = true →
          alert.acknowledged = true := by
  obtain ⟨hmem, hsensor, hopen⟩ := retrieve_by_sensor_info_eq_some hprev
  have hprevOpen : openFor sensor_info module_type prev_alert = true :=
    openFor_iff.mpr ⟨hsensor, hopen⟩
  unfold retrieve_by_sensor_info
  rw [List.find?_eq_none]
  constructor
  · intro hnone
    have hall : ∀ alert ∈ alerts, openFor sensor_info module_type alert = true →
        alert.acknowledged = true ∧ update_params.resolved = true := by
      intro alert halert hwas
      by_contra hnot
      refine hnone (update_params.apply alert) ?_ ((openFor_apply update_params hwas).mpr hnot)
      exact Table.mem_updateWhere.mpr ⟨alert, halert, (if_pos hwas).symm⟩
    exact ⟨(hall prev_alert hmem hprevOpen).2, fun alert halert hwas => (hall alert halert hwas).1⟩
  · rintro ⟨hresolved, hall⟩ alert halert
    obtain ⟨was, hwas, rfl⟩ := Table.mem_updateWhere.mp halert
    by_cases hopenFor : openFor sensor_info module_type was = true
    · rw [if_pos hopenFor, openFor_apply update_params hopenFor]
      exact fun hnot => hnot ⟨hall was hwas hopenFor, hresolved⟩
    · rw [if_neg hopenFor]
      exact hopenFor

theorem openFor_of_marks {alert other : AlertModel} (h : marks alert = marks other)
    (sensor_info module_type : String) :
    openFor sensor_info module_type alert = openFor sensor_info module_type other := by
  simp only [marks, AlertMarks.mk.injEq] at h
  unfold openFor
  rw [h.2.1, h.2.2.1, h.2.2.2.2.1, h.2.2.2.2.2.1]

/-- Written over, the first open alert is still the first open one. -/
theorem retrieve_rewritten {sensor_info module_type : String} {prev_alert alert : AlertModel}
    (hprev : retrieve_by_sensor_info alerts sensor_info module_type = some prev_alert)
    (hmarks : marks alert = marks prev_alert) :
    retrieve_by_sensor_info (alerts.upsert alert) sensor_info module_type = some alert := by
  obtain ⟨-, hsensor, hopen⟩ := retrieve_by_sensor_info_eq_some hprev
  have hkey : prev_alert.alert_uuid = alert.alert_uuid :=
    (congrArg AlertMarks.alert_uuid hmarks).symm
  refine Table.find?_upsertList_of_same hkey ?_ alerts.nodup hprev
  rw [openFor_of_marks hmarks]
  exact openFor_iff.mpr ⟨hsensor, hopen⟩

theorem marked_eq_true (hfresh : Fresh message) {prev_alert : AlertModel}
    (hunresolved : prev_alert.resolved = false) :
    marked message prev_alert = some true ↔
      _is_good_alert message.state = true ∧ _is_good_alert prev_alert.state = false := by
  unfold marked
  rw [hunresolved, hfresh.resolved]
  by_cases hgood : _is_good_alert message.state = true
  · rw [if_pos hgood, and_iff_right hgood]
    by_cases hprev : _is_good_alert prev_alert.state = true
    · simp [hprev]
    · simp [hprev]
  · rw [if_neg hgood]
    refine iff_of_false ?_ fun h => hgood h.1
    split
    · split
      · simp
      · simp
    · simp

theorem Delivers.closes_iff (hfresh : Fresh message) (h : Delivers message alerts alerts') :
    retrieve_by_sensor_info alerts' message.sensor_info message.module_type = none ↔
      Closes message alerts := by
  cases h with
  | first hnone alert halert h =>
      subst h
      refine iff_of_false (fun hn => ?_) fun hcloses => ?_
      · exact List.find?_eq_none.mp hn alert (Table.self_mem_upsert _ _) halert.2.1
      · obtain ⟨-, ⟨prev_alert, hprev, -⟩, -⟩ := hcloses
        rw [hnone] at hprev
        cases hprev
  | rewrites prev_alert alert hprev hstate hmarks h =>
      subst h
      rw [retrieve_rewritten hprev hmarks]
      refine iff_of_false (fun hn => nomatch hn) fun hcloses => ?_
      obtain ⟨hgood, ⟨other, hother, hbad, -⟩, -⟩ := hcloses
      cases hprev.symm.trans hother
      rw [hstate, hbad] at hgood
      cases hgood
  | leaves prev_alert hprev hstate hmarked h =>
      subst h
      rw [hprev]
      refine iff_of_false (fun hn => nomatch hn) fun hcloses => ?_
      obtain ⟨hgood, ⟨other, hother, hbad, hunresolved⟩, -⟩ := hcloses
      cases hprev.symm.trans hother
      rw [(marked_eq_true hfresh hunresolved).mpr ⟨hgood, hbad⟩] at hmarked
      cases hmarked
  | updates prev_alert hprev hstate update_params hparams h =>
      subst h
      obtain ⟨hmem, hsensor, hopen⟩ := retrieve_by_sensor_info_eq_some hprev
      have hprevOpen : openFor message.sensor_info message.module_type prev_alert = true :=
        openFor_iff.mpr ⟨hsensor, hopen⟩
      rw [retrieve_update_eq_none update_params hprev]
      constructor
      · rintro ⟨hresolved, hall⟩
        -- an open alert that is acknowledged is not resolved
        have hunresolved : prev_alert.resolved = false :=
          Bool.eq_false_iff.mpr fun hr => hopen ⟨hall prev_alert hmem hprevOpen, hr⟩
        have hmarked := hparams.2
        rw [hresolved] at hmarked
        obtain ⟨hgood, hbad⟩ := (marked_eq_true hfresh hunresolved).mp hmarked
        exact ⟨hgood, ⟨prev_alert, hprev, hbad, hunresolved⟩, hall⟩
      · rintro ⟨hgood, ⟨other, hother, hbad, hunresolved⟩, hall⟩
        cases hprev.symm.trans hother
        have hmarked := (marked_eq_true hfresh hunresolved).mpr ⟨hgood, hbad⟩
        exact ⟨Option.some.inj (hparams.2.symm.trans hmarked), hall⟩

/-- What is first open for the sensor after a delivery is in the state of the message, or was
left alone. -/
theorem Delivers.retrieved (h : Delivers message alerts alerts') {prev_alert : AlertModel}
    (hprev : retrieve_by_sensor_info alerts' message.sensor_info message.module_type =
      some prev_alert) :
    prev_alert.state = message.state ∨ alerts' = alerts ∧ marked message prev_alert = none := by
  obtain ⟨hmem, hsensor, hopen⟩ := retrieve_by_sensor_info_eq_some hprev
  cases h with
  | first hnone alert halert h =>
      subst h
      rcases Table.mem_upsert.mp hmem with rfl | ⟨hold, -⟩
      · exact .inl halert.2.2
      · exact absurd hsensor (retrieve_by_sensor_info_eq_none hnone prev_alert hold hopen)
  | rewrites was alert hwas hstate hmarks h =>
      subst h
      cases (retrieve_rewritten hwas hmarks).symm.trans hprev
      exact .inl ((congrArg AlertMarks.state hmarks).trans hstate.symm)
  | leaves was hwas hstate hmarked h =>
      subst h
      cases hwas.symm.trans hprev
      exact .inr ⟨rfl, hmarked⟩
  | updates was hwas hstate update_params hparams h =>
      subst h
      obtain ⟨row, hrow, rfl⟩ := Table.mem_updateWhere.mp hmem
      by_cases hopenFor : openFor message.sensor_info message.module_type row = true
      · rw [if_pos hopenFor]
        exact .inl hparams.1
      · rw [if_neg hopenFor] at hsensor hopen
        exact absurd (openFor_iff.mpr ⟨hsensor, hopen⟩) hopenFor

/-! ## Deliveries of one message -/

/-- A delivery after another keeps the marks exactly if something is open for the sensor. -/
theorem Delivers.again {once twice : AlertStore} (h : Delivers message alerts once)
    (h' : Delivers message once twice) :
    SameMarks once twice ↔
      retrieve_by_sensor_info once message.sensor_info message.module_type ≠ none := by
  cases h' with
  | first hnone alert halert heq =>
      subst heq
      refine iff_of_false (fun hsame => ?_) fun hn => hn hnone
      have hmem : marks alert ∈ once.rows.map marks := by
        rw [hsame]
        exact List.mem_map_of_mem (Table.self_mem_upsert once alert)
      obtain ⟨other, hother, hmarks⟩ := List.mem_map.mp hmem
      have hopenFor := halert.2.1
      rw [← openFor_of_marks hmarks] at hopenFor
      exact List.find?_eq_none.mp hnone other hother hopenFor
  | rewrites prev_alert alert hprev hstate hmarks heq =>
      subst heq
      refine iff_of_true ?_ (hprev ▸ Option.some_ne_none _)
      obtain ⟨hmem, -⟩ := retrieve_by_sensor_info_eq_some hprev
      have hkey : prev_alert.alert_uuid = alert.alert_uuid :=
        (congrArg AlertMarks.alert_uuid hmarks).symm
      exact (Table.map_upsertList_of_same hkey hmarks.symm once.nodup hmem).symm
  | leaves prev_alert hprev hstate hmarked heq =>
      subst heq
      exact iff_of_true rfl (hprev ▸ Option.some_ne_none _)
  | updates prev_alert hprev hstate update_params hparams heq =>
      rcases h.retrieved hprev with hsame | ⟨-, hmarked⟩
      · exact absurd hsame.symm hstate
      · exact absurd (hmarked.symm.trans hparams.2) fun hn => nomatch hn

/-- After a delivery there is nothing that another one closes. -/
theorem Delivers.not_closes (h : Delivers message alerts alerts') : ¬ Closes message alerts' := by
  rintro ⟨hgood, ⟨prev_alert, hprev, hbad, hunresolved⟩, -⟩
  rcases h.retrieved hprev with hsame | ⟨-, hmarked⟩
  · rw [hsame, hgood] at hbad
    cases hbad
  · unfold marked at hmarked
    rw [if_pos hgood, if_neg (by simp [hbad]), if_neg (by simp [hunresolved])] at hmarked
    cases hmarked

/-- What is open for the sensor of the message is the alert of the message. -/
def Anew (message : Message) (alerts : AlertStore) : Prop :=
  ∃ alert, retrieve_by_sensor_info alerts message.sensor_info message.module_type = some alert ∧
    alert.alert_uuid = message.alert_uuid ∧ alert.state = message.state

/-- With nothing open for its sensor, a message is stored. -/
theorem Delivers.stored (h : Delivers message alerts alerts')
    (hnone : retrieve_by_sensor_info alerts message.sensor_info message.module_type = none) :
    Anew message alerts' := by
  cases h with
  | first _ alert halert heq =>
      subst heq
      obtain ⟨found, hfound⟩ : ∃ found, retrieve_by_sensor_info (alerts.upsert alert)
          message.sensor_info message.module_type = some found := by
        refine Option.ne_none_iff_exists'.mp fun hn => ?_
        exact List.find?_eq_none.mp hn alert (Table.self_mem_upsert _ _) halert.2.1
      obtain ⟨hmem, hsensor, hopen⟩ := retrieve_by_sensor_info_eq_some hfound
      rcases Table.mem_upsert.mp hmem with rfl | ⟨hold, -⟩
      · exact ⟨found, hfound, halert.1, halert.2.2⟩
      · exact absurd hsensor (retrieve_by_sensor_info_eq_none hnone found hold hopen)
  | rewrites prev_alert alert hprev hstate hmarks heq => cases hnone.symm.trans hprev
  | updates prev_alert hprev hstate update_params hparams heq => cases hnone.symm.trans hprev
  | leaves prev_alert hprev hstate hmarked heq => cases hnone.symm.trans hprev

/-- The alert of the message is only written over by it. -/
theorem Delivers.anew (h : Delivers message alerts alerts') (hanew : Anew message alerts) :
    Anew message alerts' := by
  obtain ⟨alert, halert, hkey, hsame⟩ := hanew
  cases h with
  | first hnone _ _ heq => cases hnone.symm.trans halert
  | rewrites prev_alert written hprev hstate hmarks heq =>
      subst heq
      cases hprev.symm.trans halert
      exact ⟨written, retrieve_rewritten hprev hmarks,
        (congrArg AlertMarks.alert_uuid hmarks).trans hkey,
        (congrArg AlertMarks.state hmarks).trans hsame⟩
  | updates prev_alert hprev hstate update_params hparams heq =>
      cases hprev.symm.trans halert
      exact absurd hsame.symm hstate
  | leaves prev_alert hprev hstate hmarked heq =>
      cases hprev.symm.trans halert
      exact absurd hsame.symm hstate

/-- The message delivered again and again. -/
def redelivered (es_retry : Nat) (message : Message) (s : AlertState) :
    List Weather → AlertState
  | [] => s
  | weather :: weathers =>
      redelivered es_retry message (_consume es_retry weather message s).2 weathers

theorem SameMarks.redelivered (hfresh : Fresh message) {weathers : List Weather} :
    (∀ weather ∈ weathers, Fair es_retry weather) → ∀ {alerts : AlertStore} {s : AlertState},
      Delivers message alerts s.alerts →
        retrieve_by_sensor_info s.alerts message.sensor_info message.module_type ≠ none →
          SameMarks s.alerts (redelivered es_retry message s weathers).alerts := by
  induction weathers with
  | nil =>
      intro _ alerts s _ _
      exact rfl
  | cons weather weathers ih =>
      intro hfair alerts s hdelivers hopen
      have hnext := consume_delivers (hfair weather List.mem_cons_self) hfresh s
      have hsame := (hdelivers.again hnext).mpr hopen
      have hopen' : retrieve_by_sensor_info (_consume es_retry weather message s).2.alerts
          message.sensor_info message.module_type ≠ none := by
        rw [Ne, hnext.closes_iff hfresh]
        exact hdelivers.not_closes
      exact hsame.trans (ih (fun w hw => hfair w (List.mem_cons_of_mem _ hw)) hnext hopen')

theorem Anew.redelivered (hfresh : Fresh message) {weathers : List Weather} :
    (∀ weather ∈ weathers, Fair es_retry weather) → ∀ {s : AlertState}, Anew message s.alerts →
      Anew message (redelivered es_retry message s weathers).alerts := by
  induction weathers with
  | nil =>
      intro _ s hanew
      exact hanew
  | cons weather weathers ih =>
      intro hfair s hanew
      have hnext := consume_delivers (hfair weather List.mem_cons_self) hfresh s
      exact ih (fun w hw => hfair w (List.mem_cons_of_mem _ hw)) (hnext.anew hanew)

/-- **Redelivery.**  Let the message come without marks of its own (`Fresh`), and let each of its
deliveries fetch the previous alert and write (`Fair`).  Consumed and delivered again, any number
of times, it changes the marks of the alerts exactly if its first delivery has resolved alerts
that were all acknowledged: then that has left nothing open for the sensor, and the second one
stores the message as a new alert, which is what is open for the sensor from then on. -/
theorem redelivery_iff (es_retry : Nat) (message : Message) (hfresh : Fresh message)
    (s : AlertState) (weather : Weather) (hfair : Fair es_retry weather)
    (weathers : List Weather) (hfairs : ∀ weather ∈ weathers, Fair es_retry weather) :
    let once := (_consume es_retry weather message s).2
    (SameMarks once.alerts (redelivered es_retry message once weathers).alerts ↔
        ¬ Closes message s.alerts ∨ weathers = []) ∧
      (Closes message s.alerts → weathers ≠ [] →
        retrieve_by_sensor_info once.alerts message.sensor_info message.module_type = none ∧
          Anew message (redelivered es_retry message once weathers).alerts) := by
  intro once
  have honce : Delivers message s.alerts once.alerts := consume_delivers hfair hfresh s
  have hcloses := honce.closes_iff hfresh
  cases weathers with
  | nil => exact ⟨iff_of_true rfl (.inr rfl), fun _ hne => absurd rfl hne⟩
  | cons again weathers =>
      have hagain := hfairs again List.mem_cons_self
      have hrest : ∀ w ∈ weathers, Fair es_retry w :=
        fun w hw => hfairs w (List.mem_cons_of_mem _ hw)
      rw [or_iff_left (List.cons_ne_nil _ _), ← hcloses]
      by_cases hopen : retrieve_by_sensor_info once.alerts message.sensor_info
          message.module_type = none
      · -- the second delivery stores an alert, and those after it leave that one open
        have htwice := consume_delivers hagain hfresh once
        have hopen' : retrieve_by_sensor_info (_consume es_retry again message once).2.alerts
            message.sensor_info message.module_type ≠ none := by
          rw [Ne, htwice.closes_iff hfresh]
          exact honce.not_closes
        have hsame := SameMarks.redelivered hfresh hrest htwice hopen'
        refine ⟨iff_of_false (fun hkept => ?_) fun hn => hn hopen, fun _ _ => ⟨hopen, ?_⟩⟩
        · exact (honce.again htwice).mp (hkept.trans hsame.symm) hopen
        · exact Anew.redelivered hfresh hrest (htwice.stored hopen)
      · have hsame := SameMarks.redelivered hfresh hfairs honce hopen
        exact ⟨iff_of_true hsame hopen, fun hc => absurd hc hopen⟩

/-- A fault that a user has acknowledged. -/
def faultAcknowledged : AlertModel where
  alert_uuid := "1"
  sensor_info := "fan"
  module_type := "fan"
  module_name := "enclosure:hw:fan"
  state := "fault"
  severity := "error"
  resolved := false
  acknowledged := true
  description := none
  health := none
  support_message := ""
  created_time := 0
  updated_time := 0
  comments := []

def faultResolved : Message where
  alert_uuid := "2"
  sensor_info := "fan"
  module_type := "fan"
  module_name := "enclosure:hw:fan"
  state := "fault_resolved"
  severity := "informational"
  resolved := false
  acknowledged := false
  description := none
  health := none
  support_message := ""
  created_time := 1
  updated_time := 1

def calm : Weather := ⟨2, none, fun _ => false, true, true⟩

def acknowledgedOnly : AlertState := ⟨Table.empty.upsert faultAcknowledged, Table.empty⟩

theorem fair_calm : Fair 1 calm := ⟨fun h => Bool.false_ne_true (h 0 Nat.zero_lt_one), rfl⟩

theorem closes_acknowledgedOnly : Closes faultResolved acknowledgedOnly.alerts := by
  refine ⟨rfl, ⟨faultAcknowledged, rfl, rfl, rfl⟩, fun alert hmem _ => ?_⟩
  rcases Table.mem_upsert.mp hmem with rfl | ⟨hold, -⟩
  · rfl
  · exact absurd hold List.not_mem_nil

/-- Its resolution, delivered three times, raises it anew. -/
theorem redelivery_iff_acknowledged :
    ¬ SameMarks (_consume 1 calm faultResolved acknowledgedOnly).2.alerts
        (redelivered 1 faultResolved (_consume 1 calm faultResolved acknowledgedOnly).2
          [calm, calm]).alerts ∧
      Anew faultResolved (redelivered 1 faultResolved
        (_consume 1 calm faultResolved acknowledgedOnly).2 [calm, calm]).alerts := by
  have hfairs : ∀ weather ∈ [calm, calm], Fair 1 weather := by
    intro weather hmem
    rcases List.mem_cons.mp hmem with rfl | hmem
    · exact fair_calm
    · exact List.mem_singleton.mp hmem ▸ fair_calm
  obtain ⟨hiff, hanew⟩ := redelivery_iff 1 faultResolved ⟨rfl, rfl⟩ acknowledgedOnly calm
    fair_calm [calm, calm] hfairs
  refine ⟨fun hsame => ?_, (hanew closes_acknowledgedOnly (List.cons_ne_nil _ _)).2⟩
  rcases hiff.mp hsame with hnot | hnil
  · exact hnot closes_acknowledgedOnly
  · cases hnil

end CortxCsm.Redelivery
