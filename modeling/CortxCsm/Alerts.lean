/-
# `CortxCsm.Alerts` — `archive/core/services/alerts.py`

`AlertRepository`, `AlertsAppService` and `AlertMonitorService._consume`: a message about a
sensor is stored as an alert, or updates the alerts of the sensor that are still open.

| | |
| :-- | :-- |
| `archive/core/data/models/alerts.py` | `AlertModel` |
| `archive/plugins/cortx/alert.py` | `Message`: what the plugin hands to `_consume` |
| `archive/core/services/alerts.py` | the rest |

The plugin sets or requires every key of a message that is read here.  A message that is
redelivered is consumed again.  What happens around a call is its `Weather`.
-/
import CortxCsm.Errors
import CortxCsm.Lib.Faults
import CortxCsm.Lib.Run
import CortxCsm.Lib.Table
import CortxCsm.Lib.Text

namespace CortxCsm

/-! ## `const` -/

def GOOD_ALERT : List String := ["insertion", "fault_resolved", "resolved", "threshold_breached:up"]
def BAD_ALERT : List String := ["missing", "fault", "threshold_breached:low", "threshold_breached:high"]
def IEM : String := "iem"
def NODE : String := "node"
def HIGH_RISK_SEVERITY : List String := ["critical", "CRITICAL", "error", "ERROR"]
def ALERTS_MSG_NOT_FOUND : String := "alerts_not_found"
def ALERTS_MSG_RESOLVED_AND_ACKED_ERROR : String := "alerts_resolved_and_acked"

/-! ## Alerts and messages -/

structure CommentModel where
  comment_id : String
  comment_text : String
  created_by : String
  created_time : Int
  deriving DecidableEq

/-- The fields that the services read or write. -/
structure AlertModel where
  alert_uuid : String
  sensor_info : String
  module_type : String
  module_name : String
  state : String
  severity : String
  resolved : Bool
  acknowledged : Bool
  description : Option String
  health : Option String
  support_message : String
  created_time : Int
  updated_time : Int
  comments : List CommentModel
  deriving DecidableEq

structure Message where
  alert_uuid : String
  sensor_info : String
  module_type : String
  module_name : String
  state : String
  severity : String
  resolved : Bool
  acknowledged : Bool
  description : Option String
  health : Option String
  support_message : String
  created_time : Int
  updated_time : Int
  deriving DecidableEq

/-- `AlertModel(message)`. -/
def AlertModel.ofMessage (message : Message) : AlertModel where
  alert_uuid := message.alert_uuid
  sensor_info := message.sensor_info
  module_type := message.module_type
  module_name := message.module_name
  state := message.state
  severity := message.severity
  resolved := message.resolved
  acknowledged := message.acknowledged
  description := message.description
  health := message.health
  support_message := message.support_message
  created_time := message.created_time
  updated_time := message.updated_time
  comments := []

abbrev AlertStore := Table AlertModel.alert_uuid

/-- The two collections. -/
structure AlertState where
  alerts : AlertStore
  history : AlertStore

def AlertState.empty : AlertState := ⟨Table.empty, Table.empty⟩

/-! ## `AlertRepository` -/

namespace AlertRepository

/-- The filter of the two methods below. -/
def openFor (sensor_info module_type : String) (alert : AlertModel) : Bool :=
  (decide (alert.sensor_info = sensor_info) && decide (alert.module_type = module_type)) &&
    (decide (alert.acknowledged = false) || decide (alert.resolved = false))

def retrieve (alerts : AlertStore) (alert_id : String) : Option AlertModel := alerts.find? alert_id

def retrieve_by_sensor_info (alerts : AlertStore) (sensor_info module_type : String) :
    Option AlertModel := alerts.rows.find? (openFor sensor_info module_type)

/-- The parameters of an update; a field that is not given stays. -/
structure UpdateParams where
  support_message : String
  resolved : Bool
  state : String
  severity : String
  updated_time : Int
  health : String
  description : Option String
  created_time : Option Int

def UpdateParams.apply (update_params : UpdateParams) (alert : AlertModel) : AlertModel :=
  { alert with
    support_message := update_params.support_message
    resolved := update_params.resolved
    state := update_params.state
    severity := update_params.severity
    updated_time := update_params.updated_time
    health := some update_params.health
    description := update_params.description <|> alert.description
    created_time := update_params.created_time.getD alert.created_time }

def update_by_sensor_info (alerts : AlertStore) (sensor_info module_type : String)
    (update_params : UpdateParams) : AlertStore :=
  alerts.updateWhere (openFor sensor_info module_type) update_params.apply fun _ => rfl

end AlertRepository

/-! ## `AlertMonitorService` -/

namespace AlertMonitorService

open AlertRepository

/-- What `_consume` meets: the time, the support text if it can be read, which attempts to
fetch raise, and whether the two writes succeed. -/
structure Weather where
  now : Int
  support : Option String
  raises : Nat → Bool
  stores : Bool
  archives : Bool

/-- `_get_previous_alert`: `es_retry` attempts, and nothing when all of them raise. -/
def _get_previous_alert (es_retry : Nat) (weather : Weather) (alerts : AlertStore)
    (sensor_info module_type : String) : Option AlertModel :=
  match passed weather.raises es_retry 0 with
  | some _ => retrieve_by_sensor_info alerts sensor_info module_type
  | none => none

def _is_good_alert (state : String) : Bool := decide (state ∈ GOOD_ALERT)

def _is_bad_alert (state : String) : Bool := decide (state ∈ BAD_ALERT)

def _is_node_alert (resource_type : String) : Bool :=
  decide ((Text.split ':' resource_type).head? = some NODE)

def _is_high_risk_severity (severity : String) : Bool := decide (severity ∈ HIGH_RISK_SEVERITY)

/-- `_add_support_message`, where `_consume` calls it. -/
def supported (weather : Weather) (message : Message) : Message :=
  if _is_node_alert message.module_name && _is_high_risk_severity message.severity then
    if _is_bad_alert message.state then
      { message with support_message := weather.support.getD message.support_message }
    else message
  else message

def _is_duplicate_alert (new_alert : Message) (prev_alert : AlertModel) : Bool :=
  decide (new_alert.state = prev_alert.state)

/-- The parameters `_update_alert` builds, cleaned up. -/
def updateParams (weather : Weather) (update_bad_alert_flag : Bool) (alert : Message)
    (prev_alert : AlertModel) (update_resolve : Bool) : UpdateParams where
  support_message :=
    if _is_node_alert alert.module_name && _is_high_risk_severity alert.severity then
      alert.support_message
    else ""
  resolved := if update_resolve then alert.resolved else prev_alert.resolved
  state := alert.state
  severity := alert.severity
  updated_time := weather.now
  health := alert.health.getD ""
  description :=
    if update_bad_alert_flag || decide (alert.module_type = IEM) then
      some (alert.description.getD "")
    else none
  created_time := if alert.module_type = IEM then some alert.created_time else none

/-- `none` where the write raises. -/
def _update_alert (weather : Weather) (update_bad_alert_flag : Bool) (alert : Message)
    (prev_alert : AlertModel) (update_resolve : Bool) (alerts : AlertStore) : Option AlertStore :=
  if weather.stores then
    some (update_by_sensor_info alerts prev_alert.sensor_info prev_alert.module_type
      (updateParams weather update_bad_alert_flag alert prev_alert update_resolve))
  else none

def _resolve (weather : Weather) (alert : Message) (prev_alert : AlertModel)
    (alerts : AlertStore) : Option AlertStore :=
  if prev_alert.resolved then some alerts
  else _update_alert weather false alert { prev_alert with resolved := true } false alerts

/-- The write may raise; this is caught. -/
def _update_duplicate_alert (weather : Weather) (new_alert : Message) (prev_alert : AlertModel)
    (alerts : AlertStore) : AlertStore :=
  if weather.stores then
    alerts.upsert { AlertModel.ofMessage new_alert with
      alert_uuid := prev_alert.alert_uuid
      resolved := prev_alert.resolved
      acknowledged := prev_alert.acknowledged
      comments := prev_alert.comments
      updated_time := weather.now }
  else alerts

/-- The good half of `_resolve_alert`. -/
def resolveGood (weather : Weather) (new_alert : Message) (prev_alert : AlertModel)
    (alerts : AlertStore) : Option AlertStore :=
  if _is_good_alert new_alert.state then
    if _is_good_alert prev_alert.state then
      _update_alert weather false new_alert prev_alert false alerts
    else _resolve weather new_alert prev_alert alerts
  else some alerts

/-- The bad half. -/
def resolveBad (weather : Weather) (new_alert : Message) (prev_alert : AlertModel)
    (alerts : AlertStore) : Option AlertStore :=
  if _is_bad_alert new_alert.state then
    if _is_bad_alert prev_alert.state then
      _update_alert weather true new_alert prev_alert false alerts
    else _update_alert weather true new_alert prev_alert true alerts
  else some alerts

def _resolve_alert (weather : Weather) (new_alert : Message) (prev_alert : AlertModel)
    (alerts : AlertStore) : Option AlertStore :=
  if _is_duplicate_alert new_alert prev_alert then
    some (_update_duplicate_alert weather new_alert prev_alert alerts)
  else (resolveGood weather new_alert prev_alert alerts).bind
    (resolveBad weather new_alert prev_alert)

/-- The alert that is stored when there is no previous one. -/
def firstAlert (message : Message) : AlertModel :=
  if _is_good_alert message.state then { AlertModel.ofMessage message with resolved := true }
  else .ofMessage message

/-- The two ways of `_consume`: a new alert, or the previous one resolved or updated. -/
def recorded (weather : Weather) (message : Message) (alerts : AlertStore) :
    Option AlertModel → Option AlertStore
  | none => if weather.stores then some (alerts.upsert (firstAlert message)) else none
  | some prev_alert => _resolve_alert weather message prev_alert alerts

/-- `_consume`: whether the plugin may acknowledge the message, and the collections. -/
def _consume (es_retry : Nat) (weather : Weather) (message : Message) (s : AlertState) :
    Bool × AlertState :=
  let message := supported weather message
  let prev_alert :=
    _get_previous_alert es_retry weather s.alerts message.sensor_info message.module_type
  match recorded weather message s.alerts prev_alert with
  | none => (false, s)
  | some alerts =>
      if weather.archives then (true, ⟨alerts, s.history.upsert (.ofMessage message)⟩)
      else (false, ⟨alerts, s.history⟩)

end AlertMonitorService

/-! ## `AlertsAppService` -/

namespace AlertsAppService

open AlertRepository

/-- `alert.acknowledged = …`, and an IEM alert is resolved with it. -/
def acknowledge (now : Int) (acknowledged : Bool) (alert : AlertModel) : AlertModel :=
  { alert with
    acknowledged := acknowledged
    updated_time := now
    resolved := if alert.module_type = IEM then true else alert.resolved }

/-- `update_alert`; `acknowledged` is `fields["acknowledged"]`, if it is there, and `raises`
says that the retrieval does. -/
def update_alert (now : Int) (raises : Bool) (alert_id : String) (acknowledged : Option Bool)
    (s : AlertState) : Except Exc AlertModel × AlertState :=
  if raises then (.error .dataAccessError, s)
  else
    match retrieve s.alerts alert_id with
    | none => (.error (.csm (csmNotFoundError (some "Alert was not found") ALERTS_MSG_NOT_FOUND)), s)
    | some alert =>
        if alert.resolved && alert.acknowledged then
          (.error (.csm ⟨.InvalidRequest, CSM_INVALID_REQUEST,
            some "The alert is both resolved and acknowledged, it cannot be modified",
            some ALERTS_MSG_RESOLVED_AND_ACKED_ERROR, none⟩), s)
        else
          let alert :=
            match acknowledged with
            | some acknowledged => acknowledge now acknowledged alert
            | none => alert
          (.ok alert, { s with alerts := s.alerts.upsert alert })

/-- `update_all_alerts`; `raises n` says that the `n`-th retrieval does. -/
def update_all_alerts (now : Int) (raises : Nat → Bool) :
    List String → AlertState → Except Exc (List AlertModel) × AlertState
  | [], s => (.ok [], s)
  | alert_id :: rest, s =>
      if raises 0 then (.error .dataAccessError, s)
      else
        match retrieve s.alerts alert_id with
        | none =>
            (.error (.csm (csmNotFoundError (some ("Alert not found for id" ++ alert_id))
              ALERTS_MSG_NOT_FOUND)), s)
        | some alert =>
            let alert := acknowledge now true alert
            let r := update_all_alerts now (fun n => raises (n + 1)) rest
              { s with alerts := s.alerts.upsert alert }
            (r.1.map (alert :: ·), r.2)

end AlertsAppService

/-! ## Runs -/

/-- A message that is consumed, or a request. -/
inductive AlertCall
  | consume (weather : AlertMonitorService.Weather) (message : Message)
  | update_alert (now : Int) (raises : Bool) (alert_id : String) (acknowledged : Option Bool)
  | update_all_alerts (now : Int) (raises : Nat → Bool) (alert_ids : List String)

/-- One call, with `es_retry` attempts at a fetch. -/
def AlertCall.step (es_retry : Nat) (s : AlertState) : AlertCall → AlertState
  | .consume weather message => (AlertMonitorService._consume es_retry weather message s).2
  | .update_alert now raises alert_id acknowledged =>
      (AlertsAppService.update_alert now raises alert_id acknowledged s).2
  | .update_all_alerts now raises alert_ids =>
      (AlertsAppService.update_all_alerts now raises alert_ids s).2

end CortxCsm
