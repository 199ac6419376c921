/-
# `CortxCsm.AlertComments` — comments that are written over

`add_comment_to_alert`, `update_alert` and `update_all_alerts` retrieve an alert, change the
copy and store it whole; so does `_consume` with a duplicate.  Between the two awaits any other
call may write the alert, and is then written over.  `update_by_sensor_info` writes fields and
leaves the comments alone.

| a call writes | from |
| :-- | :-- |
| a comment more, an acknowledgement | the alert it retrieved |
| a duplicate | the previous alert it was given |
| a first alert | no alert: without comments |

**Proved here.**

    the comments that users were told are there are those that are shown,
    in every state, exactly when no alert is written from an older copy,
    nor a first alert over one of its id that has comments
    whatever is lost, the comments of an alert are numbered 1, 2, …
                                                              (`comments_exact`)
-/
import CortxCsm.OpenAlerts
import Mathlib.Logic.Function.Basic

namespace CortxCsm.AlertComments

open AlertRepository AlertMonitorService AlertsAppService Run

/-! ## The calls -/

def build_alert_comment_model (comment_id comment_text created_by : String) (now : Int) :
    CommentModel := ⟨comment_id, comment_text, created_by, now⟩

/-- `alert.resolved and alert.acknowledged`. -/
def closed (alert : AlertModel) : Bool := alert.resolved && alert.acknowledged

/-- What `add_comment_to_alert` stores of the alert it has, and the comment; `none` where it
refuses. -/
def commented (now : Int) (user_id comment_text : String) (alert : AlertModel) :
    Option (AlertModel × CommentModel) :=
  if closed alert then none
  else
    let alert_comment := build_alert_comment_model (toString (alert.comments.length + 1))
      comment_text user_id now
    some ({ alert with updated_time := now, comments := alert.comments ++ [alert_comment] },
      alert_comment)

/-- What `update_alert` stores. -/
def updated (now : Int) (acknowledged : Option Bool) (alert : AlertModel) : Option AlertModel :=
  if closed alert then none
  else
    match acknowledged with
    | some acknowledged => some (acknowledge now acknowledged alert)
    | none => some alert

/-- The alerts, and what each call that is under way has retrieved.  Nothing reads `told`: the
comments that users were told are added, by alert. -/
structure CommentState (Task : Type) where
  alerts : AlertStore
  held : Task → Option AlertModel
  told : String → List CommentModel

/-- No alert, no call. -/
def CommentState.start {Task : Type} : CommentState Task :=
  ⟨Table.empty, fun _ => none, fun _ => []⟩

inductive CommentAct (Task : Type)
  | retrieve (task : Task) (alert_id : String)
  | retrieve_by_sensor_info (task : Task) (sensor_info module_type : String)
  | add_comment_to_alert (task : Task) (now : Int) (user_id comment_text : String)
  | update_alert (task : Task) (now : Int) (acknowledged : Option Bool)
  | update_all_alerts (task : Task) (now : Int)
  | consume (task : Task) (weather : Weather) (message : Message)

variable {Task : Type}

/-- The call stores the alert whole, and tells its user of the comments. -/
def CommentState.write (s : CommentState Task) (alert : AlertModel)
    (comments : List CommentModel) : CommentState Task :=
  { s with
    alerts := s.alerts.upsert alert
    told := Function.update s.told alert.alert_uuid (s.told alert.alert_uuid ++ comments) }

section

variable [DecidableEq Task]

/-- The call keeps what it retrieved. -/
def CommentState.hold (s : CommentState Task) (task : Task) (alert : Option AlertModel) :
    CommentState Task := { s with held := Function.update s.held task alert }

/-- A step of a call: the retrieval, or the write after it. -/
def step (s : CommentState Task) : CommentAct Task → CommentState Task
  | .retrieve task alert_id => s.hold task (retrieve s.alerts alert_id)
  | .retrieve_by_sensor_info task sensor_info module_type =>
      s.hold task (AlertRepository.retrieve_by_sensor_info s.alerts sensor_info module_type)
  | .add_comment_to_alert task now user_id comment_text =>
      match (s.held task).bind (commented now user_id comment_text) with
      | none => s.hold task none
      | some (alert, alert_comment) => (s.write alert [alert_comment]).hold task none
  | .update_alert task now acknowledged =>
      match (s.held task).bind (updated now acknowledged) with
      | none => s.hold task none
      | some alert => (s.write alert []).hold task none
  | .update_all_alerts task now =>
      match s.held task with
      | none => s.hold task none
      | some alert => (s.write (acknowledge now true alert) []).hold task none
  | .consume task weather message =>
      match recorded weather message s.alerts (s.held task) with
      | none => s.hold task none
      | some alerts => { s with alerts }.hold task none

end

/-! ## What is shown -/

/-- The comments of `fetch_comments_for_alert`; none for an alert that is not there. -/
def CommentState.shown (s : CommentState Task) (alert_id : String) : List CommentModel :=
  ((retrieve s.alerts alert_id).map AlertModel.comments).getD []

/-- What users were told is what they are shown. -/
def Told (s : CommentState Task) : Prop := ∀ alert_id, s.told alert_id = s.shown alert_id

/-- The alert is written from a copy with other comments than it has by now; a first alert is
written from no copy, over one of its id that has comments. -/
def Stale (s : CommentState Task) : CommentAct Task → Prop
  | .add_comment_to_alert task _ _ _ | .update_alert task _ _ =>
      ∃ alert ∈ s.held task, closed alert = false ∧ s.shown alert.alert_uuid ≠ alert.comments
  | .update_all_alerts task _ =>
      ∃ alert ∈ s.held task, s.shown alert.alert_uuid ≠ alert.comments
  | .consume task weather message =>
      weather.stores = true ∧
        match s.held task with
        | none => s.shown message.alert_uuid ≠ []
        | some prev_alert => message.state = prev_alert.state ∧
            s.shown prev_alert.alert_uuid ≠ prev_alert.comments
  | _ => False

/-- The comments have the numbers from 1 on. -/
def Numbered (alert : AlertModel) : Prop :=
  alert.comments.map CommentModel.comment_id =
    (List.range alert.comments.length).map fun i => toString (i + 1)

/-- So they have in every alert, and in every copy. -/
structure AllNumbered (s : CommentState Task) : Prop where
  alerts : ∀ alert ∈ s.alerts, Numbered alert
  held : ∀ task, ∀ alert ∈ s.held task, Numbered alert

variable {s : CommentState Task} {task : Task} {alert : AlertModel}

/-! ## Writes -/

@[simp] theorem told_write_self (comments : List CommentModel) :
    (s.write alert comments).told alert.alert_uuid = s.told alert.alert_uuid ++ comments :=
  Function.update_self alert.alert_uuid _ s.told

theorem told_write_of_ne (comments : List CommentModel) {alert_id : String}
    (h : alert.alert_uuid ≠ alert_id) : (s.write alert comments).told alert_id = s.told alert_id :=
  Function.update_of_ne (Ne.symm h) _ s.told

theorem shown_write (comments : List CommentModel) (alert_id : String) :
    (s.write alert comments).shown alert_id =
      if alert.alert_uuid = alert_id then alert.comments else s.shown alert_id := by
  unfold CommentState.shown CommentState.write
  dsimp only
  rw [retrieve, Table.find?_upsert]
  by_cases hid : alert.alert_uuid = alert_id
  · rw [if_pos hid, if_pos hid]
    rfl
  · rw [if_neg hid, if_neg hid]
    rfl

/-- A whole alert that is written leaves the comments as they were told exactly if it has those
that were shown, and the new ones after them. -/
theorem told_write_iff (h : Told s) (comments : List CommentModel) :
    Told (s.write alert comments) ↔ s.shown alert.alert_uuid ++ comments = alert.comments := by
  constructor
  · intro htold
    have hnow := htold alert.alert_uuid
    rw [shown_write, if_pos rfl, told_write_self, h] at hnow
    exact hnow
  · intro heq alert_id
    rw [shown_write]
    by_cases hid : alert.alert_uuid = alert_id
    · subst hid
      rw [if_pos rfl, ← heq, ← h, told_write_self]
    · rw [if_neg hid, ← h, told_write_of_ne comments hid]

/-- A write that tells of no comments. -/
theorem told_silent_iff (h : Told s) :
    Told { s with alerts := s.alerts.upsert alert } ↔
      s.shown alert.alert_uuid = alert.comments := by
  have hwrite : s.write alert [] = { s with alerts := s.alerts.upsert alert } := by
    unfold CommentState.write
    rw [List.append_nil, Function.update_eq_self]
  rw [← hwrite, told_write_iff h, List.append_nil]

/-- An update of fields leaves the comments. -/
theorem shown_update (sensor_info module_type : String) (update_params : UpdateParams)
    (alert_id : String) :
    CommentState.shown { s with
      alerts := update_by_sensor_info s.alerts sensor_info module_type update_params } alert_id =
        s.shown alert_id := by
  have hfind : retrieve (update_by_sensor_info s.alerts sensor_info module_type update_params)
      alert_id = (retrieve s.alerts alert_id).map fun alert : AlertModel =>
        if openFor sensor_info module_type alert = true then update_params.apply alert
        else alert := Table.find?_updateWhere s.alerts alert_id
  unfold CommentState.shown
  dsimp only
  rw [hfind, Option.map_map]
  have hsame : (AlertModel.comments ∘ fun alert : AlertModel =>
      if openFor sensor_info module_type alert = true then update_params.apply alert else alert) =
        AlertModel.comments := by
    funext alert
    dsimp only [Function.comp_apply]
    split
    · rfl
    · rfl
  rw [hsame]

theorem numbered_append (h : Numbered alert) {alert' : AlertModel} {comment : CommentModel}
    (hid : comment.comment_id = toString (alert.comments.length + 1))
    (hcomments : alert'.comments = alert.comments ++ [comment]) : Numbered alert' := by
  unfold Numbered at h ⊢
  rw [hcomments, List.map_append, h, List.length_append, List.length_singleton,
    List.range_succ, List.map_append]
  simp only [List.map_cons, List.map_nil, hid]

theorem numbered_of_eq (h : Numbered alert) {alert' : AlertModel}
    (hcomments : alert'.comments = alert.comments) : Numbered alert' := by
  unfold Numbered
  rw [hcomments]
  exact h

/-! ## Steps -/

theorem closed_of_commented {now : Int} {user_id comment_text : String}
    {alert' : AlertModel} {comment : CommentModel}
    (h : commented now user_id comment_text alert = some (alert', comment)) :
    closed alert = false ∧ alert'.alert_uuid = alert.alert_uuid ∧
      alert'.comments = alert.comments ++ [comment] ∧
        comment.comment_id = toString (alert.comments.length + 1) := by
  unfold commented at h
  split at h
  · cases h
  · rename_i hopen
    cases h
    exact ⟨Bool.eq_false_iff.mpr hopen, rfl, rfl, rfl⟩

theorem commented_isSome {now : Int} {user_id comment_text : String}
    (h : commented now user_id comment_text alert = none) : closed alert = true := by
  unfold commented at h
  split at h
  · rename_i hclosed
    exact hclosed
  · cases h

theorem closed_of_updated {now : Int} {acknowledged : Option Bool} {alert' : AlertModel}
    (h : updated now acknowledged alert = some alert') :
    closed alert = false ∧ alert'.alert_uuid = alert.alert_uuid ∧
      alert'.comments = alert.comments := by
  unfold updated at h
  split at h
  · cases h
  · rename_i hopen
    refine ⟨Bool.eq_false_iff.mpr hopen, ?_⟩
    split at h
    · cases h
      exact ⟨rfl, rfl⟩
    · cases h
      exact ⟨rfl, rfl⟩

theorem updated_isSome {now : Int} {acknowledged : Option Bool}
    (h : updated now acknowledged alert = none) : closed alert = true := by
  unfold updated at h
  split at h
  · rename_i hclosed
    exact hclosed
  · split at h
    · cases h
    · cases h

theorem comments_firstAlert (message : Message) :
    (firstAlert message).alert_uuid = message.alert_uuid ∧ (firstAlert message).comments = [] := by
  unfold firstAlert
  split
  · exact ⟨rfl, rfl⟩
  · exact ⟨rfl, rfl⟩

/-- The alerts that `_consume` leaves. -/
def consumed (s : CommentState Task) (task : Task) (weather : Weather) (message : Message) :
    CommentState Task :=
  { s with alerts := (recorded weather message s.alerts (s.held task)).getD s.alerts }

theorem told_consumed_iff (h : Told s) (weather : Weather) (message : Message) :
    Told (consumed s task weather message) ↔ ¬ Stale s (.consume task weather message) := by
  simp only [consumed, Stale]
  cases hheld : s.held task with
  | none =>
      dsimp only [recorded]
      by_cases hstores : weather.stores = true
      · obtain ⟨hid, hnone⟩ := comments_firstAlert message
        rw [if_pos hstores, Option.getD_some, told_silent_iff h, hid, hnone]
        simp [hstores]
      · rw [if_neg hstores]
        exact iff_of_true h fun hn => hstores hn.1
  | some prev_alert =>
      dsimp only [recorded]
      by_cases hstate : message.state = prev_alert.state
      · have hdup : _is_duplicate_alert message prev_alert = true := decide_eq_true hstate
        rw [_resolve_alert, if_pos hdup, Option.getD_some, _update_duplicate_alert]
        by_cases hstores : weather.stores = true
        · rw [if_pos hstores, told_silent_iff h]
          simp [hstores, hstate]
        · rw [if_neg hstores]
          exact iff_of_true h fun hn => hstores hn.1
      · refine iff_of_true ?_ fun hn => hstate hn.2.1
        cases hresolve : _resolve_alert weather message prev_alert s.alerts with
        | none => exact h
        | some alerts =>
            rcases resolve_alert_cases hresolve with
              ⟨hsame, -⟩ | rfl | ⟨update_params, -, -, rfl⟩
            · exact absurd hsame hstate
            · exact h
            · intro alert_id
              rw [Option.getD_some, shown_update]
              exact h alert_id

theorem numbered_consumed (h : AllNumbered s) (weather : Weather) (message : Message) :
    ∀ alert ∈ (consumed s task weather message).alerts, Numbered alert := by
  have hupsert : ∀ new : AlertModel, Numbered new → ∀ alert ∈ s.alerts.upsert new,
      Numbered alert := by
    intro new hnew alert halert
    rcases Table.mem_upsert.mp halert with rfl | ⟨hold, -⟩
    · exact hnew
    · exact h.alerts alert hold
  unfold consumed
  cases hrecorded : recorded weather message s.alerts (s.held task) with
  | none => exact h.alerts
  | some alerts =>
      rw [Option.getD_some]
      cases hheld : s.held task with
      | none =>
          rw [hheld] at hrecorded
          obtain ⟨-, rfl⟩ := recorded_first hrecorded
          refine hupsert _ ?_
          unfold Numbered
          rw [(comments_firstAlert message).2]
          rfl
      | some prev_alert =>
          rw [hheld] at hrecorded
          rcases resolve_alert_cases hrecorded with ⟨-, rfl⟩ | rfl | ⟨update_params, -, -, rfl⟩
          · exact hupsert _ (numbered_of_eq (h.held task prev_alert hheld) rfl)
          · exact h.alerts
          · intro alert halert
            have hmem : alert ∈ update_by_sensor_info s.alerts prev_alert.sensor_info
                prev_alert.module_type update_params := halert
            obtain ⟨row, hrow, rfl⟩ := Table.mem_updateWhere.mp hmem
            refine numbered_of_eq (h.alerts row hrow) ?_
            split
            · rfl
            · rfl

variable [DecidableEq Task]

theorem told_hold_iff (copy : Option AlertModel) : Told (s.hold task copy) ↔ Told s := Iff.rfl

theorem step_consume (weather : Weather) (message : Message) :
    step s (.consume task weather message) =
      (consumed s task weather message).hold task none := by
  unfold step consumed
  dsimp only
  cases recorded weather message s.alerts (s.held task) with
  | none => rfl
  | some alerts => rfl

/-- A step leaves the comments as they were told exactly if it is not stale. -/
theorem told_step_iff (h : Told s) (a : CommentAct Task) : Told (step s a) ↔ ¬ Stale s a := by
  cases a with
  | retrieve task alert_id => exact iff_of_true h fun hn => hn
  | retrieve_by_sensor_info task sensor_info module_type => exact iff_of_true h fun hn => hn
  | add_comment_to_alert task now user_id comment_text =>
      cases hheld : s.held task with
      | none =>
          simp only [step, Stale, hheld, Option.bind_none]
          exact iff_of_true h (by simp)
      | some alert =>
          simp only [step, Stale, hheld, Option.bind_some]
          cases hcommented : commented now user_id comment_text alert with
          | none =>
              have hclosed := commented_isSome hcommented
              exact iff_of_true h (by simp [hclosed])
          | some r =>
              obtain ⟨alert', comment⟩ := r
              obtain ⟨hopen, hid, hcomments, -⟩ := closed_of_commented hcommented
              dsimp only
              rw [told_hold_iff, told_write_iff h, hid, hcomments, List.append_left_inj]
              simp [hopen]
  | update_alert task now acknowledged =>
      cases hheld : s.held task with
      | none =>
          simp only [step, Stale, hheld, Option.bind_none]
          exact iff_of_true h (by simp)
      | some alert =>
          simp only [step, Stale, hheld, Option.bind_some]
          cases hupdated : updated now acknowledged alert with
          | none =>
              have hclosed := updated_isSome hupdated
              exact iff_of_true h (by simp [hclosed])
          | some alert' =>
              obtain ⟨hopen, hid, hcomments⟩ := closed_of_updated hupdated
              dsimp only
              rw [told_hold_iff, told_write_iff h, hid, hcomments, List.append_nil]
              simp [hopen]
  | update_all_alerts task now =>
      cases hheld : s.held task with
      | none =>
          simp only [step, Stale, hheld]
          exact iff_of_true h (by simp)
      | some alert =>
          simp only [step, Stale, hheld]
          rw [told_hold_iff, told_write_iff h, List.append_nil]
          simp [acknowledge]
  | consume task weather message =>
      rw [step_consume, told_hold_iff]
      exact told_consumed_iff h weather message

theorem held_hold_self (copy : Option AlertModel) : (s.hold task copy).held task = copy := by
  simp [CommentState.hold]

theorem held_hold_of_ne (copy : Option AlertModel) {task' : Task} (h : task' ≠ task) :
    (s.hold task copy).held task' = s.held task' := by
  simp [CommentState.hold, h]

theorem AllNumbered.hold (h : AllNumbered s) {copy : Option AlertModel}
    (hcopy : ∀ alert ∈ copy, Numbered alert) : AllNumbered (s.hold task copy) where
  alerts := h.alerts
  held task' alert' h' := by
    by_cases htask : task' = task
    · subst htask
      rw [held_hold_self] at h'
      exact hcopy alert' h'
    · rw [held_hold_of_ne copy htask] at h'
      exact h.held task' alert' h'

theorem AllNumbered.drop (h : AllNumbered s) : AllNumbered (s.hold task none) :=
  h.hold fun _ hn => nomatch hn

omit [DecidableEq Task] in
theorem AllNumbered.write (h : AllNumbered s) (hnew : Numbered alert)
    (comments : List CommentModel) : AllNumbered (s.write alert comments) where
  alerts alert' h' := by
    rcases Table.mem_upsert.mp h' with rfl | ⟨hold, -⟩
    · exact hnew
    · exact h.alerts alert' hold
  held := h.held

theorem AllNumbered.step (h : AllNumbered s) (a : CommentAct Task) : AllNumbered (step s a) := by
  cases a with
  | retrieve task alert_id =>
      exact h.hold fun alert halert => h.alerts alert (Table.find?_eq_some.mp halert).1
  | retrieve_by_sensor_info task sensor_info module_type =>
      exact h.hold fun alert halert => h.alerts alert (List.mem_of_find?_eq_some halert)
  | add_comment_to_alert task now user_id comment_text =>
      simp only [AlertComments.step]
      split
      · exact h.drop
      · rename_i alert' comment hbind
        obtain ⟨alert, hheld, hcommented⟩ := Option.bind_eq_some_iff.mp hbind
        obtain ⟨-, -, hcomments, hid⟩ := closed_of_commented hcommented
        exact (h.write (numbered_append (h.held task alert hheld) hid hcomments) _).drop
  | update_alert task now acknowledged =>
      simp only [AlertComments.step]
      split
      · exact h.drop
      · rename_i alert' hbind
        obtain ⟨alert, hheld, hupdated⟩ := Option.bind_eq_some_iff.mp hbind
        obtain ⟨-, -, hcomments⟩ := closed_of_updated hupdated
        exact (h.write (numbered_of_eq (h.held task alert hheld) hcomments) _).drop
  | update_all_alerts task now =>
      simp only [AlertComments.step]
      split
      · exact h.drop
      · rename_i alert hheld
        have hnew : Numbered (acknowledge now true alert) :=
          numbered_of_eq (h.held task alert hheld) rfl
        exact (h.write hnew _).drop
  | consume task weather message =>
      rw [step_consume]
      exact AllNumbered.drop ⟨numbered_consumed h weather message, h.held⟩

/-- **Comments.**  Over any interleaving of the calls: in every state the comments shown of every
alert are those that users were told were added, in that order, exactly if no alert is written
from a copy with other comments than it has by then.  In any case the comments of an alert are
numbered from 1 on. -/
theorem comments_exact (acts : List (CommentAct Task)) :
    ((∀ t, Reached step .start acts t → Told t) ↔
        ∀ v ∈ visits step .start acts, ¬ Stale v.1 v.2) ∧
      ∀ t, Reached step .start acts t → ∀ alert ∈ t.alerts, Numbered alert := by
  have hstart : Told (.start : CommentState Task) := fun _ => rfl
  have hnumbered : AllNumbered (.start : CommentState Task) :=
    ⟨fun alert h => absurd h (Table.not_mem_empty alert), fun _ _ h => nomatch h⟩
  constructor
  · exact invariant_iff Told (P := fun _ => True) (fun s a _ h => told_step_iff h a)
      (fun _ _ => trivial) hstart
  · rintro t ⟨pre, -, rfl⟩
    exact (invariant_run (P := fun _ => True) (fun s a _ h => h.step a)
      (fun _ _ => trivial) hnumbered).alerts

end CortxCsm.AlertComments
