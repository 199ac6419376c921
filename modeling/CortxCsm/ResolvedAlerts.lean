/-
# `CortxCsm.ResolvedAlerts` — is `resolved` what the hardware says?

Messages write `state` and `resolved` together, in five places, and always so that `resolved`
says whether the state is a good one:

| | `resolved` |
| :-- | :-- |
| the first alert | set if it is good |
| good after good, bad after bad | as it was |
| good after anything else | set |
| bad after anything else | the message's, which the plugin leaves unset |
| a duplicate | as it was |

A user who acknowledges an IEM alert resolves it, which closes it.  One who takes the
acknowledgement back resolves it too, and then it is open, and resolved in a bad state.

**Proved here.**

    what each write of a message keeps             (`Mirrors.upsert`, `Mirrors.update`)
    exactly an unacknowledged IEM alert breaks it  (`mirrors_step`)
    in every state of every run                    (`resolved_mirrors_iff`)
-/
import CortxCsm.OpenAlerts

namespace CortxCsm

/-- Resolved exactly in a good state. -/
def AlertModel.Mirrored (alert : AlertModel) : Prop :=
  alert.resolved = true ↔ alert.state ∈ GOOD_ALERT

instance (alert : AlertModel) : Decidable alert.Mirrored := inferInstanceAs (Decidable (_ ↔ _))

/-- Of the open alerts. -/
def Mirrors (alerts : AlertStore) : Prop := ∀ alert ∈ alerts, alert.Open → alert.Mirrored

open AlertMonitorService AlertsAppService AlertRepository

namespace Mirrors

variable {alerts : AlertStore} {alert : AlertModel}

theorem upsert (h : Mirrors alerts) (hnew : alert.Open → alert.Mirrored) :
    Mirrors (alerts.upsert alert) := by
  intro a ha hao
  rcases Table.mem_upsert.mp ha with rfl | ⟨hain, -⟩
  · exact hnew hao
  · exact h a hain hao

/-- The open alerts of a sensor, with the mark of `Marks`. -/
theorem update (h : Mirrors alerts) {message : Message} (hmessage : message.resolved = false)
    {prev_alert : AlertModel} (hprev : prev_alert ∈ alerts) (hopen : prev_alert.Open)
    {update_params : UpdateParams} (hstate : update_params.state = message.state)
    (hmarks : Marks message prev_alert update_params.resolved) (sensor_info module_type : String) :
    Mirrors (update_by_sensor_info alerts sensor_info module_type update_params) := by
  have hold := h prev_alert hprev hopen
  -- the mark and the state agree, whatever the alert was
  have hagree : update_params.resolved = true ↔ message.state ∈ GOOD_ALERT := by
    rcases hmarks with ⟨hgood, hmarks⟩ | ⟨hbad, hmarks⟩
    · refine iff_of_true ?_ (of_decide_eq_true hgood)
      rcases hmarks with ⟨hprevgood, hres⟩ | ⟨-, -, hres⟩
      · rw [hres]
        exact hold.mpr (of_decide_eq_true hprevgood)
      · exact hres
    · have hnot : ∀ state, _is_bad_alert state = true → state ∉ GOOD_ALERT := by
        intro state hs hgood
        rw [not_bad_of_good (decide_eq_true hgood)] at hs
        cases hs
      refine iff_of_false ?_ (hnot _ hbad)
      rcases hmarks with ⟨hprevbad, hres⟩ | ⟨-, hres⟩
      · rw [hres]
        exact fun hr => hnot _ hprevbad (hold.mp hr)
      · rw [hres, hmessage]
        exact Bool.false_ne_true
  intro a ha hao
  obtain ⟨r, hr, rfl⟩ := Table.mem_updateWhere.mp ha
  split
  · show update_params.resolved = true ↔ update_params.state ∈ GOOD_ALERT
    rw [hstate]
    exact hagree
  · rename_i hp
    rw [if_neg hp] at hao
    exact h r hr hao

/-- Whatever a message does. -/
theorem consume {es_retry : Nat} {weather : Weather} {message : Message} {s : AlertState}
    (h : Mirrors s.alerts) (hmessage : message.resolved = false) :
    Mirrors (_consume es_retry weather message s).2.alerts := by
  obtain ⟨text, htext⟩ := supported_eq weather message
  rcases consume_cases es_retry weather message s with
    hsame | ⟨-, -, hfirst⟩ | ⟨prev_alert, hprev, hwrite⟩
  · exact hsame ▸ h
  · rw [hfirst]
    refine h.upsert fun _ => ?_
    rw [htext]
    unfold firstAlert
    split
    · rename_i hgood
      exact iff_of_true rfl (of_decide_eq_true hgood)
    · rename_i hgood
      refine iff_of_false ?_ fun hmem => hgood (decide_eq_true hmem)
      show ¬ message.resolved = true
      rw [hmessage]
      exact Bool.false_ne_true
  · obtain ⟨hmem, -, hopen⟩ := retrieve_by_sensor_info_eq_some hprev
    rcases hwrite with ⟨hstate, hdup⟩ | ⟨update_params, hstate, hmarks, hupdate⟩
    · rw [hdup]
      refine h.upsert fun _ => ?_
      show prev_alert.resolved = true ↔ (supported weather message).state ∈ GOOD_ALERT
      rw [hstate]
      exact h prev_alert hmem hopen
    · rw [hupdate]
      refine h.update ?_ hmem hopen hstate hmarks _ _
      rw [htext]
      exact hmessage

end Mirrors

/-! ## Runs -/

/-- As the plugin delivers them. -/
def AlertCall.Delivered : AlertCall → Prop
  | .consume _ message => message.resolved = false
  | _ => True

/-- A user takes back the acknowledgement of an open IEM alert that is in no good state. -/
def Unacknowledges (s : AlertState) : AlertCall → Prop
  | .update_alert _ raises alert_id (some false) =>
      raises = false ∧ ∃ alert ∈ s.alerts, alert.alert_uuid = alert_id ∧ alert.Open ∧
        alert.module_type = IEM ∧ alert.state ∉ GOOD_ALERT
  | _ => False

variable {s : AlertState}

/-- An acknowledged alert that is still open is no IEM alert. -/
theorem mirrored_acknowledge {alert : AlertModel} (now : Int) (h : alert.Open → alert.Mirrored)
    (hopen : (acknowledge now true alert).Open) : (acknowledge now true alert).Mirrored := by
  unfold AlertModel.Open acknowledge at hopen
  unfold AlertModel.Mirrored acknowledge
  dsimp only at hopen ⊢
  split at hopen
  · exact absurd ⟨rfl, rfl⟩ hopen
  · rename_i hiem
    rw [if_neg hiem]
    exact h fun hclosed => hopen ⟨rfl, hclosed.2⟩

theorem mirrors_update_alert (h : Mirrors s.alerts) (now : Int) (raises : Bool)
    (alert_id : String) (acknowledged : Option Bool) :
    Mirrors (update_alert now raises alert_id acknowledged s).2.alerts ↔
      ¬ Unacknowledges s (.update_alert now raises alert_id acknowledged) := by
  by_cases hun : Unacknowledges s (.update_alert now raises alert_id acknowledged)
  · refine iff_of_false (fun hafter => ?_) (not_not_intro hun)
    match acknowledged, hun with
    | some false, ⟨hraises, alert, hmem, huuid, hopen, hiem, hstate⟩ =>
        rw [hraises, ← huuid, update_alert_open hmem hopen] at hafter
        have hmirrored := hafter _ (Table.self_mem_upsert _ _) fun hclosed =>
          Bool.false_ne_true hclosed.1
        unfold AlertModel.Mirrored acknowledge at hmirrored
        rw [if_pos hiem] at hmirrored
        exact hstate (hmirrored.mp rfl)
  · refine iff_of_true ?_ hun
    rcases update_alert_cases now raises alert_id acknowledged s with
      hsame | ⟨alert, hmem, hraises, huuid, hopen, hwrite⟩
    · exact hsame ▸ h
    · rw [hwrite]
      refine h.upsert ?_
      cases acknowledged with
      | none => exact h alert hmem
      | some acknowledged =>
          cases acknowledged with
          | true => exact mirrored_acknowledge now (h alert hmem)
          | false =>
              intro _
              unfold AlertModel.Mirrored acknowledge
              dsimp only
              split
              · rename_i hiem
                refine iff_of_true rfl ?_
                by_contra hstate
                exact hun ⟨hraises, alert, hmem, huuid, hopen, hiem, hstate⟩
              · exact h alert hmem hopen

/-- One step. -/
theorem mirrors_step (es_retry : Nat) (call : AlertCall) (hcall : call.Delivered) (h : Mirrors s.alerts) :
    Mirrors (call.step es_retry s).alerts ↔ ¬ Unacknowledges s call := by
  cases call with
  | consume weather message => exact iff_of_true (h.consume hcall) id
  | update_alert now raises alert_id acknowledged =>
      exact mirrors_update_alert h now raises alert_id acknowledged
  | update_all_alerts now raises alert_ids =>
      refine iff_of_true (update_all_alerts_keeps ?_ alert_ids raises s h) id
      intro alerts alert hmem halerts
      exact halerts.upsert (mirrored_acknowledge now (halerts alert hmem))

/-- From an empty store, in every state of the run each open alert is resolved exactly in a good
state, unless somebody takes back the acknowledgement of an open IEM alert in another. -/
theorem resolved_mirrors_iff (es_retry : Nat) (calls : List AlertCall)
    (hcalls : ∀ call ∈ calls, call.Delivered) :
    (∀ s, Run.Reached (AlertCall.step es_retry) .empty calls s → Mirrors s.alerts) ↔
      ∀ v ∈ Run.visits (AlertCall.step es_retry) .empty calls, ¬ Unacknowledges v.1 v.2 :=
  Run.invariant_iff (fun s : AlertState => Mirrors s.alerts) (fun _ => mirrors_step es_retry) hcalls
    fun a ha => absurd ha (Table.not_mem_empty a)

/-! ## An IEM alert -/

/-- An alert of another subsystem. -/
def iemFault : AlertCall :=
  .consume ⟨0, none, fun _ => false, true, true⟩
    ⟨"i", "1_1_srvnode-1", IEM, IEM, "fault", "warning", false, false, none, none, "", 0, 0⟩

/-- It is acknowledged, which closes it. -/
theorem resolved_mirrors_iff_acknowledged :
    Mirrors (Run.run (AlertCall.step 5) .empty
      [iemFault, .update_alert 1 false "i" (some true)]).alerts := by
  refine (resolved_mirrors_iff 5 _ ?_).mpr ?_ _ ⟨_, List.prefix_rfl, rfl⟩
  · intro call hcall
    rcases List.mem_pair.mp hcall with rfl | rfl
    · exact rfl
    · trivial
  · intro v hv
    rcases List.mem_pair.mp hv with rfl | rfl
    · exact id
    · exact id

/-- Its acknowledgement is taken back. -/
theorem unacknowledged_resolved : ¬ ∀ calls : List AlertCall, (∀ call ∈ calls, call.Delivered) →
    ∀ s, Run.Reached (AlertCall.step 5) .empty calls s → Mirrors s.alerts := by
  intro h
  have hdelivered : ∀ call ∈ [iemFault, .update_alert 1 false "i" (some false)],
      call.Delivered := by
    intro call hcall
    rcases List.mem_pair.mp hcall with rfl | rfl
    · exact rfl
    · trivial
  have hreached := h _ hdelivered
  have hfirst := hreached _ ⟨[iemFault], ⟨_, rfl⟩, rfl⟩
  have hlast := hreached _ ⟨_, List.prefix_rfl, rfl⟩
  refine (mirrors_step 5 (.update_alert 1 false "i" (some false)) trivial hfirst).mp hlast ?_
  refine ⟨rfl, ?_⟩
  decide +kernel

end CortxCsm
