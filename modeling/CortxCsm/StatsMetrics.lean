/-
# `CortxCsm.StatsMetrics` — metrics of several panels in one answer

`StatsAppService.get_metrics` (`stats.py`) takes names such as `throughput.read.mb` and
`iops.read_object`.  It sorts them by panel into a list of metrics and a list of units, has
`TimelionProvider.process_request` (`timeseries.py`) answer each panel, and puts the answers
together.  The units of a panel are completed by `_get_metric_list`, in place, and used by
`_convert_payload`, by the position of the series.

    throughput.read.mb      throughput: metric [read, write], unit [mb, ""]
    iops.read_object        iops:       metric [read_object], unit [""]
    throughput.write

Timelion's answer has `null` for a time without data.  `_modify_throughput` takes it as zero;
for the other panels it goes on to `_get_list`, which formats it as a number.

**Proved here.**

    each panel has its names, in their order                  (`groupMetrics_ok`)
    a name, its unit and its series stay together             (`convert_group`)
    a panel is answered as long as no `null` is formatted     (`process_group`, `process_null`)
    every name has one entry with its unit exactly then       (`get_metrics_iff`)
-/
import CortxCsm.Lib.Groups
import CortxCsm.TimelionRequest

namespace CortxCsm

namespace StatsMetrics

open JsonText TimelionIndex TimelionRequest TimelionWindow

/-! ## The provider -/

/-- The points of a metric: times, each with a value or `null`. -/
structure Series (N : Type) where
  label : String
  data : List (Int × Option N)

/-- What Timelion returns, read by `json.loads`: the list of its first sheet, or a message (and
the text of the whole answer). -/
inductive Answer (N : Type)
  | sheet (list : List (Series N))
  | message (message text : String)

/-- A `TimelionProvider` after `init`, with what it takes from the interpreter: reading and
showing, and the numbers that points have. -/
structure Provider (N : Type) where
  int : String → Option Int
  lower : String → String
  str : CsmError → String
  zero : N
  negative : N → Bool
  div : N → Nat → N
  /-- `float("{:.2f}".format(value))`. -/
  round : N → N
  _storage_interval : Int
  _offset_interval : Int
  _aggr_rule : AggrRule
  /-- `_query`, and `json.loads` of the text that it returns. -/
  _query : Value → Except StatsExc (Answer N)

inductive Data (N : Type)
  | points (li : List (Int × Option N))
  | lists (time_li : List Int) (data_li : List N)

structure Entry (N : Type) where
  data : Data N
  name : String
  unit : String

structure Payload (N : Type) where
  id : Option String
  stats : String
  list : List (Entry N)

/-- A list of units, or one unit. -/
inductive UnitArg
  | list (unit : List String)
  | text (unit : String)

def _SIZE_DIV (unit : String) : Option Nat :=
  if unit = "bytes" then some 1
  else if unit = "kb" then some 1024
  else if unit = "mb" then some 1048576
  else if unit = "gb" then some 1073741824
  else none

/-- `CsmInternalError(desc)`. -/
def internalError (desc : String) : StatsExc := .csm (csmInternalError desc)

def unitOr (panel_unit unit : String) : String := if unit ≠ "" then unit else panel_unit

/-- The loop of `_get_metric_list`, where there is a list of units. -/
def completeUnits (panel panel_unit : String) (aggr_panel : Dict String String) :
    List String → List String → Except StatsExc (List String)
  | [], units => .ok units
  | metric :: metric_list, units =>
      if metric ∉ aggr_panel.keys then
        .error (internalError ("Invalid label " ++ metric ++ " for " ++ panel))
      else match units with
        | [] => .error .indexError
        | unit :: units => do
            let rest ← completeUnits panel panel_unit aggr_panel metric_list units
            return unitOr panel_unit unit :: rest

/-- And where there is one unit. -/
def repeatUnit (panel unit : String) (aggr_panel : Dict String String) :
    List String → Except StatsExc (List String)
  | [] => .ok []
  | metric :: metric_list =>
      if metric ∉ aggr_panel.keys then
        .error (internalError ("Invalid label " ++ metric ++ " for " ++ panel))
      else do
        let rest ← repeatUnit panel unit aggr_panel metric_list
        return unit :: rest

section Provider

variable {N : Type} (p : Provider N)

def _get_metric_list (panel : String) (metric_list : List String) (unit : UnitArg) :
    Except StatsExc (List String × List String) :=
  match p._aggr_rule.get? panel with
  | none => .error .keyError
  | some rule => do
      let metric_list := if metric_list.length = 0 then rule.metrics.keys else metric_list
      let unit_li ← match unit with
        | .list unit => completeUnits panel rule.unit rule.metrics metric_list unit
        | .text unit => repeatUnit panel (unitOr rule.unit unit) rule.metrics metric_list
      return (metric_list, unit_li)

/-- The value of a point of the throughput. -/
def valueOf (value : Option N) : N :=
  match value with
  | none => p.zero
  | some value => if p.negative value then p.zero else value

def _modify_throughput (datapoint : List (Int × Option N)) (unit : String) :
    Except StatsExc (List (Int × Option N)) :=
  match _SIZE_DIV unit with
  | none => .error (internalError ("Invalid unit for stats " ++ unit))
  | some unit_val =>
      .ok (datapoint.map fun point => (point.1, some (p.div (valueOf p point.2) unit_val)))

def _modify_panel_val (datapoint : List (Int × Option N)) (panel unit : String) :
    Except StatsExc (List (Int × Option N)) :=
  if panel = "throughput" then _modify_throughput p datapoint unit else .ok datapoint

/-- `"{:.2f}".format(None)` raises. -/
def _get_list (li : List (Int × Option N)) : Except StatsExc (Data N) := do
  let data_li ← li.mapM fun item =>
    match item.2 with
    | none => .error .typeError
    | some value => .ok (p.round value)
  return .lists (li.map Prod.fst) data_li

def formatted (output_format : String) (datapoint : List (Int × Option N)) :
    Except StatsExc (Data N) :=
  if output_format = "gui" then _get_list p datapoint else .ok (.points datapoint)

/-- The series at a position, with the unit at it. -/
def operationStats (panel output_format : String) (units : List String)
    (item : Series N × Nat) : Except StatsExc (Entry N) :=
  match units[item.2]? with
  | none => .error .indexError
  | some unit => do
      let datapoint ← _modify_panel_val p item.1.data panel unit
      let data ← formatted p output_format datapoint
      return ⟨data, panel ++ "." ++ item.1.label, unit⟩

def _convert_payload (res : Answer N) (stats_id : Option String) (panel output_format : String)
    (units : List String) : Except StatsExc (Payload N) :=
  match res with
  | .sheet list => do
      let li ← list.zipIdx.mapM (operationStats p panel output_format units)
      return ⟨stats_id, panel, li⟩
  | .message message text =>
      if occurs "index not found" message || occurs "index_not_found_exception" message then
        .ok ⟨stats_id, panel, []⟩
      else
        .error (internalError
          ("Failed to convert timelion response.                 " ++ text))

/-- A time of the window, as a text. -/
def timeText (seconds : Int) : Except StatsExc String :=
  match utcfromtimestamp seconds with
  | none => .error .valueError
  | some time => .ok time.timestamp

/-- What is done inside the `try` of `process_request`. -/
def answerRequest (stats_id : Option String) (panel : String) (from_t duration_t : Option String)
    (metric_list : List String) (interval total_sample : String) (unit : UnitArg)
    (output_format query : String) : Except StatsExc (Payload N) := do
  let (interval, duration_t, from_t) ← _parse_interval p.int p._storage_interval
    p._offset_interval from_t duration_t interval total_sample
  let from_t ← timeText from_t
  let duration_t ← timeText duration_t
  let panel := p.lower panel
  let (metric_list, unit_list) ← _get_metric_list p panel metric_list unit
  let res ← _aggregate_metric p._query p._aggr_rule panel from_t duration_t interval metric_list
    query
  _convert_payload p res stats_id panel output_format unit_list

/-- The `except` clauses of `process_request`. -/
def raisedAgain (stats_id : Option String) : StatsExc → StatsExc
  | .csm e =>
      let desc := "id: " ++ stats_id.getD "None" ++ ", Error: Failed to process request " ++ p.str e
      if e.cls = .InvalidRequest then TimelionWindow.invalidRequest desc
      else if e.cls = .CsmInternalError then internalError desc
      else .csm e
  | e => e

def process_request (stats_id : Option String) (panel : String) (from_t duration_t : Option String)
    (metric_list : List String) (interval total_sample : String) (unit : UnitArg)
    (output_format query : String) : Except StatsExc (Payload N) :=
  (answerRequest p stats_id panel from_t duration_t metric_list interval total_sample unit
    output_format query).mapError (raisedAgain p stats_id)

/-! ## `get_metrics` -/

/-- The metrics and units of a panel. -/
structure Group where
  metric : List String
  unit : List String

/-- `panels`, with one more name; `none` for an `IndexError`. -/
def addMetric (panels : Dict String Group) (metric : String) : Option (Dict String Group) :=
  match Text.split '.' metric with
  | panel :: name :: rest =>
      let group := (panels.get? panel).getD ⟨[], []⟩
      some (panels.set panel ⟨group.metric ++ [name], group.unit ++ [rest.headD ""]⟩)
  | _ => none

/-- What is returned; the `id` is left out where there is none. -/
structure Output (N : Type) where
  id : Option String
  metrics : List (Entry N)

/-- `repr` shows a list. -/
def get_metrics (repr : List String → String) (stats_id : Option String)
    (metrics_list : List String) (from_t to_t : Option String)
    (interval total_sample output_format : String) : Except StatsExc (Output N) :=
  match metrics_list.foldlM addMetric Table.empty with
  | none =>
      .error (TimelionWindow.invalidRequest ("Invalid metric list for Stats " ++ repr metrics_list))
  | some panels => do
      let data_list ← panels.rows.mapM fun item =>
        process_request p stats_id item.1 from_t to_t item.2.metric interval total_sample
          (.list item.2.unit) output_format ""
      return ⟨stats_id.filter (· ≠ ""), data_list.flatMap Payload.list⟩

end Provider

/-! ## What is asked for -/

structure Request where
  panel : String
  metric : String
  unit : Option String

/-- `panel.metric` or `panel.metric.unit`. -/
def Request.text (r : Request) : String := Text.join '.' (r.panel :: r.metric :: r.unit.toList)

def Request.unitText (r : Request) : String := r.unit.getD ""

/-- The metrics of a panel, in the order of the request. -/
def metricsOf (panel : String) (requests : List Request) : List String :=
  (Groups.members Request.panel panel requests).map Request.metric

def unitsOf (panel : String) (requests : List Request) : List String :=
  (Groups.members Request.panel panel requests).map Request.unitText

section Asked

variable {N : Type} (p : Provider N)

/-- The unit that is asked for, or the default of the panel. -/
def wantedUnit (r : Request) : String :=
  unitOr ((p._aggr_rule.get? r.panel).elim "" Panel.unit) r.unitText

def wanted (r : Request) : String × String := (r.panel ++ "." ++ r.metric, wantedUnit p r)

/-- A panel and a metric of the rule, and a unit that the throughput has. -/
structure Known (r : Request) : Prop where
  parts : ∀ part ∈ r.panel :: r.metric :: r.unit.toList, '.' ∉ part.toList
  lower : p.lower r.panel = r.panel
  metric : ∃ rule, p._aggr_rule.get? r.panel = some rule ∧ HasMetric rule r.metric
  unit : r.panel = "throughput" → ∃ divisor, _SIZE_DIV (wantedUnit p r) = some divisor

/-- A window that is accepted, with its interval and its ends as times. -/
def Window (from_t to_t : Option String) (interval total_sample text : String)
    (from_time to_time : DateTime) : Prop :=
  ∃ later earlier, _parse_interval p.int p._storage_interval p._offset_interval from_t to_t
      interval total_sample = .ok (text, later, earlier) ∧
    utcfromtimestamp earlier = some from_time ∧ utcfromtimestamp later = some to_time

/-- Timelion returns, for what is posted for a panel, one labelled series for each of its metrics
in their order. -/
def Served (answer : String → List (Series N)) (requests : List Request)
    (from_time to_time : DateTime) (text : String) : Prop :=
  ∀ panel ∈ requests.map Request.panel,
    (answer panel).map Series.label = metricsOf panel requests ∧
    ∀ data, posted p._aggr_rule panel from_time.timestamp to_time.timestamp text
        (metricsOf panel requests) "" = .ok data →
      p._query data = .ok (.sheet (answer panel))

/-- The values of the throughput, divided, in the format that is asked for. -/
def throughputData (divisor : Nat) (output_format : String) (data : List (Int × Option N)) :
    Data N :=
  if output_format = "gui" then
    .lists (data.map Prod.fst) (data.map fun point => p.round (p.div (valueOf p point.2) divisor))
  else .points (data.map fun point => (point.1, some (p.div (valueOf p point.2) divisor)))

/-- An entry for a name, made of one of the series with its label. -/
def EntryFor (output_format : String) (series : List (Series N)) (e : Entry N) (r : Request) :
    Prop :=
  (e.name, e.unit) = wanted p r ∧ ∃ s ∈ series, s.label = r.metric ∧
    (r.panel = "throughput" → ∃ divisor, _SIZE_DIV e.unit = some divisor ∧
      e.data = throughputData p divisor output_format s.data)

/-- Every name has one entry, with its unit. -/
def Answered (output_format : String) (answer : String → List (Series N))
    (requests : List Request) (result : Except StatsExc (Output N)) : Prop :=
  ∃ output, result = .ok output ∧
    (output.metrics.map fun e => (e.name, e.unit)).Perm (requests.map (wanted p)) ∧
    ∀ e ∈ output.metrics, ∃ r ∈ requests, EntryFor p output_format (answer r.panel) e r

end Asked

/-! ## Points -/

section Points

variable {N : Type} {p : Provider N}

theorem get_list_null {li : List (Int × Option N)} (h : ∃ item ∈ li, item.2 = none) :
    _get_list p li = .error .typeError := by
  have hmap : ∀ li : List (Int × Option N), (∃ item ∈ li, item.2 = none) →
      (li.mapM fun item =>
        match item.2 with
        | none => (.error .typeError : Except StatsExc N)
        | some value => .ok (p.round value)) = .error .typeError := by
    intro li
    induction li with
    | nil =>
        rintro ⟨item, hitem, -⟩
        exact absurd hitem List.not_mem_nil
    | cons item li ih =>
        rintro ⟨null, hnull, hnone⟩
        rw [List.mapM_cons]
        cases hvalue : item.2 with
        | none => rfl
        | some value =>
            have hrest : null ∈ li := by
              rcases List.mem_cons.mp hnull with rfl | hrest
              · rw [hnone] at hvalue
                cases hvalue
              · exact hrest
            rw [ih ⟨null, hrest, hnone⟩]
            rfl
  rw [_get_list, hmap li h]
  rfl

theorem get_list_map {α : Type} (time : α → Int) (value : α → N) (xs : List α) :
    _get_list p (xs.map fun x => (time x, some (value x))) =
      .ok (.lists (xs.map time) (xs.map fun x => p.round (value x))) := by
  have hmap : ∀ xs : List α, ((xs.map fun x => (time x, some (value x))).mapM fun item =>
        match item.2 with
        | none => (.error .typeError : Except StatsExc N)
        | some value => .ok (p.round value)) = .ok (xs.map fun x => p.round (value x)) := by
    intro xs
    induction xs with
    | nil => rfl
    | cons x xs ih =>
        rw [List.map_cons, List.mapM_cons, ih]
        rfl
  rw [_get_list, hmap xs, List.map_map]
  rfl

/-- Points without a `null` are formatted. -/
theorem get_list_ok {li : List (Int × Option N)} (h : ∀ item ∈ li, item.2 ≠ none) :
    ∃ data, _get_list p li = .ok data := by
  have hvalues : li = li.map fun item => (item.1, some (item.2.getD p.zero)) := by
    have hsame : ∀ item ∈ li, (item.1, some (item.2.getD p.zero)) = item := by
      rintro ⟨time, value⟩ hitem
      cases value with
      | none => exact absurd rfl (h _ hitem)
      | some value => rfl
    rw [List.map_congr_left hsame, List.map_id']
  rw [hvalues, get_list_map]
  exact ⟨_, rfl⟩

end Points

/-! ## A panel -/

section Panels

variable {N : Type} {p : Provider N} {panel output_format : String}

/-- Whether the points of a series can be formatted. -/
def Formattable (panel output_format : String) (s : Series N) : Prop :=
  output_format = "gui" → panel ≠ "throughput" → ∀ point ∈ s.data, point.2 ≠ none

theorem operationStats_ok {units : List String} {s : Series N} {i : Nat} {unit : String}
    (hget : units[i]? = some unit)
    (hunit : panel = "throughput" → ∃ divisor, _SIZE_DIV unit = some divisor)
    (hformat : Formattable panel output_format s) :
    ∃ data, operationStats p panel output_format units (s, i) =
        .ok ⟨data, panel ++ "." ++ s.label, unit⟩ ∧
      (panel = "throughput" → ∃ divisor, _SIZE_DIV unit = some divisor ∧
        data = throughputData p divisor output_format s.data) := by
  unfold operationStats
  rw [hget]
  dsimp only
  by_cases hpanel : panel = "throughput"
  · obtain ⟨divisor, hdivisor⟩ := hunit hpanel
    rw [_modify_panel_val, if_pos hpanel, _modify_throughput, hdivisor]
    refine ⟨throughputData p divisor output_format s.data, ?_, fun _ => ⟨divisor, rfl, rfl⟩⟩
    dsimp only
    by_cases hgui : output_format = "gui"
    · rw [throughputData, if_pos hgui]
      show (formatted p output_format _ >>= _) = _
      rw [formatted, if_pos hgui, get_list_map]
      rfl
    · rw [throughputData, if_neg hgui]
      show (formatted p output_format _ >>= _) = _
      rw [formatted, if_neg hgui]
      rfl
  · rw [_modify_panel_val, if_neg hpanel]
    show ∃ data, (formatted p output_format s.data >>= _) = _ ∧ _
    by_cases hgui : output_format = "gui"
    · obtain ⟨data, hdata⟩ := get_list_ok (p := p) (hformat hgui hpanel)
      rw [formatted, if_pos hgui, hdata]
      exact ⟨data, rfl, fun h => absurd h hpanel⟩
    · rw [formatted, if_neg hgui]
      exact ⟨_, rfl, fun h => absurd h hpanel⟩

/-- A `null` that would be formatted. -/
theorem operationStats_null {units : List String} {s : Series N} {i : Nat} {unit : String}
    (hget : units[i]? = some unit) (hformat : ¬ Formattable panel output_format s) :
    operationStats p panel output_format units (s, i) = .error .typeError := by
  unfold Formattable at hformat
  push Not at hformat
  obtain ⟨hgui, hpanel, point, hpoint, hnull⟩ := hformat
  unfold operationStats
  rw [hget]
  dsimp only
  rw [_modify_panel_val, if_neg hpanel]
  show (formatted p output_format s.data >>= _) = _
  rw [formatted, if_pos hgui, get_list_null ⟨point, hpoint, hnull⟩]
  rfl

/-- The units of a panel, where every metric is known. -/
theorem completeUnits_ok (panel : String) {panel_unit : String} {aggr_panel : Dict String String}
    {rs : List Request} (h : ∀ r ∈ rs, r.metric ∈ aggr_panel.keys) :
    completeUnits panel panel_unit aggr_panel (rs.map Request.metric)
        (rs.map Request.unitText) =
      .ok (rs.map fun r => unitOr panel_unit r.unitText) := by
  induction rs with
  | nil => rfl
  | cons r rs ih =>
      have hmem : ¬ r.metric ∉ aggr_panel.keys := not_not.mpr (h r List.mem_cons_self)
      have hrest := ih fun other hother => h other (List.mem_cons_of_mem r hother)
      rw [List.map_cons, List.map_cons, completeUnits, if_neg hmem, hrest]
      rfl

theorem get_metric_list_ok {rs : List Request} (hne : rs ≠ []) (hpanel : ∀ r ∈ rs, r.panel = panel)
    (hknown : ∀ r ∈ rs, Known p r) :
    _get_metric_list p panel (rs.map Request.metric) (.list (rs.map Request.unitText)) =
      .ok (rs.map Request.metric, rs.map (wantedUnit p)) := by
  obtain ⟨first, hfirst⟩ := List.exists_mem_of_ne_nil rs hne
  obtain ⟨rule, hrule, -⟩ := (hknown first hfirst).metric
  rw [hpanel first hfirst] at hrule
  have hmetric : ∀ r ∈ rs, r.metric ∈ rule.metrics.keys := by
    intro r hr
    obtain ⟨rule', hrule', query, hquery, -⟩ := (hknown r hr).metric
    rw [hpanel r hr, hrule] at hrule'
    cases hrule'
    exact Table.mem_keys.mpr ⟨query, hquery⟩
  have hwanted : (rs.map fun r => unitOr rule.unit r.unitText) = rs.map (wantedUnit p) := by
    refine List.map_congr_left fun r hr => ?_
    rw [wantedUnit, hpanel r hr, hrule]
    rfl
  have hlength : (rs.map Request.metric).length ≠ 0 := by
    simpa using hne
  unfold _get_metric_list
  rw [hrule]
  dsimp only
  rw [if_neg hlength, completeUnits_ok panel hmetric, hwanted]
  rfl

/-- A series has the unit of its name, by its position. -/
theorem series_placed {series : List (Series N)} {rs : List Request}
    (h : series.map Series.label = rs.map Request.metric) :
    List.Forall₂ (fun (item : Series N × Nat) r => item.1 ∈ series ∧ item.1.label = r.metric ∧
      r ∈ rs ∧ (rs.map (wantedUnit p))[item.2]? = some (wantedUnit p r)) series.zipIdx rs := by
  have hlength : series.length = rs.length := by
    simpa using congrArg List.length h
  rw [List.forall₂_iff_get]
  refine ⟨by simpa using hlength, fun i hi hi' => ?_⟩
  have hi'' : i < series.length := by simpa using hi
  have hlabel : series[i].label = rs[i].metric := by
    have hget := congrArg (fun labels => labels[i]?) h
    simpa [hi', hi''] using hget
  simp [hi', hlabel]

/-- A name, its unit and its series stay together. -/
theorem convert_group {series : List (Series N)} {rs : List Request}
    (hlabel : series.map Series.label = rs.map Request.metric)
    (hpanel : ∀ r ∈ rs, r.panel = panel) (hknown : ∀ r ∈ rs, Known p r)
    (hformat : ∀ s ∈ series, Formattable panel output_format s) (stats_id : Option String) :
    ∃ payload, _convert_payload p (.sheet series) stats_id panel output_format
        (rs.map (wantedUnit p)) = .ok payload ∧
      List.Forall₂ (fun e r => r ∈ rs ∧ EntryFor p output_format series e r) payload.list rs := by
  have hitems : List.Forall₂ (fun item r => ∃ e, operationStats p panel output_format
      (rs.map (wantedUnit p)) item = .ok e ∧ r ∈ rs ∧ EntryFor p output_format series e r)
      series.zipIdx rs := by
    refine (series_placed (p := p) hlabel).imp ?_
    rintro ⟨s, i⟩ r ⟨hs, hlabel, hr, hunit⟩
    have hsize : panel = "throughput" →
        ∃ divisor, _SIZE_DIV (wantedUnit p r) = some divisor :=
      fun h => (hknown r hr).unit ((hpanel r hr).trans h)
    obtain ⟨data, hdata, hthroughput⟩ := operationStats_ok hunit hsize (hformat s hs)
    refine ⟨_, hdata, hr, ?_, s, hs, hlabel, ?_⟩
    · rw [wanted, hpanel r hr, ← hlabel]
    · intro h
      exact hthroughput ((hpanel r hr).symm.trans h)
  obtain ⟨list, hlist, hentries⟩ := Groups.mapM_ok hitems
  refine ⟨⟨stats_id, panel, list⟩, ?_, hentries⟩
  rw [_convert_payload, hlist]
  rfl

/-- One series with a `null` that would be formatted. -/
theorem convert_null {series : List (Series N)} {rs : List Request}
    (hlabel : series.map Series.label = rs.map Request.metric)
    (hformat : ¬ ∀ s ∈ series, Formattable panel output_format s) (stats_id : Option String) :
    ∃ e, _convert_payload p (.sheet series) stats_id panel output_format
      (rs.map (wantedUnit p)) = .error e := by
  push Not at hformat
  obtain ⟨s, hs, hs'⟩ := hformat
  obtain ⟨i, hi⟩ := List.mem_iff_getElem?.mp hs
  have hlength : series.length = rs.length := by
    simpa using congrArg List.length hlabel
  have hlt : i < rs.length := hlength ▸ (List.getElem?_eq_some_iff.mp hi).1
  have hunit : (rs.map (wantedUnit p))[i]? = some (wantedUnit p rs[i]) := by
    simp [hlt]
  have hmem : (s, i) ∈ series.zipIdx := List.mem_zipIdx_iff_getElem?.mpr hi
  obtain ⟨e, he⟩ := Groups.mapM_error hmem ⟨_, operationStats_null (p := p) hunit hs'⟩
  refine ⟨e, ?_⟩
  rw [_convert_payload, he]
  rfl

end Panels

/-! ## The panels -/

/-- Every panel has its names so far. -/
def Describes (panels : Dict String Group) (requests : List Request) : Prop :=
  ∀ panel, panels.get? panel =
    if panel ∈ requests.map Request.panel then
      some ⟨metricsOf panel requests, unitsOf panel requests⟩
    else none

theorem describes_empty : Describes Table.empty [] := fun _ => rfl

/-- A panel without names is as good as none. -/
theorem group_of_describes {panels : Dict String Group} {requests : List Request}
    (h : Describes panels requests) (panel : String) :
    (panels.get? panel).getD ⟨[], []⟩ = ⟨metricsOf panel requests, unitsOf panel requests⟩ := by
  rw [h panel]
  split
  · rfl
  · rename_i hnew
    have hnone : Groups.members Request.panel panel requests = [] := by
      refine List.eq_nil_iff_forall_not_mem.mpr fun r hr => hnew ?_
      obtain ⟨hmem, hpanel⟩ := Groups.mem_members.mp hr
      exact List.mem_map.mpr ⟨r, hmem, hpanel⟩
    rw [metricsOf, unitsOf, hnone]
    rfl

theorem split_text {r : Request}
    (h : ∀ part ∈ r.panel :: r.metric :: r.unit.toList, '.' ∉ part.toList) :
    Text.split '.' r.text = r.panel :: r.metric :: r.unit.toList :=
  Text.split_join h (List.cons_ne_nil _ _)

theorem members_concat (panel : String) (requests : List Request) (r : Request) :
    Groups.members Request.panel panel (requests ++ [r]) =
      Groups.members Request.panel panel requests ++ if r.panel = panel then [r] else [] := by
  rw [Groups.members_append]
  congr 1
  by_cases h : r.panel = panel
  · simp [Groups.members, h]
  · simp [Groups.members, h]

/-- One more name. -/
theorem addMetric_ok {panels : Dict String Group} {requests : List Request} {r : Request}
    (h : Describes panels requests)
    (hparts : ∀ part ∈ r.panel :: r.metric :: r.unit.toList, '.' ∉ part.toList) :
    ∃ panels', addMetric panels r.text = some panels' ∧ Describes panels' (requests ++ [r]) := by
  have hunit : r.unit.toList.headD "" = r.unitText := by
    rw [Request.unitText]
    cases r.unit with
    | none => rfl
    | some unit => rfl
  refine ⟨_, by rw [addMetric, split_text hparts], fun panel => ?_⟩
  rw [Table.get?_set, group_of_describes h, hunit]
  by_cases hpanel : r.panel = panel
  · subst hpanel
    simp [metricsOf, unitsOf, members_concat]
  · have hne : panel ≠ r.panel := fun he => hpanel he.symm
    rw [if_neg hpanel, h panel]
    simp [metricsOf, unitsOf, members_concat, hpanel, hne]

/-- Each panel has its names, in their order. -/
theorem groupMetrics_ok {rest : List Request}
    (hparts : ∀ r ∈ rest, ∀ part ∈ r.panel :: r.metric :: r.unit.toList, '.' ∉ part.toList) :
    ∀ {panels : Dict String Group} {requests : List Request}, Describes panels requests →
      ∃ panels', (rest.map Request.text).foldlM addMetric panels = some panels' ∧
        Describes panels' (requests ++ rest) := by
  induction rest with
  | nil =>
      intro panels requests h
      exact ⟨panels, rfl, by rwa [List.append_nil]⟩
  | cons r rest ih =>
      intro panels requests h
      obtain ⟨panels', hpanels', h'⟩ := addMetric_ok h (hparts r List.mem_cons_self)
      have hrest : ∀ other ∈ rest,
          ∀ part ∈ other.panel :: other.metric :: other.unit.toList, '.' ∉ part.toList :=
        fun other hother => hparts other (List.mem_cons_of_mem r hother)
      obtain ⟨final, hfinal, hdescribes⟩ := ih hrest h'
      refine ⟨final, ?_, by rwa [List.append_assoc] at hdescribes⟩
      rw [List.map_cons, List.foldlM_cons, hpanels']
      exact hfinal

/-! ## An answer -/

section Answers

variable {N : Type} {p : Provider N} {stats_id from_t to_t : Option String}
  {interval total_sample text output_format : String} {from_time to_time : DateTime}
  {answer : String → List (Series N)} {requests : List Request}

/-- What is known of the requests of a panel. -/
theorem known_members (hknown : ∀ r ∈ requests, Known p r) {panel : String} {r : Request}
    (h : r ∈ Groups.members Request.panel panel requests) : Known p r ∧ r.panel = panel :=
  have hr := Groups.mem_members.mp h
  ⟨hknown r hr.1, hr.2⟩

theorem hasMetric_of_known (hknown : ∀ r ∈ requests, Known p r) {panel : String} {rule : Panel}
    (hrule : p._aggr_rule.get? panel = some rule) :
    ∀ metric ∈ metricsOf panel requests, HasMetric rule metric := by
  intro metric hmetric
  obtain ⟨r, hr, rfl⟩ := List.mem_map.mp hmetric
  obtain ⟨hr, hpanel⟩ := known_members hknown hr
  obtain ⟨rule', hrule', hhas⟩ := hr.metric
  rw [hpanel, hrule] at hrule'
  cases hrule'
  exact hhas

/-- A panel's answer is Timelion's, converted. -/
theorem process_eq (hwindow : Window p from_t to_t interval total_sample text from_time to_time)
    (hknown : ∀ r ∈ requests, Known p r) (hserved : Served p answer requests from_time to_time text)
    {panel : String} (hpanel : panel ∈ requests.map Request.panel) :
    process_request p stats_id panel from_t to_t (metricsOf panel requests) interval total_sample
        (.list (unitsOf panel requests)) output_format "" =
      (_convert_payload p (.sheet (answer panel)) stats_id panel output_format
        ((Groups.members Request.panel panel requests).map (wantedUnit p))).mapError
          (raisedAgain p stats_id) := by
  obtain ⟨later, earlier, hparsed, hfrom, hto⟩ := hwindow
  obtain ⟨n, rfl⟩ := parse_interval_eq_ok hparsed
  obtain ⟨first, hfirst, rfl⟩ := List.mem_map.mp hpanel
  obtain ⟨rule, hrule, -⟩ := (hknown first hfirst).metric
  have hne : Groups.members Request.panel first.panel requests ≠ [] :=
    List.ne_nil_of_mem (Groups.mem_members.mpr ⟨hfirst, rfl⟩)
  have hlist := get_metric_list_ok hne (fun r hr => (known_members hknown hr).2)
    (fun r hr => (known_members hknown hr).1)
  obtain ⟨data, hdata⟩ :=
    posted_metrics n from_time to_time hrule (hasMetric_of_known hknown hrule)
  have hquery := (hserved first.panel hpanel).2 data hdata
  have hres : _aggregate_metric p._query p._aggr_rule first.panel from_time.timestamp
      to_time.timestamp (toString n ++ "s") (metricsOf first.panel requests) "" =
        .ok (.sheet (answer first.panel)) := by
    rw [_aggregate_metric, hdata]
    exact hquery
  have hfromText : timeText earlier = .ok from_time.timestamp := by
    rw [timeText, hfrom]
  have htoText : timeText later = .ok to_time.timestamp := by
    rw [timeText, hto]
  rw [process_request]
  congr 1
  rw [answerRequest, hparsed]
  show (timeText earlier >>= _) = _
  rw [hfromText]
  show (timeText later >>= _) = _
  rw [htoText]
  show (_get_metric_list p (p.lower first.panel) _ _ >>= _) = _
  rw [(hknown first hfirst).lower, metricsOf, unitsOf, hlist]
  show (_aggregate_metric p._query p._aggr_rule first.panel _ _ _ _ _ >>= _) = _
  exact congrArg (· >>= _) hres

/-- A panel without a `null` that would be formatted is answered. -/
theorem process_group (hwindow : Window p from_t to_t interval total_sample text from_time to_time)
    (hknown : ∀ r ∈ requests, Known p r) (hserved : Served p answer requests from_time to_time text)
    {panel : String} (hpanel : panel ∈ requests.map Request.panel)
    (hformat : ∀ s ∈ answer panel, Formattable panel output_format s) :
    ∃ payload, process_request p stats_id panel from_t to_t (metricsOf panel requests) interval
        total_sample (.list (unitsOf panel requests)) output_format "" = .ok payload ∧
      List.Forall₂ (fun e r => r ∈ requests ∧ EntryFor p output_format (answer r.panel) e r)
        payload.list (Groups.members Request.panel panel requests) := by
  obtain ⟨payload, hpayload, hentries⟩ := convert_group (hserved panel hpanel).1
    (fun r hr => (known_members hknown hr).2) (fun r hr => (known_members hknown hr).1) hformat
    stats_id
  refine ⟨payload, ?_, hentries.imp ?_⟩
  · rw [process_eq hwindow hknown hserved hpanel, hpayload]
    rfl
  · rintro e r ⟨hr, hentry⟩
    obtain ⟨hmem, rfl⟩ := Groups.mem_members.mp hr
    exact ⟨hmem, hentry⟩

theorem process_null (stats_id : Option String)
    (hwindow : Window p from_t to_t interval total_sample text from_time to_time)
    (hknown : ∀ r ∈ requests, Known p r) (hserved : Served p answer requests from_time to_time text)
    {panel : String} (hpanel : panel ∈ requests.map Request.panel)
    (hformat : ¬ ∀ s ∈ answer panel, Formattable panel output_format s) :
    ∃ e, process_request p stats_id panel from_t to_t (metricsOf panel requests) interval
      total_sample (.list (unitsOf panel requests)) output_format "" = .error e := by
  obtain ⟨e, he⟩ := convert_null (p := p) (hserved panel hpanel).1 hformat stats_id
  refine ⟨raisedAgain p stats_id e, ?_⟩
  rw [process_eq hwindow hknown hserved hpanel, he]
  rfl

/-- A row has the names of its panel. -/
theorem row_of_describes {panels : Dict String Group} (h : Describes panels requests)
    {item : String × Group} (hitem : item ∈ panels.rows) :
    item.1 ∈ requests.map Request.panel ∧
      item.2 = ⟨metricsOf item.1 requests, unitsOf item.1 requests⟩ := by
  have hget : panels.get? item.1 = some item.2 := Table.get?_eq_some.mpr hitem
  rw [h item.1] at hget
  split at hget
  · rename_i hmem
    exact ⟨hmem, (Option.some.inj hget).symm⟩
  · cases hget

theorem mem_keys_of_describes {panels : Dict String Group} (h : Describes panels requests)
    {panel : String} (hpanel : panel ∈ requests.map Request.panel) : panel ∈ panels.keys :=
  Table.mem_keys.mpr ⟨_, (h panel).trans (if_pos hpanel)⟩

/-- The groups of all panels are the requests. -/
theorem rows_perm {panels : Dict String Group} (h : Describes panels requests) :
    (panels.rows.flatMap fun item => Groups.members Request.panel item.1 requests).Perm
      requests := by
  have hkeys : (panels.rows.flatMap fun item => Groups.members Request.panel item.1 requests) =
      panels.keys.flatMap fun panel => Groups.members Request.panel panel requests :=
    (List.flatMap_map Prod.fst (fun panel => Groups.members Request.panel panel requests)
      panels.rows).symm
  rw [hkeys]
  exact Groups.flatMap_members_perm panels.nodup_keys fun r hr =>
    mem_keys_of_describes h (List.mem_map_of_mem hr)

/-- Entries that go with the requests one by one. -/
theorem answered_of_entries {ordered : List Request} {output : Output N}
    (hperm : ordered.Perm requests)
    (h : List.Forall₂ (fun e r => r ∈ requests ∧ EntryFor p output_format (answer r.panel) e r)
      output.metrics ordered) :
    Answered p output_format answer requests (.ok output) := by
  have hnames : (output.metrics.map fun e => (e.name, e.unit)) = ordered.map (wanted p) := by
    rw [← List.forall₂_eq_eq_eq, List.forall₂_map_left_iff, List.forall₂_map_right_iff]
    exact h.imp fun e r he => he.2.1
  have hentries : List.Forall₂ (fun e (_ : Request) =>
      ∃ r ∈ requests, EntryFor p output_format (answer r.panel) e r) output.metrics ordered :=
    h.imp fun e r he => ⟨r, he⟩
  refine ⟨output, rfl, ?_, Groups.forall_left hentries⟩
  rw [hnames]
  exact hperm.map _

/-- The names are sorted by their panels, and these are processed one by one. -/
theorem get_metrics_eq (repr : List String → String) (stats_id from_t to_t : Option String)
    (interval total_sample output_format : String) (hknown : ∀ r ∈ requests, Known p r) :
    ∃ panels, Describes panels requests ∧
      get_metrics p repr stats_id (requests.map Request.text) from_t to_t interval total_sample
          output_format = (do
        let data_list ← panels.rows.mapM fun item =>
          process_request p stats_id item.1 from_t to_t item.2.metric interval total_sample
            (.list item.2.unit) output_format ""
        return ⟨stats_id.filter (· ≠ ""), data_list.flatMap Payload.list⟩) := by
  obtain ⟨panels, hpanels, hdescribes⟩ :=
    groupMetrics_ok (fun r hr => (hknown r hr).parts) describes_empty
  refine ⟨panels, hdescribes, ?_⟩
  rw [get_metrics, hpanels]

/-- A request is not answered with a `null` that would be formatted. -/
theorem no_null_of_answered {repr : List String → String}
    (hwindow : Window p from_t to_t interval total_sample text from_time to_time)
    (hknown : ∀ r ∈ requests, Known p r) (hserved : Served p answer requests from_time to_time text)
    (h : Answered p output_format answer requests (get_metrics p repr stats_id
      (requests.map Request.text) from_t to_t interval total_sample output_format)) :
    ∀ r ∈ requests, ∀ s ∈ answer r.panel, Formattable r.panel output_format s := by
  obtain ⟨panels, hdescribes, heq⟩ := get_metrics_eq repr stats_id from_t to_t interval
    total_sample output_format hknown
  intro r hr
  by_contra hformat
  have hmem : r.panel ∈ requests.map Request.panel := List.mem_map_of_mem hr
  obtain ⟨group, hget⟩ := Table.mem_keys.mp (mem_keys_of_describes hdescribes hmem)
  have hitem : (r.panel, group) ∈ panels.rows := Table.get?_eq_some.mp hget
  have hgroup : group = ⟨metricsOf r.panel requests, unitsOf r.panel requests⟩ :=
    (row_of_describes hdescribes hitem).2
  subst hgroup
  obtain ⟨e, he⟩ := process_null stats_id hwindow hknown hserved hmem hformat
  obtain ⟨e', he'⟩ := Groups.mapM_error (f := fun item : String × Group =>
    process_request p stats_id item.1 from_t to_t item.2.metric interval total_sample
      (.list item.2.unit) output_format "") hitem ⟨e, he⟩
  obtain ⟨output, houtput, -⟩ := h
  rw [heq, he'] at houtput
  cases houtput

theorem answered_of_no_null {repr : List String → String}
    (hwindow : Window p from_t to_t interval total_sample text from_time to_time)
    (hknown : ∀ r ∈ requests, Known p r) (hserved : Served p answer requests from_time to_time text)
    (h : ∀ r ∈ requests, ∀ s ∈ answer r.panel, Formattable r.panel output_format s) :
    Answered p output_format answer requests (get_metrics p repr stats_id
      (requests.map Request.text) from_t to_t interval total_sample output_format) := by
  obtain ⟨panels, hdescribes, heq⟩ := get_metrics_eq repr stats_id from_t to_t interval
    total_sample output_format hknown
  have hitems : List.Forall₂ (fun (item item' : String × Group) => ∃ payload,
      process_request p stats_id item.1 from_t to_t item.2.metric interval total_sample
        (.list item.2.unit) output_format "" = .ok payload ∧
      List.Forall₂ (fun e r => r ∈ requests ∧ EntryFor p output_format (answer r.panel) e r)
        payload.list (Groups.members Request.panel item'.1 requests))
      panels.rows panels.rows := by
    rw [List.forall₂_same]
    intro item hitem
    obtain ⟨hmem, hgroup⟩ := row_of_describes hdescribes hitem
    obtain ⟨r, hr, hpanel⟩ := List.mem_map.mp hmem
    rw [hgroup]
    exact process_group hwindow hknown hserved hmem (hpanel ▸ h r hr)
  obtain ⟨data_list, hdata, hentries⟩ := Groups.mapM_ok hitems
  rw [heq, hdata]
  exact answered_of_entries (rows_perm hdescribes) (List.rel_flatMap hentries fun _ _ h => h)

end Answers

/-- Every name has one entry with its unit, exactly if no `null` is formatted. -/
theorem get_metrics_iff {N : Type} (p : Provider N) (repr : List String → String)
    (stats_id from_t to_t : Option String) (interval total_sample text output_format : String)
    (from_time to_time : DateTime) (requests : List Request) (answer : String → List (Series N))
    (hwindow : Window p from_t to_t interval total_sample text from_time to_time)
    (hknown : ∀ r ∈ requests, Known p r)
    (hserved : Served p answer requests from_time to_time text) :
    Answered p output_format answer requests
        (get_metrics p repr stats_id (requests.map Request.text) from_t to_t interval total_sample
          output_format) ↔
      (output_format = "gui" → ∀ r ∈ requests, r.panel ≠ "throughput" →
        ∀ s ∈ answer r.panel, ∀ point ∈ s.data, point.2 ≠ none) := by
  constructor
  · intro h hgui r hr hpanel s hs
    exact no_null_of_answered hwindow hknown hserved h r hr s hs hgui hpanel
  · intro h
    refine answered_of_no_null hwindow hknown hserved ?_
    intro r hr s hs hgui hpanel
    exact h hgui r hr hpanel s hs

/-! ## Reading, in two panels -/

def throughputPanel : Panel := ⟨"bytes", Table.empty.set "read" ".es(q=act:read)"⟩

def iopsPanel : Panel := ⟨"iops", Table.empty.set "read_object" ".es(q=act:get)"⟩

/-- The query that is posted is about objects that are got. -/
def asksGets : Value → Bool
  | .obj ((_, .arr [.str query]) :: _) => decide (codes "act:get" <:+: query)
  | _ => false

/-- Both panels have the same points, under the names of their metrics. -/
def provider (data : List (Int × Option Rat)) : Provider Rat where
  int := intOfText
  lower := String.toLower
  str e := e.desc.getD ""
  zero := 0
  negative value := value < 0
  div value divisor := value / divisor
  round value := (value * 100 + 1 / 2).floor / 100
  _storage_interval := 10
  _offset_interval := 20
  _aggr_rule := (Table.empty.set "throughput" throughputPanel).set "iops" iopsPanel
  _query posted := .ok (.sheet [⟨if asksGets posted then "read_object" else "read", data⟩])

def reads : List Request := [⟨"throughput", "read", some "mb"⟩, ⟨"iops", "read_object", none⟩]

/-- What is answered for each panel. -/
def seriesOf (data : List (Int × Option Rat)) (panel : String) : List (Series Rat) :=
  [⟨if panel = "iops" then "read_object" else "read", data⟩]

def dayBefore : DateTime := ⟨⟨2020, 3, 7⟩, 23, 59, 40⟩

def dayAfter : DateTime := ⟨⟨2020, 3, 8⟩, 23, 59, 40⟩

theorem window_day (data : List (Int × Option Rat)) :
    Window (provider data) (some "1583625600") (some "1583712000") "" "" "10s" dayBefore
      dayAfter := by
  refine ⟨1583711980, 1583625580, ?_, by decide +kernel, by decide +kernel⟩
  dsimp only [provider]
  exact parse_interval_day

theorem known_reads (data : List (Int × Option Rat)) : ∀ r ∈ reads, Known (provider data) r := by
  have hplain : Plain ".es(q=act:read)" ∧ Plain ".es(q=act:get)" := by decide +kernel
  have hlower : "throughput".toLower = "throughput" ∧ "iops".toLower = "iops" := by decide +kernel
  have hthroughput : HasMetric throughputPanel "read" := ⟨_, Table.get?_set _ _ _ _, hplain.1⟩
  have hiops : HasMetric iopsPanel "read_object" := ⟨_, Table.get?_set _ _ _ _, hplain.2⟩
  intro r hr
  simp only [reads, List.mem_cons, List.not_mem_nil, or_false] at hr
  rcases hr with rfl | rfl
  · refine ⟨by decide +kernel, hlower.1, ⟨throughputPanel, ?_, hthroughput⟩, fun _ => ⟨1048576, ?_⟩⟩
    · simp [provider]
    · simp [wantedUnit, unitOr, Request.unitText, _SIZE_DIV]
  · refine ⟨by decide +kernel, hlower.2, ⟨iopsPanel, ?_, hiops⟩, fun h => absurd h (by decide)⟩
    simp [provider]

/-- What is posted for one metric of a panel asks for gets if its query does. -/
theorem asksGets_posted {rule : AggrRule} {panel metric query : String} {panelRule : Panel}
    (hrule : rule.get? panel = some panelRule)
    (hquery : metricsQuery panelRule.metrics dayBefore.timestamp dayAfter.timestamp [metric] =
      .ok query) (hplain : Plain query) {data : Value}
    (hposted : posted rule panel dayBefore.timestamp dayAfter.timestamp "10s" [metric] "" =
      .ok data) :
    asksGets data =
      decide (codes "act:get" <:+: codes (Text.replace intervalParameter "10" query)) := by
  have hten := posted_of_metricsQuery 10 dayBefore dayAfter hrule hquery hplain
  rw [show toString (10 : Int) ++ "s" = "10s" by decide +kernel, hposted] at hten
  rw [Except.ok.inj hten]
  rfl

theorem served_reads (data : List (Int × Option Rat)) :
    Served (provider data) (seriesOf data) reads dayBefore dayAfter "10s" := by
  intro panel hpanel
  simp only [reads, List.map_cons, List.map_nil, List.mem_cons, List.not_mem_nil, or_false]
    at hpanel
  rcases hpanel with rfl | rfl
  · have hmetrics : metricsOf "throughput" reads = ["read"] := by decide +kernel
    rw [hmetrics]
    refine ⟨rfl, fun posted hposted => ?_⟩
    have hquery : metricsQuery throughputPanel.metrics dayBefore.timestamp dayAfter.timestamp
        ["read"] = .ok "(.es(q=act:read))" := by decide +kernel
    have hasks := asksGets_posted (by simp [provider]) hquery (by decide +kernel) hposted
    have hnot : decide (codes "act:get" <:+:
        codes (Text.replace intervalParameter "10" "(.es(q=act:read))")) = false := by
      decide +kernel
    rw [hnot] at hasks
    simp [provider, seriesOf, hasks]
  · have hmetrics : metricsOf "iops" reads = ["read_object"] := by decide +kernel
    rw [hmetrics]
    refine ⟨rfl, fun posted hposted => ?_⟩
    have hquery : metricsQuery iopsPanel.metrics dayBefore.timestamp dayAfter.timestamp
        ["read_object"] = .ok "(.es(q=act:get))" := by decide +kernel
    have hasks := asksGets_posted (by simp [provider]) hquery (by decide +kernel) hposted
    have hgets : decide (codes "act:get" <:+:
        codes (Text.replace intervalParameter "10" "(.es(q=act:get))")) = true := by
      decide +kernel
    rw [hgets] at hasks
    simp [provider, seriesOf, hasks]

theorem get_metrics_iff_reads :
    Answered (provider [(0, some 2097152)]) "gui" (seriesOf [(0, some 2097152)]) reads
      (get_metrics (provider [(0, some 2097152)]) (fun _ => "") none (reads.map Request.text)
        (some "1583625600") (some "1583712000") "" "" "gui") :=
  (get_metrics_iff (provider [(0, some 2097152)]) (fun _ => "") none (some "1583625600")
    (some "1583712000") "" "" "10s" "gui" dayBefore dayAfter reads (seriesOf [(0, some 2097152)])
    (window_day _) (known_reads _) (served_reads _)).mpr (by simp [seriesOf])

/-- A time without data in the second panel. -/
theorem null_not_answered :
    ¬ ∀ (p : Provider Rat) (repr : List String → String) (stats_id from_t to_t : Option String)
      (interval total_sample text output_format : String) (from_time to_time : DateTime)
      (requests : List Request) (answer : String → List (Series Rat)),
      Window p from_t to_t interval total_sample text from_time to_time →
      (∀ r ∈ requests, Known p r) → Served p answer requests from_time to_time text →
      Answered p output_format answer requests
        (get_metrics p repr stats_id (requests.map Request.text) from_t to_t interval total_sample
          output_format) := by
  intro hclaim
  have hanswered := hclaim (provider [(0, none)]) (fun _ => "") none (some "1583625600")
    (some "1583712000") "" "" "10s" "gui" _ _ reads (seriesOf [(0, none)])
    (window_day _) (known_reads _) (served_reads _)
  have hiops : (⟨"iops", "read_object", none⟩ : Request) ∈ reads := by simp [reads]
  have hne : "iops" ≠ "throughput" := by decide
  have hformat := no_null_of_answered (window_day _) (known_reads _) (served_reads _)
    hanswered _ hiops ⟨"read_object", [(0, none)]⟩ List.mem_cons_self rfl hne (0, none)
    List.mem_cons_self
  exact hformat rfl

end StatsMetrics

end CortxCsm
