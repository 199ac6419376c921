/-
# `CortxCsm.TimelionRequest` — the request to Timelion

`TimelionProvider._aggregate_metric` (`timeseries.py`) puts a query, the window and the interval
into a template of a JSON text, writes the number of seconds for each `${interval}` in it, and
posts what `json.loads` makes of the text.

    {"sheet": [ "$query"], "time": { "from": "$from_t", "interval": "$interval",
                                     "timezone":"UTC", "to":"$to_t" }}

A caller may give the query.  It is put between the quotation marks as it is.

**Proved here.**

    only the query has the parameter, and it stays one part of the text   (`replace_req_body`)
    a plain query is read as it is                                        (`loads_req_body`)
    the text has no room for a query that needs a backslash               (`plain_of_loads`)
    so the request is the one that was meant exactly for plain queries    (`posted_iff`)
-/
import CortxCsm.Lib.Groups
import CortxCsm.Lib.JsonText
import CortxCsm.TimelionIndex
import CortxCsm.TimelionWindow

namespace CortxCsm

namespace TimelionRequest

open JsonText TimelionIndex TimelionWindow

/-! ## `_aggregate_metric` -/

/-- What a rule has for a panel: `axis["y"]`, and the query of each metric. -/
structure Panel where
  unit : String
  metrics : Dict String String

/-- `_aggr_rule`. -/
abbrev AggrRule := Dict String Panel

/-! The template, around its four fields. -/

def beforeQuery : String := "\x7b\"sheet\": [ \""

def beforeFrom : String :=
  "\"],                                 \"time\": \x7b" ++
    "                                         \"from\": \""

def beforeInterval : String := "\",                                         \"interval\": \""

def beforeTo : String :=
  "\",                                         \"timezone\":\"UTC\"," ++
    "                                         \"to\":\""

def atEnd : String := "\"                                 \x7d\x7d"

/-- `_timelion_req_body.substitute(…)`. -/
def _timelion_req_body (query from_t interval to_t : String) : String :=
  beforeQuery ++ query ++ beforeFrom ++ from_t ++ beforeInterval ++ interval ++ beforeTo ++ to_t ++
    atEnd

def intervalParameter : String := "${interval}"

/-- The query of the metrics of a panel. -/
def metricsQuery (aggr_panel : Dict String String) (from_t duration_t : String)
    (metric_list : List String) : Except StatsExc String := do
  let metrics ← metric_list.mapM fun metric =>
    match aggr_panel.get? metric with
    | none => .error .keyError
    | some rule =>
        match _update_index rule from_t duration_t with
        | none => .error .indexError
        | some query => .ok query
  let query := metrics.foldl (fun query metric => query ++ metric ++ ",") "("
  return String.ofList query.toList.dropLast ++ ")"

/-- The query of the caller, or that of the metrics. -/
def chosenQuery (aggr_panel : Dict String String) (from_t duration_t : String)
    (metric_list : List String) (query : String) : Except StatsExc String :=
  if query = "" then metricsQuery aggr_panel from_t duration_t metric_list else .ok query

/-- `json.loads(body)`. -/
def decoded (body : String) : Except StatsExc Value :=
  match loads body with
  | none => .error .valueError
  | some data => .ok data

/-- The text of a request, with the seconds for the parameter. -/
def bodyText (query from_t interval to_t : String) : String :=
  Text.replace intervalParameter (Text.replace "s" "" interval)
    (_timelion_req_body query from_t interval to_t)

/-- What is posted. -/
def posted (_aggr_rule : AggrRule) (panel from_t duration_t interval : String)
    (metric_list : List String) (query : String) : Except StatsExc Value :=
  match _aggr_rule.get? panel with
  | none => .error (.csm (csmInternalError ("Invalid panel request for stats " ++ panel)))
  | some rule => do
      let query ← chosenQuery rule.metrics from_t duration_t metric_list query
      decoded (bodyText query from_t interval duration_t)

/-- `_query` is Timelion's answer. -/
def _aggregate_metric {α : Type} (_query : Value → Except StatsExc α) (_aggr_rule : AggrRule)
    (panel from_t duration_t interval : String) (metric_list : List String) (query : String) :
    Except StatsExc α :=
  posted _aggr_rule panel from_t duration_t interval metric_list query >>= _query

/-! ## What is meant -/

/-- The `time` of a request. -/
def timeMembers (from_t interval to_t : String) : List (Text × Value) :=
  [(codes "from", .str (codes from_t)), (codes "interval", .str (codes interval)),
    (codes "timezone", .str (codes "UTC")), (codes "to", .str (codes to_t))]

/-- The sheet is the query, and the time is the window. -/
def Meant (query from_t interval to_t : String) (data : Value) : Prop :=
  ∃ members time, data = .obj members ∧
    member? (codes "sheet") members = some (.arr [.str (codes query)]) ∧
    member? (codes "time") members = some (.obj time) ∧
    time.Perm (timeMembers from_t interval to_t)

theorem decoded_eq_ok {body : String} {data : Value} :
    decoded body = .ok data ↔ loads body = some data := by
  unfold decoded
  cases loads body with
  | none =>
      constructor
      · intro h
        cases h
      · intro h
        cases h
  | some data' =>
      constructor
      · intro h
        rw [Except.ok.inj h]
      · intro h
        rw [Option.some.inj h]

/-- The query of a caller is put into the template. -/
theorem posted_eq {_aggr_rule : AggrRule} {panel query : String}
    (hpanel : panel ∈ _aggr_rule.keys) (hquery : query ≠ "") (from_t duration_t interval : String)
    (metric_list : List String) :
    posted _aggr_rule panel from_t duration_t interval metric_list query =
      decoded (bodyText query from_t interval duration_t) := by
  obtain ⟨rule, hrule⟩ := Table.mem_keys.mp hpanel
  unfold posted chosenQuery
  rw [hrule]
  dsimp only
  rw [if_neg hquery]
  exact pure_bind query _

/-! ## The text -/

section Body

variable {query from_t interval to_t : String}

/-- What comes after the query. -/
def after (from_t interval to_t : String) : List Char :=
  beforeFrom.toList ++ (from_t.toList ++ (beforeInterval.toList ++ (interval.toList ++
    (beforeTo.toList ++ (to_t.toList ++ atEnd.toList)))))

theorem toList_req_body (query from_t interval to_t : String) :
    (_timelion_req_body query from_t interval to_t).toList =
      beforeQuery.toList ++ (query.toList ++ after from_t interval to_t) := by
  unfold _timelion_req_body after
  simp only [String.toList_append, List.append_assoc]

/-! ## A plain query -/

/-- A string between two parts of the template. -/
theorem run_string {s : String} {stack : List Frame} (h : Plain s) (rest : List Char) :
    run ⟨.text false [] .none, stack⟩ (s.toList ++ rest) =
      run ⟨.text false (codes s) .none, stack⟩ rest :=
  run_trans (run_plain false stack [] h)

theorem codes_sheet : codes "sheet" = [115, 104, 101, 101, 116] := rfl

theorem codes_time : codes "time" = [116, 105, 109, 101] := rfl

theorem codes_from : codes "from" = [102, 114, 111, 109] := rfl

theorem codes_interval : codes "interval" = [105, 110, 116, 101, 114, 118, 97, 108] := rfl

theorem codes_timezone : codes "timezone" = [116, 105, 109, 101, 122, 111, 110, 101] := rfl

theorem codes_UTC : codes "UTC" = [85, 84, 67] := rfl

theorem codes_to : codes "to" = [116, 111] := rfl

set_option maxRecDepth 4000 in
theorem run_to_from (text : Text) :
    run ⟨.text false text .none, [.array [], .member [] (codes "sheet")]⟩
        beforeFrom.toList =
      some ⟨.text false [] .none, [.member [] (codes "from"),
        .member [(codes "sheet", .arr [.str (joinPairs text)])] (codes "time")]⟩ := by
  rw [codes_sheet, codes_time, codes_from]
  rfl

set_option maxRecDepth 4000 in
theorem run_to_interval (text : Text) (stack : List Frame) :
    run ⟨.text false text .none, .member [] (codes "from") :: stack⟩
        beforeInterval.toList =
      some ⟨.text false [] .none, .member [(codes "from", .str (joinPairs text))]
        (codes "interval") :: stack⟩ := by
  rw [codes_from, codes_interval]
  rfl

set_option maxRecDepth 4000 in
theorem run_to_to (text : Text) (value : Value) (stack : List Frame) :
    run ⟨.text false text .none, .member [(codes "from", value)] (codes "interval") :: stack⟩
        beforeTo.toList =
      some ⟨.text false [] .none, .member [(codes "from", value),
        (codes "interval", .str (joinPairs text)), (codes "timezone", .str (codes "UTC"))]
        (codes "to") :: stack⟩ := by
  rw [codes_from, codes_interval, codes_timezone, codes_UTC, codes_to]
  rfl

set_option maxRecDepth 4000 in
theorem run_to_end (text : Text) (from_t interval sheet : Value) :
    run ⟨.text false text .none, [.member [(codes "from", from_t), (codes "interval", interval),
          (codes "timezone", .str (codes "UTC"))] (codes "to"),
        .member [(codes "sheet", sheet)] (codes "time")]⟩
        atEnd.toList =
      some ⟨.done (.obj [(codes "sheet", sheet), (codes "time", .obj [(codes "from", from_t),
        (codes "interval", interval), (codes "timezone", .str (codes "UTC")),
        (codes "to", .str (joinPairs text))])]), []⟩ := by
  rw [codes_sheet, codes_time, codes_from, codes_interval, codes_timezone, codes_UTC, codes_to]
  rfl

theorem run_after (text : Text) (hfrom : Plain from_t) (hinterval : Plain interval)
    (hto : Plain to_t) :
    run ⟨.text false text .none, [.array [], .member [] (codes "sheet")]⟩
        (after from_t interval to_t) =
      some ⟨.done (.obj [(codes "sheet", .arr [.str (joinPairs text)]),
        (codes "time", .obj (timeMembers from_t interval to_t))]), []⟩ := by
  have hjoin : ∀ s : String, joinPairs (codes s) = codes s := fun s => joinPairs_codes s.toList
  calc run ⟨.text false text .none, [.array [], .member [] (codes "sheet")]⟩
        (after from_t interval to_t)
      = run ⟨.text false [] .none, _⟩ (from_t.toList ++ _) := run_trans (run_to_from text)
    _ = run ⟨.text false (codes from_t) .none, _⟩ _ := run_string hfrom _
    _ = run ⟨.text false [] .none, _⟩ (interval.toList ++ _) := run_trans (run_to_interval _ _)
    _ = run ⟨.text false (codes interval) .none, _⟩ _ := run_string hinterval _
    _ = run ⟨.text false [] .none, _⟩ (to_t.toList ++ _) := run_trans (run_to_to _ _ _)
    _ = run ⟨.text false (codes to_t) .none, _⟩ _ := run_string hto _
    _ = _ := run_to_end _ _ _ _
    _ = _ := by rw [hjoin, hjoin, hjoin, timeMembers]

theorem meant_self (query from_t interval to_t : String) :
    Meant query from_t interval to_t (.obj [(codes "sheet", .arr [.str (codes query)]),
      (codes "time", .obj (timeMembers from_t interval to_t))]) := by
  refine ⟨_, timeMembers from_t interval to_t, rfl, ?_, ?_, .refl _⟩
  · simp [member?]
  · have hne : codes "sheet" ≠ codes "time" := by
      rw [codes_sheet, codes_time]
      decide
    simp [member?, hne]

/-- Plain strings are read as they are. -/
theorem loads_req_body {body : String} (hbody : body.toList =
      beforeQuery.toList ++ (query.toList ++ after from_t interval to_t))
    (hquery : Plain query) (hfrom : Plain from_t) (hinterval : Plain interval)
    (hto : Plain to_t) :
    loads body = some (.obj [(codes "sheet", .arr [.str (codes query)]),
      (codes "time", .obj (timeMembers from_t interval to_t))]) := by
  have hbefore : run start beforeQuery.toList =
      some ⟨.text false [] .none, [.array [], .member [] (codes "sheet")]⟩ := by
    rw [codes_sheet]
    rfl
  have hjoin : joinPairs (codes query) = codes query := joinPairs_codes query.toList
  rw [loads, hbody, run_trans hbefore, run_string hquery, run_after _ hfrom hinterval hto, hjoin]
  rfl

/-! ## Room for a query -/

/-- The template has as many quotation marks as its strings need. -/
theorem payAll_req_body :
    payAll (beforeQuery.toList ++ (query.toList ++ after from_t interval to_t)) =
      22 + payAll query.toList + payAll from_t.toList + payAll interval.toList +
        payAll to_t.toList := by
  have htemplate : payAll beforeQuery.toList = 3 ∧ payAll beforeFrom.toList = 6 ∧
      payAll beforeInterval.toList = 4 ∧ payAll beforeTo.toList = 8 ∧
      payAll atEnd.toList = 1 := by decide +kernel
  obtain ⟨hquery, hfrom, hinterval, hto, hend⟩ := htemplate
  rw [after, payAll_append beforeQuery.toList, payAll_append query.toList,
    payAll_append beforeFrom.toList, payAll_append from_t.toList,
    payAll_append beforeInterval.toList, payAll_append interval.toList,
    payAll_append beforeTo.toList, payAll_append to_t.toList, hquery, hfrom, hinterval, hto, hend]
  omega

/-- What the request that is meant costs, whatever else is in it. -/
theorem weight_of_meant {data : Value} (hfrom : Plain from_t) (hinterval : Plain interval)
    (hto : Plain to_t) (h : Meant query from_t interval to_t data) :
    22 + textCost (codes query) + payAll from_t.toList + payAll interval.toList +
      payAll to_t.toList ≤ data.weight := by
  obtain ⟨members, time, rfl, hsheet, htime, hperm⟩ := h
  have hne : codes "sheet" ≠ codes "time" := by decide +kernel
  have hmembers := weight_le_of_two_members hne hsheet htime
  have hname : textCost (codes "sheet") = 0 ∧ textCost (codes "time") = 0 ∧
      textCost (codes "from") = 0 ∧ textCost (codes "interval") = 0 ∧
      textCost (codes "timezone") = 0 ∧ textCost (codes "UTC") = 0 ∧
      textCost (codes "to") = 0 := by decide +kernel
  obtain ⟨h₁, h₂, h₃, h₄, h₅, h₆, h₇⟩ := hname
  have htimeWeight := membersWeight_perm hperm
  simp only [timeMembers, membersWeight, Value.weight, h₃, h₄, h₅, h₆, h₇, textCost_codes hfrom,
    textCost_codes hinterval, textCost_codes hto] at htimeWeight
  simp only [Value.weight, itemsWeight, h₁, h₂] at hmembers
  rw [Value.weight]
  omega

/-- The text has no room for a query that needs a backslash. -/
theorem plain_of_loads {body : String} {data : Value} (hbody : body.toList =
      beforeQuery.toList ++ (query.toList ++ after from_t interval to_t))
    (hfrom : Plain from_t) (hinterval : Plain interval) (hto : Plain to_t)
    (hloads : loads body = some data) (h : Meant query from_t interval to_t data) :
    Plain query := by
  have hpay := weight_le_pay hloads
  have hweight := weight_of_meant hfrom hinterval hto h
  rw [hbody, payAll_req_body] at hpay
  exact textCost_le_payAll_iff.mp (by show textCost (codes query) ≤ _; omega)

/-! ## The parameter -/

theorem intervalParameter_ne : intervalParameter ≠ "" := by decide

theorem intervalParameter_ne_nil : intervalParameter.toList ≠ [] := by simp [intervalParameter]

theorem plain_intervalParameter : Plain intervalParameter := by
  simp [Plain, PlainChar, intervalParameter]

theorem begins_dollar {c : Char} {rest : List Char} (h : intervalParameter.toList <+: c :: rest) :
    c = '$' := by
  have hlist : intervalParameter.toList = '$' :: "{interval}".toList := rfl
  rw [hlist] at h
  exact (List.cons_prefix_cons.mp h).1.symm

/-- Only the query has a parameter, and it stays one part of the text. -/
theorem replace_req_body {seconds : String} (hfrom : '$' ∉ from_t.toList)
    (hinterval : '$' ∉ interval.toList) (hto : '$' ∉ to_t.toList) :
    (Text.replace intervalParameter seconds
        (_timelion_req_body query from_t interval to_t)).toList =
      beforeQuery.toList ++ ((Text.replace intervalParameter seconds query).toList ++
        after from_t interval to_t) := by
  have hne := intervalParameter_ne
  have hbefore : '$' ∉ beforeQuery.toList := by decide +kernel
  have htemplate : '$' ∉ beforeFrom.toList ∧ '$' ∉ beforeInterval.toList ∧
      '$' ∉ beforeTo.toList ∧ '$' ∉ atEnd.toList := by decide +kernel
  obtain ⟨h₁, h₂, h₃, h₄⟩ := htemplate
  have hafter : '$' ∉ after from_t interval to_t := by
    rw [after]
    simp only [List.mem_append, not_or]
    exact ⟨h₁, hfrom, h₂, hinterval, h₃, hto, h₄⟩
  have hfirst : beforeFrom.toList = '"' :: beforeFrom.toList.tail := by decide +kernel
  obtain ⟨rest, hrest⟩ : ∃ rest, after from_t interval to_t = '"' :: rest :=
    ⟨_, by rw [after, hfirst, List.cons_append]⟩
  have hoccurs : ¬ intervalParameter.toList <:+: after from_t interval to_t := by
    intro hoccurs
    have hdollar : '$' ∈ intervalParameter.toList := by simp [intervalParameter]
    exact hafter (hoccurs.subset hdollar)
  have hquote : '"' ∉ intervalParameter.toList := fun h => (plain_intervalParameter _ h).1 rfl
  rw [hrest] at hoccurs ⊢
  rw [Text.toList_replace hne, Text.toList_replace hne, toList_req_body, hrest]
  rw [Text.replaceChars_before, Text.replaceChars_after intervalParameter_ne_nil hquote hoccurs]
  intro c hc rest hbegins
  exact hbefore (begins_dollar hbegins ▸ hc)

/-- A plain text for another neither brings nor takes a character that needs a backslash. -/
theorem plain_replace_iff {old new : String} (hne : old ≠ "") (hold : Plain old)
    (hnew : Plain new) : Plain (Text.replace old new query) ↔ Plain query := by
  have hne' : old.toList ≠ [] := fun h => hne (String.toList_inj.mp h)
  have hmem : ∀ c, ¬ PlainChar c →
      (c ∈ (Text.replace old new query).toList ↔ c ∈ query.toList) := by
    intro c hc
    rw [Text.toList_replace hne]
    exact Text.mem_replaceChars hne' (fun h => hc (hold c h)) (fun h => hc (hnew c h)) query.toList
  constructor
  · intro hplain c hc
    by_contra hnot
    exact hnot (hplain c ((hmem c hnot).mpr hc))
  · intro hplain c hc
    by_contra hnot
    exact hnot (hplain c ((hmem c hnot).mp hc))

end Body

/-! ## The window -/

section Window

theorem plainChar_of_isDigit {c : Char} (h : c.isDigit = true) :
    PlainChar c ∧ c ≠ '$' ∧ c ≠ 's' := by
  refine ⟨⟨?_, ?_, ?_⟩, ?_, ?_⟩
  · rintro rfl
    cases h
  · rintro rfl
    cases h
  · intro hlt
    have hle : '0'.toNat ≤ c.toNat := by
      rw [Char.isDigit, Bool.and_eq_true, decide_eq_true_eq] at h
      exact h.1
    have hzero : '0'.toNat = 48 := rfl
    omega
  · rintro rfl
    cases h
  · rintro rfl
    cases h

theorem isDigit_of_mem_pad {c : Char} {width n : Nat} (h : c ∈ (pad width n).toList) :
    c.isDigit = true := by
  by_contra hc
  exact not_mem_pad (Bool.eq_false_iff.mpr hc) width n h

theorem mem_timestamp {t : DateTime} {c : Char} (h : c ∈ t.timestamp.toList) :
    c.isDigit = true ∨ c ∈ ['-', 'T', ':', '.', 'Z', '0'] := by
  by_contra hnot
  rw [not_or, Bool.not_eq_true] at hnot
  obtain ⟨hdigit, hother⟩ := hnot
  have hpad := fun width n => not_mem_pad hdigit width n
  simp only [List.mem_cons, List.not_mem_nil, or_false, not_or] at hother
  obtain ⟨h₁, h₂, h₃, h₄, h₅, h₆⟩ := hother
  have hne : [pad 2 t.date.month, pad 2 t.date.day] ≠ [] := List.cons_ne_nil _ _
  have hcolon : c ∉ ":".toList := by simpa using h₃
  have hend : c ∉ ".000Z".toList := by simp [h₄, h₅, h₆]
  rw [DateTime.timestamp, isoDate, Text.join_cons _ _ hne, Text.join_pair] at h
  simp only [String.toList_append, List.mem_append, String.toList_singleton,
    List.mem_singleton, hpad, h₁, h₂, hcolon, hend, or_self] at h

theorem fixed_timestamp (t : DateTime) : Plain t.timestamp ∧ '$' ∉ t.timestamp.toList := by
  have hother : ∀ c ∈ ['-', 'T', ':', '.', 'Z', '0'], PlainChar c ∧ c ≠ '$' := by
    intro c hc
    simp only [List.mem_cons, List.not_mem_nil, or_false] at hc
    rcases hc with rfl | rfl | rfl | rfl | rfl | rfl <;> decide
  have hchar : ∀ c ∈ t.timestamp.toList, PlainChar c ∧ c ≠ '$' := by
    intro c hc
    rcases mem_timestamp hc with hdigit | hmem
    · exact ⟨(plainChar_of_isDigit hdigit).1, (plainChar_of_isDigit hdigit).2.1⟩
    · exact hother c hmem
  exact ⟨fun c hc => (hchar c hc).1, fun h => (hchar _ h).2 rfl⟩

theorem fixed_toString (n : Int) : Plain (toString n) ∧ '$' ∉ (toString n).toList ∧
    's' ∉ (toString n).toList := by
  have hchar : ∀ c ∈ (toString n).toList, PlainChar c ∧ c ≠ '$' ∧ c ≠ 's' := by
    intro c hc
    rcases Decimal.isDigit_or_minus hc with hdigit | rfl
    · exact plainChar_of_isDigit hdigit
    · decide
  exact ⟨fun c hc => (hchar c hc).1, fun h => (hchar _ h).2.1 rfl, fun h => (hchar _ h).2.2 rfl⟩

theorem fixed_interval (n : Int) : Plain (toString n ++ "s") ∧
    '$' ∉ (toString n ++ "s").toList := by
  obtain ⟨hplain, hdollar, -⟩ := fixed_toString n
  have hs : "s".toList = ['s'] := rfl
  rw [Plain, String.toList_append, hs]
  constructor
  · intro c hc
    rcases List.mem_append.mp hc with hc | hc
    · exact hplain c hc
    · rw [List.mem_singleton.mp hc]
      decide
  · intro h
    rcases List.mem_append.mp h with h | h
    · exact hdollar h
    · exact absurd (List.mem_singleton.mp h) (by decide)

/-- The seconds are read back from the interval. -/
theorem replace_s (n : Int) : Text.replace "s" "" (toString n ++ "s") = toString n := by
  have hs : "s".toList = ['s'] := rfl
  apply String.toList_inj.mp
  have hlist : (toString n ++ "s").toList = (toString n).toList ++ "s".toList ++ [] := by simp
  have hbefore : ∀ rest, ∀ c ∈ (toString n).toList, ¬ "s".toList <+: c :: rest := by
    intro rest c hc hbegins
    rw [hs] at hbegins
    have heq : 's' = c := (List.cons_prefix_cons.mp hbegins).1
    exact (fixed_toString n).2.2 (heq ▸ hc)
  have hafter : ¬ "s".toList <:+: [] := by
    intro hoccurs
    exact absurd (List.eq_nil_of_infix_nil hoccurs) (by decide)
  rw [Text.replace_once (by decide) hlist hbefore hafter]
  simp

theorem interval_of_eq_ok {int : String → Option Int} {storage_interval diff_sec : Int}
    {interval total_sample text : String}
    (h : interval_of int storage_interval diff_sec interval total_sample = .ok text) :
    ∃ n : Int, text = toString n ++ "s" := by
  unfold interval_of at h
  split at h
  · cases h
    exact ⟨_, rfl⟩
  · split at h
    · split at h
      · cases h
      · split at h
        · cases h
          exact ⟨_, rfl⟩
        · cases h
        · cases h
    · split at h
      · cases h
      · split at h
        · cases h
        · cases h
          exact ⟨_, rfl⟩

/-- The interval of an accepted window is a number of seconds. -/
theorem parse_interval_eq_ok {int : String → Option Int}
    {storage_interval offset_interval later earlier : Int} {from_t duration_t : Option String}
    {interval total_sample text : String}
    (h : _parse_interval int storage_interval offset_interval from_t duration_t interval
      total_sample = .ok (text, later, earlier)) : ∃ n : Int, text = toString n ++ "s" := by
  unfold _parse_interval at h
  split at h
  · split at h
    · cases h
    · obtain ⟨interval', hinterval, hreturn⟩ := Raising.bind_eq_ok h
      cases hreturn
      exact interval_of_eq_ok hinterval
  · cases h

end Window

/-- The text of a request, in a window. -/
theorem toList_bodyText (n : Int) (from_time to_time : DateTime) (query : String) :
    (bodyText query from_time.timestamp (toString n ++ "s") to_time.timestamp).toList =
      beforeQuery.toList ++ ((Text.replace intervalParameter (toString n) query).toList ++
        after from_time.timestamp (toString n ++ "s") to_time.timestamp) := by
  rw [bodyText, replace_s]
  exact replace_req_body (fixed_timestamp from_time).2 (fixed_interval n).2
    (fixed_timestamp to_time).2

/-- The request is the one that is meant exactly for a plain query. -/
theorem meant_iff_plain (n : Int) (from_time to_time : DateTime) {_aggr_rule : AggrRule}
    {panel query : String} (hpanel : panel ∈ _aggr_rule.keys) (metric_list : List String)
    (hquery : query ≠ "") :
    (∃ data, posted _aggr_rule panel from_time.timestamp to_time.timestamp (toString n ++ "s")
        metric_list query = .ok data ∧
        Meant (Text.replace intervalParameter (toString n) query) from_time.timestamp
          (toString n ++ "s") to_time.timestamp data) ↔
      Plain query := by
  have hfromPlain := (fixed_timestamp from_time).1
  have htoPlain := (fixed_timestamp to_time).1
  have hintervalPlain := (fixed_interval n).1
  have hbody := toList_bodyText n from_time to_time query
  rw [← plain_replace_iff intervalParameter_ne plain_intervalParameter (fixed_toString n).1]
  constructor
  · rintro ⟨data, hdata, hmeant⟩
    rw [posted_eq hpanel hquery] at hdata
    exact plain_of_loads hbody hfromPlain hintervalPlain htoPlain (decoded_eq_ok.mp hdata) hmeant
  · intro hplain
    have hloads := loads_req_body hbody hplain hfromPlain hintervalPlain htoPlain
    refine ⟨_, ?_, meant_self _ _ _ _⟩
    rw [posted_eq hpanel hquery]
    exact decoded_eq_ok.mpr hloads

theorem posted_iff (int : String → Option Int) (storage_interval offset_interval : Int)
    (from_t duration_t : Option String) (interval total_sample text : String)
    (later earlier : Int)
    (hwindow : _parse_interval int storage_interval offset_interval from_t duration_t interval
      total_sample = .ok (text, later, earlier))
    (from_time to_time : DateTime) (_aggr_rule : AggrRule) (panel : String)
    (hpanel : panel ∈ _aggr_rule.keys) (metric_list : List String) (query : String)
    (hquery : query ≠ "") :
    (∃ n data, text = toString (n : Int) ++ "s" ∧
        posted _aggr_rule panel from_time.timestamp to_time.timestamp text metric_list query =
          .ok data ∧
        Meant (Text.replace intervalParameter (toString n) query) from_time.timestamp text
          to_time.timestamp data) ↔
      Plain query := by
  obtain ⟨n, rfl⟩ := parse_interval_eq_ok hwindow
  rw [← meant_iff_plain n from_time to_time hpanel metric_list hquery]
  constructor
  · rintro ⟨m, data, hm, hdata, hmeant⟩
    obtain rfl := intervalText_inj hm
    exact ⟨data, hdata, hmeant⟩
  · rintro ⟨data, hdata, hmeant⟩
    exact ⟨n, data, rfl, hdata, hmeant⟩

/-! ## The query of metrics -/

section Metrics

theorem plain_append {a b : String} : Plain (a ++ b) ↔ Plain a ∧ Plain b := by
  simp only [Plain, String.toList_append, List.mem_append, or_imp, forall_and]

theorem plain_punctuation : ∀ text ∈ [".", ".*", "*", ",", "(", ")"], Plain text := by
  simp [Plain, PlainChar]

theorem plain_pad (width n : Nat) : Plain (pad width n) :=
  fun _ hc => (plainChar_of_isDigit (isDigit_of_mem_pad hc)).1

theorem plain_join : ∀ {parts : List String}, (∀ part ∈ parts, Plain part) →
    Plain (Text.join '.' parts)
  | [], _ => by
      intro c hc
      exact absurd hc (by simp [Text.join])
  | [part], h => by
      rw [Text.join_singleton]
      exact h part List.mem_cons_self
  | part :: next :: rest, h => by
      have hdot : Plain (String.singleton '.') := plain_punctuation "." (by simp)
      have hrest : Plain (Text.join '.' (next :: rest)) :=
        plain_join fun other hother => h other (List.mem_cons_of_mem _ hother)
      rw [Text.join_cons _ _ (List.cons_ne_nil next rest)]
      exact plain_append.mpr ⟨plain_append.mpr ⟨h part List.mem_cons_self, hdot⟩, hrest⟩

/-- A narrowed pattern is plain. -/
theorem plain_new_index (f d : DateTime) {old_index : String} (h : Plain old_index) :
    ∃ new, new_index (dateParts f.timestamp) (dateParts d.timestamp) old_index = some new ∧
      Plain new := by
  have hstar : ∀ {text : String}, Plain text → Plain (Text.replace "*" text old_index) := by
    intro text htext
    exact (plain_replace_iff (by decide) (plain_punctuation "*" (by simp)) htext).mpr h
  have hdot : Plain "." := plain_punctuation "." (by simp)
  have hrest : Plain ".*" := plain_punctuation ".*" (by simp)
  refine ⟨_, new_index_timestamp f d old_index, ?_⟩
  split
  · apply hstar
    apply plain_join
    intro part hpart
    simp only [List.mem_cons, List.not_mem_nil, or_false] at hpart
    rcases hpart with rfl | rfl | rfl
    · exact plain_pad _ _
    · exact plain_pad _ _
    · exact plain_pad _ _
  · split
    · split
      · apply hstar
        simp only [plain_append, plain_pad, hdot, hrest, and_self]
      · apply hstar
        simp only [plain_append, plain_pad, hrest, and_self]
    · exact h

theorem plain_update_index (f d : DateTime) {metric : String} (h : Plain metric) :
    ∃ result, _update_index metric f.timestamp d.timestamp = some result ∧ Plain result := by
  unfold _update_index
  cases hfind : _indexes.find? fun index => occurs index metric with
  | none =>
      refine ⟨metric, ?_, h⟩
      show ((new_index _ _ "").bind fun new_index => some (Text.replace "" new_index metric)) = _
      rw [new_index_empty]
      exact congrArg some (Text.replace_empty metric)
  | some index =>
      have hindex : ∀ index ∈ _indexes, index ≠ "" ∧ Plain index := by decide +kernel
      obtain ⟨hne, hplain⟩ := hindex index (List.mem_of_find?_eq_some hfind)
      obtain ⟨new, hnew, hnewPlain⟩ := plain_new_index f d hplain
      refine ⟨Text.replace index new metric, ?_, (plain_replace_iff hne hplain hnewPlain).mpr h⟩
      show ((new_index _ _ index).bind fun new_index =>
        some (Text.replace index new_index metric)) = _
      rw [hnew]
      rfl

/-- Whether a panel has a metric, with a plain query. -/
def HasMetric (rule : Panel) (metric : String) : Prop :=
  ∃ query, rule.metrics.get? metric = some query ∧ Plain query

/-- The metrics of a query, put behind each other. -/
theorem plain_foldl {metrics : List String} (h : ∀ metric ∈ metrics, Plain metric) :
    ∀ {query : String}, Plain query →
      Plain (metrics.foldl (fun query metric => query ++ metric ++ ",") query) := by
  induction metrics with
  | nil =>
      intro query hquery
      exact hquery
  | cons metric metrics ih =>
      intro query hquery
      have hmetric := h metric List.mem_cons_self
      have hcomma : Plain "," := plain_punctuation "," (by simp)
      apply ih fun other hother => h other (List.mem_cons_of_mem metric hother)
      exact plain_append.mpr ⟨plain_append.mpr ⟨hquery, hmetric⟩, hcomma⟩

theorem plain_metricsQuery (f d : DateTime) {rule : Panel} {metric_list : List String}
    (h : ∀ metric ∈ metric_list, HasMetric rule metric) :
    ∃ query, metricsQuery rule.metrics f.timestamp d.timestamp metric_list = .ok query ∧
      Plain query := by
  have hmetrics : List.Forall₂ (fun metric (_ : String) => ∃ query,
      (match rule.metrics.get? metric with
        | none => (.error .keyError : Except StatsExc String)
        | some rule =>
            match _update_index rule f.timestamp d.timestamp with
            | none => .error .indexError
            | some query => .ok query) = .ok query ∧ Plain query) metric_list metric_list := by
    rw [List.forall₂_same]
    intro metric hmetric
    obtain ⟨rule', hrule, hplain⟩ := h metric hmetric
    obtain ⟨query, hquery, hqueryPlain⟩ := plain_update_index f d hplain
    refine ⟨query, ?_, hqueryPlain⟩
    rw [hrule]
    dsimp only
    rw [hquery]
  obtain ⟨queries, hqueries, hall⟩ := Groups.mapM_ok (R := fun query _ => Plain query) hmetrics
  have hquery := plain_foldl (Groups.forall_left hall) (plain_punctuation "(" (by simp))
  refine ⟨_, by rw [metricsQuery, hqueries]; rfl, plain_append.mpr ⟨?_, ?_⟩⟩
  · intro c hc
    rw [String.toList_ofList] at hc
    exact hquery c (List.dropLast_subset _ hc)
  · exact plain_punctuation ")" (by simp)

/-- What is posted for metrics whose query is plain. -/
theorem posted_of_metricsQuery (n : Int) (from_time to_time : DateTime)
    {_aggr_rule : AggrRule} {panel : String} {rule : Panel}
    (hrule : _aggr_rule.get? panel = some rule) {metric_list : List String} {query : String}
    (hquery : metricsQuery rule.metrics from_time.timestamp to_time.timestamp metric_list =
      .ok query) (hplain : Plain query) :
    posted _aggr_rule panel from_time.timestamp to_time.timestamp (toString n ++ "s")
        metric_list "" =
      .ok (.obj [(codes "sheet",
          .arr [.str (codes (Text.replace intervalParameter (toString n) query))]),
        (codes "time",
          .obj (timeMembers from_time.timestamp (toString n ++ "s") to_time.timestamp))]) := by
  have hreplaced := (plain_replace_iff intervalParameter_ne plain_intervalParameter
    (fixed_toString n).1).mpr hplain
  have hloads := loads_req_body (toList_bodyText n from_time to_time query) hreplaced
    (fixed_timestamp from_time).1 (fixed_interval n).1 (fixed_timestamp to_time).1
  rw [posted, hrule]
  dsimp only
  rw [chosenQuery, if_pos rfl, hquery]
  exact (pure_bind query _).trans (decoded_eq_ok.mpr hloads)

/-- A panel's query is accepted, whatever the window. -/
theorem posted_metrics (n : Int) (from_time to_time : DateTime) {_aggr_rule : AggrRule}
    {panel : String} {rule : Panel} (hrule : _aggr_rule.get? panel = some rule)
    {metric_list : List String} (h : ∀ metric ∈ metric_list, HasMetric rule metric) :
    ∃ data, posted _aggr_rule panel from_time.timestamp to_time.timestamp (toString n ++ "s")
      metric_list "" = .ok data := by
  obtain ⟨query, hquery, hplain⟩ := plain_metricsQuery from_time to_time h
  exact ⟨_, posted_of_metricsQuery n from_time to_time hrule hquery hplain⟩

end Metrics

/-! ## A query of the operations -/

def iopsRule : AggrRule := Table.empty.set "iops" ⟨"iops", Table.empty⟩

/-- The eighth of March 2020. -/
def day : DateTime := ⟨⟨2020, 3, 8⟩, 0, 0, 0⟩

theorem parse_interval_day :
    _parse_interval intOfText 10 20 (some "1583625600") (some "1583712000") "" "" =
      .ok ("10s", 1583711980, 1583625580) := by
  decide +kernel

theorem posted_iff_iops :
    ∃ n data, "10s" = toString (n : Int) ++ "s" ∧
      posted iopsRule "iops" day.timestamp day.timestamp "10s" [] ".es(*).divide(${interval})" =
        .ok data ∧
      Meant (Text.replace intervalParameter (toString n) ".es(*).divide(${interval})") day.timestamp
        "10s" day.timestamp data :=
  (posted_iff intOfText 10 20 (some "1583625600") (some "1583712000") "" "" "10s" 1583711980
    1583625580 parse_interval_day day day iopsRule "iops" (by decide +kernel) []
    ".es(*).divide(${interval})" (by decide)).mpr (by decide +kernel)

/-- A query with quotation marks ends the string that it is put into. -/
theorem quoted_query_altered :
    ¬ ∀ (int : String → Option Int) (storage_interval offset_interval : Int)
      (from_t duration_t : Option String) (interval total_sample text : String)
      (later earlier : Int), _parse_interval int storage_interval offset_interval from_t duration_t
        interval total_sample = .ok (text, later, earlier) →
      ∀ (from_time to_time : DateTime) (_aggr_rule : AggrRule) (panel : String),
      panel ∈ _aggr_rule.keys → ∀ (metric_list : List String) (query : String), query ≠ "" →
      ∃ n data, text = toString (n : Int) ++ "s" ∧
        posted _aggr_rule panel from_time.timestamp to_time.timestamp text metric_list query =
          .ok data ∧
        Meant (Text.replace intervalParameter (toString n) query) from_time.timestamp text
          to_time.timestamp data := by
  intro hclaim
  have hpanel : "iops" ∈ iopsRule.keys := by decide +kernel
  have hquery : ".es(q=\"act:read\")" ≠ "" := by decide
  obtain ⟨n, data, hn, hdata, hmeant⟩ := hclaim intOfText 10 20 (some "1583625600")
    (some "1583712000") "" "" "10s" 1583711980 1583625580 parse_interval_day day day iopsRule
    "iops" hpanel [] ".es(q=\"act:read\")" hquery
  rw [hn] at hdata hmeant
  have hplain := (meant_iff_plain n day day hpanel [] hquery).mp ⟨data, hdata, hmeant⟩
  have hnot : ¬ Plain ".es(q=\"act:read\")" := by decide +kernel
  exact hnot hplain

end TimelionRequest

end CortxCsm
