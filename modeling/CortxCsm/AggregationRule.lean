/-
# `CortxCsm.AggregationRule` — aggregation rules as Timelion queries

`TimelionProvider._parse` (`timeseries.py`) turns the tree of a rule into the text of a query.
One text goes through the whole tree: a metric is put beside it, an operator is a call on all
of it, and a constant is written into the last call by cutting off its closing parenthesis.

    metric      (output),(.es(q=…).abs())
    operator    (output).sum()
    constant    output[:-1] + "${interval}" + ")"

A text that was made of a tree is the text of an expression, and after an operator it ends with
the parenthesis of that operator's call: this is what makes the cut right.

| | |
| :-- | :-- |
| `Nodes` | the nodes of a rule, as `stats_aggregation_rule.json` lists them |
| `Expr` | a query, by how it was put together |
| `leaves`, `operators` | what the tree has, from left to right |

**Proved here.**

    a call that is cut open takes its argument     (`dropLast_call`)
    a rule gives the text of an expression that
    has what the tree has, in its order            (`parse_wellFormed`)
-/
import CortxCsm.Errors
import CortxCsm.Lib.Decimal
import CortxCsm.Lib.Parens

namespace CortxCsm

namespace AggregationRule

/-! ## The rules -/

/-- The value of a metric node. -/
structure MetricVal where
  index : String
  metric : String
  timestamp : String
  method : String
  deriving DecidableEq, Repr

/-- A list of nodes, by its first one.  A node with a text may have nodes of its own. -/
inductive Nodes
  | nil
  | text (val : String) (rest : Nodes)
  | tree (val : String) (node : Nodes) (rest : Nodes)
  | int (val : Int) (rest : Nodes)
  | metric (val : MetricVal) (rest : Nodes)
  deriving DecidableEq, Repr

def _metric_set (val : String) : Option String :=
  if val = "+" then some "sum()" else if val = "/" then some "divide()" else none

def _config_list (val : String) : Option String :=
  if val = "interval" then some "${interval}" else none

/-- `_timelion_query.substitute(…)`, with the processing of the panel. -/
def _parse_query (processing : String) (val : MetricVal) : String :=
  ".es(q=" ++ val.metric ++ ", timefield=" ++ val.timestamp ++ ", index=" ++ val.index ++
    ", metric=" ++ val.method ++ ")." ++ processing ++ "()"

/-- `output[:-1]`. -/
def dropLast (output : String) : String := String.ofList output.toList.dropLast

/-- The branch of a text that is no operator. -/
def parse_config (val output : String) : Except Exc String :=
  match _config_list val with
  | some cv => .ok (dropLast output ++ cv ++ ")")
  | none => .error (.csm (csmInternalError ("Invalid value " ++ val ++ " ")))

/-- `_parse`; an operator without a key `node` raises a `KeyError`. -/
def _parse (processing : String) : Nodes → String → Except Exc String
  | .nil, output => .ok output
  | .text val rest, output =>
      match _metric_set val with
      | some _ => .error .keyError
      | none => do
          let output ← parse_config val output
          _parse processing rest output
  | .tree val node rest, output =>
      match _metric_set val with
      | some method => do
          let output ← _parse processing node output
          _parse processing rest ("(" ++ output ++ ")." ++ method)
      | none => do
          let output ← parse_config val output
          _parse processing rest output
  | .int val rest, output => _parse processing rest (dropLast output ++ toString val ++ ")")
  | .metric val rest, output =>
      _parse processing rest (if output = "" then _parse_query processing val
        else "(" ++ output ++ "),(" ++ _parse_query processing val ++ ")")

/-- The query that `init` keeps for a metric. -/
def metric_query (processing name : String) (node : Nodes) : Except Exc String := do
  let query ← _parse processing node ""
  return "(" ++ query ++ ").label(" ++ name ++ ")"

/-! ## Well-formed rules -/

/-- An operator has nodes, a constant stands right after an operator (`after`), and the queries
of the metrics are balanced. -/
def WellFormed (processing : String) : (after : Bool) → Nodes → Prop
  | _, .nil => True
  | after, .text val rest => val = "interval" ∧ after = true ∧ WellFormed processing false rest
  | _, .tree val node rest =>
      (val = "+" ∨ val = "/") ∧ node ≠ .nil ∧ WellFormed processing false node ∧
        WellFormed processing true rest
  | after, .int _ rest => after = true ∧ WellFormed processing false rest
  | _, .metric val rest =>
      Parens.Balanced (_parse_query processing val).toList ∧ WellFormed processing false rest

/-- The metrics of a tree, as queries. -/
def leaves (processing : String) : Nodes → List String
  | .nil => []
  | .text _ rest => leaves processing rest
  | .tree _ node rest => leaves processing node ++ leaves processing rest
  | .int _ rest => leaves processing rest
  | .metric val rest => _parse_query processing val :: leaves processing rest

/-- The constant that the nodes begin with. -/
def constant : Nodes → String
  | .text _ _ => "${interval}"
  | .int val _ => toString val
  | _ => ""

/-- The function that an operator calls. -/
def function (val : String) : String := if val = "+" then "sum" else "divide"

/-- A call: its function, its argument, and what it is applied to, by the queries in that and the
number of calls. -/
structure Call where
  function : String
  argument : String
  queries : List String
  calls : Nat
  deriving DecidableEq, Repr

/-- The operators of a tree in the order in which their nodes end, after `queries` and `calls`
calls.  Each is applied to all that comes before it and to its nodes. -/
def operators (processing : String) : (queries : List String) → (calls : Nat) → Nodes → List Call
  | _, _, .nil => []
  | queries, calls, .text _ rest => operators processing queries calls rest
  | queries, calls, .tree val node rest =>
      let inner := operators processing queries calls node
      let queries := queries ++ leaves processing node
      let calls := calls + inner.length
      inner ++ ⟨function val, constant rest, queries, calls⟩ ::
        operators processing queries (calls + 1) rest
  | queries, calls, .int _ rest => operators processing queries calls rest
  | queries, calls, .metric val rest =>
      operators processing (queries ++ [_parse_query processing val]) calls rest

/-! ## Queries -/

/-- A query, by how it was put together. -/
inductive Expr
  | query (text : String)
  | pair (left : Expr) (text : String)
  | call (applied : Expr) (function argument : String)

namespace Expr

def text : Expr → String
  | .query text => text
  | .pair left text => "(" ++ left.text ++ "),(" ++ text ++ ")"
  | .call applied function argument =>
      "(" ++ applied.text ++ ")." ++ function ++ "(" ++ argument ++ ")"

def queries : Expr → List String
  | .query text => [text]
  | .pair left text => left.queries ++ [text]
  | .call applied _ _ => applied.queries

def calls : Expr → List Call
  | .query _ => []
  | .pair left _ => left.calls
  | .call applied function argument =>
      applied.calls ++ [⟨function, argument, applied.queries, applied.calls.length⟩]

end Expr

/-! ## The text of a query -/

section Text

theorem query_ne_empty (processing : String) (val : MetricVal) :
    _parse_query processing val ≠ "" := by
  intro h
  unfold _parse_query at h
  simp only [String.append_assoc] at h
  have hprefix := (String.append_eq_empty_iff.mp h).1
  exact absurd hprefix (by decide +kernel)

/-- An expression whose queries are balanced and not empty. -/
inductive Sound : Expr → Prop
  | query {text : String} : text ≠ "" → Parens.Balanced text.toList → Sound (.query text)
  | pair {left : Expr} {text : String} : Sound left → Parens.Balanced text.toList →
      Sound (.pair left text)
  | call {applied : Expr} {function argument : String} : Sound applied →
      Parens.Balanced function.toList → Parens.Balanced argument.toList →
      Sound (.call applied function argument)

theorem Sound.text_ne_empty {e : Expr} (h : Sound e) : e.text ≠ "" := by
  intro he
  have hlist := congrArg String.toList he
  cases h with
  | query hne _ => exact hne he
  | pair _ _ => simp [Expr.text] at hlist
  | call _ _ _ => simp [Expr.text] at hlist

theorem toList_pair (left : Expr) (text : String) : (Expr.pair left text).text.toList =
    ('(' :: (left.text.toList ++ [')'])) ++ ([','] ++ ('(' :: (text.toList ++ [')']))) := by
  simp [Expr.text]

theorem toList_call (applied : Expr) (function argument : String) :
    (Expr.call applied function argument).text.toList =
      ('(' :: (applied.text.toList ++ [')'])) ++
        (['.'] ++ (function.toList ++ ('(' :: (argument.toList ++ [')'])))) := by
  simp [Expr.text]

/-- The text of an expression is balanced. -/
theorem Sound.balanced {e : Expr} (h : Sound e) : Parens.Balanced e.text.toList := by
  induction h with
  | query _ htext => exact htext
  | pair _ htext ih =>
      rw [toList_pair]
      exact ih.parens.append (.append (.plain (by simp)) htext.parens)
  | call _ hfunction hargument ih =>
      rw [toList_call]
      exact ih.parens.append (.append (.plain (by simp)) (hfunction.append hargument.parens))

/-- A call that is cut open takes its argument. -/
theorem dropLast_call (applied : Expr) (function argument : String) :
    dropLast (Expr.call applied function "").text ++ argument ++ ")" =
      (Expr.call applied function argument).text := by
  have hcut : (Expr.call applied function "").text.toList =
      ('(' :: (applied.text.toList ++ [')', '.'] ++ function.toList ++ ['('])) ++ [')'] := by
    rw [toList_call]
    simp
  apply String.toList_inj.mp
  rw [dropLast, String.toList_append, String.toList_append, String.toList_ofList, hcut,
    List.dropLast_concat, toList_call]
  simp

theorem metric_set_function {val : String} (h : val = "+" ∨ val = "/") :
    _metric_set val = some (function val ++ "()") := by
  rcases h with rfl | rfl
  · rfl
  · rfl

theorem balanced_function (val : String) : Parens.Balanced (function val).toList := by
  unfold function
  split
  · decide +kernel
  · decide +kernel

theorem balanced_int (val : Int) : Parens.Balanced (toString val).toList := by
  refine .plain fun c hc => ?_
  rcases Decimal.isDigit_or_minus hc with hdigit | rfl
  · constructor
    · rintro rfl
      cases hdigit
    · rintro rfl
      cases hdigit
  · decide

end Text

/-! ## The compiler -/

/-- The text that goes through the tree: nothing yet, or that of an expression. -/
def textOf : Option Expr → String
  | none => ""
  | some e => e.text

def queriesOf : Option Expr → List String
  | none => []
  | some e => e.queries

def callsOf : Option Expr → List Call
  | none => []
  | some e => e.calls

/-- What the nodes make of the text so far. -/
structure Compiles (processing : String) (nodes : Nodes) (before : Option Expr) (after : Expr) :
    Prop where
  parsed : _parse processing nodes (textOf before) = .ok after.text
  sound : Sound after
  queries : after.queries = queriesOf before ++ leaves processing nodes
  calls : after.calls =
    callsOf before ++ operators processing (queriesOf before) (callsOf before).length nodes

section Compiler

variable {processing : String} {before : Option Expr} {nodes node rest : Nodes}

/-- A metric is put beside what there is. -/
theorem parse_metric (val : MetricVal) (rest : Nodes) (hbefore : ∀ e ∈ before, Sound e) :
    _parse processing (.metric val rest) (textOf before) =
      _parse processing rest (match before with
        | none => Expr.query (_parse_query processing val)
        | some e => Expr.pair e (_parse_query processing val)).text := by
  cases before with
  | none => rfl
  | some e =>
      have hne := (hbefore e rfl).text_ne_empty
      show _parse processing rest (if e.text = "" then _ else _) = _
      rw [if_neg hne]
      rfl

/-- An operator is a call on what its nodes leave. -/
theorem parse_operator {val : String} (hval : val = "+" ∨ val = "/") {applied : Expr}
    (hnode : _parse processing node (textOf before) = .ok applied.text) :
    _parse processing (.tree val node rest) (textOf before) =
      _parse processing rest (Expr.call applied (function val) "").text := by
  have htext : "(" ++ applied.text ++ ")." ++ (function val ++ "()") =
      (Expr.call applied (function val) "").text := by
    apply String.toList_inj.mp
    simp [Expr.text]
  rw [_parse, metric_set_function hval]
  show (_parse processing node (textOf before) >>= fun output =>
    _parse processing rest ("(" ++ output ++ ")." ++ (function val ++ "()"))) = _
  rw [hnode]
  show _parse processing rest ("(" ++ applied.text ++ ")." ++ (function val ++ "()")) = _
  rw [htext]

/-- A constant is the argument of the call it follows. -/
theorem parse_interval (applied : Expr) (function : String) (rest : Nodes) :
    _parse processing (.text "interval" rest) (Expr.call applied function "").text =
      _parse processing rest (Expr.call applied function "${interval}").text := by
  show _parse processing rest (dropLast (Expr.call applied function "").text ++ "${interval}" ++ ")")
    = _
  rw [dropLast_call]

theorem parse_int (applied : Expr) (function : String) (val : Int) (rest : Nodes) :
    _parse processing (.int val rest) (Expr.call applied function "").text =
      _parse processing rest (Expr.call applied function (toString val)).text := by
  rw [_parse, dropLast_call]

/-- Nodes that no constant begins make an expression, or leave what there is. -/
def CompilesNodes (processing : String) (nodes : Nodes) : Prop :=
  ∀ before : Option Expr, (∀ e ∈ before, Sound e) → WellFormed processing false nodes →
    (nodes = .nil ∧ before = none) ∨ ∃ after, Compiles processing nodes before after

/-- Nodes after an operator make an expression of its call, with the constant they begin with. -/
def CompilesAfter (processing : String) (nodes : Nodes) : Prop :=
  ∀ (applied : Expr) (val : String), Sound applied → WellFormed processing true nodes →
    ∃ after : Expr,
      _parse processing nodes (Expr.call applied (function val) "").text = .ok after.text ∧
      Sound after ∧ after.queries = applied.queries ++ leaves processing nodes ∧
      after.calls = applied.calls ++ ⟨function val, constant nodes, applied.queries,
        applied.calls.length⟩ :: operators processing applied.queries (applied.calls.length + 1) nodes

/-- Nodes that do not begin with a constant go on after the call as after anything else. -/
theorem compilesAfter_of_nodes (hnodes : CompilesNodes processing nodes)
    (hconstant : constant nodes = "")
    (hwell : WellFormed processing true nodes → WellFormed processing false nodes) :
    CompilesAfter processing nodes := by
  intro applied val happlied h
  have hcall : Sound (.call applied (function val) "") :=
    .call happlied (balanced_function val) .nil
  rcases hnodes (some (.call applied (function val) "")) (fun e he => Option.some.inj he ▸ hcall)
    (hwell h) with ⟨-, hnone⟩ | ⟨after, hafter⟩
  · cases hnone
  · refine ⟨after, hafter.parsed, hafter.sound, hafter.queries, ?_⟩
    rw [hafter.calls, hconstant]
    simp [callsOf, queriesOf, Expr.calls, Expr.queries]

/-- A constant is written into the call, and the nodes after it go on. -/
theorem compilesAfter_of_constant {tail : Nodes} (htail : CompilesNodes processing tail)
    {argument : String} (hargument : Parens.Balanced argument.toList)
    (hparse : ∀ (applied : Expr) (function : String),
      _parse processing nodes (Expr.call applied function "").text =
        _parse processing tail (Expr.call applied function argument).text)
    (hwell : WellFormed processing true nodes → WellFormed processing false tail)
    (hleaves : leaves processing nodes = leaves processing tail)
    (hoperators : ∀ queries calls, operators processing queries calls nodes =
      operators processing queries calls tail) (hconstant : constant nodes = argument) :
    CompilesAfter processing nodes := by
  intro applied val happlied h
  have hcall : Sound (.call applied (function val) argument) :=
    .call happlied (balanced_function val) hargument
  rw [hparse, hleaves, hoperators, hconstant]
  rcases htail (some (.call applied (function val) argument))
    (fun e he => Option.some.inj he ▸ hcall) (hwell h) with ⟨-, hnone⟩ | ⟨after, hafter⟩
  · cases hnone
  · refine ⟨after, hafter.parsed, hafter.sound, hafter.queries, ?_⟩
    rw [hafter.calls]
    simp [callsOf, queriesOf, Expr.calls, Expr.queries]

theorem compilesNodes_nil : CompilesNodes processing .nil := by
  intro before hbefore _
  cases before with
  | none => exact .inl ⟨rfl, rfl⟩
  | some e => exact .inr ⟨e, rfl, hbefore e rfl, by simp [queriesOf, leaves],
      by simp [callsOf, operators]⟩

theorem compilesNodes_metric (val : MetricVal) (hrest : CompilesNodes processing rest) :
    CompilesNodes processing (.metric val rest) := by
  rintro before hbefore ⟨hquery, hwell⟩
  have hne := query_ne_empty processing val
  cases before with
  | none =>
      have hsound : Sound (.query (_parse_query processing val)) := .query hne hquery
      rcases hrest (some (.query (_parse_query processing val)))
        (fun e he => Option.some.inj he ▸ hsound) hwell with ⟨-, hnone⟩ | ⟨after, hafter⟩
      · cases hnone
      · refine .inr ⟨after, ?_, hafter.sound, ?_, ?_⟩
        · rw [parse_metric val rest hbefore]
          exact hafter.parsed
        · rw [hafter.queries]
          rfl
        · rw [hafter.calls]
          rfl
  | some e =>
      have hsound : Sound (.pair e (_parse_query processing val)) := .pair (hbefore e rfl) hquery
      rcases hrest (some (.pair e (_parse_query processing val)))
        (fun e he => Option.some.inj he ▸ hsound) hwell with ⟨-, hnone⟩ | ⟨after, hafter⟩
      · cases hnone
      · refine .inr ⟨after, ?_, hafter.sound, ?_, ?_⟩
        · rw [parse_metric val rest hbefore]
          exact hafter.parsed
        · rw [hafter.queries]
          simp [queriesOf, Expr.queries, leaves]
        · rw [hafter.calls]
          rfl

theorem compilesNodes_tree {val : String} (hnode : CompilesNodes processing node)
    (hrest : CompilesAfter processing rest) : CompilesNodes processing (.tree val node rest) := by
  rintro before hbefore ⟨hval, hne, hwellnode, hwell⟩
  rcases hnode before hbefore hwellnode with ⟨hnil, -⟩ | ⟨applied, happlied⟩
  · exact absurd hnil hne
  · obtain ⟨after, hparsed, hsound, hqueries, hcalls⟩ := hrest applied val happlied.sound hwell
    refine .inr ⟨after, ?_, hsound, ?_, ?_⟩
    · rw [parse_operator hval happlied.parsed]
      exact hparsed
    · rw [hqueries, happlied.queries, List.append_assoc]
      rfl
    · rw [hcalls, happlied.calls, happlied.queries, List.length_append, List.append_assoc]
      rfl

/-- By induction over the nodes, each list with and without a call before it. -/
theorem compiles_nodes : CompilesNodes processing nodes ∧ CompilesAfter processing nodes := by
  induction nodes with
  | nil => exact ⟨compilesNodes_nil, compilesAfter_of_nodes compilesNodes_nil rfl id⟩
  | text val rest ih =>
      constructor
      · rintro before hbefore ⟨-, hfalse, -⟩
        cases hfalse
      · intro applied function happlied h
        have hval : val = "interval" := h.1
        subst hval
        exact compilesAfter_of_constant ih.1 (.plain (by simp))
          (fun applied function => parse_interval applied function rest) (fun h => h.2.2) rfl
          (fun _ _ => rfl) rfl applied function happlied h
  | tree val node rest ihnode ihrest =>
      have hnodes : CompilesNodes processing (.tree val node rest) :=
        compilesNodes_tree ihnode.1 ihrest.2
      exact ⟨hnodes, compilesAfter_of_nodes hnodes rfl id⟩
  | int val rest ih =>
      constructor
      · rintro before hbefore ⟨hfalse, -⟩
        cases hfalse
      · exact compilesAfter_of_constant ih.1 (balanced_int val)
          (fun applied function => parse_int applied function val rest) (fun h => h.2) rfl
          (fun _ _ => rfl) rfl
  | metric val rest ih =>
      have hnodes := compilesNodes_metric val ih.1
      exact ⟨hnodes, compilesAfter_of_nodes hnodes rfl id⟩

/-- What a rule is to give: a balanced text of a query that has the queries of the tree once each
and in their order, and one call for each operator, with the constant after it, on all that comes
before it and its nodes. -/
structure Compiled (processing : String) (nodes : Nodes) (output : String) : Prop where
  balanced : Parens.Balanced output.toList
  expression : nodes = .nil ∧ output = "" ∨ ∃ e : Expr, output = e.text ∧
    e.queries = leaves processing nodes ∧ e.calls = operators processing [] 0 nodes

/-- Every well-formed rule gives such a text. -/
theorem parse_wellFormed (processing : String) (nodes : Nodes)
    (h : WellFormed processing false nodes) :
    ∃ output, _parse processing nodes "" = .ok output ∧ Compiled processing nodes output := by
  rcases compiles_nodes.1 none (fun e he => by cases he) h with ⟨rfl, -⟩ | ⟨e, he⟩
  · exact ⟨"", rfl, .nil, .inl ⟨rfl, rfl⟩⟩
  · exact ⟨e.text, he.parsed, he.sound.balanced, .inr ⟨e, rfl, he.queries, he.calls⟩⟩

/-- The query that is kept is balanced too, around a name without parentheses. -/
theorem balanced_metric_query {processing name : String} {nodes : Nodes}
    (h : WellFormed processing false nodes) (hname : ∀ c ∈ name.toList, c ≠ '(' ∧ c ≠ ')') :
    ∃ query, metric_query processing name nodes = .ok query ∧ Parens.Balanced query.toList := by
  obtain ⟨output, hparsed, hbalanced⟩ :
      ∃ output, _parse processing nodes "" = .ok output ∧ Parens.Balanced output.toList := by
    rcases compiles_nodes.1 none (fun e he => by cases he) h with ⟨rfl, -⟩ | ⟨e, he⟩
    · exact ⟨"", rfl, .nil⟩
    · exact ⟨e.text, he.parsed, he.sound.balanced⟩
  refine ⟨"(" ++ output ++ ").label(" ++ name ++ ")", by rw [metric_query, hparsed]; rfl, ?_⟩
  have hlabel : Parens.Balanced ".label".toList := by decide +kernel
  have htext : ("(" ++ output ++ ").label(" ++ name ++ ")").toList =
      '(' :: (output.toList ++ [')']) ++ (".label".toList ++ '(' :: (name.toList ++ [')'])) := by
    simp [String.toList_append]
  rw [htext]
  exact hbalanced.parens.append (hlabel.append (Parens.Balanced.plain hname).parens)

end Compiler

/-- The rule for the bytes read in an interval. -/
def throughputRead : Nodes :=
  .tree "/" (.metric ⟨"statsd_counter-*", "act:outcoming_object_bytes_count", "@timestamp",
    "sum:val"⟩ .nil) (.text "interval" .nil)

theorem parse_wellFormed_throughputRead :
    WellFormed "abs" false throughputRead ∧
      ∃ output, _parse "abs" throughputRead "" = .ok output ∧
        Compiled "abs" throughputRead output :=
  have h : WellFormed "abs" false throughputRead :=
    ⟨.inr rfl, (by simp), ⟨by decide +kernel, trivial⟩, rfl, rfl, trivial⟩
  ⟨h, parse_wellFormed "abs" throughputRead h⟩

example : _parse "abs" throughputRead "" =
    .ok ("(.es(q=act:outcoming_object_bytes_count, timefield=@timestamp, " ++
      "index=statsd_counter-*, metric=sum:val).abs()).divide(${interval})") := by
  decide +kernel

end AggregationRule

end CortxCsm
