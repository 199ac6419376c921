/-
# `CortxCsm.TimelionIndex` — the daily indexes that a query looks at

A metric's query names its index by a pattern such as `statsd_counter-*`.
`TimelionProvider._update_index` (`timeseries.py`) puts a narrower pattern in its place, as far
as the dates of the window agree, for the first of the three patterns that the query names.

    same day        statsd_counter-2020.03.08
    same month      statsd_counter-2020.03.*
    same year       statsd_counter-2020.*
    otherwise       statsd_counter-*

The dates are compared as texts; `process_request` makes these of timestamps, with as many
digits in each part whatever the date.

**Proved here.**

    the parts of a date are read back from its text       (`dateParts_timestamp`)
    equal texts are equal numbers                         (`pad_inj`)
    the day of an instant of the window is in the window  (`date_between`)
    no day of the window is lost                          (`update_index_narrows`)
-/
import CortxCsm.Lib.Calendar
import CortxCsm.Lib.Decimal
import CortxCsm.Lib.Replace

namespace CortxCsm

namespace TimelionIndex

open Calendar

/-! ## Timestamps -/

structure DateTime where
  date : Date
  hour : Nat
  minute : Nat
  second : Nat
  deriving DecidableEq, Repr

/-- `datetime.utcfromtimestamp`; it raises outside the years 1 to 9999. -/
def utcfromtimestamp (timestamp : Int) : Option DateTime :=
  let seconds := timestamp + 62135596800
  if 0 ≤ seconds ∧ seconds < 315537897600 then
    let seconds := seconds.toNat
    some ⟨.ofDay (seconds / 86400), seconds % 86400 / 3600, seconds % 3600 / 60, seconds % 60⟩
  else none

/-- The digits of a number, with zeros in front. -/
def pad (width n : Nat) : String := String.ofList ((Nat.toDigits 10 n).leftpad width '0')

/-- `YYYY-MM-DD`. -/
def isoDate (date : Date) : String :=
  Text.join '-' [pad 4 date.year, pad 2 date.month, pad 2 date.day]

/-- `isoformat()` of a time without microseconds, and `'.000Z'`. -/
def DateTime.timestamp (t : DateTime) : String :=
  isoDate t.date ++ String.singleton 'T' ++
    (pad 2 t.hour ++ ":" ++ pad 2 t.minute ++ ":" ++ pad 2 t.second ++ ".000Z")

/-! ## The index -/

def _indexes : List String := ["statsd_timerdata-*", "statsd_counter-*", "statsd_gauge-*"]

/-- `(timestamp.split("T")[0]).split("-")`. -/
def dateParts (timestamp : String) : List String :=
  Text.split '-' ((Text.split 'T' timestamp).headD "")

/-- `index in metric`. -/
def occurs (index metric : String) : Bool := index.toList <:+: metric.toList

/-- The new index, or an `IndexError` where a date has no month. -/
def new_index (f_li d_li : List String) (old_index : String) : Option String :=
  if f_li = d_li then some (Text.replace "*" (Text.join '.' f_li) old_index)
  else if f_li.headD "" = d_li.headD "" then do
    let f_month ← f_li[1]?
    let d_month ← d_li[1]?
    if f_month = d_month then
      some (Text.replace "*" (d_li.headD "" ++ "." ++ d_month ++ ".*") old_index)
    else some (Text.replace "*" (d_li.headD "" ++ ".*") old_index)
  else some old_index

def _update_index (metric from_t duration_t : String) : Option String := do
  let old_index := (_indexes.find? fun index => occurs index metric).getD ""
  let new_index ← new_index (dateParts from_t) (dateParts duration_t) old_index
  return Text.replace old_index new_index metric

/-! ## Dates as texts -/

section Texts

theorem not_mem_pad {c : Char} (hc : c.isDigit = false) (width n : Nat) :
    c ∉ (pad width n).toList := by
  intro h
  rw [pad, String.toList_ofList, List.leftpad, List.mem_append] at h
  rcases h with h | h
  · rw [List.eq_of_mem_replicate h] at hc
    cases hc
  · rw [Decimal.isDigit_toDigits h] at hc
    cases hc

/-- A number is read back from its padded digits. -/
theorem pad_inj {width n m : Nat} (h : pad width n = pad width m) : n = m := by
  have hvalue : ∀ k, Nat.ofDigitChars 10 (pad width k).toList 0 = k := by
    intro k
    rw [pad, String.toList_ofList, List.leftpad, Nat.ofDigitChars_append,
      Nat.ofDigitChars_replicate_zero, Nat.mul_zero, Nat.ofDigitChars_ten_toDigits]
  rw [← hvalue n, h, hvalue m]

theorem dateParts_timestamp (t : DateTime) :
    dateParts t.timestamp = [pad 4 t.date.year, pad 2 t.date.month, pad 2 t.date.day] := by
  have hdigit : ∀ {c : Char}, c.isDigit = false →
      ∀ part ∈ [pad 4 t.date.year, pad 2 t.date.month, pad 2 t.date.day], c ∉ part.toList := by
    intro c hc part hpart
    simp only [List.mem_cons, List.not_mem_nil, or_false] at hpart
    rcases hpart with rfl | rfl | rfl
    · exact not_mem_pad hc _ _
    · exact not_mem_pad hc _ _
    · exact not_mem_pad hc _ _
  have hdate : 'T' ∉ (isoDate t.date).toList := by
    intro h
    have hne : [pad 2 t.date.month, pad 2 t.date.day] ≠ [] := List.cons_ne_nil _ _
    rw [isoDate, Text.join_cons _ _ hne, Text.join_pair] at h
    have hT : ('T' : Char).isDigit = false := rfl
    simp [not_mem_pad hT] at h
  rw [dateParts, DateTime.timestamp, Text.split_append _ hdate, List.headD_cons, isoDate,
    Text.split_join (hdigit rfl) (List.cons_ne_nil _ _)]

end Texts

/-! ## The days of a window -/

/-- The day of an instant is between the days of the ends. -/
theorem date_between {from_t t duration_t : Int} {f d : DateTime} (hfrom : from_t ≤ t)
    (hto : t ≤ duration_t) (hf : utcfromtimestamp from_t = some f)
    (hd : utcfromtimestamp duration_t = some d) :
    ∃ u, utcfromtimestamp t = some u ∧ f.date ≤ u.date ∧ u.date ≤ d.date := by
  have hrange : ∀ {s : Int} {v : DateTime}, utcfromtimestamp s = some v →
      (0 ≤ s + 62135596800 ∧ s + 62135596800 < 315537897600) ∧
        v.date = .ofDay ((s + 62135596800).toNat / 86400) := by
    intro s v hv
    unfold utcfromtimestamp at hv
    dsimp only at hv
    split at hv
    · rename_i h
      cases hv
      exact ⟨h, rfl⟩
    · cases hv
  obtain ⟨hfrange, hfdate⟩ := hrange hf
  obtain ⟨hdrange, hddate⟩ := hrange hd
  have hin : 0 ≤ t + 62135596800 ∧ t + 62135596800 < 315537897600 := by omega
  have hu : utcfromtimestamp t = some ⟨.ofDay ((t + 62135596800).toNat / 86400),
      (t + 62135596800).toNat % 86400 / 3600, (t + 62135596800).toNat % 3600 / 60,
      (t + 62135596800).toNat % 60⟩ := if_pos hin
  refine ⟨_, hu, ?_, ?_⟩
  · rw [hfdate]
    exact Date.ofDay_mono (Nat.div_le_div_right (by omega))
  · rw [hddate]
    exact Date.ofDay_mono (Nat.div_le_div_right (by omega))

/-! ## Patterns and indexes -/

/-- What the patterns begin with. -/
def statsd : List String := ["statsd_timerdata", "statsd_counter", "statsd_gauge"]

def pattern (name : String) : String := name ++ "-*"

/-- `<name>-YYYY.MM.DD`. -/
def dailyIndex (name : String) (day : Date) : String :=
  name ++ "-" ++ Text.join '.' [pad 4 day.year, pad 2 day.month, pad 2 day.day]

/-- What takes the place of a pattern in a query still stands for every daily index of the window,
and the rest of the query is as it was. -/
def Narrowed (metric result name : String) (first last : Date) : Prop :=
  ∃ (new : List Char) (parts : List (List Char)),
    metric.toList = (pattern name).toList.intercalate parts ∧
    (∀ part ∈ parts, ¬ (pattern name).toList <:+: part) ∧
    result.toList = new.intercalate parts ∧
    ∀ day, first ≤ day → day ≤ last → Glob.Matches new (dailyIndex name day).toList

theorem indexes_eq : _indexes = statsd.map pattern := by decide +kernel

/-- The star of a pattern is replaced. -/
theorem replace_star {name : String} (hname : name ∈ statsd) (text : String) :
    (Text.replace "*" text (pattern name)).toList = (name ++ "-" ++ text).toList := by
  have hstar : '*' ∉ (name ++ "-").toList := by
    simp only [statsd, List.mem_cons, List.not_mem_nil, or_false] at hname
    rcases hname with rfl | rfl | rfl
    · decide +kernel
    · decide +kernel
    · decide +kernel
  have hpattern : (pattern name).toList = (name ++ "-").toList ++ "*".toList ++ [] := by
    simp [pattern]
  rw [Text.replace_once (by decide) hpattern ?_ (by simp)]
  · simp
  · intro rest c hc hprefix
    have heq : '*' = c := (List.cons_prefix_cons.mp hprefix).1
    exact hstar (heq ▸ hc)

/-- A pattern with a text before its star stands for the indexes that go on with the text. -/
theorem matches_narrowed {name : String} (hname : name ∈ statsd) {text : String}
    {tail : List Char} (htext : text.toList = tail ++ ['*']) {f d : Date}
    (h : ∀ day, f ≤ day → day ≤ d →
      ∃ rest, (dailyIndex name day).toList = (name ++ "-").toList ++ tail ++ rest) :
    ∀ day, f ≤ day → day ≤ d →
      Glob.Matches (Text.replace "*" text (pattern name)).toList (dailyIndex name day).toList := by
  intro day hf hd
  obtain ⟨rest, hrest⟩ := h day hf hd
  rw [replace_star hname, String.toList_append, htext, hrest, ← List.append_assoc]
  exact Glob.matches_begins rest _

theorem toList_dailyIndex (name : String) (day : Date) : (dailyIndex name day).toList =
    (name ++ "-").toList ++ ((pad 4 day.year).toList ++ ['.'] ++ ((pad 2 day.month).toList ++ ['.']))
      ++ (pad 2 day.day).toList := by
  unfold dailyIndex
  rw [Text.join_cons _ _ (List.cons_ne_nil _ _), Text.join_pair]
  simp

/-- The new index by what the dates have in common. -/
theorem new_index_timestamp (f d : DateTime) (old_index : String) :
    new_index (dateParts f.timestamp) (dateParts d.timestamp) old_index = some (
      if f.date = d.date then
        Text.replace "*" (Text.join '.' [pad 4 f.date.year, pad 2 f.date.month, pad 2 f.date.day])
          old_index
      else if f.date.year = d.date.year then
        if f.date.month = d.date.month then
          Text.replace "*" (pad 4 d.date.year ++ "." ++ pad 2 d.date.month ++ ".*") old_index
        else Text.replace "*" (pad 4 d.date.year ++ ".*") old_index
      else old_index) := by
  have hpad : ∀ {width n m : Nat}, pad width n = pad width m ↔ n = m :=
    ⟨pad_inj, fun h => h ▸ rfl⟩
  have hdate : [pad 4 f.date.year, pad 2 f.date.month, pad 2 f.date.day] =
      [pad 4 d.date.year, pad 2 d.date.month, pad 2 d.date.day] ↔ f.date = d.date := by
    simp only [List.cons.injEq, and_true, hpad]
    cases f.date
    cases d.date
    simp
  rw [dateParts_timestamp, dateParts_timestamp]
  simp only [new_index, hdate, List.headD_cons, List.getElem?_cons_succ, List.getElem?_cons_zero,
    Option.bind_eq_bind, Option.bind_some, hpad]
  split
  · rfl
  · split
    · split
      · rfl
      · rfl
    · rfl

/-- However the index is narrowed, it stands for the days of the window. -/
theorem new_index_matches (f d : DateTime) {name : String} (hname : name ∈ statsd) :
    ∃ new, new_index (dateParts f.timestamp) (dateParts d.timestamp) (pattern name) = some new ∧
      ∀ day, f.date ≤ day → day ≤ d.date →
        Glob.Matches new.toList (dailyIndex name day).toList := by
  refine ⟨_, new_index_timestamp f d (pattern name), ?_⟩
  split
  · rename_i heq
    intro day hf hd
    rw [← heq] at hd
    rw [replace_star hname, Date.eq_of_between hf hd]
    exact .refl _
  · split
    · rename_i hyear
      split
      · rename_i hmonth
        have htext : (pad 4 d.date.year ++ "." ++ pad 2 d.date.month ++ ".*").toList =
            ((pad 4 d.date.year).toList ++ ['.'] ++ ((pad 2 d.date.month).toList ++ ['.'])) ++
              ['*'] := by
          simp
        refine matches_narrowed hname htext ?_
        intro day hf hd
        refine ⟨(pad 2 day.day).toList, ?_⟩
        rw [toList_dailyIndex, Date.year_of_between hf hd hyear,
          Date.month_of_between hf hd hyear hmonth, hyear, hmonth]
      · have htext : (pad 4 d.date.year ++ ".*").toList =
            ((pad 4 d.date.year).toList ++ ['.']) ++ ['*'] := by
          simp
        refine matches_narrowed hname htext ?_
        intro day hf hd
        refine ⟨(pad 2 day.month).toList ++ ['.'] ++ (pad 2 day.day).toList, ?_⟩
        rw [toList_dailyIndex, Date.year_of_between hf hd hyear, hyear]
        simp
    · intro day _ _
      have hpattern : (pattern name).toList = (name ++ "-").toList ++ ['*'] := by
        simp [pattern]
      rw [hpattern, toList_dailyIndex, List.append_assoc]
      exact Glob.matches_begins _ _

/-- Nothing is narrowed where there is no pattern. -/
theorem new_index_empty (f d : DateTime) :
    new_index (dateParts f.timestamp) (dateParts d.timestamp) "" = some "" := by
  have hempty : ∀ text, Text.replace "*" text "" = "" := fun text =>
    Text.replace_of_not_infix (by decide) (by simp)
  rw [new_index_timestamp]
  simp only [hempty, ite_self]

/-- Of every query and every window: a query that names no pattern is as it was; in another one
of the patterns that it names is narrowed, and no day of the window is lost. -/
theorem update_index_narrows (metric : String) (from_t duration_t : Int)
    (hle : from_t ≤ duration_t) (f d : DateTime) (hf : utcfromtimestamp from_t = some f)
    (hd : utcfromtimestamp duration_t = some d) :
    ∃ result, _update_index metric f.timestamp d.timestamp = some result ∧
      ((∀ name ∈ statsd, occurs (pattern name) metric = false) → result = metric) ∧
      ((∃ name ∈ statsd, occurs (pattern name) metric = true) →
        ∃ name ∈ statsd, occurs (pattern name) metric = true ∧
          Narrowed metric result name f.date d.date) ∧
      f.date ≤ d.date ∧
      ∀ t, from_t ≤ t → t ≤ duration_t →
        ∃ u, utcfromtimestamp t = some u ∧ f.date ≤ u.date ∧ u.date ≤ d.date := by
  have hdays : f.date ≤ d.date := by
    obtain ⟨u, hu, hfu, -⟩ := date_between hle (Int.le_refl duration_t) hf hd
    rw [hd] at hu
    cases hu
    exact hfu
  have hbetween : ∀ t, from_t ≤ t → t ≤ duration_t →
      ∃ u, utcfromtimestamp t = some u ∧ f.date ≤ u.date ∧ u.date ≤ d.date :=
    fun t hfrom hto => date_between hfrom hto hf hd
  unfold _update_index
  rw [indexes_eq, List.find?_map]
  cases hfind : statsd.find? ((fun index => occurs index metric) ∘ pattern) with
  | none =>
      have hnone : ∀ name ∈ statsd, occurs (pattern name) metric = false := by
        intro name hname
        simpa using List.find?_eq_none.mp hfind name hname
      refine ⟨metric, ?_, fun _ => rfl, ?_, hdays, hbetween⟩
      · show ((new_index _ _ "").bind fun new_index => some (Text.replace "" new_index metric)) = _
        rw [new_index_empty]
        exact congrArg some (Text.replace_empty metric)
      · rintro ⟨name, hname, hoccurs⟩
        rw [hnone name hname] at hoccurs
        cases hoccurs
  | some name =>
      have hname := List.mem_of_find?_eq_some hfind
      have hfound := List.find?_some hfind
      have hoccurs : occurs (pattern name) metric = true := hfound
      obtain ⟨new, hnew, hmatches⟩ := new_index_matches f d hname
      have hne : pattern name ≠ "" := by
        intro he
        have hlist := congrArg String.toList he
        simp [pattern] at hlist
      have hne' : (pattern name).toList ≠ [] := fun h => hne (String.toList_inj.mp h)
      refine ⟨Text.replace (pattern name) new metric, ?_, ?_, ?_, hdays, hbetween⟩
      · show ((new_index _ _ (pattern name)).bind fun new_index =>
          some (Text.replace (pattern name) new_index metric)) = _
        rw [hnew]
        rfl
      · intro hnone
        rw [hnone name hname] at hoccurs
        cases hoccurs
      · intro _
        exact ⟨name, hname, hoccurs, new.toList, Text.pieces (pattern name).toList 0 metric.toList,
          (Text.intercalate_pieces hne' _).symm, fun part hpart => Text.not_infix_piece hne' hpart,
          Text.toList_replace hne, hmatches⟩

theorem update_index_narrows_march :
    ∃ result, _update_index "(.es(index=statsd_counter-*))" "2020-03-08T14:27:12.000Z"
        "2020-03-09T14:27:12.000Z" = some result ∧
      ∃ name ∈ statsd, Narrowed "(.es(index=statsd_counter-*))" result name ⟨2020, 3, 8⟩
        ⟨2020, 3, 9⟩ := by
  have hf : utcfromtimestamp 1583677632 = some ⟨⟨2020, 3, 8⟩, 14, 27, 12⟩ := by decide +kernel
  have hd : utcfromtimestamp 1583764032 = some ⟨⟨2020, 3, 9⟩, 14, 27, 12⟩ := by decide +kernel
  obtain ⟨result, hresult, -, hnarrowed, -⟩ := update_index_narrows "(.es(index=statsd_counter-*))"
    1583677632 1583764032 (by decide) _ _ hf hd
  have hoccurs : ∃ name ∈ statsd,
      occurs (pattern name) "(.es(index=statsd_counter-*))" = true := by decide +kernel
  obtain ⟨name, hname, -, hn⟩ := hnarrowed hoccurs
  exact ⟨result, hresult, name, hname, hn⟩

example : _update_index "(.es(index=statsd_counter-*))" "2020-03-08T14:27:12.000Z"
    "2020-03-09T14:27:12.000Z" = some "(.es(index=statsd_counter-2020.03.*))" := by
  decide +kernel

end TimelionIndex

end CortxCsm
