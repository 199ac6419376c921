/-
# `CortxCsm.TimelionWindow` — the window and the interval of a request for statistics

`TimelionProvider._parse_interval` (`timeseries.py`) reads the two ends of the window, moves
both back by the configured offset, and picks the time between two points: of the number of
samples if one is asked for, else of the interval asked for, else the configured one.

    total_sample   from and to     interval
    "20"           any             (to - from) / 20, as a float, cut off to an integer
    ""             "300"           300
    ""             ""              the configured interval

An interval that is asked for has to be at least one.  A number of samples only has to be a
number other than zero, and a float has 53 digits.

**Proved here.**

    without a number of samples the interval is right      (`interval_of_no_samples`)
    with one it is right exactly when it is positive, no more than the seconds of the window,
    and the division loses nothing                         (`interval_of_samples_iff`)
    and so for the whole window                            (`parse_interval_iff`)
-/
import CortxCsm.Lib.Binary64
import CortxCsm.ResourceLimits

namespace CortxCsm

namespace TimelionWindow

/-! ## Exceptions -/

/-- What a request for statistics can end with; `valueError` is also the class of a text that
is no JSON. -/
inductive StatsExc
  | csm (e : CsmError)
  | valueError
  | overflowError
  | indexError
  | keyError
  | typeError
  deriving DecidableEq, Repr

/-- `InvalidRequest(desc)`. -/
def invalidRequest (desc : String) : StatsExc :=
  .csm ⟨.InvalidRequest, CSM_INVALID_REQUEST, some desc, some "MalformedRequest", none⟩

/-- What is returned has `P`, and nothing but an `InvalidRequest` is raised. -/
def Returns {α : Type} (P : α → Prop) : Except StatsExc α → Prop
  | .ok a => P a
  | .error (.csm e) => e.cls = .InvalidRequest
  | .error _ => False

/-! ## The interval -/

section Interval

/- `int` of a text, or `none` for a `ValueError`. -/
variable (int : String → Option Int)

def interval_of (storage_interval diff_sec : Int) (interval total_sample : String) :
    Except StatsExc String :=
  if total_sample = "" ∧ interval = "" then .ok (toString storage_interval ++ "s")
  else if total_sample ≠ "" then
    match int total_sample with
    | none => .error (invalidRequest "'total_sample' should be integer and greater than zero")
    | some n =>
        match Binary64.trueDiv diff_sec n with
        | .ok quotient => .ok (toString (Binary64.trunc quotient) ++ "s")
        | .error .zeroDivision =>
            .error (invalidRequest "'total_sample' should be integer and greater than zero")
        | .error .overflow => .error .overflowError
  else
    match int interval with
    | none => .error (invalidRequest "'interval' should be integer and greater than zero")
    | some n =>
        if n < 1 then
          .error (invalidRequest "'interval' should be integer and greater than zero")
        else .ok (toString n ++ "s")

/-- The interval, the later end and the earlier end. -/
def _parse_interval (storage_interval offset_interval : Int) (from_t duration_t : Option String)
    (interval total_sample : String) : Except StatsExc (String × Int × Int) :=
  match duration_t.bind int, from_t.bind int with
  | some to_sec, some from_sec =>
      if to_sec - from_sec ≤ 0 then
        .error (invalidRequest "'to time' should be greater than 'from time'")
      else do
        let interval ←
          interval_of int storage_interval (to_sec - from_sec) interval total_sample
        return (interval, to_sec - offset_interval, from_sec - offset_interval)
  | _, _ => .error (invalidRequest "'from' and 'to' time should be integer")

end Interval

/-! ## What is asked for -/

section Asked

variable (int : String → Option Int)

/-- The seconds between two points, as the request has them. -/
def asked (storage_interval diff_sec : Int) (interval total_sample : String) : Option Int :=
  if total_sample ≠ "" then (int total_sample).map fun n => ⌊(diff_sec / n : ℚ)⌋
  else if interval ≠ "" then int interval
  else some storage_interval

/-- `<n>s`, for the seconds that are asked for, if that is at least one. -/
def IntervalText (storage_interval diff_sec : Int) (interval total_sample text : String) : Prop :=
  ∃ n, asked int storage_interval diff_sec interval total_sample = some n ∧ 1 ≤ n ∧
    text = toString n ++ "s"

/-- A window of the right length, and the interval that is asked for. -/
def ValidWindow (storage_interval : Int) (from_t duration_t : Option String)
    (interval total_sample : String) : String × Int × Int → Prop :=
  fun (text, later, earlier) => ∃ to_sec from_sec, duration_t.bind int = some to_sec ∧
    from_t.bind int = some from_sec ∧ earlier < later ∧
    later - earlier = to_sec - from_sec ∧
    IntervalText int storage_interval (to_sec - from_sec) interval total_sample text

/-- There is a second for each sample, and the division loses nothing. -/
def SamplesFit (diff_sec : Int) (total_sample : String) : Prop :=
  ∀ n, int total_sample = some n → n ≠ 0 →
    0 < n ∧ n ≤ diff_sec ∧ Binary64.ExactDivision diff_sec n

variable {int} {storage_interval offset_interval diff_sec : Int} {interval total_sample : String}

theorem interval_of_no_samples (hstorage : 1 ≤ storage_interval) (hsample : total_sample = "") :
    Returns (IntervalText int storage_interval diff_sec interval total_sample)
      (interval_of int storage_interval diff_sec interval total_sample) := by
  subst hsample
  by_cases hinterval : interval = ""
  · subst hinterval
    exact ⟨storage_interval, rfl, hstorage, rfl⟩
  · have hasked : asked int storage_interval diff_sec interval "" = int interval := by
      simp [asked, hinterval]
    have heq : interval_of int storage_interval diff_sec interval "" = match int interval with
        | none => .error (invalidRequest "'interval' should be integer and greater than zero")
        | some n =>
            if n < 1 then
              .error (invalidRequest "'interval' should be integer and greater than zero")
            else .ok (toString n ++ "s") := by
      simp [interval_of, hinterval]
    rw [heq]
    cases hint : int interval with
    | none => rfl
    | some n =>
        dsimp only
        split
        · rfl
        · rename_i hn
          exact ⟨n, hasked.trans hint, not_lt.mp hn, rfl⟩

theorem intervalText_inj {n m : Int} (h : toString n ++ "s" = toString m ++ "s") : n = m := by
  have hlist := congrArg String.toList h
  rw [String.toList_append, String.toList_append] at hlist
  have htext : toString n = toString m := String.toList_inj.mp (List.append_cancel_right hlist)
  have hint := ResourceLimits.int_toString n
  rw [htext, ResourceLimits.int_toString m] at hint
  exact (Except.ok.inj hint).symm

theorem interval_of_samples_iff (hdiff : 0 < diff_sec) (hsample : total_sample ≠ "") :
    Returns (IntervalText int storage_interval diff_sec interval total_sample)
        (interval_of int storage_interval diff_sec interval total_sample) ↔
      SamplesFit int diff_sec total_sample := by
  have hasked : ∀ {n}, int total_sample = some n →
      asked int storage_interval diff_sec interval total_sample = some ⌊(diff_sec / n : ℚ)⌋ := by
    intro n hint
    rw [asked, if_pos hsample, hint]
    rfl
  rw [interval_of, if_neg fun hempty => hsample hempty.1, if_pos hsample]
  constructor
  · intro hreturns n hint hne
    rw [hint] at hreturns
    dsimp only at hreturns
    cases hquot : Binary64.trueDiv diff_sec n with
    | ok quotient =>
        rw [hquot] at hreturns
        obtain ⟨m, hm, hpos, htext⟩ := hreturns
        have hfloor : ⌊(diff_sec / n : ℚ)⌋ = m := Option.some.inj ((hasked hint).symm.trans hm)
        have hone : (1 : ℚ) ≤ diff_sec / n := Int.floor_pos.mp (by omega)
        have hdiffq : (0 : ℚ) < diff_sec := by exact_mod_cast hdiff
        have hnq : (0 : ℚ) < n := (div_pos_iff_of_pos_left hdiffq).mp (by linarith)
        have hn : 0 < n := by exact_mod_cast hnq
        have hle : n ≤ diff_sec := by
          rw [le_div_iff₀ hnq, one_mul] at hone
          exact_mod_cast hone
        have htrunc : Binary64.trunc quotient = ⌊(diff_sec / n : ℚ)⌋ :=
          (intervalText_inj htext).trans hfloor.symm
        exact ⟨hn, hle, (Binary64.trueDiv_floor hn hle).mp ⟨quotient, hquot, htrunc⟩⟩
    | error fault =>
        rw [hquot] at hreturns
        cases fault with
        | zeroDivision => exact absurd hquot (Binary64.trueDiv_ne_zeroDivision hne)
        | overflow => exact hreturns.elim
  · intro hfit
    cases hint : int total_sample with
    | none => rfl
    | some n =>
        dsimp only
        by_cases hne : n = 0
        · subst hne
          rw [Binary64.trueDiv_zero]
          rfl
        · obtain ⟨hn, hle, hexact⟩ := hfit n hint hne
          obtain ⟨quotient, hquot, htrunc⟩ := (Binary64.trueDiv_floor hn hle).mpr hexact
          have hnq : (0 : ℚ) < n := by exact_mod_cast hn
          have hone : (1 : ℚ) ≤ diff_sec / n := by
            rw [le_div_iff₀ hnq, one_mul]
            exact_mod_cast hle
          rw [hquot]
          exact ⟨_, hasked hint, Int.floor_pos.mpr hone, by rw [htrunc]⟩

theorem interval_of_iff (hstorage : 1 ≤ storage_interval) (hdiff : 0 < diff_sec) :
    Returns (IntervalText int storage_interval diff_sec interval total_sample)
        (interval_of int storage_interval diff_sec interval total_sample) ↔
      (total_sample ≠ "" → SamplesFit int diff_sec total_sample) := by
  by_cases hsample : total_sample = ""
  · exact ⟨fun _ hne => absurd hsample hne, fun _ => interval_of_no_samples hstorage hsample⟩
  · rw [interval_of_samples_iff hdiff hsample]
    exact ⟨fun hfit _ => hfit, fun hfit => hfit hsample⟩

/-! ## The window -/

theorem returns_map {α β : Type} {P : β → Prop} (f : α → β) (result : Except StatsExc α) :
    Returns P (result >>= fun a => return f a) ↔ Returns (fun a => P (f a)) result := by
  cases result with
  | ok a => exact Iff.rfl
  | error e =>
      cases e with
      | csm e => exact Iff.rfl
      | _ => exact Iff.rfl

end Asked

theorem parse_interval_iff (int : String → Option Int) (storage_interval offset_interval : Int)
    (from_t duration_t : Option String) (interval total_sample : String)
    (hstorage : 1 ≤ storage_interval) :
    Returns (ValidWindow int storage_interval from_t duration_t interval total_sample)
        (_parse_interval int storage_interval offset_interval from_t duration_t interval
          total_sample) ↔
      (total_sample ≠ "" → ∀ to_sec from_sec, duration_t.bind int = some to_sec →
        from_t.bind int = some from_sec → from_sec < to_sec →
        SamplesFit int (to_sec - from_sec) total_sample) := by
  unfold _parse_interval
  split
  · rename_i to_sec from_sec hto hfrom
    split
    · rename_i hempty
      refine ⟨fun _ _ later earlier hlater hearlier hlt => ?_, fun _ => rfl⟩
      obtain rfl := Option.some.inj (hto.symm.trans hlater)
      obtain rfl := Option.some.inj (hfrom.symm.trans hearlier)
      omega
    · rename_i hdiff
      have hvalid : ∀ text,
          ValidWindow int storage_interval from_t duration_t interval total_sample
              (text, to_sec - offset_interval, from_sec - offset_interval) ↔
            IntervalText int storage_interval (to_sec - from_sec) interval total_sample text := by
        intro text
        constructor
        · rintro ⟨later, earlier, hlater, hearlier, -, -, htext⟩
          obtain rfl := Option.some.inj (hto.symm.trans hlater)
          obtain rfl := Option.some.inj (hfrom.symm.trans hearlier)
          exact htext
        · intro htext
          exact ⟨to_sec, from_sec, hto, hfrom, by omega, by omega, htext⟩
      rw [returns_map, funext fun text => propext (hvalid text),
        interval_of_iff hstorage (by omega : 0 < to_sec - from_sec)]
      constructor
      · intro hfit hne later earlier hlater hearlier _
        obtain rfl := Option.some.inj (hto.symm.trans hlater)
        obtain rfl := Option.some.inj (hfrom.symm.trans hearlier)
        exact hfit hne
      · intro hfit hne
        exact hfit hne to_sec from_sec hto hfrom (by omega)
  · rename_i hnone
    refine ⟨fun _ _ to_sec from_sec hto hfrom _ => ?_, fun _ => rfl⟩
    exact absurd hfrom (hnone to_sec from_sec hto)

/-- `int` of a text with ASCII digits. -/
def intOfText (text : String) : Option Int := (int (some (.str text))).toOption

/-- A day in 1440 samples. -/
theorem parse_interval_iff_day :
    1 ≤ (10 : Int) ∧
      Returns (ValidWindow intOfText 10 (some "1583625600") (some "1583712000") "" "1440")
        (_parse_interval intOfText 10 20 (some "1583625600") (some "1583712000") "" "1440") := by
  have hto : (some "1583712000").bind intOfText = some 1583712000 := by decide +kernel
  have hfrom : (some "1583625600").bind intOfText = some 1583625600 := by decide +kernel
  have hsample : intOfText "1440" = some 1440 := by decide +kernel
  refine ⟨by decide, (parse_interval_iff intOfText 10 20 (some "1583625600") (some "1583712000") ""
    "1440" (by decide)).mpr ?_⟩
  intro _ to_sec from_sec hto' hfrom' _ n hn _
  obtain rfl := Option.some.inj (hto.symm.trans hto')
  obtain rfl := Option.some.inj (hfrom.symm.trans hfrom')
  obtain rfl := Option.some.inj (hsample.symm.trans hn)
  exact ⟨by decide, by decide, Binary64.exactDivision_of_lt (by decide) (by decide) (by decide)⟩

/-- Twenty samples of ten seconds. -/
theorem samples_exceed_window :
    ¬ ∀ (int : String → Option Int) (storage_interval offset_interval : Int)
      (from_t duration_t : Option String) (interval total_sample : String),
      1 ≤ storage_interval →
      Returns (ValidWindow int storage_interval from_t duration_t interval total_sample)
        (_parse_interval int storage_interval offset_interval from_t duration_t interval
          total_sample) := by
  intro hclaim
  have hreturns :=
    hclaim intOfText 10 20 (some "1583625600") (some "1583625610") "" "20" (by decide)
  have hresult : _parse_interval intOfText 10 20 (some "1583625600") (some "1583625610") "" "20" =
      .ok ("0s", 1583625590, 1583625580) := by
    decide +kernel
  rw [hresult] at hreturns
  obtain ⟨-, -, -, -, -, -, n, -, hn, htext⟩ := hreturns
  have hzero : (0 : Int) = n := intervalText_inj htext
  omega

end TimelionWindow

end CortxCsm
