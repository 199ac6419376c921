/-
# `CortxCsm.LyvePilot` — buckets registered with Lyve Pilot

`UslService.post_register_device` of `archive/core/services/usl.py` marks a bucket with the tag
`udx`, registers the device with the UDS server, and takes the mark back where that fails.
`get_volumes` lists the buckets with the mark.  The S3 client reads no tags where it gets a
`ClientError`, and a tag set is always written whole.  Here a registration has its bucket to
itself; `LyveRegistrations` is about several at once.

| | may end |
| :-- | :-- |
| reading the tags | with the tags, with none, with an exception |
| writing them | done, refused, or done and the answer lost |
| the registration | once a poll is answered 200; else with an exception |

The polls are a second apart at least, so there are at most sixty of them.

**Proved here.**

    the registration ends, with success exactly if a poll in time is answered 200
    and every one before it 201 or not at all              (`register_device_iff`)
    the bucket has the mark as the registration ended, and has lost no tag,
    exactly when it is not left half done and no tags are overwritten unread
                                                            (`bucketAgrees_iff_whole`)
    the volumes are the buckets with the mark               (`volumesFrom_eq`)
-/
import CortxCsm.Errors
import CortxCsm.Lib.Provision
import CortxCsm.Lib.Slots
import Mathlib.Data.Rat.BigOperators
import Mathlib.Tactic.Linarith

namespace CortxCsm.LyvePilot

open Provision (Reply)

/-! ## Exceptions -/

inductive UslExc
  | csm (e : CsmError)
  | s3ServiceError
  | httpClientError
  | exception
  | cancelledError
  deriving DecidableEq

def internal (reason : String) : UslExc := .csm (csmInternalError reason)

/-- `InvalidRequest(reason)`. -/
def invalidRequest (reason : String) : UslExc :=
  .csm ⟨.InvalidRequest, CSM_INVALID_REQUEST, some reason, some "MalformedRequest", none⟩

/-- `CsmGatewayTimeout(desc=reason)`. -/
def gatewayTimeout (reason : String) : UslExc :=
  .csm ⟨.CsmGatewayTimeout, CSM_GATEWAY_TIMEOUT, some reason, some "GatewayTimeout", none⟩

/-! ## Tags -/

abbrev Tags := Dict String String

abbrev Buckets := Dict String Tags

/-- How reading the tags ends. -/
inductive TagRead
  | answers
  | clientError
  | raises (e : UslExc)

/-- A bucket that is not there is a `ClientError` too. -/
def get_bucket_tagging (buckets : Buckets) (bucket_name : String) :
    TagRead → Except UslExc Tags
  | .answers => .ok ((buckets.get? bucket_name).getD Table.empty)
  | .clientError => .ok Table.empty
  | .raises e => .error e

def put_bucket_tagging (reply : Reply UslExc) (bucket_name : String) (bucket_tags : Tags)
    (buckets : Buckets) : Except UslExc Unit × Buckets :=
  match buckets.get? bucket_name with
  | none =>
      match reply with
      | .done => (.error .s3ServiceError, buckets)
      | .lost e => (.error e, buckets)
      | .refused e => (.error e, buckets)
  | some _ =>
      match reply with
      | .done => (.ok (), buckets.set bucket_name bucket_tags)
      | .lost e => (.error e, buckets.set bucket_name bucket_tags)
      | .refused e => (.error e, buckets)

structure TagWeather where
  reads : TagRead
  puts : Reply UslExc

/-- `enable_lyve_pilot` and `disable_lyve_pilot`, with the value they set. -/
def set_udx (value : String) (weather : TagWeather) (bucket_name : String) (buckets : Buckets) :
    Except UslExc Unit × Buckets :=
  match get_bucket_tagging buckets bucket_name weather.reads with
  | .error e => (.error e, buckets)
  | .ok tagset => put_bucket_tagging weather.puts bucket_name (tagset.set "udx" value) buckets

def enable_lyve_pilot (weather : TagWeather) (bucket_name : String) (buckets : Buckets) :
    Except UslExc Unit × Buckets := set_udx "enabled" weather bucket_name buckets

def disable_lyve_pilot (weather : TagWeather) (bucket_name : String) (buckets : Buckets) :
    Except UslExc Unit × Buckets := set_udx "disabled" weather bucket_name buckets

/-- `_is_bucket_lyve_pilot_enabled`, on the tags. -/
def lyve_pilot_enabled (tags : Tags) : Bool :=
  decide ((tags.get? "udx").getD "disabled" = "enabled")

structure Volume where
  name : String
  bucketName : String
  uuid : String
  deviceUuid : String
  size : ℕ
  used : ℕ
  filesystem : String

/-- What the service knows of the device; `uuid5` makes a volume's id of the bucket's name. -/
structure Device where
  device_uuid : String
  friendly_name : String
  uuid5 : String → String
  size : ℕ
  used : ℕ

def Device.volume (device : Device) (bucket_name : String) : Volume where
  name := device.friendly_name ++ ": " ++ bucket_name
  bucketName := bucket_name
  uuid := device.uuid5 bucket_name
  deviceUuid := device.device_uuid
  size := device.size
  used := device.used
  filesystem := "s3"

/-- The loop of `get_volumes`.  The tags of each bucket are read at a moment of its own. -/
def volumesFrom (device : Device) (reads : String → TagRead) (moments : String → Buckets) :
    List String → Except UslExc (List Volume)
  | [] => .ok []
  | bucket :: rest => do
      let tags ← get_bucket_tagging (moments bucket) bucket (reads bucket)
      let volumes ← volumesFrom device reads moments rest
      return if lyve_pilot_enabled tags then device.volume bucket :: volumes else volumes

/-- `listing` is the reason of the `ClientError`, where listing the buckets gets one. -/
def get_volumes (device : Device) (listing : Option String) (reads : String → TagRead)
    (device_uuid : String) (buckets : Buckets) (moments : String → Buckets) :
    Except UslExc (List Volume) :=
  if device_uuid ≠ device.device_uuid then
    .error (.csm (csmNotFoundError (some s!"Device {device_uuid} not found") NOT_FOUND_ERROR))
  else
    match listing with
    | some reason => .error (invalidRequest reason)
    | none => volumesFrom device reads moments buckets.keys

/-! ## The registration -/

inductive HttpReply
  | status (n : Nat)
  | raises (e : UslExc)

/-- When the loop looked at the clock, and how its `GET` ends. -/
structure Poll where
  time : ℚ
  reply : HttpReply

/-- What `_register_device` meets: the configured URL, the `PUT`, the clock after it, and the
polls, which are at least a second apart. -/
structure Uds where
  valid_url : Bool
  put : HttpReply
  start : ℚ
  polls : ℕ → Poll
  first : start ≤ (polls 0).time
  apart : ∀ i, (polls i).time + 1 ≤ (polls (i + 1)).time

/-- What a poll decides. -/
def decided : HttpReply → Option (Except UslExc Unit)
  | .status 200 => some (.ok ())
  | .status 201 => none
  | .status 203 => some (.error (invalidRequest "Registration PIN is required; please retry"))
  | .status _ => some (.error (internal "Lyve Pilot failed to register the device"))
  | .raises .httpClientError => none
  | .raises e => some (.error e)

/-- The loop, `none` where the fuel runs out. -/
def confirm (timeout_limit : ℚ) (polls : ℕ → Poll) : ℕ → ℕ → Option (Except UslExc Unit)
  | 0, _ => none
  | fuel + 1, i =>
      if (polls i).time < timeout_limit then
        match decided (polls i).reply with
        | some r => some r
        | none => confirm timeout_limit polls fuel (i + 1)
      else some (.error (gatewayTimeout "Could not confirm device registration status"))

def _register_device (uds : Uds) : Option (Except UslExc Unit) :=
  if uds.valid_url then
    match uds.put with
    | .raises e => some (.error e)
    | .status n =>
        if n ≠ 201 then some (.error (internal "Could not start device registration"))
        else confirm (uds.start + 60) uds.polls 61 0
  else some (.error (internal "UDS base URL is not valid"))

structure RegistrationWeather where
  enable : TagWeather
  uds : Uds
  disable : TagWeather

/-- `post_register_device`; `cancelIsException` says whether `except Exception` catches a
`CancelledError`, as it does up to Python 3.7. -/
def post_register_device (cancelIsException : Bool) (weather : RegistrationWeather)
    (bucket_name : String) (buckets : Buckets) : Option (Except UslExc Unit × Buckets) :=
  match enable_lyve_pilot weather.enable bucket_name buckets with
  | (.error e, buckets) => some (.error e, buckets)
  | (.ok (), buckets) =>
      match _register_device weather.uds with
      | none => none
      | some (.ok ()) => some (.ok (), buckets)
      | some (.error e) =>
          if e = .cancelledError ∧ cancelIsException = false then some (.error e, buckets)
          else
            match disable_lyve_pilot weather.disable bucket_name buckets with
            | (.error e', buckets) => some (.error e', buckets)
            | (.ok (), buckets) => some (.error e, buckets)

def succeeded : Except UslExc Unit → Bool
  | .ok () => true
  | .error _ => false

/-! ## The loop ends -/

/-- A poll in time is answered 200, and none before it decided otherwise. -/
def Confirmed (uds : Uds) : Prop :=
  uds.valid_url = true ∧ (∃ n, uds.put = .status n ∧ n = 201) ∧
    ∃ i, (uds.polls i).time < uds.start + 60 ∧ decided (uds.polls i).reply = some (.ok ()) ∧
      ∀ j < i, decided (uds.polls j).reply = none

/-- The polls in time, as slots: each holds what it decides. -/
def pollSlots (timeout_limit : ℚ) (polls : ℕ → Poll) : Slots (Option (Except UslExc Unit)) :=
  fun i => if (polls i).time < timeout_limit then some (decided (polls i).reply) else none

/-- What the scan of the slots comes to. -/
def outcome : Option (Option (Except UslExc Unit)) → Except UslExc Unit
  | some (some r) => r
  | _ => .error (gatewayTimeout "Could not confirm device registration status")

theorem confirm_eq_scan (timeout_limit : ℚ) (polls : ℕ → Poll) (fuel : ℕ) : ∀ i,
    confirm timeout_limit polls fuel i =
      (Slots.scan Option.isSome (pollSlots timeout_limit polls) fuel i).map outcome := by
  induction fuel with
  | zero =>
      intro i
      rfl
  | succ fuel ih =>
      intro i
      rw [confirm, Slots.scan, pollSlots]
      by_cases htime : (polls i).time < timeout_limit
      · rw [if_pos htime, if_pos htime]
        cases hdecided : decided (polls i).reply with
        | some r => rfl
        | none => exact ih (i + 1)
      · rw [if_neg htime, if_neg htime]
        rfl

theorem start_le_time (uds : Uds) (i : ℕ) : uds.start + i ≤ (uds.polls i).time := by
  induction i with
  | zero =>
      rw [Nat.cast_zero, add_zero]
      exact uds.first
  | succ i ih =>
      have hnext := uds.apart i
      rw [Nat.cast_succ]
      linarith

/-- The sixtieth poll is not in time. -/
theorem pollSlots_sixty (uds : Uds) : pollSlots (uds.start + 60) uds.polls 60 = none := by
  have htime := start_le_time uds 60
  exact if_neg (not_lt.mpr (by exact_mod_cast htime))

theorem time_mono (uds : Uds) {i j : ℕ} (h : j ≤ i) :
    (uds.polls j).time ≤ (uds.polls i).time := by
  induction i, h using Nat.le_induction with
  | base => exact le_refl _
  | succ i hi ih =>
      have hnext := uds.apart i
      linarith

section
variable {timeout_limit : ℚ} {polls : ℕ → Poll} {i : ℕ}

theorem undecided_of_passes (h : Slots.Passes Option.isSome (pollSlots timeout_limit polls) i) :
    decided (polls i).reply = none := by
  obtain ⟨a, ha, hp⟩ := h
  unfold pollSlots at ha
  split at ha
  · obtain rfl := Option.some.inj ha
    exact Option.not_isSome_iff_eq_none.mp (by rw [hp]; decide)
  · cases ha

/-- Only a poll in time ends the loop with success. -/
theorem ends_ok {r : Option (Option (Except UslExc Unit))}
    (h : Slots.EndsAt Option.isSome (pollSlots timeout_limit polls) i r)
    (hout : outcome r = .ok ()) :
    (polls i).time < timeout_limit ∧ decided (polls i).reply = some (.ok ()) := by
  have hholds := h.holds
  unfold pollSlots at hholds
  split at hholds
  case isTrue htime =>
    subst hholds
    refine ⟨htime, ?_⟩
    cases hdecided : decided (polls i).reply with
    | none => rw [hdecided] at hout; cases hout
    | some v => rw [hdecided] at hout; exact congrArg some hout
  case isFalse =>
    subst hholds
    cases hout

end

/-- The polls before one in time are in time. -/
theorem endsAt_of_decided (uds : Uds) {i : ℕ} {v : Except UslExc Unit}
    (htime : (uds.polls i).time < uds.start + 60)
    (hdecided : decided (uds.polls i).reply = some v)
    (hbefore : ∀ j < i, decided (uds.polls j).reply = none) :
    Slots.EndsAt Option.isSome (pollSlots (uds.start + 60) uds.polls) i (some (some v)) where
  before j hj := by
    have hearlier := lt_of_le_of_lt (time_mono uds hj.le) htime
    refine ⟨none, ?_, rfl⟩
    rw [pollSlots, if_pos hearlier, hbefore j hj]
  holds := by rw [pollSlots, if_pos htime, hdecided]
  accepted a ha := by
    obtain rfl := Option.some.inj ha
    rfl

/-- The registration ends, and succeeds exactly if it is confirmed. -/
theorem register_device_iff (uds : Uds) :
    (_register_device uds).isSome ∧
      (_register_device uds = some (.ok ()) ↔ Confirmed uds) := by
  unfold _register_device Confirmed
  by_cases hvalid : uds.valid_url = true
  · rw [if_pos hvalid]
    cases hput : uds.put with
    | raises e =>
        refine ⟨rfl, iff_of_false (fun h => ?_) ?_⟩
        · cases h
        · rintro ⟨-, ⟨n, hn, -⟩, -⟩
          cases hn
    | status n =>
        dsimp only
        by_cases hn : n = 201
        · rw [if_neg (not_not.mpr hn), confirm_eq_scan]
          have hgap := pollSlots_sixty uds
          obtain ⟨r, hr⟩ := Option.isSome_iff_exists.mp
            (Slots.scan_isSome (p := Option.isSome) hgap (Nat.lt_succ_self 60))
          have hends := (Slots.scan_eq_some_iff hgap (Nat.lt_succ_self 60)).mp hr
          rw [hr]
          refine ⟨rfl, ?_⟩
          obtain ⟨i, hi⟩ := hends
          constructor
          · intro h
            have hout : outcome r = .ok () := Option.some.inj h
            obtain ⟨hintime, hdecided⟩ := ends_ok hi hout
            refine ⟨hvalid, ⟨n, rfl, hn⟩, i, hintime, hdecided, fun j hj => ?_⟩
            exact undecided_of_passes (hi.before j hj)
          · rintro ⟨-, -, k, hintime, hdecided, hbefore⟩
            have hk := endsAt_of_decided uds hintime hdecided hbefore
            rw [(hi.unique hk).2]
            rfl
        · rw [if_pos hn]
          refine ⟨rfl, iff_of_false (fun h => ?_) ?_⟩
          · cases h
          · rintro ⟨-, ⟨m, hm, h201⟩, -⟩
            cases hm
            exact hn h201
  · rw [if_neg hvalid]
    exact ⟨rfl, iff_of_false (fun h => by cases h) fun h => hvalid h.1⟩
/-! ## What is kept of a bucket -/

/-- The tags are the ones given, but for the mark. -/
def SameButMark (tags given : Tags) : Prop := ∀ k, k ≠ "udx" → tags.get? k = given.get? k

/-- The bucket has the tags it was given, and the mark where `told` says so. -/
def BucketAgrees : Option Tags → Option Tags → Bool → Prop
  | none, none, told => told = false
  | some tags, some given, told => SameButMark tags given ∧ lyve_pilot_enabled tags = told
  | _, _, _ => False

theorem bucketAgrees_none {b : Option Tags} {told : Bool} (h : BucketAgrees none b told) :
    b = none ∧ told = false := by
  cases b with
  | none => exact ⟨rfl, h⟩
  | some given => exact h.elim

theorem bucketAgrees_some {b : Option Tags} {told : Bool} {tags : Tags}
    (h : BucketAgrees (some tags) b told) :
    ∃ given, b = some given ∧ SameButMark tags given ∧ lyve_pilot_enabled tags = told := by
  cases b with
  | none => exact h.elim
  | some given => exact ⟨given, rfl, h⟩

/-- What is said of a bucket that agrees can only be changed to what was said. -/
theorem bucketAgrees_told {b b' : Option Tags} {told told' : Bool} (h : BucketAgrees b b' told) :
    BucketAgrees b b' told' ↔ told = told' := by
  cases b with
  | none =>
      obtain ⟨rfl, rfl⟩ := bucketAgrees_none h
      exact eq_comm
  | some tags =>
      obtain ⟨given, rfl, hsame, henabled⟩ := bucketAgrees_some h
      constructor
      · intro h'
        exact henabled.symm.trans h'.2
      · rintro rfl
        exact h

/-- Setting the mark comes to nothing. -/
def Idle (weather : TagWeather) : Prop :=
  (∃ e, weather.reads = .raises e) ∨ ∃ e, weather.puts = .refused e

/-- The tags are written over unread. -/
def Overwrites (weather : TagWeather) (given : Tags) : Prop :=
  weather.reads = .clientError ∧ ∃ k, k ≠ "udx" ∧ given.get? k ≠ none

/-- What a registration of a bucket that is there must be spared, where nobody else touches the
bucket meanwhile. -/
def Whole (cancelIsException : Bool) (weather : RegistrationWeather) (given : Tags)
    (told : Bool) : Prop :=
  (Idle weather.enable ∧ told = false) ∨
    ¬ Idle weather.enable ∧ weather.enable.puts = .done ∧ ¬ Overwrites weather.enable given ∧
      (Confirmed weather.uds ∨
        (_register_device weather.uds = some (.error .cancelledError) →
          cancelIsException = true) ∧
        ¬ Idle weather.disable ∧ ¬ Overwrites weather.disable given)

/-! ## Setting the mark -/

theorem lyve_pilot_enabled_set (tags : Tags) (value : String) :
    lyve_pilot_enabled (tags.set "udx" value) = decide (value = "enabled") := by
  simp [lyve_pilot_enabled]

/-- The tags that are read. -/
def seen (weather : TagWeather) (tags : Tags) : Tags :=
  match weather.reads with
  | .clientError => Table.empty
  | _ => tags

/-- How setting the mark of a bucket with these tags comes out. -/
inductive SetsMark (value : String) (weather : TagWeather) (name : String) (buckets : Buckets)
    (tags : Tags) : Except UslExc Unit × Buckets → Prop
  | idle (e : UslExc) (hidle : Idle weather) :
      SetsMark value weather name buckets tags (.error e, buckets)
  | wrote (r : Except UslExc Unit) (hidle : ¬ Idle weather)
      (hr : r = .ok () ↔ weather.puts = .done) :
      SetsMark value weather name buckets tags
        (r, buckets.set name ((seen weather tags).set "udx" value))

theorem get_bucket_tagging_of_some {weather : TagWeather} {name : String} {buckets : Buckets}
    {tags : Tags} (h : buckets.get? name = some tags) (hreads : ∀ e, weather.reads ≠ .raises e) :
    get_bucket_tagging buckets name weather.reads = .ok (seen weather tags) := by
  unfold seen
  cases hread : weather.reads with
  | answers => rw [get_bucket_tagging, h, Option.getD_some]
  | clientError => rfl
  | raises e => exact absurd hread (hreads e)

theorem setsMark_set_udx (value : String) (weather : TagWeather) {name : String}
    {buckets : Buckets} {tags : Tags} (h : buckets.get? name = some tags) :
    SetsMark value weather name buckets tags (set_udx value weather name buckets) := by
  unfold set_udx
  by_cases hreads : ∃ e, weather.reads = .raises e
  · obtain ⟨e, he⟩ := hreads
    rw [he]
    exact .idle e (.inl ⟨e, he⟩)
  · rw [get_bucket_tagging_of_some h (not_exists.mp hreads)]
    simp only [put_bucket_tagging, h]
    cases hputs : weather.puts with
    | refused e => exact .idle e (.inr ⟨e, hputs⟩)
    | done =>
        refine .wrote (.ok ()) ?_ (iff_of_true rfl hputs)
        rintro (hraises | ⟨e, he⟩)
        · exact hreads hraises
        · rw [hputs] at he
          cases he
    | lost e =>
        refine .wrote (.error e) ?_ (iff_of_false (fun h => by cases h) fun h => ?_)
        · rintro (hraises | ⟨e', he⟩)
          · exact hreads hraises
          · rw [hputs] at he
            cases he
        · rw [hputs] at h
          cases h

/-- Without the bucket nothing is written. -/
theorem put_bucket_tagging_of_none (reply : Reply UslExc) (tags : Tags) {name : String}
    {buckets : Buckets} (h : buckets.get? name = none) :
    succeeded (put_bucket_tagging reply name tags buckets).1 = false ∧
      (put_bucket_tagging reply name tags buckets).2 = buckets := by
  unfold put_bucket_tagging
  rw [h]
  cases reply with
  | done => exact ⟨rfl, rfl⟩
  | lost e => exact ⟨rfl, rfl⟩
  | refused e => exact ⟨rfl, rfl⟩

/-- Without the bucket nothing is set. -/
theorem set_udx_of_none (value : String) (weather : TagWeather) {name : String}
    {buckets : Buckets} (h : buckets.get? name = none) :
    ∃ e, set_udx value weather name buckets = (.error e, buckets) := by
  unfold set_udx
  cases get_bucket_tagging buckets name weather.reads with
  | error e => exact ⟨e, rfl⟩
  | ok tags =>
      obtain ⟨hfailed, hsame⟩ :=
        put_bucket_tagging_of_none weather.puts (tags.set "udx" value) h
      dsimp only
      generalize put_bucket_tagging weather.puts name (tags.set "udx" value) buckets = written
        at hfailed hsame ⊢
      obtain ⟨result, buckets'⟩ := written
      cases result with
      | ok u => cases hfailed
      | error e => exact ⟨e, congrArg _ hsame⟩

theorem sameButMark_set (tags : Tags) (value : String) {given : Tags} :
    SameButMark (tags.set "udx" value) given ↔ SameButMark tags given := by
  refine forall_congr' fun k => forall_congr' fun hk => ?_
  rw [Table.get?_set, if_neg (Ne.symm hk)]

theorem not_overwrites_of_sameButMark {weather : TagWeather} {tags given : Tags}
    (h : SameButMark (seen weather tags) given) : ¬ Overwrites weather given := by
  rintro ⟨hclient, k, hk, hgiven⟩
  have hlost := h k hk
  rw [seen, hclient] at hlost
  exact hgiven hlost.symm

/-- What was read is what was given, unless it was not read at all. -/
theorem sameButMark_seen {weather : TagWeather} {tags given : Tags}
    (hsame : SameButMark tags given) (h : ¬ Overwrites weather given) :
    SameButMark (seen weather tags) given := by
  intro k hk
  unfold seen
  split
  case h_1 hclient =>
    by_contra hne
    exact h ⟨hclient, k, hk, Ne.symm hne⟩
  case h_2 => exact hsame k hk

/-- Where tags were written over unread, reading them again brings nothing back. -/
theorem not_overwrites_of_seen_twice {w w' : TagWeather} {tags given : Tags} {value : String}
    (h : SameButMark (seen w' ((seen w tags).set "udx" value)) given) :
    ¬ Overwrites w given := by
  rintro ⟨hclient, k, hk, hgiven⟩
  have hlost := h k hk
  unfold seen at hlost
  rw [hclient] at hlost
  split at hlost
  · exact hgiven hlost.symm
  · rw [Table.get?_set, if_neg (Ne.symm hk)] at hlost
    exact hgiven hlost.symm

/-! ## One registration -/

section
variable {weather : RegistrationWeather} {name : String} {buckets buckets' : Buckets}
  {r : Except UslExc Unit}

theorem get?_set_udx (value : String) (w : TagWeather) (buckets : Buckets) {k : String}
    (hk : k ≠ name) : (set_udx value w name buckets).2.get? k = buckets.get? k := by
  cases hget : buckets.get? name with
  | none =>
      obtain ⟨e, he⟩ := set_udx_of_none value w hget
      rw [he]
  | some tags =>
      generalize hset : set_udx value w name buckets = result
      have hmark := hset ▸ setsMark_set_udx value w hget
      cases hmark with
      | idle e hidle => rfl
      | wrote r hidle hr => rw [Table.get?_set, if_neg (Ne.symm hk)]

/-- The other buckets stay as they are. -/
theorem get?_post_register_device {cancelIsException : Bool} {k : String} (hk : k ≠ name)
    (h : post_register_device cancelIsException weather name buckets = some (r, buckets')) :
    buckets'.get? k = buckets.get? k := by
  unfold post_register_device enable_lyve_pilot disable_lyve_pilot at h
  have henable := get?_set_udx "enabled" weather.enable buckets hk
  split at h
  case h_1 e enabled hset =>
    rw [hset] at henable
    cases h
    exact henable
  case h_2 enabled hset =>
    rw [hset] at henable
    have hdisable := get?_set_udx "disabled" weather.disable enabled hk
    split at h
    case h_1 => cases h
    case h_2 =>
      cases h
      exact henable
    case h_3 e hregister =>
      split at h
      · cases h
        exact henable
      · split at h
        case h_1 e' disabled hset' =>
          rw [hset'] at hdisable
          cases h
          exact hdisable.trans henable
        case h_2 disabled hset' =>
          rw [hset'] at hdisable
          cases h
          exact hdisable.trans henable

theorem isSome_post_register_device (cancelIsException : Bool) (weather : RegistrationWeather)
    (name : String) (buckets : Buckets) :
    (post_register_device cancelIsException weather name buckets).isSome := by
  unfold post_register_device
  split
  · rfl
  · obtain ⟨result, hresult⟩ := Option.isSome_iff_exists.mp (register_device_iff weather.uds).1
    rw [hresult]
    cases result with
    | ok u => rfl
    | error e =>
        dsimp only
        split
        · rfl
        · split <;> rfl

/-- A mark that was set and not taken back does not agree with a failure. -/
theorem not_bucketAgrees_enabled {tags given : Tags} :
    ¬ BucketAgrees (some (tags.set "udx" "enabled")) (some given) false := by
  rintro ⟨-, henabled⟩
  rw [lyve_pilot_enabled_set] at henabled
  cases henabled

/-- Taking the mark back agrees with a failure if it comes to something. -/
theorem bucketAgrees_disable (w : TagWeather) (given : Tags) {tags : Tags}
    (hget : buckets.get? name = some (tags.set "udx" "enabled")) :
    BucketAgrees ((disable_lyve_pilot w name buckets).2.get? name) (some given) false ↔
      ¬ Idle w ∧ SameButMark (seen w (tags.set "udx" "enabled")) given := by
  unfold disable_lyve_pilot
  have hmark := setsMark_set_udx "disabled" w hget
  generalize set_udx "disabled" w name buckets = disabling at hmark
  cases hmark with
  | idle e hidle =>
      rw [hget]
      exact iff_of_false not_bucketAgrees_enabled fun h => h.1 hidle
  | wrote r hidle hr =>
      rw [Table.get?_set, if_pos rfl]
      constructor
      · rintro ⟨hsame, -⟩
        exact ⟨hidle, (sameButMark_set _ _).mp hsame⟩
      · rintro ⟨-, hsame⟩
        refine ⟨(sameButMark_set _ _).mpr hsame, ?_⟩
        rw [lyve_pilot_enabled_set]
        rfl

/-- What comes of the registration once the mark is set. -/
theorem bucketAgrees_enabled {cancelIsException : Bool} {tags given : Tags}
    {enabled : Buckets} (hget : enabled.get? name = some (tags.set "udx" "enabled"))
    (henable : enable_lyve_pilot weather.enable name buckets = (.ok (), enabled))
    (h : post_register_device cancelIsException weather name buckets = some (r, buckets')) :
    BucketAgrees (buckets'.get? name) (some given) (succeeded r) ↔
      (Confirmed weather.uds ∧ SameButMark tags given) ∨
        (¬ Confirmed weather.uds ∧
          (_register_device weather.uds = some (.error .cancelledError) →
            cancelIsException = true) ∧
          ¬ Idle weather.disable ∧
          SameButMark (seen weather.disable (tags.set "udx" "enabled")) given) := by
  obtain ⟨-, hconfirmed⟩ := register_device_iff weather.uds
  unfold post_register_device at h
  rw [henable] at h
  dsimp only at h
  split at h
  case h_1 => cases h
  case h_2 hregister =>
    cases h
    have hyes := hconfirmed.mp hregister
    rw [hget]
    constructor
    · rintro ⟨hsame, -⟩
      exact .inl ⟨hyes, (sameButMark_set _ _).mp hsame⟩
    · rintro (⟨-, hsame⟩ | ⟨hno, -⟩)
      · refine ⟨(sameButMark_set _ _).mpr hsame, ?_⟩
        rw [lyve_pilot_enabled_set]
        rfl
      · exact absurd hyes hno
  case h_3 e hregister =>
    have hno : ¬ Confirmed weather.uds := by
      intro hyes
      rw [hconfirmed.mpr hyes] at hregister
      cases hregister
    split at h
    case isTrue hcancelled =>
      -- the exception is not caught, and the mark stays
      cases h
      rw [hget]
      refine iff_of_false not_bucketAgrees_enabled ?_
      rintro (⟨hyes, -⟩ | ⟨-, hcaught, -⟩)
      · exact hno hyes
      · rw [hcancelled.1] at hregister
        rw [hcaught hregister] at hcancelled
        cases hcancelled.2
    case isFalse hcaught =>
      have hcancel : _register_device weather.uds = some (.error .cancelledError) →
          cancelIsException = true := by
        intro hcancelled
        rw [hregister] at hcancelled
        obtain rfl : e = .cancelledError := by injection Option.some.inj hcancelled
        by_contra hfalse
        exact hcaught ⟨rfl, Bool.eq_false_iff.mpr hfalse⟩
      have hdisable := bucketAgrees_disable weather.disable given hget
      obtain ⟨hfailed, hbuckets⟩ : succeeded r = false ∧
          buckets' = (disable_lyve_pilot weather.disable name enabled).2 := by
        split at h
        case h_1 hset =>
          cases h
          rw [hset]
          exact ⟨rfl, rfl⟩
        case h_2 hset =>
          cases h
          rw [hset]
          exact ⟨rfl, rfl⟩
      rw [hfailed, hbuckets, hdisable]
      constructor
      · intro hkept
        exact .inr ⟨hno, hcancel, hkept⟩
      · rintro (⟨hyes, -⟩ | ⟨-, -, hkept⟩)
        · exact absurd hyes hno
        · exact hkept

/-- The bucket agrees afterwards exactly if the registration was spared. -/
theorem bucketAgrees_iff_whole {cancelIsException : Bool} {tags given : Tags} {told : Bool}
    (hget : buckets.get? name = some tags) (hsame : SameButMark tags given)
    (henabled : lyve_pilot_enabled tags = told)
    (h : post_register_device cancelIsException weather name buckets = some (r, buckets')) :
    BucketAgrees (buckets'.get? name) (some given) (succeeded r) ↔
      Whole cancelIsException weather given told := by
  have hmark := setsMark_set_udx "enabled" weather.enable hget
  generalize henable : set_udx "enabled" weather.enable name buckets = enabling at hmark
  cases hmark with
  | idle e hidle =>
      rw [post_register_device, enable_lyve_pilot, henable] at h
      cases h
      rw [hget]
      constructor
      · rintro ⟨-, hfalse⟩
        exact .inl ⟨hidle, henabled.symm.trans hfalse⟩
      · rintro (⟨-, hfalse⟩ | ⟨hnot, -⟩)
        · exact ⟨hsame, henabled.trans hfalse⟩
        · exact absurd hidle hnot
  | wrote r₀ hidle hr =>
      have hset : (buckets.set name ((seen weather.enable tags).set "udx" "enabled")).get? name =
          some ((seen weather.enable tags).set "udx" "enabled") := by
        rw [Table.get?_set, if_pos rfl]
      cases r₀ with
      | error e =>
          rw [post_register_device, enable_lyve_pilot, henable] at h
          cases h
          rw [hset]
          refine iff_of_false not_bucketAgrees_enabled ?_
          rintro (⟨hnot, -⟩ | ⟨-, hdone, -⟩)
          · exact hidle hnot
          · cases hr.mpr hdone
      | ok u =>
          have hdone := hr.mp rfl
          rw [bucketAgrees_enabled hset henable h]
          constructor
          · rintro (⟨hyes, hkept⟩ | ⟨-, hcaught, hdisable, hkept⟩)
            · exact .inr ⟨hidle, hdone, not_overwrites_of_sameButMark hkept, .inl hyes⟩
            · exact .inr ⟨hidle, hdone, not_overwrites_of_seen_twice hkept,
                .inr ⟨hcaught, hdisable, not_overwrites_of_sameButMark hkept⟩⟩
          · rintro (⟨hnot, -⟩ | ⟨-, -, hfirst, hrest⟩)
            · exact absurd hnot hidle
            · have hread := sameButMark_seen hsame hfirst
              by_cases hyes : Confirmed weather.uds
              · exact .inl ⟨hyes, hread⟩
              · obtain ⟨hcaught, hdisable, hsecond⟩ := hrest.resolve_left hyes
                have hagain := (sameButMark_set _ "enabled").mpr hread
                exact .inr ⟨hyes, hcaught, hdisable, sameButMark_seen hagain hsecond⟩

end
/-! ## The volumes -/

/-- The bucket has the mark. -/
def marked (buckets : Buckets) (name : String) : Bool :=
  lyve_pilot_enabled ((buckets.get? name).getD Table.empty)

theorem volumesFrom_eq (device : Device) (moments : String → Buckets) (names : List String) :
    volumesFrom device (fun _ => .answers) moments names =
      .ok ((names.filter fun name => marked (moments name) name).map device.volume) := by
  induction names with
  | nil => rfl
  | cons name names ih =>
      rw [volumesFrom, ih, List.filter_cons]
      cases hmarked : marked (moments name) name with
      | true =>
          rw [marked] at hmarked
          simp [get_bucket_tagging, bind, Except.bind, pure, Except.pure, hmarked]
      | false =>
          rw [marked] at hmarked
          simp [get_bucket_tagging, bind, Except.bind, pure, Except.pure, hmarked]

theorem volume_injective (device : Device) : Function.Injective device.volume :=
  fun _ _ h => congrArg Volume.bucketName h

end CortxCsm.LyvePilot
