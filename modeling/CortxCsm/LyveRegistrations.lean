/-
# `CortxCsm.LyveRegistrations` — registrations under way together

`post_register_device` awaits the S3 server and the UDS server and holds no lock.  What comes
between two of its steps is anything: other registrations of the bucket, S3 clients that tag it,
delete it, make it again.

| a registration is | and next |
| :-- | :-- |
| `enabling`, with the tags it read | writes them, with the mark |
| `registering` | asks the UDS server and polls it |
| `failed` | reads the tags once more |
| `disabling`, with the tags it read | writes them, with the mark taken back |

**Proved here.**

    in every state the volumes listed are the buckets of which the last registration to get
    on has set the mark or been confirmed, and no bucket has lost a tag, exactly when every
    registration writes back the tags the bucket has been given, one that fails without a
    write finds no mark standing, and one that is confirmed finds its own
    a registration that nothing comes between is `post_register_device`
                                                            (`lyve_pilot_exact`)
-/
import CortxCsm.Lib.Run
import CortxCsm.LyvePilot

namespace CortxCsm.LyvePilot

open Provision (Reply)
open Run

variable {Task : Type}

/-! ## The system -/

inductive Phase
  | enabling (tagset : Tags)
  | registering
  | failed (e : UslExc)
  | disabling (e : UslExc) (tagset : Tags)
  | ended (result : Except UslExc Unit)

/-- The buckets, and each registration with its bucket and how far it is. -/
structure State (Task : Type) where
  buckets : Buckets
  /-- The tags the S3 clients gave the buckets. -/
  given : Buckets
  /-- The last registration of the bucket to get on has set the mark or been confirmed; false
  once one has failed. -/
  told : String → Bool
  registrations : Task → Option (String × Phase)

def start : State Task := ⟨Table.empty, Table.empty, fun _ => false, fun _ => none⟩

/-- Tags are given to a bucket that is there. -/
def retag (name : String) (tags : Tags) (buckets : Buckets) : Buckets :=
  match buckets.get? name with
  | none => buckets
  | some _ => buckets.set name tags

/-- What S3 clients do, and the steps of a registration: it begins and reads the tags, asks the
UDS server, reads them again; the tags are written from either `enabling` or `disabling`. -/
inductive Act (Task : Type)
  | create_bucket (name : String)
  | delete_bucket (name : String)
  | put_tags (name : String) (tags : Tags)
  | post_register_device (task : Task) (name : String) (reads : TagRead)
  | put_bucket_tagging (task : Task) (reply : Reply UslExc)
  | _register_device (task : Task) (uds : Uds)
  | get_bucket_tagging (task : Task) (reads : TagRead)

section
variable [DecidableEq Task]

/-- The registration gets on, and nothing else changes. -/
def State.goes (s : State Task) (task : Task) (name : String) (phase : Phase) : State Task :=
  { s with registrations := Function.update s.registrations task (some (name, phase)) }

/-- The registration gets on with the buckets as they are now, and something to be told of it. -/
def State.tells (s : State Task) (task : Task) (name : String) (phase : Phase)
    (buckets : Buckets) (told : Bool) : State Task :=
  { s with
    buckets := buckets
    told := Function.update s.told name told
    registrations := Function.update s.registrations task (some (name, phase)) }

def State.ends (s : State Task) (task : Task) (name : String) (buckets : Buckets)
    (result : Except UslExc Unit) : State Task :=
  s.tells task name (.ended result) buckets (succeeded result)

/-- The tags are written. -/
def State.puts (s : State Task) (task : Task) (reply : Reply UslExc) : State Task :=
  match s.registrations task with
  | some (name, .enabling tagset) =>
      match put_bucket_tagging reply name (tagset.set "udx" "enabled") s.buckets with
      | (.ok (), buckets) => s.tells task name .registering buckets true
      | (.error e, buckets) => s.ends task name buckets (.error e)
  | some (name, .disabling e tagset) =>
      match put_bucket_tagging reply name (tagset.set "udx" "disabled") s.buckets with
      | (.ok (), buckets) => s.ends task name buckets (.error e)
      | (.error e', buckets) => s.ends task name buckets (.error e')
  | _ => s

/-- The UDS server has been asked, in the step in which it is known how that ended: the
registration itself writes nothing until then.  `cancelIsException` as in
`post_register_device`. -/
def State.asks (cancelIsException : Bool) (s : State Task) (task : Task) (uds : Uds) :
    State Task :=
  match s.registrations task with
  | some (name, .registering) =>
      match _register_device uds with
      | none => s
      | some (.ok ()) => s.ends task name s.buckets (.ok ())
      | some (.error e) =>
          if e = .cancelledError ∧ cancelIsException = false then
            s.ends task name s.buckets (.error e)
          else s.goes task name (.failed e)
  | _ => s

def State.step (cancelIsException : Bool) (s : State Task) : Act Task → State Task
  | .create_bucket name =>
      match s.buckets.get? name with
      | some _ => s
      | none =>
          { s with
            buckets := s.buckets.set name Table.empty
            given := s.given.set name Table.empty
            told := Function.update s.told name false }
  | .delete_bucket name =>
      { s with
        buckets := s.buckets.pop name
        given := s.given.pop name
        told := Function.update s.told name false }
  | .put_tags name tags =>
      { s with buckets := retag name tags s.buckets, given := retag name tags s.given }
  | .post_register_device task name reads =>
      match s.registrations task with
      | some _ => s
      | none =>
          match get_bucket_tagging s.buckets name reads with
          | .error e => s.ends task name s.buckets (.error e)
          | .ok tagset => s.goes task name (.enabling tagset)
  | .put_bucket_tagging task reply => s.puts task reply
  | ._register_device task uds => s.asks cancelIsException task uds
  | .get_bucket_tagging task reads =>
      match s.registrations task with
      | some (name, .failed e) =>
          match get_bucket_tagging s.buckets name reads with
          | .error e' => s.ends task name s.buckets (.error e')
          | .ok tagset => s.goes task name (.disabling e tagset)
      | _ => s

end

/-- Each bucket agrees with what it was given and what is told of it. -/
def Agrees (s : State Task) : Prop :=
  ∀ name, BucketAgrees (s.buckets.get? name) (s.given.get? name) (s.told name)

/-- A write puts back the tags the bucket has been given, and a mark that is set is known to be
set; a write that is refused leaves no mark standing. -/
def WriteSpared (value : String) (tagset given : Tags) (told : Bool) : Reply UslExc → Prop
  | .done => SameButMark tagset given
  | .lost _ => value ≠ "enabled" ∧ SameButMark tagset given
  | .refused _ => told = false

def PutsSpared (s : State Task) (task : Task) (reply : Reply UslExc) : Prop :=
  match s.registrations task with
  | some (name, .enabling tagset) =>
      ∀ given, s.given.get? name = some given →
        WriteSpared "enabled" tagset given (s.told name) reply
  | some (name, .disabling _ tagset) =>
      ∀ given, s.given.get? name = some given →
        WriteSpared "disabled" tagset given (s.told name) reply
  | _ => True

/-- One that is confirmed finds its mark standing; one that is cancelled and not caught, none. -/
def AsksSpared (cancelIsException : Bool) (s : State Task) (task : Task) (uds : Uds) : Prop :=
  match s.registrations task with
  | some (name, .registering) =>
      (Confirmed uds → s.told name = true) ∧
        (_register_device uds = some (.error .cancelledError) → cancelIsException = false →
          s.told name = false)
  | _ => True

/-- What a step must be spared, in the state it finds. -/
def Spared (cancelIsException : Bool) (s : State Task) : Act Task → Prop
  | .create_bucket _ => True
  | .delete_bucket _ => True
  | .put_tags name tags => (s.buckets.get? name).isSome → lyve_pilot_enabled tags = s.told name
  | .post_register_device task name reads =>
      s.registrations task = none → (∃ e, reads = .raises e) → s.told name = false
  | .put_bucket_tagging task reply => PutsSpared s task reply
  | ._register_device task uds => AsksSpared cancelIsException s task uds
  | .get_bucket_tagging task reads =>
      ∀ name e, s.registrations task = some (name, .failed e) → (∃ e', reads = .raises e') →
        s.told name = false

/-! ## The steps -/

/-- A step at one bucket: what it keeps is decided there. -/
theorem agrees_iff_at {s : State Task} (h : Agrees s) (s' : State Task) (name : String)
    (hother : ∀ k, k ≠ name → s'.buckets.get? k = s.buckets.get? k ∧
      s'.given.get? k = s.given.get? k ∧ s'.told k = s.told k) :
    Agrees s' ↔ BucketAgrees (s'.buckets.get? name) (s'.given.get? name) (s'.told name) := by
  constructor
  · intro h'
    exact h' name
  · intro hname k
    by_cases hk : k = name
    · rw [hk]
      exact hname
    · obtain ⟨hbuckets, hgiven, htold⟩ := hother k hk
      rw [hbuckets, hgiven, htold]
      exact h k

theorem get?_retag {buckets : Buckets} {name k : String} {tags : Tags} :
    (retag name tags buckets).get? k =
      if k = name then (buckets.get? name).map fun _ => tags else buckets.get? k := by
  unfold retag
  by_cases hk : k = name
  · subst hk
    rw [if_pos rfl]
    cases hget : buckets.get? k with
    | none => exact hget
    | some old => exact (Table.get?_set _ _ _ _).trans (if_pos rfl)
  · rw [if_neg hk]
    cases hget : buckets.get? name with
    | none => rfl
    | some old => exact (Table.get?_set _ _ _ _).trans (if_neg (Ne.symm hk))

theorem get?_put_bucket_tagging (reply : Reply UslExc) (tags : Tags) (buckets : Buckets)
    {name k : String} (hk : k ≠ name) :
    (put_bucket_tagging reply name tags buckets).2.get? k = buckets.get? k := by
  cases hget : buckets.get? name with
  | none => rw [(put_bucket_tagging_of_none reply tags hget).2]
  | some old =>
      unfold put_bucket_tagging
      rw [hget]
      cases reply with
      | done => exact (Table.get?_set _ _ _ _).trans (if_neg (Ne.symm hk))
      | lost e => exact (Table.get?_set _ _ _ _).trans (if_neg (Ne.symm hk))
      | refused e => rfl

/-- A write with the mark as it is told of is right if the tags are the ones given. -/
theorem bucketAgrees_set_iff {tagset given : Tags} {value : String} {told : Bool} :
    BucketAgrees (some (tagset.set "udx" value)) (some given) told ↔
      SameButMark tagset given ∧ decide (value = "enabled") = told := by
  rw [BucketAgrees, sameButMark_set, lyve_pilot_enabled_set]

/-- A bucket that agrees is there if it was given. -/
theorem given_of_agrees {s : State Task} (h : Agrees s) (name : String) :
    (s.buckets.get? name = none ∧ s.given.get? name = none ∧ s.told name = false) ∨
      ∃ tags given, s.buckets.get? name = some tags ∧ s.given.get? name = some given := by
  have hname := h name
  cases hget : s.buckets.get? name with
  | none =>
      rw [hget] at hname
      exact .inl ⟨rfl, bucketAgrees_none hname⟩
  | some tags =>
      rw [hget] at hname
      obtain ⟨given, hgiven, -⟩ := bucketAgrees_some hname
      exact .inr ⟨tags, given, rfl, hgiven⟩

section
variable [DecidableEq Task] {s : State Task} {task : Task} {name : String}

/-- A word is right if it is right of its bucket. -/
theorem agrees_tells_iff (h : Agrees s) {phase : Phase} {buckets : Buckets} {told : Bool}
    (hother : ∀ k, k ≠ name → buckets.get? k = s.buckets.get? k) :
    Agrees (s.tells task name phase buckets told) ↔
      BucketAgrees (buckets.get? name) (s.given.get? name) told := by
  rw [agrees_iff_at h (s.tells task name phase buckets told) name fun k hk =>
    ⟨hother k hk, rfl, Function.update_of_ne hk _ _⟩]
  simp only [State.tells, Function.update_self]

/-- Where nothing is written, the word must be the one there was. -/
theorem agrees_ends_iff (h : Agrees s) (result : Except UslExc Unit) :
    Agrees (s.ends task name s.buckets result) ↔ s.told name = succeeded result := by
  rw [State.ends, agrees_tells_iff h fun _ _ => rfl]
  exact bucketAgrees_told (h name)

/-- After a write, the word that the mark is set must come with its answer. -/
theorem agrees_written_iff (h : Agrees s) {value : String} {tagset : Tags}
    {reply : Reply UslExc} {r : Except UslExc Unit} {buckets : Buckets}
    (hput : put_bucket_tagging reply name (tagset.set "udx" value) s.buckets = (r, buckets))
    {phase : Phase} {told : Bool} (htold : told = (succeeded r && decide (value = "enabled"))) :
    Agrees (s.tells task name phase buckets told) ↔
      ∀ given, s.given.get? name = some given →
        WriteSpared value tagset given (s.told name) reply := by
  have hother : ∀ k, k ≠ name → buckets.get? k = s.buckets.get? k := by
    intro k hk
    have hframe := get?_put_bucket_tagging reply (tagset.set "udx" value) s.buckets hk
    rw [hput] at hframe
    exact hframe
  rw [agrees_tells_iff h hother, htold]
  rcases given_of_agrees h name with ⟨hget, hgiven, -⟩ | ⟨tags, given, hget, hgiven⟩
  · obtain ⟨hfailed, rfl⟩ := hput ▸ put_bucket_tagging_of_none reply _ hget
    rw [hget, hgiven, hfailed]
    exact iff_of_true rfl fun given h => by cases h
  · unfold put_bucket_tagging at hput
    rw [hget] at hput
    rw [hgiven]
    simp only [Option.some.injEq, forall_eq']
    cases reply with
    | done =>
        cases hput
        rw [Table.get?_set, if_pos rfl, bucketAgrees_set_iff]
        exact and_iff_left rfl
    | lost e =>
        cases hput
        rw [Table.get?_set, if_pos rfl, bucketAgrees_set_iff, and_comm]
        exact and_congr_left fun _ => decide_eq_false_iff_not
    | refused e =>
        cases hput
        rw [← hgiven]
        exact bucketAgrees_told (h name)

theorem agrees_puts_iff (h : Agrees s) (reply : Reply UslExc) :
    Agrees (s.puts task reply) ↔ PutsSpared s task reply := by
  unfold State.puts PutsSpared
  cases hphase : s.registrations task with
  | none => exact iff_of_true h trivial
  | some registration =>
      obtain ⟨name, phase⟩ := registration
      cases phase with
      | enabling tagset =>
          dsimp only
          split
          case h_1 hput => exact agrees_written_iff h hput rfl
          case h_2 hput => exact agrees_written_iff h hput rfl
      | disabling e tagset =>
          dsimp only
          split
          case h_1 hput => exact agrees_written_iff h hput rfl
          case h_2 hput => exact agrees_written_iff h hput rfl
      | registering => exact iff_of_true h trivial
      | failed e => exact iff_of_true h trivial
      | ended result => exact iff_of_true h trivial

theorem agrees_asks_iff (h : Agrees s) (cancelIsException : Bool) (uds : Uds) :
    Agrees (s.asks cancelIsException task uds) ↔ AsksSpared cancelIsException s task uds := by
  unfold State.asks AsksSpared
  cases hphase : s.registrations task with
  | none => exact iff_of_true h trivial
  | some registration =>
      obtain ⟨name, phase⟩ := registration
      cases phase with
      | registering =>
          obtain ⟨hends, hconfirmed⟩ := register_device_iff uds
          rw [← hconfirmed]
          obtain ⟨result, hresult⟩ := Option.isSome_iff_exists.mp hends
          dsimp only
          rw [hresult]
          cases result with
          | ok u =>
              dsimp only
              rw [agrees_ends_iff h]
              constructor
              · exact fun htold => ⟨fun _ => htold, nofun⟩
              · exact fun hspared => hspared.1 rfl
          | error e =>
              dsimp only
              split
              case isTrue hcancelled =>
                obtain ⟨rfl, hpython⟩ := hcancelled
                rw [agrees_ends_iff h]
                constructor
                · exact fun htold => ⟨nofun, fun _ _ => htold⟩
                · exact fun hspared => hspared.2 rfl hpython
              case isFalse hcaught =>
                refine iff_of_true h ⟨nofun, fun hcancelled hpython => ?_⟩
                cases hcancelled
                exact absurd ⟨rfl, hpython⟩ hcaught
      | enabling tagset => exact iff_of_true h trivial
      | failed e => exact iff_of_true h trivial
      | disabling e tagset => exact iff_of_true h trivial
      | ended result => exact iff_of_true h trivial

/-- Reading the tags changes nothing, but to fail is a word. -/
theorem agrees_reads_iff (h : Agrees s) (reads : TagRead) (phase : Tags → Phase) :
    Agrees (match get_bucket_tagging s.buckets name reads with
      | .error e => s.ends task name s.buckets (.error e)
      | .ok tagset => s.goes task name (phase tagset)) ↔
      ((∃ e, reads = .raises e) → s.told name = false) := by
  cases reads with
  | answers => exact iff_of_true h fun ⟨e, he⟩ => by cases he
  | clientError => exact iff_of_true h fun ⟨e, he⟩ => by cases he
  | raises e =>
      simp only [get_bucket_tagging]
      rw [agrees_ends_iff h]
      exact ⟨fun htold _ => htold, fun hspared => hspared ⟨e, rfl⟩⟩

theorem agrees_step_iff (cancelIsException : Bool) (h : Agrees s) (a : Act Task) :
    Agrees (s.step cancelIsException a) ↔ Spared cancelIsException s a := by
  cases a with
  | create_bucket name =>
      rw [State.step]
      cases hget : s.buckets.get? name with
      | some tags => exact iff_of_true h trivial
      | none =>
          refine iff_of_true ((agrees_iff_at h _ name fun k hk => ?_).mpr ?_) trivial
          · exact ⟨(Table.get?_set _ _ _ _).trans (if_neg (Ne.symm hk)),
              (Table.get?_set _ _ _ _).trans (if_neg (Ne.symm hk)), Function.update_of_ne hk _ _⟩
          · simp only [Table.get?_set, if_true, Function.update_self]
            exact ⟨fun _ _ => rfl, rfl⟩
  | delete_bucket name =>
      refine iff_of_true ((agrees_iff_at h _ name fun k hk => ?_).mpr ?_) trivial
      · exact ⟨(Table.get?_pop _ _ _).trans (if_neg (Ne.symm hk)),
          (Table.get?_pop _ _ _).trans (if_neg (Ne.symm hk)), Function.update_of_ne hk _ _⟩
      · simp only [State.step, Table.get?_pop, if_true, Function.update_self]
        exact rfl
  | put_tags name tags =>
      have hiff := agrees_iff_at h (s.step cancelIsException (.put_tags name tags)) name
        fun k hk =>
          ⟨get?_retag.trans (if_neg hk), get?_retag.trans (if_neg hk), rfl⟩
      rw [hiff]
      simp only [State.step, get?_retag, if_true, Spared]
      rcases given_of_agrees h name with ⟨hget, hgiven, htold⟩ | ⟨old, given, hget, hgiven⟩
      · rw [hget, hgiven]
        exact iff_of_true htold fun h => by cases h
      · rw [hget, hgiven]
        constructor
        · intro h' _
          exact h'.2
        · intro h'
          exact ⟨fun _ _ => rfl, h' rfl⟩
  | post_register_device task name reads =>
      rw [State.step, Spared]
      cases hphase : s.registrations task with
      | some registration => exact iff_of_true h fun h => by cases h
      | none =>
          rw [agrees_reads_iff h reads Phase.enabling]
          exact ⟨fun hspared _ => hspared, fun hspared => hspared rfl⟩
  | put_bucket_tagging task reply => exact agrees_puts_iff h reply
  | _register_device task uds => exact agrees_asks_iff h cancelIsException uds
  | get_bucket_tagging task reads =>
      rw [State.step, Spared]
      split
      case h_1 name e hphase =>
        rw [agrees_reads_iff h reads (Phase.disabling e), hphase]
        simp
      case h_2 hnot =>
        exact iff_of_true h fun name e hphase => absurd hphase (hnot name e)

end

theorem agrees_start : Agrees (start : State Task) := fun _ => rfl

/-! ## The volumes -/

/-- The volumes listed are those of the buckets that have the mark set, as told when the tags of
each are read; nobody is told of a bucket that is not there. -/
def Listed (reached : State Task → Prop) : Prop :=
  (∀ (device : Device) (s : State Task) (moments : String → State Task), reached s →
    (∀ name, reached (moments name)) →
    get_volumes device none (fun _ => .answers) device.device_uuid s.buckets
        (fun name => (moments name).buckets) =
      .ok ((s.buckets.keys.filter fun name => (moments name).told name).map device.volume)) ∧
    ∀ s, reached s → ∀ name, s.told name = true → name ∈ s.buckets.keys

/-- The buckets are the ones there should be, with the tags given to them. -/
def Kept (s : State Task) : Prop :=
  (∀ name, name ∈ s.buckets.keys ↔ name ∈ s.given.keys) ∧
    ∀ name tags given, s.buckets.get? name = some tags → s.given.get? name = some given →
      SameButMark tags given

theorem marked_of_agrees {s : State Task} (h : Agrees s) (name : String) :
    marked s.buckets name = s.told name := by
  have hname := h name
  rw [marked]
  cases hget : s.buckets.get? name with
  | none =>
      rw [hget] at hname
      rw [(bucketAgrees_none hname).2]
      rfl
  | some tags =>
      rw [hget] at hname
      obtain ⟨given, -, -, henabled⟩ := bucketAgrees_some hname
      exact henabled

theorem kept_of_agrees {s : State Task} (h : Agrees s) : Kept s := by
  constructor
  · intro name
    rcases given_of_agrees h name with ⟨hget, hgiven, -⟩ | ⟨tags, given, hget, hgiven⟩
    · exact iff_of_false (Table.get?_eq_none.mp hget) (Table.get?_eq_none.mp hgiven)
    · exact iff_of_true (Table.mem_keys.mpr ⟨tags, hget⟩) (Table.mem_keys.mpr ⟨given, hgiven⟩)
  · intro name tags given hget hgiven
    have hname := h name
    rw [hget, hgiven] at hname
    exact hname.1

theorem agrees_of_marked {s : State Task} (hmarked : ∀ name ∈ s.buckets.keys,
      marked s.buckets name = s.told name)
    (htold : ∀ name, s.told name = true → name ∈ s.buckets.keys) (hkept : Kept s) :
    Agrees s := by
  obtain ⟨hkeys, hsame⟩ := hkept
  intro name
  cases hget : s.buckets.get? name with
  | none =>
      have hnot := Table.get?_eq_none.mp hget
      rw [Table.get?_eq_none.mpr (mt (hkeys name).mpr hnot)]
      exact Bool.eq_false_iff.mpr (mt (htold name) hnot)
  | some tags =>
      have hmem := Table.mem_keys.mpr ⟨tags, hget⟩
      obtain ⟨given, hgiven⟩ := Table.mem_keys.mp ((hkeys name).mp hmem)
      rw [hgiven]
      refine ⟨hsame name tags given hget hgiven, ?_⟩
      have hname := hmarked name hmem
      rw [marked, hget] at hname
      exact hname

theorem get_volumes_eq (device : Device) (buckets : Buckets) (moments : String → Buckets) :
    get_volumes device none (fun _ => .answers) device.device_uuid buckets moments =
      .ok ((buckets.keys.filter fun name => marked (moments name) name).map device.volume) := by
  rw [get_volumes, if_neg (not_not.mpr rfl)]
  exact volumesFrom_eq device moments buckets.keys

theorem agrees_iff (reached : State Task → Prop) :
    (∀ s, reached s → Agrees s) ↔ Listed reached ∧ ∀ s, reached s → Kept s := by
  constructor
  · intro h
    refine ⟨⟨fun device s moments hs hmoments => ?_, fun s hs name htold => ?_⟩,
      fun s hs => kept_of_agrees (h s hs)⟩
    · rw [get_volumes_eq]
      simp only [marked_of_agrees (h _ (hmoments _))]
    · rcases given_of_agrees (h s hs) name with ⟨-, -, hfalse⟩ | ⟨tags, -, hget, -⟩
      · rw [hfalse] at htold
        cases htold
      · exact Table.mem_keys.mpr ⟨tags, hget⟩
  · rintro ⟨⟨hlisted, htold⟩, hkept⟩ s hs
    refine agrees_of_marked (fun name hname => ?_) (htold s hs) (hkept s hs)
    have hlist := hlisted ⟨"", "", id, 0, 0⟩ s (fun _ => s) hs fun _ => hs
    rw [get_volumes_eq] at hlist
    have hfilter := (volume_injective _).list_map (Except.ok.inj hlist)
    have hmem : name ∈ s.buckets.keys.filter (marked s.buckets) ↔
        name ∈ s.buckets.keys.filter s.told := by rw [hfilter]
    simp only [List.mem_filter, hname, true_and] at hmem
    exact Bool.eq_iff_iff.mpr hmem

/-! ## A registration that nothing comes between -/

section
variable [DecidableEq Task] {s : State Task} {task : Task} {name : String}

/-- The steps of one registration, one after another; those it has no use for do nothing. -/
def undisturbed (task : Task) (name : String) (weather : RegistrationWeather) :
    List (Act Task) :=
  [.post_register_device task name weather.enable.reads,
    .put_bucket_tagging task weather.enable.puts, ._register_device task weather.uds,
    .get_bucket_tagging task weather.disable.reads,
    .put_bucket_tagging task weather.disable.puts]

theorem registrations_tells (s : State Task) (task : Task) (name : String) (phase : Phase)
    (buckets : Buckets) (told : Bool) :
    (s.tells task name phase buckets told).registrations task = some (name, phase) :=
  Function.update_self _ _ _

theorem registrations_goes (s : State Task) (task : Task) (name : String) (phase : Phase) :
    (s.goes task name phase).registrations task = some (name, phase) :=
  Function.update_self _ _ _

/-- Of two words the later one stands. -/
theorem tells_tells (s : State Task) (phase phase' : Phase) (buckets buckets' : Buckets)
    (told told' : Bool) :
    (s.tells task name phase buckets told).tells task name phase' buckets' told' =
      s.tells task name phase' buckets' told' := by
  simp only [State.tells, Function.update_idem]

theorem goes_tells (s : State Task) (task : Task) (name : String) (phase phase' : Phase)
    (buckets : Buckets) (told : Bool) :
    (s.goes task name phase).tells task name phase' buckets told =
      s.tells task name phase' buckets told := by
  simp only [State.goes, State.tells, Function.update_idem]

theorem tells_goes (s : State Task) (phase phase' : Phase) (buckets : Buckets) (told : Bool) :
    (s.tells task name phase buckets told).goes task name phase' =
      s.tells task name phase' buckets told := by
  simp only [State.goes, State.tells, Function.update_idem]

/-- `enable_lyve_pilot`, in its two steps. -/
theorem run_enable (cancelIsException : Bool) (htask : s.registrations task = none)
    (weather : TagWeather) {r : Except UslExc Unit} {buckets : Buckets}
    (h : enable_lyve_pilot weather name s.buckets = (r, buckets)) :
    run (State.step cancelIsException) s
        [.post_register_device task name weather.reads, .put_bucket_tagging task weather.puts] =
      match r with
      | .error e => s.ends task name buckets (.error e)
      | .ok () => s.tells task name .registering buckets true := by
  unfold enable_lyve_pilot set_udx at h
  simp only [run_cons, run_nil, State.step, htask]
  cases hread : get_bucket_tagging s.buckets name weather.reads with
  | error e =>
      rw [hread] at h
      cases h
      simp only [State.puts, State.ends, registrations_tells]
  | ok tagset =>
      rw [hread] at h
      have hput : put_bucket_tagging weather.puts name (tagset.set "udx" "enabled")
          (s.goes task name (.enabling tagset)).buckets = (r, buckets) := h
      have hword := goes_tells s task name (.enabling tagset)
      simp only [State.puts, State.ends, registrations_goes, hput, hword]
      cases r with
      | error e => rfl
      | ok u => rfl

/-- `disable_lyve_pilot`, in its two steps; the registration has failed either way. -/
theorem run_disable (cancelIsException : Bool) {e : UslExc}
    (htask : s.registrations task = some (name, .failed e)) (weather : TagWeather)
    {r : Except UslExc Unit} {buckets : Buckets}
    (h : disable_lyve_pilot weather name s.buckets = (r, buckets)) :
    run (State.step cancelIsException) s
        [.get_bucket_tagging task weather.reads, .put_bucket_tagging task weather.puts] =
      match r with
      | .error e' => s.ends task name buckets (.error e')
      | .ok () => s.ends task name buckets (.error e) := by
  unfold disable_lyve_pilot set_udx at h
  simp only [run_cons, run_nil, State.step, htask]
  cases hread : get_bucket_tagging s.buckets name weather.reads with
  | error e' =>
      rw [hread] at h
      cases h
      simp only [State.puts, State.ends, registrations_tells]
  | ok tagset =>
      rw [hread] at h
      have hput : put_bucket_tagging weather.puts name (tagset.set "udx" "disabled")
          (s.goes task name (.disabling e tagset)).buckets = (r, buckets) := h
      have hword := goes_tells s task name (.disabling e tagset)
      simp only [State.puts, State.ends, registrations_goes, hput, hword]
      cases r with
      | error e' => rfl
      | ok u => rfl

/-- After the end of a registration none of its steps does anything. -/
theorem run_ended (cancelIsException : Bool) {result : Except UslExc Unit}
    (htask : s.registrations task = some (name, .ended result)) (reads : TagRead)
    (reply : Reply UslExc) :
    run (State.step cancelIsException) s
      [.get_bucket_tagging task reads, .put_bucket_tagging task reply] = s := by
  simp only [run_cons, run_nil, State.step, State.puts, htask]

/-- A registration that nothing comes between is `post_register_device`. -/
theorem run_undisturbed (cancelIsException : Bool) (htask : s.registrations task = none)
    {weather : RegistrationWeather} {result : Except UslExc Unit} {buckets : Buckets}
    (h : post_register_device cancelIsException weather name s.buckets =
      some (result, buckets)) :
    run (State.step cancelIsException) s (undisturbed task name weather) =
      s.ends task name buckets result := by
  have hsplit : undisturbed task name weather =
      [.post_register_device task name weather.enable.reads,
          .put_bucket_tagging task weather.enable.puts] ++
        ._register_device task weather.uds ::
          [.get_bucket_tagging task weather.disable.reads,
            .put_bucket_tagging task weather.disable.puts] := rfl
  rw [hsplit, run_append, run_cons]
  unfold post_register_device at h
  rcases henable : enable_lyve_pilot weather.enable name s.buckets with ⟨r, enabled⟩
  rw [run_enable cancelIsException htask weather.enable henable]
  rw [henable] at h
  cases r with
  | error e =>
      -- the mark was not set, and the registration has ended
      cases h
      have hended := registrations_tells s task name (.ended (.error e)) buckets false
      simp only [State.step, State.asks, State.ends, succeeded, hended]
      exact run_ended cancelIsException hended _ _
  | ok u =>
      have hregistering := registrations_tells s task name .registering enabled true
      simp only [State.step, State.asks, hregistering]
      dsimp only at h
      cases hregister : _register_device weather.uds with
      | none =>
          rw [hregister] at h
          cases h
      | some outcome =>
          rw [hregister] at h
          cases outcome with
          | ok u =>
              cases h
              simp only [State.ends, tells_tells, succeeded]
              exact run_ended cancelIsException (registrations_tells s task name _ _ _) _ _
          | error e =>
              dsimp only at h ⊢
              by_cases hcancelled : e = .cancelledError ∧ cancelIsException = false
              · rw [if_pos hcancelled] at h ⊢
                cases h
                simp only [State.ends, tells_tells, succeeded]
                exact run_ended cancelIsException (registrations_tells s task name _ _ _) _ _
              · rw [if_neg hcancelled] at h ⊢
                rw [tells_goes]
                have hfailed := registrations_tells s task name (.failed e) enabled true
                rcases hdisable : disable_lyve_pilot weather.disable name enabled with ⟨r, disabled⟩
                rw [run_disable cancelIsException hfailed weather.disable hdisable]
                rw [hdisable] at h
                cases r with
                | error e' =>
                    cases h
                    exact tells_tells _ _ _ _ _ _ _
                | ok u =>
                    cases h
                    exact tells_tells _ _ _ _ _ _ _

/-- It leaves the bucket right exactly if its own calls leave nothing half done. -/
theorem agrees_undisturbed_iff (cancelIsException : Bool) (h : Agrees s)
    (weather : RegistrationWeather) {result : Except UslExc Unit} {buckets : Buckets}
    (hregister : post_register_device cancelIsException weather name s.buckets =
      some (result, buckets)) :
    Agrees (s.ends task name buckets result) ↔
      ∀ given, s.given.get? name = some given →
        Whole cancelIsException weather given (s.told name) := by
  rw [State.ends, agrees_tells_iff h fun k hk => get?_post_register_device hk hregister]
  have hname := h name
  rcases given_of_agrees h name with ⟨hget, hgiven, htold⟩ | ⟨tags, given, hget, hgiven⟩
  · obtain ⟨e, he⟩ := set_udx_of_none "enabled" weather.enable hget
    rw [post_register_device, enable_lyve_pilot, he] at hregister
    cases hregister
    rw [hget, hgiven]
    exact iff_of_true rfl fun given h => by cases h
  · rw [hget, hgiven] at hname
    rw [hgiven, bucketAgrees_iff_whole hget hname.1 hname.2 hregister]
    simp only [Option.some.injEq, forall_eq']

/-- The registration ends; the volumes are those of the buckets that are told to have the mark,
and no bucket loses a tag, exactly in the runs whose steps are spared; a registration that
nothing comes between is `post_register_device`, and right exactly if it is whole. -/
theorem lyve_pilot_exact (cancelIsException : Bool) :
    (∀ uds : Uds, (_register_device uds).isSome ∧
      (_register_device uds = some (.ok ()) ↔ Confirmed uds)) ∧
    (∀ acts : List (Act Task),
      (Listed (Reached (State.step cancelIsException) start acts) ∧
        ∀ s, Reached (State.step cancelIsException) start acts s → Kept s) ↔
        ∀ v ∈ visits (State.step cancelIsException) start acts,
          Spared cancelIsException v.1 v.2) ∧
    ∀ (s : State Task) (task : Task) (name : String) (weather : RegistrationWeather),
      s.registrations task = none → ∃ result buckets,
        post_register_device cancelIsException weather name s.buckets = some (result, buckets) ∧
        run (State.step cancelIsException) s (undisturbed task name weather) =
          s.ends task name buckets result ∧
        (Agrees s → (Agrees (s.ends task name buckets result) ↔
          ∀ given, s.given.get? name = some given →
            Whole cancelIsException weather given (s.told name))) := by
  refine ⟨register_device_iff, fun acts => ?_, fun s task name weather htask => ?_⟩
  · rw [← agrees_iff]
    exact invariant_iff (P := fun _ => True) Agrees
      (fun s a _ h => agrees_step_iff cancelIsException h a) (fun _ _ => trivial) agrees_start
  · obtain ⟨⟨result, buckets⟩, hregister⟩ := Option.isSome_iff_exists.mp
      (isSome_post_register_device cancelIsException weather name s.buckets)
    exact ⟨result, buckets, hregister, run_undisturbed cancelIsException htask hregister,
      fun h => agrees_undisturbed_iff cancelIsException h weather hregister⟩

end

/-- A server that answers the registration with `first`, says 201 at the first poll, then 200. -/
def sampleUds (first : Nat) : Uds where
  valid_url := true
  put := .status first
  start := 0
  polls i := ⟨i, .status (if i = 0 then 201 else 200)⟩
  first := by norm_num
  apart i := by push_cast; exact le_refl _

theorem confirmed_sampleUds : Confirmed (sampleUds 201) := by
  refine ⟨rfl, ⟨201, rfl, rfl⟩, 1, by norm_num [sampleUds], rfl, fun j hj => ?_⟩
  obtain rfl := Nat.lt_one_iff.mp hj
  rfl

def sampleTags : Tags := Table.empty.set "team" "ops"

/-- Two buckets registered side by side; `media` is turned down while `logs` waits. -/
def sideBySide : List (Act Bool) :=
  [.create_bucket "logs", .create_bucket "media", .put_tags "media" sampleTags,
    .post_register_device true "logs" .answers, .post_register_device false "media" .answers,
    .put_bucket_tagging false .done, .put_bucket_tagging true .done,
    ._register_device false (sampleUds 500), .get_bucket_tagging false .answers,
    .put_bucket_tagging false .done]

theorem spared_sideBySide : ∀ v ∈ visits (State.step true) start
    (sideBySide ++ [._register_device true (sampleUds 201)]), Spared true v.1 v.2 := by
  have hrefused : _register_device (sampleUds 500) =
      some (.error (internal "Could not start device registration")) := rfl
  have hnot : ¬ Confirmed (sampleUds 500) := by
    rw [← (register_device_iff _).2, hrefused]
    nofun
  have hunmarked : lyve_pilot_enabled sampleTags = false := by decide
  have hsame : ∀ tags, SameButMark tags tags := fun _ _ _ => rfl
  simp [sideBySide, visits, Spared, PutsSpared, AsksSpared, WriteSpared, State.step, State.puts,
    State.asks, State.goes, State.ends, State.tells, start, retag, get_bucket_tagging,
    put_bucket_tagging, Function.update, hrefused, hnot, internal, hunmarked, hsame,
    sameButMark_set, confirmed_sampleUds]

/-- The bucket listed is the one that was confirmed. -/
theorem lyve_pilot_exact_sideBySide :
    _register_device (sampleUds 201) = some (.ok ()) ∧
      ∀ device, get_volumes device none (fun _ => .answers) device.device_uuid
          ((run (State.step true) start sideBySide).step true
            (._register_device true (sampleUds 201))).buckets
          (fun _ => (run (State.step true) start sideBySide).buckets) =
        .ok [device.volume "logs"] := by
  obtain ⟨hregister, hruns, -⟩ := @lyve_pilot_exact Bool _ true
  have hconfirmed := (hregister _).2.mpr confirmed_sampleUds
  refine ⟨hconfirmed, fun device => ?_⟩
  obtain ⟨⟨hlisted, -⟩, -⟩ := (hruns _).mpr spared_sideBySide
  have hbefore : Reached (State.step true) start
      (sideBySide ++ [._register_device true (sampleUds 201)])
      (run (State.step true) start sideBySide) := ⟨sideBySide, List.prefix_append _ _, rfl⟩
  have hend : Reached (State.step true) start
      (sideBySide ++ [._register_device true (sampleUds 201)])
      ((run (State.step true) start sideBySide).step true
        (._register_device true (sampleUds 201))) := ⟨_, List.prefix_rfl, rfl⟩
  rw [hlisted device _ _ hend fun _ => hbefore]
  have hlast : (run (State.step true) start sideBySide).step true
      (._register_device true (sampleUds 201)) =
        (run (State.step true) start sideBySide).ends true "logs"
          (run (State.step true) start sideBySide).buckets (.ok ()) := by
    have hphase : (run (State.step true) start sideBySide).registrations true =
        some ("logs", .registering) := rfl
    simp only [State.step, State.asks, hphase, hconfirmed]
  rw [hlast]
  rfl

end CortxCsm.LyvePilot
