/-
# `CortxCsm.CertificateInstall` — `archive/core/services/security.py`

`SecurityService` keeps the configuration uploaded last in one object, which all its calls
share: `install_certificate` tests its status, awaits the provisioner, and then sets the
status; a status query asks the provisioner about the job and sets it too.

| | |
| :-- | :-- |
| `archive/core/data/models/system_config.py` | `CertificateConfig`, `SecurityConfig` |
| `csm/core/data/models/upgrade.py` | `ProvisionerCommandStatus` |
| `archive/core/services/security.py` | the rest |

Storage and provisioner answer every call.  The provisioner is a parameter: the ids it gives
to its jobs and what it reports are anything.  Storing the shared object stores what it says
when the call is made.

The status is still `NOT_INSTALLED` while an install awaits the provisioner, and this is when
a second one may start a second job.

**Proved here.**

    what `_store_to_db` leaves                        (`store_to_db_solo`)
    each method, from its parts                       (`install_triple`, `status_triple`)
    one job, if no install begins in between          (`one_job`)
    and two, if one does                              (`two_jobs`)
-/
import CortxCsm.Errors
import CortxCsm.Lib.Table
import CortxCsm.Lib.Triple

namespace CortxCsm

/-! ## Configurations -/

inductive ProvisionerCommandStatus
  | InProgress
  | Success
  | Failure
  | NotFound
  | Unknown
  deriving DecidableEq

inductive CertificateInstallationStatus
  | NOT_INSTALLED
  | INSTALLED
  | FAILED
  | IN_PROGRESS
  | UNKNOWN
  deriving DecidableEq

structure CertificateConfig where
  certificate_id : String
  date : Nat
  user : String
  pemfile_path : String
  deriving DecidableEq

structure SecurityConfig where
  config_id : Nat
  s3_config : CertificateConfig
  csm_config : CertificateConfig
  provisioner_id : Option Int
  installation_status : CertificateInstallationStatus
  deriving DecidableEq

namespace SecurityConfig

def is_pending_status (conf : SecurityConfig) : Bool :=
  decide (conf.installation_status = .IN_PROGRESS) || decide (conf.installation_status = .UNKNOWN)

def is_installed (conf : SecurityConfig) : Bool := decide (conf.installation_status = .INSTALLED)

def is_failed (conf : SecurityConfig) : Bool := decide (conf.installation_status = .FAILED)

def is_unknown (conf : SecurityConfig) : Bool := decide (conf.installation_status = .UNKNOWN)

def is_not_installed (conf : SecurityConfig) : Bool :=
  decide (conf.installation_status = .NOT_INSTALLED)

def update_status (status : CertificateInstallationStatus) (conf : SecurityConfig) :
    SecurityConfig := { conf with installation_status := status }

end SecurityConfig

/-! ## The service's state, and what it awaits -/

/-- A `set_ssl_certs` job. -/
structure SslJob where
  id : Int
  source : String
  deriving DecidableEq

/-- `queries` counts the status queries the provisioner has answered. -/
structure SecurityState where
  certificates : Table CertificateConfig.certificate_id
  security : Table SecurityConfig.config_id
  _last_configuration : Option SecurityConfig
  jobs : List SslJob
  queries : Nat

/-- The ids of the jobs, in the order in which they are started, and the answers to the status
queries. -/
structure Provisioner where
  job_id : Nat → Int
  report : Nat → ProvisionerCommandStatus

inductive SecurityOp
  | certificate_store (conf : CertificateConfig)
  | security_store (conf : SecurityConfig)
  | security_get_by_id (config_id : Nat)
  | set_ssl_certs (source : String)
  | get_provisioner_job_status (provisioner_id : Int)

@[reducible] def SecurityOp.Ans : SecurityOp → Type
  | .certificate_store _ => Unit
  | .security_store _ => Unit
  | .security_get_by_id _ => Option SecurityConfig
  | .set_ssl_certs _ => Int
  | .get_provisioner_job_status _ => ProvisionerCommandStatus

abbrev SecurityProg := Coro SecurityOp SecurityOp.Ans SecurityState Exc

def Provisioner.machine (p : Provisioner) :
    Machine SecurityOp SecurityOp.Ans SecurityState Exc Empty where
  exec
    | .certificate_store conf, s =>
        some (.ok (), { s with certificates := s.certificates.upsert conf })
    | .security_store conf, s => some (.ok (), { s with security := s.security.upsert conf })
    | .security_get_by_id config_id, s => some (.ok (s.security.find? config_id), s)
    | .set_ssl_certs source, s =>
        some (.ok (p.job_id s.jobs.length),
          { s with jobs := s.jobs ++ [⟨p.job_id s.jobs.length, source⟩] })
    | .get_provisioner_job_status _, s =>
        some (.ok (p.report s.queries), { s with queries := s.queries + 1 })
  env := nofun

/-! ## `SecurityService` -/

namespace SecurityService

open SecurityConfig

def CONFIG_ID : Nat := 1

/-- `_MAP`. -/
def _provisioner_to_installation_status :
    ProvisionerCommandStatus → CertificateInstallationStatus
  | .InProgress => .IN_PROGRESS
  | .Success => .INSTALLED
  | .Failure => .FAILED
  | .NotFound => .UNKNOWN
  | .Unknown => .UNKNOWN

/-- `_store_to_db`; `load` is `_load_certificate`, up to the serial number. -/
def _store_to_db (load : String → Except Exc Nat) (user pemfile_path : String) (save_time : Nat) :
    SecurityProg Unit :=
  match load pemfile_path with
  | .error e => throw e
  | .ok serial_number => do
      let certificate_conf : CertificateConfig :=
        ⟨String.ofList (Nat.toDigits 16 serial_number), save_time, user, pemfile_path⟩
      Coro.call (SecurityOp.certificate_store certificate_conf)
      let security_conf : SecurityConfig :=
        ⟨CONFIG_ID, certificate_conf, certificate_conf, none, .NOT_INSTALLED⟩
      Coro.call (SecurityOp.security_store security_conf)
      Coro.write fun s => { s with _last_configuration := some security_conf }

/-- Try to obtain last stored information from db. -/
def loadLast : SecurityProg Unit := do
  let last ← Coro.read SecurityState._last_configuration
  match last with
  | some _ => return ()
  | none => do
      let stored ← Coro.call (SecurityOp.security_get_by_id CONFIG_ID)
      Coro.write fun s => { s with _last_configuration := stored }

/-- An assignment to the shared object. -/
def assign (u : SecurityConfig → SecurityConfig) : SecurityProg Unit :=
  Coro.write fun s => { s with _last_configuration := s._last_configuration.map u }

def _update_configuration : SecurityProg Unit := do
  let last ← Coro.read SecurityState._last_configuration
  match last with
  | some conf => Coro.call (SecurityOp.security_store conf)
  | none => return ()

def _update_certificate_installation_status : SecurityProg Unit := do
  let last ← Coro.read SecurityState._last_configuration
  match last with
  | none => throw .attributeError
  | some conf =>
      match conf.provisioner_id with
      | none => return ()
      | some provisioner_id => do
          let prv_status ← Coro.call (SecurityOp.get_provisioner_job_status provisioner_id)
          assign (update_status (_provisioner_to_installation_status prv_status))
          _update_configuration

/-- The message of the conflict. -/
def conflict : Option SecurityConfig → String
  | none => "Csm installation conflict"
  | some conf =>
      if conf.is_unknown then "Certificate Installation status is unknown"
      else if conf.is_pending_status then "Certificate Installation in progress"
      else if conf.is_failed then "Certificate Installation failed"
      else "Csm installation conflict"

def installed : Exc :=
  .csm (resourceExist "Last uploaded configuration is already installed" "ResourceExist")

def serviceConflict (message : String) : Exc :=
  .csm ⟨.CsmServiceConflict, CSM_SERVICE_CONFLICT, some message, some "ServiceConflict", none⟩

def notUploaded : Exc :=
  .csm (csmNotFoundError (some "Don't find last uploaded certificates") NOT_FOUND_ERROR)

/-- The job is started, and only then is it written down. -/
def startJob (source : String) : SecurityProg Unit := do
  let _provisioner_id ← Coro.call (SecurityOp.set_ssl_certs source)
  assign fun conf => { conf.update_status .IN_PROGRESS with provisioner_id := some _provisioner_id }
  _update_configuration

def install_certificate : SecurityProg Unit := do
  loadLast
  let last ← Coro.read SecurityState._last_configuration
  match last with
  | none => throw notUploaded
  | some conf =>
      if conf.is_not_installed then startJob conf.csm_config.pemfile_path
      else if conf.is_installed then throw installed
      else do
        _update_certificate_installation_status
        let last ← Coro.read SecurityState._last_configuration
        throw (serviceConflict (conflict last))

/-- What a query of a pending installation does. -/
def refresh (conf : SecurityConfig) : SecurityProg Unit :=
  if conf.is_pending_status then
    match conf.provisioner_id with
    | none => do
        assign (update_status .UNKNOWN)
        _update_configuration
    | some _ => _update_certificate_installation_status
  else return ()

def get_certificate_installation_status : SecurityProg (Option SecurityConfig) := do
  loadLast
  let last ← Coro.read SecurityState._last_configuration
  match last with
  | none => return none
  | some conf => do
      refresh conf
      Coro.read SecurityState._last_configuration

end SecurityService

inductive SecurityCall
  | install_certificate
  | get_certificate_installation_status
  deriving DecidableEq

def SecurityCall.program : SecurityCall → SecurityProg (Option SecurityConfig)
  | .install_certificate => (fun _ => none) <$> SecurityService.install_certificate
  | .get_certificate_installation_status => SecurityService.get_certificate_installation_status

/-! ## The life of a configuration -/

namespace SecurityService

open SecurityConfig

/-- The provisioner id that is stored. -/
def storedId (s : SecurityState) : Option Int :=
  (s.security.find? CONFIG_ID).bind SecurityConfig.provisioner_id

/-- Uploaded, and no job written down. -/
structure Untouched (s : SecurityState) : Prop where
  last : ∃ conf, s._last_configuration = some conf ∧ conf.is_not_installed = true
  stored : storedId s = none

/-- The one job since `old` is written down in the shared object. -/
def Recorded (old : List SslJob) (s : SecurityState) : Prop :=
  ∃ conf job, s._last_configuration = some conf ∧ conf.is_not_installed = false ∧
    conf.provisioner_id = some job.id ∧ s.jobs = old ++ [job]

/-- And in the store. -/
def Saved (old : List SslJob) (s : SecurityState) : Prop :=
  ∃ job, s.jobs = old ++ [job] ∧ storedId s = some job.id

/-- Where the configuration stands: uploaded, with an install that awaits the provisioner or has
been answered, with one that has written the job down and not stored it, or stored. -/
inductive Phase (ι : Type)
  | uploaded
  | asking (i : ι)
  | recorded (i : ι)
  | saved

variable {ι : Type} (calls : ι → SecurityCall) (old : List SslJob)

def Phase.Inv (s : SecurityState) : Phase ι → Prop
  | .uploaded => Untouched s ∧ s.jobs = old
  | .asking i => Untouched s ∧ calls i = .install_certificate ∧
      (s.jobs = old ∨ ∃ job, s.jobs = old ++ [job])
  | .recorded _ => Recorded old s
  | .saved => Recorded old s ∧ Saved old s

/-- Each install knows its own phase, and all that what is written down stays. -/
def oneJob : Contract ι SecurityOp SecurityOp.Ans SecurityState Exc (Phase ι) where
  inv w x := (∀ conf ∈ w.state._last_configuration, conf.config_id = CONFIG_ID) ∧
    x.Inv calls old w.state
  rely i a b := (a.2 = .asking i ↔ b.2 = .asking i) ∧ (a.2 = .recorded i ↔ b.2 = .recorded i) ∧
    (a.2 = .asking i → b.1.state.jobs = a.1.state.jobs) ∧
    (Recorded old a.1.state → Recorded old b.1.state ∧ b.1.state.jobs = a.1.state.jobs)
  may _ _ _ := True
  refl _ _ := ⟨Iff.rfl, Iff.rfl, fun _ => rfl, fun h => ⟨h, rfl⟩⟩
  trans _ _ _ _ h h' :=
    ⟨h.1.trans h'.1, h.2.1.trans h'.2.1,
      fun ha => (h'.2.2.1 (h.1.mp ha)).trans (h.2.2.1 ha),
      fun ha => ⟨(h'.2.2.2 (h.2.2.2 ha).1).1, (h'.2.2.2 (h.2.2.2 ha).1).2.trans (h.2.2.2 ha).2⟩⟩

/-- A boundary of the contract. -/
abbrev Boundary (ι : Type) := World ι SecurityOp SecurityOp.Ans SecurityState Exc × Phase ι

/-- The call `i` has no job to write down, or to store. -/
def Out (i : ι) (a : Boundary ι) : Prop := a.2 ≠ .asking i ∧ a.2 ≠ .recorded i

/-- And somebody has written one down. -/
def Settled (i : ι) (a : Boundary ι) : Prop := Out i a ∧ Recorded old a.1.state

/-- What the call is about to store is written down, and is the shared object's. -/
def Storing (i : ι) (conf : SecurityConfig) (job : SslJob) (a : Boundary ι) : Prop :=
  (conf.config_id = CONFIG_ID ∧ conf.provisioner_id = some job.id) ∧
    a.1.state.jobs = old ++ [job] ∧ Recorded old a.1.state ∧ (Out i a ∨ a.2 = .recorded i)

variable {calls old} {i : ι} {p : Provisioner}

theorem Out.stable : (oneJob calls old).Stable i (Out i) :=
  fun _ _ h hr => ⟨fun e => h.1 (hr.1.mpr e), fun e => h.2 (hr.2.1.mpr e)⟩

theorem Settled.stable : (oneJob calls old).Stable i (Settled old i) :=
  fun a b h hr => ⟨Out.stable a b h.1 hr, (hr.2.2.2 h.2).1⟩

/-- The two cannot be. -/
theorem Untouched.not_recorded {s : SecurityState} (h : Untouched s) : ¬ Recorded old s := by
  rintro ⟨conf, job, hlast, hnot, -, -⟩
  obtain ⟨conf', hlast', hyes⟩ := h.last
  cases hlast.symm.trans hlast'
  exact absurd (hnot.symm.trans hyes) Bool.noConfusion

/-- A configuration is there, as uploaded or with its job. -/
theorem Phase.Inv.last {x : Phase ι} {s : SecurityState} (h : x.Inv calls old s) :
    ∃ conf, s._last_configuration = some conf ∧
      ((conf.is_not_installed = true ∧ Untouched s) ∨
        (conf.is_not_installed = false ∧ Recorded old s)) := by
  have huntouched : Untouched s → ∃ conf, s._last_configuration = some conf ∧
      ((conf.is_not_installed = true ∧ Untouched s) ∨
        (conf.is_not_installed = false ∧ Recorded old s)) := by
    intro hu
    obtain ⟨conf, hlast, hnot⟩ := hu.last
    exact ⟨conf, hlast, .inl ⟨hnot, hu⟩⟩
  have hrecorded : Recorded old s → ∃ conf, s._last_configuration = some conf ∧
      ((conf.is_not_installed = true ∧ Untouched s) ∨
        (conf.is_not_installed = false ∧ Recorded old s)) := by
    intro hr
    obtain ⟨conf, job, hlast, hnot, -, -⟩ := id hr
    exact ⟨conf, hlast, .inr ⟨hnot, hr⟩⟩
  cases x with
  | uploaded => exact huntouched h.1
  | asking j => exact huntouched h.1
  | recorded j => exact hrecorded h
  | saved => exact hrecorded h.1

/-- A step that keeps what is written down, and stored, keeps the phase. -/
theorem Phase.Inv.settled {x : Phase ι} {s s' : SecurityState} (h : x.Inv calls old s)
    (hs : Recorded old s) (hs' : Recorded old s') (hsaved : Saved old s → Saved old s') :
    x.Inv calls old s' := by
  cases x with
  | uploaded => exact absurd hs h.1.not_recorded
  | asking j => exact absurd hs h.1.not_recorded
  | recorded j => exact hs'
  | saved => exact ⟨hs', hsaved h.2⟩

/-- A step that leaves the jobs alone, and the phases of the others. -/
theorem guar_of {w w' : World ι SecurityOp SecurityOp.Ans SecurityState Exc} {x x' : Phase ι}
    (hx : ∀ j, j ≠ i → (x = .asking j ↔ x' = .asking j) ∧ (x = .recorded j ↔ x' = .recorded j))
    (hjobs : w'.state.jobs = w.state.jobs)
    (hrecorded : Recorded old w.state → Recorded old w'.state) :
    (oneJob calls old).guar i (w, x) (w', x') :=
  fun j hj => ⟨(hx j hj).1, (hx j hj).2, fun _ => hjobs, fun h => ⟨hrecorded h, hjobs⟩⟩

/-! ## The methods -/

theorem Storing.stable (conf : SecurityConfig) (job : SslJob) :
    (oneJob calls old).Stable i (Storing old i conf job) := by
  rintro a b ⟨hconf, hjobs, hrecorded, hphase⟩ hr
  obtain ⟨hrecorded', hsame⟩ := hr.2.2.2 hrecorded
  refine ⟨hconf, hsame.trans hjobs, hrecorded', ?_⟩
  rcases hphase with hout | hphase
  · exact .inl (Out.stable a b hout hr)
  · exact .inr (hr.2.1.mp hphase)

/-- Storing what is written down. -/
theorem update_configuration_triple :
    (oneJob calls old).Triple p.machine i
      (fun a => Recorded old a.1.state ∧ (Out i a ∨ a.2 = .recorded i))
      _update_configuration (fun _ => Settled old i) fun _ => Out i := by
  refine Contract.Triple.bind
    (S := fun last a => ∃ conf job, last = some conf ∧ Storing old i conf job a)
    (.read fun w x hinv hp => ?_) fun last => ?_
  · obtain ⟨conf, job, hlast, -, hprov, hjobs⟩ := id hp.1
    exact ⟨conf, job, hlast, ⟨hinv.1 conf hlast, hprov⟩, hjobs, hp⟩
  · refine .of_exists fun conf => .of_exists fun job => ?_
    refine .of_fact (fun _ _ h => h.1) fun hlast => ?_
    rw [hlast]
    refine Contract.Triple.pre (P := Storing old i conf job) ?_ fun _ _ h => h.2
    refine .call (Storing.stable conf job) (fun _ => Settled.stable) (fun _ => Out.stable) ?_
    intro w x r s' hinv hp _ he
    obtain ⟨⟨hid, hprov⟩, hjobs, hrecorded, hphase⟩ := hp
    cases he
    have hstored : Saved old { w.state with security := w.state.security.upsert conf } := by
      refine ⟨job, hjobs, ?_⟩
      show ((w.state.security.upsert conf).find? CONFIG_ID).bind _ = _
      rw [Table.find?_upsert, if_pos hid]
      exact hprov
    -- the phase ends here for the install whose job it is
    rcases hphase with hout | hphase
    · exact ⟨x, ⟨hinv.1, hinv.2.settled hrecorded hrecorded fun _ => hstored⟩,
        guar_of (fun _ _ => ⟨Iff.rfl, Iff.rfl⟩) rfl fun h => h, hout, hrecorded⟩
    · refine ⟨.saved, ⟨hinv.1, hrecorded, hstored⟩, guar_of (fun j hj => ?_) rfl fun h => h,
        ⟨nofun, nofun⟩, hrecorded⟩
      change x = .recorded i at hphase
      rw [hphase]
      simp [Ne.symm hj]

/-- Assigning to the shared object, once the job is written down. -/
theorem assign_triple {u : SecurityConfig → SecurityConfig}
    (hu : ∀ conf, (u conf).config_id = conf.config_id ∧
      (u conf).is_not_installed = false ∧ (u conf).provisioner_id = conf.provisioner_id) :
    (oneJob calls old).Triple p.machine i (Settled old i) (assign u) (fun _ => Settled old i)
      fun _ => Out i := by
  refine .write fun w x hinv hp => ?_
  have hrecorded : ∀ s, Recorded old s →
      Recorded old { s with _last_configuration := s._last_configuration.map u } := by
    rintro s ⟨conf, job, hlast, -, hprov, hjobs⟩
    refine ⟨u conf, job, ?_, (hu conf).2.1, (hu conf).2.2.trans hprov, hjobs⟩
    show s._last_configuration.map u = _
    rw [hlast]
    rfl
  refine ⟨x, ⟨?_, hinv.2.settled hp.2 (hrecorded _ hp.2) fun h => h⟩,
    guar_of (fun _ _ => ⟨Iff.rfl, Iff.rfl⟩) rfl (hrecorded _), hp.1, hrecorded _ hp.2⟩
  intro conf hconf
  obtain ⟨conf', hlast, rfl⟩ := Option.map_eq_some_iff.mp hconf
  exact (hu conf').1.trans (hinv.1 conf' hlast)

/-- No report makes the configuration one that is to be installed. -/
theorem not_installed_of_report (prv_status : ProvisionerCommandStatus) (conf : SecurityConfig) :
    (conf.update_status (_provisioner_to_installation_status prv_status)).is_not_installed =
      false := by
  cases prv_status with
  | InProgress => rfl
  | Success => rfl
  | Failure => rfl
  | NotFound => rfl
  | Unknown => rfl

/-- Asking for the status of the job. -/
theorem update_status_triple :
    (oneJob calls old).Triple p.machine i (Settled old i) _update_certificate_installation_status
      (fun _ => Settled old i) fun _ => Out i := by
  refine Contract.Triple.bind
    (S := fun last a => (∃ conf, last = some conf ∧ conf.provisioner_id ≠ none) ∧ Settled old i a)
    (.read fun w x _ hp => ?_) fun last => ?_
  · obtain ⟨conf, job, hlast, -, hprov, -⟩ := id hp.2
    exact ⟨⟨conf, hlast, hprov ▸ Option.some_ne_none _⟩, hp⟩
  · refine .of_fact (fun _ _ h => h.1) ?_
    rintro ⟨conf, rfl, hprov⟩
    dsimp only
    split
    · rename_i hnone
      exact absurd hnone hprov
    · rename_i provisioner_id _
      refine Contract.Triple.bind (S := fun _ => Settled old i) ?_ fun prv_status => ?_
      · refine Contract.Triple.pre (P := Settled old i) ?_ fun _ _ h => h.2
        refine .call Settled.stable (fun _ => Settled.stable) (fun _ => Out.stable) ?_
        intro w x r s' hinv hp _ he
        cases he
        exact ⟨x, ⟨hinv.1, hinv.2.settled hp.2 hp.2 fun h => h⟩,
          guar_of (fun _ _ => ⟨Iff.rfl, Iff.rfl⟩) rfl fun h => h, hp⟩
      · refine Contract.Triple.bind (S := fun _ => Settled old i)
          (assign_triple fun conf => ⟨rfl, not_installed_of_report prv_status conf, rfl⟩)
          fun _ => ?_
        exact update_configuration_triple.pre fun _ _ h => ⟨h.2, .inl h.1⟩

/-- The configuration is there. -/
theorem loadLast_triple {P : Boundary ι → Prop} :
    (oneJob calls old).Triple p.machine i P loadLast (fun _ => P) fun _ => Out i := by
  refine Contract.Triple.bind (S := fun last a => (∃ conf, last = some conf) ∧ P a)
    (.read fun w x hinv hp => ?_) fun last => ?_
  · obtain ⟨conf, hlast, -⟩ := hinv.2.last
    exact ⟨⟨conf, hlast⟩, hp⟩
  · refine .of_fact (fun _ _ h => h.1) ?_
    rintro ⟨conf, rfl⟩
    exact .ret fun _ _ h => h.2

/-- The call `i` awaits the provisioner for a configuration without a job, or has been answered. -/
def Asking (i : ι) (jobs : List SslJob) (a : Boundary ι) : Prop :=
  a.2 = .asking i ∧ a.1.state.jobs = jobs

theorem Asking.stable (jobs : List SslJob) : (oneJob calls old).Stable i (Asking i jobs) :=
  fun _ _ h hr => ⟨hr.1.mp h.1, (hr.2.2.1 h.1).trans h.2⟩

theorem Asking.inv {jobs : List SslJob} {a : Boundary ι} (h : Asking i jobs a)
    (hinv : (oneJob calls old).inv a.1 a.2) :
    Untouched a.1.state ∧ calls i = .install_certificate := by
  have hphase := hinv.2
  rw [h.1] at hphase
  exact ⟨hphase.1, hphase.2.1⟩

/-- The provisioner starts the one job. -/
theorem set_ssl_certs_triple (source : String) :
    (oneJob calls old).Triple p.machine i (Asking i old)
      (Coro.call (SecurityOp.set_ssl_certs source))
      (fun id a => ∃ job : SslJob, job.id = id ∧ Asking i (old ++ [job]) a) fun _ => Out i := by
  refine .call (Asking.stable old)
    (fun id => Contract.Stable.exists fun job => (Contract.Stable.const _).and (Asking.stable _))
    (fun _ => Out.stable) ?_
  intro w x r s' hinv hp _ he
  obtain ⟨huntouched, hcall⟩ := hp.inv hinv
  obtain ⟨hphase, hjobs⟩ := hp
  change x = .asking i at hphase
  cases he
  have hjob : w.state.jobs ++ [⟨p.job_id w.state.jobs.length, source⟩] =
      old ++ [⟨p.job_id w.state.jobs.length, source⟩] := congrArg (· ++ _) hjobs
  refine ⟨x, ⟨hinv.1, ?_⟩, fun j hj => ⟨Iff.rfl, Iff.rfl, fun e => ?_, fun h => ?_⟩,
    _, rfl, hphase, hjob⟩
  · rw [hphase]
    exact ⟨⟨huntouched.last, huntouched.stored⟩, hcall, .inr ⟨_, hjob⟩⟩
  · rw [hphase] at e
    cases e
    exact absurd rfl hj
  · exact absurd h huntouched.not_recorded

/-- The job is written down in the shared object. -/
theorem record_triple (job : SslJob) :
    (oneJob calls old).Triple p.machine i (Asking i (old ++ [job]))
      (assign fun conf => { conf.update_status .IN_PROGRESS with provisioner_id := some job.id })
      (fun _ a => Recorded old a.1.state ∧ (Out i a ∨ a.2 = .recorded i)) fun _ => Out i := by
  refine .write fun w x hinv hp => ?_
  obtain ⟨huntouched, -⟩ := hp.inv hinv
  obtain ⟨hphase, hjobs⟩ := hp
  change x = .asking i at hphase
  obtain ⟨conf, hlast, -⟩ := huntouched.last
  have hrecorded : Recorded old { w.state with
      _last_configuration := w.state._last_configuration.map fun conf =>
        { conf.update_status .IN_PROGRESS with provisioner_id := some job.id } } := by
    refine ⟨{ conf.update_status .IN_PROGRESS with provisioner_id := some job.id }, job, ?_, rfl,
      rfl, hjobs⟩
    show w.state._last_configuration.map _ = _
    rw [hlast]
    rfl
  refine ⟨.recorded i, ⟨fun conf' hconf' => ?_, hrecorded⟩, fun j hj => ?_, hrecorded, .inr rfl⟩
  · obtain ⟨conf₀, hlast₀, rfl⟩ := Option.map_eq_some_iff.mp hconf'
    exact hinv.1 conf₀ hlast₀
  · have hne : i ≠ j := Ne.symm hj
    show (x = .asking j ↔ Phase.recorded i = .asking j) ∧
      (x = .recorded j ↔ Phase.recorded i = .recorded j) ∧ _
    rw [hphase]
    exact ⟨by simp [hne], by simp [hne], fun _ => rfl, fun h => absurd h huntouched.not_recorded⟩

theorem startJob_triple (source : String) :
    (oneJob calls old).Triple p.machine i (Asking i old) (startJob source)
      (fun _ => Settled old i) fun _ => Out i := by
  refine (set_ssl_certs_triple source).bind fun id => ?_
  refine .of_exists fun job => .of_fact (fun _ _ h => h.1) fun hid => ?_
  rw [← hid]
  refine Contract.Triple.bind ((record_triple job).pre fun _ _ h => h.2) fun _ => ?_
  exact update_configuration_triple

/-- An install that finds the configuration without a job is alone with it. -/
def Enters (a : Boundary ι) : Prop := Untouched a.1.state → a.2 = .uploaded

/-- What the test of the status finds, and what it makes of the call. -/
def Tested (old : List SslJob) (i : ι) (conf : SecurityConfig) (a : Boundary ι) : Prop :=
  (conf.is_not_installed = true ∧ Asking i old a) ∨
    (conf.is_not_installed = false ∧ Settled old i a)

theorem Tested.asking {conf : SecurityConfig} {a : Boundary ι} (h : Tested old i conf a)
    (hnot : conf.is_not_installed = true) : Asking i old a := by
  rcases h with h | h
  · exact h.2
  · exact absurd (h.1.symm.trans hnot) Bool.noConfusion

theorem Tested.settled {conf : SecurityConfig} {a : Boundary ι} (h : Tested old i conf a)
    (hnot : ¬ conf.is_not_installed = true) : Settled old i a := by
  rcases h with h | h
  · exact absurd h.1 hnot
  · exact h.2

theorem test_triple (hcall : calls i = .install_certificate) :
    (oneJob calls old).Triple p.machine i (fun a => Out i a ∧ Enters a)
      (Coro.read SecurityState._last_configuration)
      (fun last a => ∃ conf, last = some conf ∧ Tested old i conf a) fun _ => Out i := by
  refine .sync fun w x hinv hp => ?_
  obtain ⟨conf, hlast, hstatus⟩ := hinv.2.last
  rcases hstatus with ⟨hnot, huntouched⟩ | ⟨hnot, hrecorded⟩
  · -- from here on the configuration is the call's
    have huploaded : x = .uploaded := hp.2 huntouched
    have hphase := hinv.2
    rw [huploaded] at hphase
    refine ⟨.asking i, ⟨hinv.1, huntouched, hcall, .inl hphase.2⟩, ?_, conf, hlast,
      .inl ⟨hnot, rfl, hphase.2⟩⟩
    rw [huploaded]
    exact guar_of (fun j hj => by simp [Ne.symm hj]) rfl fun h => h
  · exact ⟨x, hinv, fun j _ => (oneJob calls old).refl j _, conf, hlast,
      .inr ⟨hnot, hp.1, hrecorded⟩⟩

theorem install_triple (hcall : calls i = .install_certificate) :
    (oneJob calls old).Triple p.machine i (fun a => Out i a ∧ Enters a) install_certificate
      (fun _ => Out i) fun _ => Out i := by
  refine loadLast_triple.bind fun _ => (test_triple hcall).bind fun last => ?_
  refine .of_exists fun conf => .of_fact (fun _ _ h => h.1) fun hlast => ?_
  subst hlast
  dsimp only
  split
  · rename_i hnot
    exact (startJob_triple conf.csm_config.pemfile_path).conseq (fun _ _ h => h.2.asking hnot)
      (fun _ _ _ h => h.1) fun _ _ _ h => h
  · rename_i hnot
    split
    · exact .raise fun _ _ h => (h.2.settled hnot).1
    · refine Contract.Triple.bind (S := fun _ => Settled old i)
        (update_status_triple.pre fun _ _ h => h.2.settled hnot) fun _ => ?_
      refine Contract.Triple.bind (S := fun _ => Settled old i) (.read fun _ _ _ h => h) fun _ => ?_
      exact .raise fun _ _ h => h.1

theorem status_triple :
    (oneJob calls old).Triple p.machine i (Out i) get_certificate_installation_status
      (fun _ => Out i) fun _ => Out i := by
  refine loadLast_triple.bind fun _ => ?_
  refine Contract.Triple.bind (S := fun last a => ∃ conf, last = some conf ∧
    (conf.is_pending_status = true → conf.provisioner_id ≠ none ∧ Settled old i a) ∧ Out i a)
    (.read fun w x hinv hp => ?_) fun last => ?_
  · obtain ⟨conf, hlast, hstatus⟩ := hinv.2.last
    refine ⟨conf, hlast, fun hpending => ?_, hp⟩
    rcases hstatus with ⟨hnot, -⟩ | ⟨-, hrecorded⟩
    · exfalso
      have hstatus : conf.installation_status = .NOT_INSTALLED := of_decide_eq_true hnot
      unfold is_pending_status at hpending
      rw [hstatus] at hpending
      cases hpending
    · refine ⟨?_, hp, hrecorded⟩
      obtain ⟨conf', job, hlast', -, hprov, -⟩ := hrecorded
      cases hlast.symm.trans hlast'
      rw [hprov]
      exact Option.some_ne_none _
  · refine .of_exists fun conf => .of_fact (fun _ _ h => h.1) fun hlast => ?_
    rw [hlast]
    refine Contract.Triple.bind (S := fun _ => Out i) ?_ fun _ => .read fun _ _ _ h => h
    unfold refresh
    split
    · rename_i hpending
      refine .of_fact (fun _ _ h => (h.2.1 hpending).1) fun hprov => ?_
      split
      · rename_i hnone
        exact absurd hnone hprov
      · exact update_status_triple.conseq (fun _ _ h => (h.2.1 hpending).2) (fun _ _ _ h => h.1)
          fun _ _ _ h => h
    · exact .ret fun _ _ h => h.2.2

/-! ## After an upload -/

/-- What an upload that succeeds leaves. -/
theorem store_to_db_solo {load : String → Except Exc Nat} {user pemfile_path : String}
    {save_time : Nat} {s s' : SecurityState}
    (h : (_store_to_db load user pemfile_path save_time).solo p.machine s = some (.ok (), s')) :
    Untouched s' ∧ s'.jobs = s.jobs ∧ ∀ conf ∈ s'._last_configuration, conf.config_id = CONFIG_ID := by
  unfold _store_to_db at h
  cases hload : load pemfile_path with
  | error e =>
      rw [hload] at h
      cases h
  | ok serial_number =>
      rw [hload] at h
      cases h
      refine ⟨⟨⟨_, rfl, rfl⟩, ?_⟩, rfl, fun conf hconf => ?_⟩
      · show ((s.security.upsert _).find? CONFIG_ID).bind _ = none
        rw [Table.find?_upsert, if_pos rfl]
        rfl
      · cases hconf
        rfl

/-- An install begins while the configuration is still to be installed and another install is
in flight. -/
def Overtakes (calls : ι → SecurityCall)
    (c : Config ι SecurityOp SecurityOp.Ans SecurityState Exc (Option SecurityConfig)) :
    Act ι Empty → Prop
  | .run i => c.thread i = .idle ∧ calls i = .install_certificate ∧
      (∃ conf ∈ c.state._last_configuration, conf.is_not_installed = true) ∧
        ∃ j, j ≠ i ∧ calls j = .install_certificate ∧ (c.thread j).InFlight
  | .env _ => False

/-- The jobs started since `old`, and what is stored of them when no call is in flight. -/
def OneJob (old : List SslJob)
    (c : Config ι SecurityOp SecurityOp.Ans SecurityState Exc (Option SecurityConfig)) : Prop :=
  ∃ new, c.state.jobs = old ++ new ∧ new.length ≤ 1 ∧
    (c.Quiet → storedId c.state = new.head?.map SslJob.id)

theorem Phase.Inv.oneJob {x : Phase ι} {s : SecurityState} (h : x.Inv calls old s) :
    ∃ new, s.jobs = old ++ new ∧ new.length ≤ 1 ∧
      ((∀ i, x ≠ .asking i ∧ x ≠ .recorded i) → storedId s = new.head?.map SslJob.id) := by
  cases x with
  | uploaded => exact ⟨[], h.2.trans (List.append_nil _).symm, Nat.zero_le 1, fun _ => h.1.stored⟩
  | asking i =>
      rcases h.2.2 with hjobs | ⟨job, hjobs⟩
      · exact ⟨[], hjobs.trans (List.append_nil _).symm, Nat.zero_le 1,
          fun hout => absurd rfl (hout i).1⟩
      · exact ⟨[job], hjobs, Nat.le_refl 1, fun hout => absurd rfl (hout i).1⟩
  | recorded i =>
      obtain ⟨conf, job, -, -, -, hjobs⟩ := h
      exact ⟨[job], hjobs, Nat.le_refl 1, fun hout => absurd rfl (hout i).2⟩
  | saved =>
      obtain ⟨job, hjobs, hstored⟩ := h.2
      exact ⟨[job], hjobs, Nat.le_refl 1, fun _ => hstored⟩

/-- An install that does not overtake another finds the configuration free. -/
theorem enters_of_not_overtakes
    {c : Config ι SecurityOp SecurityOp.Ans SecurityState Exc (Option SecurityConfig)}
    {x : Phase ι} (hinv : (oneJob calls old).inv c.world x)
    (hstanding : ∀ j, Contract.Standing (Out j) (fun _ : Option SecurityConfig => Out j)
      (fun _ : Exc => Out j) (c.thread j) (c.world, x))
    (hidle : c.thread i = .idle) (hcall : calls i = .install_certificate)
    (hc : ¬ Overtakes calls c (.run i)) : Enters (c.world, x) := by
  intro huntouched
  have hphase := hinv.2
  change x = .uploaded
  cases x with
  | uploaded => rfl
  | asking j =>
      exfalso
      have hself := hstanding i
      rw [hidle] at hself
      have hne : j ≠ i := fun e => hself.1 (congrArg Phase.asking e)
      obtain ⟨conf, hlast, hnot⟩ := huntouched.last
      refine hc ⟨hidle, hcall, ⟨conf, hlast, hnot⟩, j, hne, hphase.2.1, ?_⟩
      by_contra hquiet
      exact ((hstanding j).of_quiet hquiet).1 rfl
  | recorded j => exact absurd hphase huntouched.not_recorded
  | saved => exact absurd hphase.1 huntouched.not_recorded

variable [DecidableEq ι]

/-- **One job.**  In every run after an upload in which no install begins while another awaits
the provisioner for the same configuration, at most one job is started, and its id is what is
stored when no call is in flight. -/
theorem one_job (p : Provisioner) (load : String → Except Exc Nat) (user pemfile_path : String)
    (save_time : Nat) (s s₁ : SecurityState)
    (hupload : (_store_to_db load user pemfile_path save_time).solo p.machine s = some (.ok (), s₁))
    (calls : ι → SecurityCall) (as : List (Act ι Empty))
    (has : Config.Along p.machine (fun i => (calls i).program) (fun c a => ¬ Overtakes calls c a)
      (.start s₁) as) :
    OneJob s₁.jobs (Config.run p.machine (fun i => (calls i).program) (.start s₁) as) := by
  obtain ⟨huntouched, -, hid⟩ := store_to_db_solo hupload
  have hprogram : ∀ i, (oneJob calls s₁.jobs).Triple p.machine i
      (fun a => Out i a ∧ (calls i = .install_certificate → Enters a)) ((calls i).program)
      (fun _ => Out i) fun _ => Out i := by
    intro i
    cases hcall : calls i with
    | install_certificate =>
        exact .map ((install_triple hcall).pre fun _ _ h => ⟨h.1, h.2 rfl⟩)
    | get_certificate_installation_status => exact status_triple.pre fun _ _ h => h.1
  have hmay : ∀ (c : Config ι SecurityOp SecurityOp.Ans SecurityState Exc (Option SecurityConfig))
      (a : Act ι Empty), Config.AtOps (oneJob calls s₁.jobs).may c a := by
    intro c a
    cases a with
    | run i => exact fun _ _ => trivial
    | env r => exact r.elim
  have hboth : Config.Along p.machine (fun i => (calls i).program)
      (fun c a => Config.AtOps (oneJob calls s₁.jobs).may c a ∧ ¬ Overtakes calls c a)
      (.start s₁) as := Config.along_mono (fun c a h => ⟨hmay c a, h⟩) has
  obtain ⟨x, hinv, hstanding⟩ := Contract.Triple.run_entering (fun i => Out.stable)
    (fun i _ => Out.stable) (fun i _ => Out.stable) (fun _ _ r => r.elim) hprogram
    (fun c x i hinv hstanding hidle hc hcall =>
      enters_of_not_overtakes hinv hstanding hidle hcall hc)
    (x := .uploaded) ⟨hid, huntouched, rfl⟩ (fun i => ⟨nofun, nofun⟩) hboth
  obtain ⟨new, hjobs, hlen, hstored⟩ := hinv.2.oneJob
  exact ⟨new, hjobs, hlen, fun hquiet => hstored fun i => (hstanding i).of_quiet (hquiet i)⟩

/-! ## Two installs -/

/-- A provisioner that numbers its jobs, and reports success. -/
def numbering : Provisioner := ⟨fun n => n, fun _ => .Success⟩

def uploadedCertificate : CertificateConfig := ⟨"2a", 7, "admin", "/tmp/cert.pem"⟩

def uploadedConfiguration : SecurityConfig :=
  ⟨CONFIG_ID, uploadedCertificate, uploadedCertificate, none, .NOT_INSTALLED⟩

/-- The state once `uploadedCertificate` has been uploaded into an empty one. -/
def afterUpload : SecurityState :=
  ⟨Table.empty.upsert uploadedCertificate, Table.empty.upsert uploadedConfiguration,
    some uploadedConfiguration, [], 0⟩

/-- An install, and a status query while its job is being stored. -/
theorem one_job_queried :
    OneJob [] (Config.run numbering.machine
      (fun i : Bool => (if i then SecurityCall.get_certificate_installation_status
        else .install_certificate).program) (.start afterUpload)
      ([.run false, .run false, .run false, .run true, .run false] : List (Act Bool Empty))) := by
  refine one_job numbering (fun _ => .ok 42) "admin" "/tmp/cert.pem" 7
    ⟨.empty, .empty, none, [], 0⟩ afterUpload rfl _ _ (Config.along_of_forall (fun c a => ?_) _ _)
  cases a with
  | env r => exact r.elim
  | run i =>
      rintro ⟨-, hi, -, j, hne, hj, -⟩
      cases i with
      | true => cases hi
      | false =>
          cases j with
          | true => cases hj
          | false => exact hne rfl

/-- Both installs find the certificate as it was uploaded. -/
theorem two_jobs : ¬ ∀ (p : Provisioner) (load : String → Except Exc Nat)
    (user pemfile_path : String) (save_time : Nat) (s s₁ : SecurityState),
    (_store_to_db load user pemfile_path save_time).solo p.machine s = some (.ok (), s₁) →
      ∀ (calls : Bool → SecurityCall) (as : List (Act Bool Empty)),
        OneJob s₁.jobs (Config.run p.machine (fun i => (calls i).program) (.start s₁) as) := by
  intro h
  obtain ⟨new, hjobs, hlen, -⟩ := h numbering (fun _ => .ok 42) "admin" "/tmp/cert.pem" 7
    ⟨.empty, .empty, none, [], 0⟩ afterUpload rfl (fun _ => .install_certificate)
    [.run false, .run true, .run false, .run true]
  have htwo : [⟨0, "/tmp/cert.pem"⟩, ⟨1, "/tmp/cert.pem"⟩] = new := hjobs
  rw [← htwo] at hlen
  exact absurd hlen (by decide)

end SecurityService

end CortxCsm
