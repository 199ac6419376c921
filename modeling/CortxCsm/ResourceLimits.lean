/-
# `CortxCsm.ResourceLimits` — the request quota from the limits of the services

`Configure.set_resource_limits` goes through the services that the consumer's configuration
lists and sets the request quota from the memory limit of the one called `agent`.  The branch
that reports a missing agent belongs to the test inside the loop: it is taken at the first
service of another name, and not at all for an empty list.  Nor does the loop stop at an agent:
of several the last one sets the quota.

| | |
| :-- | :-- |
| `ServiceEntry` | one service, its limits as numbers with their units |
| `LimitsRun` | a configuration that lists services |
| `AgentFound` | what the search is for |

**Proved here.**

    a number is read back from its text                      (`int_toString`)
    one turn of the loop                                     (`limit_service_agent`, `…_other`)
    the loop does what it is for exactly on a non-empty list of others, or of agents with
    one quota                                                (`agentFound_iff`)
-/
import CortxCsm.S3Endpoints
import CortxCsm.Lib.Decimal
import CortxCsm.Lib.Raising

namespace CortxCsm

/-! ## Keys and numbers -/

def CSM_LIMITS_SERVICES_KEY : String := "cortx>csm>limits>services"
def CSM_LIMITS_NUM_SERVICES_KEY : String := "cortx>csm>limits>num_services"
def AGENT_REQUEST_QUOTA : String := "CSM_SERVICE>CSM_AGENT>request_quota"
def CSM_USAGE_RESERVED_BUFFER_PERCENT : Int := 5
def MAX_MEM_PER_REQUEST_MB : Int := 2

/-- `const.SETUP_ERROR`. -/
def SETUP_ERROR : String := "SetupError"

/-- `CsmSetupError(desc)`. -/
def csmSetupError (desc : String) : CsmError :=
  ⟨.CsmSetupError, CSM_SETUP_ERROR, some desc, some SETUP_ERROR, none⟩

namespace ResourceLimits

open Decimal (isDigit_toDigits isDigit_or_minus toList_toString)

/-- `f'{const.CSM_LIMITS_SERVICES_KEY}[{count}]>{path}'`. -/
def service_key (count : Nat) (path : String) : String :=
  endpoint_key CSM_LIMITS_SERVICES_KEY count ++ ">" ++ path

/-- `text[:text.find(unit)]`; where nothing is found, `find` gives `-1`. -/
def before (unit : Char) (text : String) : String :=
  if unit ∈ text.toList then String.ofList (text.toList.takeWhile (· ≠ unit))
  else String.ofList text.toList.dropLast

/-- A limit as a number: only a text has a method `find`. -/
def limit_to_int (unit : Char) : Option ConfValue → Except Exc Int
  | some (.str text) => int (some (.str (before unit text)))
  | _ => .error .attributeError

/-- "Convert memory limit from Conf to integer, e.g. '128Mi' -> 128." -/
def _mem_limit_to_int (mem : Option ConfValue) : Except Exc Int := limit_to_int 'M' mem

/-- "Convert CPU limit from Conf string to integer, e.g. '250m' -> 250." -/
def _cpu_limit_to_int (cpu : Option ConfValue) : Except Exc Int := limit_to_int 'm' cpu

/-- The lower memory limit and the limits of the CPU are not used. -/
def _calculate_request_quota (_mem_min mem_max _cpu_min _cpu_max : Int) : Int :=
  let reserved_mem := mem_max * CSM_USAGE_RESERVED_BUFFER_PERCENT / 100
  (mem_max - reserved_mem) / MAX_MEM_PER_REQUEST_MB

/-- The body of the loop. -/
def limit_service (consumer : ConfIndex) (count : Nat) : Raising ConfIndex Exc Unit := do
  let name := consumer.get? (service_key count "name")
  if name = some (.str "agent") then
    let mem_min ← .ofExcept (_mem_limit_to_int (consumer.get? (service_key count "memory>min")))
    let mem_max ← .ofExcept (_mem_limit_to_int (consumer.get? (service_key count "memory>max")))
    let cpu_min ← .ofExcept (_cpu_limit_to_int (consumer.get? (service_key count "cpu>min")))
    let cpu_max ← .ofExcept (_cpu_limit_to_int (consumer.get? (service_key count "cpu>max")))
    let request_quota := _calculate_request_quota mem_min mem_max cpu_min cpu_max
    modify fun csm => Conf.set csm AGENT_REQUEST_QUOTA (some (.int request_quota))
  else throw (.csm (csmSetupError "CSM agent service mem and cpu limits are not found"))

/-- `for count in range(count, count + left)`. -/
def limit_services (consumer : ConfIndex) : (left count : Nat) → Raising ConfIndex Exc Unit
  | 0, _ => pure ()
  | left + 1, count => do
      limit_service consumer count
      limit_services consumer left (count + 1)

/-- `Configure.set_resource_limits`, over the index of CSM. -/
def set_resource_limits (consumer : ConfIndex) : Raising ConfIndex Exc Unit :=
  match int (consumer.get? CSM_LIMITS_NUM_SERVICES_KEY) with
  | .ok count_services => limit_services consumer count_services.toNat 0
  | .error .valueError =>
      throw (.csm (csmSetupError "CSM num_services value is not a valid integer."))
  | .error e => throw e

/-! ## Numbers and their texts -/

theorem moreDigits_digit {c : Char} (hc : c.isDigit = true) (n : Nat) (cs : List Char) :
    moreDigits n (c :: cs) = moreDigits (10 * n + (c.toNat - '0'.toNat)) cs := by
  have hne : c ≠ '_' := by
    rintro rfl
    cases hc
  rw [moreDigits, if_pos hc]
  intro c' cs' h _
  exact hne h

theorem moreDigits_digits : ∀ {cs : List Char} {n : Nat}, (∀ c ∈ cs, c.isDigit = true) →
    moreDigits n cs = some (Nat.ofDigitChars 10 cs n)
  | [], n, _ => rfl
  | c :: cs, n, h => by
      rw [moreDigits_digit (h c List.mem_cons_self), Nat.ofDigitChars_cons,
        moreDigits_digits fun c' hc' => h c' (List.mem_cons_of_mem _ hc')]

theorem decimalDigits_toDigits (n : Nat) : decimalDigits (Nat.toDigits 10 n) = some n := by
  have hdigits : ∀ c ∈ Nat.toDigits 10 n, c.isDigit = true := fun c hc => isDigit_toDigits hc
  have hvalue : Nat.ofDigitChars 10 (Nat.toDigits 10 n) 0 = n := Nat.ofDigitChars_ten_toDigits
  cases hcs : Nat.toDigits 10 n with
  | nil => exact absurd hcs Nat.toDigits_ne_nil
  | cons c cs =>
      rw [hcs] at hdigits hvalue
      rw [decimalDigits, if_pos (hdigits c List.mem_cons_self),
        moreDigits_digits fun c' hc' => hdigits c' (List.mem_cons_of_mem _ hc')]
      rw [Nat.ofDigitChars_cons, Nat.mul_zero, Nat.zero_add] at hvalue
      rw [hvalue]

theorem not_isSpace {n : Int} {c : Char} (h : c ∈ (toString n).toList) : isSpace c = false := by
  rcases isDigit_or_minus h with hc | rfl
  · rw [Char.isDigit_iff_toNat] at hc
    obtain ⟨hlo, hhi⟩ : 48 ≤ c.toNat ∧ c.toNat ≤ 57 := hc
    apply decide_eq_false
    intro hmem
    simp only [List.mem_cons, List.not_mem_nil, or_false] at hmem
    omega
  · decide

/-- A number is read back from its text. -/
theorem int_toString (n : Int) : int (some (.str (toString n))) = .ok n := by
  have hstrip : Text.strip isSpace (toString n) = toString n :=
    Text.strip_of_trimmed (Text.trimmed_of_forall fun c hc => not_isSpace hc)
  rcases toList_toString n with ⟨hn, hlist⟩ | ⟨hn, hlist⟩
  · have hdigits := decimalDigits_toDigits n.toNat
    have hall : ∀ c ∈ Nat.toDigits 10 n.toNat, c.isDigit = true := fun c hc => isDigit_toDigits hc
    cases hcs : Nat.toDigits 10 n.toNat with
    | nil => exact absurd hcs Nat.toDigits_ne_nil
    | cons c cs =>
        rw [hcs] at hdigits hlist
        have hc : c.isDigit = true := hall c (hcs ▸ List.mem_cons_self)
        have hminus : c ≠ '-' := by
          rintro rfl
          cases hc
        have hplus : c ≠ '+' := by
          rintro rfl
          cases hc
        have hvalue : (Int.ofNat n.toNat : Int) = n := Int.toNat_of_nonneg hn
        simp only [int, hstrip, hlist]
        simp [hdigits, hminus, hplus, hn]
  · have hdigits := decimalDigits_toDigits (-n).toNat
    have hvalue : -((-n).toNat : Int) = n := by omega
    unfold int
    simp only [hstrip, hlist, hdigits]
    show Except.ok (-((-n).toNat : Int)) = .ok n
    rw [hvalue]

/-! ## Services -/

/-- The units of a memory limit. -/
inductive MemUnit
  | M
  | Mi

def MemUnit.text : MemUnit → String
  | .M => "M"
  | .Mi => "Mi"

/-- A service that is listed. -/
structure ServiceEntry where
  name : String
  mem_min : Int
  mem_min_unit : MemUnit
  mem_max : Int
  mem_max_unit : MemUnit
  cpu_min : Int
  cpu_max : Int

/-- `<n>M` or `<n>Mi`. -/
def memText (n : Int) (unit : MemUnit) : String := toString n ++ unit.text

/-- `<n>m`. -/
def cpuText (n : Int) : String := toString n ++ "m"

def ServiceEntry.quota (s : ServiceEntry) : Int :=
  _calculate_request_quota s.mem_min s.mem_max s.cpu_min s.cpu_max

/-- The configuration has the service at the number `count`. -/
structure Listed (consumer : ConfIndex) (count : Nat) (s : ServiceEntry) : Prop where
  name : consumer.get? (service_key count "name") = some (.str s.name)
  mem_min : consumer.get? (service_key count "memory>min") =
    some (.str (memText s.mem_min s.mem_min_unit))
  mem_max : consumer.get? (service_key count "memory>max") =
    some (.str (memText s.mem_max s.mem_max_unit))
  cpu_min : consumer.get? (service_key count "cpu>min") = some (.str (cpuText s.cpu_min))
  cpu_max : consumer.get? (service_key count "cpu>max") = some (.str (cpuText s.cpu_max))

/-- The configuration has these services at the numbers from `count` on. -/
def ListedFrom (consumer : ConfIndex) (count : Nat) (services : List ServiceEntry) : Prop :=
  ∀ i s, services[i]? = some s → Listed consumer (count + i) s

/-- A configuration that lists services. -/
structure LimitsRun where
  consumer : ConfIndex
  services : List ServiceEntry
  count : int (consumer.get? CSM_LIMITS_NUM_SERVICES_KEY) = .ok services.length
  entries : ListedFrom consumer 0 services

/-- The text before the unit. -/
theorem before_toString (n : Int) {unit : Char} (rest : List Char) (hdigit : unit.isDigit = false)
    (hminus : unit ≠ '-') : before unit (toString n ++ String.ofList (unit :: rest)) = toString n := by
  have hne : ∀ c ∈ (toString n).toList, decide (c ≠ unit) = true := by
    intro c hc
    apply decide_eq_true
    rintro rfl
    rcases isDigit_or_minus hc with hc' | hc'
    · rw [hdigit] at hc'
      cases hc'
    · exact hminus hc'
  have hlist : (toString n ++ String.ofList (unit :: rest)).toList =
      (toString n).toList ++ unit :: rest := by
    rw [String.toList_append, String.toList_ofList]
  unfold before
  rw [hlist, if_pos (List.mem_append_right _ List.mem_cons_self), List.takeWhile_append_of_pos hne,
    List.takeWhile_cons, if_neg (by simp), List.append_nil, String.ofList_toList]

theorem mem_limit_to_int (n : Int) (unit : MemUnit) :
    _mem_limit_to_int (some (.str (memText n unit))) = .ok n := by
  have hbefore : before 'M' (memText n unit) = toString n := by
    cases unit with
    | M => exact before_toString n [] (by decide) (by decide)
    | Mi => exact before_toString n ['i'] (by decide) (by decide)
  show int (some (.str (before 'M' (memText n unit)))) = _
  rw [hbefore, int_toString]

theorem cpu_limit_to_int (n : Int) : _cpu_limit_to_int (some (.str (cpuText n))) = .ok n := by
  have hbefore : before 'm' (cpuText n) = toString n :=
    before_toString n [] (by decide) (by decide)
  show int (some (.str (before 'm' (cpuText n)))) = _
  rw [hbefore, int_toString]

/-! ## The loop -/

section Loop

variable {consumer : ConfIndex} {count : Nat} {s : ServiceEntry}

/-- The turn of an agent sets its quota. -/
theorem limit_service_agent (h : Listed consumer count s) (hname : s.name = "agent")
    (csm : ConfIndex) : limit_service consumer count csm =
      (.ok (), Conf.set csm AGENT_REQUEST_QUOTA (some (.int s.quota))) := by
  have hn : consumer.get? (service_key count "name") = some (.str "agent") := hname ▸ h.name
  simp only [limit_service, hn, if_true, h.mem_min, h.mem_max, h.cpu_min, h.cpu_max,
    mem_limit_to_int, cpu_limit_to_int]
  rfl

/-- The turn of another service reports that there is no agent. -/
theorem limit_service_other (h : Listed consumer count s) (hname : s.name ≠ "agent")
    (csm : ConfIndex) : limit_service consumer count csm =
      (.error (.csm (csmSetupError "CSM agent service mem and cpu limits are not found")), csm) := by
  have hn : consumer.get? (service_key count "name") ≠ some (.str "agent") := by
    rw [h.name]
    intro he
    exact hname (ConfValue.str.inj (Option.some.inj he))
  unfold limit_service
  dsimp only
  rw [if_neg hn]
  rfl

theorem ListedFrom.head {l : List ServiceEntry} (h : ListedFrom consumer count (s :: l)) :
    Listed consumer count s := h 0 s rfl

theorem ListedFrom.tail {l : List ServiceEntry} (h : ListedFrom consumer count (s :: l)) :
    ListedFrom consumer (count + 1) l := by
  intro i s' hi
  have hlist := h (i + 1) s' hi
  rwa [Nat.add_comm i 1, ← Nat.add_assoc] at hlist

theorem limit_services_succ (left : Nat) : limit_services consumer (left + 1) count =
    (limit_service consumer count >>= fun _ => limit_services consumer left (count + 1)) := rfl

/-- The quotas of services, set one after the other. -/
def quotas (l : List ServiceEntry) (csm : ConfIndex) : ConfIndex :=
  l.foldl (fun csm s => Conf.set csm AGENT_REQUEST_QUOTA (some (.int s.quota))) csm

/-- The loop over agents sets their quotas. -/
theorem limit_services_agents {l : List ServiceEntry} : ∀ {count : Nat} {csm : ConfIndex},
    ListedFrom consumer count l → (∀ s ∈ l, s.name = "agent") →
      limit_services consumer l.length count csm = (.ok (), quotas l csm) := by
  induction l with
  | nil =>
      intro count csm _ _
      rfl
  | cons s l ih =>
      intro count csm hlisted hagents
      have hturn := limit_service_agent hlisted.head (hagents s List.mem_cons_self) csm
      rw [List.length_cons, limit_services_succ, Raising.bind_ok hturn,
        ih hlisted.tail fun s' hs' => hagents s' (List.mem_cons_of_mem s hs')]
      rfl

/-- A service of another name makes the loop raise. -/
theorem limit_services_other {l : List ServiceEntry} : ∀ {count : Nat} {csm : ConfIndex},
    ListedFrom consumer count l → (∃ s ∈ l, s.name ≠ "agent") →
      (limit_services consumer l.length count csm).1 =
        .error (.csm (csmSetupError "CSM agent service mem and cpu limits are not found")) := by
  induction l with
  | nil =>
      intro count csm _ hother
      obtain ⟨s, hs, -⟩ := hother
      cases hs
  | cons s l ih =>
      intro count csm hlisted hother
      rw [List.length_cons, limit_services_succ]
      by_cases hname : s.name = "agent"
      · obtain ⟨s', hs', hname'⟩ := hother
        rcases List.mem_cons.mp hs' with rfl | hs'
        · exact absurd hname hname'
        · rw [Raising.bind_ok (limit_service_agent hlisted.head hname csm)]
          exact ih hlisted.tail ⟨s', hs', hname'⟩
      · rw [Raising.bind_error (limit_service_other hlisted.head hname csm)]

end Loop

/-- Nothing but the quota is set. -/
theorem get?_quotas_of_ne {key : String} (hkey : AGENT_REQUEST_QUOTA ≠ key)
    (l : List ServiceEntry) : ∀ csm : ConfIndex, (quotas l csm).get? key = csm.get? key := by
  induction l with
  | nil =>
      intro csm
      rfl
  | cons s l ih =>
      intro csm
      show (quotas l (Conf.set csm AGENT_REQUEST_QUOTA (some (.int s.quota)))).get? key = _
      rw [ih, Upgrade.get?_set, if_neg hkey]

/-- What is set is the quota of one of the services. -/
theorem get?_quotas {l : List ServiceEntry} (hne : l ≠ []) : ∀ csm : ConfIndex,
    ∃ s ∈ l, (quotas l csm).get? AGENT_REQUEST_QUOTA = some (.int s.quota) := by
  induction l with
  | nil => exact absurd rfl hne
  | cons s l ih =>
      intro csm
      cases l with
      | nil =>
          refine ⟨s, List.mem_cons_self, ?_⟩
          show (Conf.set csm AGENT_REQUEST_QUOTA (some (.int s.quota))).get? _ = _
          rw [Upgrade.get?_set, if_pos rfl]
      | cons s' l =>
          obtain ⟨t, ht, hget⟩ := ih (List.cons_ne_nil s' l)
            (Conf.set csm AGENT_REQUEST_QUOTA (some (.int s.quota)))
          exact ⟨t, List.mem_cons_of_mem s ht, hget⟩

/-! ## What the search is for -/

/-- Whichever entry the agent is, its quota is set and nothing else is changed; or there is no
agent, a `CsmSetupError` says so, and nothing is set. -/
def AgentFound (run : LimitsRun) (csm : ConfIndex) : Prop :=
  (∀ s ∈ run.services, s.name = "agent" →
    (set_resource_limits run.consumer csm).1 = .ok () ∧
      (set_resource_limits run.consumer csm).2.get? AGENT_REQUEST_QUOTA = some (.int s.quota) ∧
      ∀ key, AGENT_REQUEST_QUOTA ≠ key →
        (set_resource_limits run.consumer csm).2.get? key = csm.get? key) ∧
  ((∀ s ∈ run.services, s.name ≠ "agent") →
    ∃ desc, set_resource_limits run.consumer csm = (.error (.csm (csmSetupError desc)), csm))

theorem set_resource_limits_eq (run : LimitsRun) :
    set_resource_limits run.consumer = limit_services run.consumer run.services.length 0 := by
  unfold set_resource_limits
  rw [run.count]
  rfl

/-- No bound of the memory lowers the quota by being higher. -/
theorem quota_monotone {mem_max mem_max' : Int} (h : mem_max ≤ mem_max')
    (mem_min cpu_min cpu_max : Int) :
    _calculate_request_quota mem_min mem_max cpu_min cpu_max ≤
      _calculate_request_quota mem_min mem_max' cpu_min cpu_max := by
  simp only [_calculate_request_quota, CSM_USAGE_RESERVED_BUFFER_PERCENT, MAX_MEM_PER_REQUEST_MB]
  omega

theorem quota_nonneg {mem_max : Int} (h : 0 ≤ mem_max) (mem_min cpu_min cpu_max : Int) :
    0 ≤ _calculate_request_quota mem_min mem_max cpu_min cpu_max := by
  simp only [_calculate_request_quota, CSM_USAGE_RESERVED_BUFFER_PERCENT, MAX_MEM_PER_REQUEST_MB]
  omega

/-- All services are agents, and their limits give one quota. -/
def OneAgentQuota (services : List ServiceEntry) : Prop :=
  (∀ s ∈ services, s.name = "agent") ∧ ∀ s ∈ services, ∀ t ∈ services, s.quota = t.quota

/-- The quota is a monotone function of the memory maximum, and the search does what it is for
exactly on lists that have a service and either no agent, or agents of one quota and nothing
else. -/
theorem agentFound_iff (run : LimitsRun) (csm : ConfIndex) :
    (AgentFound run csm ↔
      run.services ≠ [] ∧
        (OneAgentQuota run.services ∨ ∀ s ∈ run.services, s.name ≠ "agent")) ∧
    (∀ mem_min mem_max mem_max' cpu_min cpu_max : Int, mem_max ≤ mem_max' →
      _calculate_request_quota mem_min mem_max cpu_min cpu_max ≤
        _calculate_request_quota mem_min mem_max' cpu_min cpu_max) ∧
    ∀ mem_min mem_max cpu_min cpu_max : Int, 0 ≤ mem_max →
      0 ≤ _calculate_request_quota mem_min mem_max cpu_min cpu_max := by
  refine ⟨?_, fun _ _ _ _ _ h => quota_monotone h _ _ _, fun _ _ _ _ h => quota_nonneg h _ _ _⟩
  unfold AgentFound
  rw [set_resource_limits_eq]
  constructor
  · rintro ⟨hfound, hmissing⟩
    constructor
    · intro hnil
      -- Without a service the loop ends without having raised.
      obtain ⟨desc, hraise⟩ := hmissing (by simp [hnil])
      rw [hnil] at hraise
      cases hraise
    · by_cases hagents : ∀ s ∈ run.services, s.name = "agent"
      · refine .inl ⟨hagents, fun s hs t ht => ?_⟩
        -- One value is set, and it is the quota of either.
        have hset := (hfound s hs (hagents s hs)).2.1.symm.trans
          (hfound t ht (hagents t ht)).2.1
        exact ConfValue.int.inj (Option.some.inj hset)
      · right
        intro s hs hname
        have hother : ∃ s' ∈ run.services, s'.name ≠ "agent" := by
          simpa using hagents
        have hok := (hfound s hs hname).1
        rw [limit_services_other run.entries hother] at hok
        cases hok
  · rintro ⟨hne, ⟨hagents, hquota⟩ | hothers⟩
    · rw [limit_services_agents run.entries hagents]
      constructor
      · intro s hs _
        refine ⟨rfl, ?_, fun key hkey => get?_quotas_of_ne hkey _ csm⟩
        obtain ⟨t, ht, hget⟩ := get?_quotas hne csm
        rw [hquota s hs t ht]
        exact hget
      · intro hothers
        obtain ⟨s, hs⟩ := List.exists_mem_of_ne_nil _ hne
        exact absurd (hagents s hs) (hothers s hs)
    · constructor
      · intro s hs hname
        exact absurd hname (hothers s hs)
      · intro _
        cases hservices : run.services with
        | nil => exact absurd hservices hne
        | cons s l =>
            have hlisted := run.entries
            rw [hservices] at hlisted hothers
            refine ⟨"CSM agent service mem and cpu limits are not found", ?_⟩
            rw [List.length_cons, limit_services_succ]
            exact Raising.bind_error
              (limit_service_other hlisted.head (hothers s List.mem_cons_self) csm)

/-- What the configuration has for a service. -/
def sampleEntry (count : Nat) (s : ServiceEntry) : List (String × ConfValue) :=
  [(service_key count "name", .str s.name),
    (service_key count "memory>min", .str (memText s.mem_min s.mem_min_unit)),
    (service_key count "memory>max", .str (memText s.mem_max s.mem_max_unit)),
    (service_key count "cpu>min", .str (cpuText s.cpu_min)),
    (service_key count "cpu>max", .str (cpuText s.cpu_max))]

def sampleAgent : ServiceEntry := ⟨"agent", 128, .Mi, 256, .Mi, 250, 500⟩

/-- Two agents whose limits differ only in what the quota does not depend on. -/
def twoAgents : LimitsRun where
  consumer := Table.empty.setAll ((CSM_LIMITS_NUM_SERVICES_KEY, .str "2") ::
    (sampleEntry 0 sampleAgent ++ sampleEntry 1 { sampleAgent with mem_min := 64, cpu_max := 900 }))
  services := [sampleAgent, { sampleAgent with mem_min := 64, cpu_max := 900 }]
  count := by rfl
  entries
    | 0, s, hs => by
        cases hs
        exact ⟨by decide +kernel, by decide +kernel, by decide +kernel, by decide +kernel,
          by decide +kernel⟩
    | 1, s, hs => by
        cases hs
        exact ⟨by decide +kernel, by decide +kernel, by decide +kernel, by decide +kernel,
          by decide +kernel⟩

def agentAndOther : LimitsRun where
  consumer := Table.empty.setAll ((CSM_LIMITS_NUM_SERVICES_KEY, .str "2") ::
    (sampleEntry 0 sampleAgent ++ sampleEntry 1 { sampleAgent with name := "haproxy" }))
  services := [sampleAgent, { sampleAgent with name := "haproxy" }]
  count := by rfl
  entries
    | 0, s, hs => by
        cases hs
        exact ⟨by decide +kernel, by decide +kernel, by decide +kernel, by decide +kernel,
          by decide +kernel⟩
    | 1, s, hs => by
        cases hs
        exact ⟨by decide +kernel, by decide +kernel, by decide +kernel, by decide +kernel,
          by decide +kernel⟩

theorem agentFound_iff_twoAgents :
    AgentFound twoAgents Table.empty ∧
      _calculate_request_quota 0 100 0 0 ≤ _calculate_request_quota 0 256 0 0 ∧
        0 ≤ _calculate_request_quota 0 256 0 0 := by
  have h := agentFound_iff twoAgents Table.empty
  have hone : OneAgentQuota twoAgents.services := by
    unfold OneAgentQuota
    decide +kernel
  exact ⟨h.1.mpr ⟨List.cons_ne_nil _ _, .inl hone⟩, h.2.1 0 100 256 0 0 (by decide),
    h.2.2 0 256 0 0 (by decide)⟩

/-- With a service after the agent the quota is set and the setup fails. -/
theorem agent_not_found :
    (∃ s ∈ agentAndOther.services, s.name = "agent") ∧
      (set_resource_limits agentAndOther.consumer Table.empty).1 =
        .error (.csm (csmSetupError "CSM agent service mem and cpu limits are not found")) ∧
      ¬ AgentFound agentAndOther Table.empty := by
  have hagent : ∃ s ∈ agentAndOther.services, s.name = "agent" :=
    ⟨sampleAgent, List.mem_cons_self, rfl⟩
  have hother : ∃ s ∈ agentAndOther.services, s.name ≠ "agent" :=
    ⟨{ sampleAgent with name := "haproxy" }, List.mem_cons_of_mem _ List.mem_cons_self, by
      decide +kernel⟩
  have hraise : (set_resource_limits agentAndOther.consumer Table.empty).1 =
      .error (.csm (csmSetupError "CSM agent service mem and cpu limits are not found")) := by
    rw [set_resource_limits_eq]
    exact limit_services_other agentAndOther.entries hother
  refine ⟨hagent, hraise, fun hfound => ?_⟩
  have hok := (hfound.1 sampleAgent List.mem_cons_self rfl).1
  rw [hraise] at hok
  cases hok

end ResourceLimits

end CortxCsm
