/-
# `CortxCsm.S3Endpoints` — the endpoints of RGW, written and read

`Configure._set_s3_endpoints` copies the endpoints of the cluster configuration into the
index of CSM, each under its number, and passes over those that are missing.
`get_rgw_connection_config` reads them from number 0 on until one is missing, and takes the
first `https` one, or else number 0.  The index stays between two runs of the configuration,
and nothing is ever taken out of it.

    a run writes its list over the slots                          (`EndpointRun.set_s3_info`)
    after several runs a slot keeps the last entry it was given   (`slots_configure`)
    the reader ends, and takes what the scan of the slots says    (`config_of_endsAt`)
    it takes the endpoint of the last list exactly when neither
    a gap nor an older entry is in its way                        (`choice_iff`)
-/
import CortxCsm.ClusterAdmin
import CortxCsm.Lib.Slots
import CortxCsm.Upgrade
import CortxCsm.Validators
import Mathlib.Data.List.ReduceOption

namespace CortxCsm

/-! ## Keys -/

def RGW_NUM_ENDPOINTS_KEY : String := "cortx>rgw>public>num_endpoints"
def RGW_S3_DATA_ENDPOINTS_KEY : String := "cortx>rgw>public>endpoints"
def RGW_S3_AUTH_USER_KEY : String := "cortx>rgw>auth_user"
def RGW_S3_AUTH_ADMIN_KEY : String := "cortx>rgw>auth_admin"
def RGW_S3_AUTH_SECRET_KEY : String := "cortx>rgw>auth_secret"
def RGW_S3_ENDPOINTS : String := "RGW>s3>endpoints"
def RGW_S3_IAM_ADMIN_USER : String := "RGW>s3>iam>admin_user"
def RGW_S3_IAM_ACCESS_KEY : String := "RGW>s3>iam>admin_access_key"
def RGW_S3_IAM_SECRET_KEY : String := "RGW>s3>iam>admin_secret_key"
def CLUSTER_ID_KEY : String := "PROVISIONER>cluster_id"
def KEY_DECRYPTION : String := "DECRYPTION>decrypt_value"

/-- `f'{key}[{count}]'`. -/
def endpoint_key (key : String) (count : Nat) : String := key ++ "[" ++ toString count ++ "]"

/-- The endpoints of an index, by their numbers. -/
def endpointSlots (key : String) (index : ConfIndex) : Slots ConfValue :=
  fun count => index.get? (endpoint_key key count)

/-! ## `int` -/

/-- The digits after a digit; one underscore may stand between two digits. -/
def moreDigits (n : Nat) : List Char → Option Nat
  | [] => some n
  | '_' :: c :: cs => if c.isDigit then moreDigits (10 * n + (c.toNat - '0'.toNat)) cs else none
  | c :: cs => if c.isDigit then moreDigits (10 * n + (c.toNat - '0'.toNat)) cs else none

def decimalDigits : List Char → Option Nat
  | [] => none
  | c :: cs => if c.isDigit then moreDigits (c.toNat - '0'.toNat) cs else none

/-- `int(value)`, for texts with ASCII digits. -/
def int : Option ConfValue → Except Exc Int
  | some (.int n) => .ok n
  | some (.bool b) => .ok (if b then 1 else 0)
  | some (.float q) => .ok (q.num.tdiv q.den)
  | some (.str text) =>
      let number := match (Text.strip isSpace text).toList with
        | '-' :: cs => (decimalDigits cs).map fun n => -(n : Int)
        | '+' :: cs => (decimalDigits cs).map Int.ofNat
        | cs => (decimalDigits cs).map Int.ofNat
      match number with
      | some n => .ok n
      | none => .error .valueError
  | none => .error .typeError

theorem truthy_str {text : String} : Conf.truthy (some (.str text)) ↔ text ≠ "" := by
  constructor
  · rintro ⟨v, hv, hne, _⟩ rfl
    obtain rfl := Option.some.inj hv
    exact hne rfl
  · intro hne
    refine ⟨.str text, rfl, ?_, by simp [ConfValue.compared]⟩
    intro he
    exact hne (Sum.inl.inj he)

theorem not_truthy_none : ¬ Conf.truthy none := by
  rintro ⟨v, hv, _⟩
  cases hv

/-! ## The writer -/

namespace Configure

/-- One turn of the loop; the flag is `result`. -/
def copy_endpoint (consumer : ConfIndex) (st : Bool × ConfIndex) (count : Nat) :
    Bool × ConfIndex :=
  let endpoint := consumer.get? (endpoint_key RGW_S3_DATA_ENDPOINTS_KEY count)
  if Conf.truthy endpoint then
    (true, Conf.set st.2 (endpoint_key RGW_S3_ENDPOINTS count) endpoint)
  else st

/-- `_set_s3_endpoints`, with the index of CSM after it. -/
def _set_s3_endpoints (consumer csm : ConfIndex) : Except SetupExc Unit × ConfIndex :=
  match int (consumer.get? RGW_NUM_ENDPOINTS_KEY) with
  | .error .valueError =>
      (.error (.csmSetupError "Rgw num_endpoints value is not a valid integer."), csm)
  | .error _ => (.error .typeError, csm)
  | .ok count_endpoints =>
      let (result, csm) :=
        (List.range count_endpoints.toNat).foldl (copy_endpoint consumer) (false, csm)
      if !result then (.error (.csmSetupError "S3 endpoint not found."), csm) else (.ok (), csm)

def _set_s3_info (consumer csm : ConfIndex) : Except SetupExc Unit × ConfIndex :=
  match _set_s3_endpoints consumer csm with
  | (.error e, csm) => (.error e, csm)
  | (.ok (), csm) =>
      let s3_auth_user := consumer.get? RGW_S3_AUTH_USER_KEY
      let s3_auth_admin := consumer.get? RGW_S3_AUTH_ADMIN_KEY
      let s3_auth_secret := consumer.get? RGW_S3_AUTH_SECRET_KEY
      let csm := Conf.set csm RGW_S3_IAM_ADMIN_USER s3_auth_user
      let csm := Conf.set csm RGW_S3_IAM_ACCESS_KEY s3_auth_admin
      let csm := Conf.set csm RGW_S3_IAM_SECRET_KEY s3_auth_secret
      (.ok (), csm)

end Configure

/-! ## What the writer leaves -/

/-- Two numbers with one text are one number. -/
theorem repr_inj {n m : Nat} (h : n.repr = m.repr) : n = m := by
  have hlist := congrArg String.toList h
  rw [Nat.toList_repr, Nat.toList_repr] at hlist
  have hvalue := congrArg (Nat.ofDigitChars 10 · 0) hlist
  simpa using hvalue

theorem endpoint_key_inj {key : String} {count count' : Nat}
    (h : endpoint_key key count = endpoint_key key count') : count = count' := by
  have hlist := congrArg String.toList h
  simp only [endpoint_key, String.toList_append] at hlist
  have hrepr := List.append_cancel_left (List.append_cancel_right hlist)
  exact repr_inj (String.toList_inj.mp hrepr)

/-- The keys of the credentials are no keys of endpoints. -/
theorem ne_endpoint_key {key : String} (h : key.toList.take 8 ≠ "RGW>s3>e".toList) (count : Nat) :
    endpoint_key RGW_S3_ENDPOINTS count ≠ key := by
  rintro rfl
  refine h ?_
  simp only [endpoint_key, String.toList_append, List.append_assoc]
  rfl

/-- Storing under another key leaves the endpoints. -/
theorem slots_set_other {key : String} (h : key.toList.take 8 ≠ "RGW>s3>e".toList)
    (csm : ConfIndex) (value : Option ConfValue) :
    endpointSlots RGW_S3_ENDPOINTS (Conf.set csm key value) =
      endpointSlots RGW_S3_ENDPOINTS csm := by
  funext count
  rw [endpointSlots, Upgrade.get?_set, if_neg (Ne.symm (ne_endpoint_key h count))]
  rfl

namespace Configure

variable (consumer csm : ConfIndex)

/-- Whether the cluster configuration has an endpoint under the number. -/
def Supplied (count : Nat) : Prop :=
  Conf.truthy (consumer.get? (endpoint_key RGW_S3_DATA_ENDPOINTS_KEY count))

instance : DecidablePred (Supplied consumer) :=
  fun count => inferInstanceAs
    (Decidable (Conf.truthy (consumer.get? (endpoint_key RGW_S3_DATA_ENDPOINTS_KEY count))))

/-- The state of the loop after `n` turns: what was there, and on top of it what was
supplied. -/
structure Copied (n : Nat) (st : Bool × ConfIndex) : Prop where
  result : st.1 = true ↔ ∃ count < n, Supplied consumer count
  slots : ∀ count, endpointSlots RGW_S3_ENDPOINTS st.2 count =
    if count < n ∧ Supplied consumer count then
      endpointSlots RGW_S3_DATA_ENDPOINTS_KEY consumer count
    else endpointSlots RGW_S3_ENDPOINTS csm count
  others : ∀ key, (∀ count, endpoint_key RGW_S3_ENDPOINTS count ≠ key) →
    st.2.get? key = csm.get? key

theorem copied_zero : Copied consumer csm 0 (false, csm) where
  result := by simp
  slots count := by simp
  others key _ := rfl

variable {consumer csm}

/-- One turn. -/
theorem Copied.step {n : Nat} {st : Bool × ConfIndex} (h : Copied consumer csm n st) :
    Copied consumer csm (n + 1) (copy_endpoint consumer st n) := by
  have hlt : ∀ count, count < n + 1 ↔ count < n ∨ count = n := by omega
  by_cases hn : Supplied consumer n
  · have hturn : copy_endpoint consumer st n = (true, Conf.set st.2 (endpoint_key RGW_S3_ENDPOINTS n)
        (endpointSlots RGW_S3_DATA_ENDPOINTS_KEY consumer n)) := if_pos hn
    rw [hturn]
    refine ⟨iff_of_true rfl ⟨n, Nat.lt_succ_self n, hn⟩, ?_, ?_⟩
    · intro count
      rw [endpointSlots, Upgrade.get?_set]
      by_cases hcount : n = count
      · subst hcount
        simp [hn, endpointSlots]
      · rw [if_neg fun e => hcount (endpoint_key_inj e)]
        refine (h.slots count).trans ?_
        simp [hlt, Ne.symm hcount]
    · intro key hkey
      rw [Upgrade.get?_set, if_neg (hkey n), h.others key hkey]
  · have hturn : copy_endpoint consumer st n = st := if_neg hn
    rw [hturn]
    refine ⟨?_, ?_, h.others⟩
    · rw [h.result]
      constructor
      · rintro ⟨count, hcount, hs⟩
        exact ⟨count, by omega, hs⟩
      · rintro ⟨count, hcount, hs⟩
        rcases (hlt count).mp hcount with hcount | rfl
        · exact ⟨count, hcount, hs⟩
        · exact absurd hs hn
    · intro count
      refine (h.slots count).trans ?_
      by_cases hcount : count = n
      · subst hcount
        simp [hn]
      · simp [hlt, hcount]

variable (consumer csm) in
theorem copied (n : Nat) : Copied consumer csm n
    ((List.range n).foldl (copy_endpoint consumer) (false, csm)) := by
  induction n with
  | zero => exact copied_zero consumer csm
  | succ n ih =>
      rw [List.range_succ, List.foldl_append]
      exact ih.step

variable (csm) in
theorem set_s3_endpoints_ok {n : Nat} (hcount : int (consumer.get? RGW_NUM_ENDPOINTS_KEY) = .ok n)
    (hsome : ∃ count < n, Supplied consumer count) :
    ∃ st, Copied consumer csm n st ∧ _set_s3_endpoints consumer csm = (.ok (), st.2) := by
  refine ⟨_, copied consumer csm n, ?_⟩
  have hresult := (copied consumer csm n).result.mpr hsome
  rw [_set_s3_endpoints, hcount]
  simp [hresult]

variable (csm) in
theorem copy_none {n : Nat} (hnone : ∀ count < n, ¬ Supplied consumer count) :
    (List.range n).foldl (copy_endpoint consumer) (false, csm) = (false, csm) := by
  induction n with
  | zero => rfl
  | succ n ih =>
      rw [List.range_succ, List.foldl_append, ih fun count h => hnone count (by omega)]
      exact if_neg (hnone n (Nat.lt_succ_self n))

/-- A run that raises has written nothing. -/
theorem set_s3_endpoints_error {e : SetupExc}
    (h : (_set_s3_endpoints consumer csm).1 = .error e) :
    (_set_s3_endpoints consumer csm).2 = csm := by
  rw [_set_s3_endpoints] at h ⊢
  cases hcount : int (consumer.get? RGW_NUM_ENDPOINTS_KEY) with
  | error e =>
      -- the index is handed back whichever exception it is
      cases e <;> rfl
  | ok count_endpoints =>
      have hst := copied consumer csm count_endpoints.toNat
      by_cases hsome : ∃ count < count_endpoints.toNat, Supplied consumer count
      · simp [hcount, hst.result.mpr hsome] at h
      · have hnone := copy_none csm fun count hlt hs => hsome ⟨count, hlt, hs⟩
        simp [hnone]

end Configure

/-! ## Runs of the configuration -/

/-- A run, and the endpoints that the cluster configuration has for it: texts that are not
empty, or missing, and one at least is there. -/
structure EndpointRun where
  consumer : ConfIndex
  endpoints : List (Option String)
  count : int (consumer.get? RGW_NUM_ENDPOINTS_KEY) = .ok endpoints.length
  entries : ∀ count < endpoints.length,
    consumer.get? (endpoint_key RGW_S3_DATA_ENDPOINTS_KEY count) =
      (endpoints[count]?.join).map .str
  urls : some "" ∉ endpoints
  present : ∃ ep, some ep ∈ endpoints
  secret : ∃ secret, consumer.get? RGW_S3_AUTH_SECRET_KEY = some (.str secret)

namespace EndpointRun

variable (run : EndpointRun)

/-- What is supplied is what is there. -/
theorem supplied_iff {count : Nat} (h : count < run.endpoints.length) :
    Configure.Supplied run.consumer count ↔ ∃ ep, run.endpoints[count]? = some (some ep) := by
  rw [Configure.Supplied, run.entries count h]
  have hget := List.getElem?_eq_getElem h
  rw [hget]
  cases hep : run.endpoints[count] with
  | none => exact iff_of_false not_truthy_none (by simp)
  | some ep =>
      refine iff_of_true (truthy_str.mpr ?_) ⟨ep, rfl⟩
      rintro rfl
      exact run.urls (hep ▸ List.getElem_mem h)

theorem exists_supplied :
    ∃ count < run.endpoints.length, Configure.Supplied run.consumer count := by
  obtain ⟨ep, hep⟩ := run.present
  obtain ⟨count, hcount⟩ := List.mem_iff_getElem?.mp hep
  have hlt : count < run.endpoints.length := (List.getElem?_eq_some_iff.mp hcount).1
  exact ⟨count, hlt, (run.supplied_iff hlt).mpr ⟨ep, hcount⟩⟩

/-- A run ends without an error, its list lies over the slots, and the secret is stored. -/
theorem set_s3_info (csm : ConfIndex) : ∃ csm',
    Configure._set_s3_info run.consumer csm = (.ok (), csm') ∧
      endpointSlots RGW_S3_ENDPOINTS csm' =
        (endpointSlots RGW_S3_ENDPOINTS csm).overlay (run.endpoints.map (Option.map .str)) ∧
      ∃ secret, csm'.get? RGW_S3_IAM_SECRET_KEY = some (.str secret) := by
  obtain ⟨st, hst, hok⟩ :=
    Configure.set_s3_endpoints_ok csm run.count run.exists_supplied
  rw [Configure._set_s3_info, hok]
  refine ⟨_, rfl, ?_, ?_⟩
  · rw [slots_set_other (by decide), slots_set_other (by decide), slots_set_other (by decide)]
    funext count
    refine (hst.slots count).trans ?_
    rw [Slots.overlay, List.getElem?_map]
    split
    · rename_i h
      obtain ⟨ep, hep⟩ := (run.supplied_iff h.1).mp h.2
      rw [endpointSlots, run.entries count h.1, hep]
      rfl
    · rename_i h
      cases hep : run.endpoints[count]? with
      | none => rfl
      | some entry =>
          cases entry with
          | none => rfl
          | some ep =>
              have hlt : count < run.endpoints.length := (List.getElem?_eq_some_iff.mp hep).1
              exact absurd ⟨hlt, (run.supplied_iff hlt).mpr ⟨ep, hep⟩⟩ h
  · obtain ⟨secret, hsecret⟩ := run.secret
    refine ⟨secret, ?_⟩
    rw [Upgrade.get?_set, if_pos rfl, hsecret]

end EndpointRun

/-- The index of CSM after these runs. -/
def configure (runs : List EndpointRun) (csm : ConfIndex) : ConfIndex :=
  runs.foldl (fun csm run => (Configure._set_s3_info run.consumer csm).2) csm

theorem configure_concat (runs : List EndpointRun) (run : EndpointRun) (csm : ConfIndex) :
    configure (runs ++ [run]) csm =
      (Configure._set_s3_info run.consumer (configure runs csm)).2 := by
  rw [configure, List.foldl_append]
  rfl

/-- After the runs every slot keeps the last entry that a list had for it. -/
theorem slots_configure {csm : ConfIndex} (hcsm : ∀ count, endpointSlots RGW_S3_ENDPOINTS csm count = none)
    (runs : List EndpointRun) : endpointSlots RGW_S3_ENDPOINTS (configure runs csm) =
      (Slots.latest (runs.map EndpointRun.endpoints)).map .str := by
  induction runs using List.reverseRecOn with
  | nil => exact funext hcsm
  | append_singleton runs run ih =>
      obtain ⟨csm', hrun, hslots, _⟩ := run.set_s3_info (configure runs csm)
      rw [configure_concat, hrun, hslots, ih, Slots.map_overlay, List.map_append,
        List.map_singleton, Slots.latest_concat]

/-! ## The reader -/

structure RgwConnectionConfig where
  url : Option ConfValue
  auth_user : Option ConfValue
  auth_user_access_key : Option ConfValue
  auth_user_secret_key : Option String

section

variable [Runtime]

/-- `ep.lower().startswith('https')`. -/
def https (ep : String) : Bool := "https".toList.isPrefixOf (lower ep).toList

namespace CsmRgwConfigurationFactory

/-- `Security.decrypt` of a secret, with the cluster id and the decryption key; `none` where
it raises `CipherInvalidToken`. -/
abbrev Decrypt := String → Option ConfValue → Option ConfValue → Option String

def _get_decrypted_secret_key (decrypt : Decrypt) (csm : ConfIndex) :
    Except Exc (Option String) :=
  match csm.get? RGW_S3_IAM_SECRET_KEY with
  | some (.str auth_user_secret_key) =>
      .ok (decrypt auth_user_secret_key (csm.get? CLUSTER_ID_KEY) (csm.get? KEY_DECRYPTION))
  | _ => .error .attributeError

/-- Whether the loop stops at an endpoint: it is an `https` one, or has no `lower`. -/
def stops : ConfValue → Bool
  | .str ep => https ep
  | _ => true

/-- `none` if the loop does not end in as many turns. -/
def endpoint_loop (fuel : Nat) (csm : ConfIndex) : Option (Option ConfValue) :=
  Slots.scan stops (endpointSlots RGW_S3_ENDPOINTS csm) fuel 0

/-- What follows the loop. -/
def connection_config (decrypt : Decrypt) (csm : ConfIndex) (https_endpoint : Option ConfValue) :
    Except Exc RgwConnectionConfig :=
  let default_endpoint := csm.get? (endpoint_key RGW_S3_ENDPOINTS 0)
  (_get_decrypted_secret_key decrypt csm).map fun auth_user_secret_key =>
    { url := if Conf.truthy https_endpoint then https_endpoint else default_endpoint
      auth_user := csm.get? RGW_S3_IAM_ADMIN_USER
      auth_user_access_key := csm.get? RGW_S3_IAM_ACCESS_KEY
      auth_user_secret_key := auth_user_secret_key }

/-- `none` would be a loop without end (`endpoint_loop_ends`). -/
def get_rgw_connection_config (decrypt : Decrypt) (csm : ConfIndex) :
    Option (Except Exc RgwConnectionConfig) :=
  (endpoint_loop (csm.len + 1) csm).map fun
    | none => connection_config decrypt csm none
    | some (.str ep) => connection_config decrypt csm (some (.str ep))
    | some _ => .error .attributeError

omit [Runtime] in
/-- Some number up to the size of the index has no endpoint. -/
theorem exists_gap (csm : ConfIndex) :
    ∃ count, count < csm.len + 1 ∧ endpointSlots RGW_S3_ENDPOINTS csm count = none := by
  by_contra hall
  have hkeys : ((List.range (csm.len + 1)).map (endpoint_key RGW_S3_ENDPOINTS)) ⊆ csm.keys := by
    intro key hkey
    obtain ⟨count, hcount, rfl⟩ := List.mem_map.mp hkey
    by_contra hnot
    exact hall ⟨count, List.mem_range.mp hcount, Table.get?_eq_none.mpr hnot⟩
  have hnodup : ((List.range (csm.len + 1)).map (endpoint_key RGW_S3_ENDPOINTS)).Nodup :=
    List.Nodup.map (fun _ _ => endpoint_key_inj) List.nodup_range
  have hlength := (List.subperm_of_subset hnodup hkeys).length_le
  rw [List.length_map, List.length_range, Table.length_keys] at hlength
  omega

theorem endpoint_loop_ends (csm : ConfIndex) : (endpoint_loop (csm.len + 1) csm).isSome := by
  obtain ⟨gap, hlt, hgap⟩ := exists_gap csm
  exact Slots.scan_isSome hgap hlt

omit [Runtime] in
theorem connection_config_ok (decrypt : Decrypt) {csm : ConfIndex}
    (hsecret : ∃ secret, csm.get? RGW_S3_IAM_SECRET_KEY = some (.str secret))
    (https_endpoint : Option ConfValue) :
    ∃ config, connection_config decrypt csm https_endpoint = .ok config ∧
      config.url = if Conf.truthy https_endpoint then https_endpoint
        else csm.get? (endpoint_key RGW_S3_ENDPOINTS 0) := by
  obtain ⟨secret, hsecret⟩ := hsecret
  rw [connection_config, _get_decrypted_secret_key, hsecret]
  exact ⟨_, rfl, rfl⟩

/-- Where the entries are texts and not empty, the reader takes the one that the scan ends
at, or the first. -/
theorem config_of_endsAt (decrypt : Decrypt) {csm : ConfIndex} {kept : Slots String}
    (hslots : endpointSlots RGW_S3_ENDPOINTS csm = kept.map .str)
    (hurls : ∀ count, kept count ≠ some "")
    (hsecret : ∃ secret, csm.get? RGW_S3_IAM_SECRET_KEY = some (.str secret))
    {count : Nat} {r : Option String} (h : Slots.EndsAt https kept count r) :
    ∃ config, get_rgw_connection_config decrypt csm = some (.ok config) ∧
      config.url = (r.or (kept 0)).map .str := by
  have hloop : endpoint_loop (csm.len + 1) csm = some (r.map .str) := by
    obtain ⟨gap, hlt, hgap⟩ := exists_gap csm
    refine (Slots.scan_eq_some_iff hgap hlt).mpr ⟨count, ?_⟩
    rw [hslots]
    exact Slots.EndsAt.map (q := stops) (g := .str) h
  have hdefault : csm.get? (endpoint_key RGW_S3_ENDPOINTS 0) = (kept 0).map .str :=
    congrFun hslots 0
  rw [get_rgw_connection_config, hloop]
  cases r with
  | none =>
      obtain ⟨config, hconfig, hurl⟩ := connection_config_ok decrypt hsecret none
      refine ⟨config, congrArg some hconfig, ?_⟩
      rw [hurl, if_neg not_truthy_none, hdefault, Option.none_or]
  | some ep =>
      obtain ⟨config, hconfig, hurl⟩ := connection_config_ok decrypt hsecret (some (.str ep))
      refine ⟨config, congrArg some hconfig, ?_⟩
      have htruthy : Conf.truthy (some (.str ep)) := by
        refine truthy_str.mpr ?_
        rintro rfl
        exact hurls count h.holds
      rw [hurl, if_pos htruthy, Option.some_or]
      rfl

end CsmRgwConfigurationFactory

/-! ## What is asked of the two -/

/-- The endpoints of a list that are there, in its order. -/
def presentEndpoints (endpoints : List (Option String)) : List String := endpoints.reduceOption

/-- The first `https` endpoint of the list, or else its first. -/
def wanted (endpoints : List (Option String)) : Option String :=
  ((presentEndpoints endpoints).find? https).or (presentEndpoints endpoints).head?

/-- The endpoint chosen is the right one of the last list. -/
structure Agrees (endpoints : List (Option String)) (url : Option ConfValue) : Prop where
  chosen : url = (wanted endpoints).map .str
  listed : ∀ ep, url = some (.str ep) → some ep ∈ endpoints
  found : url ≠ none

/-- Neither a gap nor an older entry is in the way of the last list.  With an `https`
endpoint in it, the first of these is kept under some number, every number before has an
entry, and none of those is `https`; with none, number 0 keeps the first endpoint of the
list, and no entry that has entries under all numbers before it is `https`. -/
def Clear (lists : List (List (Option String))) (last : List (Option String)) : Prop :=
  match (presentEndpoints last).find? https with
  | some ep => ∃ count, Slots.latest lists count = some ep ∧
      ∀ before < count, ∃ other, Slots.latest lists before = some other ∧ https other = false
  | none => Slots.latest lists 0 = (presentEndpoints last).head? ∧
      ∀ count ep, (∀ before < count, Slots.latest lists before ≠ none) →
        Slots.latest lists count = some ep → https ep = false

omit [Runtime] in
theorem mem_presentEndpoints {endpoints : List (Option String)} {ep : String} :
    ep ∈ presentEndpoints endpoints ↔ some ep ∈ endpoints := List.reduceOption_mem_iff

section

variable {lists : List (List (Option String))} {last : List (Option String)} {count : Nat}
  {r : Option String}

/-- What was chosen is the endpoint wanted. -/
theorem Agrees.eq_of_wanted {ep : String} (hwanted : wanted last = some ep)
    (h : Agrees last ((r.or (Slots.latest lists 0)).map .str)) :
    r.or (Slots.latest lists 0) = some ep := by
  have hinj : Function.Injective (Option.map ConfValue.str) :=
    Option.map_injective fun _ _ => ConfValue.str.inj
  exact hinj (h.chosen.trans (congrArg _ hwanted))

theorem agrees_of_wanted {ep : String} (hwanted : wanted last = some ep)
    (hmem : ep ∈ presentEndpoints last) : Agrees last ((some ep).map .str) where
  chosen := by rw [hwanted]
  listed other hother := by
    obtain rfl : ep = other := by simpa using hother
    exact mem_presentEndpoints.mp hmem
  found := by simp

/-- The choice where the last list has an `https` endpoint, the first being `ep`. -/
theorem agrees_iff_of_https {ep : String}
    (hfind : (presentEndpoints last).find? https = some ep)
    (h : Slots.EndsAt https (Slots.latest lists) count r) :
    Agrees last ((r.or (Slots.latest lists 0)).map .str) ↔
      ∃ count, Slots.latest lists count = some ep ∧
        ∀ before < count, ∃ other, Slots.latest lists before = some other ∧
          https other = false := by
  have hwanted : wanted last = some ep := by rw [wanted, hfind, Option.some_or]
  have hhttps : https ep = true := List.find?_some hfind
  constructor
  · intro hagrees
    have hchosen := hagrees.eq_of_wanted hwanted
    cases r with
    | some other =>
        obtain rfl := Option.some.inj hchosen
        exact ⟨count, h.holds, h.before⟩
    | none =>
        -- number 0 would be `https`, and the scan would have ended there
        rw [Option.none_or] at hchosen
        rcases Nat.eq_zero_or_pos count with rfl | hpos
        · cases h.holds.symm.trans hchosen
        · obtain ⟨other, hother, hno⟩ := h.before 0 hpos
          obtain rfl := Option.some.inj (hother.symm.trans hchosen)
          rw [hhttps] at hno
          cases hno
  · rintro ⟨count', hkept, hbefore⟩
    have h' : Slots.EndsAt https (Slots.latest lists) count' (some ep) := by
      refine ⟨hbefore, hkept, ?_⟩
      intro other hother
      exact Option.some.inj hother ▸ hhttps
    obtain ⟨rfl, rfl⟩ := h.unique h'
    exact agrees_of_wanted hwanted (List.mem_of_find?_eq_some hfind)

/-- The choice where it has none, and `ep` is its first endpoint. -/
theorem agrees_iff_of_no_https {ep : String} (hfind : (presentEndpoints last).find? https = none)
    (hhead : (presentEndpoints last).head? = some ep)
    (h : Slots.EndsAt https (Slots.latest lists) count r) :
    Agrees last ((r.or (Slots.latest lists 0)).map .str) ↔
      Slots.latest lists 0 = some ep ∧
        ∀ count ep, (∀ before < count, Slots.latest lists before ≠ none) →
          Slots.latest lists count = some ep → https ep = false := by
  have hmem : ep ∈ presentEndpoints last := List.mem_of_mem_head? hhead
  have hno : https ep = false := by simpa using List.find?_eq_none.mp hfind ep hmem
  have hwanted : wanted last = some ep := by rw [wanted, hfind, Option.none_or, hhead]
  constructor
  · intro hagrees
    have hchosen := hagrees.eq_of_wanted hwanted
    cases r with
    | some other =>
        obtain rfl := Option.some.inj hchosen
        rw [h.accepted _ rfl] at hno
        cases hno
    | none =>
        refine ⟨hchosen, ?_⟩
        intro count' other hbefore hkept
        rcases lt_trichotomy count' count with hlt | rfl | hgt
        · obtain ⟨other', hother', hno'⟩ := h.before count' hlt
          exact Option.some.inj (hother'.symm.trans hkept) ▸ hno'
        · cases h.holds.symm.trans hkept
        · exact absurd h.holds (hbefore count hgt)
  · rintro ⟨hzero, hnone⟩
    cases r with
    | some other =>
        have hbefore : ∀ before < count, Slots.latest lists before ≠ none := by
          intro before hlt
          obtain ⟨other', hother', _⟩ := h.before before hlt
          simp [hother']
        have hother := hnone count other hbefore h.holds
        rw [h.accepted other rfl] at hother
        cases hother
    | none =>
        rw [Option.none_or, hzero]
        exact agrees_of_wanted hwanted hmem

/-- The choice from what is kept, and the last list. -/
theorem agrees_iff_clear (hpresent : ∃ ep, some ep ∈ last)
    (h : Slots.EndsAt https (Slots.latest lists) count r) :
    Agrees last ((r.or (Slots.latest lists 0)).map .str) ↔ Clear lists last := by
  rw [Clear]
  cases hfind : (presentEndpoints last).find? https with
  | some ep => exact agrees_iff_of_https hfind h
  | none =>
      cases hhead : (presentEndpoints last).head? with
      | some ep => exact agrees_iff_of_no_https hfind hhead h
      | none =>
          obtain ⟨ep, hep⟩ := hpresent
          have hmem := mem_presentEndpoints.mpr hep
          rw [List.head?_eq_none_iff.mp hhead] at hmem
          cases hmem

end

/-- A last list without holes that no older one is longer than has nothing in its way. -/
theorem clear_of_full {lists : List (List (Option String))} {last : List String}
    (hlists : ∀ l ∈ lists, l.length ≤ last.length) :
    Clear (lists ++ [last.map some]) (last.map some) := by
  have hpresent : presentEndpoints (last.map some) = last := by simp [presentEndpoints, List.reduceOption, List.filterMap_map]
  have hkept : ∀ count, Slots.latest (lists ++ [last.map some]) count = last[count]? := by
    intro count
    rw [Slots.latest_concat, Slots.overlay, List.getElem?_map]
    cases hlast : last[count]? with
    | some ep => rfl
    | none =>
        cases hold : Slots.latest lists count with
        | none => rfl
        | some ep =>
            obtain ⟨l, hl, hget⟩ := Slots.mem_of_latest lists hold
            have hlt : count < l.length := (List.getElem?_eq_some_iff.mp hget).1
            have hge : last.length ≤ count := List.getElem?_eq_none_iff.mp hlast
            have hle := hlists l hl
            omega
  rw [Clear, hpresent]
  cases hfind : last.find? https with
  | some ep =>
      obtain ⟨_, count, hlt, hget, hbefore⟩ := List.find?_eq_some_iff_getElem.mp hfind
      refine ⟨count, ?_, ?_⟩
      · rw [hkept, List.getElem?_eq_getElem hlt, hget]
      · intro before hb
        refine ⟨last[before], ?_, by simpa using hbefore before hb⟩
        rw [hkept, List.getElem?_eq_getElem]
  | none =>
      refine ⟨by rw [hkept, List.head?_eq_getElem?], ?_⟩
      intro count ep _ hget
      rw [hkept] at hget
      simpa using List.find?_eq_none.mp hfind ep (List.mem_of_getElem? hget)

/-- After any runs and a last one, the reader takes the endpoint of the last list exactly
when nothing is in its way. -/
theorem choice_iff (decrypt : CsmRgwConfigurationFactory.Decrypt) (csm : ConfIndex)
    (hcsm : ∀ count, endpointSlots RGW_S3_ENDPOINTS csm count = none) (runs : List EndpointRun)
    (final : EndpointRun) :
    (∃ config, CsmRgwConfigurationFactory.get_rgw_connection_config decrypt
        (configure (runs ++ [final]) csm) = some (.ok config) ∧
      Agrees final.endpoints config.url) ↔
    Clear ((runs ++ [final]).map EndpointRun.endpoints) final.endpoints := by
  have hslots := slots_configure hcsm (runs ++ [final])
  have hurls : ∀ count, Slots.latest ((runs ++ [final]).map EndpointRun.endpoints) count ≠ some "" := by
    intro count hkept
    obtain ⟨l, hl, hempty⟩ := Slots.mem_of_latest _ hkept
    obtain ⟨run, _, rfl⟩ := List.mem_map.mp hl
    exact run.urls (List.mem_of_getElem? hempty)
  have hsecret : ∃ secret, (configure (runs ++ [final]) csm).get? RGW_S3_IAM_SECRET_KEY =
      some (.str secret) := by
    obtain ⟨csm', hrun, _, hsecret⟩ := final.set_s3_info (configure runs csm)
    rw [configure_concat, hrun]
    exact hsecret
  obtain ⟨gap, _, hgap⟩ := CsmRgwConfigurationFactory.exists_gap (configure (runs ++ [final]) csm)
  have hkeptgap : Slots.latest ((runs ++ [final]).map EndpointRun.endpoints) gap = none := by
    rw [hslots] at hgap
    exact Option.map_eq_none_iff.mp hgap
  obtain ⟨count, _, r, hends⟩ := Slots.exists_endsAt (p := https) hkeptgap
  obtain ⟨config, hconfig, hurl⟩ :=
    CsmRgwConfigurationFactory.config_of_endsAt decrypt hslots hurls hsecret hends
  rw [← agrees_iff_clear final.present hends, ← hurl]
  constructor
  · rintro ⟨config', hconfig', hagrees⟩
    rw [hconfig] at hconfig'
    obtain rfl := Except.ok.inj (Option.some.inj hconfig')
    exact hagrees
  · intro hagrees
    exact ⟨config, hconfig, hagrees⟩

end

/-! ## Two runs on an empty index -/

/-- The cluster configuration with these entries. -/
def sampleConsumer (count : String) (entries : List (String × String)) : ConfIndex :=
  Table.empty.setAll ([(RGW_NUM_ENDPOINTS_KEY, .str count),
    (RGW_S3_AUTH_SECRET_KEY, .str "gAAA")] ++
      entries.map fun entry => (RGW_S3_DATA_ENDPOINTS_KEY ++ entry.1, .str entry.2))

def twoEndpoints : EndpointRun where
  consumer := sampleConsumer "2" [("[0]", "https://old:8443"), ("[1]", "http://old:8000")]
  endpoints := [some "https://old:8443", some "http://old:8000"]
  count := by rfl
  entries := by decide +kernel
  urls := by simp
  present := ⟨"https://old:8443", by simp⟩
  secret := ⟨"gAAA", rfl⟩

def threeEndpoints : EndpointRun where
  consumer := sampleConsumer "3"
    [("[0]", "http://rgw:8000"), ("[1]", "https://rgw:8443"), ("[2]", "https://rgw:9443")]
  endpoints := [some "http://rgw:8000", some "https://rgw:8443", some "https://rgw:9443"]
  count := by rfl
  entries := by decide +kernel
  urls := by simp
  present := ⟨"http://rgw:8000", by simp⟩
  secret := ⟨"gAAA", rfl⟩

def firstMissing : EndpointRun where
  consumer := sampleConsumer "2" [("[1]", "http://rgw:8000")]
  endpoints := [none, some "http://rgw:8000"]
  count := by rfl
  entries := by decide +kernel
  urls := by simp
  present := ⟨"http://rgw:8000", by simp⟩
  secret := ⟨"gAAA", rfl⟩

/-- A second run with a longer list: nothing of the first is in its way. -/
theorem choice_iff_secondRun :
    ∃ config, CsmRgwConfigurationFactory.get_rgw_connection_config (fun secret _ _ => some secret)
        (configure ([twoEndpoints] ++ [threeEndpoints]) Table.empty) = some (.ok config) ∧
      Agrees threeEndpoints.endpoints config.url := by
  have hshorter : ∀ l ∈ [twoEndpoints.endpoints],
      l.length ≤ ["http://rgw:8000", "https://rgw:8443", "https://rgw:9443"].length := by decide
  exact (choice_iff (fun secret _ _ => some secret) Table.empty (fun _ => rfl) [twoEndpoints]
    threeEndpoints).mpr (clear_of_full hshorter)

/-- The only endpoint is under number 1: the reader ends up with none. -/
theorem endpoint_not_found :
    ∃ config, CsmRgwConfigurationFactory.get_rgw_connection_config (fun secret _ _ => some secret)
        (configure [firstMissing] Table.empty) = some (.ok config) ∧
      config.url = none ∧ ¬ Agrees firstMissing.endpoints config.url := by
  have hempty : ∀ count, endpointSlots RGW_S3_ENDPOINTS Table.empty count = none := fun _ => rfl
  have hslots := slots_configure hempty [firstMissing]
  obtain ⟨csm', hrun, _, hsecret⟩ := firstMissing.set_s3_info Table.empty
  have hcsm' : configure [firstMissing] Table.empty = csm' := congrArg Prod.snd hrun
  rw [hcsm'] at hslots ⊢
  have hurls : ∀ count, Slots.latest [firstMissing.endpoints] count ≠ some "" := by
    intro count hkept
    obtain ⟨l, hl, hget⟩ := Slots.mem_of_latest _ hkept
    obtain rfl := List.mem_singleton.mp hl
    exact firstMissing.urls (List.mem_of_getElem? hget)
  have hends : Slots.EndsAt https (Slots.latest [firstMissing.endpoints]) 0 none :=
    ⟨fun before h => absurd h (Nat.not_lt_zero before), rfl, fun _ h => by cases h⟩
  obtain ⟨config, hconfig, hurl⟩ := CsmRgwConfigurationFactory.config_of_endsAt
    (fun secret _ _ => some secret) hslots hurls hsecret hends
  refine ⟨config, hconfig, hurl, ?_⟩
  intro h
  exact h.found hurl

end CortxCsm
