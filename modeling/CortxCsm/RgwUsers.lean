/-
# `CortxCsm.RgwUsers` — the state-changing S3 views and the request they send

Eight endpoints change an RGW user, its keys, capabilities or quota, or the owner
of a bucket.  A view loads its body with a schema, refuses the uid of the
privileged user, and hands the arguments to `RGWPlugin.execute`, which keeps of
them what the `REQUEST_BODY_SCHEMA` of the operation names and is not `None`.

| | |
| :-- | :-- |
| `csm/core/controllers/rgw/s3/base.py` | `S3BaseView` |
| `csm/core/controllers/rgw/s3/users.py` | the schemas and the views of users, keys, caps, quota |
| `csm/core/controllers/rgw/s3/bucket.py` | `S3BucketView` |
| `csm/plugins/cortx/rgw.py`, `schema/rgw_admin_api_operations.json` | `RGWPlugin`, `Operation` |

What is proved: the uid of the request that is sent is there and is not the
privileged one, exactly when the request is no removal of a key by the key alone
(`S3BaseView.privileged_spared_exact`).  The services between view and plugin pass
their arguments on and are left out.
-/
import CortxCsm.Validators
import CortxCsm.Lib.Text

namespace CortxCsm

/-! ## The plugin -/

/-- The operations of the admin API that change something. -/
inductive Operation
  | DELETE_USER
  | MODIFY_USER
  | CREATE_KEY
  | REMOVE_KEY
  | LINK_BUCKET
  | UNLINK_BUCKET
  | ADD_USER_CAPS
  | REMOVE_USER_CAPS
  | SET_USER_LEVEL_QUOTA
  deriving DecidableEq, Repr

structure ApiOperation where
  ENDPOINT : String
  METHOD : String
  REQUEST_BODY_SCHEMA : List (String × String)

/-- `rgw_admin_api_operations.json`. -/
def api_operations : Operation → ApiOperation
  | .DELETE_USER => ⟨"/admin/user", "DELETE", [("uid", "uid"), ("purge_data", "purge-data")]⟩
  | .MODIFY_USER => ⟨"/admin/user", "POST", [("uid", "uid"), ("display_name", "display-name"),
      ("email", "email"), ("generate_key", "generate-key"), ("access_key", "access-key"),
      ("secret_key", "secret-key"), ("key_type", "key-type"), ("user_caps", "user-caps"),
      ("max_buckets", "max-buckets"), ("suspended", "suspended"), ("op_mask", "op-mask")]⟩
  | .CREATE_KEY => ⟨"/admin/user?key", "PUT", [("uid", "uid"), ("key_type", "key-type"),
      ("access_key", "access-key"), ("secret_key", "secret-key"),
      ("generate_key", "generate-key")]⟩
  | .REMOVE_KEY => ⟨"/admin/user?key", "DELETE", [("access_key", "access-key"), ("uid", "uid"),
      ("key_type", "key-type")]⟩
  | .LINK_BUCKET => ⟨"/admin/bucket", "PUT", [("uid", "uid"), ("bucket", "bucket"),
      ("bucket_id", "bucket-id")]⟩
  | .UNLINK_BUCKET => ⟨"/admin/bucket", "POST", [("uid", "uid"), ("bucket", "bucket")]⟩
  | .ADD_USER_CAPS => ⟨"/admin/user?caps", "PUT", [("uid", "uid"), ("user_caps", "user-caps")]⟩
  | .REMOVE_USER_CAPS => ⟨"/admin/user?caps", "DELETE", [("uid", "uid"),
      ("user_caps", "user-caps")]⟩
  | .SET_USER_LEVEL_QUOTA => ⟨"/admin/user?quota&quota-type=user", "PUT", [("uid", "uid"),
      ("enabled", "enabled"), ("max_size", "max-size"), ("max_objects", "max-objects"),
      ("check_on_raw", "check-on-raw")]⟩

/-- Every operation sends the uid as the uid, and no parameter twice. -/
theorem api_operations_uid (operation : Operation) :
    ("uid", "uid") ∈ (api_operations operation).REQUEST_BODY_SCHEMA ∧
      ((api_operations operation).REQUEST_BODY_SCHEMA.map Prod.snd).Nodup := by
  cases operation <;> decide

/-- What `signed_http_request` is called with. -/
structure RgwRequest where
  method : String
  endpoint : String
  query_params : Dict String Json

namespace RGWPlugin

/-- The argument that is sent under a parameter, where it is not `None`. -/
def argument (kwargs : Dict String Json) (item : String × String) : Option (String × Json) :=
  ((kwargs.get? item.1).filter Json.given).map (item.2, ·)

def _build_request (request_body_schema : List (String × String)) (kwargs : Dict String Json) :
    Dict String Json :=
  Table.empty.setAll (request_body_schema.filterMap (argument kwargs))

def execute (operation : Operation) (kwargs : Dict String Json) : RgwRequest where
  method := (api_operations operation).METHOD
  endpoint := (api_operations operation).ENDPOINT
  query_params := _build_request (api_operations operation).REQUEST_BODY_SCHEMA kwargs

theorem argument_fst {kwargs : Dict String Json} {item : String × String} {sent : String × Json}
    (h : argument kwargs item = some sent) : sent.1 = item.2 := by
  obtain ⟨v, -, rfl⟩ := Option.map_eq_some_iff.mp h
  rfl

theorem sublist_arguments (kwargs : Dict String Json) : ∀ schema : List (String × String),
    ((schema.filterMap (argument kwargs)).map Prod.fst).Sublist (schema.map Prod.snd)
  | [] => .slnil
  | item :: schema => by
      have ih := sublist_arguments kwargs schema
      rw [List.filterMap_cons]
      cases h : argument kwargs item with
      | none => exact ih.cons _
      | some sent =>
          rw [List.map_cons, List.map_cons, argument_fst h]
          exact ih.cons_cons _

/-- A parameter is sent with the argument it is built from, or not at all. -/
theorem get?_build_request {schema : List (String × String)} {kwargs : Dict String Json}
    {key param : String} (hmem : (key, param) ∈ schema) (hnodup : (schema.map Prod.snd).Nodup) :
    (_build_request schema kwargs).get? param = (kwargs.get? key).filter Json.given := by
  have hsent := hnodup.sublist (sublist_arguments kwargs schema)
  cases h : (kwargs.get? key).filter Json.given with
  | some v =>
      refine Table.get?_setAll_of_mem hsent (List.mem_filterMap.mpr ⟨(key, param), hmem, ?_⟩)
      rw [argument, h]
      rfl
  | none =>
      refine (Table.get?_setAll_of_not_mem fun hk => ?_).trans (Table.get?_empty param)
      obtain ⟨⟨_, v⟩, hv, rfl⟩ := List.mem_map.mp hk
      obtain ⟨item, hitem, harg⟩ := List.mem_filterMap.mp hv
      have hsame : item = (key, _) :=
        List.inj_on_of_nodup_map hnodup hitem hmem (argument_fst harg).symm
      rw [argument, hsame, h] at harg
      cases harg

/-- The uid of a request is the one the view passed. -/
theorem execute_uid (operation : Operation) (kwargs : Dict String Json) :
    (execute operation kwargs).query_params.get? "uid" =
      (kwargs.get? "uid").filter Json.given :=
  get?_build_request (api_operations_uid operation).1 (api_operations_uid operation).2

end RGWPlugin

/-! ## The schemas -/

def SUPPORTED_KEY_TYPES : List String := ["s3"]
def SUPPORTED_OP_MASKS : List String := ["read", "write", "delete", "*"]
def SUPPORTED_BUCKET_OPERATIONS : List String := ["link", "unlink"]

/-- `UserModifySchema.validate_op_mask`. -/
def validate_op_mask : Json → Bool
  | .str op_mask =>
      let op_mask := String.ofList (op_mask.toList.filter (· ≠ ' '))
      op_mask = "" || (Text.split ',' op_mask).all (· ∈ SUPPORTED_OP_MASKS)
  | _ => false

def UserModifySchema : Schema := ValidateSchema {
  rows := [optionalField "display_name" .Str, optionalField "email" .Email,
    optionalField "generate_key" .Bool, optionalField "access_key" .Str,
    optionalField "secret_key" .Str, optionalField "key_type" .Str (OneOf SUPPORTED_KEY_TYPES),
    optionalField "max_buckets" .Int, optionalField "suspended" .Bool,
    optionalField "op_mask" .Str validate_op_mask]
  nodup := by simp [optionalField] }

def CreateKeySchema : Schema := ValidateSchema {
  rows := [requiredField "uid" .Str,
    optionalField "key_type" .Str (OneOf SUPPORTED_KEY_TYPES), optionalField "access_key" .Str,
    optionalField "secret_key" .Str, optionalField "user_caps" .Str,
    optionalField "generate_key" .Bool]
  nodup := by simp [optionalField, requiredField] }

def RemoveKeySchema : Schema := ValidateSchema {
  rows := [requiredField "access_key" .Str, optionalField "uid" .Str,
    optionalField "key_type" .Str (OneOf SUPPORTED_KEY_TYPES)]
  nodup := by simp [optionalField, requiredField] }

def UserCapsSchema : Schema := ValidateSchema {
  rows := [requiredField "user_caps" .Str]
  nodup := by simp }

def SetUserQuotaSchema : Schema := ValidateSchema {
  rows := [optionalField "enabled" .Bool, optionalField "max_size" .Int,
    optionalField "max_objects" .Int, optionalField "check_on_raw" .Bool]
  nodup := by simp [optionalField] }

def BucketBaseSchema : Schema := ValidateSchema {
  rows := [requiredField "operation" .Str (OneOf SUPPORTED_BUCKET_OPERATIONS),
    requiredField "arguments" .Dict]
  nodup := by simp [requiredField] }

def LinkBucketSchema : Schema := ValidateSchema {
  rows := [requiredField "uid" .Str, requiredField "bucket" .Str, optionalField "bucket_id" .Str]
  nodup := by simp [optionalField, requiredField] }

def UnlinkBucketSchema : Schema := ValidateSchema {
  rows := [requiredField "uid" .Str, requiredField "bucket" .Str]
  nodup := by simp [requiredField] }

/-! ## The views -/

/-- The text of a request: none, no JSON, or JSON. -/
inductive RequestBody
  | empty
  | malformed
  | json (value : Json)

/-- How a view refuses: `CsmPermissionDenied()`, `InvalidRequest("Could not parse request
body, invalid JSON received.")`, or `InvalidRequest` with the formatted messages. -/
inductive Refusal
  | denied
  | invalidJson
  | invalid (messages : Messages)

/-- What `Conf.get` finds under `RGW>s3>iam>admin_user`. -/
abbrev AdminUser := Option String

namespace S3BaseView

def _is_iam_privileged_user (_iam_privileged_user_uid : AdminUser) : Json → Bool
  | .str uid => some uid = _iam_privileged_user_uid
  | .null => _iam_privileged_user_uid = none
  | _ => false

variable [Marshmallow]

/-- `schema.load(await self.request.json())`, with the clauses that catch its errors. -/
def load (schema : Schema) : RequestBody → Except Refusal (Dict String Json)
  | .json value =>
      match Marshmallow.load schema .RAISE value with
      | .ok body => .ok body
      | .error messages => .error (.invalid messages)
  | _ => .error .invalidJson

/-- The same, where a request without a text has no arguments. -/
def loadIfGiven (schema : Schema) : RequestBody → Except Refusal (Dict String Json)
  | .empty => .ok .empty
  | body => load schema body

/-- `{const.UID: uid}`. -/
def path_params (uid : String) : Dict String Json := Table.set .empty "uid" (.str uid)

end S3BaseView

open S3BaseView

section Views

variable [Marshmallow] (admin : AdminUser)

def S3IAMUserView.delete (uid : String) : Except Refusal RgwRequest := do
  if _is_iam_privileged_user admin (.str uid) then throw .denied
  return RGWPlugin.execute .DELETE_USER (path_params uid)

def S3IAMUserView.patch (uid : String) (body : RequestBody) : Except Refusal RgwRequest := do
  if _is_iam_privileged_user admin (.str uid) then throw .denied
  let request_body_params ← loadIfGiven UserModifySchema body
  return RGWPlugin.execute .MODIFY_USER ((path_params uid).update request_body_params)

def S3IAMUserKeyView.put (body : RequestBody) : Except Refusal RgwRequest := do
  let create_key_body ← load CreateKeySchema body
  if _is_iam_privileged_user admin ((create_key_body.get? "uid").getD .null) then throw .denied
  return RGWPlugin.execute .CREATE_KEY create_key_body

def S3IAMUserKeyView.delete (body : RequestBody) : Except Refusal RgwRequest := do
  let remove_key_body ← load RemoveKeySchema body
  if _is_iam_privileged_user admin ((remove_key_body.get? "uid").getD .null) then throw .denied
  return RGWPlugin.execute .REMOVE_KEY remove_key_body

def S3IAMUserCapsView.create_caps_request_body (uid : String) (body : RequestBody) :
    Except Refusal (Dict String Json) := do
  if _is_iam_privileged_user admin (.str uid) then throw .denied
  let user_caps_body ← load UserCapsSchema body
  return (path_params uid).update user_caps_body

def S3IAMUserCapsView.put (uid : String) (body : RequestBody) : Except Refusal RgwRequest := do
  let request_body ← create_caps_request_body admin uid body
  return RGWPlugin.execute .ADD_USER_CAPS request_body

def S3IAMUserCapsView.delete (uid : String) (body : RequestBody) : Except Refusal RgwRequest := do
  let request_body ← create_caps_request_body admin uid body
  return RGWPlugin.execute .REMOVE_USER_CAPS request_body

def S3IAMUserQuotaView.put (uid : String) (body : RequestBody) : Except Refusal RgwRequest := do
  if _is_iam_privileged_user admin (.str uid) then throw .denied
  let request_body_params ← loadIfGiven SetUserQuotaSchema body
  return RGWPlugin.execute .SET_USER_LEVEL_QUOTA ((path_params uid).update request_body_params)

/-- `SchemaFactory.init(operation)`, and the operation the service maps it to; the base
schema lets no other operation pass. -/
def SchemaFactory.init (operation : Json) : Schema × Operation :=
  match operation with
  | .str "link" => (LinkBucketSchema, .LINK_BUCKET)
  | _ => (UnlinkBucketSchema, .UNLINK_BUCKET)

def S3BucketView.put (body : RequestBody) : Except Refusal RgwRequest := do
  let request_body ← load BucketBaseSchema body
  let operation := SchemaFactory.init ((request_body.get? "operation").getD .null)
  let operation_arguments := (request_body.get? "arguments").getD .null
  let operation_request_body ← load operation.1 (.json operation_arguments)
  let uid := (operation_request_body.get? "uid").getD .null
  if uid.given && _is_iam_privileged_user admin uid then throw .denied
  return RGWPlugin.execute operation.2 operation_request_body

/-- A request to one of the state-changing views other than `POST iam/users`. -/
inductive StateChange
  | deleteUser (uid : String)
  | patchUser (uid : String) (body : RequestBody)
  | putKey (body : RequestBody)
  | deleteKey (body : RequestBody)
  | putCaps (uid : String) (body : RequestBody)
  | deleteCaps (uid : String) (body : RequestBody)
  | putQuota (uid : String) (body : RequestBody)
  | putBucket (body : RequestBody)

/-- What the plugin sends for the request, where it is reached. -/
def StateChange.handle : StateChange → Except Refusal RgwRequest
  | .deleteUser uid => S3IAMUserView.delete admin uid
  | .patchUser uid body => S3IAMUserView.patch admin uid body
  | .putKey body => S3IAMUserKeyView.put admin body
  | .deleteKey body => S3IAMUserKeyView.delete admin body
  | .putCaps uid body => S3IAMUserCapsView.put admin uid body
  | .deleteCaps uid body => S3IAMUserCapsView.delete admin uid body
  | .putQuota uid body => S3IAMUserQuotaView.put admin uid body
  | .putBucket body => S3BucketView.put admin body

end Views

/-! ## What reaches the plugin -/

/-- The request names a user, and not the privileged one. -/
def RgwRequest.Spares (rgw : RgwRequest) (admin : AdminUser) : Prop :=
  ∃ uid : String, rgw.query_params.get? "uid" = some (.str uid) ∧ some uid ≠ admin

theorem spares_execute {admin : AdminUser} {uid : String} {operation : Operation}
    {kwargs : Dict String Json} (hget : kwargs.get? "uid" = some (.str uid))
    (hadmin : some uid ≠ admin) : (RGWPlugin.execute operation kwargs).Spares admin := by
  refine ⟨uid, ?_, hadmin⟩
  rw [RGWPlugin.execute_uid, hget]
  rfl

theorem not_privileged {admin : AdminUser} {uid : String}
    (h : ¬ _is_iam_privileged_user admin (.str uid) = true) : some uid ≠ admin := fun heq =>
  h (decide_eq_true heq)

/-- The arguments of a path: the uid of the path, whatever the body holds besides. -/
theorem path_uid {uid : String} {params : Dict String Json} (h : params.get? "uid" = none) :
    ((path_params uid).update params).get? "uid" = some (.str uid) := by
  rw [Table.get?_update, h]
  rfl

/-- A view goes on behind its check only when the check let the request pass. -/
theorem of_guard {c : Prop} [Decidable c] {α : Type} {refusal : Refusal} {rest : Except Refusal α}
    {a : α} (h : (if c then Except.error refusal else rest) = .ok a) : ¬ c ∧ rest = .ok a := by
  split at h
  · cases h
  · rename_i hc
    exact ⟨hc, h⟩

/-- A view goes on behind a step only with what the step gave. -/
theorem of_bind {α β : Type} {step : Except Refusal α} {rest : α → Except Refusal β} {b : β}
    (h : step.bind rest = .ok b) : ∃ a, step = .ok a ∧ rest a = .ok b := by
  cases step with
  | error => cases h
  | ok a => exact ⟨a, rfl, h⟩

/-- The uid is the one of the path. -/
theorem spares_path {admin : AdminUser} {uid : String}
    (hadmin : ¬ _is_iam_privileged_user admin (.str uid) = true) {operation : Operation}
    {params : Dict String Json} (hparams : params.get? "uid" = none) :
    (RGWPlugin.execute operation ((path_params uid).update params)).Spares admin :=
  spares_execute (path_uid hparams) (not_privileged hadmin)

/-- The uid is the one of the body. -/
theorem spares_body {admin : AdminUser} {loaded : Dict String Json}
    (huid : ∃ uid, loaded.get? "uid" = some (.str uid))
    (hadmin : ¬ _is_iam_privileged_user admin ((loaded.get? "uid").getD .null) = true)
    (operation : Operation) : (RGWPlugin.execute operation loaded).Spares admin := by
  obtain ⟨uid, hget⟩ := huid
  rw [hget] at hadmin
  exact spares_execute hget (not_privileged hadmin)

section Views

variable [Marshmallow] {admin : AdminUser} {rgw : RgwRequest}

theorem load_eq_ok {schema : Schema} {body : RequestBody} {loaded : Dict String Json}
    (h : load schema body = .ok loaded) :
    ∃ value, body = .json value ∧ Marshmallow.load schema .RAISE value = .ok loaded := by
  cases body with
  | json value =>
      refine ⟨value, rfl, ?_⟩
      simp only [load] at h
      split at h
      · rename_i hload
        rw [hload, Except.ok.inj h]
      · cases h
  | _ => cases h

variable [LawfulMarshmallow]

/-- A schema without a uid loads none. -/
theorem load_no_uid {schema : Schema} (hno : ∀ field ∈ schema.fields, field.name ≠ "uid")
    {body : RequestBody} {loaded : Dict String Json} (h : load schema body = .ok loaded) :
    loaded.get? "uid" = none := by
  obtain ⟨value, -, hload⟩ := load_eq_ok h
  exact Schema.load_undeclared hload hno

theorem loadIfGiven_no_uid {schema : Schema} (hno : ∀ field ∈ schema.fields, field.name ≠ "uid")
    {body : RequestBody} {loaded : Dict String Json} (h : loadIfGiven schema body = .ok loaded) :
    loaded.get? "uid" = none := by
  cases body with
  | empty =>
      cases h
      rfl
  | malformed => cases h
  | json value =>
      have hloaded : load schema (.json value) = .ok loaded := h
      exact load_no_uid hno hloaded

/-- A schema that requires the uid loads a text for it. -/
theorem load_uid {schema : Schema} (huid : requiredField "uid" .Str ∈ schema.fields)
    {body : RequestBody} {loaded : Dict String Json} (h : load schema body = .ok loaded) :
    ∃ uid, loaded.get? "uid" = some (.str uid) := by
  obtain ⟨value, -, hload⟩ := load_eq_ok h
  exact Schema.load_required_str hload huid rfl rfl

/-! One lemma for each view; the removal of a key is the exception. -/

omit [Marshmallow] [LawfulMarshmallow] in
theorem S3IAMUserView.delete_spares {uid : String}
    (h : S3IAMUserView.delete admin uid = .ok rgw) : rgw.Spares admin := by
  obtain ⟨hadmin, h⟩ := of_guard h
  cases h
  exact spares_execute rfl (not_privileged hadmin)

theorem S3IAMUserView.patch_spares {uid : String} {body : RequestBody}
    (h : S3IAMUserView.patch admin uid body = .ok rgw) : rgw.Spares admin := by
  obtain ⟨hadmin, h⟩ := of_guard h
  obtain ⟨params, hload, h⟩ := of_bind h
  cases h
  exact spares_path hadmin (loadIfGiven_no_uid (by decide) hload)

theorem S3IAMUserKeyView.put_spares {body : RequestBody}
    (h : S3IAMUserKeyView.put admin body = .ok rgw) : rgw.Spares admin := by
  obtain ⟨loaded, hload, h⟩ := of_bind h
  obtain ⟨hadmin, h⟩ := of_guard h
  cases h
  exact spares_body (load_uid (List.mem_cons_self ..) hload) hadmin .CREATE_KEY

theorem S3IAMUserCapsView.create_caps_request_body_spares {uid : String} {body : RequestBody}
    {kwargs : Dict String Json}
    (h : S3IAMUserCapsView.create_caps_request_body admin uid body = .ok kwargs)
    (operation : Operation) : (RGWPlugin.execute operation kwargs).Spares admin := by
  obtain ⟨hadmin, h⟩ := of_guard h
  obtain ⟨params, hload, h⟩ := of_bind h
  cases h
  exact spares_path hadmin (load_no_uid (by decide) hload)

theorem S3IAMUserCapsView.put_spares {uid : String} {body : RequestBody}
    (h : S3IAMUserCapsView.put admin uid body = .ok rgw) : rgw.Spares admin := by
  obtain ⟨kwargs, hbody, h⟩ := of_bind h
  cases h
  exact create_caps_request_body_spares hbody .ADD_USER_CAPS

theorem S3IAMUserCapsView.delete_spares {uid : String} {body : RequestBody}
    (h : S3IAMUserCapsView.delete admin uid body = .ok rgw) : rgw.Spares admin := by
  obtain ⟨kwargs, hbody, h⟩ := of_bind h
  cases h
  exact create_caps_request_body_spares hbody .REMOVE_USER_CAPS

theorem S3IAMUserQuotaView.put_spares {uid : String} {body : RequestBody}
    (h : S3IAMUserQuotaView.put admin uid body = .ok rgw) : rgw.Spares admin := by
  obtain ⟨hadmin, h⟩ := of_guard h
  obtain ⟨params, hload, h⟩ := of_bind h
  cases h
  exact spares_path hadmin (loadIfGiven_no_uid (by decide) hload)

omit [Marshmallow] [LawfulMarshmallow] in
/-- Both schemas of a bucket operation require the uid. -/
theorem SchemaFactory.init_uid (operation : Json) :
    requiredField "uid" .Str ∈ (SchemaFactory.init operation).1.fields := by
  unfold SchemaFactory.init
  split
  · exact List.mem_cons_self ..
  · exact List.mem_cons_self ..

theorem S3BucketView.put_spares {body : RequestBody}
    (h : S3BucketView.put admin body = .ok rgw) : rgw.Spares admin := by
  obtain ⟨request_body, -, h⟩ := of_bind h
  obtain ⟨loaded, hload, h⟩ := of_bind h
  obtain ⟨hadmin, h⟩ := of_guard h
  cases h
  have huid := load_uid (SchemaFactory.init_uid _) hload
  refine spares_body huid (fun hprivileged => hadmin ?_) _
  obtain ⟨uid, hget⟩ := huid
  rw [hget] at hprivileged ⊢
  exact hprivileged

/-! ## The removal of a key -/

/-- A body that `RemoveKeySchema` accepts and that names a key but no user. -/
def NamesNoUser (body : RequestBody) : Prop :=
  ∃ entries loaded, body = .json (.obj entries) ∧ entries.lookup "uid" = none ∧
    Marshmallow.load RemoveKeySchema .RAISE (.obj entries) = .ok loaded

/-- A removal of a key by the key alone, where a privileged user is configured. -/
def StateChange.KeyAlone (admin : AdminUser) : StateChange → Prop
  | .deleteKey body => admin ≠ none ∧ NamesNoUser body
  | _ => False

omit [Marshmallow] [LawfulMarshmallow] in
theorem mem_RemoveKeySchema_uid : optionalField "uid" .Str ∈ RemoveKeySchema.fields :=
  List.mem_cons_of_mem _ (List.mem_cons_self ..)

/-- What `RemoveKeySchema` loads for the uid: the text of the body, or `None`. -/
theorem load_remove_key {entries : List (String × Json)} {loaded : Dict String Json}
    (h : Marshmallow.load RemoveKeySchema .RAISE (.obj entries) = .ok loaded) :
    (entries.lookup "uid" = none ∧ loaded.get? "uid" = some .null) ∨
      ∃ uid, entries.lookup "uid" = some (.str uid) ∧ loaded.get? "uid" = some (.str uid) := by
  obtain ⟨entries', v, hentries, hv, hget⟩ := Schema.load_field h mem_RemoveKeySchema_uid
  cases hentries
  cases hlookup : entries.lookup "uid" with
  | none =>
      rw [(SchemaField.load_of_absent hlookup hv).2] at hget
      exact Or.inl ⟨rfl, hget⟩
  | some value =>
      obtain ⟨uid, rfl, rfl⟩ := SchemaField.load_str rfl hlookup hv
      exact Or.inr ⟨uid, rfl, hget⟩

theorem S3IAMUserKeyView.delete_spares {body : RequestBody}
    (hcond : admin = none ∨ ¬ NamesNoUser body)
    (h : S3IAMUserKeyView.delete admin body = .ok rgw) : rgw.Spares admin := by
  obtain ⟨loaded, hload, h⟩ := of_bind h
  obtain ⟨hadmin, h⟩ := of_guard h
  cases h
  obtain ⟨value, rfl, hloaded⟩ := load_eq_ok hload
  obtain ⟨entries, -, rfl, -, -⟩ := Schema.load_field hloaded mem_RemoveKeySchema_uid
  rcases load_remove_key hloaded with ⟨hlookup, hget⟩ | ⟨uid, -, hget⟩
  · rcases hcond with rfl | hnamed
    · rw [hget] at hadmin
      exact absurd rfl hadmin
    · exact absurd ⟨entries, loaded, rfl, hlookup, hloaded⟩ hnamed
  · exact spares_body ⟨uid, hget⟩ hadmin .REMOVE_KEY

/-- Without a uid the request is sent, and names nobody. -/
theorem S3IAMUserKeyView.delete_names_nobody {body : RequestBody} (hadmin : admin ≠ none)
    (h : NamesNoUser body) : ∃ rgw, S3IAMUserKeyView.delete admin body = .ok rgw ∧
      rgw.query_params.get? "uid" = none := by
  obtain ⟨entries, loaded, rfl, hlookup, hload⟩ := h
  have hget : loaded.get? "uid" = some .null := by
    rcases load_remove_key hload with ⟨-, hget⟩ | ⟨uid, huid, -⟩
    · exact hget
    · rw [hlookup] at huid
      cases huid
  refine ⟨RGWPlugin.execute .REMOVE_KEY loaded, ?_, ?_⟩
  · have hbody : load RemoveKeySchema (.json (.obj entries)) = .ok loaded := by
      simp only [load, hload]
    have hguard : ¬ _is_iam_privileged_user admin ((loaded.get? "uid").getD .null) = true := by
      rw [hget]
      exact fun h => hadmin (of_decide_eq_true h)
    unfold S3IAMUserKeyView.delete
    rw [hbody]
    exact if_neg hguard
  · rw [RGWPlugin.execute_uid, hget]
    rfl

/-- Exactly the removals of a key that name no user go by the check. -/
theorem S3BaseView.privileged_spared_exact (admin : AdminUser) (request : StateChange) :
    (∀ rgw, request.handle admin = .ok rgw → rgw.Spares admin) ↔ ¬ request.KeyAlone admin := by
  cases request with
  | deleteUser uid => exact ⟨fun _ h => h, fun _ _ h => S3IAMUserView.delete_spares h⟩
  | patchUser uid body => exact ⟨fun _ h => h, fun _ _ h => S3IAMUserView.patch_spares h⟩
  | putKey body => exact ⟨fun _ h => h, fun _ _ h => S3IAMUserKeyView.put_spares h⟩
  | putCaps uid body => exact ⟨fun _ h => h, fun _ _ h => S3IAMUserCapsView.put_spares h⟩
  | deleteCaps uid body => exact ⟨fun _ h => h, fun _ _ h => S3IAMUserCapsView.delete_spares h⟩
  | putQuota uid body => exact ⟨fun _ h => h, fun _ _ h => S3IAMUserQuotaView.put_spares h⟩
  | putBucket body => exact ⟨fun _ h => h, fun _ _ h => S3BucketView.put_spares h⟩
  | deleteKey body =>
      constructor
      · rintro hspares ⟨hadmin, hnamed⟩
        obtain ⟨rgw, hrgw, hnobody⟩ := S3IAMUserKeyView.delete_names_nobody hadmin hnamed
        obtain ⟨uid, huid, -⟩ := hspares rgw hrgw
        rw [hnobody] at huid
        cases huid
      · intro halone rgw h
        refine S3IAMUserKeyView.delete_spares ?_ h
        by_cases hadmin : admin = none
        · exact Or.inl hadmin
        · exact Or.inr fun hnamed => halone ⟨hadmin, hnamed⟩

end Views

/-! ### A key of the privileged user -/

/-- `DELETE /api/v2/iam/keys` with an access key, and with the user it belongs to. -/
def removeKey : StateChange := .deleteKey (.json (.obj [("access_key", .str "AKIAADMIN")]))

def removeKeyOf (uid : String) : StateChange :=
  .deleteKey (.json (.obj [("access_key", .str "AKIAALICE"), ("uid", .str uid)]))

theorem S3BaseView.privileged_spared_exact_alice :
    letI := plainMarshmallow
    (∃ rgw, (removeKeyOf "alice").handle (some "sgiamadmin") = .ok rgw) ∧
      ∀ rgw, (removeKeyOf "alice").handle (some "sgiamadmin") = .ok rgw →
        rgw.Spares (some "sgiamadmin") := by
  let _ := plainMarshmallow
  have := plainMarshmallow_lawful
  refine ⟨⟨_, rfl⟩, (S3BaseView.privileged_spared_exact _ _).mpr ?_⟩
  rintro ⟨-, entries, loaded, hbody, hlookup, -⟩
  cases hbody
  exact absurd hlookup (by decide)

/-- The request is sent to remove the key of whoever has it. -/
theorem S3BaseView.privileged_key_removed :
    letI := plainMarshmallow
    ∃ rgw, removeKey.handle (some "sgiamadmin") = .ok rgw ∧ rgw.method = "DELETE" ∧
      rgw.query_params.get? "uid" = none ∧ ¬ rgw.Spares (some "sgiamadmin") := by
  let _ := plainMarshmallow
  refine ⟨_, rfl, rfl, rfl, ?_⟩
  rintro ⟨uid, huid, -⟩
  cases huid

end CortxCsm
