/-
# `CortxCsm.RgwReplies` — what `RGWPlugin` makes of the replies of RGW

| | |
| :-- | :-- |
| `csm/core/data/models/rgw.py` | `RgwErrors`, `RgwError` |
| `csm/plugins/cortx/rgw.py` | `_create_error`, `_process`, the loop of `execute` |
| `schema/rgw_admin_api_operations.json` | `rgw_admin_api_operations` |

The client is not part of the program: what comes of a request is an `RgwOutcome`, a reply with
a status and a body, or an exception.  A body is what `json.loads` makes of it.

`_create_error` reads `body['Code']` twice, the second time in the handler of the
`KeyError` of the first, for a log entry:

| `Code` | what the handlers make of it |
| :-- | :-- |
| the name of a member | that member, and the status |
| another value that has a hash | `UnknownError` and 500 |
| missing | `KeyError` from within the handler, hence a `CsmInternalError` |
| a list or an object | `TypeError`, hence a `CsmInternalError` |

So the translation is total exactly for the bodies of the first two rows
(`RGWPlugin.process_translates_iff`).  The loop of `execute` looks at the translated status
and not at the one of the reply, and 503 survives the translation in the first row only: it
retries as often as it should exactly when every 503 that is to be retried is such a reply
(`RGWPlugin.execute_retries_iff`).
-/
import CortxCsm.Errors
import CortxCsm.RgwUsers
import CortxCsm.Payload
import CortxCsm.Suppression
import Mathlib.Data.List.Infix

namespace CortxCsm

/-! ## The errors -/

/-- The members of `RgwErrors`. -/
inductive RgwErrors
  | AccessDenied
  | InternalError
  | NoSuchUser
  | NoSuchBucket
  | NoSuchKey
  | SignatureDoesNotMatch
  | UnknownError
  | InvalidArgument
  | RequestTimeout
  | S3ServiceUnavailable
  | UserAlreadyExists
  | InvalidAccessKeyId
  | InvalidKeyType
  | InvalidSecretKey
  | KeyExists
  | EmailExists
  | InvalidCapability
  | InvalidTenantName
  | DeleteConflict
  deriving DecidableEq, Repr

namespace RgwErrors

def value : RgwErrors → String
  | .AccessDenied => "Access denied."
  | .InternalError => "Internal server error."
  | .NoSuchUser => "User does not exist."
  | .NoSuchBucket => "Bucket does not exist."
  | .NoSuchKey => "No such key."
  | .SignatureDoesNotMatch => "Signature Does Not Match."
  | .UnknownError => "Unknown Error from S3 service."
  | .InvalidArgument => "Invalid argument provided."
  | .RequestTimeout => "Request to S3 service is timed out."
  | .S3ServiceUnavailable => "Unable to connect to S3 service."
  | .UserAlreadyExists => "Attempt to create existing user."
  | .InvalidAccessKeyId => "Invalid access key specified."
  | .InvalidKeyType => "Invalid key type specified."
  | .InvalidSecretKey => "Invalid secret key specified."
  | .KeyExists => "Provided access key exists and belongs to another user."
  | .EmailExists => "Provided email address exists."
  | .InvalidCapability => "Attempt to grant invalid admin capability."
  | .InvalidTenantName => "Invalid tenant name provided."
  | .DeleteConflict => "Attempt to delete a resource that has attached subordinate entities."

/-- `RgwErrors.__members__`.  `BucketAlreadyExists` is declared with the value of
`DeleteConflict`, which makes it another name of that member. -/
def members : List (String × RgwErrors) :=
  [("AccessDenied", .AccessDenied), ("InternalError", .InternalError),
    ("NoSuchUser", .NoSuchUser), ("NoSuchBucket", .NoSuchBucket), ("NoSuchKey", .NoSuchKey),
    ("SignatureDoesNotMatch", .SignatureDoesNotMatch), ("UnknownError", .UnknownError),
    ("InvalidArgument", .InvalidArgument), ("RequestTimeout", .RequestTimeout),
    ("S3ServiceUnavailable", .S3ServiceUnavailable), ("UserAlreadyExists", .UserAlreadyExists),
    ("InvalidAccessKeyId", .InvalidAccessKeyId), ("InvalidKeyType", .InvalidKeyType),
    ("InvalidSecretKey", .InvalidSecretKey), ("KeyExists", .KeyExists),
    ("EmailExists", .EmailExists), ("InvalidCapability", .InvalidCapability),
    ("InvalidTenantName", .InvalidTenantName), ("DeleteConflict", .DeleteConflict),
    ("BucketAlreadyExists", .DeleteConflict)]

/-- `RgwErrors[code]`: a `KeyError` where it names no member, a `TypeError` where it has no
hash. -/
def getitem : Json → Except Exc RgwErrors
  | .str name => ((members.lookup name).map .ok).getD (.error .keyError)
  | .arr _ | .obj _ => .error .typeError
  | _ => .error .keyError

end RgwErrors

structure RgwError where
  http_status : Nat
  error_code : RgwErrors
  error_message : String
  deriving DecidableEq, Repr

/-! ## The client -/

/-- The body of a reply: no bytes, a JSON text, or another text. -/
inductive ReplyBody
  | empty
  | json (d : Json)
  | malformed

/-- `json.loads(body) if body else {}`. -/
def ReplyBody.loads : ReplyBody → Option Json
  | .empty => some (.obj [])
  | .json d => some d
  | .malformed => none

/-- What comes of a `signed_http_request`. -/
inductive RgwOutcome
  | reply (status : Nat) (body : ReplyBody)
  | s3ClientException (message : String)
  | exception

/-- `"Cannot connect to" in str(rgwe)`. -/
def cannotConnect (message : String) : Bool :=
  decide ("Cannot connect to".toList <:+: message.toList)

structure RgwApiOperation extends ApiOperation where
  SUCCESS_CODE : Nat

/-- `rgw_admin_api_operations.json`, all of it. -/
def rgw_admin_api_operations : List (String × RgwApiOperation) :=
  [("CREATE_USER", ⟨⟨"/admin/user", "PUT", [("uid", "uid"), ("display_name", "display-name"),
      ("email", "email"), ("key_type", "key-type"), ("access_key", "access-key"),
      ("secret_key", "secret-key"), ("user_caps", "user-caps"), ("generate_key", "generate-key"),
      ("max_buckets", "max-buckets"), ("suspended", "suspended"), ("tenant", "tenant")]⟩, 200⟩),
    ("GET_USER", ⟨⟨"/admin/user", "GET", [("uid", "uid")]⟩, 200⟩),
    ("LIST_USERS", ⟨⟨"/admin/user?list", "GET", [("max_entries", "max-entries"),
      ("marker", "marker")]⟩, 200⟩),
    ("DELETE_USER", ⟨api_operations .DELETE_USER, 200⟩),
    ("MODIFY_USER", ⟨api_operations .MODIFY_USER, 200⟩),
    ("CREATE_KEY", ⟨api_operations .CREATE_KEY, 200⟩),
    ("REMOVE_KEY", ⟨api_operations .REMOVE_KEY, 200⟩),
    ("LINK_BUCKET", ⟨api_operations .LINK_BUCKET, 200⟩),
    ("UNLINK_BUCKET", ⟨api_operations .UNLINK_BUCKET, 200⟩),
    ("ADD_USER_CAPS", ⟨api_operations .ADD_USER_CAPS, 200⟩),
    ("REMOVE_USER_CAPS", ⟨api_operations .REMOVE_USER_CAPS, 200⟩),
    ("SET_USER_LEVEL_QUOTA", ⟨api_operations .SET_USER_LEVEL_QUOTA, 200⟩),
    ("GET_USER_LEVEL_QUOTA", ⟨⟨"/admin/user?quota&quota-type=user", "GET", [("uid", "uid")]⟩,
      200⟩),
    ("GET_USER_CAPACITY", ⟨⟨"/admin/user?stats", "GET", [("uid", "uid")]⟩, 200⟩)]

/-- An operation of the table, with its name. -/
abbrev RgwOperation := { entry : String × RgwApiOperation // entry ∈ rgw_admin_api_operations }

/-- No operation takes an unavailable service for a success. -/
theorem success_code (operation : RgwOperation) : operation.1.2.SUCCESS_CODE = 200 := by
  have hall : ∀ entry ∈ rgw_admin_api_operations, entry.2.SUCCESS_CODE = 200 := by decide
  exact hall operation.1 operation.2

namespace RGWPlugin

/-! ## The translation -/

/-- `const.S3_CLIENT_ERROR_MSG`. -/
def S3_CLIENT_ERROR_MSG : String := "Unable to process the request"

/-- `const.S3_CLIENT_ERROR_CODES`. -/
def S3_CLIENT_ERROR_CODES : List (Nat × Json) :=
  [(408, .obj [("Code", .str "RequestTimeout")]), (503, .obj [("Code", .str "S3ServiceUnavailable")])]

/-- `body['Code']`. -/
def bodyCode : Json → Except Exc Json
  | .obj entries => ((entries.lookup "Code").map .ok).getD (.error .keyError)
  | _ => .error .typeError

/-- `RgwErrors[body['Code']]`. -/
def errorCode (body : Json) : Except Exc RgwErrors := bodyCode body >>= RgwErrors.getitem

def _create_error (status : Nat) (body : Json) : Except Exc RgwError :=
  match errorCode body with
  | .ok error_code => .ok ⟨status, error_code, error_code.value⟩
  | .error .keyError =>
      -- the handler has `body['Code']` in the text of its log entry
      match bodyCode body with
      | .error e => .error e
      | .ok _ => .ok ⟨500, .UnknownError, S3_CLIENT_ERROR_MSG⟩
  | .error e => .error e

/-- What `_process` returns. -/
inductive RgwResponse
  | rgwError (e : RgwError)
  | mapped (d : Json)

/-- `except Exception`. -/
def internalError : Exc := .csm (csmInternalError S3_CLIENT_ERROR_MSG)

def _process (operation : RgwOperation) : RgwOutcome → Except Exc RgwResponse
  | .reply code body =>
      match body.loads with
      | none => .error internalError
      | some response_body =>
          if code ≠ operation.1.2.SUCCESS_CODE then
            match _create_error code response_body with
            | .ok e => .ok (.rgwError e)
            | .error _ => .error internalError
          else
            match _build_response iam_operations_mapping operation.1.1
                (_supress_response_keys suppress_payload operation.1.1 response_body) with
            | .ok d => .ok (.mapped d)
            | .error _ => .error internalError
  | .s3ClientException message =>
      -- what is raised from here on no handler catches
      if message = "Request timeout" then
        (_create_error 408 ((S3_CLIENT_ERROR_CODES.lookup 408).getD .null)).map .rgwError
      else if cannotConnect message then
        (_create_error 503 ((S3_CLIENT_ERROR_CODES.lookup 503).getD .null)).map .rgwError
      else .error internalError
  | .exception => .error internalError

/-- The status and the code that are to be made of a reply. -/
def translation (status : Nat) (Code : Option Json) : Nat × RgwErrors :=
  match Code with
  | some (.str name) =>
      match RgwErrors.members.lookup name with
      | some error_code => (status, error_code)
      | none => (500, .UnknownError)
  | _ => (500, .UnknownError)

/-- `_process` returns an error with this status and this code. -/
def Returns (result : Except Exc RgwResponse) (answer : Nat × RgwErrors) : Prop :=
  ∃ message, result = .ok (.rgwError ⟨answer.1, answer.2, message⟩)

/-- What is asked of the translation of an outcome: an error reply whose body is an object, or
empty, gives the error its `Code` names; a timeout and a failure to connect give theirs; any
other failure of the client is an internal error. -/
def Translates (operation : RgwOperation) : RgwOutcome → Prop
  | .reply status body => status ≠ operation.1.2.SUCCESS_CODE →
      ∀ entries, body.loads = some (.obj entries) →
        Returns (_process operation (.reply status body))
          (translation status (entries.lookup "Code"))
  | .s3ClientException message =>
      if message = "Request timeout" then
        Returns (_process operation (.s3ClientException message)) (408, .RequestTimeout)
      else if cannotConnect message then
        Returns (_process operation (.s3ClientException message)) (503, .S3ServiceUnavailable)
      else _process operation (.s3ClientException message) = .error internalError
  | .exception => _process operation .exception = .error internalError

/-- The code of an error is missing, or is a value without a hash. -/
def noCode : Option Json → Bool
  | none | some (.arr _) | some (.obj _) => true
  | _ => false

/-- An error reply whose body has no code that can be looked up. -/
def Codeless (operation : RgwOperation) : RgwOutcome → Prop
  | .reply status body => status ≠ operation.1.2.SUCCESS_CODE ∧
      ∃ entries, body.loads = some (.obj entries) ∧ noCode (entries.lookup "Code") = true
  | _ => False

theorem bodyCode_of_lookup {entries : List (String × Json)} {Code : Json}
    (h : entries.lookup "Code" = some Code) : bodyCode (.obj entries) = .ok Code := by
  rw [bodyCode, h]
  rfl

/-- The lookup of a code that has a hash. -/
theorem getitem_of_code {Code : Json} (h : noCode (some Code) = false) :
    (∃ name error_code, Code = .str name ∧ RgwErrors.members.lookup name = some error_code ∧
      RgwErrors.getitem Code = .ok error_code) ∨
    (∀ status, translation status (some Code) = (500, .UnknownError)) ∧
      RgwErrors.getitem Code = .error .keyError := by
  cases Code with
  | arr => cases h
  | obj => cases h
  | str name =>
      cases hname : RgwErrors.members.lookup name with
      | some error_code =>
          refine .inl ⟨name, error_code, rfl, hname, ?_⟩
          rw [RgwErrors.getitem, hname]
          rfl
      | none =>
          refine .inr ⟨fun status => ?_, ?_⟩
          · rw [translation]
            simp only [hname]
          · rw [RgwErrors.getitem, hname]
            rfl
  | _ => exact .inr ⟨fun _ => rfl, rfl⟩

/-- A body with a code is translated. -/
theorem create_error_of_code {entries : List (String × Json)} {Code : Json}
    (hlookup : entries.lookup "Code" = some Code) (hcode : noCode (some Code) = false)
    (status : Nat) :
    ∃ message, _create_error status (.obj entries) =
      .ok ⟨(translation status (some Code)).1, (translation status (some Code)).2, message⟩ := by
  have hbody := bodyCode_of_lookup hlookup
  have herror : errorCode (.obj entries) = RgwErrors.getitem Code := by
    rw [errorCode, hbody]
    rfl
  rcases getitem_of_code hcode with ⟨name, error_code, rfl, hname, hitem⟩ | ⟨hunknown, hitem⟩
  · refine ⟨error_code.value, ?_⟩
    rw [_create_error, herror, hitem, translation]
    simp only [hname]
  · refine ⟨S3_CLIENT_ERROR_MSG, ?_⟩
    rw [_create_error, herror, hitem, hunknown]
    simp only [hbody]

/-- A body without one is not. -/
theorem create_error_of_noCode {entries : List (String × Json)}
    (h : noCode (entries.lookup "Code") = true) (status : Nat) :
    ∃ e, _create_error status (.obj entries) = .error e := by
  rw [_create_error, errorCode]
  cases hlookup : entries.lookup "Code" with
  | none =>
      have hbody : bodyCode (.obj entries) = .error .keyError := by
        rw [bodyCode, hlookup]
        rfl
      rw [hbody]
      exact ⟨.keyError, rfl⟩
  | some Code =>
      rw [hlookup] at h
      rw [bodyCode_of_lookup hlookup]
      cases Code with
      | arr => exact ⟨.typeError, rfl⟩
      | obj => exact ⟨.typeError, rfl⟩
      | _ => cases h

theorem process_timeout (operation : RgwOperation) :
    Returns (_process operation (.s3ClientException "Request timeout")) (408, .RequestTimeout) :=
  ⟨_, rfl⟩

theorem process_cannotConnect (operation : RgwOperation) {message : String}
    (hmessage : message ≠ "Request timeout") (hconnect : cannotConnect message = true) :
    Returns (_process operation (.s3ClientException message)) (503, .S3ServiceUnavailable) := by
  rw [_process, if_neg hmessage, if_pos hconnect]
  exact ⟨_, rfl⟩

/-- An error reply with a body that is an object. -/
theorem process_reply {operation : RgwOperation} {status : Nat} {body : ReplyBody}
    {entries : List (String × Json)} (hstatus : status ≠ operation.1.2.SUCCESS_CODE)
    (hbody : body.loads = some (.obj entries)) :
    _process operation (.reply status body) =
      match _create_error status (.obj entries) with
      | .ok e => .ok (.rgwError e)
      | .error _ => .error internalError := by
  rw [_process, hbody]
  exact if_pos hstatus

/-- The translation is total exactly where the body of an error reply has a code that can be
looked up. -/
theorem process_translates_iff (operation : RgwOperation) (outcome : RgwOutcome) :
    Translates operation outcome ↔ ¬ Codeless operation outcome := by
  cases outcome with
  | reply status body =>
      constructor
      · rintro htranslates ⟨hstatus, entries, hbody, hcode⟩
        obtain ⟨message, hresult⟩ := htranslates hstatus entries hbody
        obtain ⟨e, herror⟩ := create_error_of_noCode hcode status
        rw [process_reply hstatus hbody, herror] at hresult
        cases hresult
      · intro hcodeless hstatus entries hbody
        have hcode : noCode (entries.lookup "Code") = false :=
          eq_false_of_ne_true fun h => hcodeless ⟨hstatus, entries, hbody, h⟩
        cases hlookup : entries.lookup "Code" with
        | none => rw [hlookup] at hcode; cases hcode
        | some Code =>
            rw [hlookup] at hcode
            obtain ⟨message, herror⟩ := create_error_of_code hlookup hcode status
            refine ⟨message, ?_⟩
            rw [process_reply hstatus hbody, herror]
  | s3ClientException message =>
      refine iff_of_true ?_ id
      rw [Translates]
      split
      · rename_i hmessage
        exact hmessage ▸ process_timeout operation
      · rename_i hmessage
        split
        · rename_i hconnect
          exact process_cannotConnect operation hmessage hconnect
        · rename_i hconnect
          rw [_process, if_neg hmessage, if_neg hconnect]
  | exception => exact iff_of_true rfl id

/-- The creation of a user. -/
def createUser : RgwOperation :=
  ⟨rgw_admin_api_operations.head (List.cons_ne_nil _ _), List.mem_cons_self⟩

/-- A reply with the status 404 and no body. -/
theorem process_no_body : ¬ Translates createUser (.reply 404 .empty) := by
  intro h
  obtain ⟨message, hresult⟩ := h (by decide) [] rfl
  cases hresult

/-! ## The retries -/

/-- `isinstance(response, RgwError) and response.http_status == 503`. -/
def isUnavailable : RgwResponse → Bool
  | .rgwError e => e.http_status == 503
  | .mapped _ => false

/-- The requests that were sent, and what came of it. -/
structure Execution where
  sent : List RgwRequest
  result : Except Exc (Option RgwResponse)

/-- The loop of `execute` from the turn `retry` on, with `left` turns to come at most; `sent` are
the requests of the turns before, and `response` is what the last of them has bound.
`process k` is what comes of the `k`-th request.  Where no turn is made, `response` is unbound
and `none` stands for what its `return` raises. -/
def execute_loop (request : RgwRequest) (process : Nat → Except Exc RgwResponse) :
    (left retry : Nat) → List RgwRequest → Option RgwResponse → Execution
  | 0, _, sent, response => ⟨sent, .ok response⟩
  | left + 1, retry, sent, _ =>
      match process retry with
      | .error e => ⟨sent ++ [request], .error e⟩
      | .ok response =>
          if isUnavailable response then
            execute_loop request process left (retry + 1) (sent ++ [request]) (some response)
          else ⟨sent ++ [request], .ok (some response)⟩

/-- The request of an operation. -/
def request (operation : RgwOperation) (kwargs : Dict String Json) : RgwRequest where
  method := operation.1.2.METHOD
  endpoint := operation.1.2.ENDPOINT
  query_params := _build_request operation.1.2.REQUEST_BODY_SCHEMA kwargs

/-- `execute(operation, **kwargs)`; `outcomes k` is what comes of the `k`-th request. -/
def execute_retrying (MAX_RETRY_COUNT : Nat) (operation : RgwOperation)
    (kwargs : Dict String Json) (outcomes : Nat → RgwOutcome) : Execution :=
  execute_loop (request operation kwargs) (fun retry => _process operation (outcomes retry))
    MAX_RETRY_COUNT 0 [] none

/-- The service is not available: a reply with the status 503, or a failure to connect. -/
def Unavailable : RgwOutcome → Prop
  | .reply status _ => status = 503
  | .s3ClientException message => cannotConnect message = true
  | .exception => False

/-- What is asked of an execution: as long as the service is unavailable the same request is
sent again, up to `n` times, and what is returned is made of the last outcome. -/
def Retries (n : Nat) (operation : RgwOperation) (kwargs : Dict String Json)
    (outcomes : Nat → RgwOutcome) (execution : Execution) : Prop :=
  ∃ last < n,
    execution.sent = List.replicate (last + 1) (request operation kwargs) ∧
    execution.result = (_process operation (outcomes last)).map some ∧
    (∀ before < last, Unavailable (outcomes before)) ∧
    (last + 1 = n ∨ ¬ Unavailable (outcomes last))

/-- The body of a reply names a member of `RgwErrors`. -/
def NamesError (body : ReplyBody) : Prop :=
  ∃ entries name error_code, body.loads = some (.obj entries) ∧
    entries.lookup "Code" = some (.str name) ∧ RgwErrors.members.lookup name = some error_code

/-- The outcome is translated to an error with the status 503 if it is unavailable at all. -/
def Recognised : RgwOutcome → Prop
  | .reply _ body => NamesError body
  | _ => True

/-- The result asks for another turn. -/
def again (result : Except Exc RgwResponse) : Bool :=
  match result with
  | .ok response => isUnavailable response
  | .error _ => false

section

variable (request : RgwRequest) {process : Nat → Except Exc RgwResponse} {retry : Nat}

theorem execute_loop_stop (h : again (process retry) = false) (left : Nat)
    (sent : List RgwRequest) (response : Option RgwResponse) :
    execute_loop request process (left + 1) retry sent response =
      ⟨sent ++ [request], (process retry).map some⟩ := by
  rw [execute_loop]
  cases hresult : process retry with
  | error e => rfl
  | ok response =>
      rw [hresult] at h
      exact if_neg (Bool.eq_false_iff.mp h)

theorem execute_loop_again (h : again (process retry) = true) (left : Nat)
    (sent : List RgwRequest) (response : Option RgwResponse) :
    ∃ next, process retry = .ok next ∧
      execute_loop request process (left + 1) retry sent response =
        execute_loop request process left (retry + 1) (sent ++ [request]) (some next) := by
  rw [execute_loop]
  cases hresult : process retry with
  | error e => rw [hresult] at h; cases h
  | ok next =>
      rw [hresult] at h
      exact ⟨next, rfl, if_pos h⟩

/-- The turns of the loop: all but the last ask for another, and the last does not, or is the
last there is. -/
theorem execute_loop_spec (process : Nat → Except Exc RgwResponse) (left retry : Nat)
    (sent : List RgwRequest) (response : Option RgwResponse) :
    ∃ more ≤ left, execute_loop request process (left + 1) retry sent response =
        ⟨sent ++ List.replicate (more + 1) request, (process (retry + more)).map some⟩ ∧
      (∀ j < more, again (process (retry + j)) = true) ∧
      (more = left ∨ again (process (retry + more)) = false) := by
  induction left generalizing retry sent response with
  | zero =>
      refine ⟨0, le_rfl, ?_, fun j hj => absurd hj (Nat.not_lt_zero j), .inl rfl⟩
      cases hagain : again (process retry) with
      | false => exact execute_loop_stop request hagain 0 sent response
      | true =>
          obtain ⟨next, hnext, hloop⟩ := execute_loop_again request hagain 0 sent response
          simp only [hloop, Nat.add_zero, hnext]
          rfl
  | succ left ih =>
      cases hagain : again (process retry) with
      | false =>
          exact ⟨0, Nat.zero_le _, execute_loop_stop request hagain _ sent response,
            fun j hj => absurd hj (Nat.not_lt_zero j), .inr hagain⟩
      | true =>
          obtain ⟨next, -, hstep⟩ := execute_loop_again request hagain (left + 1) sent response
          obtain ⟨more, hmore, hloop, hbefore, hlast⟩ :=
            ih (retry + 1) (sent ++ [request]) (some next)
          have hshift : ∀ j, retry + 1 + j = retry + (j + 1) := fun j => by omega
          simp only [hshift] at hloop hbefore hlast
          refine ⟨more + 1, Nat.succ_le_succ hmore, ?_, ?_, ?_⟩
          · rw [hstep, hloop, List.append_assoc, List.singleton_append, ← List.replicate_succ]
          · intro j hj
            cases j with
            | zero => exact hagain
            | succ j => exact hbefore j (Nat.lt_of_succ_lt_succ hj)
          · exact hlast.imp (congrArg Nat.succ) id

end

/-- A code is found exactly where it names a member. -/
theorem errorCode_eq_ok {d : Json} {error_code : RgwErrors} :
    errorCode d = .ok error_code ↔
      ∃ entries name, d = .obj entries ∧ entries.lookup "Code" = some (.str name) ∧
        RgwErrors.members.lookup name = some error_code := by
  constructor
  · intro h
    cases d with
    | obj entries =>
        cases hlookup : entries.lookup "Code" with
        | none => rw [errorCode, bodyCode, hlookup] at h; cases h
        | some Code =>
            rw [errorCode, bodyCode_of_lookup hlookup] at h
            cases Code with
            | str name =>
                cases hname : RgwErrors.members.lookup name with
                | none =>
                    have hnone : RgwErrors.getitem (.str name) = .ok error_code := h
                    rw [RgwErrors.getitem, hname] at hnone
                    cases hnone
                | some found =>
                    have hfound : RgwErrors.getitem (.str name) = .ok error_code := h
                    rw [RgwErrors.getitem, hname] at hfound
                    cases hfound
                    exact ⟨entries, name, rfl, hlookup, hname⟩
            | _ => cases h
    | _ => cases h
  · rintro ⟨entries, name, rfl, hlookup, hname⟩
    have hitem : errorCode (.obj entries) = RgwErrors.getitem (.str name) := by
      rw [errorCode, bodyCode_of_lookup hlookup]
      rfl
    rw [hitem, RgwErrors.getitem, hname]
    rfl

/-- A reply keeps its status in the error where its code names a member, and has the status
500 in every other. -/
theorem create_error_eq_ok {status : Nat} {d : Json} {e : RgwError}
    (h : _create_error status d = .ok e) :
    errorCode d = .ok e.error_code ∧ e.http_status = status ∨ e.http_status = 500 := by
  rw [_create_error] at h
  cases hcode : errorCode d with
  | ok error_code =>
      rw [hcode] at h
      cases h
      exact .inl ⟨rfl, rfl⟩
  | error err =>
      rw [hcode] at h
      cases err with
      | keyError =>
          cases hbody : bodyCode d with
          | error err => simp only [hbody] at h; cases h
          | ok Code =>
              simp only [hbody] at h
              cases h
              exact .inr rfl
      | _ => cases h

/-- The error of a body that names a member. -/
theorem create_error_named {status : Nat} {d : Json} {error_code : RgwErrors}
    (h : errorCode d = .ok error_code) :
    _create_error status d = .ok ⟨status, error_code, error_code.value⟩ := by
  rw [_create_error, h]

/-- An unavailable outcome that is recognised asks for another turn, and no other outcome. -/
theorem again_process (operation : RgwOperation) (outcome : RgwOutcome) :
    again (_process operation outcome) = true ↔ Unavailable outcome ∧ Recognised outcome := by
  cases outcome with
  | reply status body =>
      rw [_process, success_code]
      cases hbody : body.loads with
      | none =>
          refine iff_of_false Bool.false_ne_true ?_
          rintro ⟨-, entries, name, error_code, hloads, -⟩
          rw [hbody] at hloads
          cases hloads
      | some d =>
          by_cases hstatus : status = 200
          · refine iff_of_false ?_ fun h => absurd (hstatus.symm.trans h.1) (by decide)
            simp only [hstatus, ne_eq, not_true_eq_false, if_false]
            split <;> exact Bool.false_ne_true
          · simp only [if_pos hstatus]
            constructor
            · intro hagain
              cases herror : _create_error status d with
              | error err => rw [herror] at hagain; cases hagain
              | ok e =>
                  rw [herror] at hagain
                  have h503 : e.http_status = 503 := beq_iff_eq.mp hagain
                  rcases create_error_eq_ok herror with ⟨hcode, rfl⟩ | h500
                  · obtain ⟨entries, name, rfl, hlookup, hname⟩ := errorCode_eq_ok.mp hcode
                    exact ⟨h503, entries, name, e.error_code, hbody, hlookup, hname⟩
                  · exact absurd (h500.symm.trans h503) (by decide)
            · rintro ⟨h503, entries, name, error_code, hloads, hlookup, hname⟩
              cases hbody.symm.trans hloads
              have hcode := errorCode_eq_ok.mpr ⟨entries, name, rfl, hlookup, hname⟩
              rw [create_error_named hcode]
              exact beq_iff_eq.mpr h503
  | s3ClientException message =>
      rw [_process]
      split
      · rename_i hmessage
        refine iff_of_false Bool.false_ne_true fun h => ?_
        have hcannot : cannotConnect message = true := h.1
        rw [hmessage] at hcannot
        revert hcannot
        decide +kernel
      · split
        · rename_i hconnect
          exact iff_of_true rfl ⟨hconnect, trivial⟩
        · rename_i hconnect
          exact iff_of_false Bool.false_ne_true fun h => hconnect h.1
  | exception => exact iff_of_false Bool.false_ne_true fun h => h.1

/-- The retries are those that are asked for exactly when every unavailable outcome that they
should not end with is recognised. -/
theorem execute_retries_iff (n : Nat) (operation : RgwOperation) (kwargs : Dict String Json)
    (outcomes : Nat → RgwOutcome) :
    Retries (n + 1) operation kwargs outcomes
        (execute_retrying (n + 1) operation kwargs outcomes) ↔
      ∀ j < n, (∀ i ≤ j, Unavailable (outcomes i)) → Recognised (outcomes j) := by
  obtain ⟨more, hmore, hloop, hbefore, hlast⟩ :=
    execute_loop_spec (request operation kwargs)
      (fun retry => _process operation (outcomes retry)) n 0 [] none
  simp only [Nat.zero_add, List.nil_append, again_process] at hloop hbefore hlast
  have hsent : (execute_retrying (n + 1) operation kwargs outcomes).sent.length = more + 1 := by
    rw [execute_retrying, hloop, List.length_replicate]
  constructor
  · rintro ⟨last, -, hsame, -, -, hend⟩ j hj hall
    rw [hsame, List.length_replicate] at hsent
    cases hsent
    rcases Nat.lt_or_ge j more with hjmore | hmorej
    · exact (hbefore j hjmore).2
    · -- the service was unavailable the last time, and that was not the `n + 1`-th
      rcases hend with hn | hn
      · omega
      · exact absurd (hall more hmorej) hn
  · intro hrecognised
    refine ⟨more, Nat.lt_succ_of_le hmore, ?_, ?_, fun j hj => (hbefore j hj).1, ?_⟩
    · rw [execute_retrying, hloop]
    · rw [execute_retrying, hloop]
    · rcases hlast with hlast | hlast
      · exact .inl (congrArg Nat.succ hlast)
      · by_cases hn : more = n
        · exact .inl (congrArg Nat.succ hn)
        · refine .inr fun hmoreUnavailable => ?_
          have hall : ∀ i ≤ more, Unavailable (outcomes i) := by
            intro i hi
            rcases Nat.lt_or_eq_of_le hi with hlt | rfl
            · exact (hbefore i hlt).1
            · exact hmoreUnavailable
          have hagain := (again_process operation (outcomes more)).mpr
            ⟨hmoreUnavailable, hrecognised more (Nat.lt_of_le_of_ne hmore hn) hall⟩
          rw [hlast] at hagain
          cases hagain

/-- A service that answers twice that it is unavailable, in a body without a code that is
known, and then serves the request: it is asked once. -/
theorem execute_gives_up :
    ¬ Retries 3 createUser Table.empty
      (fun k => if k < 2 then .reply 503 (.json (.obj [("Code", .str "SlowDown")]))
        else .reply 200 .empty)
      (execute_retrying 3 createUser Table.empty
        (fun k => if k < 2 then .reply 503 (.json (.obj [("Code", .str "SlowDown")]))
          else .reply 200 .empty)) := by
  rintro ⟨last, -, hsent, -, -, hend⟩
  have hlast : 1 = last + 1 := by
    have hlen := congrArg List.length hsent
    rw [List.length_replicate] at hlen
    exact hlen
  cases hlast
  rcases hend with h | h
  · exact absurd h (by decide)
  · exact h rfl

end RGWPlugin

end CortxCsm
