/-
# `CortxCsm.ErrorReports` — `csm/core/agent/api.py`, from a raised exception to a response

`rest_middleware` answers an exception of a handler with the status of the first
`except` clause that matches it and with what `error_response` makes of it.
`error_response` collects code, text, id and arguments of the error and loads the
result with `ErrorResponseSchema`; where the schema refuses it, the name that is
returned has never been bound, and the exception this raises leaves the
middleware.

| raised | first clause | reported as |
| :-- | :-- | :-- |
| a cancellation | 499 | a `CsmRequestCancelled` of its own |
| `CsmHttpException` | raised again | |
| `web.HTTPException` | its status | its reason |
| `CsmError` | by class | its own code, id and text |
| `KeyError` | 422 | a `KeyError` of its own |
| anything else | 503 or 500 | its text |

What is proved: status and body are those of the error exactly when the error has
a text and an id that are not blank, and no arguments (`error_reported_exact`).
-/
import CortxCsm.Errors
import CortxCsm.Validators

namespace CortxCsm

def CSM_UNKNOWN_ERROR : Int := 0x1010
def CSM_HTTP_ERROR : Int := 0x1011
def UNKNOWN_ERROR : String := "UnknownError"
def HTTP_ERROR : String := "HttpError"
def REQUEST_CANCELLED : String := "RequestCancelled"

/-- `repr` of a text: it starts with a quote. -/
class PyRepr where
  repr : String → String
  repr_not_blank : ∀ text, blank (repr text) = false

export PyRepr (repr repr_not_blank)

/-! ## What a handler raises -/

/-- A `CsmError` by what its methods return. -/
structure CsmFault where
  cls : ErrorClass
  rc : Int
  error : Option String
  message_id : Option String
  message_args : Option Json

/-- The super class, as far as a clause asks for it. -/
def ErrorClass.super : ErrorClass → ErrorClass
  | .CsmResourceNotAvailable => .CsmInternalError
  | .CsmTypeError => .CsmInternalError
  | _ => .CsmError

/-- `issubclass`. -/
def ErrorClass.isSubclass (cls of : ErrorClass) : Bool :=
  cls = of || cls.super = of || cls.super.super = of

/-- An exception; `text` is its `str`. -/
inductive Raised
  | cancelled
  | csmHttp (status : Int) (body : Dict String Json)
  | http (isError : Bool) (status : Int) (reason : String)
  | dataAccess (text : String)
  | csm (fault : CsmFault)
  | keyError (text : String)
  | serverDisconnected (text : String)
  | clientConnector (text : String)
  | clientOS (text : String)
  | timeout (text : String)
  | other (text : String)

/-- `CsmRequestCancelled(desc="Call cancelled by client")`. -/
def requestCancelled : CsmFault where
  cls := .CsmRequestCancelled
  rc := CSM_REQUEST_CANCELLED
  error := some "Call cancelled by client"
  message_id := some REQUEST_CANCELLED
  message_args := none

/-- `str(err)` of an exception that is not a `CsmError`. -/
def Raised.str : Raised → String
  | .http _ _ reason => reason
  | .dataAccess text => text
  | .keyError text => text
  | .serverDisconnected text => text
  | .clientConnector text => text
  | .clientOS text => text
  | .timeout text => text
  | .other text => text
  | _ => ""

/-! ## The body -/

def ErrorResponseSchema : Schema := ValidateSchema {
  rows := [requiredField "error_code" .Int, requiredField "message_id" .Str,
    requiredField "message" .Str]
  nodup := by simp [requiredField] }

/-- A text or `None`. -/
def ofText : Option String → Json
  | some text => .str text
  | none => .null

/-- The dictionary before the exception is looked at. -/
def noError (debug : Bool) (format_exc : List String) : Dict String Json :=
  let resp : Dict String Json :=
    Table.setAll .empty [("error_code", .null), ("message", .null), ("message_id", .null)]
  if debug then resp.set "stacktrace" (.arr (format_exc.map .str)) else resp

/-- `resp`, as it is loaded. -/
def resp (debug : Bool) (format_exc : List String) (err : Raised) : Dict String Json :=
  match err with
  | .csm fault =>
      let resp := (((noError debug format_exc).set "error_code" (.int fault.rc)).set "message"
        (ofText fault.error)).set "message_id" (ofText fault.message_id)
      match fault.message_args with
      | some args => resp.set "error_format_args" args
      | none => resp
  | .http true _ reason =>
      (((noError debug format_exc).set "error_code" (.int CSM_HTTP_ERROR)).set "message_id"
        (.str HTTP_ERROR)).set "message" (.str reason)
  | _ =>
      (((noError debug format_exc).set "message" (.str err.str)).set "message_id"
        (.str UNKNOWN_ERROR)).set "error_code" (.int CSM_UNKNOWN_ERROR)

/-- The local variable is read before it is bound. -/
structure UnboundLocalError where

/-! ## The clauses -/

inductive Clause
  | Cancelled
  | CsmHttpException
  | HTTPException
  | DataAccessError
  | Csm (cls : ErrorClass)
  | KeyError
  | Disconnected
  | Exception

/-- `isinstance`, for the classes of the clauses. -/
def Raised.isinstance (err : Raised) : Clause → Bool
  | .Cancelled => match err with | .cancelled => true | _ => false
  | .CsmHttpException => match err with | .csmHttp .. => true | _ => false
  | .HTTPException => match err with | .csmHttp .. => true | .http .. => true | _ => false
  | .DataAccessError => match err with | .dataAccess _ => true | _ => false
  | .Csm cls => match err with | .csm fault => fault.cls.isSubclass cls | _ => false
  | .KeyError => match err with | .keyError _ => true | _ => false
  | .Disconnected =>
      match err with
      | .serverDisconnected _ => true
      | .clientConnector _ => true
      | .clientOS _ => true
      | .timeout _ => true
      | _ => false
  | .Exception => true

/-- The clauses, in order. -/
def excepts : List Clause :=
  [.Cancelled, .CsmHttpException, .HTTPException, .DataAccessError, .Csm .InvalidRequest,
    .Csm .CsmNotFoundError, .Csm .CsmPermissionDenied, .Csm .ResourceExist,
    .Csm .CsmInternalError, .Csm .CsmNotImplemented, .Csm .CsmGatewayTimeout,
    .Csm .CsmServiceConflict, .Csm .CsmUnauthorizedError, .Csm .CsmError, .KeyError,
    .Disconnected, .Exception]

/-- The status a clause answers with. -/
def Clause.status (err : Raised) : Clause → Int
  | .Cancelled => 499
  | .CsmHttpException => match err with | .csmHttp status _ => status | _ => 0
  | .HTTPException => match err with | .http _ status _ => status | _ => 0
  | .DataAccessError => 503
  | .Csm .InvalidRequest => 400
  | .Csm .CsmNotFoundError => 404
  | .Csm .CsmPermissionDenied => 403
  | .Csm .ResourceExist => 409
  | .Csm .CsmInternalError => 500
  | .Csm .CsmNotImplemented => 501
  | .Csm .CsmGatewayTimeout => 504
  | .Csm .CsmServiceConflict => 409
  | .Csm .CsmUnauthorizedError => 401
  | .Csm _ => 400
  | .KeyError => 422
  | .Disconnected => 503
  | .Exception => 500

/-- The exception a clause reports: its own in two cases. -/
def Clause.reports [PyRepr] (err : Raised) : Clause → Raised
  | .Cancelled => .csm requestCancelled
  | .KeyError => .keyError (repr s!"Missing Key for {err.str}")
  | _ => err

/-- How the middleware ends. -/
inductive Outcome
  | response (status : Int) (body : Dict String Json)
  | reraised (err : Raised)
  | crashed (error : UnboundLocalError)

section Middleware

variable [Marshmallow] (debug : Bool) (format_exc : List String)

def error_response (err : Raised) :
    Except UnboundLocalError (Dict String Json) :=
  match Marshmallow.load ErrorResponseSchema .EXCLUDE (.obj (resp debug format_exc err).rows) with
  | .ok err_response => .ok err_response
  | .error _ => .error ⟨⟩

/-- The clauses of `rest_middleware`, for an exception of the handler. -/
def rest_middleware [PyRepr] (err : Raised) : Outcome :=
  match excepts.find? err.isinstance with
  | none => .reraised err
  | some .CsmHttpException => .reraised err
  | some clause =>
      match error_response debug format_exc (clause.reports err) with
      | .ok body => .response (clause.status err) body
      | .error error => .crashed error

end Middleware

/-! ## What an error says of itself -/

/-- Code, id, text and arguments. -/
structure Described where
  error_code : Int
  message_id : Option String
  message : Option String
  message_args : Option Json

def Raised.described : Raised → Described
  | .csm fault => ⟨fault.rc, fault.message_id, fault.error, fault.message_args⟩
  | .http true _ reason => ⟨CSM_HTTP_ERROR, some HTTP_ERROR, some reason, none⟩
  | err => ⟨CSM_UNKNOWN_ERROR, some UNKNOWN_ERROR, some err.str, none⟩

/-- A text that the schema lets pass. -/
def Shown (text : Option String) : Prop := ∃ s, text = some s ∧ blank s = false

instance (text : Option String) : Decidable (Shown text) :=
  match text with
  | none => isFalse fun ⟨_, h, _⟩ => nomatch h
  | some s => decidable_of_iff (blank s = false) ⟨fun h => ⟨s, rfl, h⟩, fun ⟨_, h, hs⟩ => by
      cases h; exact hs⟩

/-- What is loaded for the three fields. -/
theorem get?_resp (debug : Bool) (format_exc : List String) (err : Raised) :
    (resp debug format_exc err).get? "error_code" = some (.int err.described.error_code) ∧
      (resp debug format_exc err).get? "message_id" = some (ofText err.described.message_id) ∧
        (resp debug format_exc err).get? "message" = some (ofText err.described.message) := by
  cases err with
  | csm fault =>
      obtain ⟨cls, rc, error, message_id, message_args⟩ := fault
      cases message_args with
      | none => simp [resp, Raised.described]
      | some args => simp [resp, Raised.described]
  | http isError status reason =>
      cases isError with
      | true => simp [resp, Raised.described, ofText]
      | false => simp [resp, Raised.described, ofText]
  | _ => simp [resp, Raised.described, ofText]

/-- The body of a report. -/
def reportBody (error_code : Int) (message_id message : String) : Dict String Json where
  rows := [("error_code", .int error_code), ("message_id", .str message_id),
    ("message", .str message)]
  nodup := by simp

section Report

variable [Marshmallow] [LawfulMarshmallow] {debug : Bool} {format_exc : List String}

/-- A text field of the report. -/
theorem load_ofText {name : String} {entries : List (String × Json)} {text : Option String}
    {v : Json} (hlookup : entries.lookup name = some (ofText text)) :
    (requiredField name .Str).load entries = some v ↔ ∃ s, text = some s ∧ v = .str s := by
  unfold SchemaField.load
  rw [show (requiredField name .Str).data_key = name from rfl, hlookup]
  cases text with
  | none => exact ⟨fun h => (nomatch h), fun ⟨_, h, _⟩ => (nomatch h)⟩
  | some s =>
      simp only [ofText]
      rw [Option.filter_eq_some_iff]
      constructor
      · rintro ⟨h, -⟩
        obtain ⟨s', hs', rfl⟩ := LawfulMarshmallow.deserialize_str.mp h
        cases hs'
        exact ⟨s, rfl, rfl⟩
      · rintro ⟨s', hs', rfl⟩
        cases hs'
        exact ⟨LawfulMarshmallow.deserialize_str.mpr ⟨s, rfl, rfl⟩, rfl⟩

theorem load_error_code {entries : List (String × Json)} {code : Int} {v : Json}
    (hlookup : entries.lookup "error_code" = some (.int code)) :
    (requiredField "error_code" .Int).load entries = some v ↔ v = .int code := by
  unfold SchemaField.load
  rw [show (requiredField "error_code" .Int).data_key = "error_code" from rfl, hlookup]
  show (deserialize .Int (.int code)).filter _ = some v ↔ _
  rw [LawfulMarshmallow.deserialize_int, Option.filter_eq_some_iff]
  exact ⟨fun h => (Option.some.inj h.1).symm, fun h => ⟨by rw [h], rfl⟩⟩

omit [LawfulMarshmallow] in
/-- `error_response` is the load of what it has put together. -/
theorem error_response_eq_ok_iff_load {err : Raised} {body : Dict String Json} :
    error_response debug format_exc err = .ok body ↔ Marshmallow.load
      ErrorResponseSchema .EXCLUDE (.obj (resp debug format_exc err).rows) = .ok body := by
  unfold error_response
  split
  · rename_i h
    rw [h]
    exact ⟨fun h => congrArg _ (Except.ok.inj h), fun h => congrArg _ (Except.ok.inj h)⟩
  · rename_i h
    rw [h]
    constructor
    · intro h
      cases h
    · intro h
      cases h

/-- The report is made exactly when the error shows an id and a text. -/
theorem error_response_eq_ok {err : Raised} {body : Dict String Json} :
    error_response debug format_exc err = .ok body ↔
      ∃ message_id message, err.described.message_id = some message_id ∧
        err.described.message = some message ∧ blank message_id = false ∧
          blank message = false ∧
            body = reportBody err.described.error_code message_id message := by
  obtain ⟨hcode, hid, hmessage⟩ := get?_resp debug format_exc err
  rw [← Table.lookup_rows] at hcode hid hmessage
  rw [error_response_eq_ok_iff_load, LawfulMarshmallow.load_eq_ok]
  constructor
  · rintro ⟨entries, hentries, -, hkeys, hfields, hvalid⟩
    cases hentries
    obtain ⟨code, hc, hgc⟩ := hfields (requiredField "error_code" .Int) (by
      exact List.mem_cons_self ..)
    obtain ⟨i, hi, hgi⟩ := hfields (requiredField "message_id" .Str) (by
      exact List.mem_cons_of_mem _ (List.mem_cons_self ..))
    obtain ⟨m, hm, hgm⟩ := hfields (requiredField "message" .Str) (by
      exact List.mem_cons_of_mem _ (List.mem_cons_of_mem _ (List.mem_cons_self ..)))
    rw [load_error_code hcode] at hc
    obtain ⟨message_id, hid', rfl⟩ := (load_ofText hid).mp hi
    obtain ⟨message, hmessage', rfl⟩ := (load_ofText hmessage).mp hm
    have hblank := invalidate_empty_values_iff.mp hvalid
    refine ⟨message_id, message, hid', hmessage', hblank _ _ hgi, hblank _ _ hgm, ?_⟩
    refine Table.ext_of_keys hkeys fun k hk => ?_
    rw [hkeys] at hk
    simp only [ErrorResponseSchema, ValidateSchema, requiredField, List.map_cons, List.map_nil,
      List.mem_cons, List.not_mem_nil, or_false] at hk
    rcases hk with rfl | rfl | rfl
    · rw [hc] at hgc
      exact hgc
    · exact hgi
    · exact hgm
  · rintro ⟨message_id, message, hid', hmessage', hblankId, hblank, rfl⟩
    refine ⟨_, rfl, fun h => Unknown.noConfusion h, rfl, fun field hfield => ?_, ?_⟩
    · rcases List.mem_cons.mp hfield with rfl | hfield
      · exact ⟨_, (load_error_code hcode).mpr rfl, rfl⟩
      · rcases List.mem_cons.mp hfield with rfl | hfield
        · exact ⟨_, (load_ofText hid).mpr ⟨message_id, hid', rfl⟩, rfl⟩
        · rw [List.mem_singleton.mp hfield]
          exact ⟨_, (load_ofText hmessage).mpr ⟨message, hmessage', rfl⟩, rfl⟩
    · simp [ErrorResponseSchema, ValidateSchema, invalidate_empty_values, reportBody, emptyValue,
        hblankId, hblank]

end Report

/-! ## The first clause -/

def ErrorClass.clause : ErrorClass → ErrorClass
  | .CsmSetupError => .CsmError
  | .CsmResourceNotAvailable => .CsmInternalError
  | .CsmTypeError => .CsmInternalError
  | .CsmServiceNotAvailable => .CsmError
  | .CsmRequestCancelled => .CsmError
  | cls => cls

def Raised.clause : Raised → Clause
  | .cancelled => .Cancelled
  | .csmHttp .. => .CsmHttpException
  | .http .. => .HTTPException
  | .dataAccess _ => .DataAccessError
  | .csm fault => .Csm fault.cls.clause
  | .keyError _ => .KeyError
  | .other _ => .Exception
  | _ => .Disconnected

/-- No clause hides a later one that is more specific. -/
theorem find?_excepts (err : Raised) : excepts.find? err.isinstance = some err.clause := by
  cases err with
  | csm fault =>
      obtain ⟨cls, rc, error, message_id, message_args⟩ := fault
      cases cls <;> rfl
  | _ => rfl

/-! ## The response -/

/-- The outcome an error should have: the status of the first clause that matches, and a
body with all the error says of itself; a `CsmHttpException` is a response already. -/
def Outcome.Reports [PyRepr] (err : Raised) : Outcome → Prop
  | .response status body => ∃ clause, excepts.find? err.isinstance = some clause ∧
      status = clause.status err ∧
      body.get? "error_code" = some (.int (clause.reports err).described.error_code) ∧
      body.get? "message_id" = some (ofText (clause.reports err).described.message_id) ∧
      body.get? "message" = some (ofText (clause.reports err).described.message) ∧
      ∀ args, (clause.reports err).described.message_args = some args →
        body.get? "error_format_args" = some args
  | .reraised err' => err' = err ∧ ∃ status body, err = .csmHttp status body
  | .crashed _ => False

/-- The errors whose id and text are there and not blank, and that have no arguments. -/
def Raised.Reportable : Raised → Prop
  | .cancelled => True
  | .csmHttp .. => True
  | .keyError _ => True
  | .csm fault => Shown fault.message_id ∧ Shown fault.error ∧ fault.message_args = none
  | err => blank err.str = false

section Report

variable [Marshmallow] [LawfulMarshmallow] [PyRepr] {debug : Bool} {format_exc : List String}

omit [LawfulMarshmallow] in
theorem rest_middleware_eq {err : Raised} (h : err.isinstance .CsmHttpException = false) :
    rest_middleware debug format_exc err =
      match error_response debug format_exc (err.clause.reports err) with
      | .ok body => .response (err.clause.status err) body
      | .error error => .crashed error := by
  unfold rest_middleware
  rw [find?_excepts]
  cases err with
  | csmHttp status body => cases h
  | _ => rfl

theorem reports_iff {err : Raised} (h : err.isinstance .CsmHttpException = false) :
    (rest_middleware debug format_exc err).Reports err ↔
      Shown (err.clause.reports err).described.message_id ∧
        Shown (err.clause.reports err).described.message ∧
          (err.clause.reports err).described.message_args = none := by
  rw [rest_middleware_eq h]
  cases hr : error_response debug format_exc (err.clause.reports err) with
  | ok body =>
      obtain ⟨message_id, message, hid, hmessage, hblankId, hblank, rfl⟩ :=
        error_response_eq_ok.mp hr
      constructor
      · rintro ⟨clause, hclause, -, -, -, -, hargs⟩
        cases (find?_excepts err).symm.trans hclause
        refine ⟨⟨message_id, hid, hblankId⟩, ⟨message, hmessage, hblank⟩, ?_⟩
        rw [Option.eq_none_iff_forall_ne_some]
        exact fun args hsome => nomatch hargs args hsome
      · rintro ⟨-, -, hargs⟩
        refine ⟨err.clause, find?_excepts err, rfl, rfl, ?_, ?_, fun args hsome => ?_⟩
        · rw [hid]
          rfl
        · rw [hmessage]
          rfl
        · rw [hargs] at hsome
          cases hsome
  | error _ =>
      refine ⟨fun h => h.elim, ?_⟩
      rintro ⟨⟨message_id, hid, hblankId⟩, ⟨message, hmessage, hblank⟩, -⟩
      have hok : error_response debug format_exc (err.clause.reports err) =
          .ok (reportBody _ message_id message) :=
        error_response_eq_ok.mpr ⟨message_id, message, hid, hmessage, hblankId, hblank, rfl⟩
      rw [hr] at hok
      cases hok

omit [Marshmallow] [LawfulMarshmallow] [PyRepr] in
/-- Of an error that is no `CsmError` the text decides. -/
theorem shown_text {text : String} {args : Option Json} (hargs : args = none)
    {message_id : Option String} (hid : Shown message_id) :
    Shown message_id ∧ Shown (some text) ∧ args = none ↔ blank text = false := by
  constructor
  · rintro ⟨-, ⟨s, hs, hblank⟩, -⟩
    cases hs
    exact hblank
  · intro hblank
    exact ⟨hid, ⟨text, rfl, hblank⟩, hargs⟩

/-- Exactly the errors that show all they have are reported as they are. -/
theorem error_reported_exact (debug : Bool) (format_exc : List String) (err : Raised) :
    (rest_middleware debug format_exc err).Reports err ↔ err.Reportable := by
  cases err with
  | csmHttp status body => exact ⟨fun _ => trivial, fun _ => ⟨rfl, status, body, rfl⟩⟩
  | cancelled =>
      rw [reports_iff rfl]
      exact ⟨fun _ => trivial, fun _ => ⟨⟨REQUEST_CANCELLED, rfl, by decide⟩,
        ⟨"Call cancelled by client", rfl, by decide⟩, rfl⟩⟩
  | keyError text =>
      rw [reports_iff rfl]
      exact ⟨fun _ => trivial, fun _ => ⟨⟨UNKNOWN_ERROR, rfl, by decide⟩,
        ⟨_, rfl, repr_not_blank _⟩, rfl⟩⟩
  | csm fault => exact reports_iff rfl
  | http isError status reason =>
      rw [reports_iff rfl]
      cases isError with
      | true => exact shown_text rfl ⟨HTTP_ERROR, rfl, by decide⟩
      | false => exact shown_text rfl ⟨UNKNOWN_ERROR, rfl, by decide⟩
  | _ =>
      rw [reports_iff rfl]
      exact shown_text rfl ⟨UNKNOWN_ERROR, rfl, by decide⟩

end Report

/-! ### Errors that are not reported -/

/-- A `repr` for texts without quotes. -/
@[reducible] def plainRepr : PyRepr where
  repr := fun text => String.ofList ('"' :: text.toList ++ ['"'])
  repr_not_blank := fun text => by
    unfold blank
    rw [String.toList_ofList]
    rfl

/-- `CsmNotFoundError("There is no such user")`. -/
def notFound : CsmFault where
  cls := .CsmNotFoundError
  rc := CSM_INTERNAL_ERROR
  error := some "There is no such user"
  message_id := some "NotFoundError"
  message_args := none

/-- `InvalidRequest(message_args="Request body missing")`; the text is the one of the class. -/
def bodyMissing : CsmFault where
  cls := .InvalidRequest
  rc := CSM_INVALID_REQUEST
  error := some "Invalid request."
  message_id := some "MalformedRequest"
  message_args := some (.str "Request body missing")

theorem error_reported_exact_notFound :
    letI := plainMarshmallow
    letI := plainRepr
    (rest_middleware false [] (.csm notFound)).Reports (.csm notFound) := by
  let _ := plainMarshmallow
  let _ := plainRepr
  have := plainMarshmallow_lawful
  exact (error_reported_exact false [] (.csm notFound)).mpr
    ⟨⟨_, rfl, by decide⟩, ⟨_, rfl, by decide⟩, rfl⟩

/-- A timeout has no text: nothing is returned.  Arguments of an error are dropped. -/
theorem errors_unreported :
    letI := plainMarshmallow
    letI := plainRepr
    (∃ error, rest_middleware false [] (.timeout "") = .crashed error) ∧
      ∃ body, rest_middleware false [] (.csm bodyMissing) = .response 400 body ∧
        body.get? "error_format_args" = none ∧
          ¬ (rest_middleware false [] (.csm bodyMissing)).Reports (.csm bodyMissing) := by
  let _ := plainMarshmallow
  let _ := plainRepr
  refine ⟨⟨_, rfl⟩, _, rfl, rfl, ?_⟩
  rintro ⟨clause, hclause, -, -, -, -, hargs⟩
  cases hclause
  cases hargs _ rfl

end CortxCsm
