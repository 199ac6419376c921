/-
# `CortxCsm.Errors` — `csm/common/errors.py`

The error classes a service raises, each with its return code and the
`message_id` its constructor defaults to.  Every subclass fixes its return code;
only the base class is raised with a code of the caller's choosing.

`Exc` is what an awaited call can end with instead of a value: a `CsmError` of
some class, or one of the built-in exceptions that the modelled code runs into
(an attribute of `None`, a missing dictionary key, a text that is no hash).
-/
import Mathlib.Logic.Basic

namespace CortxCsm

/-! ## Return codes -/

def CSM_ERR_INVALID_VALUE : Nat := 0x1001
def CSM_INVALID_REQUEST : Nat := 0x1003
def CSM_INTERNAL_ERROR : Nat := 0x1005
def CSM_SETUP_ERROR : Nat := 0x1006
def CSM_RESOURCE_EXIST : Nat := 0x1007
def CSM_OPERATION_NOT_PERMITTED : Nat := 0x1008
def CSM_SERVICE_NOT_AVAILABLE : Nat := 0x100A
def CSM_REQUEST_CANCELLED : Nat := 0x100B
def CSM_SERVICE_CONFLICT : Nat := 0x100D
def CSM_GATEWAY_TIMEOUT : Nat := 0x100E
def CSM_UNAUTHORIZED_ERROR : Nat := 0x100F

/-! ## Classes -/

/-- `CsmError` and its subclasses. -/
inductive ErrorClass
  | CsmError
  | CsmSetupError
  | InvalidRequest
  | ResourceExist
  | CsmInternalError
  | CsmNotFoundError
  | CsmPermissionDenied
  | CsmResourceNotAvailable
  | CsmTypeError
  | CsmNotImplemented
  | CsmServiceConflict
  | CsmGatewayTimeout
  | CsmUnauthorizedError
  | CsmServiceNotAvailable
  | CsmRequestCancelled
  deriving DecidableEq, Repr

structure CsmError where
  cls : ErrorClass
  rc : Nat
  desc : Option String
  message_id : Option String
  message_args : Option String
  deriving DecidableEq, Repr

/-- `CsmError(rc, desc)`. -/
def csmError (rc : Nat) (desc : String) : CsmError :=
  ⟨.CsmError, rc, some desc, none, none⟩

/-- `ResourceExist(desc, message_id)`. -/
def resourceExist (desc message_id : String) : CsmError :=
  ⟨.ResourceExist, CSM_RESOURCE_EXIST, some desc, some message_id, none⟩

/-- `CsmNotFoundError(desc, message_id = NOT_FOUND_ERROR)`; its code is the internal
error's. -/
def csmNotFoundError (desc : Option String) (message_id : String) : CsmError :=
  ⟨.CsmNotFoundError, CSM_INTERNAL_ERROR, desc, some message_id, none⟩

/-- `CsmInternalError(desc)`. -/
def csmInternalError (desc : String) : CsmError :=
  ⟨.CsmInternalError, CSM_INTERNAL_ERROR, some ("Internal error: " ++ desc), some "InternalError",
    none⟩

/-- `CsmPermissionDenied(desc, message_id, message_args)`. -/
def csmPermissionDenied (desc : Option String) (message_id : String)
    (message_args : Option String) : CsmError :=
  ⟨.CsmPermissionDenied, CSM_OPERATION_NOT_PERMITTED, desc, some message_id, message_args⟩

/-- `CsmUnauthorizedError(desc)`. -/
def csmUnauthorizedError (desc : String) : CsmError :=
  ⟨.CsmUnauthorizedError, CSM_UNAUTHORIZED_ERROR, some desc, some "UnauthorizedError", none⟩

/-- `const.NOT_FOUND_ERROR`. -/
def NOT_FOUND_ERROR : String := "NotFoundError"

/-- `const.PERMISSION_DENIED_ERROR`. -/
def PERMISSION_DENIED_ERROR : String := "PermissionDenied"

/-! ## Exceptions -/

inductive Exc
  | csm (e : CsmError)
  | attributeError
  | keyError
  | valueError
  | typeError
  | dataAccessError
  | cancelledError
  deriving DecidableEq, Repr

/-- Whether `except CsmError` catches it. -/
def Exc.isCsm : Exc → Bool
  | .csm _ => true
  | _ => false

end CortxCsm
