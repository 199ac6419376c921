/-
# `CortxCsm.Gate` — who gets past the middlewares

`session_middleware` and `permission_middleware` of `csm/core/agent/api.py`, over the
attributes that the decorators of `csm/core/controllers/view.py` put on view classes and on
their methods.  The first finds the session a bearer token stands for, the second compares
what the session permits with what the handler requires; each passes the request on to what
it is wrapped around.

A middleware takes the rest of the chain as an argument.  `Runs` and `Stops` say what
becomes of a request whatever that rest is: it is handed on, changed to `request'`, or the
rest is never called.

**Proved here.**

    a request is handed on exactly when it shows the id of a stored,
    unexpired session with the permissions of the handler          (`gate_exact`)
-/
import CortxCsm.Lib.Text
import CortxCsm.Sessions

namespace CortxCsm

/-! ## `CsmAuth` -/

namespace CsmAuth

def HDR : String := "Authorization"
def TYPE : String := "Bearer"

/-- The attributes `_csm_auth_public_`, `_csm_auth_hybrid_` and `_csm_auth_permissions_` of a
handler, as `getattr` reads them: absent ones are `False`, `False` and `PermissionSet()`. -/
structure Attributes where
  auth_public : Bool
  auth_hybrid : Bool
  auth_permissions : PermissionSet

/-- `HYBRID_APIS`: the configuration keys. -/
def HYBRID_APIS : Dict String String where
  rows := [("GET:/api/v2/metrics/stats/perf", "STATS>auth")]
  nodup := by decide

end CsmAuth

/-- A `CsmView` subclass: its own attributes, and those of its methods. -/
structure ViewClass where
  attributes : CsmAuth.Attributes
  methods : Dict String CsmAuth.Attributes

/-- What a request resolves to. -/
inductive Handler
  | view (cls : ViewClass)
  | function (attributes : CsmAuth.Attributes)

def Handler.attributes : Handler → CsmAuth.Attributes
  | .view cls => cls.attributes
  | .function attributes => attributes

/-- `const.SWAGGER_UI_URL` and `const.SWAGGER_UI_STATICS_URL`. -/
def SWAGGER_UI_URL : String := "/api/doc"
def SWAGGER_UI_STATICS_URL : String := "/api/static"

/-- `const.ENABLE`. -/
def ENABLE : String := "enable"

/-- `path.startswith(url)`. -/
def startsWith (path url : String) : Bool := url.toList.isPrefixOf path.toList

/-- A request with what the router resolved it to.  Every view is registered under
`/api/v1/` or `/api/v2/`. -/
structure Request where
  method : String
  path : String
  authorization : Option String
  handler : Handler
  session : Option Session
  routed : ∀ cls, handler = .view cls →
    startsWith path "/api/v1/" = true ∨ startsWith path "/api/v2/" = true

def Request.withSession (request : Request) (session : Option Session) : Request :=
  { request with session := session }

@[simp] theorem Request.withSession_session (request : Request) (session : Option Session) :
    (request.withSession session).session = session := rfl

section Middlewares

variable [Runtime]

/-! ## `CsmView` -/

namespace CsmView

def _get_method_handler (handler : Handler) (name : String) : Option CsmAuth.Attributes :=
  match handler with
  | .view cls => cls.methods.get? (lower name)
  | .function _ => none

/-- The method's own attribute, or that of the whole view. -/
def is_public (handler : Handler) (method : String) : Bool :=
  match _get_method_handler handler method with
  | some method_handler =>
      if method_handler.auth_public then true else handler.attributes.auth_public
  | none => handler.attributes.auth_public

def is_hybrid (handler : Handler) (method : String) : Bool :=
  match _get_method_handler handler method with
  | some method_handler =>
      if method_handler.auth_hybrid then true else handler.attributes.auth_hybrid
  | none => handler.attributes.auth_hybrid

def get_permissions (handler : Handler) (method : String) : PermissionSet :=
  match _get_method_handler handler method with
  | some method_handler => method_handler.auth_permissions
  | none => handler.attributes.auth_permissions

end CsmView

/-! ## `CsmRestApi` -/

namespace CsmRestApi

open LoginService

variable {A : Type} (cfg : Settings)

def _is_public (request : Request) : Bool :=
  if startsWith request.path SWAGGER_UI_URL || startsWith request.path SWAGGER_UI_STATICS_URL then
    true
  else CsmView.is_public request.handler request.method

def _is_hybrid (request : Request) : Bool := CsmView.is_hybrid request.handler request.method

def _get_permissions (request : Request) : PermissionSet :=
  CsmView.get_permissions request.handler request.method

/-- `_unauthorised`; the reason is only logged. -/
def _unauthorised : Exc :=
  .csm (csmUnauthorizedError "Invalid authentication credentials for the target resource.")

def notFound (desc : Option String) : Exc := .csm (csmNotFoundError desc NOT_FOUND_ERROR)

def _extract_bearer (authorization : Option String) : Prog String :=
  match authorization with
  | none => throw (notFound (some s!"No {CsmAuth.HDR} header"))
  | some hdr =>
      if hdr = "" then throw (notFound (some s!"No {CsmAuth.HDR} header"))
      else
        match Text.split ' ' hdr with
        | [auth_type, session_id] => do
            raiseIf (auth_type ≠ CsmAuth.TYPE)
              (notFound (some s!"Invalid auth type {auth_type}"))
            return session_id
        | _ => throw (notFound (some
            s!"The header is incorrect. Expected \"{CsmAuth.HDR} session_id\""))

/-- `except CsmError as e: raise CsmNotFoundError(e.error())`; a session is never falsy. -/
def _validate_bearer (session_id : String) : Prog Session :=
  (auth_session cfg session_id).handle fun e =>
    match e with
    | .csm err => throw (notFound err.desc)
    | e => throw e

/-- `Conf.get(…, HYBRID_APIS[method:path])`, `conf` being the configuration. -/
def _retrieve_config (conf : String → Option String) (request : Request) : Prog (Option String) :=
  match CsmAuth.HYBRID_APIS.get? (request.method ++ ":" ++ request.path) with
  | none => throw .keyError
  | some conf_key => return conf conf_key

/-- Whether the request goes on without a session. -/
def needsNoSession (conf : String → Option String) (request : Request) : Prog Bool :=
  if _is_hybrid request then do
    let value ← _retrieve_config conf request
    match value with
    | none => throw .attributeError
    | some value => return !decide (lower value = ENABLE)
  else return _is_public request

/-- The `try` block. -/
def sessionOf (is_public : Bool) (request : Request) : Prog (Option Session) :=
  if is_public then return none
  else do
    let session_id ← _extract_bearer request.authorization
    let session ← _validate_bearer cfg session_id
    return some session

/-- `except CsmNotFoundError as e: CsmRestApi._unauthorised(e.error())`. -/
def exceptNotFound (e : Exc) : Prog (Option Session) :=
  match e with
  | .csm err => if err.cls = .CsmNotFoundError then throw _unauthorised else throw (.csm err)
  | e => throw e

def session_middleware (conf : String → Option String) (request : Request)
    (handler : Request → Prog A) : Prog A := do
  let is_public ← needsNoSession conf request
  let session ← (sessionOf cfg is_public request).handle exceptNotFound
  handler (request.withSession session)

def forbidden : Exc :=
  .csm (csmPermissionDenied (some "Access to the requested resource is forbidden")
    PERMISSION_DENIED_ERROR none)

def permission_middleware (request : Request) (handler : Request → Prog A) : Prog A :=
  match request.session with
  | none => handler request
  | some session =>
      if session.permissions.allows (_get_permissions request) then handler request
      else throw forbidden

/-- The two in the order of the application. -/
def gate (conf : String → Option String) (request : Request) (handler : Request → Prog A) :
    Prog A :=
  session_middleware cfg conf request fun request => permission_middleware request handler

/-! ## What becomes of a request -/

/-- Whatever the rest of the chain, it is called with `request'`. -/
def Runs (cfg : Settings) (chain : (Request → Prog A) → Prog A) (s : State) (request' : Request) :
    Prop :=
  ∃ s', ∀ handler : Request → Prog A,
    (chain handler).solo cfg.machine s = (handler request').solo cfg.machine s'

/-- Whatever the rest of the chain, it is not called, and the request ends with `e`. -/
def Stops (cfg : Settings) (chain : (Request → Prog A) → Prog A) (s : State) (e : Exc) : Prop :=
  ∃ s', ∀ handler : Request → Prog A, (chain handler).solo cfg.machine s = some (.error e, s')

omit [Runtime] in
theorem Stops.not_runs {cfg : Settings} {chain : (Request → Prog A) → Prog A} {s : State} {e : Exc}
    (h : Stops cfg chain s e) (request' : Request) : ¬ Runs cfg chain s request' := by
  rintro ⟨s', hrun⟩
  obtain ⟨s'', hstop⟩ := h
  -- a rest that raises something else
  obtain ⟨e', he'⟩ : ∃ e', e' ≠ e := by
    by_cases hk : e = .keyError
    · exact ⟨.valueError, fun h => nomatch h.trans hk⟩
    · exact ⟨.keyError, fun h => hk h.symm⟩
  have := (hrun fun _ => .raise e').symm.trans (hstop fun _ => .raise e')
  simp only [Coro.solo, Option.some.injEq, Prod.mk.injEq, Except.error.injEq] at this
  exact he' this.1

omit [Runtime] in
theorem Runs.unique {cfg : Settings} {chain : (Request → Prog A) → Prog A} {s : State}
    {r r' : Request} (h : Runs cfg chain s r) (h' : Runs cfg chain s r') : r = r' := by
  classical
  obtain ⟨s₁, h⟩ := h
  obtain ⟨s₂, h'⟩ := h'
  by_contra hne
  -- a rest that tells the two requests apart
  have hr := (h fun x => .raise (if x = r then .keyError else .valueError)).symm.trans (h' _)
  simp only [Coro.solo, if_neg (Ne.symm hne), if_true, Option.some.injEq, Prod.mk.injEq,
    Except.error.injEq] at hr
  cases hr.1

/-! ## The header -/

/-- The header is `Bearer`, one space and the id, which has no space in it. -/
def ShowsId (request : Request) (session_id : String) : Prop :=
  request.authorization = some (CsmAuth.TYPE ++ " " ++ session_id) ∧ ' ' ∉ session_id.toList

omit [Runtime] in
theorem ShowsId.unique {request : Request} {sid sid' : String} (h : ShowsId request sid)
    (h' : ShowsId request sid') : sid = sid' := by
  have := Option.some.inj (h.1.symm.trans h'.1)
  exact String.append_right_inj _ |>.mp this

omit [Runtime] in
/-- `_extract_bearer` finds the id that is shown, or there is none. -/
theorem _extract_bearer_cases (request : Request) :
    (∃ session_id, ShowsId request session_id ∧
      _extract_bearer request.authorization = .ret session_id) ∨
    ((∀ session_id, ¬ ShowsId request session_id) ∧
      ∃ desc, _extract_bearer request.authorization = .raise (notFound desc)) := by
  have hbearer : ' ' ∉ CsmAuth.TYPE.toList := by decide
  have hpair : ∀ sid, CsmAuth.TYPE ++ " " ++ sid = Text.join ' ' [CsmAuth.TYPE, sid] :=
    fun sid => (Text.join_pair ' ' CsmAuth.TYPE sid).symm
  unfold _extract_bearer ShowsId
  cases request.authorization with
  | none => exact Or.inr ⟨(fun _ h => nomatch h.1), _, rfl⟩
  | some hdr =>
      simp only [Option.some.injEq, hpair]
      by_cases hempty : hdr = ""
      · refine Or.inr ⟨fun sid h => ?_, _, if_pos hempty⟩
        have hone : (Text.split ' ' "").length = 1 := by decide
        have hlen := congrArg (fun t => (Text.split ' ' t).length) (h.1.symm.trans hempty)
        rw [Text.split_join (by simp [hbearer, h.2]) (by simp), hone] at hlen
        cases hlen
      rw [if_neg hempty]
      split
      · rename_i auth_type session_id hsplit
        obtain ⟨hhdr, hty, hsid⟩ := Text.split_eq_pair.mp hsplit
        by_cases htype : auth_type = CsmAuth.TYPE
        · subst htype
          exact Or.inl ⟨session_id, ⟨hhdr, hsid⟩, by simp [raiseIf]; rfl⟩
        · refine Or.inr ⟨fun sid h => ?_, some s!"Invalid auth type {auth_type}",
            by simp [raiseIf, htype]; rfl⟩
          have := hsplit.symm.trans (Text.split_eq_pair.mpr ⟨h.1, hbearer, h.2⟩)
          exact htype (List.cons.inj this).1
      · rename_i hno
        refine Or.inr ⟨fun sid h => ?_, _, rfl⟩
        exact hno _ _ (Text.split_eq_pair.mpr ⟨h.1, hbearer, h.2⟩)

/-! ## The decision -/

/-- The token's session is there, still valid, and permits what the method requires. -/
structure Admitted (request : Request) (method : CsmAuth.Attributes) (s : State)
    (session : Session) : Prop where
  shown : ShowsId request session.session_id
  stored : session ∈ s.sessions
  valid : session.expiry_time ≥ s.clock
  permitted : ∀ resource action, method.auth_permissions.Grants resource action →
    session.permissions.Grants resource action

omit [Runtime] in
theorem _validate_bearer_solo (session_id : String) (s : State) :
    (∃ session ∈ s.sessions, session.session_id = session_id ∧ session.expiry_time ≥ s.clock ∧
      ∃ s', (_validate_bearer cfg session_id).solo cfg.machine s =
        some (.ok { session with expiry_time := s.clock + SessionManager._expiry_interval }, s')) ∨
    ((∀ session ∈ s.sessions, session.session_id = session_id → ¬ session.expiry_time ≥ s.clock) ∧
      ∃ desc s', (_validate_bearer cfg session_id).solo cfg.machine s =
        some (.error (notFound desc), s')) := by
  unfold _validate_bearer
  rw [Coro.solo_handle, auth_session_solo]
  cases h : s.sessions.find? session_id with
  | none =>
      exact Or.inr ⟨fun x hx hid => absurd hid (Table.find?_eq_none.mp h x hx), _, _, rfl⟩
  | some session =>
      obtain ⟨hmem, hid⟩ := Table.find?_eq_some.mp h
      dsimp only
      by_cases hexpired : s.clock > session.expiry_time
      · rw [if_pos hexpired]
        refine Or.inr ⟨fun x hx hxid hvalid => ?_, _, _, rfl⟩
        obtain rfl := Table.eq_of_key hx hmem (hxid.trans hid.symm)
        exact Nat.not_lt.mpr hvalid hexpired
      · rw [if_neg hexpired]
        exact Or.inl ⟨session, hmem, hid, Nat.not_lt.mp hexpired, _, rfl⟩

/-- A request to a view is none to the documentation pages. -/
theorem _is_public_view {request : Request} {cls : ViewClass} (h : request.handler = .view cls) :
    _is_public request = CsmView.is_public request.handler request.method := by
  have hno : ∀ url : String, url = SWAGGER_UI_URL ∨ url = SWAGGER_UI_STATICS_URL →
      startsWith request.path url = false := by
    intro url hurl
    rw [Bool.eq_false_iff]
    intro hstart
    have hp := List.isPrefixOf_iff_prefix.mp hstart
    rcases request.routed cls h with hv | hv <;> rcases hurl with rfl | rfl <;>
      · have hv' := List.isPrefixOf_iff_prefix.mp hv
        rcases List.prefix_or_prefix_of_prefix hp hv' with hc | hc <;> revert hc <;> decide
  simp [_is_public, hno]

theorem needsNoSession_view {conf : String → Option String} {request : Request}
    {method : CsmAuth.Attributes}
    (hmethod : CsmView._get_method_handler request.handler request.method = some method)
    (hpublic : CsmView.is_public request.handler request.method = false)
    (hhybrid : CsmView.is_hybrid request.handler request.method = false) :
    needsNoSession conf request = .ret false := by
  have hview : ∃ cls, request.handler = .view cls := by
    cases hh : request.handler with
    | view cls => exact ⟨cls, rfl⟩
    | function attributes =>
        rw [hh] at hmethod
        cases hmethod
  obtain ⟨cls, hview⟩ := hview
  unfold needsNoSession
  rw [_is_hybrid, hhybrid, _is_public_view hview, hpublic]
  rfl

/-- What `session_middleware` and `permission_middleware` do once the session is known. -/
theorem permission_solo {request : Request} {method : CsmAuth.Attributes}
    (hmethod : CsmView._get_method_handler request.handler request.method = some method)
    (session : Session) (handler : Request → Prog A) :
    permission_middleware (request.withSession (some session)) handler =
      if session.permissions.allows method.auth_permissions then
        handler (request.withSession (some session))
      else .raise forbidden := by
  have hrequired : _get_permissions (request.withSession (some session)) =
      method.auth_permissions := by
    show CsmView.get_permissions request.handler request.method = _
    rw [CsmView.get_permissions, hmethod]
  simp only [permission_middleware, Request.withSession_session, hrequired]
  rfl

omit [Runtime] in
/-- How the search for the session ends. -/
theorem sessionOf_solo (request : Request) (s : State) :
    (∃ session ∈ s.sessions, ShowsId request session.session_id ∧
      session.expiry_time ≥ s.clock ∧
      ∃ s', ((sessionOf cfg false request).handle exceptNotFound).solo cfg.machine s =
        some (.ok (some { session with
          expiry_time := s.clock + SessionManager._expiry_interval }), s')) ∨
    ((∀ session ∈ s.sessions, ShowsId request session.session_id →
        ¬ session.expiry_time ≥ s.clock) ∧
      ∃ s', ((sessionOf cfg false request).handle exceptNotFound).solo cfg.machine s =
        some (.error _unauthorised, s')) := by
  have hbody : sessionOf cfg false request = (_extract_bearer request.authorization).bind
      fun session_id => (_validate_bearer cfg session_id).bind fun session =>
        .ret (some session) := rfl
  rw [Coro.solo_handle, hbody]
  rcases _extract_bearer_cases request with ⟨sid, hshown, he⟩ | ⟨hnone, desc, he⟩
  · rw [he, Coro.bind, Coro.solo_bind]
    rcases _validate_bearer_solo cfg sid s with
      ⟨x, hx, hid, hvalid, s', hv⟩ | ⟨hbad, desc, s', hv⟩
    · rw [hv]
      exact Or.inl ⟨x, hx, hid ▸ hshown, hvalid, s', rfl⟩
    · rw [hv]
      refine Or.inr ⟨fun x hx hxs => hbad x hx (hxs.unique hshown), s', rfl⟩
  · rw [he]
    exact Or.inr ⟨fun x _ hxs => absurd hxs (hnone _), s, rfl⟩

/-- A request is handed on, with its session, if one admits it; otherwise it stops. -/
theorem gate_cases (conf : String → Option String) {request : Request}
    {method : CsmAuth.Attributes}
    (hmethod : CsmView._get_method_handler request.handler request.method = some method)
    (hpublic : CsmView.is_public request.handler request.method = false)
    (hhybrid : CsmView.is_hybrid request.handler request.method = false) (s : State) :
    (∃ session, Admitted request method s session ∧
      Runs cfg (gate (A := A) cfg conf request) s (request.withSession
        (some { session with expiry_time := s.clock + SessionManager._expiry_interval }))) ∨
    ((¬ ∃ session, Admitted request method s session) ∧
      ∃ e : CsmError, (e.cls = .CsmUnauthorizedError ∨ e.cls = .CsmPermissionDenied) ∧
        Stops cfg (gate (A := A) cfg conf request) s (.csm e)) := by
  have hgate : ∀ handler : Request → Prog A, gate cfg conf request handler =
      (sessionOf cfg false request).handle exceptNotFound >>= fun session =>
        permission_middleware (request.withSession session) handler := by
    intro handler
    unfold gate session_middleware
    rw [needsNoSession_view hmethod hpublic hhybrid]
    rfl
  rcases sessionOf_solo cfg request s with ⟨x, hx, hshown, hvalid, s', he⟩ | ⟨hnone, s', he⟩
  · by_cases hallowed : x.permissions.allows method.auth_permissions = true
    · refine Or.inl ⟨x, ⟨hshown, hx, hvalid, PermissionSet.verdict_iff.mp hallowed⟩, s', ?_⟩
      intro handler
      rw [hgate handler, Coro.solo_bind_ok he, permission_solo hmethod, if_pos hallowed]
    · obtain ⟨e, hforbidden, hcls⟩ : ∃ e : CsmError, forbidden = .csm e ∧
          e.cls = .CsmPermissionDenied := ⟨_, rfl, rfl⟩
      refine Or.inr ⟨?_, e, Or.inr hcls, s', fun handler => ?_⟩
      · rintro ⟨y, hy⟩
        have hid : y.session_id = x.session_id := hy.shown.unique hshown
        obtain rfl := Table.eq_of_key hy.stored hx hid
        exact hallowed (PermissionSet.verdict_iff.mpr hy.permitted)
      · rw [hgate handler, Coro.solo_bind_ok he, permission_solo hmethod, if_neg hallowed,
          hforbidden]
        rfl
  · obtain ⟨e, hunauthorised, hcls⟩ : ∃ e : CsmError, _unauthorised = .csm e ∧
        e.cls = .CsmUnauthorizedError := ⟨_, rfl, rfl⟩
    refine Or.inr ⟨?_, e, Or.inl hcls, s', fun handler => ?_⟩
    · rintro ⟨y, hy⟩
      exact hnone y hy.stored hy.shown hy.valid
    · rw [hgate handler, Coro.solo_bind_error he, hunauthorised]

/-- **The gate.**  For a handler method that is neither public nor hybrid, any header, any
stored sessions and any time: the handler is run exactly when a stored session admits the
request; it sees that session, with its expiry time refreshed; and otherwise the request ends
with `CsmUnauthorizedError` or `CsmPermissionDenied`. -/
theorem gate_exact (conf : String → Option String) (request : Request)
    (method : CsmAuth.Attributes)
    (hmethod : CsmView._get_method_handler request.handler request.method = some method)
    (hpublic : CsmView.is_public request.handler request.method = false)
    (hhybrid : CsmView.is_hybrid request.handler request.method = false) (s : State) :
    ((∃ request', Runs cfg (gate (A := A) cfg conf request) s request') ↔
      ∃ session, Admitted request method s session) ∧
    (∀ request', Runs cfg (gate (A := A) cfg conf request) s request' →
      ∃ session, Admitted request method s session ∧ request' = request.withSession
        (some { session with expiry_time := s.clock + SessionManager._expiry_interval })) ∧
    ((¬ ∃ session, Admitted request method s session) →
      ∃ e : CsmError, (e.cls = .CsmUnauthorizedError ∨ e.cls = .CsmPermissionDenied) ∧
        Stops cfg (gate (A := A) cfg conf request) s (.csm e)) := by
  rcases gate_cases (A := A) cfg conf hmethod hpublic hhybrid s with
    ⟨session, hadmitted, hruns⟩ | ⟨hnone, e, hcls, hstops⟩
  · refine ⟨⟨fun _ => ⟨session, hadmitted⟩, fun _ => ⟨_, hruns⟩⟩, fun request' h => ?_, ?_⟩
    · exact ⟨session, hadmitted, h.unique hruns⟩
    · exact fun hnone => absurd ⟨session, hadmitted⟩ hnone
  · refine ⟨⟨fun ⟨r, hr⟩ => absurd hr (hstops.not_runs r), fun h => absurd h hnone⟩, ?_, ?_⟩
    · exact fun r hr => absurd hr (hstops.not_runs r)
    · exact fun _ => ⟨e, hcls, hstops⟩

end CsmRestApi

end Middlewares

/-! ## A request of a monitor -/

section Example

open CsmRestApi

/-- `{'users': {'list'}}`. -/
def listUsers : PermissionSet := .init ⟨[("users", {"list"})], by decide⟩

/-- `CsmUsersListView`, as far as `get` goes. -/
def usersListView : ViewClass where
  attributes := ⟨false, false, .empty⟩
  methods := ⟨[("get", ⟨false, false, listUsers⟩)], by decide⟩

def listRequest : Request where
  method := "GET"
  path := "/api/v2/system/users"
  authorization := some "Bearer f"
  handler := .view usersListView
  session := none
  routed _ _ := Or.inr (by decide)

def monitorSession : Session := ⟨"f", 1, ⟨"alice", CSM_MONITOR_ROLE⟩, listUsers⟩

def oneSession : State :=
  { State.fresh Table.empty with sessions := Table.empty.upsert monitorSession }

theorem gate_exact_monitor : ∃ request', Runs (sampleSettings .database 0 0 .blank)
    (gate (A := Unit) (sampleSettings .database 0 0 .blank) (fun _ => none) listRequest)
    oneSession request' := by
  refine (gate_exact _ _ listRequest ⟨false, false, listUsers⟩ ?_ ?_ ?_ oneSession).1.mpr
    ⟨monitorSession, ⟨?_, ?_⟩, Table.self_mem_upsert _ _, ?_, fun _ _ h => h⟩
  · rfl
  · rfl
  · rfl
  · decide
  · decide
  · exact Nat.zero_le 1

end Example

end CortxCsm
