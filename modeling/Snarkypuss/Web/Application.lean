import Snarkypuss.Calls.Program
import Snarkypuss.Control.Protocol
import Snarkypuss.Python.Text

/-!
# The web application

The handlers of `create_app` as programs over the calls they make: the cached runtime, the
verification of credentials, and exchanges with the control daemon. The framework parses a request
and runs the handler of its route, with a body that its schema accepts.

## Main definitions

* `HttpRequest`: a request, as the framework hands it to a handler
* `WebCall`, `web`: the calls of the handlers
* `authenticate`, `requireSameOrigin`: the guards
* `Endpoint`, `Application.handle`: the routes and their handlers
* `Application.serve`: what the application does with a request
-/

namespace Snarkypuss

open Python

/-! ## Requests and responses -/

/-- `HTTPBasicCredentials`. -/
structure Credentials where
  username : String
  password : String
  deriving DecidableEq

/-- An HTTP request. The names of its headers are in lower case, as the server hands them on;
`credentials` are those of its `Authorization` header, when it has Basic ones. -/
structure HttpRequest where
  method : String
  path : String
  headers : List (String × String) := []
  scheme : String
  netloc : String
  credentials : Option Credentials := none
  queryParams : List (String × String) := []
  body : String := ""
  deriving DecidableEq

/-- Paths and limits needed by the unprivileged web process. -/
structure WebRuntime where
  authFile : String
  controlSocket : String
  controlTimeoutSeconds : PyFloat
  deriving DecidableEq

/-- Complete administrative catalogue replacement. -/
structure TargetCatalogueReplaceBody where
  provider : Identifier
  expectedRevision : Nat
  targets : {targets : List StoredTarget // 1 ≤ targets.length ∧ targets.length ≤ 100}

/-- Read-only, provider-neutral gateway status returned to the browser. -/
structure StatusResponse where
  vpnStatus : VpnStatus
  publicIpExposed : Option Bool
  exposureWarning : Option String

/-- Complete, partially degradable gateway snapshot. -/
structure GatewayStatusResponse where
  snapshot : GatewayStatus
  publicIpExposed : Option Bool
  exposureWarning : Option String

/-- Normalized result of a provider operation. -/
structure VpnOperationResponse where
  message : String
  vpnStatus : VpnStatus
  publicIpExposed : Option Bool
  exposureWarning : Option String

/-- What the handlers return. The framework answers by itself for a static file and for a request
that no route takes. -/
inductive WebResponse
  | liveness (version : String)
  | dashboard (version : String)
  | status (response : StatusResponse)
  | gatewayStatus (response : GatewayStatusResponse)
  | targets (catalog : VpnTargetCatalog)
  | targetSchema (schema : ProviderTargetSchema)
  | targetOptions (options : TargetOptions)
  | catalogue (catalogue : TargetCatalogue)
  | operation (response : VpnOperationResponse)
  | framework

/-- What a handler raises: an `ApiError`, an exception that a handler turns into one, or an
exception that ends in an internal error. -/
inductive WebException
  | api (statusCode : Nat) (code message : String) (authenticate : Bool)
  | config (message : String)
  | authFile (message : String)
  | controlClient (code message : String)
  | other (name : String)
  deriving DecidableEq

namespace WebException

/-- `except ConfigError`. -/
def config? : WebException → Option String
  | config message => some message
  | _ => none

/-- `except AuthFileError`. -/
def authFile? : WebException → Option String
  | authFile message => some message
  | _ => none

/-- `except ControlClientError`: the code and the message. -/
def controlClient? : WebException → Option (String × String)
  | controlClient code message => some (code, message)
  | _ => none

end WebException

/-! ## Calls -/

/-- The calls of the handlers: `app.state.runtime`, `load_config`, `verify_credentials`, and an
exchange with the control daemon. -/
inductive WebCall
  | getRuntime
  | setRuntime (runtime : WebRuntime)
  | loadConfig
  | verifyCredentials (path : String) (credentials : Credentials)
  | control (runtime : WebRuntime) (operation : Operation)

/-- What each call returns. -/
@[reducible] def WebCall.Reply : WebCall → Type
  | getRuntime => Option WebRuntime
  | setRuntime _ => Unit
  | loadConfig => WebRuntime
  | verifyCredentials .. => Bool
  | control .. => ControlResponse

/-- The interface of the handlers. -/
abbrev web : Interface := ⟨WebCall, WebCall.Reply⟩

/-- Programs of the handlers. -/
abbrev Web (A : Type) := Program web WebException A

namespace Web

abbrev call (c : WebCall) : Web c.Reply := Program.call (I := web) c

/-- `raise ApiError(status_code, code, message)`. -/
abbrev apiError {A : Type} (statusCode : Nat) (code message : String) : Web A :=
  Program.raise (.api statusCode code message false)

/-! ## Guards -/

/-- `_get_runtime`. -/
def getRuntime : Web WebRuntime := do
  match ← call .getRuntime with
  | some runtime => pure runtime
  | none =>
    match ← (call .loadConfig).attempt WebException.config? with
    | .error message => apiError 503 "CONFIGURATION_ERROR" message
    | .ok runtime =>
      call (.setRuntime runtime)
      pure runtime

/-- `_authenticate`. -/
def authenticate (path : String) : Option Credentials → Web Unit
  | none =>
    Program.raise (.api 401 "AUTHENTICATION_REQUIRED" "authentication is required" true)
  | some credentials => do
    match ← (call (.verifyCredentials path credentials)).attempt WebException.authFile? with
    | .error message => apiError 503 "AUTHENTICATION_UNAVAILABLE" message
    | .ok valid =>
      if valid then pure ()
      else Program.raise (.api 401 "INVALID_CREDENTIALS" "invalid username or password" true)

end Web

def requestMarkerHeader : String := "X-SnarkyCtl-Request"
def requestMarkerValue : String := "1"

/-- `str.lower()` on one character of a header, which is Latin-1. -/
def lowerLatin1 (c : Char) : Char :=
  if c.isUpper ∨ (0xc0 ≤ c.toNat ∧ c.toNat ≤ 0xde ∧ c.toNat ≠ 0xd7) then Char.ofNat (c.toNat + 32)
  else c

/-- `str.lower()` on the text of a header. -/
def lowerHeader (s : String) : String := String.ofList (s.toList.map lowerLatin1)

namespace HttpRequest

/-- `request.headers.get(name)`: the first header of the name. -/
def header (request : HttpRequest) (name : String) : Option String :=
  (request.headers.find? fun header => header.1 == lowerHeader name).map Prod.snd

/-- The media type that `_require_same_origin` reads. -/
def mediaType (request : HttpRequest) : String :=
  let contentType := (request.header "Content-Type").getD ""
  lowerHeader (strip (((partition ';' contentType).map Prod.fst).getD contentType))

/-- The `Origin` that this service has. -/
def expectedOrigin (request : HttpRequest) : String := request.scheme ++ "://" ++ request.netloc

/-- A query parameter of one value: the last of the name. -/
def query (request : HttpRequest) (name : String) : Option String :=
  (request.queryParams.reverse.find? fun param => param.1 == name).map Prod.snd

end HttpRequest

namespace Web

/-- `_require_same_origin`. -/
def requireSameOrigin (request : HttpRequest) : Web Unit :=
  if request.header requestMarkerHeader ≠ some requestMarkerValue then
    apiError 403 "CROSS_ORIGIN_REQUEST"
      ("state-changing requests require " ++ requestMarkerHeader ++ ": " ++ requestMarkerValue)
  else if request.mediaType ≠ "application/json" then
    apiError 415 "INVALID_CONTENT_TYPE"
      "state-changing requests require Content-Type: application/json"
  else
    let fetchSite := request.header "Sec-Fetch-Site"
    if fetchSite ≠ none ∧ fetchSite ≠ some "same-origin" then
      apiError 403 "CROSS_ORIGIN_REQUEST"
        "state-changing browser requests must originate from this service"
    else
      let origin := request.header "Origin"
      if origin ≠ none ∧ origin ≠ some request.expectedOrigin then
        apiError 403 "CROSS_ORIGIN_REQUEST" "request Origin does not match this service"
      else pure ()

/-! ## Exchanges with the daemon -/

def exposureWarning : String := "The VPS real public IP address is exposed."

def unknownWarning : String := "The gateway's public-IP exposure state cannot be determined."

/-- `_exposure`. -/
def exposure : GatewayMode → Option Bool × Option String
  | .direct => (some true, some exposureWarning)
  | .vpn => (some false, none)
  | .locked => (some false, none)
  | .unknown => (none, some unknownWarning)

/-- One exchange, its `ControlClientError` turned into an `ApiError` with the status that
`statusOf` gives its code. -/
def exchange (statusOf : String → Nat) (runtime : WebRuntime) (operation : Operation) :
    Web ControlResponse := do
  match ← (call (.control runtime operation)).attempt WebException.controlClient? with
  | .error (code, message) => apiError (statusOf code) code message
  | .ok response => pure response

/-- The part of a response that a handler needs, which is an error when it is missing. -/
def require {A : Type} (part : Option A) (message : String) : Web A :=
  match part with
  | some a => pure a
  | none => apiError 502 "INVALID_RESPONSE" message

/-- The status of a `ControlClientError` in `_vpn_operation` and `_target_control`. -/
def clientStatus (code : String) : Nat := if code = "DAEMON_TIMEOUT" then 504 else 502

/-- `_control_status`. -/
def controlStatus (runtime : WebRuntime) : Web ControlResponse := do
  let response ← exchange (fun _ => 502) runtime .statusRequest
  if !response.success then
    apiError 502 (response.errorCode.getD "CONTROL_ERROR") response.message
  else pure response

/-- The statuses of `_vpn_operation`. -/
def operationStatus (code : String) : Nat :=
  ([("UNKNOWN_TARGET", 404), ("OPERATION_IN_PROGRESS", 409), ("PROVIDER_TIMEOUT", 504)].lookup
    code).getD 502

/-- `_vpn_operation`. -/
def vpnOperation (runtime : WebRuntime) (operation : Operation) : Web VpnOperationResponse := do
  let response ← exchange clientStatus runtime operation
  if !response.success then
    let errorCode := response.errorCode.getD "CONTROL_ERROR"
    apiError (operationStatus errorCode) errorCode response.message
  else
    let status ← require response.vpnStatus "control response has no VPN status"
    let (exposed, warning) := exposure status.gatewayMode
    pure ⟨response.message, status, exposed, warning⟩

/-- The statuses of `_target_control`. -/
def targetStatus (code : String) : Nat :=
  ([("INVALID_CATALOG", 400), ("UNKNOWN_PROVIDER", 404), ("UNKNOWN_TARGET_KIND", 404),
    ("UNKNOWN_TARGET_FIELD", 404), ("INVALID_TARGET_CONTEXT", 400), ("STATIC_TARGET_FIELD", 409),
    ("UNSUPPORTED_TARGET_SELECTION", 409), ("UNSUPPORTED_TARGET_DISCOVERY", 409),
    ("PROVIDER_TIMEOUT", 504), ("CATALOG_CONFLICT", 409),
    ("CATALOG_MIGRATION_REQUIRED", 409)].lookup code).getD 502

/-- `_target_control`. -/
def targetControl (runtime : WebRuntime) (operation : Operation) : Web ControlResponse := do
  let response ← exchange clientStatus runtime operation
  if response.success then pure response
  else
    let code := response.errorCode.getD "CONTROL_ERROR"
    apiError (targetStatus code) code response.message

/-- `_active_provider`. -/
def activeProvider (runtime : WebRuntime) : Web Identifier := do
  let response ← targetControl runtime .targetsRequest
  let catalog ← require response.targetCatalog "control response has no target catalogue"
  pure catalog.provider

end Web

/-! ## Handlers -/

/-- The routes of `create_app`, in the order they are added. -/
inductive Endpoint
  | liveness
  | dashboard
  | status
  | gatewayStatus
  | vpnTargets
  | adminTargetSchema
  | adminTargetOptions
  | adminTargets
  | replaceAdminTargets
  | vpnConnect
  | protectedMode
  | lockedMode
  | directMode
  deriving DecidableEq

namespace Endpoint

/-- The method and the path of each route. -/
def route : Endpoint → String × String
  | liveness => ("GET", "/api/health/live")
  | dashboard => ("GET", "/")
  | status => ("GET", "/api/v1/status")
  | gatewayStatus => ("GET", "/api/v2/status")
  | vpnTargets => ("GET", "/api/v2/vpn/targets")
  | adminTargetSchema => ("GET", "/api/v3/admin/vpn/target-schema")
  | adminTargetOptions => ("GET", "/api/v3/admin/vpn/target-options")
  | adminTargets => ("GET", "/api/v3/admin/vpn/targets")
  | replaceAdminTargets => ("PUT", "/api/v3/admin/vpn/targets")
  | vpnConnect => ("POST", "/api/v2/vpn/connect")
  | protectedMode => ("POST", "/api/v2/mode/protected")
  | lockedMode => ("POST", "/api/v2/mode/locked")
  | directMode => ("POST", "/api/v2/mode/direct")

def all : List Endpoint :=
  [liveness, dashboard, status, gatewayStatus, vpnTargets, adminTargetSchema, adminTargetOptions,
    adminTargets, replaceAdminTargets, vpnConnect, protectedMode, lockedMode, directMode]

end Endpoint

/-- What the application takes from outside: its version, and the bodies that the framework
accepts for the schema of each handler. -/
structure Application where
  version : String
  vpnConnectRequest : String → Option Identifier
  directModeRequest : String → Bool
  targetCatalogueReplaceBody : String → Option TargetCatalogueReplaceBody

namespace Application

open Web

/-- `handle_request_validation_error`: what a request that its schema refuses is answered. -/
def invalidRequest {A : Type} : Web A :=
  apiError 400 "INVALID_REQUEST" "request body does not match the API schema"

section Handlers

variable (request : HttpRequest)

/-- The runtime of an authenticated request. -/
def authenticated : Web WebRuntime := do
  let runtime ← getRuntime
  authenticate runtime.authFile request.credentials
  pure runtime

def dashboard (version : String) : Web WebResponse := do
  let _ ← authenticated request
  pure (.dashboard version)

def status : Web WebResponse := do
  let runtime ← authenticated request
  let response ← controlStatus runtime
  let vpnStatus ← require (response.gatewayStatus.bind GatewayStatus.vpnStatus)
    "control response has no VPN status"
  let (exposed, warning) := exposure vpnStatus.gatewayMode
  pure (.status ⟨vpnStatus, exposed, warning⟩)

def gatewayStatus : Web WebResponse := do
  let runtime ← authenticated request
  let response ← controlStatus runtime
  let snapshot ← require response.gatewayStatus "control response has no gateway status"
  let mode := (snapshot.vpnStatus.map VpnStatus.gatewayMode).getD .unknown
  let (exposed, warning) := exposure mode
  pure (.gatewayStatus ⟨snapshot, exposed, warning⟩)

def vpnTargets : Web WebResponse := do
  let runtime ← authenticated request
  let response ← exchange (fun _ => 502) runtime .targetsRequest
  if !response.success then
    apiError 502 (response.errorCode.getD "CONTROL_ERROR") response.message
  else
    let catalog ← require response.targetCatalog "control response has no target catalogue"
    pure (.targets catalog)

def adminTargetSchema : Web WebResponse := do
  let runtime ← authenticated request
  let provider ← activeProvider runtime
  let response ← targetControl runtime (.targetSchemaRequest provider)
  let schema ← require response.providerTargetSchema "control response has no target schema"
  pure (.targetSchema schema)

def adminTargetOptions (kind : Identifier) (field : FieldName) : Web WebResponse := do
  let runtime ← authenticated request
  let provider ← activeProvider runtime
  let context : JsonObject := Dict.ofPairs
    ((request.queryParams.filter fun param => param.1 ≠ "kind" ∧ param.1 ≠ "field").map
      fun param => (param.1, .str param.2))
  if h : context.entries.length ≤ 16 then
    let response ← targetControl runtime (.targetOptionsRequest provider kind field ⟨context, h⟩)
    let options ← require response.targetOptions "control response has no target options"
    pure (.targetOptions options)
  else apiError 400 "INVALID_REQUEST" "target discovery context is too large"

def adminTargets : Web WebResponse := do
  let runtime ← authenticated request
  let provider ← activeProvider runtime
  let response ← targetControl runtime (.targetCatalogGetRequest provider)
  let catalogue ← require response.editableTargetCatalogue
    "control response has no editable catalogue"
  pure (.catalogue catalogue)

def replaceAdminTargets (body : TargetCatalogueReplaceBody) : Web WebResponse := do
  let runtime ← authenticated request
  requireSameOrigin request
  let response ← targetControl runtime (.targetCatalogReplaceRequest body.provider
    body.expectedRevision ⟨body.targets.val, body.targets.property.2⟩)
  let catalogue ← require response.editableTargetCatalogue
    "control response has no editable catalogue"
  pure (.catalogue catalogue)

/-- A handler that changes the mode by one operation. -/
def changeMode (operation : Operation) : Web WebResponse := do
  let runtime ← authenticated request
  requireSameOrigin request
  let response ← vpnOperation runtime operation
  pure (.operation response)

def vpnConnect (target : Identifier) : Web WebResponse := changeMode request (.connectRequest target)

def protectedMode (target : Identifier) : Web WebResponse :=
  changeMode request (.protectedRequest target)

def lockedMode : Web WebResponse := changeMode request .lockRequest

def directMode : Web WebResponse := changeMode request .directRequest

end Handlers

variable (application : Application) (request : HttpRequest)

/-- The handler of a route, run when the framework accepts the parameters and the body. -/
def handle : Endpoint → Web WebResponse
  | .liveness => pure (.liveness application.version)
  | .dashboard => dashboard request application.version
  | .status => status request
  | .gatewayStatus => gatewayStatus request
  | .vpnTargets => vpnTargets request
  | .adminTargetSchema => adminTargetSchema request
  | .adminTargetOptions =>
    match request.query "kind", request.query "field" with
    | some kind, some field =>
      if h : matchesPattern Char.isLower isLowerTail 31 kind ∧
          matchesPattern Char.isLower isFieldTail 31 field then
        adminTargetOptions request ⟨kind, h.1⟩ ⟨field, h.2⟩
      else invalidRequest
    | _, _ => invalidRequest
  | .adminTargets => adminTargets request
  | .replaceAdminTargets =>
    match application.targetCatalogueReplaceBody request.body with
    | some body => replaceAdminTargets request body
    | none => invalidRequest
  | .vpnConnect =>
    match application.vpnConnectRequest request.body with
    | some target => vpnConnect request target
    | none => invalidRequest
  | .protectedMode =>
    match application.vpnConnectRequest request.body with
    | some target => protectedMode request target
    | none => invalidRequest
  | .lockedMode => lockedMode request
  | .directMode => if application.directModeRequest request.body then directMode request
    else invalidRequest

/-- The application: the handler of the route that a request takes. The framework answers any
other request. -/
def serve : Web WebResponse :=
  match Endpoint.all.find? fun endpoint => endpoint.route = (request.method, request.path) with
  | some endpoint => application.handle request endpoint
  | none => pure .framework

end Application

end Snarkypuss
