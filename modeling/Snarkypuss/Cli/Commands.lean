import Snarkypuss.Control.Payloads
import Snarkypuss.Control.Protocol
import Snarkypuss.Python.Addresses

/-!
# The command line

The commands of `snarkyctl` that talk to the control daemon: `status`, `connect`, `disconnect` and
the commands below `targets`, from what the parser makes of an argument vector. Each opens a
connection for a request, sends one frame and receives one. Lines are printed to two streams.

The models are checked and written by a library. What it says about a document is a parameter, and so
is how it writes one.

## Main definitions

* `Library`: the interpreter and the library of the models
* `CliCall`, `cliCalls`: the calls of a command
* `parseResponse`: `parse_response`
* `clientRequest`: `ControlClient.request`
* `Command`, `main`: the commands and their exit status
-/

namespace Snarkypuss.Cli

open Program Python

/-! ## What is outside the source -/

/-- `_CatalogueReplacementFile`. -/
structure ReplacementFile where
  provider : Identifier
  expectedRevision : ℕ
  targets : {targets : List StoredTarget // 1 ≤ targets.length ∧ targets.length ≤ 100}

/-- The interpreter and the library of the models: what `model_validate` and `model_validate_json`
accept, `model_dump_json`, and texts of numbers. A check that fails raises a `ValidationError`. -/
structure Library where
  interpreter : Interpreter
  validateResponse : Json → Option ControlResponse
  validateReplacement : String → Option ReplacementFile
  dumpRequest : ControlRequest → List UInt8
  dumpResponse : ControlResponse → String
  dumpCatalog : VpnTargetCatalog → String
  dumpSchema : ProviderTargetSchema → String
  dumpDocument : Identifier → ℕ → List StoredTarget → String
  dumpFailure : String → String → String
  formatLoad : PyFloat → String
  formatAmount : ℕ → String

/-! ## Calls -/

/-- A call of a command. Each connection carries one request. -/
inductive CliCall
  | uuid4
  | connect
  | sendall (frame : List UInt8)
  | receive
  | readText (file : String)
  | print (line : String)
  | printError (line : String)

/-- The calls with the types of their replies. -/
def cliCalls : Interface where
  Call := CliCall
  Reply
    | .uuid4 => UUID
    | .receive => List UInt8
    | .readText _ => String
    | .connect | .sendall _ | .print _ | .printError _ => Unit

/-- A command, or a part of it. -/
abbrev CliScript (A : Type) := Program cliCalls ControlError A

abbrev uuid4 : CliScript UUID := call (I := cliCalls) .uuid4

abbrev connectSocket : CliScript Unit := call (I := cliCalls) .connect

abbrev sendall (frame : List UInt8) : CliScript Unit := call (I := cliCalls) (.sendall frame)

abbrev receive : CliScript (List UInt8) := call (I := cliCalls) .receive

abbrev readText (file : String) : CliScript String := call (I := cliCalls) (.readText file)

abbrev print (line : String) : CliScript Unit := call (I := cliCalls) (.print line)

abbrev printError (line : String) : CliScript Unit := call (I := cliCalls) (.printError line)

/-! ## Responses -/

section Client

variable (lib : Library)

/-- `parse_response`. -/
def parseResponse (payload : List UInt8) : Except ControlError ControlResponse :=
  parseMessage lib.validateResponse "response" lib.interpreter payload

/-! ## The client -/

/-- The `except` clauses of `ControlClient.request`. -/
def clientFailure? : ControlError → Option (String × String)
  | .socket .fileNotFound =>
    some ("DAEMON_UNAVAILABLE", "control socket does not exist: /run/snarkyctl/control.sock")
  | .socket .permission =>
    some ("ACCESS_DENIED", "permission denied opening control socket: /run/snarkyctl/control.sock")
  | .socket .connectionRefused | .socket .connectionReset =>
    some ("DAEMON_UNAVAILABLE", "control daemon is not accepting connections")
  | .socket .timeout => some ("DAEMON_TIMEOUT", "control daemon did not respond in time")
  | .raised (.protocol message) => some ("INVALID_RESPONSE", message)
  | .socket (.other message) => some ("SOCKET_ERROR", s!"control socket error: {message}")
  | _ => none

/-- The `try` statement of `ControlClient.request`. -/
def exchange (request : ControlRequest) : CliScript ControlResponse := do
  connectSocket
  let frame ← done (frameOf (lib.dumpRequest request))
  sendall frame
  let payload ← receive
  done (parseResponse lib payload)

/-- What is made of the outcome of an exchange. -/
def correlate (request : ControlRequest) :
    Except (String × String) ControlResponse → Except ControlError ControlResponse
  | .error (code, message) => .error (.client code message)
  | .ok response =>
    if response.requestId = request.requestId then .ok response
    else .error (.client "MISMATCHED_RESPONSE"
      "control response request ID does not match the request")

/-- `ControlClient.request`. -/
def clientRequest (request : ControlRequest) : CliScript ControlResponse := do
  let outcome ← (exchange lib request).attempt clientFailure?
  done (correlate request outcome)

/-- A method of `ControlClient` whose arguments have been checked. -/
def ask (operation : Operation) : CliScript ControlResponse := do
  let requestId ← uuid4
  clientRequest lib ⟨requestId, operation⟩

/-- `ControlClient.connect`: the model of the request checks the target. -/
def connect (target : String) : CliScript ControlResponse := do
  let requestId ← uuid4
  let target ← done ((validated (fun s => matchesPattern Char.isLower isLowerTail 31 s) target).mapError
    ControlError.raised)
  clientRequest lib ⟨requestId, .connectRequest target⟩

/-! ## Texts -/

/-- `_format_optional_bool`. -/
def formatOptionalBool : Option Bool → String
  | none => "Unknown"
  | some true => "Enabled"
  | some false => "Disabled"

def formatState : VpnState → String
  | .disconnected => "DISCONNECTED"
  | .connecting => "CONNECTING"
  | .connected => "CONNECTED"
  | .disconnecting => "DISCONNECTING"
  | .failed => "FAILED"
  | .unknown => "UNKNOWN"

def formatMode : GatewayMode → String
  | .vpn => "VPN"
  | .locked => "LOCKED"
  | .direct => "DIRECT"
  | .unknown => "UNKNOWN"

def formatExposure : GatewayMode → String
  | .direct => "YES — VPS public IP is exposed"
  | .vpn => "No"
  | .locked => "No — Internet access is blocked"
  | .unknown => "Unknown"

/-- `value or "-"`. -/
def orDash : Option String → String
  | none => "-"
  | some value => if value = "" then "-" else value

/-- `f"{label + ':':<18}{value}"`. -/
def labelled (label value : String) : String :=
  label ++ ":" ++ String.ofList (List.replicate (17 - label.length) ' ') ++ value

/-- `_format_vpn_status`. -/
def formatVpnStatus (status : VpnStatus) : String :=
  "\n".intercalate [
    labelled "Provider" status.provider.val,
    labelled "VPN state" (formatState status.state),
    labelled "Gateway mode" (formatMode status.gatewayMode),
    labelled "Target" (orDash status.target),
    labelled "Server" (orDash status.displayName),
    labelled "Leak protection" (formatOptionalBool status.leakProtectionActive),
    labelled "Public exposure" (formatExposure status.gatewayMode)]

/-- `_format_duration`. -/
def formatDuration (seconds : ℕ) : String :=
  let days := seconds / 86400
  let hours := seconds % 86400 / 3600
  let minutes := seconds % 3600 / 60
  " ".intercalate ((if days = 0 then [] else [str days ++ "d"]) ++
    (if hours = 0 ∧ days = 0 then [] else [str hours ++ "h"]) ++ [str minutes ++ "m"])

/-- The first integer that `float` does not convert: it would be rounded to two to the power of
1024. -/
def floatLimit : ℕ := 2 ^ 1024 - 2 ^ 970

/-- `_format_bytes`. -/
def formatBytes (value : ℕ) : Except ControlError String :=
  if value < floatLimit then .ok (lib.formatAmount value)
  else .error (.raised (.other "OverflowError"))

/-- The section on the host. -/
def formatSystem : Option SystemStatus → Except ControlError String
  | none => .ok "System\n  Status:          Unavailable"
  | some system => do
    let available ← formatBytes lib system.memoryAvailableBytes
    let total ← formatBytes lib system.memoryTotalBytes
    let free ← formatBytes lib system.rootDiskFreeBytes
    let disk ← formatBytes lib system.rootDiskTotalBytes
    let (one, five, fifteen) := system.loadAverage
    return "\n".intercalate [
      "System",
      "  Uptime:          " ++ formatDuration system.uptimeSeconds,
      "  Load:            " ++ " / ".intercalate
        [lib.formatLoad one, lib.formatLoad five, lib.formatLoad fifteen],
      "  Memory available: " ++ available ++ " / " ++ total,
      "  Root disk free:   " ++ free ++ " / " ++ disk]

def formatAddress (address : Ipv4Address) : String :=
  ".".intercalate [str address.a, str address.b, str address.c, str address.d]

/-- `_format_gateway_status`. -/
def formatGatewayStatus (status : GatewayStatus) : Except ControlError String := do
  let vpn := match status.vpnStatus with
    | none => "Upstream VPN\n  Status:          Unavailable"
    | some vpnStatus => formatVpnStatus vpnStatus
  let address := match status.publicIp with
    | none => "Unavailable"
    | some publicIp => formatAddress publicIp.address
  let dns := match status.dns with
    | none => "DNS\n  Status:          Unavailable"
    | some dns => "\n".intercalate ["DNS", "  Service:         " ++ dns.service,
      "  State:           " ++ dns.activeState ++ " (" ++ dns.subState ++ ")"]
  let system ← formatSystem lib status.system
  let failures := match status.partialFailures with
    | [] => []
    | failures => ["\n".intercalate ("Partial failures" :: failures.map fun failure =>
      "  " ++ failure.component.val ++ ": " ++ failure.code.val ++ ": " ++ failure.message.val)]
  return "\n\n".intercalate ([vpn, "Public exit IPv4: " ++ address, dns, system] ++ failures)

/-! ## The commands -/

/-- What the parser accepts for these commands. -/
inductive Command
  | status (json : Bool)
  | connect (target : String) (json : Bool)
  | disconnect (json : Bool)
  | targetsList (json : Bool)
  | targetsSchema
  | targetsExport
  | targetsReplace (file : String)

/-- `response.error_code or default`. -/
def errorCodeOf (response : ControlResponse) : String :=
  match response.errorCode with
  | none => "CONTROL_ERROR"
  | some code => if code = "" then "CONTROL_ERROR" else code

/-- `_print_control_failure`. -/
def printControlFailure (response : ControlResponse) : CliScript ℕ := do
  printError ("snarkyctl: " ++ errorCodeOf response ++ ": " ++ response.message)
  return 1

/-- What is printed of a successful response, and the exit status. -/
def reportSuccess (wantsStatus : Bool) (response : ControlResponse) : CliScript ℕ :=
  if wantsStatus then
    match response.gatewayStatus with
    | none => do
      printError "snarkyctl: INVALID_RESPONSE: response has no gateway status"
      return 2
    | some status => do
      let text ← done (formatGatewayStatus lib status)
      print text
      return 0
  else
    match response.vpnStatus with
    | none => do
      printError "snarkyctl: INVALID_RESPONSE: response has no VPN status"
      return 2
    | some status => do
      print response.message
      print (formatVpnStatus status)
      return 0

/-- What is printed of a response, and the exit status. -/
def reportResponse (wantsStatus json : Bool) (response : ControlResponse) : CliScript ℕ :=
  if json then do
    print (lib.dumpResponse response)
    return if response.success then 0 else 1
  else if response.success then reportSuccess lib wantsStatus response
  else printControlFailure response

/-- `except ControlClientError as exc`. -/
def controlClient? : ControlError → Option (String × String)
  | .client code message => some (code, message)
  | _ => none

/-- What is printed of a failure of the client. -/
def printFailure (json : Bool) (code message : String) : CliScript ℕ := do
  if json then print (lib.dumpFailure code message)
  else printError s!"snarkyctl: {code}: {message}"
  return 2

/-- `_run_control_command`. -/
def runControlCommand (wantsStatus json : Bool) (request : CliScript ControlResponse) :
    CliScript ℕ := do
  match ← request.attempt controlClient? with
  | .error (code, message) => printFailure lib json code message
  | .ok response => reportResponse lib wantsStatus json response

def printTargets : List VpnTargetSummary → CliScript Unit
  | [] => return ()
  | target :: targets => do
    print (target.alias.val ++ "\t" ++ target.label.val)
    printTargets targets

/-- `targets list`. -/
def listTargets (catalog : VpnTargetCatalog) (json : Bool) : CliScript ℕ := do
  if json then print (lib.dumpCatalog catalog) else printTargets catalog.targets
  return 0

/-- A response that is used when it reports success and has what was asked for. -/
def useResponse {A : Type} (part : ControlResponse → Option A) (response : ControlResponse)
    (use : A → CliScript ℕ) : CliScript ℕ :=
  match response.success, part response with
  | true, some a => use a
  | _, _ => printControlFailure response

/-- `except (OSError, UnicodeError, ValidationError) as exc`. -/
def document? : ControlError → Option String
  | .raised (.os message) => some message
  | .raised .unicodeDecode => some "UnicodeDecodeError"
  | .raised .validation => some "ValidationError"
  | _ => none

/-- The document of a replacement, read and checked. -/
def readDocument (file : String) : CliScript ReplacementFile := do
  let text ← readText file
  match lib.validateReplacement text with
  | some replacement => return replacement
  | none => raise (.raised .validation)

/-- `ControlClient.replace_catalogue`. What the model of the request checks, the model of the file
has checked. -/
def replaceOperation (replacement : ReplacementFile) : Operation :=
  .targetCatalogReplaceRequest replacement.provider replacement.expectedRevision
    ⟨replacement.targets.val, replacement.targets.property.2⟩

/-- What is printed of a document that is refused. -/
def printRefused (message : String) : CliScript ℕ := do
  printError s!"snarkyctl: INVALID_CATALOG: {message}"
  return 2

/-- What is printed of a catalogue that was replaced. -/
def printReplaced (catalogue : TargetCatalogue) : CliScript ℕ := do
  print ("Replaced " ++ str catalogue.targets.length ++ " targets; revision=" ++
    str catalogue.revision)
  return 0

/-- `targets replace`. -/
def replaceTargets (file : String) : CliScript ℕ := do
  match ← (readDocument lib file).attempt document? with
  | .error message => printRefused message
  | .ok replacement =>
    let response ← ask lib (replaceOperation replacement)
    useResponse ControlResponse.editableTargetCatalogue response printReplaced

/-- What a command below `targets` does with the catalogue of the active provider. -/
inductive TargetsCommand
  | list (json : Bool)
  | schema
  | exportCatalogue
  | replace (file : String)

/-- The commands below `targets` after the provider was looked up. -/
def runOnCatalog (catalog : VpnTargetCatalog) : TargetsCommand → CliScript ℕ
  | .list json => listTargets lib catalog json
  | .schema => do
    let response ← ask lib (.targetSchemaRequest catalog.provider)
    useResponse ControlResponse.providerTargetSchema response fun schema => do
      print (lib.dumpSchema schema)
      return 0
  | .exportCatalogue => do
    let response ← ask lib (.targetCatalogGetRequest catalog.provider)
    useResponse ControlResponse.editableTargetCatalogue response fun catalogue => do
      print (lib.dumpDocument catalogue.provider catalogue.revision catalogue.targets)
      return 0
  | .replace file => replaceTargets lib file

/-- The `try` statement of `_run_targets_command`. -/
def targetsBody (command : TargetsCommand) : CliScript ℕ := do
  let ordinary ← ask lib .targetsRequest
  useResponse ControlResponse.targetCatalog ordinary fun catalog => runOnCatalog lib catalog command

/-- `_run_targets_command`. -/
def runTargetsCommand (command : TargetsCommand) : CliScript ℕ := do
  match ← (targetsBody lib command).attempt controlClient? with
  | .ok status => return status
  | .error (code, message) =>
    printError s!"snarkyctl: {code}: {message}"
    return 2

/-- `main`, after the argument vector was parsed. -/
def main : Command → CliScript ℕ
  | .status json => runControlCommand lib true json (ask lib .statusRequest)
  | .connect target json => runControlCommand lib false json (connect lib target)
  | .disconnect json => runControlCommand lib false json (ask lib .disconnectRequest)
  | .targetsList json => runTargetsCommand lib (.list json)
  | .targetsSchema => runTargetsCommand lib .schema
  | .targetsExport => runTargetsCommand lib .exportCatalogue
  | .targetsReplace file => runTargetsCommand lib (.replace file)

end Client

end Snarkypuss.Cli
