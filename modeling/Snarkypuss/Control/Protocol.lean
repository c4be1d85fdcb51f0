import Snarkypuss.Status

/-!
# Control messages

The requests and responses of the control protocol, as the models that the daemon dispatches and
returns. Their `version` is the constant 3.

## Main definitions

* `UUID`: request identifiers
* `Operation`, `ControlRequest`: the eleven request models
* `Operation.mutates`: the requests that `ControlService.dispatch` serialises
* `ControlResponse`: the response model
-/

namespace Snarkypuss

instance neZero_digits : NeZero 16 := ⟨by decide⟩

/-- A `uuid.UUID`: 128 bits, as 32 hexadecimal digits. -/
structure UUID where
  digits : List (Fin 16)
  length_eq : digits.length = 32
  deriving DecidableEq

/-- The operations, with the fields of their request models. `LockRequest`, `DisconnectRequest`
and the two read-only requests have none, and `DirectRequest` only its constant confirmation
token. -/
inductive Operation
  | statusRequest
  | targetsRequest
  | lockRequest
  | protectedRequest (target : Identifier)
  | connectRequest (target : Identifier)
  | disconnectRequest
  | directRequest
  | targetSchemaRequest (provider : Identifier)
  | targetOptionsRequest (provider kind : Identifier) (field : FieldName)
      (context : {context : JsonObject // context.entries.length ≤ 16})
  | targetCatalogGetRequest (provider : Identifier)
  | targetCatalogReplaceRequest (provider : Identifier) (expectedRevision : Nat)
      (targets : {targets : List StoredTarget // targets.length ≤ 100})
  deriving DecidableEq

/-- The classes tested in `ControlService.dispatch`: the requests that take the operation lock. -/
def Operation.mutates : Operation → Bool
  | connectRequest _ => true
  | disconnectRequest => true
  | protectedRequest _ => true
  | lockRequest => true
  | directRequest => true
  | targetCatalogReplaceRequest .. => true
  | _ => false

/-- A validated control request. -/
structure ControlRequest where
  requestId : UUID
  operation : Operation
  deriving DecidableEq

/-- Structured response sent by the privileged control daemon. -/
structure ControlResponse where
  requestId : UUID
  success : Bool
  errorCode : Option String := none
  message : String
  vpnStatus : Option VpnStatus := none
  gatewayStatus : Option GatewayStatus := none
  targetCatalog : Option VpnTargetCatalog := none
  providerTargetSchema : Option ProviderTargetSchema := none
  targetOptions : Option TargetOptions := none
  editableTargetCatalogue : Option TargetCatalogue := none
  deriving DecidableEq

/-- A response that refuses the request. -/
def ControlResponse.refusal (requestId : UUID) (errorCode message : String) : ControlResponse where
  requestId := requestId
  success := false
  errorCode := some errorCode
  message := message

end Snarkypuss
