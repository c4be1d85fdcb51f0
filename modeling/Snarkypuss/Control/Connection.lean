import Snarkypuss.Control.Daemon

/-!
# Requests over a connection

What `handle_connection` answers a request that it has parsed. An exception of the dispatch becomes
a refusal.

## Main definitions

* `ControlService.answer`: the response to a request
-/

namespace Snarkypuss

/-- `_provider_failure`. -/
def providerFailure (requestId : UUID) (code message : String) : ControlResponse :=
  .refusal requestId code message

/-- The response to a request, from the result of its dispatch. -/
def ControlService.answer (requestId : UUID) : Except PyException ControlResponse → ControlResponse
  | .ok response => response
  | .error (.provider code message) => providerFailure requestId code message
  | .error _ =>
    .refusal requestId "INTERNAL_ERROR" "The control operation failed unexpectedly."

/-- A dispatch that raises is answered without success. -/
theorem ControlService.answer_error (requestId : UUID) (e : PyException) :
    (answer requestId (.error e)).success = false := by
  cases e <;> rfl

end Snarkypuss
