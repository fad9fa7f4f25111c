import SignOn.Fault

/-!
# Failed requests

How a fault of any layer looks from outside: the status of the answer and the
message shown to the client. Internal failures are not described.
-/

set_option autoImplicit false

namespace SignOn.Web

/-- Why a request fails. -/
inductive Failure where
  | service (fault : Fault)
  | store (fault : StoreFault)
  | core (fault : CoreFault)
  /-- The answer itself cannot be sent. -/
  | transport
deriving Repr, DecidableEq

namespace Failure

/-- Text of the failure. -/
def message : Failure → String
  | service fault => fault.message
  | store fault => fault.message
  | core fault => fault.message
  | transport => "invalid answer"

/-- Status of the answer. -/
def status : Failure → Nat
  | service fault => fault.status
  | store _ | core _ | transport => 500

/-- Whether a failure of the server is described to the client all the same. -/
def isReportable : Failure → Bool
  | service (.directoryUnavailable _) | service (.directoryRefused _) | service (.openId _)
  | service .noMechanism => true
  | _ => false

/-- Message of a failure that is not described. -/
def internalMessage : String := "Internal server error"

/-- Message shown to the client. -/
def publicMessage (failure : Failure) : String :=
  if 500 ≤ failure.status ∧ ¬ failure.isReportable then internalMessage else failure.message

theorem status_ge_400 (failure : Failure) : 400 ≤ failure.status := by
  cases failure with
  | service fault => exact fault.status_ge_400
  | store => simp [status]
  | core => simp [status]
  | transport => simp [status]

end Failure

end SignOn.Web
