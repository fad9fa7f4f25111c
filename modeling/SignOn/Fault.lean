/-!
# Faults

The reasons for which a request fails, layer by layer: settings, the user
store, the sign-on service. Each fault has one message and one answer code.
-/

set_option autoImplicit false

namespace SignOn

/-- Faults of settings and of the program itself. -/
inductive CoreFault where
  | configuration (text : String)
  | invariant (text : String)
deriving Repr, DecidableEq

/-- Faults of the user store. -/
inductive StoreFault where
  | notFound (text : String)
  | conflict (text : String)
  | core (fault : CoreFault)
deriving Repr, DecidableEq

/-- Faults of the sign-on service. -/
inductive Fault where
  | store (fault : StoreFault)
  | core (fault : CoreFault)
  | noMechanism
  | noGroupSource
  | accessRestricted (text : String)
  | directoryUnavailable (text : String)
  | directoryRefused (text : String)
  | invalidUsername (text : String)
  | notAuthenticated
  | notFound (text : String)
  | loginCancelled
  | openId (text : String)
  /-- The provider gave no usable answer: the status it refused with, if any. -/
  | http (status : Option Nat)
  | invalidConfiguration (text : String)
  | validation (text : String)
  | invariant (text : String)
deriving Repr, DecidableEq

namespace CoreFault

/-- Text of the fault. -/
def message : CoreFault → String
  | configuration text => "Configuration error: " ++ text
  | invariant text => "Invariant violation: " ++ text

end CoreFault

namespace StoreFault

/-- Text of the fault. -/
def message : StoreFault → String
  | notFound text => "Not found: " ++ text
  | conflict text => "Conflict: " ++ text
  | core fault => fault.message

end StoreFault

namespace Fault

/-- Text of the fault. -/
def message : Fault → String
  | store fault => fault.message
  | core fault => fault.message
  | noMechanism => "No auth method available"
  | noGroupSource => "Nowhere to get user groups from"
  | accessRestricted text => text
  | directoryUnavailable text => "Directory unavailable: " ++ text
  | directoryRefused text => text
  | invalidUsername text => text
  | notAuthenticated => "Not authenticated"
  | notFound text => "Not found: " ++ text
  | loginCancelled => "Login cancelled by the identity provider"
  | openId text => "OpenID error: " ++ text
  | http none => "HTTP error: no answer"
  | http (some status) => "HTTP error: status " ++ toString status
  | invalidConfiguration text => "Invalid configuration: " ++ text
  | validation text => "Validation error: " ++ text
  | invariant text => "Invariant violation: " ++ text

/-- Code an HTTP answer carries for the fault. -/
def status : Fault → Nat
  | accessRestricted _ | invalidUsername _ => 403
  | notAuthenticated => 401
  | loginCancelled | validation _ => 400
  | notFound _ => 404
  | directoryUnavailable _ => 503
  | directoryRefused _ | openId _ | http _ => 502
  | store _ | core _ | noMechanism | noGroupSource | invalidConfiguration _ | invariant _ => 500

theorem status_ge_400 (fault : Fault) : 400 ≤ fault.status := by
  cases fault <;> simp [status]

end Fault

end SignOn
