import SignOn.Call
import SignOn.Provider.Basic

/-!
# Confirmed assertions

An assertion that may be taken up is posted back to the provider, and counts
when the provider's answer confirms it.
-/

set_option autoImplicit false

namespace SignOn.Provider

variable {σ : Type}

/-- Takes an assertion addressed to `base` to the provider; its claims. -/
def verify (provider : Provider) (base : String) (params : Assertion.Params) : Call σ Claims := do
  Call.log (provider.acceptEvents params)
  let claims ← Call.ofExcept (provider.accept base params)
  let reply ← Call.post (provider.confirmation params)
  Call.log (judgeEvents claims reply)
  Call.ofExcept (judge claims reply)

end SignOn.Provider
