/-!
# Faults of URLs

Why a text is not an absolute URL.
-/

set_option autoImplicit false

namespace SignOn

/-- Why a text is not an absolute URL. -/
inductive UrlFault where
  | emptyHost
  | domainName
  | port
  | ipv4
  | ipv6
  | domainCharacter
  | relative
deriving Repr, DecidableEq

/-- Text of the fault. -/
def UrlFault.message : UrlFault → String
  | emptyHost => "empty host"
  | domainName => "invalid international domain name"
  | port => "invalid port number"
  | ipv4 => "invalid IPv4 address"
  | ipv6 => "invalid IPv6 address"
  | domainCharacter => "invalid domain character"
  | relative => "relative URL without a base"

end SignOn
