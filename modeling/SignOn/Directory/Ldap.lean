import SignOn.Directory.Basic
import SignOn.Url.Parse

/-!
# LDAP servers

Which server an LDAP URL leads to, and how the failures of a search there are
told to the directory client: failures of the connection and the results "busy"
and "unavailable" may be repeated, every other failure is final.
-/

set_option autoImplicit false

namespace SignOn.Directory.Ldap

/-- A server. -/
inductive Endpoint where
  | socket (path : String)
  | network (host : Host) (port : Nat) (encrypted : Bool)
deriving Repr, DecidableEq

/-- Why a search has no entries to answer with. -/
inductive Failure where
  | url (fault : UrlFault)
  | unknownScheme (scheme : String)
  | emptySocketPath
  | portInSocketPath
  /-- The connection failed, with the system's reason. -/
  | connection (reason : String)
  | timeout
  /-- The connection ended before the answer. -/
  | streamEnded
  /-- The filter is not well-formed. -/
  | filterSyntax
  /-- The server answered with a result other than success. -/
  | result (code : Nat) (matched text : String)
deriving Repr, DecidableEq

/-- The server of an LDAP URL; the default host is this machine. -/
def endpoint (text : String) : Except Failure Endpoint :=
  match Url.parse text with
  | .error fault => .error (.url fault)
  | .ok url =>
    if url.scheme = "ldapi" then
      match url.hostText? with
      | none => .error .emptySocketPath
      | some path =>
        if path.toList.contains ':' then .error .portInSocketPath
        else .ok (.socket (String.ofList (Text.Utf8.decodeLossy (Form.percentDecode path.toList))))
    else if url.scheme = "ldap" ∨ url.scheme = "ldaps" then
      let encrypted := decide (url.scheme = "ldaps")
      let port := (url.authority.bind (·.port)).getD (if encrypted then 636 else 389)
      .ok (.network (url.host?.getD (.domain "localhost")) port encrypted)
    else .error (.unknownScheme url.scheme)

/-- Names of result codes. -/
def resultNames : List (Nat × String) :=
  [(0, "success"), (1, "operationsError"), (2, "protocolError"), (3, "timeLimitExceeded"),
    (4, "sizeLimitExceeded"), (5, "compareFalse"), (6, "compareTrue"),
    (7, "authMethodNotSupported"), (8, "strongerAuthRequired"), (10, "referral"),
    (11, "adminLimitExceeded"), (12, "unavailableCriticalExtension"),
    (13, "confidentialityRequired"), (14, "saslBindInProgress"), (16, "noSuchAttribute"),
    (17, "undefinedAttributeType"), (18, "inappropriateMatching"), (19, "constraintViolation"),
    (20, "attributeOrValueExists"), (21, "invalidAttributeSyntax"), (32, "noSuchObject"),
    (33, "aliasProblem"), (34, "invalidDNSyntax"), (36, "aliasDereferencingProblem"),
    (48, "inappropriateAuthentication"), (49, "invalidCredentials"),
    (50, "insufficientAccessRights"), (51, "busy"), (52, "unavailable"),
    (53, "unwillingToPerform"), (54, "loopDetect"), (64, "namingViolation"),
    (65, "objectClassViolation"), (66, "notAllowedOnNonLeaf"), (67, "notAllowedOnRDN"),
    (68, "entryAlreadyExists"), (69, "objectClassModsProhibited"), (71, "affectsMultipleDSAs"),
    (80, "other")]

/-- Name of a result code. -/
def resultName (code : Nat) : String :=
  ((resultNames.find? (·.1 = code)).map (·.2)).getD "unknown"

/-- Text of a failure. -/
def Failure.message : Failure → String
  | url fault => "url parse error: " ++ fault.message
  | unknownScheme scheme => "unknown LDAP URL scheme: " ++ scheme
  | emptySocketPath => "empty Unix domain socket path"
  | portInSocketPath => "the port must be empty in the ldapi scheme"
  | connection reason => "I/O error: " ++ reason
  | timeout => "timeout: deadline has elapsed"
  | streamEnded => "premature end of search stream"
  | filterSyntax => "filter parse error"
  | result code matched text =>
    "LDAP operation result: rc=" ++ toString code ++ " (" ++ resultName code ++ "), dn: \"" ++
      matched ++ "\", text: \"" ++ text ++ "\""

/-- Result codes that mean "try again later". -/
def busyCodes : List Nat := [51, 52]

/-- Whether the search may be repeated. -/
def Failure.isTransient : Failure → Bool
  | connection _ | timeout | streamEnded => true
  | result code _ _ => busyCodes.contains code
  | _ => false

/-- The reason told to the client: the server's own text of a final result, if
it gave one. -/
def Failure.reason (failure : Failure) : String :=
  match failure with
  | result _ _ text =>
    if failure.isTransient ∨ text = "" then failure.message else text
  | _ => failure.message

/-- The answer of a search that failed. -/
def Failure.answer (failure : Failure) : Answer :=
  if failure.isTransient then .unavailable failure.reason else .refused failure.reason

/-- The answer of a search at the server of `text`, where `ask` searches a
server. -/
def answer (text : String) (ask : Endpoint → Except Failure (List Entry)) : Answer :=
  match endpoint text >>= ask with
  | .ok entries => .entries entries
  | .error failure => failure.answer

end SignOn.Directory.Ldap
