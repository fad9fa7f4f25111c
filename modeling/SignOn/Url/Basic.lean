import SignOn.Text.Split

/-!
# URLs

The parts of an absolute URL, its written form, and the questions the service
asks of it: the host's text, the effective port, the path and its segments.
-/

set_option autoImplicit false

namespace SignOn

/-- Host of a URL. -/
inductive Host where
  /-- A name, or the opaque host of a scheme without special rules. -/
  | domain (name : String)
  | ipv4 (address : Nat)
  /-- An address of eight 16-bit groups. -/
  | ipv6 (groups : List Nat)
deriving Repr, DecidableEq

/-- The part of a URL between `//` and its path. -/
structure Authority where
  username : String
  password : Option String
  /-- `none` when the host is empty. -/
  host : Option Host
  /-- `none` for the default port of the scheme. -/
  port : Option Nat
deriving Repr, DecidableEq

/-- Path of a URL. -/
inductive UrlPath where
  /-- A path that is not made of segments, as in `mailto:alice`. -/
  | opaqueText (text : String)
  /-- Segments, each after a slash. -/
  | segments (parts : List String)
deriving Repr, DecidableEq

/-- An absolute URL. -/
structure Url where
  scheme : String
  authority : Option Authority
  path : UrlPath
  query : Option String
  fragment : Option String
deriving Repr, DecidableEq

namespace Host

/-- The four numbers of an IPv4 address, with dots. -/
def ipv4Text (address : Nat) : String :=
  Text.joined "." ([16777216, 65536, 256, 1].map fun unit => toString (address / unit % 256))

/-- Length of the run of zeros at the head of `groups`. -/
def zeroRun (groups : List Nat) : Nat :=
  (groups.takeWhile (· = 0)).length

/-- Start and length of the longest run of zeros in `groups`, the first of
equally long ones; `start` is the place of the head of the list. -/
def longestZeroRun (start : Nat) : List Nat → Nat × Nat
  | [] => (start, 0)
  | group :: groups =>
    let here := zeroRun (group :: groups)
    let later := longestZeroRun (start + 1) groups
    if later.2 ≤ here then (start, here) else later

/-- Hexadecimal groups with colons between them. -/
def groupsText (groups : List Nat) : String :=
  Text.joined ":" (groups.map Text.hexText)

/-- The groups of an IPv6 address; the first longest run of two or more zeros
is left out. -/
def ipv6Text (groups : List Nat) : String :=
  let (start, length) := longestZeroRun 0 groups
  if length < 2 then groupsText groups
  else groupsText (groups.take start) ++ "::" ++ groupsText (groups.drop (start + length))

/-- Written form of a host. -/
def text : Host → String
  | domain name => name
  | ipv4 address => ipv4Text address
  | ipv6 groups => "[" ++ ipv6Text groups ++ "]"

end Host

namespace UrlPath

/-- Written form of a path. -/
def text : UrlPath → String
  | opaqueText text => text
  | segments parts => String.join (parts.map ("/" ++ ·))

end UrlPath

namespace Url

/-- Schemes with special rules and their default ports. -/
def specialSchemes : List (String × Option Nat) :=
  [("http", some 80), ("https", some 443), ("ws", some 80), ("wss", some 443), ("ftp", some 21),
    ("file", none)]

/-- Whether a scheme has special rules. -/
def isSpecial (scheme : String) : Bool :=
  specialSchemes.any (·.1 = scheme)

/-- Default port of a scheme. -/
def defaultPort? (scheme : String) : Option Nat :=
  (specialSchemes.find? (·.1 = scheme)).bind (·.2)

/-- Host, when there is one. -/
def host? (url : Url) : Option Host :=
  url.authority.bind (·.host)

/-- Text of the host, when there is one. -/
def hostText? (url : Url) : Option String :=
  url.host?.map Host.text

/-- Port, or the default port of the scheme. -/
def effectivePort? (url : Url) : Option Nat :=
  (url.authority.bind (·.port)) <|> defaultPort? url.scheme

/-- Segments of a path that begins with a slash. -/
def segments? (url : Url) : Option (List String) :=
  match url.path with
  | .segments (part :: parts) => some (part :: parts)
  | _ => none

/-- Text before the host. -/
def userinfoText (authority : Authority) : String :=
  if authority.username = "" ∧ authority.password = none then ""
  else authority.username ++ (authority.password.elim "" (":" ++ ·)) ++ "@"

/-- Written form of an authority. -/
def authorityText (authority : Authority) : String :=
  "//" ++ userinfoText authority ++ (authority.host.elim "" Host.text) ++
    (authority.port.elim "" fun port => ":" ++ toString port)

/-- What stands between the scheme and the path. Without an authority, a path
that begins with two slashes is kept apart from one. -/
def beforePath (url : Url) : String :=
  match url.authority with
  | some authority => authorityText authority
  | none => if Text.startsWith "//" url.path.text then "/." else ""

/-- Written form of a URL up to its query. -/
def textBeforeQuery (url : Url) : String :=
  url.scheme ++ ":" ++ url.beforePath ++ url.path.text

/-- Written form of a URL. -/
def text (url : Url) : String :=
  url.textBeforeQuery ++ (url.query.elim "" ("?" ++ ·)) ++ (url.fragment.elim "" ("#" ++ ·))

/-- Whether two URLs name one endpoint: same scheme, host, effective port and
path up to slashes at its end. -/
def sameEndpoint (a b : Url) : Bool :=
  a.scheme = b.scheme && a.hostText? = b.hostText? && a.effectivePort? = b.effectivePort? &&
    Text.dropEnd '/' a.path.text = Text.dropEnd '/' b.path.text

end Url

end SignOn
