import SignOn.Url.Basic
import SignOn.Url.Fault
import SignOn.Url.Idna
import SignOn.Url.Ipv4
import SignOn.Url.Ipv6
import SignOn.Url.Percent

/-!
# Hosts

Reading the host of a URL: an IPv6 address in brackets, an IPv4 address, or a
domain name brought into its ASCII form. Schemes without special rules keep any
other host as it is written.
-/

set_option autoImplicit false

namespace SignOn.Host

open SignOn.Text SignOn.Url

/-- The IPv6 address whose text follows an opening bracket. -/
def bracketed (inner : List Char) : Except UrlFault Host :=
  match (dropTail? [']'] inner).bind Ipv6.parse? with
  | some groups => .ok (.ipv6 groups)
  | none => .error .ipv6

/-- The host of a domain name in ASCII form. -/
def ofAscii (name : List Char) : Except UrlFault Host :=
  if name = [] then .error .emptyHost
  else if Ipv4.endsInNumber name then
    match Ipv4.parse? name with
    | some address => .ok (.ipv4 address)
    | none => .error .ipv4
  else .ok (.domain (String.ofList name))

/-- The host of a scheme with special rules. -/
def parseSpecial (cs : List Char) : Except UrlFault Host :=
  match cs with
  | '[' :: inner => bracketed inner
  | _ =>
    match Idna.toAscii? (Utf8.decodeLossy (Form.percentDecode cs)) with
    | none => .error .domainName
    | some name => ofAscii name

/-- Characters no opaque host holds. -/
def isForbidden (c : Char) : Bool :=
  c.toNat = 0 || c ∈ ['\t', '\n', '\r', ' ', '#', '/', ':', '<', '>', '?', '@', '[', '\\', ']', '^', '|']

/-- The host of a scheme without special rules, `none` when it is empty. -/
def parseOpaque (cs : List Char) : Except UrlFault (Option Host) :=
  match cs with
  | [] => .ok none
  | '[' :: inner => (bracketed inner).map some
  | _ =>
    if cs.any isForbidden then .error .domainCharacter
    else .ok (some (.domain (Percent.encodeText Percent.isControl cs)))

end SignOn.Host
