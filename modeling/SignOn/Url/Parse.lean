import SignOn.Url.Host
import SignOn.Url.Path

/-!
# Reading URLs

`Url.parse` reads an absolute URL. Controls and spaces around it and tabs and
line ends in it do not count. The schemes with special rules (`http` and its
kind) must have a host and read a backslash as a slash; `file` may leave its
host out.
-/

set_option autoImplicit false

namespace SignOn.Url

open SignOn.Text

/-- `cs` without the controls and spaces at its ends and the tabs and line ends
in it. -/
def cleaned (cs : List Char) : List Char :=
  let isEdge := fun (c : Char) => decide (c.toNat ≤ 0x20)
  let inner := ((cs.dropWhile isEdge).reverse.dropWhile isEdge).reverse
  inner.filter fun c => c ∉ ['\t', '\n', '\r']

/-- Whether `c` may stand in a scheme after its first letter. -/
def isSchemeChar (c : Char) : Bool :=
  isLetter c || isDigit c || c = '+' || c = '-' || c = '.'

/-- The scheme at the head of a text, in lower case, and what follows its colon. -/
def cutScheme? (cs : List Char) : Option (String × List Char) :=
  match cs, cs.span isSchemeChar with
  | first :: _, (scheme, ':' :: rest) =>
    if isLetter first then some (String.ofList (scheme.map lowerChar), rest) else none
  | _, _ => none

/-! ## Authority -/

/-- Whether `c` ends an authority. -/
def endsAuthority (special : Bool) (c : Char) : Bool :=
  c = '/' || c = '?' || c = '#' || (special && c = '\\')

/-- Parts before and after the last `@`, if there is one. -/
def cutLastAt? (cs : List Char) : Option (List Char × List Char) :=
  (splitFirst? '@' cs.reverse).map fun (after, before) => (before.reverse, after.reverse)

/-- Username and password of the text before a host. -/
def credentials (cs : List Char) : String × Option String :=
  let coded := Percent.encodeText Percent.inUserinfo
  match splitFirst? ':' cs with
  | none => (coded cs, none)
  | some (name, []) => (coded name, none)
  | some (name, word) => (coded name, some (coded word))

/-- The text of a host and what follows it: a colon outside brackets, or the end. -/
def cutHost (inside : Bool) : List Char → List Char × List Char
  | [] => ([], [])
  | c :: rest =>
    if c = ':' ∧ ¬ inside then ([], c :: rest)
    else
      let (host, after) := cutHost (if c = '[' then true else if c = ']' then false else inside) rest
      (c :: host, after)

/-- The port in `digits`, `none` when it is the default one or left out. -/
def portOf (scheme : String) (digits : List Char) : Except UrlFault (Option Nat) :=
  if digits = [] then .ok none
  else
    let port := digitsValue 10 hexValue? digits
    if 65535 < port then .error .port
    else .ok (if defaultPort? scheme = some port then none else some port)

/-- Host and port in the text of an authority, and the text that a backslash
after the port cuts off for the path. -/
def hostAndPort (scheme : String) (cs : List Char) :
    Except UrlFault (Option Host × Option Nat × List Char) := do
  let (hostText, after) := cutHost false cs
  let host ←
    if isSpecial scheme then
      if hostText = [] then .error .emptyHost else (Host.parseSpecial hostText).map some
    else Host.parseOpaque hostText
  match after with
  | [] => return (host, none, [])
  | _ :: afterColon =>
    let (digits, rest) := afterColon.span isDigit
    if host = none then .error .emptyHost
    else if rest ≠ [] ∧ rest.head? ≠ some '\\' then .error .port
    else return (host, ← portOf scheme digits, rest)

/-- The authority in the text `cs`, with the text that is left for the path;
`bare` tells that nothing follows the authority. -/
def authorityOf (scheme : String) (bare : Bool) (cs : List Char) :
    Except UrlFault (Authority × List Char) := do
  match cutLastAt? cs with
  | none =>
    let (host, port, rest) ← hostAndPort scheme cs
    return (⟨"", none, host, port⟩, rest)
  | some (info, afterAt) =>
    if info = [] ∧ afterAt = [] ∧ ¬ bare then .error .emptyHost
    else
      let (host, port, rest) ← hostAndPort scheme afterAt
      let (username, password) := credentials info
      if host = none ∧ (username ≠ "" ∨ password ≠ none) then .error .emptyHost
      else return (⟨username, password, host, port⟩, rest)

/-! ## Query and fragment -/

/-- Query and fragment in the text after a path. -/
def tailOf (special : Bool) (cs : List Char) : Option String × Option String :=
  let coded := Percent.encodeText (if special then Percent.inSpecialQuery else Percent.inQuery)
  let fragment := fun text => Percent.encodeText Percent.inFragment text
  match cs with
  | '?' :: rest =>
    match splitFirst? '#' rest with
    | some (query, after) => (some (coded query), some (fragment after))
    | none => (some (coded rest), none)
  | '#' :: rest => (none, some (fragment rest))
  | _ => (none, none)

/-- Parts of `cs` before and after the start of a query or fragment. -/
def cutTail (cs : List Char) : List Char × List Char :=
  cs.span fun c => c ≠ '?' && c ≠ '#'

/-- The URL with a scheme, an authority, a path, and the text of query and
fragment. -/
def assemble (scheme : String) (authority : Option Authority) (path : UrlPath)
    (tail : List Char) : Url :=
  let (query, fragment) := tailOf (isSpecial scheme) tail
  { scheme := scheme, authority := authority, path := path, query := query, fragment := fragment }

/-! ## Schemes -/

/-- The text of an authority and what follows it. -/
def cutAuthority (special : Bool) (cs : List Char) : List Char × List Char :=
  cs.span fun c => !endsAuthority special c

/-- Reads what follows the two slashes before an authority. -/
def parseAfterSlashes (scheme : String) (cs : List Char) : Except UrlFault Url := do
  let special := isSpecial scheme
  let (authorityText, after) := cutAuthority special cs
  let (authority, left) ← authorityOf scheme (after = []) authorityText
  let (path, tail) := cutTail (left ++ after)
  return assemble scheme (some authority)
    (if special then UrlPath.parseSpecial path else UrlPath.parsePlain path) tail

/-- Reads what follows the colon of a scheme without special rules. -/
def parsePlain (scheme : String) (cs : List Char) : Except UrlFault Url :=
  match cs with
  | '/' :: '/' :: rest => parseAfterSlashes scheme rest
  | _ =>
    let (path, tail) := cutTail cs
    match path with
    | '/' :: _ => .ok (assemble scheme none (UrlPath.parsePlain path) tail)
    | _ =>
      .ok (assemble scheme none (.opaqueText (Percent.encodeText Percent.isControl path)) tail)

/-- The host of a `file` URL; `localhost` counts as no host. -/
def fileHost (cs : List Char) : Except UrlFault (Option Host) :=
  if cs = [] then .ok none
  else (Host.parseSpecial cs).map fun host =>
    if host = .domain "localhost" then none else some host

/-- A `file` URL with a host, the segments of a path and the text after it. A
drive letter at the head of the path takes the host away. -/
def assembleFile (host : Option Host) (parts : List (List Char)) (tail : List Char) : Url :=
  let host := if UrlPath.startsWithDrive parts then none else host
  assemble "file" (some ⟨"", none, host, none⟩) (UrlPath.ofFileSegments parts) tail

/-- Reads what follows the two slashes of a `file` URL. Without a host the slash
before the path ends a segment of its own, which is empty. -/
def parseFileHost (path tail : List Char) : Except UrlFault Url := do
  let (hostText, after) := path.span fun c => !UrlPath.isSlash true c
  if UrlPath.isDrive hostText then
    return assembleFile none (UrlPath.fileSegments path) tail
  match ← fileHost hostText with
  | none => return assembleFile none (UrlPath.fileSegments after) tail
  | some host =>
    return assembleFile (some host) (UrlPath.fileSegments (UrlPath.afterSlash true after)) tail

/-- Reads what follows the colon of a `file` URL. -/
def parseFile (cs : List Char) : Except UrlFault Url :=
  let (path, tail) := cutTail cs
  match path with
  | a :: b :: rest =>
    if UrlPath.isSlash true a ∧ UrlPath.isSlash true b then parseFileHost rest tail
    else .ok (assembleFile none (UrlPath.fileSegments (UrlPath.afterSlash true path)) tail)
  | _ => .ok (assembleFile none (UrlPath.fileSegments (UrlPath.afterSlash true path)) tail)

/-- Reads the URL of a scheme from what follows its colon. -/
def parseScheme (scheme : String) (rest : List Char) : Except UrlFault Url :=
  if scheme = "file" then parseFile rest
  else if isSpecial scheme then parseAfterSlashes scheme (rest.dropWhile (UrlPath.isSlash true))
  else parsePlain scheme rest

/-- Reads an absolute URL. -/
def parse (text : String) : Except UrlFault Url :=
  match cutScheme? (cleaned text.toList) with
  | none => .error .relative
  | some (scheme, rest) => parseScheme scheme rest

end SignOn.Url
