import SignOn.Url.Basic
import SignOn.Url.Percent

/-!
# Paths of URLs

A path is read segment by segment: a segment of one dot is dropped, one of two
dots takes the segment before it away, and every other segment is kept in
percent coding. A dot may be written as `%2e`. The path of a `file` URL may begin
with a drive letter.
-/

set_option autoImplicit false

namespace SignOn.UrlPath

open SignOn.Text SignOn.Url

/-- A segment in lower case with its coded dots written out. -/
def plainDots : List Char → List Char
  | '%' :: '2' :: 'e' :: rest | '%' :: '2' :: 'E' :: rest => '.' :: plainDots rest
  | c :: rest => c :: plainDots rest
  | [] => []

/-- Whether a segment stands for the segment it is in. -/
def isHere (segment : List Char) : Bool :=
  plainDots segment = ['.']

/-- Whether a segment stands for the one before it. -/
def isUp (segment : List Char) : Bool :=
  plainDots segment = ['.', '.']

/-- Whether a segment is a drive letter: a letter with a colon or a bar. -/
def isDrive : List Char → Bool
  | [letter, mark] => isLetter letter && (mark = ':' || mark = '|')
  | _ => false

/-- `kept`, last segment first, without its last segment; a drive letter stays. -/
def dropLast : List (List Char) → List (List Char)
  | [] => []
  | segment :: kept => if isDrive segment then segment :: kept else kept

/-- A drive letter with a colon; other segments as they are. -/
def colonDrive : List Char → List Char
  | [letter, '|'] => if isLetter letter then [letter, ':'] else [letter, '|']
  | segment => segment

/-- Resolves the dots of segments after the segments `kept`, which stand last
first. With `drives`, a drive letter that comes to stand first gets a colon. -/
def resolve (drives : Bool) (kept : List (List Char)) : List (List Char) → List (List Char)
  | [] => kept.reverse
  | segment :: rest =>
    if isUp segment then
      resolve drives (if rest = [] then [] :: dropLast kept else dropLast kept) rest
    else if isHere segment then resolve drives (if rest = [] then [] :: kept else kept) rest
    else if drives ∧ kept = [] then resolve drives [colonDrive segment] rest
    else resolve drives (segment :: kept) rest

/-- Characters that end a segment. -/
def isSlash (special : Bool) (c : Char) : Bool :=
  c = '/' || (special && c = '\\')

/-- Segments of a text in which every slash ends one. -/
def cut (special : Bool) (cs : List Char) : List (List Char) :=
  splitAll '/' (cs.map fun c => if isSlash special c then '/' else c)

/-- Segments in percent coding, with their dots resolved. -/
def parseSegments (special drives : Bool) (cs : List Char) : List (List Char) :=
  resolve drives [] ((cut special cs).map (Percent.encode Percent.inPath))

/-- Segments without the empty ones at the head; the last one stays. -/
def dropEmptyHead : List (List Char) → List (List Char)
  | [] :: next :: rest => dropEmptyHead (next :: rest)
  | parts => parts

/-- The path made of the segments `parts`. -/
def ofSegments (parts : List (List Char)) : UrlPath :=
  .segments (parts.map String.ofList)

/-- The rest of a path after its first slash, if it begins with one. -/
def afterSlash (special : Bool) : List Char → List Char
  | c :: rest => if isSlash special c then rest else c :: rest
  | [] => []

/-- The path after the authority of a scheme with special rules; never empty. -/
def parseSpecial (cs : List Char) : UrlPath :=
  ofSegments (parseSegments true false (afterSlash true cs))

/-- The segments in the path of a `file` URL. -/
def fileSegments (cs : List Char) : List (List Char) :=
  parseSegments true true cs

/-- Whether segments begin with a drive letter. -/
def startsWithDrive (parts : List (List Char)) : Bool :=
  parts.head?.any isDrive

/-- The path of a `file` URL with the segments `parts`. -/
def ofFileSegments (parts : List (List Char)) : UrlPath :=
  ofSegments (dropEmptyHead parts)

/-- The path of a scheme without special rules, when it is made of segments. -/
def parsePlain (cs : List Char) : UrlPath :=
  if cs = [] then .segments [] else ofSegments (parseSegments false false (afterSlash false cs))

end SignOn.UrlPath
