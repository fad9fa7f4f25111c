import SignOn.Environment.Basic
import SignOn.Text.Blank
import SignOn.Text.Utf8
import SignOn.Unicode.Letters

/-!
# Files of environment variables

A file sets variables line by line, as `NAME=value`. Values can be quoted, go
over several lines and take in the values of other variables. The variables
that are set already keep their values, and reading ends at the first line that
makes no sense.
-/

set_option autoImplicit false

namespace SignOn.Environment.File

open SignOn.Text

/-! ## Lines -/

/-- Where a line stands after some of its characters. -/
inductive Place where
  | plain
  /-- After a blank outside quotes; a comment may start here. -/
  | blank
  | escaped
  /-- Inside `quote`s. -/
  | quoted (quote : Char)
  | quotedEscape (quote : Char)
deriving Repr, DecidableEq

/-- The place outside quotes after `c`. -/
def Place.outside (c : Char) : Place :=
  if c = '\\' then .escaped else if c = '"' ∨ c = '\'' then .quoted c else .plain

/-- The place after `c`; none at the start of a comment. -/
def Place.after? : Place → Char → Option Place
  | .blank, c => if c = '#' then none else some (.outside c)
  | .plain, c =>
    if isBlank c ∧ c ≠ '\n' ∧ c ≠ '\r' then some .blank else some (.outside c)
  | .escaped, _ => some .plain
  | .quoted quote, c =>
    if c = '\\' then some (.quotedEscape quote)
    else if c = quote then some .plain
    else some (.quoted quote)
  | .quotedEscape quote, _ => some (.quoted quote)

/-- The characters before a comment, and the place at the end of the line if it
has none. -/
def walk (place : Place) : List Char → List Char × Option Place
  | [] => ([], some place)
  | c :: cs =>
    match place.after? c with
    | none => ([], none)
    | some next =>
      let (before, last) := walk next cs
      (c :: before, last)

/-- The lines of a text, each with the line feed that ends it. -/
def rows : List Char → List (List Char)
  | [] => []
  | c :: cs =>
    if c = '\n' then [c] :: rows cs
    else
      match rows cs with
      | [] => [[c]]
      | row :: more => (c :: row) :: more

/-- A line without its line break. -/
def dropBreak (line : List Char) : List Char :=
  match line.reverse with
  | '\n' :: '\r' :: before => before.reverse
  | '\n' :: before => before.reverse
  | _ => line

/-- The lines that stand for one variable each, given the part of such a line
that is read already. A line goes on while a quote or an escape is open; none
stands for a line that the end of the file cuts off. -/
def lines (part : List Char) (place : Place) : List (List Char) → List (Option (List Char))
  | [] => if place = .plain then [] else [none]
  | row :: more =>
    let line := part ++ row
    if (line.dropWhile isBlank).head? = some '#' then some [] :: lines [] .plain more
    else
      match walk place row with
      | (before, none) => some (part ++ before) :: lines [] .plain more
      | (_, some .plain) => some (dropBreak line) :: lines [] .plain more
      | (_, some place) => lines line place more

/-! ## Values -/

/-- What the next character of a value belongs to. -/
inductive Reading where
  | plain
  /-- Text between double quotes. -/
  | weak
  /-- Text between single quotes. -/
  | strong
  | escape (isWeak : Bool)
  /-- The name of a variable after a dollar sign. -/
  | name (isWeak : Bool) (name : List Char)
  /-- The name of a variable in braces. -/
  | braced (isWeak : Bool) (name : List Char)
  /-- The space after a value. -/
  | ended

/-- Reading of text outside single quotes. -/
def Reading.text (isWeak : Bool) : Reading :=
  if isWeak then .weak else .plain

/-- The character an escape stands for. -/
def escape? (c : Char) : Option Char :=
  if c = 'n' then some '\n'
  else if c = '\\' ∨ c = '\'' ∨ c = '"' ∨ c = '$' ∨ c = ' ' then some c
  else none

/-- A value, where `valueOf` gives the values of variables. -/
def value? (valueOf : List Char → List Char) : Reading → List Char → Option (List Char)
  | .plain, [] | .ended, [] | .escape false, [] => some []
  | .name false name, [] => some (valueOf name)
  | _, [] => none
  | .ended, c :: cs =>
    if c = ' ' ∨ c = '\t' then value? valueOf .ended cs
    else if c = '#' then some []
    else none
  | .escape isWeak, c :: cs => do
    return (← escape? c) :: (← value? valueOf (.text isWeak) cs)
  | .strong, c :: cs =>
    if c = '\'' then value? valueOf .plain cs
    else (value? valueOf .strong cs).map (c :: ·)
  | .name isWeak name, c :: cs =>
    if Unicode.isAlphanumeric c then value? valueOf (.name isWeak (name ++ [c])) cs
    else if c = '\x7b' ∧ name = [] then value? valueOf (.braced isWeak []) cs
    else if c = '$' then (value? valueOf (.name isWeak []) cs).map (valueOf name ++ ·)
    else (value? valueOf (.text isWeak) cs).map (valueOf name ++ c :: ·)
  | .braced isWeak name, c :: cs =>
    if c = '\x7d' then (value? valueOf (.text isWeak) cs).map (valueOf name ++ ·)
    else value? valueOf (.braced isWeak (name ++ [c])) cs
  | .weak, c :: cs =>
    if c = '$' then value? valueOf (.name true []) cs
    else if c = '"' then value? valueOf .plain cs
    else if c = '\\' then value? valueOf (.escape true) cs
    else (value? valueOf .weak cs).map (c :: ·)
  | .plain, c :: cs =>
    if c = '$' then value? valueOf (.name false []) cs
    else if c = '\'' then value? valueOf .strong cs
    else if c = '"' then value? valueOf .weak cs
    else if c = '\\' then value? valueOf (.escape false) cs
    else if c = ' ' ∨ c = '\t' then value? valueOf .ended cs
    else (value? valueOf .plain cs).map (c :: ·)

/-! ## Variables -/

/-- Whether `c` may start a name. -/
def isNameStart (c : Char) : Bool :=
  isLetter c || c = '_'

/-- Whether `c` may stand in a name. -/
def isNameChar (c : Char) : Bool :=
  isLetter c || isDigit c || c = '_' || c = '.'

/-- A name at the head, and what follows it and its blanks. -/
def name? (cs : List Char) : Option (List Char × List Char) :=
  if cs.head?.any isNameStart then
    let (name, rest) := cs.span isNameChar
    some (name, rest.dropWhile isBlank)
  else none

/-- A name with the sign of equality after it. The word `export` may stand
before it. -/
def target? (cs : List Char) : Option (List Char × List Char) := do
  match ← name? cs with
  | (name, '=' :: rest) => return (name, rest)
  | (name, rest) =>
    if name = "export".toList then
      match ← name? rest with
      | (name, '=' :: rest) => return (name, rest)
      | _ => none
    else none

/-- Whether nothing but a comment is left. -/
def isOver (cs : List Char) : Bool :=
  cs.head?.all (· = '#')

/-- The variable that a line sets, if it sets one. -/
def assignment? (environment : Environment) (line : List Char) : Option (Option (String × String)) :=
  let cs := trimmed line
  if isOver cs then some none
  else do
    let (name, rest) ← target? cs
    let written := rest.dropWhile isBlank
    let valueOf := fun name => (environment.valueOf (String.ofList name)).toList
    let value ← if isOver written then some [] else value? valueOf .plain written
    return some (String.ofList name, String.ofList value)

/-- The environment with the variables of lines, up to one that makes no sense. -/
def addLines : List (Option (List Char)) → Environment → Environment
  | [], environment => environment
  | line :: more, environment =>
    match line.bind (assignment? environment) with
    | none => environment
    | some none => addLines more environment
    | some (some (name, value)) => addLines more (environment.addMissing name value)

end File

/-- The environment with the variables of a file. -/
def addFile (environment : Environment) (text : String) : Environment :=
  File.addLines (File.lines [] .plain (File.rows (Text.Utf8.dropMark text.toList))) environment

end SignOn.Environment
