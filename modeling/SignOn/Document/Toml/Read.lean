import SignOn.Document.Toml.Scalar
import SignOn.Document.Toml.Tree
import SignOn.Text.Utf8

/-!
# TOML documents

Reading of TOML documents: keys, lists, tables as values, and the lines of a
document. `Toml.read?` is the whole reader.
-/

set_option autoImplicit false

namespace SignOn.Document.Toml

/-- Reads something at the head of a text, and says what follows it. -/
abbrev Reader (α : Type) := List Char → Option (α × List Char)

/-! ## Keys -/

/-- Whether `c` may stand in a key without quotes. -/
def isKeyChar (c : Char) : Bool :=
  Text.isLetter c || Text.isDigit c || c = '_' || c = '-'

/-- One key, with or without quotes. -/
def key? : Reader String := fun cs =>
  match oneLine? cs with
  | some (text, rest) => some (String.ofList text, rest)
  | none =>
    match cs.span isKeyChar with
    | ([], _) => none
    | (word, rest) => some (String.ofList word, rest)

/-- At most `bound` keys with points between them, and the blanks after them. -/
def keys? : Nat → Reader (List String)
  | 0, _ => none
  | bound + 1, cs => do
    let (key, rest) ← key? (skipBlanks cs)
    match skipBlanks rest with
    | '.' :: rest =>
      let (path, rest) ← keys? bound rest
      return (key :: path, rest)
    | rest => return ([key], rest)

/-- How deep lists and tables may be nested, and how many keys a path may have. -/
def depthLimit : Nat := 80

/-- The path of an entry or a header. -/
def path? : Reader (List String) :=
  keys? depthLimit

/-! ## Values -/

/-- At most `bound` items with commas between them, up to `close`. A comma may
stand before it. -/
def items? {α : Type} (item? : Reader α) (close : Char) : Nat → Reader (List α)
  | 0, _ => none
  | bound + 1, cs => do
    match skipSpace false cs with
    | [] => none
    | c :: rest =>
      if c = close then return ([], rest)
      let (item, rest) ← item? (c :: rest)
      match skipSpace false rest with
      | ',' :: rest =>
        let (more, rest) ← items? item? close bound rest
        return (item :: more, rest)
      | c :: rest => if c = close then return ([item], rest) else none
      | [] => none

/-- A path, the sign of equality, and a value, with what `skip` leaves out
around the sign. -/
def binding? {α : Type} (skip : List Char → List Char) (value? : Reader α) :
    Reader (List String × α) := fun cs => do
  let (path, rest) ← path? cs
  match skip rest with
  | '=' :: rest =>
    let (value, rest) ← value? (skip rest)
    return ((path, value), rest)
  | _ => none

/-- Entries added one after the other. -/
def assignAll? (entries : List (List String × Value)) (nodes : Nodes) : Option Nodes :=
  entries.foldlM (fun nodes (path, value) => Node.assign? value path nodes) nodes

/-- A value in which lists and tables are nested at most `depth` deep. -/
def value? : Nat → Reader Value
  | 0 => scalar?
  | depth + 1 => fun cs => do
    match cs with
    | '[' :: rest =>
      let (items, rest) ← items? (value? depth) ']' (rest.length + 1) rest
      return (.list items, rest)
    | '{' :: rest =>
      let (entries, rest) ← items? (binding? (skipSpace false) (value? depth)) '}' (rest.length + 1) rest
      return (.table (Node.finishAll (← assignAll? entries [])), rest)
    | _ => scalar? cs

/-! ## Lines -/

/-- A header of a table, or of one more table of a list. -/
structure Header where
  path : List String
  isRow : Bool

/-- A line of a document with something on it. -/
inductive Line where
  | header (header : Header)
  | entry (path : List String) (value : Value)

/-- A header, after its first bracket. -/
def header? : Reader Header := fun cs => do
  match cs with
  | '[' :: cs =>
    match ← path? cs with
    | (path, ']' :: ']' :: rest) => return (⟨path, true⟩, rest)
    | _ => none
  | _ =>
    match ← path? cs with
    | (path, ']' :: rest) => return (⟨path, false⟩, rest)
    | _ => none

/-- A header or an entry. -/
def line? : Reader Line := fun cs => do
  match cs with
  | '[' :: cs =>
    let (header, rest) ← header? cs
    return (.header header, rest)
  | _ =>
    let ((path, value), rest) ← binding? skipBlanks (value? depthLimit) cs
    return (.entry path value, rest)

/-- At most `bound` lines of a document, up to its end. -/
def allLines? : Nat → List Char → Option (List Line)
  | 0, _ => none
  | bound + 1, cs => do
    match skipSpace false cs with
    | [] => return []
    | cs =>
      let (first, rest) ← line? cs
      return first :: (← allLines? bound (← lineEnd? rest))

/-- A header with the entries below it. -/
structure Section where
  header : Header
  entries : List (List String × Value)

/-- The entries before the first header, and the sections after them. -/
def sections : List Line → List (List String × Value) × List Section
  | [] => ([], [])
  | .entry path value :: lines =>
    let (entries, rest) := sections lines
    ((path, value) :: entries, rest)
  | .header header :: lines =>
    let (entries, rest) := sections lines
    ([], ⟨header, entries⟩ :: rest)

/-- The document with one more section. -/
def Section.addTo? (sec : Section) (nodes : Nodes) : Option Nodes :=
  if sec.header.isRow then Node.openRow? (assignAll? sec.entries) sec.header.path nodes
  else Node.openTable? (assignAll? sec.entries) sec.header.path nodes

/-- The entries of a document. -/
def read? (document : List Char) : Option (List (String × Value)) := do
  let cs := Text.Utf8.dropMark document
  let (entries, rest) := sections (← allLines? (cs.length + 1) cs)
  let nodes ← rest.foldlM (fun nodes sec => Section.addTo? sec nodes) (← assignAll? entries [])
  return Node.finishAll nodes

end SignOn.Document.Toml
