import SignOn.Document.Value

/-!
# Places in documents, and layers

A path names a place in a document. Documents of settings come in layers: a
later layer replaces the scalars and lists of an earlier one and is merged into
its tables.
-/

set_option autoImplicit false

namespace SignOn.Document

/-- One step down a document. -/
inductive Step where
  | key (name : String)
  /-- A position in a list; negative ones count from its end. -/
  | position (index : Int)
deriving Repr, DecidableEq

/-- A place in a document. -/
abbrev Path := List Step

namespace Path

/-- Whether `c` may stand in a key of a written path. -/
def isKeyChar (c : Char) : Bool :=
  Text.isLetter c || Text.isDigit c || c = '_' || c = '-'

/-- A key of a written path. -/
def key? (name : List Char) : Option Step :=
  if name ≠ [] ∧ name.all isKeyChar then some (.key (String.ofList name)) else none

/-- A position, written as a number with an optional minus sign. Spaces and tabs
may stand around it. -/
def position? (written : List Char) : Option Step :=
  let isSpace := fun c => c = ' ' || c = '\t'
  match ((written.dropWhile isSpace).reverse.dropWhile isSpace).reverse with
  | '+' :: _ => none
  | number => (Decimal.int64? number).map .position

/-- Positions, each written in brackets; the first bracket is cut off already. -/
def positions? (written : List Char) : Option Path :=
  (Text.splitAll '[' written).mapM fun piece => Text.dropTail? [']'] piece >>= position?

/-- A key with the positions after it. -/
def segment? (segment : List Char) : Option Path := do
  match Text.splitFirst? '[' segment with
  | none => return [← key? segment]
  | some (name, written) => return (← key? name) :: (← positions? written)

/-- A written path: keys with points between them, each with its positions. -/
def parse? (written : List Char) : Option Path :=
  ((Text.splitAll '.' written).mapM segment?).map List.flatten

/-- The place that the name of a setting stands for: the path it writes, or
else the entry of this very name. -/
def ofName (name : String) : Path :=
  (parse? name.toList).getD [.key name]

end Path

/-! ## Changes -/

/-- Entries in which the value under `key` is changed by `f`, from null if there
was none. -/
def changeEntry (key : String) (f : Value → Value) :
    List (String × Value) → List (String × Value)
  | [] => [(key, f .null)]
  | (k, value) :: entries =>
    if k = key then (k, f value) :: entries else (k, value) :: changeEntry key f entries

/-- Entries of a table; other values count as an empty table. -/
def entriesOf : Value → List (String × Value)
  | .table entries => entries
  | _ => []

/-- Items of a list; other values count as an empty list. -/
def itemsOf : Value → List Value
  | .list values => values
  | _ => []

/-- Items in which the one at `index` is changed by `f`. The list is filled up
with nulls at the side where the position lies beyond it. -/
def changeItem (index : Int) (f : Value → Value) (items : List Value) : List Value :=
  if 0 ≤ index then
    (items ++ List.replicate (index.toNat + 1 - items.length) Value.null).modify index.toNat f
  else
    let fromEnd := (-index).toNat
    (List.replicate (fromEnd - items.length) Value.null ++ items).modify (items.length - fromEnd) f

/-- The document with the value at `path` changed by `f`. A value on the way
that has no such place becomes a table or list that does. -/
def change (f : Value → Value) : Path → Value → Value
  | [], value => f value
  | .key name :: path, value => .table (changeEntry name (change f path) (entriesOf value))
  | .position index :: path, value => .list (changeItem index (change f path) (itemsOf value))

/-! ## Layers -/

mutual

/-- `present` under `incoming`: tables are merged, anything else is replaced. -/
def merge : (incoming present : Value) → Value
  | .table entries, present => .table (mergeEntries entries (entriesOf present))
  | incoming, _ => incoming

/-- The entries of a table under those of a later layer. -/
def mergeEntries : (incoming present : List (String × Value)) → List (String × Value)
  | [], present => present
  | (key, value) :: incoming, present =>
    mergeEntries incoming (changeEntry key (merge value) present)

end

/-- `present` under a layer of named settings. -/
def layer (settings : List (String × Value)) (present : Value) : Value :=
  settings.foldl (fun present (name, value) => change (merge value) (Path.ofName name) present)
    present

end SignOn.Document
