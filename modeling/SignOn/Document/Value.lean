import SignOn.Decimal.Read
import SignOn.Decimal.Shortest
import SignOn.Text.Split

/-!
# Documents

A document is a tree of tables and lists over scalars. Records are read from
documents in one of two manners: `strict` takes a scalar only as what it is,
`lenient` takes it as what it can stand for.
-/

set_option autoImplicit false

namespace SignOn.Document

/-- A document. -/
inductive Value where
  | null
  | flag (value : Bool)
  | integer (value : Int)
  | double (value : Float)
  | text (value : String)
  | list (values : List Value)
  | table (entries : List (String × Value))
deriving Inhabited

/-- First value under `key`. -/
def lookup? (key : String) : List (String × Value) → Option Value
  | [] => none
  | (k, value) :: entries => if k = key then some value else lookup? key entries

/-- How scalars and lists are taken. -/
structure Manner where
  flag? : Value → Option Bool
  natural? : Value → Option Nat
  text? : Value → Option String
  /-- Whether a list may hold more values than the record it stands for. -/
  spare : Bool

/-- Takes scalars only as what they are. -/
def strict : Manner where
  flag?
    | .flag value => some value
    | _ => none
  natural?
    | .integer n => if 0 ≤ n then some n.toNat else none
    | _ => none
  text?
    | .text text => some text
    | _ => none
  spare := false

/-- Words that stand for truth values besides `1` and `0`. -/
def wordFlag? (word : String) : Option Bool :=
  if word = "true" ∨ word = "on" ∨ word = "yes" then some true
  else if word = "false" ∨ word = "off" ∨ word = "no" then some false
  else none

/-- A truth value in words or as a digit, in any letter case. -/
def textFlag? (text : String) : Option Bool :=
  if text = "1" then some true else if text = "0" then some false else wordFlag? (Text.lower text)

/-- A number written in a text, or the number of a truth value in words. -/
def textNatural? (text : String) : Option Nat :=
  match wordFlag? (Text.lower text) with
  | some value => some value.toNat
  | none => Decimal.word64? text.toList

/-- Takes scalars as what they can stand for. -/
def lenient : Manner where
  flag?
    | .flag value => some value
    | .integer n => some (n ≠ 0)
    | .double x => some (x != 0)
    | .text text => textFlag? text
    | _ => none
  natural?
    | .integer n => if 0 ≤ n then some n.toNat else none
    | .double x => some x.round.toUInt64.toNat
    | .flag value => some value.toNat
    | .text text => textNatural? text
    | _ => none
  text?
    | .text text => some text
    | .integer n => some (toString n)
    | .double x => some (Decimal.text x)
    | .flag value => some (if value then "true" else "false")
    | _ => none
  spare := true

/-! ## Records -/

/-- One field of a record. -/
inductive Field where
  | given (value : Value)
  /-- A table does not name the field. -/
  | unnamed
  /-- A list ends before the field. -/
  | beyond

/-- The fields `names` of the record a value stands for: a table, or a list of
the values in the order of the fields. -/
def fields? (manner : Manner) (names : List String) : Value → Option (List Field)
  | .table entries => some (names.map fun name => ((lookup? name entries).map .given).getD .unnamed)
  | .list values =>
    if manner.spare || values.length ≤ names.length then
      some ((values.map Field.given ++ List.replicate names.length Field.beyond).take names.length)
    else none
  | _ => none

namespace Field

variable {α : Type}

/-- A field that must be given. -/
def required (read : Value → Option α) : Field → Option α
  | given value => read value
  | _ => none

/-- A field with a default. -/
def defaulted (default : α) (read : Value → Option α) : Field → Option α
  | given value => read value
  | _ => some default

/-- A field that a table may leave out. -/
def leftOut (read : Value → Option (Option α)) : Field → Option (Option α)
  | given value => read value
  | unnamed => some none
  | beyond => none

end Field

/-- A value that may be null. -/
def optional? {α : Type} (read : Value → Option α) : Value → Option (Option α)
  | .null => some none
  | value => (read value).map some

/-- A list of values. -/
def list? {α : Type} (read : Value → Option α) : Value → Option (List α)
  | .list values => values.mapM read
  | _ => none

/-- A number below `bound`. -/
def below? (manner : Manner) (bound : Nat) (value : Value) : Option Nat :=
  (manner.natural? value).filter (· < bound)

end SignOn.Document
