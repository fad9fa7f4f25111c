import SignOn.Document.Value

/-!
# TOML: tables under construction

A TOML document states each table once: under a header, by the keys of its
entries, or as a value. A table remembers how it came about, because that
decides what may still be added to it.
-/

set_option autoImplicit false

namespace SignOn.Document.Toml

/-- How a table came about. -/
inductive Origin where
  /-- A header names the table. -/
  | header
  /-- A header names a table within it. -/
  | implied
  /-- The key of an entry leads through it. -/
  | dotted
deriving Repr, DecidableEq

/-- A part of a document under construction. -/
inductive Node where
  | leaf (value : Value)
  | table (origin : Origin) (entries : List (String × Node))
  /-- The tables of a list, one for each header, with the latest first. -/
  | rows (tables : List (List (String × Node)))

/-- Entries of a table under construction. -/
abbrev Nodes := List (String × Node)

namespace Node

/-- The node under `key`. -/
def find? (key : String) : Nodes → Option Node
  | [] => none
  | (k, node) :: nodes => if k = key then some node else find? key nodes

/-- Nodes in which the one under `key` is `node`. -/
def put (key : String) (node : Node) : Nodes → Nodes
  | [] => [(key, node)]
  | (k, old) :: nodes => if k = key then (k, node) :: nodes else (k, old) :: put key node nodes

/-- Adds an entry. Tables that a header names are closed to the paths of entries;
a table that a header implies counts as named by the path from then on. Of a list
of tables a path leads through the latest, to a table within it. -/
def assign? (value : Value) : List String → Nodes → Option Nodes
  | [], _ => none
  | [key], nodes =>
    match find? key nodes with
    | none => some (put key (.leaf value) nodes)
    | some _ => none
  | key :: next :: path, nodes =>
    match find? key nodes with
    | none => (assign? value (next :: path) []).map fun inner => put key (.table .dotted inner) nodes
    | some (.table .header _) => none
    | some (.table _ inner) =>
      (assign? value (next :: path) inner).map fun inner => put key (.table .dotted inner) nodes
    | some (.rows (latest :: tables)) =>
      if path = [] then none
      else
        (assign? value (next :: path) latest).map fun latest =>
          put key (.rows (latest :: tables)) nodes
    | some _ => none

/-- Changes the table under `key` on the path of a header. Of a list of tables
it is the latest. -/
def through? (key : String) (f : Nodes → Option Nodes) (nodes : Nodes) : Option Nodes :=
  match find? key nodes with
  | none => (f []).map fun inner => put key (.table .implied inner) nodes
  | some (.table origin inner) => (f inner).map fun inner => put key (.table origin inner) nodes
  | some (.rows (latest :: tables)) =>
    (f latest).map fun latest => put key (.rows (latest :: tables)) nodes
  | some _ => none

/-- Opens the table that a header names and fills it by `f`. -/
def openTable? (f : Nodes → Option Nodes) : List String → Nodes → Option Nodes
  | [], _ => none
  | [key], nodes =>
    match find? key nodes with
    | none => (f []).map fun inner => put key (.table .header inner) nodes
    | some (.table .implied inner) =>
      (f inner).map fun inner => put key (.table .header inner) nodes
    | some _ => none
  | key :: path, nodes => through? key (openTable? f path) nodes

/-- Adds a table to the list that a header names and fills it by `f`. -/
def openRow? (f : Nodes → Option Nodes) : List String → Nodes → Option Nodes
  | [], _ => none
  | [key], nodes =>
    match find? key nodes with
    | none => (f []).map fun row => put key (.rows [row]) nodes
    | some (.rows tables) => (f []).map fun row => put key (.rows (row :: tables)) nodes
    | some _ => none
  | key :: path, nodes => through? key (openRow? f path) nodes

mutual

/-- The finished value of a node. -/
def finish : Node → Value
  | .leaf value => value
  | .table _ nodes => .table (finishAll nodes)
  | .rows tables => .list (finishRows tables).reverse

/-- The finished entries of a table. -/
def finishAll : Nodes → List (String × Value)
  | [] => []
  | (key, node) :: nodes => (key, finish node) :: finishAll nodes

/-- The finished tables of a list. -/
def finishRows : List Nodes → List Value
  | [] => []
  | nodes :: tables => .table (finishAll nodes) :: finishRows tables

end

end Node

end SignOn.Document.Toml
