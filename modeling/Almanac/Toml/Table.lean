import Almanac.Datum
import Almanac.Dictionary

/-!
# Tables of TOML texts

A text builds one table out of many statements. How a table came about decides
what may still be added to it: a table with a heading of its own may not get
another heading, one that dotted names made may not get a heading at all, and
dotted names may not reach into one that has a heading.
-/

namespace Almanac.Toml

/-- How a table came about. -/
inductive Origin where
  /-- It lies on the way to a table with a heading. -/
  | implied
  /-- Dotted names lead through it. -/
  | dotted
  /-- It has a heading, or is the whole text. -/
  | headed
deriving DecidableEq

/-- A table with its entries in the order of their names, a list of tables, or a finished value. -/
inductive Node where
  | value (d : Datum)
  | table (origin : Origin) (entries : List (String × Node))
  | tables (items : List Node)

namespace Node

/-- The entry of this name. -/
def find? (entries : List (String × Node)) (name : String) : Option Node :=
  (entries.find? (fun e => e.1 == name)).map Prod.snd

/-- Changes the table at the end of a path. Tables on the way that are missing are made; of a list
of tables the last is meant. -/
def within (dotted : Bool) (change : Node → Option Node) : List String → Node → Option Node
  | [], node => change node
  | name :: path, .table origin entries =>
    let put (n : Node) : Node := .table origin (Dictionary.setEntry name n entries)
    match find? entries name with
    | none =>
      (within dotted change path (.table (if dotted then .dotted else .implied) [])).map put
    | some (.table o es) =>
      if dotted && o == .headed then none else (within dotted change path (.table o es)).map put
    | some (.tables items) =>
      match items.getLast? with
      | some last =>
        (within dotted change path last).map fun n => put (.tables (items.dropLast ++ [n]))
      | none => none
    | some (.value _) => none
  | _ :: _, _ => none

/-- Gives a table a heading. -/
def addTable (name : String) : Node → Option Node
  | .table origin entries =>
    match find? entries name with
    | none => some (.table origin (Dictionary.setEntry name (.table .headed []) entries))
    | some (.table .implied es) =>
      some (.table origin (Dictionary.setEntry name (.table .headed es) entries))
    | some _ => none
  | _ => none

/-- Adds a table to a list of tables. -/
def addItem (name : String) : Node → Option Node
  | .table origin entries =>
    match find? entries name with
    | none => some (.table origin (Dictionary.setEntry name (.tables [.table .headed []]) entries))
    | some (.tables items) =>
      some (.table origin
        (Dictionary.setEntry name (.tables (items ++ [.table .headed []])) entries))
    | some _ => none
  | _ => none

/-- Adds an entry to a table. A name without dots may not go into a table that dotted names made,
and a dotted one goes nowhere else. -/
def addEntry (isDotted : Bool) (name : String) (d : Datum) : Node → Option Node
  | .table origin entries =>
    if (origin == .dotted) != isDotted then none
    else
      match find? entries name with
      | none => some (.table origin (Dictionary.setEntry name (.value d) entries))
      | some _ => none
  | _ => none

/-- Adds an entry under a path and a name. -/
def addAt (path : List String) (name : String) (d : Datum) (node : Node) : Option Node :=
  within true (addEntry (!path.isEmpty) name d) path node

mutual

/-- The data of a node. -/
def datum : Node → Datum
  | .value d => d
  | .table _ entries => .mapping (entryData entries) .closed
  | .tables items => .sequence (itemData items) true

/-- The data of entries. -/
def entryData : List (String × Node) → List (String × Datum)
  | [] => []
  | (name, n) :: es => (name, datum n) :: entryData es

/-- The data of items. -/
def itemData : List Node → List Datum
  | [] => []
  | n :: ns => datum n :: itemData ns

end

end Node

end Almanac.Toml
