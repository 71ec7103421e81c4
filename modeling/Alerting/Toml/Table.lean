import Alerting.Json.Basic

/-!
# Tables of TOML

A document builds a tree of tables. Where a table came from decides who may add to it:
a header may complete a table that deeper headers brought into being, and a dotted key
may go on only through tables that dotted keys brought into being.
-/

namespace Alerting

namespace Toml

/-- How a table came into being. -/
inductive Origin where
  /-- By its own header, or as the root. -/
  | header
  /-- As the parent of a deeper header. -/
  | parent
  /-- By a dotted key. -/
  | dotted
  deriving DecidableEq

mutual

/-- What stands under a key. -/
inductive Item where
  | value (json : Json)
  | table (table : Table)
  /-- The tables of an array of tables, the last one first. -/
  | tables (last : Table) (earlier : List Table)

/-- A table under construction. -/
inductive Table where
  | mk (origin : Origin) (items : List (String × Item))

end

namespace Table

def origin : Table → Origin
  | .mk origin _ => origin

def items : Table → List (String × Item)
  | .mk _ items => items

/-- A table without items. -/
def empty (origin : Origin) : Table := .mk origin []

def get? (table : Table) (key : String) : Option Item := table.items.lookup key

/-- Puts an item in place of the one under its key, or at the end. -/
def setItem (key : String) (item : Item) : List (String × Item) → List (String × Item)
  | [] => [(key, item)]
  | (candidate, old) :: rest =>
    if candidate = key then (key, item) :: rest else (candidate, old) :: setItem key item rest

def set (table : Table) (key : String) (item : Item) : Table :=
  .mk table.origin (setItem key item table.items)

/--
Changes the table that a path leads to. Missing tables come into being on the way. A
path that is part of a dotted key is refused at a table that has a header.
-/
def modify (isDotted : Bool) (change : Table → Option Table) : List String → Table → Option Table
  | [], table => change table
  | key :: path, table =>
    match table.get? key with
    | none => do
      let child ← modify isDotted change path (empty (if isDotted then .dotted else .parent))
      some (table.set key (.table child))
    | some (.value _) => none
    | some (.tables last earlier) => do
      let child ← modify isDotted change path last
      some (table.set key (.tables child earlier))
    | some (.table child) =>
      if isDotted && child.origin = .header then none
      else do
        let child ← modify isDotted change path child
        some (table.set key (.table child))

/-- Adds a value under the last part of a key, in the table that the other parts lead to. -/
def define (table : Table) (path : List String) (key : String) (value : Json) : Option Table :=
  let isPlain := path.isEmpty
  table.modify true (fun inner =>
    if (!isPlain && inner.origin ≠ .dotted) || (inner.get? key).isSome then none
    else some (inner.set key (.value value))) path

/-- The table that a header opens, if its key is free or named as a parent before. -/
def open? (table : Table) (path : List String) (key : String) : Option Table :=
  table.modify false (fun inner =>
    match inner.get? key with
    | none => some (inner.set key (.table (empty .header)))
    | some (.table child) =>
      if child.origin = .parent then some (inner.set key (.table (.mk .header child.items)))
      else none
    | some _ => none) path

/-- The next table of an array of tables that a header opens. -/
def openNext? (table : Table) (path : List String) (key : String) : Option Table :=
  table.modify false (fun inner =>
    match inner.get? key with
    | none => some (inner.set key (.tables (empty .header) []))
    | some (.tables last earlier) =>
      some (inner.set key (.tables (empty .header) (last :: earlier)))
    | some _ => none) path

end Table

mutual

/-- The value that an item denotes. -/
def Item.toJson : Item → Json
  | .value json => json
  | .table table => table.toJson
  | .tables last earlier => .array ((last.toJson :: tablesToJson earlier).reverse)

/-- The object that a table denotes. -/
def Table.toJson : Table → Json
  | .mk _ items => .object (itemsToJson items)

def tablesToJson : List Table → List Json
  | [] => []
  | table :: rest => table.toJson :: tablesToJson rest

def itemsToJson : List (String × Item) → List (Bytes × Json)
  | [] => []
  | (key, item) :: rest => (Json.literalOfText key, item.toJson) :: itemsToJson rest

end

end Toml

end Alerting
