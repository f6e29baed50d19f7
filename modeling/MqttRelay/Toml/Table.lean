import MqttRelay.Value

/-!
# Tables of a configuration file

A file fills a tree of tables from the top down. A table comes into being by a header of its
own, as a step on the way to another table, or through the dots of a key, and how it came about
decides who may still add to it: a header may open what was only a step, dots may lead through
what has no header, and a key is set once.

Results:
* `enter_nil`: the empty path leads to where it starts.
-/

namespace MqttRelay.Toml

/-- How a table came into being. -/
inductive Origin where
  /-- By a header of its own. -/
  | header
  /-- As a step on the way of a header to another table. -/
  | step
  /-- Through the dots of a key. -/
  | dots
  deriving DecidableEq, Repr

/-- What a key of a table holds. -/
inductive Node where
  | leaf (value : Value)
  | table (origin : Origin) (fields : List (String × Node))
  /-- The tables under one repeated header, in order. -/
  | series (tables : List (List (String × Node)))
  deriving Inhabited

/-- The keys of a table with what they hold. -/
abbrev Fields := List (String × Node)

/-- What a key holds. -/
def lookup (fields : Fields) (key : String) : Option Node :=
  (fields.find? fun f => f.1 == key).map (·.2)

/-- Puts a node under a key, in the place of what the key held. -/
def place (key : String) (node : Node) : Fields → Fields
  | [] => [(key, node)]
  | f :: fs => if f.1 = key then (key, node) :: fs else f :: place key node fs

/-- Changes the table at the end of a path, making the tables on the way. A path of dots does
not lead through a table that has a header; a path through a series leads into its last table;
no path leads through a value. -/
def enter (byDots : Bool) (change : Origin → Fields → Option Fields) :
    List String → Origin → Fields → Option Fields
  | [], origin, fields => change origin fields
  | key :: path, _, fields =>
    match lookup fields key with
    | none => do
      let origin := if byDots then .dots else .step
      let table ← enter byDots change path origin []
      return place key (.table origin table) fields
    | some (.leaf _) => none
    | some (.table origin table) =>
      if byDots && origin == .header then none
      else do
        let table ← enter byDots change path origin table
        return place key (.table origin table) fields
    | some (.series tables) => do
      let table ← enter byDots change path .header (tables.getLast?.getD [])
      return place key (.series (tables.dropLast ++ [table])) fields

/-- The steps before the last key of a path, and that key. -/
def splitLast (path : List String) : List String × String :=
  (path.dropLast, path.getLast?.getD "")

/-- Sets a key, which may have dots, to a value. With dots it must lead into a table that came
about through dots. -/
def assign (path : List String) (value : Value) (origin : Origin) (fields : Fields) :
    Option Fields :=
  let (steps, key) := splitLast path
  enter true (fun origin fields =>
    if !steps.isEmpty && origin != .dots then none
    else
      match lookup fields key with
      | some _ => none
      | none => some (place key (.leaf value) fields)) steps origin fields

/-- Opens the table of a header. -/
def openTable (path : List String) (root : Fields) : Option Fields :=
  let (steps, key) := splitLast path
  enter false (fun _ fields =>
    match lookup fields key with
    | none => some (place key (.table .header []) fields)
    | some (.table .step table) => some (place key (.table .header table) fields)
    | some _ => none) steps .header root

/-- Opens the next table of a repeated header. -/
def openNext (path : List String) (root : Fields) : Option Fields :=
  let (steps, key) := splitLast path
  enter false (fun _ fields =>
    match lookup fields key with
    | none => some (place key (.series [[]]) fields)
    | some (.series tables) => some (place key (.series (tables ++ [[]])) fields)
    | some _ => none) steps .header root

theorem enter_nil (byDots : Bool) (change : Origin → Fields → Option Fields) (origin : Origin)
    (fields : Fields) : enter byDots change [] origin fields = change origin fields := rfl

/-! ## As data -/

mutual

/-- The data of a node. -/
def Node.toValue : Node → Value
  | .leaf value => value
  | .table _ fields => .object (dataOf fields)
  | .series tables => .arr (dataOfAll tables)

/-- The data of the fields of a table. -/
def dataOf : List (String × Node) → List (String × Value)
  | [] => []
  | (key, node) :: fields => (key, node.toValue) :: dataOf fields

/-- The data of several tables. -/
def dataOfAll : List (List (String × Node)) → List Value
  | [] => []
  | fields :: tables => .object (dataOf fields) :: dataOfAll tables

end

end MqttRelay.Toml
