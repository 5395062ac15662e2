import JavaLauncher.Toml.Value

/-!
# Tables under construction

While a file is read, every table remembers what made it, because that decides how it may grow.
A table of a header may not be named by a header again, a table that a longer header merely
passed through may once, and a table made by dotted keys grows by dotted keys only. Arrays and
inline tables are values and never grow; an array of tables grows by headers in double
brackets. A change that breaks these rules, or that sets a name twice, is refused.
-/
namespace JavaLauncher.Toml

/-- What made a table. -/
inductive Origin where
  /-- Its own header. -/
  | header
  /-- A header that passed through it. -/
  | passed
  /-- A dotted key. -/
  | dotted
  deriving DecidableEq, Repr

/-- What a name stands for while a file is read. -/
inductive Node where
  /-- A finished value. -/
  | value (value : Value)
  /-- A table that may grow. -/
  | table (origin : Origin) (entries : List (String × Node))
  /-- An array of tables, of which the last may grow. -/
  | tables (elements : List (List (String × Node)))

/-- Named nodes in the order of their first mention. -/
abbrev Nodes := List (String × Node)

namespace Nodes

/-- The nodes with one name set; a name that is there keeps its place. -/
def set : Nodes → String → Node → Nodes
  | [], name, node => [(name, node)]
  | (other, old) :: rest, name, node =>
    if other = name then (name, node) :: rest else (other, old) :: set rest name node

/-- Changes the table that a header names. Tables on the way are made where they are missing,
and an array of tables is entered at its last element. -/
def enter (change : Nodes → Option Nodes) : List String → Nodes → Option Nodes
  | [], nodes => change nodes
  | name :: path, nodes =>
    match nodes.lookup name with
    | none => (enter change path []).map fun inner => set nodes name (.table .passed inner)
    | some (.table origin inner) =>
      (enter change path inner).map fun inner => set nodes name (.table origin inner)
    | some (.tables elements) =>
      match elements.getLast? with
      | none => none
      | some last =>
        (enter change path last).map fun inner =>
          set nodes name (.tables (elements.dropLast ++ [inner]))
    | some (.value _) => none

/-- Opens the table of a header. -/
def openTable (path : List String) (name : String) : Nodes → Option Nodes :=
  enter (fun nodes =>
    match nodes.lookup name with
    | none => some (set nodes name (.table .header []))
    | some (.table .passed inner) => some (set nodes name (.table .header inner))
    | some _ => none) path

/-- Opens a new element of the array of tables of a header. -/
def openElement (path : List String) (name : String) : Nodes → Option Nodes :=
  enter (fun nodes =>
    match nodes.lookup name with
    | none => some (set nodes name (.tables [[]]))
    | some (.tables elements) => some (set nodes name (.tables (elements ++ [[]])))
    | some _ => none) path

/-- Sets a dotted key. The last table on the way must be one that dotted keys made, or the
table in which the key is written, which the flag tells. -/
def assign (name : String) (value : Value) : List String → (mayGrow : Bool) → Nodes → Option Nodes
  | [], mayGrow, nodes =>
    if mayGrow && (nodes.lookup name).isNone then some (set nodes name (.value value)) else none
  | step :: path, _, nodes =>
    match nodes.lookup step with
    | none =>
      (assign name value path true []).map fun inner => set nodes step (.table .dotted inner)
    | some (.table .header _) => none
    | some (.table .passed inner) =>
      (assign name value path false inner).map fun inner => set nodes step (.table .passed inner)
    | some (.table .dotted inner) =>
      (assign name value path true inner).map fun inner => set nodes step (.table .dotted inner)
    | some (.tables elements) =>
      match elements.getLast? with
      | none => none
      | some last =>
        (assign name value path false last).map fun inner =>
          set nodes step (.tables (elements.dropLast ++ [inner]))
    | some (.value _) => none

end Nodes

mutual

/-- The value of a node that will not grow any more. -/
def Node.finish : Node → Value
  | .value value => value
  | .table _ entries => .table (finishTable entries)
  | .tables elements => .array (finishTables elements)

/-- The table of nodes that will not grow any more. -/
def finishTable : List (String × Node) → Table
  | [] => []
  | (name, node) :: rest => (name, node.finish) :: finishTable rest

/-- The elements of an array of tables that will not grow any more. -/
def finishTables : List (List (String × Node)) → List Value
  | [] => []
  | entries :: rest => .table (finishTable entries) :: finishTables rest

end

end JavaLauncher.Toml
