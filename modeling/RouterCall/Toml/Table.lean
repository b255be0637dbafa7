import RouterCall.Toml.Value

/-!
# Tables of TOML

A TOML file builds one table in small steps, and the rules are about what a later step may still add
to. A table that was written as a value is finished. A table that a header named cannot be named
again, though deeper headers may go through it. A table that dotted keys made grows by dotted keys,
and no header can name it. A table that exists merely because a deeper header was written is still
to be named. In a list of tables the way goes through the last one.

## Main definitions

* `Toml.KeyPath`, `Toml.Node`, `Toml.Origin`
* `Toml.Entries.alter`, `Toml.Entries.within`: one key, and the table at the end of a row of keys
* `Toml.Entries.insert?`, `Toml.Entries.open?`, `Toml.Entries.append?`: the three steps
* `Toml.Entries.finish`: the finished table
-/

namespace RouterCall.Toml

/-- A dotted key: the keys before the last dot, and the last key. -/
structure KeyPath where
  parents : List String
  name : String
deriving DecidableEq

/-- What made a table. -/
inductive Origin where
  /-- A deeper header. -/
  | implied
  /-- A header of its own. -/
  | header
  /-- A dotted key. -/
  | dotted
deriving DecidableEq

/-- What a key holds while a file is read. The last table of a list of tables comes first. -/
inductive Node where
  | value (finished : Value)
  | table (origin : Origin) (entries : List (String × Node))
  | tables (items : List (List (String × Node)))

/-- The entries of a table, in the order in which their keys were first written. -/
abbrev Entries := List (String × Node)

namespace Entries

/-- Rewrites what a key holds; the step may refuse. -/
def alter (key : String) (step : Option Node → Option Node) : Entries → Option Entries
  | [] => (fun node => [(key, node)]) <$> step none
  | (written, node) :: entries =>
    if written = key then (fun node => (written, node) :: entries) <$> step (some node)
    else ((written, node) :: ·) <$> alter key step entries

/-- Rewrites the table at the end of a row of keys, going through the last table of each list of
tables. A header goes through every table. A dotted key goes through tables that no header named and
ends in a table that dotted keys made. -/
def within (dotted : Bool) (step : Entries → Option Entries) :
    List String → Entries → Option Entries
  | [], entries => step entries
  | key :: path, entries => entries.alter key fun
    | none => .table (if dotted then .dotted else .implied) <$> within dotted step path []
    | some (.table origin inner) =>
      if dotted ∧ ¬ (origin = .dotted ∨ origin = .implied ∧ path ≠ []) then none
      else .table origin <$> within dotted step path inner
    | some (.tables (last :: earlier)) =>
      if dotted ∧ path = [] then none
      else (fun last => .tables (last :: earlier)) <$> within dotted step path last
    | some _ => none

/-- Adds a value under a dotted key, which must be new. -/
def insert? (path : KeyPath) (value : Value) : Entries → Option Entries :=
  within true (fun entries => entries.alter path.name fun
    | none => some (.value value)
    | some _ => none) path.parents

/-- Names a table by a header. -/
def open? (path : KeyPath) : Entries → Option Entries :=
  within false (fun entries => entries.alter path.name fun
    | none => some (.table .header [])
    | some (.table .implied inner) => some (.table .header inner)
    | some _ => none) path.parents

/-- Starts the next table of a list of tables. -/
def append? (path : KeyPath) : Entries → Option Entries :=
  within false (fun entries => entries.alter path.name fun
    | none => some (.tables [[]])
    | some (.tables items) => some (.tables ([] :: items))
    | some _ => none) path.parents

end Entries

/-! ### Finished tables -/

mutual

/-- The value of a finished node. -/
def Node.finish : Node → Value
  | .value finished => finished
  | .table _ entries => .table (finishEntries entries)
  | .tables items => .list (finishItems items).reverse

/-- The entries of a finished table. -/
def finishEntries : List (String × Node) → List (String × Value)
  | [] => []
  | (key, node) :: entries => (key, node.finish) :: finishEntries entries

/-- The tables of a finished list. -/
def finishItems : List (List (String × Node)) → List Value
  | [] => []
  | entries :: items => .table (finishEntries entries) :: finishItems items

end

/-- A finished table. -/
def Entries.finish (entries : Entries) : Value := .table (finishEntries entries)

end RouterCall.Toml
