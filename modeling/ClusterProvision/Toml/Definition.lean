import ClusterProvision.Toml.Value

/-!
# `ClusterProvision.Toml.Definition`: what may be defined where

A document defines its tables piece by piece: by headers `[a.b]`, by headers of table
lists `[[a.b]]`, and by dotted keys `a.b = 1`. No table may be defined twice, no key
may be given twice, and a value that is written out in one place cannot be extended in
another. How a table came to be decides what may still be added to it; `Origin` keeps
that.
-/

set_option autoImplicit false

namespace ClusterProvision.Toml

/-- How a table came to be. -/
inductive Origin where
  /-- By a header of its own, or as the document itself. -/
  | header
  /-- As a part of the name in a longer header. -/
  | implied
  /-- As a part of a dotted key. -/
  | dotted
  deriving DecidableEq, Repr, Inhabited

/-- A definition that may still grow: a finished value, a table, or a list of tables of
which only the last one can grow. -/
inductive Item where
  | value (v : Value)
  | table (origin : Origin) (entries : List (String × Item))
  | tables (earlier : List (List (String × Item))) (last : List (String × Item))
  deriving Repr, Inhabited

mutual

/-- The value that a definition stands for. -/
def Item.toValue : Item → Value
  | .value v => v
  | .table _ entries => .table (entriesToValues entries)
  | .tables earlier last => .array (tablesToValues earlier ++ [.table (entriesToValues last)])

/-- The values that the definitions in a table stand for. -/
def entriesToValues : List (String × Item) → List (String × Value)
  | [] => []
  | (key, item) :: rest => (key, item.toValue) :: entriesToValues rest

/-- The values that tables in a list stand for. -/
def tablesToValues : List (List (String × Item)) → List Value
  | [] => []
  | entries :: rest => .table (entriesToValues entries) :: tablesToValues rest

end

namespace Definition

/-- The definitions in a table, and how the table came to be. -/
abbrev Table := Origin × List (String × Item)

/-- Gives a key that is present another item. -/
def replace (key : String) (item : Item) (entries : List (String × Item)) : List (String × Item) :=
  entries.map fun entry => if entry.1 = key then (key, item) else entry

/-- Changes the table at the end of a path, creating the tables on the way that are not
there. A path leads through the last table of a list and through no value. A path of a
dotted key leads through no table with a header of its own, the last one of a list apart. -/
def alter (dotted : Bool) : List String → (Table → Option Table) → Table → Option Table
  | [], change, table => change table
  | key :: path, change, (origin, entries) =>
    match entries.lookup key with
    | none => do
      let (o, es) ← alter dotted path change (if dotted then .dotted else .implied, [])
      return (origin, entries ++ [(key, .table o es)])
    | some (.table o es) =>
      if dotted && o = .header then none
      else do
        let (o, es) ← alter dotted path change (o, es)
        return (origin, replace key (.table o es) entries)
    | some (.tables earlier last) => do
      let (_, es) ← alter dotted path change (.header, last)
      return (origin, replace key (.tables earlier es) entries)
    | some (.value _) => none

/-- Gives a new key of a table its value. The last table of a dotted key must have come to
be by dotted keys; a plain key goes into a table that did not. -/
def assign (path : List String) (key : String) (v : Value) (table : Table) : Option Table :=
  alter true path (fun (origin, entries) =>
    if (origin = .dotted) = (path ≠ []) && (entries.lookup key).isNone then
      some (origin, entries ++ [(key, .value v)])
    else none) table

/-- Defines a table by its header. It must be new, or known only as a part of longer headers. -/
def openTable (path : List String) (key : String) (table : Table) : Option Table :=
  alter false path (fun (origin, entries) =>
    match entries.lookup key with
    | none => some (origin, entries ++ [(key, .table .header [])])
    | some (.table .implied es) => some (origin, replace key (.table .header es) entries)
    | some _ => none) table

/-- Adds a table to a list by its header. The list must be new, or made by such headers. -/
def openElement (path : List String) (key : String) (table : Table) : Option Table :=
  alter false path (fun (origin, entries) =>
    match entries.lookup key with
    | none => some (origin, entries ++ [(key, .tables [] [])])
    | some (.tables earlier last) =>
      some (origin, replace key (.tables (earlier ++ [last]) []) entries)
    | some _ => none) table

/-- A table without entries. -/
def empty : Table := (.header, [])

end Definition
end ClusterProvision.Toml
