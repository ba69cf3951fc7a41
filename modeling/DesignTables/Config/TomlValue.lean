import DesignTables.Number.Integer

/-!
The values of a TOML document, and the building of a document out of its lines.

While a document is read, every table remembers how it came to be: a table that a header opened
cannot be opened again, while one that only lies on the way to another can still be; dotted keys
add only to tables that dotted keys made.
-/
namespace DesignTables.Toml

/-- A value. Numbers with a fraction and dates are kept as they are written. -/
inductive Value where
  | string (text : String)
  | integer (value : Int)
  | float (text : String)
  | boolean (value : Bool)
  | dateTime (text : String)
  | array (items : List Value)
  | table (entries : List (String × Value))
deriving Repr

/-- How a table came to be. -/
inductive Origin where
  /-- On the way to a table that a header opened. -/
  | passed
  /-- Opened by a header. -/
  | opened
  /-- On the way of a dotted key. -/
  | dotted
deriving DecidableEq, Repr

/-- What stands under a key of a document that is being read. -/
inductive Node where
  | value (value : Value)
  | table (origin : Origin) (entries : List (String × Node))
  /-- The tables of a repeated header, the last one first. -/
  | tables (last : List (String × Node)) (before : List (List (String × Node)))
deriving Repr

/-- Keys with what stands under them. -/
abbrev Entries := List (String × Node)

namespace Entries

/-- Entries with another node under a key. -/
def put (entries : Entries) (key : String) (node : Node) : Entries :=
  if (entries.lookup key).isSome then
    entries.map fun (k, old) => if k = key then (k, node) else (k, old)
  else entries ++ [(key, node)]

/-- Entries with a value at a dotted key, which must be new. The tables on its way are made by
dotted keys alone, never by headers. -/
def insert? : Entries → List String → Value → Option Entries
  | _, [], _ => none
  | entries, [key], value =>
    if (entries.lookup key).isSome then none else some (entries.put key (.value value))
  | entries, key :: path, value =>
    match entries.lookup key with
    | none => (insert? [] path value).map fun below => entries.put key (.table .dotted below)
    | some (.table .dotted old) =>
      (insert? old path value).map fun below => entries.put key (.table .dotted below)
    | some _ => none

/-- Entries changed at the table that a path of headers leads to; tables on the way are made. -/
def change? (entries : Entries) (path : List String) (change : Entries → Option Entries) :
    Option Entries :=
  match path with
  | [] => change entries
  | key :: path =>
    match entries.lookup key with
    | none => (change? [] path change).map fun below => entries.put key (.table .passed below)
    | some (.table origin old) =>
      (change? old path change).map fun below => entries.put key (.table origin below)
    | some (.tables last before) =>
      (change? last path change).map fun below => entries.put key (.tables below before)
    | some (.value _) => none

/-- Opens a table, which no header may have opened before. -/
def openTable? (entries : Entries) (path : List String) : Option Entries :=
  match path.getLast? with
  | none => none
  | some key => entries.change? path.dropLast fun entries =>
    match entries.lookup key with
    | none => some (entries.put key (.table .opened []))
    | some (.table .passed old) => some (entries.put key (.table .opened old))
    | some _ => none

/-- Opens one more table of a repeated header. -/
def openRepeated? (entries : Entries) (path : List String) : Option Entries :=
  match path.getLast? with
  | none => none
  | some key => entries.change? path.dropLast fun entries =>
    match entries.lookup key with
    | none => some (entries.put key (.tables [] []))
    | some (.tables last before) => some (entries.put key (.tables [] (last :: before)))
    | some _ => none

end Entries

mutual

/-- The value of a node. -/
def Node.toValue : Node → Value
  | .value given => given
  | .table _ entries => .table (entryValues entries)
  | .tables last before => .array (tableValues before ++ [.table (entryValues last)])

/-- The values of entries. -/
def entryValues : List (String × Node) → List (String × Value)
  | [] => []
  | (key, node) :: rest => (key, node.toValue) :: entryValues rest

/-- The values of repeated tables, given with the last one first. -/
def tableValues : List (List (String × Node)) → List Value
  | [] => []
  | entries :: rest => tableValues rest ++ [.table (entryValues entries)]

end

end DesignTables.Toml
