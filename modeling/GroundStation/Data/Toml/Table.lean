import GroundStation.Data.Toml.Text
import GroundStation.Data.Value

/-!
# TOML: how tables are put together

A document, and every table in braces, is a sequence of keys with data. Keys of
several parts make tables on their way, and so do the names in headers. Which of
these a later statement may add to depends on how the table came about
(`Origin`): a table that was written out is closed; one that a header implied may
still be written out once; one that a dotted key made may only be added to by
dotted keys.
-/

namespace GroundStation.Toml

/-- How a table came about. -/
inductive Origin where
  | written
  | implied
  | dotted
deriving DecidableEq, Repr

/-- A table under construction, below a key: a datum, a table, or the tables that
repeated headers made. -/
inductive Node where
  | datum (value : Value)
  | table (origin : Origin) (entries : List (String × Node))
  | series (tables : List (List (String × Node)))

/-- The entries of a table under construction. -/
abbrev Entries := List (String × Node)

namespace Entries

/-- What is under a key. -/
def find? (es : Entries) (key : String) : Option Node := List.lookup key es

/-- Puts a node under a key, in place of what was there. -/
def put (es : Entries) (key : String) (node : Node) : Entries :=
  if es.any fun e => e.1 == key then
    es.map fun e => if e.1 == key then (key, node) else e
  else es ++ [(key, node)]

/-- Changes the table that a path leads to, and makes the tables that are missing on
the way. A dotted key does not lead into a table that was written out. -/
def alter (dotted : Bool) (change : Origin → Entries → Option Entries) :
    List String → Origin → Entries → Option Entries
  | [], origin, es => change origin es
  | key :: path, _, es =>
    match find? es key with
    | none =>
      let origin := if dotted then .dotted else .implied
      (alter dotted change path origin []).map fun inner => es.put key (.table origin inner)
    | some (.datum _) => none
    | some (.table origin inner) =>
      if dotted ∧ origin = .written then none
      else (alter dotted change path origin inner).map fun inner => es.put key (.table origin inner)
    | some (.series tables) =>
      match tables.reverse with
      | [] => none
      | last :: earlier =>
        (alter dotted change path .written last).map fun inner =>
          es.put key (.series (earlier.reverse ++ [inner]))

/-- Adds a datum under a key. A key of several parts has to lead to a table that dotted
keys made. -/
def addEntry (es : Entries) (key : KeyPath) (value : Value) : Option Entries :=
  let insert := fun (origin : Origin) (inner : Entries) =>
    if (origin = .dotted) = key.parents.isEmpty then none
    else if (inner.find? key.name).isSome then none
    else some (inner.put key.name (.datum value))
  alter true insert key.parents .written es

/-- Adds data in order. -/
def addEntries (es : Entries) : List (KeyPath × Value) → Option Entries
  | [] => some es
  | (key, value) :: rest =>
    match es.addEntry key value with
    | some es => es.addEntries rest
    | none => none

/-- Writes out the table of a header. -/
def addTable (es : Entries) (header : KeyPath) (body : List (KeyPath × Value)) : Option Entries :=
  let write := fun (_ : Origin) (inner : Entries) =>
    match inner.find? header.name with
    | none => (addEntries [] body).map fun t => inner.put header.name (.table .written t)
    | some (.table .implied t) =>
      (addEntries t body).map fun t => inner.put header.name (.table .written t)
    | some _ => none
  alter false write header.parents .written es

/-- Adds one more table to the series of a header. -/
def addToSeries (es : Entries) (header : KeyPath) (body : List (KeyPath × Value)) :
    Option Entries :=
  let write := fun (_ : Origin) (inner : Entries) =>
    (addEntries [] body).bind fun t =>
      match inner.find? header.name with
      | none => some (inner.put header.name (.series [t]))
      | some (.series tables) => some (inner.put header.name (.series (tables ++ [t])))
      | some _ => none
  alter false write header.parents .written es

end Entries

mutual

/-- The finished datum of a node. -/
def Node.toValue : Node → Value
  | .datum v => v
  | .table _ es => .table (entriesValue es)
  | .series tables => .list (seriesValue tables)

/-- The finished entries of a table. -/
def entriesValue : List (String × Node) → List (String × Value)
  | [] => []
  | (key, node) :: rest => (key, node.toValue) :: entriesValue rest

/-- The finished tables of a series. -/
def seriesValue : List (List (String × Node)) → List Value
  | [] => []
  | es :: rest => .table (entriesValue es) :: seriesValue rest

end

end GroundStation.Toml
