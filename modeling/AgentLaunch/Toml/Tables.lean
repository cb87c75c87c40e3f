import AgentLaunch.Toml.Key

/-!
# Tables under construction

A document defines its tables piece by piece. What was said so far about a table decides what may
still be added: nothing is defined twice, and what was written as a value is closed.
-/

namespace AgentLaunch.Toml

inductive Origin where
  /-- By a header of its own, or as the root. -/
  | header
  /-- By being on the way to another header's table. -/
  | passedBy
  /-- By being on the way to a dotted key. -/
  | dotted
  deriving DecidableEq, Repr

/-- A part of a document under construction. -/
inductive Node where
  | value (v : Value)
  | table (origin : Origin) (entries : List (String × Node))
  | tables (elements : List (List (String × Node)))

/-- The entries of a table, in the order in which their keys were defined or passed by. -/
abbrev Entries := List (String × Node)

namespace Entries

/-- Gives a key a new node, which depends on the node it has, if any. -/
def alter (key : String) (f : Option Node → Option Node) : Entries → Option Entries
  | [] => (f none).map fun node => [(key, node)]
  | (k, node) :: rest =>
    if k = key then (f (some node)).map fun node => (k, node) :: rest
    else (alter key f rest).map fun rest => (k, node) :: rest

/-- Changes the entries of the table that a path leads to. Tables that are missing on the way come
to be with the given origin. A dotted key does not enter a table that has a header. -/
def modifyAt (way : Origin) (f : Origin → Entries → Option Entries) :
    List String → Origin → Entries → Option Entries
  | [], origin, entries => f origin entries
  | key :: path, _, entries => entries.alter key fun
    | none => (modifyAt way f path way []).map (.table way)
    | some (.value _) => none
    | some (.table origin inner) =>
      if way = .dotted ∧ origin = .header then none
      else (modifyAt way f path origin inner).map (.table origin)
    | some (.tables elements) =>
      match elements.getLast? with
      | none => none
      | some inner =>
        (modifyAt way f path .header inner).map fun inner =>
          .tables (elements.dropLast ++ [inner])

/-- Adds a key and its value. A dotted key adds only to tables that dotted keys made. -/
def assign (entries : Entries) (key : Key) (v : Value) : Option Entries :=
  entries.modifyAt .dotted (fun origin inner =>
    if key.path ≠ [] ∧ origin ≠ .dotted then none
    else inner.alter key.last fun
      | none => some (.value v)
      | some _ => none) key.path .header

def assignAll (entries : Entries) (pairs : List (Key × Value)) : Option Entries :=
  pairs.foldlM (fun entries (key, v) => entries.assign key v) entries

/-- Defines the table of a header. Only a table that was passed by can be there already; what was
said about it stays, and it moves behind its neighbours. -/
def defineTable (entries : Entries) (header : Key) (pairs : List (Key × Value)) :
    Option Entries :=
  entries.modifyAt .passedBy (fun _ inner => do
    let known ← match inner.lookup header.last with
      | none => some []
      | some (.table .passedBy known) => some known
      | some _ => none
    let others := inner.filter fun (key, _) => key ≠ header.last
    return others ++ [(header.last, .table .header (← assignAll known pairs))])
    header.path .header

/-- Adds a table to those of a doubled header. -/
def appendTable (entries : Entries) (header : Key) (pairs : List (Key × Value)) :
    Option Entries :=
  entries.modifyAt .passedBy (fun _ inner => inner.alter header.last fun
    | none => (assignAll [] pairs).map fun fresh => .tables [fresh]
    | some (.tables elements) => (assignAll [] pairs).map fun fresh =>
      .tables (elements ++ [fresh])
    | some _ => none) header.path .header

end Entries

mutual

def Node.toValue : Node → Value
  | .value v => v
  | .table _ entries => .table (entriesToValues entries)
  | .tables elements => .array (tablesToValues elements)

def entriesToValues : List (String × Node) → List (String × Value)
  | [] => []
  | (key, node) :: rest => (key, node.toValue) :: entriesToValues rest

def tablesToValues : List (List (String × Node)) → List Value
  | [] => []
  | entries :: rest => .table (entriesToValues entries) :: tablesToValues rest

end

end AgentLaunch.Toml
