import FrameSource.Number.Floating

/-!
# TOML documents

The tree that a TOML document denotes, and how it grows. A document is a list of sections: keys with
their values under a header. Tables come into being in several ways, which decide who may still add
to them: a header may add to what earlier headers or dotted keys implied, a dotted key only to tables
that were merely implied, and nobody to a table in braces. No key is ever set twice.
-/

namespace FrameSource.Toml

/-- How a table came into being. -/
inductive TableKind where
  /-- By a header of its own. -/
  | header
  /-- As a parent in the header of another table. -/
  | implied
  /-- As a parent in a dotted key. -/
  | dotted
  /-- In braces. -/
  | inline
deriving DecidableEq, Repr

/-- A value in a document. -/
inductive Node where
  | string (s : String)
  | integer (n : Int)
  | float (x : Double)
  | boolean (b : Bool)
  | datetime
  | array (items : List Node)
  | table (kind : TableKind) (entries : List (String × Node))
  /-- The tables of an array that is built by headers in double brackets. -/
  | tables (items : List (List (String × Node)))
deriving Repr

/-- What a table holds, in the order of writing. -/
abbrev Entries := List (String × Node)

/-- A dotted key: the keys of the tables on the way, and the last one. -/
structure Path where
  parents : List String
  last : String
deriving DecidableEq, Repr

/-- The header of a section. -/
inductive Header where
  | table (path : Path)
  | tables (path : Path)
deriving DecidableEq, Repr

/-- A header and the keys under it. -/
structure Section where
  header : Header
  keys : List (Path × Node)

/-- A document: the keys before the first header, and the sections. -/
structure Document where
  keys : List (Path × Node)
  sections : List Section

namespace Entries

/-- Entries with the value under a key exchanged. -/
def replace (key : String) (node : Node) (es : Entries) : Entries :=
  es.map fun e => if e.1 = key then (key, node) else e

/-- Entries with one more; none if the key is set. -/
def insertNew (key : String) (node : Node) (es : Entries) : Option Entries :=
  match es.lookup key with
  | some _ => none
  | none => some (es ++ [(key, node)])

/-- Whether a path may lead through a table: a header's path through all but those in braces, a dotted
key's only through tables that were implied. -/
def mayPass (byHeader : Bool) : TableKind → Bool
  | .header => byHeader
  | .implied => true
  | .dotted => true
  | .inline => false

/-- Entries changed at the end of a path by `change`, which also gets the kind of the table that the
path leads to. Tables on the way are created where they are missing. -/
def changeAt (byHeader : Bool) (change : TableKind → Entries → Option Entries) :
    List String → TableKind → Entries → Option Entries
  | [], kind, es => change kind es
  | key :: keys, _, es =>
    match es.lookup key with
    | none => do
      let kind : TableKind := if byHeader then .implied else .dotted
      let inner ← changeAt byHeader change keys kind []
      return es ++ [(key, .table kind inner)]
    | some (.table kind inner) =>
      if mayPass byHeader kind then do
        let inner ← changeAt byHeader change keys kind inner
        return replace key (.table kind inner) es
      else none
    | some (.tables items) =>
      match items.getLast? with
      | none => none
      | some inner => do
        let inner ← changeAt byHeader change keys .header inner
        return replace key (.tables (items.dropLast ++ [inner])) es
    | some _ => none

/-- Entries with the value of a dotted key added. A dotted key may not add to a table that was not
itself made by one. -/
def setPath (kind : TableKind) (es : Entries) (path : Path) (node : Node) : Option Entries :=
  changeAt false
    (fun reached es =>
      if path.parents.isEmpty || reached = .dotted then insertNew path.last node es else none)
    path.parents kind es

/-- Entries with the values of several dotted keys added, one after the other. -/
def setAll (kind : TableKind) (es : Entries) : List (Path × Node) → Option Entries
  | [] => some es
  | (path, node) :: rest => do setAll kind (← setPath kind es path node) rest

/-- Entries with a section added. The header of a table may come after tables inside it. -/
def addSection (root : Entries) (s : Section) : Option Entries :=
  match s.header with
  | .table path =>
    changeAt true
      (fun _ es =>
        match es.lookup path.last with
        | none => do
          return es ++ [(path.last, .table .header (← setAll .header [] s.keys))]
        | some (.table .implied inner) => do
          return es.filter (·.1 ≠ path.last) ++
            [(path.last, .table .header (← setAll .header inner s.keys))]
        | some _ => none)
      path.parents .header root
  | .tables path =>
    changeAt true
      (fun _ es =>
        match es.lookup path.last with
        | none => do
          return es ++ [(path.last, .tables [← setAll .header [] s.keys])]
        | some (.tables items) => do
          return replace path.last (.tables (items ++ [← setAll .header [] s.keys])) es
        | some _ => none)
      path.parents .header root

end Entries

/-- The entries that a document denotes; none if a key or a table is set twice. -/
def Document.entries? (d : Document) : Option Entries := do
  let root ← Entries.setAll .header [] d.keys
  d.sections.foldlM Entries.addSection root

end FrameSource.Toml
