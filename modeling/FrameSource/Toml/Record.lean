import FrameSource.Record
import FrameSource.Toml.Node

/-!
# Records in TOML

A record is read from a table by the names of its fields, or from an array by their positions; a date
counts as a record in which no field is given. Unknown keys and surplus items are ignored.
-/

namespace FrameSource.Toml

/-- The field under one of the names. -/
def field? (es : Entries) (names : List String) : Option Node :=
  names.findSome? fun name => es.lookup name

/-- So many items, of which the last ones may be absent. -/
def padded (count : Nat) (items : List Node) : List (Option Node) :=
  ((items.map some) ++ List.replicate (count - items.length) none).take count

/-- The fields of a record. -/
def Node.fields? (fields : List (List String)) : Node → Option (List (Option Node))
  | .table _ es => some (fields.map (field? es))
  | .array items => some (padded fields.length items)
  | .tables items => some (padded fields.length (items.map (Node.table .header)))
  | .datetime => some (fields.map fun _ => none)
  | _ => none

/-- A string. -/
def Node.string? : Node → Option String
  | .string s => some s
  | _ => none

/-- An integer. -/
def Node.integer? : Node → Option Int
  | .integer n => some n
  | _ => none

/-- A value that says nothing: a container without contents. -/
def Node.isUnit : Node → Bool
  | .table _ es => es.isEmpty
  | .array items => items.isEmpty
  | .tables items => items.isEmpty
  | _ => false

/-- One of several words: a string, or the only key of a table, under which nothing stands. -/
def Node.word? : Node → Option String
  | .string s => some s
  | .table _ [(key, node)] => if node.isUnit then some key else none
  | _ => none

/-- Records in TOML, which has no value for absence. -/
def source : RecordSource Node :=
  ⟨Node.fields?, Node.string?, Node.integer?, Node.word?, fun _ => false⟩

end FrameSource.Toml
