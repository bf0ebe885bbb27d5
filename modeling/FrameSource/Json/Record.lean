import FrameSource.Json.Value
import FrameSource.Record

/-!
# Records in JSON

A record is read from an object by the names of its fields, or from an array by their positions.
Members with other names are ignored, however they are written; a field that is given twice is
refused, and so is an array that is longer than the record.
-/

namespace FrameSource.Json

/-- How deeply containers may be nested in a text. -/
def depthLimit : Nat := 127

/-- The members of an object with their names read; none if a name denotes nothing. -/
def namedMembers? (members : List (List StringUnit × Tree)) : Option (List (String × Tree)) :=
  members.mapM fun m => (text? m.1).map fun name => (name, m.2)

/-- The member under one of the names, if it is given; none if it is given twice. -/
def field? (members : List (String × Tree)) (names : List String) : Option (Option Tree) :=
  match members.filter fun m => names.contains m.1 with
  | [] => some none
  | [m] => some (some m.2)
  | _ => none

/-- The fields of a record, each under one of several names, in the order of the names. Absent fields
are `none`. -/
def Tree.fields? (fields : List (List String)) : Tree → Option (List (Option Tree))
  | .object members => do fields.mapM (field? (← namedMembers? members))
  | .array items =>
    if items.length ≤ fields.length then
      some (items.map some ++ List.replicate (fields.length - items.length) none)
    else none
  | _ => none

/-- A string. -/
def Tree.string? : Tree → Option String
  | .string s => text? s
  | _ => none

/-- An integer. -/
def Tree.integer? : Tree → Option Int
  | .number n =>
    match n.number? with
    | some (.int k) => some k
    | _ => none
  | _ => none

/-- One of several words: a string, or the name of the only member of an object, whose value is
`null`. -/
def Tree.word? : Tree → Option String
  | .string s => text? s
  | .object [(key, .null)] => text? key
  | _ => none

/-- Whether a tree is `null`. -/
def Tree.isNull : Tree → Bool
  | .null => true
  | _ => false

/-- Records in JSON. -/
def source : RecordSource Tree :=
  ⟨Tree.fields?, Tree.string?, Tree.integer?, Tree.word?, Tree.isNull⟩

end FrameSource.Json
