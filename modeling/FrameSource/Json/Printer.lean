import FrameSource.Json.Value

/-!
# Writing JSON

Values in compact form, without blanks, and in indented form, one item or member to a line. Both
write the same numbers and strings: doubles and singles with the fewest digits that identify them,
numbers that are not finite as `null`, and in strings only quotes, backslashes and control characters
escaped.
-/

namespace FrameSource.Json

/-- A lower-case hexadecimal digit. -/
def hexDigit (n : Nat) : Char :=
  Nat.digitChar (n % 16)

/-- A character inside a string. -/
def escapeChar (c : Char) : List Char :=
  match c with
  | '"' => ['\\', '"']
  | '\\' => ['\\', '\\']
  | '\x08' => ['\\', 'b']
  | '\x0c' => ['\\', 'f']
  | '\n' => ['\\', 'n']
  | '\r' => ['\\', 'r']
  | '\t' => ['\\', 't']
  | c =>
    if c.toNat < 0x20 then ['\\', 'u', '0', '0', hexDigit (c.toNat / 16), hexDigit c.toNat]
    else [c]

/-- A string in quotes. -/
def writeString (s : String) : List Char :=
  ['"'] ++ s.toList.flatMap escapeChar ++ ['"']

/-- A floating-point number in the given spelling. -/
def writeFloating {format : BinaryFormat} (style : Spelling) (x : Floating format) : List Char :=
  match x with
  | .finite _ _ _ => (x.spell style).toList
  | _ => "null".toList

/-- A number. -/
def Number.write : Number → List Char
  | .int n => Text.decimalInt n
  | .double x => writeFloating .jsonDouble x
  | .single x => writeFloating .jsonSingle x

/-- Texts with a separator between them. -/
def joinWith (separator : List Char) : List (List Char) → List Char
  | [] => []
  | [t] => t
  | t :: ts => t ++ separator ++ joinWith separator ts

mutual

/-- A value in compact form. -/
def Value.compactChars : Value → List Char
  | .null => "null".toList
  | .bool b => (if b then "true" else "false").toList
  | .number n => n.write
  | .string s => writeString s
  | .array items => ['['] ++ joinWith [','] (compactItems items) ++ [']']
  | .object members => ['\x7b'] ++ joinWith [','] (compactMembers members) ++ ['\x7d']

/-- The items of an array in compact form. -/
def compactItems : List Value → List (List Char)
  | [] => []
  | v :: vs => v.compactChars :: compactItems vs

/-- The members of an object in compact form. -/
def compactMembers : List (String × Value) → List (List Char)
  | [] => []
  | (name, v) :: ms => (writeString name ++ [':'] ++ v.compactChars) :: compactMembers ms

end

/-- A value in compact form. -/
def Value.compact (v : Value) : String :=
  String.ofList v.compactChars

/-- A new line that is indented by `depth` steps of two blanks. -/
def newLine (depth : Nat) : List Char :=
  '\n' :: List.replicate (2 * depth) ' '

/-- The lines of a container between its brackets; an empty container has none. -/
def block (depth : Nat) (lines : List (List Char)) : List Char :=
  if lines.isEmpty then []
  else newLine (depth + 1) ++ joinWith (',' :: newLine (depth + 1)) lines ++ newLine depth

mutual

/-- A value in indented form, inside `depth` containers. -/
def Value.indentedChars (depth : Nat) : Value → List Char
  | .array items => ['['] ++ block depth (indentedItems (depth + 1) items) ++ [']']
  | .object members =>
    ['\x7b'] ++ block depth (indentedMembers (depth + 1) members) ++ ['\x7d']
  | v => v.compactChars

/-- The items of an array in indented form. -/
def indentedItems (depth : Nat) : List Value → List (List Char)
  | [] => []
  | v :: vs => v.indentedChars depth :: indentedItems depth vs

/-- The members of an object in indented form. -/
def indentedMembers (depth : Nat) : List (String × Value) → List (List Char)
  | [] => []
  | (name, v) :: ms =>
    (writeString name ++ ": ".toList ++ v.indentedChars depth) :: indentedMembers depth ms

end

/-- A value in indented form. -/
def Value.indented (v : Value) : String :=
  String.ofList (v.indentedChars 0)

end FrameSource.Json
