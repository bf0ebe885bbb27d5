import FrameSource.Toml.Numbers
import FrameSource.Toml.Strings

/-!
# Reading TOML

The grammar of TOML documents: values, lines and sections. A text denotes entries when it follows the
grammar and sets no key twice.
-/

namespace FrameSource.Toml

open Scanner

/-- How deeply arrays and tables in braces may be nested, and how many parts a dotted key may have. -/
def depthLimit : Nat := 79

/-- A comment up to the end of its line. -/
def comment : Scanner Unit := do
  char '#'
  let _ ← span isLineChar

/-- Blanks, line breaks and comments between the items of an array. -/
def filler : Scanner Unit := do
  let _ ← many ((do let _ ← one isSpace) <|> newline <|> comment)

/-- A dotted key, with blanks around its dots. -/
def path : Scanner Path := do
  space
  let first ← key
  let rest ← many (do space; char '.'; space; key)
  space
  if depthLimit < rest.length + 1 then fail
  match (first :: rest).reverse with
  | last :: parents => return ⟨parents.reverse, last⟩
  | [] => fail

/-- Things with commas between them. -/
def separated {α : Type} (s : Scanner α) : Scanner (List α) :=
  (do
    let first ← s
    let rest ← many (do char ','; s)
    return first :: rest) <|> pure []

/-- A boolean. -/
def boolean : Scanner Node :=
  (do chars ['t', 'r', 'u', 'e']; return .boolean true) <|>
    (do chars ['f', 'a', 'l', 's', 'e']; return .boolean false)

/-- An item of an array, with what may stand around it. -/
def arrayItem (value : Scanner Node) : Scanner Node := do
  filler
  let item ← value
  filler
  return item

/-- An array of values, over any number of lines; a comma may follow the last one. -/
def array (value : Scanner Node) : Scanner Node := do
  char '['
  let items ← separated (arrayItem value)
  if !items.isEmpty then
    let _ ← Scanner.optional (char ',')
  filler
  char ']'
  return .array items

/-- A key in braces with its value. -/
def inlinePair (value : Scanner Node) : Scanner (Path × Node) := do
  let p ← path
  char '='
  space
  let v ← value
  space
  return (p, v)

/-- A table in braces, in one line. -/
def inlineTable (value : Scanner Node) : Scanner Node := do
  char '\x7b'
  let pairs ← separated (inlinePair value)
  space
  char '\x7d'
  match Entries.setAll .inline [] pairs with
  | some es => return .table .inline es
  | none => fail

/-- A value inside which containers may be nested `depth` deep. -/
def value : (depth : Nat) → Scanner Node
  | 0 => (Node.string <$> string) <|> boolean <|> number
  | depth + 1 =>
    (Node.string <$> string) <|> boolean <|> array (value depth) <|>
      inlineTable (value depth) <|> number

/-- The end of a line: blanks and a comment, then a line break or the end of the text. -/
def lineEnd : Scanner Unit := do
  space
  let _ ← Scanner.optional comment
  newline <|> finish

/-- An empty line, or one with only a comment. -/
def emptyLine : Scanner Unit := do
  space
  let _ ← Scanner.optional comment
  newline

/-- A line with a key and its value. -/
def pair : Scanner (Path × Node) := do
  let p ← path
  char '='
  space
  let v ← value depthLimit
  lineEnd
  return (p, v)

/-- The header of a section. -/
def header : Scanner Header := do
  space
  let h ←
    (do
      chars ['[', '[']
      let p ← path
      chars [']', ']']
      return Header.tables p) <|>
    (do
      char '['
      let p ← path
      char ']'
      return Header.table p)
  lineEnd
  return h

/-- Something in lines of its own, after any number of empty ones. -/
def afterEmptyLines {α : Type} (s : Scanner α) : Scanner α := do
  let _ ← many emptyLine
  s

/-- A header with the keys under it. -/
def tableSection : Scanner Section := do
  let h ← afterEmptyLines header
  let keys ← many (afterEmptyLines pair)
  return ⟨h, keys⟩

/-- What may follow the last line that has something in it. -/
def trailer : Scanner Unit := do
  let _ ← many emptyLine
  space
  let _ ← Scanner.optional comment

/-- A document, perhaps after a byte order mark. -/
def document : Scanner Document := do
  let _ ← Scanner.optional (char '\ufeff')
  let keys ← many (afterEmptyLines pair)
  let sections ← many tableSection
  trailer
  return ⟨keys, sections⟩

/-- The entries that a text denotes. -/
def parse? (text : String) : Option Entries := do
  (← document.run? text.toList).entries?

end FrameSource.Toml
