import FrameSource.Json.Token
import FrameSource.Toml.Scan

/-!
# TOML strings and keys

Strings in double quotes have escapes, strings in single quotes have none; tripled quotes let a string
run over lines, where a line break is always a single line feed and a backslash at the end of a line
swallows the blanks and line breaks that follow it.
-/

namespace FrameSource.Toml

open Scanner

/-- Characters that may stand in a line: the tab and everything but control characters. -/
def isLineChar (c : Char) : Bool :=
  c = '\t' || (0x20 ≤ c.toNat && c.toNat ≠ 0x7f)

/-- Blanks inside a line. -/
def isSpace (c : Char) : Bool :=
  c = ' ' || c = '\t'

/-- Blanks inside a line, perhaps none. -/
def space : Scanner Unit := do
  let _ ← span isSpace

/-- A line break. -/
def newline : Scanner Unit :=
  char '\n' <|> chars ['\r', '\n']

/-- Hexadecimal digits, as the number that they denote. -/
def hexNumber (count : Nat) : Scanner Nat := do
  let mut n := 0
  for _ in List.range count do
    let c ← one (fun c => (Json.hexValue? c).isSome)
    n := 16 * n + (Json.hexValue? c).getD 0
  return n

/-- The character of a code point; surrogates are none. -/
def scalar (n : Nat) : Scanner Char :=
  if n.isValidChar then pure (Char.ofNat n) else fail

/-- The character that an escape stands for. -/
def escape : Scanner Char := do
  char '\\'
  match ← one (fun _ => true) with
  | 'b' => return '\x08'
  | 't' => return '\t'
  | 'n' => return '\n'
  | 'f' => return '\x0c'
  | 'r' => return '\r'
  | '"' => return '"'
  | '\\' => return '\\'
  | 'u' => scalar (← hexNumber 4)
  | 'U' => scalar (← hexNumber 8)
  | _ => fail

/-- A string in double quotes. -/
def basicString : Scanner (List Char) := do
  char '"'
  let cs ← many (one (fun c => isLineChar c && c ≠ '"' && c ≠ '\\') <|> escape)
  char '"'
  return cs

/-- A string in single quotes. -/
def literalString : Scanner (List Char) := do
  char '\''
  let cs ← span (fun c => isLineChar c && c ≠ '\'')
  char '\''
  return cs

/-- One or two quotes that do not end a string over lines, because no third one follows. -/
def innerQuotes (quote : Char) : Scanner (List Char) := fun cs =>
  let n := (cs.takeWhile (· = quote)).length
  if 0 < n ∧ n < 3 then some (List.replicate n quote, cs.drop n) else none

/-- The three quotes that end a string over lines, with up to two more before them that belong to
it. -/
def closingQuotes (quote : Char) : Scanner (List Char) := fun cs =>
  let n := (cs.takeWhile (· = quote)).length
  if n < 3 then none
  else
    let inside := min (n - 3) 2
    some (List.replicate inside quote, cs.drop (inside + 3))

/-- A line break inside a string over lines. -/
def innerNewline : Scanner (List Char) := do
  newline
  return ['\n']

/-- A backslash at the end of a line, with all blanks and line breaks after it. -/
def lineContinuation : Scanner (List Char) := do
  char '\\'
  space
  newline
  let _ ← many ((do let _ ← one isSpace) <|> newline)
  return []

/-- A string over lines: the opening quotes, a line break that does not count, and parts up to the
closing quotes. -/
def multilineString (quote : Char) (part : Scanner (List Char)) : Scanner (List Char) := do
  chars [quote, quote, quote]
  let _ ← Scanner.optional newline
  let parts ← many (part <|> innerNewline <|> innerQuotes quote)
  let last ← closingQuotes quote
  return parts.flatten ++ last

/-- A string over lines in double quotes. -/
def multilineBasicString : Scanner (List Char) :=
  multilineString '"'
    (span1 (fun c => isLineChar c && c ≠ '"' && c ≠ '\\') <|> lineContinuation <|>
      (List.singleton <$> escape))

/-- A string over lines in single quotes. -/
def multilineLiteralString : Scanner (List Char) :=
  multilineString '\'' (span1 (fun c => isLineChar c && c ≠ '\''))

/-- Whether a text begins with three of a quote. -/
def beginsTripled (quote : Char) (cs : List Char) : Bool :=
  cs.take 3 = [quote, quote, quote]

/-- A string of any kind. Three quotes always begin a string over lines. -/
def string : Scanner String := do
  let cs ← get
  String.ofList <$>
    (if beginsTripled '"' cs then multilineBasicString
     else if beginsTripled '\'' cs then multilineLiteralString
     else basicString <|> literalString)

/-- A key: bare, or a string in a single line. -/
def key : Scanner String :=
  String.ofList <$>
    (span1 (fun c => c.isAlphanum || c = '_' || c = '-') <|> basicString <|> literalString)

end FrameSource.Toml
