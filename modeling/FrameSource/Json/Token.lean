import FrameSource.Text.Decimal

/-!
# JSON tokens

The lexical grammar of JSON. Numbers and strings keep their written form: what they denote, and
whether they denote anything, is decided only when a value is needed. So a text may carry numbers
beyond every range and unpaired surrogates in places that nobody looks at.
-/

namespace FrameSource.Json

/-- A number as written: its sign, the digits before and after the point, and the digits of the
exponent with their sign. No fraction digits means no point. -/
structure Numeral where
  negative : Bool
  whole : List Char
  fraction : List Char
  exponent : Option (Bool × List Char)
deriving DecidableEq, Repr

/-- A part of a string as written: a character, or the number after `\u`. -/
inductive StringUnit where
  | char (c : Char)
  | code (n : Nat)
deriving DecidableEq, Repr

/-- A token. -/
inductive Token where
  | openBrace
  | closeBrace
  | openBracket
  | closeBracket
  | comma
  | colon
  | null
  | bool (b : Bool)
  | numeral (n : Numeral)
  | string (s : List StringUnit)
deriving DecidableEq, Repr

/-- The four blanks that may stand between tokens. -/
def isSpace (c : Char) : Bool :=
  c = ' ' || c = '\n' || c = '\t' || c = '\r'

/-- The value of a hexadecimal digit. -/
def hexValue? (c : Char) : Option Nat :=
  if c.isDigit then some (c.toNat - '0'.toNat)
  else if 'a' ≤ c ∧ c ≤ 'f' then some (c.toNat - 'a'.toNat + 10)
  else if 'A' ≤ c ∧ c ≤ 'F' then some (c.toNat - 'A'.toNat + 10)
  else none

/-- The value of four hexadecimal digits. -/
def hexCode? (a b c d : Char) : Option Nat := do
  let a ← hexValue? a
  let b ← hexValue? b
  let c ← hexValue? c
  let d ← hexValue? d
  return ((a * 16 + b) * 16 + c) * 16 + d

/-- The character after a backslash stands for this one. -/
def namedEscape? : Char → Option Char
  | '"' => some '"'
  | '\\' => some '\\'
  | '/' => some '/'
  | 'b' => some '\x08'
  | 'f' => some '\x0c'
  | 'n' => some '\n'
  | 'r' => some '\r'
  | 't' => some '\t'
  | _ => none

/-- The parts of a string up to its closing quote, and what follows the quote. -/
def lexString? : List Char → Option (List StringUnit × List Char)
  | [] => none
  | '"' :: cs => some ([], cs)
  | '\\' :: 'u' :: a :: b :: c :: d :: cs => do
    let n ← hexCode? a b c d
    let (units, rest) ← lexString? cs
    return (.code n :: units, rest)
  | '\\' :: e :: cs => do
    let c ← namedEscape? e
    let (units, rest) ← lexString? cs
    return (.char c :: units, rest)
  | c :: cs => do
    if c.toNat < 0x20 ∨ c = '\\' then none
    let (units, rest) ← lexString? cs
    return (.char c :: units, rest)

/-- The digits at the front of a text, of which there must be one, and what follows them. -/
def lexDigits? (cs : List Char) : Option (List Char × List Char) :=
  let digits := cs.takeWhile Text.isDigit
  if digits.isEmpty then none else some (digits, cs.dropWhile Text.isDigit)

/-- The digits before the point: a lone zero, or digits that do not start with zero. -/
def lexWhole? (cs : List Char) : Option (List Char × List Char) := do
  let (digits, rest) ← lexDigits? cs
  if digits.head? = some '0' ∧ 1 < digits.length then none else some (digits, rest)

/-- The digits after a point, if there is a point. -/
def lexFraction? : List Char → Option (List Char × List Char)
  | '.' :: cs => lexDigits? cs
  | cs => some ([], cs)

/-- The digits of an exponent behind its optional sign. -/
def lexSignedDigits? : List Char → Option ((Bool × List Char) × List Char)
  | '+' :: cs => (lexDigits? cs).map fun r => ((false, r.1), r.2)
  | '-' :: cs => (lexDigits? cs).map fun r => ((true, r.1), r.2)
  | cs => (lexDigits? cs).map fun r => ((false, r.1), r.2)

/-- An exponent, if there is one. -/
def lexExponent? : List Char → Option (Option (Bool × List Char) × List Char)
  | [] => some (none, [])
  | c :: cs =>
    if c = 'e' ∨ c = 'E' then (lexSignedDigits? cs).map fun r => (some r.1, r.2)
    else some (none, c :: cs)

/-- A number after its sign. -/
def lexMagnitude? (negative : Bool) (cs : List Char) : Option (Numeral × List Char) := do
  let (whole, cs) ← lexWhole? cs
  let (fraction, cs) ← lexFraction? cs
  let (exponent, cs) ← lexExponent? cs
  return (⟨negative, whole, fraction, exponent⟩, cs)

/-- A number. -/
def lexNumeral? : List Char → Option (Numeral × List Char)
  | '-' :: cs => lexMagnitude? true cs
  | cs => lexMagnitude? false cs

/-- The token at the front of a text that does not start with a blank, and what follows it. -/
def lexToken? : List Char → Option (Token × List Char)
  | '\x7b' :: cs => some (.openBrace, cs)
  | '\x7d' :: cs => some (.closeBrace, cs)
  | '[' :: cs => some (.openBracket, cs)
  | ']' :: cs => some (.closeBracket, cs)
  | ',' :: cs => some (.comma, cs)
  | ':' :: cs => some (.colon, cs)
  | '"' :: cs => (lexString? cs).map fun r => (.string r.1, r.2)
  | 'n' :: 'u' :: 'l' :: 'l' :: cs => some (.null, cs)
  | 't' :: 'r' :: 'u' :: 'e' :: cs => some (.bool true, cs)
  | 'f' :: 'a' :: 'l' :: 's' :: 'e' :: cs => some (.bool false, cs)
  | cs => (lexNumeral? cs).map fun r => (.numeral r.1, r.2)

/-- The tokens of a text, each found within `fuel` steps. -/
def lexAll? : Nat → List Char → Option (List Token)
  | _, [] => some []
  | 0, _ :: _ => none
  | fuel + 1, c :: cs =>
    if isSpace c then lexAll? fuel cs
    else do
      let (token, rest) ← lexToken? (c :: cs)
      let tokens ← lexAll? fuel rest
      return token :: tokens

/-- The tokens of a text. Every step takes a character or more, so the length of the text is enough
steps. -/
def tokens? (cs : List Char) : Option (List Token) :=
  lexAll? cs.length cs

end FrameSource.Json
