import FrameSource.Text.Printable

/-!
# Quoted text

The form in which diagnostics show a text: between double quotes, with `\`, `"` and the named
control characters after a backslash and every other unprintable character as its code point.
-/

namespace FrameSource.Text

/-- The escapes that are a backslash and one character. -/
def namedEscape : Char → Option Char
  | '\x00' => some '0'
  | '\t' => some 't'
  | '\r' => some 'r'
  | '\n' => some 'n'
  | '\\' => some '\\'
  | '"' => some '"'
  | _ => none

/-- One character of quoted text. -/
def quoteChar (c : Char) : List Char :=
  match namedEscape c with
  | some e => ['\\', e]
  | none =>
    if isPrintable c then [c]
    else ['\\', 'u', '\x7b'] ++ Nat.toDigits 16 c.toNat ++ ['\x7d']

/-- A text in quotes. -/
def quoted (s : String) : String :=
  String.ofList (['"'] ++ s.toList.flatMap quoteChar ++ ['"'])

end FrameSource.Text
