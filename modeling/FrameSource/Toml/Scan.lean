/-!
# Scanning text

A scanner takes something off the front of a text, or fails and leaves the text to others. Scanners
are put together in `do` blocks, and `<|>` tries a second one where the first has failed.
-/

namespace FrameSource.Toml

/-- Takes something off the front of a text. -/
abbrev Scanner := StateT (List Char) Option

namespace Scanner

/-- Fails. -/
def fail {α : Type} : Scanner α := fun _ => none

/-- One character of a class. -/
def one (p : Char → Bool) : Scanner Char := fun cs =>
  match cs with
  | c :: cs => if p c then some (c, cs) else none
  | [] => none

/-- A given character. -/
def char (c : Char) : Scanner Unit := do
  let _ ← one (· = c)

/-- Given characters, one after the other. -/
def chars (cs : List Char) : Scanner Unit :=
  cs.forM char

/-- All characters of a class at the front, perhaps none. -/
def span (p : Char → Bool) : Scanner (List Char) := fun cs =>
  some (cs.takeWhile p, cs.dropWhile p)

/-- All characters of a class at the front, one at least. -/
def span1 (p : Char → Bool) : Scanner (List Char) := do
  let c ← one p
  let cs ← span p
  return c :: cs

/-- Something, if it is there. -/
def optional {α : Type} (s : Scanner α) : Scanner (Option α) :=
  (some <$> s) <|> pure none

/-- Something as often as it is there, but at most `fuel` times. -/
def upTo {α : Type} (s : Scanner α) : Nat → Scanner (List α)
  | 0 => pure []
  | fuel + 1 =>
    (do
      let a ← s
      let rest ← upTo s fuel
      return a :: rest) <|> pure []

/-- Something as often as it is there. What is scanned takes at least one character each time, so it
cannot be there more often than there are characters. -/
def many {α : Type} (s : Scanner α) : Scanner (List α) := fun cs =>
  upTo s cs.length cs

/-- The end of the text. -/
def finish : Scanner Unit := fun cs =>
  if cs.isEmpty then some ((), []) else none

/-- What a scanner finds in a whole text. -/
def run? {α : Type} (s : Scanner α) (cs : List Char) : Option α :=
  (do
    let a ← s
    finish
    return a : Scanner α) cs |>.map Prod.fst

end Scanner

end FrameSource.Toml
