import FrameSource.Json.Token

/-!
# JSON trees

The structure of a JSON text, with numbers and strings as they were written. A machine reads the
tokens one by one; it remembers the containers that are still open, innermost first, and is done
when a value is complete and no container is open.
-/

namespace FrameSource.Json

/-- A JSON text as written. -/
inductive Tree where
  | null
  | bool (b : Bool)
  | number (n : Numeral)
  | string (s : List StringUnit)
  | array (items : List Tree)
  | object (members : List (List StringUnit × Tree))
deriving Repr

/-- A container that is still open, with what it holds so far, last first. -/
inductive OpenContainer where
  /-- An array that waits for its next item. -/
  | array (done : List Tree)
  /-- An object that waits for the value of a member. -/
  | object (done : List (List StringUnit × Tree)) (key : List StringUnit)

/-- What the machine waits for. The list holds the open containers, innermost first. -/
inductive ParseState where
  /-- A value. -/
  | value (stack : List OpenContainer)
  /-- The first item of an array, or its end. -/
  | firstItem (stack : List OpenContainer)
  /-- The first key of an object, or its end. -/
  | firstKey (stack : List OpenContainer)
  /-- Another key of an object. -/
  | key (done : List (List StringUnit × Tree)) (stack : List OpenContainer)
  /-- The colon after a key. -/
  | colon (done : List (List StringUnit × Tree)) (key : List StringUnit)
      (stack : List OpenContainer)
  /-- A comma or the end of the innermost container, whose newest value is complete. -/
  | complete (value : Tree) (stack : List OpenContainer)

namespace ParseState

/-- The state after the first token of a value. -/
def beginValue (stack : List OpenContainer) : Token → Option ParseState
  | .null => some (.complete .null stack)
  | .bool b => some (.complete (.bool b) stack)
  | .numeral n => some (.complete (.number n) stack)
  | .string s => some (.complete (.string s) stack)
  | .openBracket => some (.firstItem stack)
  | .openBrace => some (.firstKey stack)
  | _ => none

/-- The state after a token that follows a complete value. -/
def afterValue (t : Tree) : List OpenContainer → Token → Option ParseState
  | .array done :: stack, .comma => some (.value (.array (t :: done) :: stack))
  | .array done :: stack, .closeBracket =>
    some (.complete (.array (t :: done).reverse) stack)
  | .object done name :: stack, .comma => some (.key ((name, t) :: done) stack)
  | .object done name :: stack, .closeBrace =>
    some (.complete (.object ((name, t) :: done).reverse) stack)
  | _, _ => none

/-- The state after one more token; none if the token may not stand there. -/
def step : ParseState → Token → Option ParseState
  | .value stack, token => beginValue stack token
  | .firstItem stack, .closeBracket => some (.complete (.array []) stack)
  | .firstItem stack, token => beginValue (.array [] :: stack) token
  | .firstKey stack, .closeBrace => some (.complete (.object []) stack)
  | .firstKey stack, .string name => some (.colon [] name stack)
  | .key done stack, .string name => some (.colon done name stack)
  | .colon done name stack, .colon => some (.value (.object done name :: stack))
  | .complete t stack, token => afterValue t stack token
  | _, _ => none

/-- The state after all of the tokens. -/
def run (state : ParseState) (tokens : List Token) : Option ParseState :=
  tokens.foldlM step state

end ParseState

namespace Tree

/-- The tree that a list of tokens spells. -/
def ofTokens? (tokens : List Token) : Option Tree :=
  match ParseState.run (.value []) tokens with
  | some (.complete t []) => some t
  | _ => none

/-- The tree of a JSON text. -/
def parse? (text : String) : Option Tree := do
  ofTokens? (← tokens? text.toList)

end Tree

end FrameSource.Json
