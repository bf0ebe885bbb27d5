import FrameSource.Text.Blank

/-!
# Query templates

A template is text with invocations in it. An invocation is the marker `$__`, a name, and, if an
opening parenthesis follows at once, arguments up to the first closing one. The name is the longest
identifier after the marker and must be known; everything else is literal text. `Template.pieces`
cuts a template into literal text and invocations, in order and without a gap.
-/

namespace FrameSource.Template

/-- The text that introduces an invocation. -/
def marker : List Char := ['$', '_', '_']

/-- A character that a name may start with. -/
def isNameStart (c : Char) : Bool := c.isAlpha || c = '_'

/-- A character that a name may go on with. -/
def isNameChar (c : Char) : Bool := c.isAlphanum || c = '_'

/-- The longest name at the front of a text; empty if there is none. -/
def leadingName : List Char → List Char
  | [] => []
  | c :: cs => if isNameStart c then c :: cs.takeWhile isNameChar else []

/-! ## Arguments -/

/-- The parts of a text between commas. -/
def splitCommas : List Char → List (List Char)
  | [] => [[]]
  | c :: cs =>
    if c = ',' then [] :: splitCommas cs
    else
      match splitCommas cs with
      | [] => [[c]]
      | part :: parts => (c :: part) :: parts

/-- The arguments in the text between parentheses: none if it is blank, else the trimmed parts
between commas. -/
def arguments (inner : List Char) : List String :=
  if Text.allBlank inner then []
  else (splitCommas inner).map fun part => String.ofList (Text.trim part)

/-- The arguments in front of the first closing parenthesis, and what follows it. -/
def closeArguments? (cs : List Char) : Option (List String × List Char) :=
  match cs.dropWhile (· ≠ ')') with
  | [] => none
  | _ :: rest => some (arguments (cs.takeWhile (· ≠ ')')), rest)

/-- An argument list with its parentheses, at the front of a text, and what follows it. -/
def argumentList? : List Char → Option (List String × List Char)
  | '(' :: cs => closeArguments? cs
  | _ => none

/-! ## Pieces -/

/-- A stretch of a template. -/
inductive Piece where
  /-- Text that stands for itself. -/
  | literal (text : List Char)
  /-- An invocation of a known name. -/
  | invocation (name : String) (args : List String)
  /-- An invocation of a known name whose argument list has no end. -/
  | unterminated (name : String)
deriving DecidableEq, Repr

theorem length_dropWhile_le {α : Type} (p : α → Bool) (cs : List α) :
    (cs.dropWhile p).length ≤ cs.length :=
  (List.dropWhile_sublist p).length_le

/-- What follows an argument list is shorter than the list, so the scanner goes forward. -/
theorem length_of_closeArguments? {cs rest : List Char} {args : List String}
    (h : closeArguments? cs = some (args, rest)) : rest.length < cs.length := by
  unfold closeArguments? at h
  have hd := length_dropWhile_le (· ≠ ')') cs
  split at h
  · cases h
  · rename_i hc
    cases h
    rw [hc] at hd
    exact hd

/-- The piece that begins right after a marker, and what follows the piece. -/
def afterMarker (known : String → Bool) (cs : List Char) :
    Piece × { rest : List Char // rest.length ≤ cs.length } :=
  let name := leadingName cs
  let rest : { rest : List Char // rest.length ≤ cs.length } :=
    ⟨cs.drop name.length, by simp⟩
  if name = [] then (.literal marker, ⟨cs, Nat.le_refl _⟩)
  else if known (String.ofList name) then
    match h : rest.val with
    | '(' :: inner =>
      match hc : closeArguments? inner with
      | some (args, after) =>
        (.invocation (String.ofList name) args, ⟨after, by
          have h₁ := length_of_closeArguments? hc
          have h₂ := rest.property
          rw [h] at h₂
          simp only [List.length_cons] at h₂
          omega⟩)
      | none => (.unterminated (String.ofList name), ⟨[], Nat.zero_le _⟩)
    | _ => (.invocation (String.ofList name) [], rest)
  else (.literal (marker ++ name), rest)

/-- The pieces of a template, in order. A template ends with an invocation that has no end. -/
def pieces (known : String → Bool) : List Char → List Piece
  | '$' :: '_' :: '_' :: cs =>
    let next := afterMarker known cs
    next.1 :: pieces known next.2.val
  | c :: cs => .literal [c] :: pieces known cs
  | [] => []
termination_by cs => cs.length
decreasing_by
  · have := (afterMarker known cs).2.property
    simp only [List.length_cons]
    omega
  · simp

end FrameSource.Template
