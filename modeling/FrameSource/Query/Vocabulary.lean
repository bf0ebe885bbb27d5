import FrameSource.Query.Expander
import FrameSource.Query.Template
import FrameSource.Text.Quoted

/-!
# Vocabularies

The expanders that a template may invoke, by name. `Vocabulary.expand` replaces every invocation
from left to right; what an expander returns is not looked at again, and the first invocation that
fails decides the result.
-/

namespace FrameSource

/-- Expanders by name. -/
abbrev Vocabulary := Catalog Expander

namespace Vocabulary

/-- The standard expanders under their names. -/
def standard : Vocabulary := Catalog.ofList Expander.standard

/-- A vocabulary built from batches of expanders; a name that is taken is reported with the number of
the batch that brings it again. -/
def build (batches : List (List (String × Expander))) :
    Except (Nat × ExpansionError) Vocabulary :=
  match Catalog.build batches with
  | .ok v => .ok v
  | .error (step, name) => .error (step, .duplicateName name)

/-- The text that a piece of a template stands for. -/
def evaluate (v : Vocabulary) (ctx : QueryContext) :
    Template.Piece → Except ExpansionError (List Char)
  | .literal text => .ok text
  | .unterminated name => .error (.unterminatedArguments name)
  | .invocation name args =>
    match v.find? name with
    | some expander => (expander ctx args).map String.toList
    -- only known names become invocations
    | none => .ok []

/-- The texts of pieces, one after the other; the first failure ends the evaluation. -/
def evaluateAll (v : Vocabulary) (ctx : QueryContext) :
    List Template.Piece → Except ExpansionError (List Char)
  | [] => .ok []
  | p :: ps => do
    let text ← v.evaluate ctx p
    let rest ← v.evaluateAll ctx ps
    return text ++ rest

/-- A template with every invocation of a known name replaced by its expansion. -/
def expand (v : Vocabulary) (template : String) (ctx : QueryContext) :
    Except ExpansionError String :=
  (v.evaluateAll ctx (Template.pieces v.contains template.toList)).map String.ofList

/-- The diagnostic form of a vocabulary: its names in order. -/
def describe (v : Vocabulary) : String :=
  "MacroRegistry \x7b macros: [" ++ ", ".intercalate (v.names.map Text.quoted) ++ "] \x7d"

end Vocabulary

end FrameSource
