import FrameSource.Text.Lines

/-!
# Usage

The description of a command's options and arguments, and the help text that is written from it. The
same description is what the words of a command line are read by.
-/

namespace FrameSource.Cli

/-- Which texts may be given as a value. -/
inductive ValueRule where
  | any
  /-- A file path, which is never empty. -/
  | path
  /-- One of some words. -/
  | oneOf (words : List String)
deriving DecidableEq, Repr

/-- Whether a text may be given. -/
def ValueRule.admits : ValueRule → String → Bool
  | .any, _ => true
  | .path, s => !s.isEmpty
  | .oneOf words, s => words.contains s

/-- What an option does. -/
inductive Effect where
  /-- It takes a value, which the help calls by a label. -/
  | value (label : String) (rule : ValueRule)
  /-- It is on or off. -/
  | switch
  /-- It asks for the help text. -/
  | help
  /-- It asks for the version. -/
  | version
deriving DecidableEq, Repr

/-- An option: `--name`, and perhaps `-short`. -/
structure Flag where
  name : String
  short : Option Char := none
  effect : Effect
  required : Bool := false
  default : Option String := none
  about : String
deriving DecidableEq, Repr

/-- An argument that stands without an option. -/
structure Argument where
  name : String
  label : String
  rule : ValueRule
  repeated : Bool := false
  about : String
deriving DecidableEq, Repr

/-- What may follow a name on the command line. -/
structure Usage where
  name : String
  about : String
  flags : List Flag := []
  argument : Option Argument := none
  commands : List (String × String) := []
deriving DecidableEq, Repr

/-! ## Help texts -/

/-- A text in angle brackets. -/
def bracketed (label : String) : String := "<" ++ label ++ ">"

namespace Flag

/-- The option with its value: `--name <LABEL>`. -/
def form (f : Flag) : String :=
  "--" ++ f.name ++
    (match f.effect with
     | .value label _ => " " ++ bracketed label
     | _ => "")

/-- The option as it stands in a list of options. -/
def entry (f : Flag) : String :=
  (match f.short with
   | some c => "-" ++ c.toString ++ ", "
   | none => "    ") ++ f.form

/-- What the option is for, with its default and the words it takes. -/
def remark (f : Flag) : String :=
  f.about ++
    (match f.default with
     | some v => " [default: " ++ v ++ "]"
     | none => "") ++
    (match f.effect with
     | .value _ (.oneOf words) => " [possible values: " ++ ", ".intercalate words ++ "]"
     | _ => "")

end Flag

/-- The argument as it stands in a usage line. -/
def Argument.form (a : Argument) : String :=
  if a.repeated then "[" ++ a.label ++ "]..." else bracketed a.label

namespace Usage

/-- The usage line: required options and the argument are written out. -/
def summary (u : Usage) : String :=
  let optional (f : Flag) : Bool :=
    match f.effect with
    | .value .. | .switch => !f.required
    | _ => false
  " ".intercalate <|
    ["Usage:", u.name] ++
    (if u.flags.any optional then ["[OPTIONS]"] else []) ++
    (u.flags.filter (·.required)).map Flag.form ++
    (u.argument.map Argument.form).toList ++
    (if u.commands.isEmpty then [] else [bracketed "COMMAND"])

/-- A titled list of names with remarks in a second column. -/
def listing (title : String) (entries : List (String × String)) : List String :=
  if entries.isEmpty then []
  else
    let width := entries.foldl (fun n e => max n e.1.length) 0
    ["", title ++ ":"] ++ entries.map fun (left, right) =>
      "  " ++ left ++ String.ofList (List.replicate (width - left.length) ' ') ++ "  " ++ right

/-- The help text. -/
def help (u : Usage) : String :=
  Text.unlines <|
    [u.about, "", u.summary] ++
    listing "Commands" u.commands ++
    listing "Arguments" (u.argument.map fun a => (a.form, a.about)).toList ++
    listing "Options" (u.flags.map fun f => (f.entry, f.remark))

end Usage

end FrameSource.Cli
