import FrameSource.Cli.Usage

/-!
# Reading the command line

The words of a command line, read from left to right by a usage description. An option may be given
once; its value follows as the next word, after an equals sign or, for a short option, directly. A
word that looks like an option is never taken as a value, and after `--` every word is an argument.
A value is checked when the next option or argument begins, so the first fault in this order decides.
-/

namespace FrameSource.Cli

/-- Why reading ended without a request. -/
inductive Stop where
  /-- The help text of a usage was asked for. -/
  | help (usage : Usage)
  | version
  /-- The words do not fit. -/
  | misuse
deriving DecidableEq, Repr

/-- A word of the command line by its form. -/
inductive Word where
  /-- The word `--`. -/
  | escape
  /-- The form `--name` or `--name=value`. -/
  | long (name : String) (value : Option String)
  /-- A hyphen and short options, the last of which may bring its value. -/
  | short (letters : List Char)
  | plain (text : String)
deriving DecidableEq, Repr

/-- The form of a word. A single hyphen is plain. -/
def Word.ofString (s : String) : Word :=
  match s.toList with
  | ['-', '-'] => .escape
  | '-' :: '-' :: cs =>
    let name := cs.takeWhile (· ≠ '=')
    match cs.dropWhile (· ≠ '=') with
    | _ :: value => .long (String.ofList name) (some (String.ofList value))
    | [] => .long (String.ofList name) none
  | '-' :: c :: cs => .short (c :: cs)
  | _ => .plain s

/-- A value that has been begun. Without a text it is the next word's turn. -/
structure Pending where
  name : String
  rule : ValueRule
  text : Option String
deriving DecidableEq, Repr

/-- The values that have been read, and one that has still to be checked. -/
structure Reading where
  values : List (String × String) := []
  pending : Option Pending := none
deriving DecidableEq, Repr

namespace Reading

/-- Whether the next word belongs to an option. -/
def awaiting (r : Reading) : Bool :=
  match r.pending with
  | some p => p.text.isNone
  | none => false

/-- The pending value checked: it must be there, be admitted and be the first of its name. -/
def settle (r : Reading) : Except Stop Reading :=
  match r.pending with
  | none => .ok r
  | some ⟨_, _, none⟩ => .error .misuse
  | some ⟨name, rule, some text⟩ =>
    if rule.admits text && (r.values.lookup name).isNone then
      .ok ⟨r.values ++ [(name, text)], none⟩
    else .error .misuse

/-- A new pending value, once the last one is checked. -/
def start (r : Reading) (p : Pending) : Except Stop Reading := do
  return { ← r.settle with pending := some p }

/-- A value that is checked at once. -/
def give (r : Reading) (name : String) (rule : ValueRule) (text : String) :
    Except Stop Reading := do
  (← r.start ⟨name, rule, some text⟩).settle

/-- A value that is given or, without a text, begun. -/
def giveOption (r : Reading) (name : String) (rule : ValueRule) :
    Option String → Except Stop Reading
  | some text => r.give name rule text
  | none => r.start ⟨name, rule, none⟩

end Reading

namespace Usage

/-- A long option. Only options with values may bring one. -/
def readLong (u : Usage) (r : Reading) (name : String) (value : Option String) :
    Except Stop Reading :=
  match u.flags.find? (·.name = name), value with
  | none, _ => .error .misuse
  | some f, value =>
    match f.effect, value with
    | .value _ rule, value => r.giveOption f.name rule value
    | .switch, none => r.give f.name .any ""
    | .help, none => do let _ ← r.settle; throw (.help u)
    | .version, none => do let _ ← r.settle; throw .version
    | _, some _ => .error .misuse

/-- A value behind a short option, an equals sign before it left out. -/
def attached : List Char → Option String
  | [] => none
  | '=' :: cs => some (String.ofList cs)
  | cs => some (String.ofList cs)

/-- Short options. The first that takes a value takes the rest. -/
def readShort (u : Usage) (r : Reading) : List Char → Except Stop Reading
  | [] => .ok r
  | c :: cs =>
    match u.flags.find? (·.short = some c) with
    | none => .error .misuse
    | some f =>
      match f.effect with
      | .value _ rule => r.giveOption f.name rule (attached cs)
      | .switch => do u.readShort (← r.give f.name .any "") cs
      | .help => do let _ ← r.settle; throw (.help u)
      | .version => do let _ ← r.settle; throw .version

/-- An argument, of which there is at most one. -/
def readArgument (u : Usage) (r : Reading) (text : String) : Except Stop Reading := do
  let r ← r.settle
  match u.argument with
  | none => throw .misuse
  | some a =>
    if (r.values.lookup a.name).isSome then throw .misuse
    else r.start ⟨a.name, a.rule, some text⟩

/-- A plain word: the value that an option waits for, or an argument. -/
def readPlain (u : Usage) (r : Reading) (text : String) : Except Stop Reading :=
  match r.pending with
  | some ⟨name, rule, none⟩ => .ok { r with pending := some ⟨name, rule, some text⟩ }
  | _ => u.readArgument r text

/-- Reads words up to the name of a command, which begins the rest. -/
def read (u : Usage) (r : Reading) : List String → Except Stop (Reading × List String)
  | [] => .ok (r, [])
  | w :: ws =>
    if !r.awaiting && (u.commands.lookup w).isSome then .ok (r, w :: ws)
    else
      match Word.ofString w with
      | .escape => do return (← ws.foldlM u.readArgument r, [])
      | .long name value => do u.read (← u.readLong r name value) ws
      | .short letters => do u.read (← u.readShort r letters) ws
      | .plain text => do u.read (← u.readPlain r text) ws

end Usage

end FrameSource.Cli
