/-!
# Scripts

A program that uses files, as a value: what it does to files is a tree whose branches are the answers
that the files may give. The same script is run on the files of the machine and on files in memory.
-/

namespace FrameSource.Cli

/-- Why a file could not be used. -/
inductive FileError where
  | notFound
  | notDirectory
  | isDirectory
  | alreadyExists
  | notPermitted
  | nameTooLong
  /-- The content is not text. -/
  | notText
  | other (reason : String)
deriving DecidableEq, Repr

/-- The wording of a file error. -/
def FileError.message : FileError → String
  | .notFound => "No such file or directory (os error 2)"
  | .notPermitted => "Permission denied (os error 13)"
  | .alreadyExists => "File exists (os error 17)"
  | .notDirectory => "Not a directory (os error 20)"
  | .isDirectory => "Is a directory (os error 21)"
  | .nameTooLong => "File name too long (os error 36)"
  | .notText => "stream did not contain valid UTF-8"
  | .other reason => reason

/-- A use of a file. -/
inductive FileAction where
  /-- Read a text. -/
  | read (path : String)
  /-- Create a file unless it is there. -/
  | create (path : String)
  /-- Create a folder unless it is there. The folder above it must be there. -/
  | makeFolder (path : String)
  /-- Replace a file by a text. -/
  | write (path text : String)
deriving DecidableEq, Repr

/-- The answer to a use of a file: an error, or the text that was read. Only reading gives a text. -/
abbrev FileAnswer := Except FileError String

/-- A program that uses files and ends with a result. -/
inductive Script (α : Type) where
  | done (result : α)
  | act (action : FileAction) (next : FileAnswer → Script α)

namespace Script

variable {α β : Type}

/-- A script that goes on with another. -/
def bind : Script α → (α → Script β) → Script β
  | done a, f => f a
  | act action next, f => act action fun answer => (next answer).bind f

instance : Monad Script where
  pure := done
  bind := bind

/-- A single use of a file. -/
def perform (action : FileAction) : Script FileAnswer :=
  act action done

/-- Runs a script where uses of files are answered. -/
def run {m : Type → Type} [Monad m] (answer : FileAction → m FileAnswer) : Script α → m α
  | done a => pure a
  | act action next => do (next (← answer action)).run answer

end Script

end FrameSource.Cli
