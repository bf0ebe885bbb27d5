import FrameSource.Cli.Run

/-!
# The program

Runs a command line on the files and the environment of the machine.
-/

namespace FrameSource

/-- The number of an error, which some errors of the machine carry negated. -/
def errorNumber (code : UInt32) : UInt32 :=
  if code < 0x80000000 then code else 0 - code

/-- The file error behind an error of the machine. -/
def fileError : IO.Error → Cli.FileError
  | .noFileOrDirectory .. => .notFound
  | .permissionDenied .. => .notPermitted
  | .alreadyExists .. => .alreadyExists
  | .inappropriateType _ code _ => if errorNumber code = 21 then .isDirectory else .notDirectory
  | .userError _ => .notText
  | e@(.invalidArgument _ code _) =>
    if errorNumber code = 36 then .nameTooLong else .other (toString e)
  | e => .other (toString e)

/-- Makes a folder. What is there already passes when it is a folder. -/
def makeFolder (path : String) : IO Unit := do
  try
    IO.FS.createDir path
  catch
    | .alreadyExists .. => IO.FS.createDirAll path
    | e => throw e

/-- The answer of the machine to a use of a file. -/
def answerOnMachine (action : Cli.FileAction) : IO Cli.FileAnswer := do
  let perform : IO String :=
    match action with
    | .read path => IO.FS.readFile path
    | .create path => do
      let _ ← IO.FS.Handle.mk path .append
      return ""
    | .makeFolder path => do
      makeFolder path
      return ""
    | .write path text => do
      IO.FS.writeFile path text
      return ""
  match ← perform.toBaseIO with
  | .ok text => return .ok text
  | .error e => return .error (fileError e)

/-- The variables of the environment that the program looks at. -/
def readEnvironment : IO (List (String × String)) :=
  (Config.overrideNames ++ Cli.folderNames).filterMapM fun name => do
    return (← IO.getEnv name).map (name, ·)

end FrameSource

/-- Runs the program and gives its exit code. -/
def main (words : List String) : IO UInt32 := do
  let env ← FrameSource.readEnvironment
  let outcome ← (FrameSource.Cli.execute (List.lookup · env) words).run FrameSource.answerOnMachine
  IO.print outcome.stdout
  IO.eprint outcome.stderr
  return outcome.exit
