import FrameSource.Cli.Script

/-!
# Files in memory

The files and folders of a machine, as a tree, and how they answer the file actions of a script. A
path starts at the topmost folder when it begins with a slash, and at the working folder otherwise.
-/

namespace FrameSource.Cli

/-- What may stand at a place. -/
inductive Node where
  | file (text : String)
  /-- A file that is empty, whatever is written to it. -/
  | device
  | folder (entries : List (String × Node))
deriving Repr, Inhabited

namespace Node

/-- The entries of a folder, one of which is set. -/
def setEntry (name : String) (node : Node) : List (String × Node) → List (String × Node)
  | [] => [(name, node)]
  | entry :: rest =>
    if entry.1 = name then (name, node) :: rest else entry :: setEntry name node rest

/-- A node with something put into it under a name. Only a folder changes. -/
def withEntry (node : Node) (name : String) (entry : Node) : Node :=
  match node with
  | folder entries => folder (setEntry name entry entries)
  | other => other

/-- A node with a file put below it, the folders on the way included. -/
def withFile (text : String) : List String → Node → Node
  | [], _ => file text
  | name :: names, folder entries =>
    folder (setEntry name (withFile text names ((entries.lookup name).getD (folder []))) entries)
  | _, other => other

mutual

/-- The files below a node, each with the names on the way to it. -/
def files : Node → List (List String × String)
  | file text => [([], text)]
  | device => []
  | folder entries => entryFiles entries

/-- The files below the entries of a folder. -/
def entryFiles : List (String × Node) → List (List String × String)
  | [] => []
  | (name, node) :: rest =>
    (files node).map (fun (names, text) => (name :: names, text)) ++ entryFiles rest

end

end Node

/-- Where a path leads: what stands there, if anything does, and the folders on the way, the nearest
first, each with the name that the path takes in it. -/
structure Place where
  node : Option Node
  above : List (String × Node)

namespace Place

/-- The tree with something put at a place. -/
def put (p : Place) (node : Node) : Node :=
  p.above.foldl (fun below (name, folder) => folder.withEntry name below) node

/-- The bytes that a name has at most. -/
def maxNameBytes : Nat := 255

/-- One step of a path. It starts in a folder; above the topmost folder is that folder. -/
def step (p : Place) (name : String) : Except FileError Place :=
  match p.node with
  | none => .error .notFound
  | some (.folder entries) =>
    if name = "" ∨ name = "." then .ok p
    else if name = ".." then
      .ok (match p.above with
        | [] => p
        | (_, folder) :: above => ⟨some folder, above⟩)
    else if maxNameBytes < name.utf8ByteSize then .error .nameTooLong
    else .ok ⟨entries.lookup name, (name, .folder entries) :: p.above⟩
  | some _ => .error .notDirectory

end Place

/-- The files and folders of a machine, below the topmost folder. -/
structure Disk where
  top : Node
deriving Repr, Inhabited

namespace Disk

/-- Where the paths start that do not begin with a slash. -/
def workingFolder : List String := ["tmp", "work"]

/-- What is on every machine. -/
def bare : Disk where
  top := .folder <|
    [("dev", .folder [("null", .device)]),
      ("etc", .folder [("passwd", .file "root:x:0:0:root:/root:/bin/sh\n")]),
      ("tmp", .folder [("work", .folder [])]),
      ("usr", .folder (["bin", "lib", "local", "sbin", "share"].map (·, .folder []))),
      ("var", .folder (["cache", "lib", "log", "run", "tmp"].map (·, .folder [])))] ++
    ["bin", "boot", "home", "lib", "media", "mnt", "opt", "proc", "root", "run", "sbin", "srv",
      "sys"].map (·, .folder [])

/-- A disk on which the working folder holds some files, given by their paths. -/
def ofFiles (files : List (String × String)) : Disk where
  top := files.foldl (fun top (path, text) => top.withFile text (workingFolder ++ path.splitOn "/"))
    bare.top

/-- The bytes that a path has at most. -/
def maxPathBytes : Nat := 4095

/-- The steps of a path from the topmost folder. -/
def steps (path : String) : Except FileError (List String) :=
  if path.contains '\x00' then .error (.other "file name contained an unexpected NUL byte")
  else if path.isEmpty then .error .notFound
  else if maxPathBytes < path.utf8ByteSize then .error .nameTooLong
  else .ok ((if path.startsWith "/" then [] else workingFolder) ++ path.splitOn "/")

/-- Where some steps lead. -/
def walk (d : Disk) (names : List String) : Except FileError Place :=
  names.foldlM Place.step ⟨some d.top, []⟩

/-- The text of the file at a path. -/
def read (d : Disk) (path : String) : FileAnswer := do
  match (← d.walk (← steps path)).node with
  | none => throw .notFound
  | some (.file text) => return text
  | some .device => return ""
  | some (.folder _) => throw .isDirectory

/-- The disk after the file at a path has changed from an old text, which is absent when there was no
file, to a new one. The file lies in a folder that is there. A slash at the end asks for a folder,
whatever the name before it. -/
def change (d : Disk) (path : String) (text : Option String → String) : Except FileError Disk := do
  let names ← steps path
  let named := (names.reverse.dropWhile (· = "")).reverse
  let folder ← d.walk named.dropLast
  let place ← folder.step (if named.length < names.length then "." else named.getLast?.getD ".")
  match place.node with
  | none => return ⟨place.put (.file (text none))⟩
  | some (.file old) => return ⟨place.put (.file (text (some old)))⟩
  | some .device => return d
  | some (.folder _) => throw .isDirectory

/-- The disk with a folder at a path. -/
def withFolder (d : Disk) (path : String) : Except FileError Disk := do
  let place ← d.walk (← steps path)
  match place.node with
  | none => return ⟨place.put (.folder [])⟩
  | some (.folder _) => return d
  | some _ => throw .alreadyExists

/-- The answer to a use of a file, and the disk after it. An action that fails changes nothing. -/
def answer (action : FileAction) (d : Disk) : FileAnswer × Disk :=
  let changed (r : Except FileError Disk) : FileAnswer × Disk :=
    match r with
    | .ok d => (.ok "", d)
    | .error e => (.error e, d)
  match action with
  | .read path => (d.read path, d)
  | .create path => changed (d.change path fun old => old.getD "")
  | .makeFolder path => changed (d.withFolder path)
  | .write path text => changed (d.change path fun _ => text)

/-- The result of a script on a disk, and the disk after it. -/
def run {α : Type} (s : Script α) (d : Disk) : α × Disk :=
  (s.run (m := StateM Disk) fun action => answer action).run d

/-- The files of the working folder, by their paths. -/
def workingFiles (d : Disk) : List (String × String) :=
  match d.walk workingFolder with
  | .ok ⟨some folder, _⟩ => folder.files.map fun (names, text) => ("/".intercalate names, text)
  | _ => []

/-- The files of the working folder that another disk does not hold with the same text, by their
paths. -/
def newFiles (d old : Disk) : List (String × String) :=
  let before := old.workingFiles
  d.workingFiles.filter fun (path, text) => before.lookup path ≠ some text

end Disk

end FrameSource.Cli
