import Questline.Tree.Node
import Questline.Tree.Path
import Questline.Text.Lines
set_option autoImplicit false

/-!
# Tree: the file system of a session

One tree and a current directory.  Operations take paths as they are typed;
those that change something give the reason when they cannot, and leave the file
system alone then.
-/

namespace Questline

/-- Why an operation on the file system was refused. -/
inductive FileError where
  | pathNotFound
  | notADirectory
  | notAFile
  | alreadyExists
  | notFound
  | directoryNotEmpty
  | currentDirectory
  deriving DecidableEq, Repr

/-- The words in which a refusal is told. -/
def FileError.message : FileError → String
  | .pathNotFound => "Path not found"
  | .notADirectory => "Not a directory"
  | .notAFile => "Not a file"
  | .alreadyExists => "Already exists"
  | .notFound => "Not found"
  | .directoryNotEmpty => "Directory not empty"
  | .currentDirectory => "Cannot remove the current directory"

/-- A tree and the place one is at. -/
structure FileSystem where
  root : Node
  cwd : List String
  deriving Inhabited

namespace FileSystem

/-- The file system with this tree, seen from its root; a file as a tree counts
as an empty directory. -/
def ofTree (root : Node) : FileSystem :=
  match root with
  | .dir cs => ⟨.dir cs, []⟩
  | .file _ => ⟨.dir [], []⟩

/-- The home directory of a player. -/
def homePlace : List String := ["home", "adventurer"]

/-- The tree every session starts with. -/
def starterTree : Node :=
  .dir [("home", .dir [("adventurer", .dir [
    ("caves", .dir [("echo.txt", .file "echo echo echo")]),
    ("forest", .dir [("trail.txt", .file "Watch the roots.")]),
    ("notes.txt", .file "Welcome to ShellQuest!"),
    ("tutorials", .dir [])])])]

/-- The file system every session starts with. -/
def starter : FileSystem := ⟨starterTree, homePlace⟩

/-! ## Looking -/

/-- The place a path names. -/
def resolve (fs : FileSystem) (path : String) : List String := Path.resolve fs.cwd path.toList

/-- The node at a place. -/
def node? (fs : FileSystem) (place : List String) : Option Node := fs.root.at? place

/-- The node a path names. -/
def lookup? (fs : FileSystem) (path : String) : Option Node := fs.node? (fs.resolve path)

/-- The place of the parent and the last name of a path. -/
def target? (fs : FileSystem) (path : String) : Option (List String × String) :=
  (Path.splitLeaf? path.toList).map fun (parent, leaf) => (Path.resolve fs.cwd parent, leaf)

/-- The current directory as a path. -/
def pwd (fs : FileSystem) : String := Path.render fs.cwd

/-- The names in a directory, in order; the current one without a path. -/
def ls (fs : FileSystem) (path : Option String) : Except FileError (List String) :=
  match fs.lookup? (path.getD "") with
  | none => .error .pathNotFound
  | some n =>
    match n.children? with
    | none => .error .notADirectory
    | some cs => .ok (cs.map (·.1))

/-- The content of a file. -/
def cat (fs : FileSystem) (path : String) : Except FileError String :=
  match fs.lookup? path with
  | none => .error .notFound
  | some n =>
    match n.content? with
    | none => .error .notAFile
    | some s => .ok s

/-- The lines of a file that contain a pattern. -/
def grep (fs : FileSystem) (pattern path : String) : Except FileError (List String) :=
  (fs.cat path).map fun s =>
    ((Text.linesFrom [] s.toList).filter (Text.occurs pattern.toList)).map String.ofList

mutual

/-- The paths of everything below a node, each directory before what is in it;
`above` is the path of the node. -/
def pathsBelow (above : String) : Node → List String
  | .file _ => []
  | .dir cs => pathsAmong above cs

/-- The paths of these children and of everything below them. -/
def pathsAmong (above : String) : List (String × Node) → List String
  | [] => []
  | (name, c) :: r =>
    let path := if above.isEmpty then name else above ++ "/" ++ name
    path :: pathsBelow path c ++ pathsAmong above r

end

/-- The paths of everything below the current directory, seen from there. -/
def pathsBelowCwd (fs : FileSystem) : List String :=
  match fs.node? fs.cwd with
  | some n => pathsBelow "" n
  | none => []

/-! ## Changing -/

/-- Goes to a directory; tells where one is then. -/
def cd (fs : FileSystem) (path : String) : Except FileError FileSystem :=
  match fs.lookup? path with
  | none => .error .pathNotFound
  | some (.file _) => .error .notADirectory
  | some (.dir _) => .ok { fs with cwd := fs.resolve path }

/-- The children of the directory at a place. -/
def childrenAt (fs : FileSystem) (place : List String) : Except FileError (List (String × Node)) :=
  match fs.node? place with
  | none => .error .pathNotFound
  | some n =>
    match n.children? with
    | none => .error .notADirectory
    | some cs => .ok cs

/-- The file system with other children in the directory at a place. -/
def withChildren (fs : FileSystem) (place : List String) (cs : List (String × Node)) : FileSystem :=
  { fs with root := Node.graft (.dir cs) place fs.root }

/-- Makes an empty directory where there is nothing yet. -/
def mkdir (fs : FileSystem) (path : String) : Except FileError FileSystem := do
  let some (parent, leaf) := fs.target? path | throw .alreadyExists
  let cs ← fs.childrenAt parent
  if (Entries.get? leaf cs).isSome then throw .alreadyExists
  return fs.withChildren parent (Entries.insert leaf (.dir []) cs)

/-- Makes an empty file where there is nothing yet. -/
def touch (fs : FileSystem) (path : String) : Except FileError FileSystem := do
  let some (parent, leaf) := fs.target? path | return fs
  let cs ← fs.childrenAt parent
  if (Entries.get? leaf cs).isSome then return fs
  return fs.withChildren parent (Entries.insert leaf (.file "") cs)

/-- Removes a file or an empty directory. -/
def rm (fs : FileSystem) (path : String) : Except FileError FileSystem := do
  let some (parent, leaf) := fs.target? path | throw .notFound
  if fs.cwd = parent ++ [leaf] then throw .currentDirectory
  match fs.childrenAt parent with
  | .error _ => throw .notFound
  | .ok cs =>
    match Entries.get? leaf cs with
    | none => throw .notFound
    | some (.dir (_ :: _)) => throw .directoryNotEmpty
    | some _ => return fs.withChildren parent (Entries.erase leaf cs)

/-- Writes a file, new or in place of what it held. -/
def echo (fs : FileSystem) (content path : String) : Except FileError FileSystem := do
  let some (parent, leaf) := fs.target? path | throw .notAFile
  match fs.childrenAt parent with
  | .error _ => throw .pathNotFound
  | .ok cs =>
    match Entries.get? leaf cs with
    | some (.dir _) => throw .notAFile
    | _ => return fs.withChildren parent (Entries.insert leaf (.file content) cs)

end FileSystem

end Questline
