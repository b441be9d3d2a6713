import Questline.Store.Basic
import Questline.Tree.Node
import Questline.Text.Search
import Questline.Text.Width
set_option autoImplicit false

/-!
# Store: in a directory

A store that keeps each text in a file of its own, in a directory of a disk that
is made when the first text is written.  A text is written to a temporary file
first, which then takes the place of the old one.

The disk is a tree of files and directories.  Its operations fail as those of a
real one do: on the way to a file through something that is no directory, on a
directory where a file is meant, on names of more than 255 bytes, and on paths of
more than 4095.  A place is spoken of by its absolute path.
-/

namespace Questline

namespace Disk

/-- A name that a disk can hold. -/
def fits (name : String) : Bool := name.utf8ByteSize ≤ 255

/-- The bytes of the path of a place: its names, each with a slash before it. -/
def pathBytes : List String → Nat
  | [] => 0
  | name :: r => 1 + name.utf8ByteSize + pathBytes r

/-- Why a place cannot be spoken of, whatever is on the disk: a name in it holds the
character NUL, or its path is too long. -/
def pathFault? (place : List String) : Option Fault :=
  if place.any fun name => name.toList.any (· = '\x00') then some .nulInPath
  else if 4095 < pathBytes place then some .nameTooLong
  else none

/-- Why there is no file at a place, or what is there. -/
inductive Found where
  | nothing
  | fault (f : Fault)
  | node (n : Node)

/-- Walks to a place. -/
def find : List String → Node → Found
  | [], n => .node n
  | _ :: _, .file _ => .fault .notDirectory
  | s :: r, .dir cs =>
    if fits s then
      match Entries.get? s cs with
      | some c => find r c
      | none => .nothing
    else .fault .nameTooLong

/-- Makes the directories on the way to a place, and one there. -/
def makeDirs : List String → Node → Except Fault Node
  | [], .dir cs => .ok (.dir cs)
  | [], .file _ => .error .fileExists
  | _ :: _, .file _ => .error .notDirectory
  | s :: r, .dir cs =>
    if fits s then do
      let c ← makeDirs r ((Entries.get? s cs).getD (.dir []))
      return .dir (Entries.insert s c cs)
    else .error .nameTooLong

/-- Puts a file into the directory at a place. -/
def putFile (place : List String) (name text : String) (disk : Node) : Except Fault Node :=
  match find place disk with
  | .node (.dir cs) =>
    if fits name then
      match Entries.get? name cs with
      | some (.dir _) => .error .isDirectory
      | _ => .ok (Node.graft (.dir (Entries.insert name (.file text) cs)) place disk)
    else .error .nameTooLong
  | .node (.file _) => .error .notDirectory
  | .nothing => .error .notDirectory
  | .fault f => .error f

/-- The disk with a node at a place, whatever stood there or on the way. -/
def mount (n : Node) : List String → Node → Node
  | [], _ => n
  | s :: r, .dir cs => .dir (Entries.insert s (mount n r ((Entries.get? s cs).getD (.dir []))) cs)
  | s :: r, .file _ => .dir [(s, mount n r (.dir []))]

mutual

/-- The paths of all files below a node, with their contents; `above` is the path of
the node. -/
def filesBelow (above : List String) : Node → List (List String × String)
  | .file s => [(above, s)]
  | .dir cs => filesAmong above cs

/-- The paths of all files among these children and below them. -/
def filesAmong (above : List String) : List (String × Node) → List (List String × String)
  | [] => []
  | (name, c) :: r => filesBelow (above ++ [name]) c ++ filesAmong above r

end

/-- What has to be written to make one disk out of another: the files that are new or
have another content, and those that are gone. -/
def changes (before after : Node) : List (List String × Option String) :=
  let old := filesBelow [] before
  let new := filesBelow [] after
  (new.filter fun f => !old.contains f).map (fun f => (f.1, some f.2))
    ++ (old.filter fun f => !new.any (·.1 = f.1)).map (fun f => (f.1, none))

/-- Takes a file out of the directory at a place. -/
def dropFile (place : List String) (name : String) (disk : Node) : Node :=
  match Node.at? place disk with
  | some (.dir cs) => Node.graft (.dir (Entries.erase name cs)) place disk
  | _ => disk

theorem at?_mount (n : Node) (place : List String) (disk : Node) :
    Node.at? place (mount n place disk) = some n := by
  induction place generalizing disk with
  | nil => rfl
  | cons s r ih =>
    cases disk with
    | file _ => simp [mount, Node.at?, Node.child?, Entries.get?, ih]
    | dir cs => simp [mount, Node.at?, Node.child?, Entries.get?_insert_self, ih]

end Disk

/-- A directory of a disk in which texts are kept. -/
structure Folder where
  place : List String
  deriving DecidableEq, Repr

namespace Folder

/-- A character that stands for itself in a file name. -/
def isPlain (c : Char) : Bool :=
  ('a' ≤ c && c ≤ 'z') || ('A' ≤ c && c ≤ 'Z') || ('0' ≤ c && c ≤ '9')
    || c = '.' || c = '_' || c = '-'

/-- The stem of the file for a key. -/
def stem (key : String) : List Char := key.toList.map fun c => if isPlain c then c else '_'

/-- The name of the file for a key. -/
def fileName (key : String) : String := .ofList (stem key ++ ".json".toList)

/-- The name of the temporary file for a key: another extension takes the place of
the last one, and a name that is all extension gets one more.  The name `..json`
without its extension is the parent directory, so that the key of a single dot has
no temporary file. -/
def tempName? (key : String) : Option String :=
  let base := stem key
  if base = ['.'] then none
  else some (.ofList ((if base.isEmpty then ".json".toList else base) ++ ".json.tmp".toList))

/-- The place of the file for a key. -/
def filePlace (f : Folder) (key : String) : List String := f.place ++ [fileName key]

/-- The text under a key. -/
def get (f : Folder) (key : String) (disk : Node) : Except Fault (Option String) :=
  match Disk.pathFault? (f.filePlace key) with
  | some e => .error e
  | none =>
    match Disk.find (f.filePlace key) disk with
    | .node (.file text) => .ok (some text)
    | .node (.dir _) => .error .isDirectory
    | .nothing => .ok none
    | .fault e => .error e

/-- Puts a text into the file for a key, by way of the temporary file. -/
def replace (f : Folder) (key temp text : String) (disk : Node) : Except Fault Unit × Node :=
  match Disk.pathFault? (f.place ++ [temp]) with
  | some e => (.error e, disk)
  | none =>
    match Disk.putFile f.place temp text disk with
    | .error e => (.error e, disk)
    | .ok written =>
      match Disk.putFile f.place (fileName key) text (Disk.dropFile f.place temp written) with
      | .error e => (.error e, written)
      | .ok moved => (.ok (), moved)

/-- Puts a text under a key. -/
def set (f : Folder) (key text : String) (disk : Node) : Except Fault Unit × Node :=
  match Disk.pathFault? f.place with
  | some e => (.error e, disk)
  | none =>
    match Disk.makeDirs f.place disk with
    | .error e => (.error e, disk)
    | .ok disk =>
      match tempName? key with
      | none => (.error ((Disk.pathFault? (f.place ++ [".."])).getD .isDirectory), disk)
      | some temp => f.replace key temp text disk

/-- Takes away what is under a key. -/
def remove (f : Folder) (key : String) (disk : Node) : Except Fault Unit × Node :=
  match Disk.pathFault? (f.filePlace key) with
  | some e => (.error e, disk)
  | none =>
    match Disk.find (f.filePlace key) disk with
    | .node (.file _) => (.ok (), Disk.dropFile f.place (fileName key) disk)
    | .node (.dir _) => (.error .isDirectory, disk)
    | .nothing => (.ok (), disk)
    | .fault e => (.error e, disk)

end Folder

end Questline
