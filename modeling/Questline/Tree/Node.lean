import Questline.Keyed
set_option autoImplicit false

/-!
# Tree: files and directories

A node is a file with its content or a directory with its children, listed by
name.  A place in a tree is the list of names on the way to it from the root.
-/

namespace Questline

/-- A file or a directory. -/
inductive Node where
  | file (content : String)
  | dir (children : List (String × Node))
  deriving Inhabited

namespace Node

/-- What a node is. -/
inductive Kind where
  | file
  | dir
  deriving DecidableEq, Repr

/-- What the node is. -/
def kind : Node → Kind
  | .file _ => .file
  | .dir _ => .dir

/-- The node is a directory. -/
def isDir : Node → Bool
  | .dir _ => true
  | .file _ => false

/-- The children of a directory. -/
def children? : Node → Option (List (String × Node))
  | .dir cs => some cs
  | .file _ => none

/-- The content of a file. -/
def content? : Node → Option String
  | .file s => some s
  | .dir _ => none

/-- The child of that name. -/
def child? (name : String) : Node → Option Node
  | .dir cs => Entries.get? name cs
  | .file _ => none

/-- The node at a place. -/
def at? : List String → Node → Option Node
  | [], n => some n
  | s :: r, n => (n.child? s).bind (at? r)

/-- The tree with `new` at a place where there is a node already; without one
nothing changes. -/
def graft (new : Node) : List String → Node → Node
  | [], _ => new
  | s :: r, .dir cs =>
    match Entries.get? s cs with
    | some c => .dir (Entries.insert s (graft new r c) cs)
    | none => .dir cs
  | _ :: _, .file s => .file s

mutual

/-- Every directory lists its children in order of their names. -/
def WellFormed : Node → Prop
  | .file _ => True
  | .dir cs => Entries.Sorted cs ∧ WellFormedAll cs

/-- Every child is well formed. -/
def WellFormedAll : List (String × Node) → Prop
  | [] => True
  | (_, c) :: r => WellFormed c ∧ WellFormedAll r

end

theorem at?_append (a b : List String) (n : Node) :
    at? (a ++ b) n = (at? a n).bind (at? b) := by
  induction a generalizing n with
  | nil => rfl
  | cons s r ih =>
    simp only [List.cons_append, at?]
    cases n.child? s with
    | none => rfl
    | some c => simpa using ih c

theorem at?_graft_self (new : Node) (segs : List String) (n : Node) (h : (at? segs n).isSome) :
    at? segs (graft new segs n) = some new := by
  induction segs generalizing n with
  | nil => rfl
  | cons s r ih =>
    cases n with
    | file _ => simp [at?, child?] at h
    | dir cs =>
      match hc : Entries.get? s cs with
      | none => simp [at?, child?, hc] at h
      | some c =>
        have hr : (at? r c).isSome := by simpa [at?, child?, hc] using h
        simp [graft, hc, at?, child?, Entries.get?_insert_self, ih c hr]

end Node

end Questline
