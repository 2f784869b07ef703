import SchemaForge.Files
import SchemaForge.Text.Split

/-!
# Trees of files

A `FileTree` is a working directory with all that it holds.  `FileTree.files` looks paths up in it
as they are written: a path is followed one name after the other, every name but the last must
lead to a directory, and `..` leads back.  Nothing is known of what lies outside of the tree
except that the directories above it are directories.
-/

namespace SchemaForge

-- bytes are compared by the core library where another instance is in scope
attribute [local instance(2000)] ByteArray.instDecidableEq

/-- Something that has a place in a tree. -/
inductive FileNode
  | directory
  | file (bytes : ByteArray)
  deriving DecidableEq

/-- What a run can see of a node. -/
def FileNode.state : FileNode → FileState
  | .directory => .unreadable .isDirectory
  | .file bytes => .ofBytes bytes

/-- Nodes by the names that lead to them; the directories on the way need not be listed. -/
structure FileTree where
  entries : List (List String × FileNode)

namespace FileTree

/-! ## Places -/

/-- Where a path has led to. -/
inductive Place
  | inside (names : List String)
  | above
  deriving DecidableEq, Repr

/-- The node at a place. -/
def node? (t : FileTree) : Place → Option FileNode
  | .above => some .directory
  | .inside names =>
    match t.entries.lookup names with
    | some node => some node
    | none =>
      if names = [] ∨ t.entries.any (fun e => names.isPrefixOf e.1) then some .directory else none

/-- The place is a directory. -/
def isDirectory (t : FileTree) (p : Place) : Bool :=
  match t.node? p with
  | some .directory => true
  | _ => false

/-- The place that a name leads to; only directories lead anywhere. -/
def step (t : FileTree) (p : Place) (name : String) : Option Place :=
  if !t.isDirectory p then none
  else if name = "" ∨ name = "." then some p
  else match p with
    | .above => if name = ".." then some .above else none
    | .inside names =>
      if name = ".." then some (if names = [] then .above else .inside names.dropLast)
      else some (.inside (names ++ [name]))

/-- The place that names lead to, one after the other. -/
def follow (t : FileTree) (p : Place) : List String → Option Place
  | [] => some p
  | name :: rest => (t.step p name).bind fun next => t.follow next rest

/-- Where a path starts. -/
def origin (path : String) : Place := if path.startsWith "/" then .above else .inside []

/-! ## Paths -/

/-- The files of a tree by their paths; the empty path leads nowhere. -/
def files (t : FileTree) : Files := fun path =>
  if path.isEmpty then .missing
  else
    match (t.follow (origin path) (Text.splitAt '/' path)).bind t.node? with
    | some node => node.state
    | none => .missing

/-- The names in a path to a node. -/
def namesOf (path : String) : List String :=
  (Text.splitAt '/' path).filter fun name => name ≠ "" ∧ name ≠ "."

/-- A tree of nodes at paths. -/
def ofPaths (nodes : List (String × FileNode)) : FileTree :=
  ⟨nodes.map fun n => (namesOf n.1, n.2)⟩

end FileTree

end SchemaForge
