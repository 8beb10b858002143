import Reconcile.Content

/-!
The tree of a disk: directories with named entries, and files at the leaves. A location is
followed name by name, as `find?_append` says.
-/

namespace Reconcile

abbrev Location := List String

inductive Node where
  | file (content : Bytes)
  | directory (entries : List (String × Node))
  deriving Inhabited

namespace Node

def entries : Node → List (String × Node)
  | file _ => []
  | directory entries => entries

def isDirectory : Node → Bool
  | file _ => false
  | directory _ => true

def child? (node : Node) (name : String) : Option Node := node.entries.lookup name

def find? : Location → Node → Option Node
  | [], node => some node
  | name :: rest, node => (node.child? name).bind (find? rest)

/-- Puts a node under a name, in the place of an earlier one. Without a node the name is dropped. -/
def assign (name : String) (node : Option Node) : List (String × Node) → List (String × Node)
  | [] => (node.map fun node => (name, node)).toList
  | entry :: rest =>
    if entry.1 = name then (node.map fun node => (name, node)).toList ++ rest
    else entry :: assign name node rest

/-- The tree with the given node at a location, or with none there. A location that no directory
could hold changes nothing. -/
def replace (node : Option Node) : Location → Node → Node
  | [name], directory entries => directory (assign name node entries)
  | name :: next :: rest, directory entries =>
    match entries.lookup name with
    | some below => directory (assign name (some (replace node (next :: rest) below)) entries)
    | none => directory entries
  | _, tree => tree

theorem find?_append (upper lower : Location) (node : Node) :
    node.find? (upper ++ lower) = (node.find? upper).bind (find? lower) := by
  induction upper generalizing node with
  | nil => rfl
  | cons name rest ih =>
    simp only [List.cons_append, find?]
    cases node.child? name with
    | none => rfl
    | some below => exact ih below

mutual

/-- The paths of a node and of everything below it. Directories end in a slash. -/
def listing (path : String) : Node → List String
  | file _ => [path]
  | directory entries => (path ++ "/") :: listingOf (path ++ "/") entries

def listingOf (above : String) : List (String × Node) → List String
  | [] => []
  | (name, node) :: rest => listing (above ++ name) node ++ listingOf above rest

end

end Node

end Reconcile
