import BlankUse.Yaml.ScalarValue

/-!
A YAML text as a graph of tagged nodes. Nodes are named by numbers, so an alias can name any node
with an anchor, also one that is around it.
-/

namespace BlankUse.Yaml

inductive Content where
  | scalar (text : Points)
  | sequence (items : List Nat)
  | mapping (entries : List (Nat × Nat))
  deriving DecidableEq, Repr

structure Node where
  tag : Tag
  content : Content
  deriving DecidableEq, Repr

abbrev Graph := Array Node

/-- What stands where nothing is written. -/
def Node.empty : Node := ⟨.null, .scalar []⟩

namespace Graph

def node (graph : Graph) (number : Nat) : Node := graph.getD number .empty

def tag (graph : Graph) (number : Nat) : Tag := (graph.node number).tag

def entries? (graph : Graph) (number : Nat) : Option (List (Nat × Nat)) :=
  match (graph.node number).content with
  | .mapping entries => some entries
  | _ => none

def items? (graph : Graph) (number : Nat) : Option (List Nat) :=
  match (graph.node number).content with
  | .sequence items => some items
  | _ => none

def put (graph : Graph) (number : Nat) (node : Node) : Graph := graph.setIfInBounds number node

def setEntries (graph : Graph) (number : Nat) (entries : List (Nat × Nat)) : Graph :=
  graph.put number ⟨graph.tag number, .mapping entries⟩

/-- The graph of `count` nodes, of which some are given with their numbers. -/
def ofNodes (count : Nat) (nodes : List (Nat × Node)) : Graph :=
  nodes.foldl (fun graph known => graph.put known.1 known.2) (Array.replicate count .empty)

def entryCount (graph : Graph) : Nat :=
  graph.foldl (fun count node =>
    match node.content with
    | .mapping entries => count + entries.length
    | _ => count) 0

end Graph

end BlankUse.Yaml
