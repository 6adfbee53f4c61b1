import BlankUse.Yaml.Graph

/-!
The data that a graph of nodes stands for. Every node gets one value, however often it is named. A
collection is made empty and filled later: collections are filled in the order in which they were
made, so of several faults the one nearest to the root is reported, and a collection can come to hold
itself.

Keys have to be scalars. A merge key brings in the entries of the mapping, or of the mappings, that it
names; entries written out win over those brought in, and of several mappings the first one wins.
-/

namespace BlankUse.Yaml

/-- What has been made so far: the values of nodes, the store, and the collections to be filled, each
with the number of its node and its place. -/
structure Draft where
  graph : Graph
  /-- At least the number of merge keys. -/
  merges : Nat
  values : Array (Option Value)
  store : Store
  waiting : Array (Nat × Nat)

abbrev Make := StateT Draft (Except Fault)

namespace Draft

def start (graph : Graph) : Draft := 
  ⟨graph, graph.entryCount, Array.replicate graph.size none, #[], #[]⟩

def value? (draft : Draft) (number : Nat) : Option Value := draft.values.getD number none

def know (number : Nat) (value : Value) (draft : Draft) : Draft :=
  { draft with values := draft.values.setIfInBounds number (some value) }

def make (number : Nat) (collection : Collection) (draft : Draft) : Draft :=
  let place := draft.store.size
  { draft with
    store := draft.store.push collection
    waiting := draft.waiting.push (number, place)
    values := draft.values.setIfInBounds number (some (.collection place)) }

def fill (place : Nat) (collection : Collection) (draft : Draft) : Draft :=
  { draft with store := draft.store.setIfInBounds place collection }

end Draft

def Make.malformed {Result : Type} : Make Result := throw .malformed

open Make

def emptyOf? : Tag → Option Collection
  | .seq => some (.list [])
  | .map => some (.map [])
  | .set => some (.set [])
  | .pairs => some (.pairs [])
  | _ => none

/-- The text of a node that has to be a scalar. A mapping stands for what is behind its equals sign;
one that leads back to itself has no text. -/
def scalarText (graph : Graph) : Nat → Nat → Except Fault Points
  | 0, _ => .error (.unreadable .endless)
  | fuel + 1, number =>
    match (graph.node number).content with
    | .scalar text => .ok text
    | .sequence _ => .error .malformed
    | .mapping entries =>
      match entries.find? fun entry => graph.tag entry.1 == .equals with
      | some entry => scalarText graph fuel entry.2
      | none => .error .malformed

def scalarOf (graph : Graph) (number : Nat) : Except Fault Scalar := do
  let tag := graph.tag number
  if [Tag.merge, .equals, .unknown].contains tag then throw .malformed
  let text ← scalarText graph (graph.size + 1) number
  if tag == .timestamp && (graph.entries? number).isSome then throw (.unreadable .noText)
  readScalar tag text

def valueOf (number : Nat) : Make Value := do
  match (← get).value? number with
  | some value => return value
  | none =>
    match emptyOf? ((← get).graph.tag number) with
    | some collection =>
      let place := (← get).store.size
      modify (Draft.make number collection)
      return .collection place
    | none =>
      match scalarOf (← get).graph number with
      | .error fault => throw fault
      | .ok scalar =>
        modify (Draft.know number (.scalar scalar))
        return .scalar scalar

def isMerge (graph : Graph) (entry : Nat × Nat) : Bool := graph.tag entry.1 == .merge

/-- Gives the key of an entry that is an equals sign the type of a string. -/
def equalsToString (graph : Graph) (entry : Nat × Nat) : Graph :=
  let key := graph.node entry.1
  if key.tag = .equals then graph.put entry.1 { key with tag := .str } else graph

/-- The mappings behind a merge key, the one that wins last. -/
def mergedNodes? (graph : Graph) (number : Nat) : Option (List Nat) :=
  match (graph.node number).content with
  | .scalar _ => none
  | .mapping _ => some [number]
  | .sequence items =>
    if items.all fun item => (graph.entries? item).isSome then some items.reverse else none

/-- Resolves the merge keys of a mapping, one after the other. Each one is taken out of its mapping
before anything is brought in, so the number of merge keys bounds the depth. -/
def flatten : Nat → Nat → Graph → Except Fault Graph
  | 0, _, graph => .ok graph
  | fuel + 1, number, graph =>
    let entries := (graph.entries? number).getD []
    match entries.find? (isMerge graph) with
    | none => .ok (entries.foldl equalsToString graph)
    | some merge =>
      match mergedNodes? graph merge.2 with
      | none => .error .malformed
      | some sources => do
        let graph := graph.setEntries number (entries.erase merge)
        let graph ← sources.reverse.foldlM (fun graph source => flatten fuel source graph) graph
        let brought := sources.flatMap fun source => (graph.entries? source).getD []
        let graph ← flatten fuel number graph
        return graph.setEntries number (brought ++ (graph.entries? number).getD [])

def entryOf (entry : Nat × Nat) : Make (Scalar × Value) := do
  match ← valueOf entry.1 with
  | .collection _ => malformed
  | .scalar key => return (key, ← valueOf entry.2)

def entriesOf (number : Nat) : Make (List (Scalar × Value)) := do
  match flatten ((← get).merges + 1) number (← get).graph with
  | .error fault => throw fault
  | .ok graph =>
    modify fun draft => { draft with graph }
    ((graph.entries? number).getD []).mapM entryOf

def pairOf (number : Nat) : Make (Value × Value) := do
  match (← get).graph.entries? number with
  | some [(left, right)] => return (← valueOf left, ← valueOf right)
  | _ => malformed

def contentOf (number : Nat) : Make Collection := do
  let graph := (← get).graph
  match graph.tag number, graph.items? number, graph.entries? number with
  | .seq, some items, _ => return .list (← items.mapM valueOf)
  | .pairs, some items, _ => return .pairs (← items.mapM pairOf)
  | .map, _, some _ => return .ofEntries (← entriesOf number)
  | .set, _, some _ => return .ofMembers ((Collection.distinct (← entriesOf number)).map Prod.fst)
  | _, _, _ => malformed

/-- Fills the collections from one of them on. Each node is waiting at most once, so the number of
nodes bounds the number of steps. -/
def fillFrom : Nat → Nat → Draft → Except Fault Draft
  | 0, _, draft => .ok draft
  | fuel + 1, index, draft =>
    match draft.waiting[index]? with
    | none => .ok draft
    | some (number, place) =>
      match (contentOf number).run draft with
      | .error fault => .error fault
      | .ok (collection, draft) => fillFrom fuel (index + 1) (draft.fill place collection)

def Graph.data (graph : Graph) (root : Nat) : Except Fault Data :=
  match (valueOf root).run (.start graph) with
  | .error fault => .error fault
  | .ok (value, draft) =>
    match fillFrom (graph.size + 1) 0 draft with
    | .error fault => .error fault
    | .ok draft => .ok ⟨draft.store, value⟩

end BlankUse.Yaml
