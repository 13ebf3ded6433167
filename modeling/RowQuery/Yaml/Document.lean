import RowQuery.Value.Members
import RowQuery.Yaml.Collection
import RowQuery.Yaml.Node
import RowQuery.Yaml.Scalar

/-!
Documents as values. A node becomes a value or a collection once, however many aliases it has. Texts
are read where they stand, and collections are filled in the order in which they were met, after the
collection that holds them. Keys of mappings are unique, and a merge key brings in the entries of
other mappings behind its own.
-/

namespace RowQuery.Yaml

/-- The nodes of a document and what has been made of them. -/
structure Construction where
  nodes : Array Node
  /-- What stands for a node, by its number. -/
  made : Array (Option Slot)
  collections : Array Collection := #[]
  /-- Collections to be filled, each with the node that it is made of. -/
  waiting : List (Nat × Nat) := []

abbrev Builder (α : Type) := StateT Construction (Except Error) α

namespace Builder

def malformed {α : Type} : Builder α := throw (.fault .yaml)

/-- The node of a number. -/
def node (n : Nat) : Builder Node := do return (← get).nodes.getD n default

def setNode (n : Nat) (node : Node) : Builder Unit :=
  modify fun c => { c with nodes := c.nodes.setIfInBounds n node }

end Builder

namespace Node

def tag : Node → Tag
  | .scalar tag _ => tag
  | .sequence tag _ => tag
  | .mapping tag _ => tag

def withTag (tag : Tag) : Node → Node
  | .scalar _ text => .scalar tag text
  | .sequence _ items => .sequence tag items
  | .mapping _ entries => .mapping tag entries

def entries : Node → List (Nat × Nat)
  | .mapping _ entries => entries
  | _ => []

end Node

namespace Builder

/-! ### Merge keys -/

/-- The entries of a mapping; other nodes cannot be merged. -/
def mappingEntries (n : Nat) : Builder (List (Nat × Nat)) := do
  match ← node n with
  | .mapping _ entries => return entries
  | _ => malformed

/-- Merges mappings into each other: every merge key of a mapping is replaced by the entries of the
mappings it names, before the mapping's own. Of several mappings under one key the first counts
most, so it comes last. An equals sign as a key is a text. -/
def flatten : (fuel : Nat) → (n : Nat) → Builder Unit
  | 0, _ => return
  | fuel + 1, n => do
    let flattened := fun (m : Nat) => do
      let _ ← mappingEntries m
      flatten fuel m
      mappingEntries m
    let visit := fun (reached : Nat × List (Nat × Nat)) (_ : Nat × Nat) => do
      let (index, merged) := reached
      let own ← mappingEntries n
      match own[index]? with
      | none => return reached
      | some (k, v) => match (← node k).tag with
        | .merge =>
          setNode n (.mapping (← node n).tag (own.eraseIdx index))
          let more ← match ← node v with
            | .sequence _ items => do
              let parts ← items.mapM flattened
              pure parts.reverse.flatten
            | _ => flattened v
          return (index, merged ++ more)
        | .equals =>
          setNode k ((← node k).withTag .text)
          return (index + 1, merged)
        | _ => return (index + 1, merged)
    let (_, merged) ← (← mappingEntries n).foldlM visit (0, [])
    if !merged.isEmpty then
      setNode n (.mapping (← node n).tag (merged ++ (← mappingEntries n)))

/-! ### Nodes -/

/-- The text of a node. A mapping has the one that stands under its equals sign. -/
def textOf : (fuel : Nat) → (n : Nat) → Builder String
  | 0, _ => throw (.fault .recursion)
  | fuel + 1, n => do
    match ← node n with
    | .scalar _ text => return text
    | .sequence _ _ => malformed
    | .mapping _ entries =>
      let keyed ← entries.filterM fun e => do return (← node e.1).tag == .equals
      match keyed with
      | (_, v) :: _ => textOf fuel v
      | [] => malformed

/-- A collection of some kind without anything in it. -/
def emptyCollection : Tag → Collection
  | .mapping => .map []
  | .set => .set []
  | .orderedMap => .pairs []
  | .pairs => .pairs []
  | _ => .list []

/-- What stands for a node that nothing stands for yet. -/
def make (n : Nat) : Builder Slot := do
  let given ← node n
  if given.tag.isCollection then
    let c ← get
    let number := c.collections.size
    set { c with
      collections := c.collections.push (emptyCollection given.tag)
      waiting := c.waiting ++ [(number, n)] }
    return .collection number
  else if given.tag.isScalar then
    let text ← textOf ((← get).nodes.size + 1) n
    match given, given.tag with
    | .mapping _ _, .timestamp => throw (.fault .type)
    | _, tag => return .value (← (tag.read text : Except Error Value))
  else malformed

/-- What stands for a node. -/
def slot (n : Nat) : Builder Slot := do
  match (← get).made[n]? with
  | some (some s) => return s
  | _ =>
    let s ← make n
    modify fun c => { c with made := c.made.setIfInBounds n (some s) }
    return s

/-- Stores what stands under a key. A nan is a new key wherever it is written. -/
def putKey (entries : List (Value × Slot)) (k : Value) (s : Slot) : List (Value × Slot) :=
  match k with
  | .float .nan => entries ++ [(k, s)]
  | _ => Keyed.put entries k s

/-- The entries of a mapping. Collections cannot be keys. -/
def readEntries (fuel n : Nat) : Builder (List (Value × Slot)) := do
  let _ ← mappingEntries n
  flatten fuel n
  (← mappingEntries n).foldlM (fun read e => do
    match ← slot e.1 with
    | .value k => return putKey read k (← slot e.2)
    | .collection _ => malformed) []

/-- The only entry of a mapping. -/
def readPair (n : Nat) : Builder (Slot × Slot) := do
  match ← mappingEntries n with
  | [(k, v)] => return (← slot k, ← slot v)
  | _ => malformed

/-- The items of a sequence; other nodes have none. -/
def sequenceItems (n : Nat) : Builder (List Nat) := do
  match ← node n with
  | .sequence _ items => return items
  | _ => malformed

/-- What a collection made of a node holds. -/
def fill (fuel n : Nat) : Builder Collection := do
  match (← node n).tag with
  | .mapping => return .map (← readEntries fuel n)
  | .set => return .set (Members.shown ((← readEntries fuel n).map (·.1)))
  | .sequence => return .list (← (← sequenceItems n).mapM slot)
  | _ => return .pairs (← (← sequenceItems n).mapM readPair)

/-- Fills collections, those first that were met first. -/
def fillAll (merges : Nat) : (fuel : Nat) → Builder Unit
  | 0 => return
  | fuel + 1 => do
    match (← get).waiting with
    | [] => return
    | (number, n) :: rest =>
      modify fun c => { c with waiting := rest }
      let filled ← fill merges n
      modify fun c => { c with collections := c.collections.setIfInBounds number filled }
      fillAll merges fuel

/-- What stands for a node and for all nodes in it. Each merge uses up a merge key for good, so
merges are no deeper than there are entries; each node is filled once at most. -/
def document (root : Nat) : Builder Slot := do
  let nodes := (← get).nodes
  let s ← slot root
  fillAll (nodes.foldl (fun count n => count + n.entries.length) 1) (nodes.size + 1)
  return s

end Builder

/-- The number of mappings around the parts of a document that are written out on their own. -/
def outlineDepth : Nat := 3

/-- The value of a text that holds one document at most; null for an empty one. -/
def read (s : String) : Except Error Value := do
  match ← (Graph.ofString? s).mapError .fault with
  | none => return .null
  | some g =>
    let start : Construction := { nodes := g.nodes, made := Array.replicate g.nodes.size none }
    let (root, c) ← (Builder.document g.root).run start
    let unfolded : Collection.Unfolded := Array.replicate c.collections.size none
    let (v, _) := (Collection.outline c.collections outlineDepth root).run unfolded
    return v

end RowQuery.Yaml
