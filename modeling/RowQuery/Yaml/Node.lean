import RowQuery.Yaml.Tag
import RowQuery.Yaml.Token

/-!
The nodes of a document, read from its tokens and known by their numbers. An anchor names a node
once, from the start of the node on; an alias is the number of the node its anchor named, which may
be one that the alias lies in.
-/

namespace RowQuery.Yaml

/-- A tagged text, or a tagged collection of nodes. -/
inductive Node
  | scalar (tag : Tag) (text : String)
  | sequence (tag : Tag) (items : List Nat)
  | mapping (tag : Tag) (entries : List (Nat × Nat))
  deriving Repr

instance : Inhabited Node := ⟨.scalar .null ""⟩

/-- The nodes of a document and the number of its root. -/
structure Graph where
  nodes : Array Node
  root : Nat

/-- The text still to be read, what is known of tags and anchors, and the nodes so far. -/
structure Reading where
  scan : Scan
  handles : List (String × String) := []
  anchors : List (String × Nat) := []
  nodes : Array Node := #[]

abbrev Reader (α : Type) := StateT Reading (Except Fault) α

/-- The tag of a text that is written with the tag of a URI, or none. A text in quotes has no look;
the tag `!` gives it one. -/
def Tag.ofScalar (uri : Option String) (plain : Bool) (text : String) : Tag :=
  match uri with
  | none => if plain then Tag.ofPlain text else .text
  | some "!" => Tag.ofPlain text
  | some uri => Tag.ofUri uri

/-- The tag of a collection of some kind that is written with the tag of a URI, or none. -/
def Tag.ofCollection (uri : Option String) (kind : Tag) : Tag :=
  match uri with
  | none => kind
  | some "!" => kind
  | some uri => Tag.ofUri uri

namespace Reader

def malformed {α : Type} : Reader α := throw .yaml

def scanning {α : Type} (a : Scanner α) : Reader α := do
  let r ← get
  let (x, scan) ← (a.run r.scan : Except Fault (α × Scan))
  set { r with scan }
  return x

def peek : Reader Token := scanning Scanner.peekToken

def skip : Reader Unit := scanning Scanner.takeToken

/-- Passes a token that has to stand here. -/
def expect (t : Token) : Reader Unit := do
  if (← peek) = t then skip else malformed

/-- Passes a token if it stands here. -/
def accept (t : Token) : Reader Bool := do
  if (← peek) = t then
    skip
    return true
  else return false

/-- A node that was not known before, with the anchor that names it. -/
def addNode (anchor : Option String) (n : Node) : Reader Nat := do
  let r ← get
  let number := r.nodes.size
  let anchors := match anchor with
    | some name => (name, number) :: r.anchors
    | none => r.anchors
  set { r with nodes := r.nodes.push n, anchors }
  return number

def setNode (number : Nat) (n : Node) : Reader Unit :=
  modify fun r => { r with nodes := r.nodes.setIfInBounds number n }

/-- A text node without a tag. -/
def plainNode (text : String) : Reader Nat := addNode none (.scalar (Tag.ofPlain text) text)

/-- The handles every document starts with. -/
def defaultHandles : List (String × String) :=
  [("!", "!"), ("!!", "tag:yaml.org,2002:")]

/-- A tag written out. -/
def resolveTag (handle : Option String) (suffix : String) : Reader String := do
  match handle with
  | none => return suffix
  | some h => match (← get).handles.find? fun p => p.1 == h with
    | some p => return p.2 ++ suffix
    | none => malformed

/-- The anchor and the tag before a node, in either order. -/
def properties : Reader (Option String × Option String) := do
  match ← peek with
  | .anchor name =>
    skip
    match ← peek with
    | .tag handle suffix => skip; return (some name, some (← resolveTag handle suffix))
    | _ => return (some name, none)
  | .tag handle suffix =>
    skip
    match ← peek with
    | .anchor name => skip; return (some name, some (← resolveTag handle suffix))
    | _ => return (none, some (← resolveTag handle suffix))
  | _ => return (none, none)

/-- An anchor may not be given twice. -/
def checkAnchor (anchor : Option String) : Reader Unit := do
  match anchor with
  | none => return
  | some name => if (← get).anchors.any fun a => a.1 == name then malformed

def aliased (name : String) : Reader Nat := do
  match (← get).anchors.find? fun a => a.1 == name with
  | some a => return a.2
  | none => malformed

/-- A sequence whose items `read` gives; it has its number before they are read. -/
def sequence (anchor uri : Option String) (read : Reader (List Nat)) : Reader Nat := do
  let tag := Tag.ofCollection uri .sequence
  let number ← addNode anchor (.sequence tag [])
  setNode number (.sequence tag (← read))
  return number

/-- A mapping whose entries `read` gives; it has its number before they are read. -/
def mapping (anchor uri : Option String) (read : Reader (List (Nat × Nat))) : Reader Nat := do
  let tag := Tag.ofCollection uri .mapping
  let number ← addNode anchor (.mapping tag [])
  setNode number (.mapping tag (← read))
  return number

/-- A node without a text, which only an anchor or a tag makes. -/
def emptyNode (anchor uri : Option String) : Reader Nat := do
  if anchor.isNone && uri.isNone then malformed
  addNode anchor (.scalar (Tag.ofScalar uri true "") "")

mutual

/-- A node. A block may only start where `block` says so, and a sequence that is not indented
further only after a key. -/
def node (block indentless : Bool) : (fuel : Nat) → Reader Nat
  | 0 => malformed
  | fuel + 1 => do
    match ← peek with
    | .alias name => skip; aliased name
    | _ => do
      let (anchor, uri) ← properties
      content block indentless anchor uri fuel

/-- A node after its properties. -/
def content (block indentless : Bool) (anchor uri : Option String) : (fuel : Nat) → Reader Nat
  | 0 => malformed
  | fuel + 1 => do
    let t ← peek
    checkAnchor anchor
    match t with
    | .scalar text plain =>
      skip
      addNode anchor (.scalar (Tag.ofScalar uri plain text) text)
    | .flowSequence => skip; sequence anchor uri (flowItems true fuel)
    | .flowMapping => skip; mapping anchor uri (flowEntries true fuel)
    | .blockEntry =>
      if indentless then sequence anchor uri (indentlessItems fuel) else emptyNode anchor uri
    | .blockSequence =>
      if block then
        skip
        sequence anchor uri (blockItems fuel)
      else emptyNode anchor uri
    | .blockMapping =>
      if block then
        skip
        mapping anchor uri (blockEntries fuel)
      else emptyNode anchor uri
    | _ => emptyNode anchor uri

/-- A node, or one without a text before one of some tokens. -/
def nodeUnless (stops : List Token) (block indentless : Bool) : (fuel : Nat) → Reader Nat
  | 0 => malformed
  | fuel + 1 => do
    if stops.contains (← peek) then plainNode "" else node block indentless fuel

/-- The items of a block sequence up to its end. -/
def blockItems : (fuel : Nat) → Reader (List Nat)
  | 0 => malformed
  | fuel + 1 => do
    if ← accept .blockEntry then
      let n ← nodeUnless [.blockEntry, .blockEnd] true false fuel
      return n :: (← blockItems fuel)
    else
      expect .blockEnd
      return []

/-- The items of a sequence that is not indented further than its key. -/
def indentlessItems : (fuel : Nat) → Reader (List Nat)
  | 0 => malformed
  | fuel + 1 => do
    if ← accept .blockEntry then
      let n ← nodeUnless [.blockEntry, .key, .value, .blockEnd] true false fuel
      return n :: (← indentlessItems fuel)
    else return []

/-- The entries of a block mapping up to its end. -/
def blockEntries : (fuel : Nat) → Reader (List (Nat × Nat))
  | 0 => malformed
  | fuel + 1 => do
    if (← peek) = .blockEnd then
      skip
      return []
    else
      expect .key
      let k ← nodeUnless [.key, .value, .blockEnd] true true fuel
      let v ← if ← accept .value then nodeUnless [.key, .value, .blockEnd] true true fuel
        else plainNode ""
      return (k, v) :: (← blockEntries fuel)

/-- The items of a sequence in brackets; a key in it makes a mapping of one entry. -/
def flowItems (first : Bool) : (fuel : Nat) → Reader (List Nat)
  | 0 => malformed
  | fuel + 1 => do
    if ← accept .flowSequenceEnd then return []
    if !first then expect .flowEntry
    if ← accept .key then
      let n ← mapping none none (flowPair fuel)
      return n :: (← flowItems false fuel)
    else if ← accept .flowSequenceEnd then return []
    else
      let n ← node false false fuel
      return n :: (← flowItems false fuel)

/-- The only entry of a mapping in brackets, after its key mark. -/
def flowPair : (fuel : Nat) → Reader (List (Nat × Nat))
  | 0 => malformed
  | fuel + 1 => do
    let k ← nodeUnless [.value, .flowEntry, .flowSequenceEnd] false false fuel
    let v ← if ← accept .value then nodeUnless [.flowEntry, .flowSequenceEnd] false false fuel
      else plainNode ""
    return [(k, v)]

/-- The entries of a mapping in braces; an entry without a key mark is a key alone. -/
def flowEntries (first : Bool) : (fuel : Nat) → Reader (List (Nat × Nat))
  | 0 => malformed
  | fuel + 1 => do
    if ← accept .flowMappingEnd then return []
    if !first then expect .flowEntry
    if ← accept .key then
      let k ← nodeUnless [.value, .flowEntry, .flowMappingEnd] false false fuel
      let v ← if ← accept .value then nodeUnless [.flowEntry, .flowMappingEnd] false false fuel
        else plainNode ""
      return (k, v) :: (← flowEntries false fuel)
    else if ← accept .flowMappingEnd then return []
    else
      let k ← node false false fuel
      let v ← plainNode ""
      return (k, v) :: (← flowEntries false fuel)

end

/-- The directives before a document: a version at most, and handles of tags. -/
def directives (versioned : Bool) (handles : List (String × String)) :
    (fuel : Nat) → Reader (List (String × String))
  | 0 => malformed
  | fuel + 1 => do
    match ← peek with
    | .version major =>
      if versioned || major ≠ 1 then malformed
      skip
      directives true handles fuel
    | .handle name start =>
      if handles.any fun h => h.1 == name then malformed
      skip
      directives versioned ((name, start) :: handles) fuel
    | .directive => skip; directives versioned handles fuel
    | _ => return handles

def skipDocumentEnds : (fuel : Nat) → Reader Unit
  | 0 => return
  | fuel + 1 => do if ← accept .documentEnd then skipDocumentEnds fuel

/-- A document after its directives. -/
def explicitDocument (fuel : Nat) : Reader Nat := do
  let handles ← directives false [] fuel
  expect .documentStart
  modify fun r => { r with handles := handles ++ defaultHandles }
  match ← peek with
  | .version _ | .handle _ _ | .directive | .documentStart | .documentEnd | .streamEnd =>
    plainNode ""
  | _ => node true false fuel

/-- Nothing but directives may follow the only document, and they need a document of their own. -/
def expectEnd (fuel : Nat) : Reader Unit := do
  skipDocumentEnds fuel
  if (← peek) ≠ .streamEnd then
    let _ ← directives false [] fuel
    malformed

/-- The root of the only document of a text, none when there is none. -/
def document (fuel : Nat) : Reader (Option Nat) := do
  match ← peek with
  | .streamEnd => return none
  | .version _ | .handle _ _ | .directive | .documentStart => do
    let n ← explicitDocument fuel
    expectEnd fuel
    return some n
  | _ => do
    modify fun r => { r with handles := defaultHandles }
    let n ← node true false fuel
    expectEnd fuel
    return some n

end Reader

/-- The only document of a text, none when it holds none. Every token but the last has a character
of its own in the text or is one of three that a character brings along, and every call of a reader
is followed by one that takes a token at most four calls later. -/
def Graph.ofString? (s : String) : Except Fault (Option Graph) := do
  match Scan.ofString? s with
  | none => throw .yaml
  | some scan =>
    let (root, r) ← (Reader.document (20 * s.length + 50)).run { scan }
    return root.map fun root => { nodes := r.nodes, root }

end RowQuery.Yaml
