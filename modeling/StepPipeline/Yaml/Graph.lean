import StepPipeline.Yaml.Node
import StepPipeline.Yaml.Tokens

/-!
Reading a document from tokens. A text holds one document or none; what follows the document may be
nothing but marks of its end.
-/

set_option autoImplicit false

namespace StepPipeline.Yaml

structure Reading where
  /-- The tokens not yet read. -/
  tokens : List Token
  /-- What is wrong with the text after them. -/
  fault : Option Fault
  /-- What the tag handles stand for. -/
  handles : List (String × String)
  /-- The nodes that have an anchor. -/
  anchors : List (String × Nat)
  nodes : Array Node

abbrev Reader := StateT Reading (Except Fault)

namespace Reader

def defaultHandles : List (String × String) :=
  [("!", "!"), ("!!", Tag.knownStem)]

def refuse {α : Type} : Reader α :=
  throw .malformed

/-- The next token; `none` at the end of the text. -/
def peek : Reader (Option Token) := do
  let reading ← get
  match reading.tokens, reading.fault with
  | token :: _, _ => return some token
  | [], some fault => throw fault
  | [], none => return none

def advance : Reader Unit :=
  modify fun reading => { reading with tokens := reading.tokens.drop 1 }

/-- Goes past the next token if it is a given one, and tells whether it is. -/
def accept (token : Token) : Reader Bool := do
  if (← peek) = some token then
    advance
    return true
  else return false

def nextIsOneOf (tokens : List Token) : Reader Bool := do
  return (← peek).any tokens.contains

def add (node : Node) : Reader Nat := do
  let n := (← get).nodes.size
  modify fun reading => { reading with nodes := reading.nodes.push node }
  return n

/-- Names a node by an anchor, which names no other. -/
def name (anchor : Option String) (n : Nat) : Reader Unit := do
  if let some anchor := anchor then
    if (← get).anchors.any fun entry => entry.1 == anchor then refuse
    else modify fun reading => { reading with anchors := (anchor, n) :: reading.anchors }

/-- Reads a collection: it has its number and name before its content is read. -/
def collection (anchor : Option String) (tag : Tag) (read : Reader Content) : Reader Nat := do
  let n ← add ⟨tag, .sequence []⟩
  name anchor n
  let content ← read
  modify fun reading => { reading with nodes := reading.nodes.modify n fun _ => ⟨tag, content⟩ }
  return n

structure Labels where
  anchor : Option String := none
  /-- The tag in full; an exclamation mark alone asks for the tag that the form shows. -/
  tag : Option String := none

namespace Labels

def isSome (labels : Labels) : Bool :=
  labels.anchor.isSome || labels.tag.isSome

/-- Is the tag left to the node's form? -/
def leavesTag (labels : Labels) : Bool :=
  labels.tag.isNone || labels.tag == some "!"

/-- The tag of a collection that has the given one if nothing else is said. -/
def tagOr (labels : Labels) (usual : Tag) : Tag :=
  if labels.leavesTag then usual else Tag.ofName (labels.tag.getD "")

def scalarTag (labels : Labels) (text : List Nat) (isBare : Bool) : Tag :=
  if labels.tag == some "!" || (labels.tag.isNone && isBare) then
    ((chars? text).map Tag.ofScalar).getD .text
  else labels.tagOr .text

end Labels

def readAnchor : Reader (Option String) := do
  match ← peek with
  | some (.anchor name) =>
    advance
    return some name
  | _ => return none

def readTag : Reader (Option (Option String × String)) := do
  match ← peek with
  | some (.tag handle suffix) =>
    advance
    return some (handle, suffix)
  | _ => return none

def fullTag : Option String × String → Reader String
  | (none, suffix) => return suffix
  | (some handle, suffix) => do
    match (← get).handles.find? fun entry => entry.1 == handle with
    | some entry => return entry.2 ++ suffix
    | none => refuse

/-- Reads the labels of a node, in either order. -/
def readLabels : Reader Labels := do
  let before ← readAnchor
  let tag ← readTag
  let after ← if before.isNone && tag.isSome then readAnchor else pure none
  let full ← tag.mapM fullTag
  return { anchor := before.or after, tag := full }

def addScalar (labels : Labels) (text : List Nat) (isBare : Bool) : Reader Nat := do
  let n ← add ⟨labels.scalarTag text isBare, .scalar text⟩
  name labels.anchor n
  return n

/-- Adds the node for something left out. -/
def addAbsent : Reader Nat :=
  add Node.absent

mutual

/-- Reads a node. Only some nodes may be indented collections, and only some of those may be
sequences that are not indented. `fuel` bounds the depth. -/
def readNode : (fuel : Nat) → (isBlock allowsFlat : Bool) → Reader Nat
  | 0, _, _ => refuse
  | fuel + 1, isBlock, allowsFlat => do
    if let some (.alias name) ← peek then
      advance
      match (← get).anchors.find? fun entry => entry.1 == name with
      | some entry => return entry.2
      | none => refuse
    else
      let labels ← readLabels
      let sequence (read : Reader (List Nat)) : Reader Nat :=
        collection labels.anchor (labels.tagOr .sequence) (Content.sequence <$> read)
      let mapping (read : Reader (List (Nat × Nat))) : Reader Nat :=
        collection labels.anchor (labels.tagOr .mapping) (Content.mapping <$> read)
      match ← peek with
      | some .entry =>
        if allowsFlat then sequence (readFlatEntries fuel)
        else if labels.isSome then addScalar labels [] true
        else refuse
      | some (.scalar text isBare) =>
        advance
        addScalar labels text isBare
      | some .flowSequence =>
        advance
        sequence (readFlowItems fuel true)
      | some .flowMapping =>
        advance
        mapping (readFlowPairs fuel true)
      | some .blockSequence =>
        if isBlock then
          advance
          sequence (readEntries fuel)
        else if labels.isSome then addScalar labels [] true
        else refuse
      | some .blockMapping =>
        if isBlock then
          advance
          mapping (readPairs fuel)
        else if labels.isSome then addScalar labels [] true
        else refuse
      | _ => if labels.isSome then addScalar labels [] true else refuse

/-- Reads a node, unless one of a few tokens shows that it is left out. -/
def readUnless : (fuel : Nat) → (stops : List Token) → (isBlock allowsFlat : Bool) → Reader Nat
  | 0, _, _, _ => refuse
  | fuel + 1, stops, isBlock, allowsFlat => do
    if ← nextIsOneOf stops then addAbsent else readNode fuel isBlock allowsFlat

def readValue : (fuel : Nat) → (stops : List Token) → (isBlock : Bool) → Reader Nat
  | 0, _, _ => refuse
  | fuel + 1, stops, isBlock => do
    if ← accept .value then readUnless fuel stops isBlock isBlock else addAbsent

def readEntries : (fuel : Nat) → Reader (List Nat)
  | 0 => refuse
  | fuel + 1 => do
    if ← accept .entry then
      let item ← readUnless fuel [.entry, .blockEnd] true false
      let items ← readEntries fuel
      return item :: items
    else if ← accept .blockEnd then return []
    else refuse

/-- Reads the items of a sequence that is indented no further than its key. -/
def readFlatEntries : (fuel : Nat) → Reader (List Nat)
  | 0 => refuse
  | fuel + 1 => do
    if ← accept .entry then
      let item ← readUnless fuel [.entry, .key, .value, .blockEnd] true false
      let items ← readFlatEntries fuel
      return item :: items
    else return []

def readPairs : (fuel : Nat) → Reader (List (Nat × Nat))
  | 0 => refuse
  | fuel + 1 => do
    if ← accept .key then
      let key ← readUnless fuel [.key, .value, .blockEnd] true true
      let value ← readValue fuel [.key, .value, .blockEnd] true
      let pairs ← readPairs fuel
      return (key, value) :: pairs
    else if ← accept .blockEnd then return []
    else refuse

/-- Reads the items of a sequence in brackets; an item may be a mapping of one entry. -/
def readFlowItems : (fuel : Nat) → (isFirst : Bool) → Reader (List Nat)
  | 0, _ => refuse
  | fuel + 1, isFirst => do
    if ← accept .flowSequenceEnd then return []
    else
      let goesOn ← if isFirst then pure true else accept .comma
      if !goesOn then refuse
      else if ← accept .flowSequenceEnd then return []
      else
        let item ←
          if ← accept .key then
            collection none .mapping do
              let key ← readUnless fuel [.value, .comma, .flowSequenceEnd] false false
              let value ← readValue fuel [.comma, .flowSequenceEnd] false
              return .mapping [(key, value)]
          else readNode fuel false false
        let items ← readFlowItems fuel false
        return item :: items

/-- Reads the entries of a mapping in braces; an entry may be a key alone. -/
def readFlowPairs : (fuel : Nat) → (isFirst : Bool) → Reader (List (Nat × Nat))
  | 0, _ => refuse
  | fuel + 1, isFirst => do
    if ← accept .flowMappingEnd then return []
    else
      let goesOn ← if isFirst then pure true else accept .comma
      if !goesOn then refuse
      else if ← accept .flowMappingEnd then return []
      else
        let pair ←
          if ← accept .key then
            let key ← readUnless fuel [.value, .comma, .flowMappingEnd] false false
            let value ← readValue fuel [.comma, .flowMappingEnd] false
            pure (key, value)
          else
            let key ← readNode fuel false false
            let value ← addAbsent
            pure (key, value)
        let pairs ← readFlowPairs fuel false
        return pair :: pairs

end

/-- The directives of a document: at most one version, and handles that differ. -/
structure Directives where
  hasVersion : Bool := false
  handles : List (String × String) := []

/-- Reads the directives of a document; `fuel` bounds their number. -/
def readDirectives : (fuel : Nat) → Directives → Reader Directives
  | 0, directives => return directives
  | fuel + 1, directives => do
    match ← peek with
    | some (.directive line) =>
      advance
      match line with
      | .version major =>
        if directives.hasVersion || major != 1 then refuse
        else readDirectives fuel { directives with hasVersion := true }
      | .handle name stem =>
        if directives.handles.any fun entry => entry.1 == name then refuse
        else readDirectives fuel { directives with handles := (name, stem) :: directives.handles }
      | .unknown => readDirectives fuel directives
    | _ => return directives

def endsDocument : Option Token → Bool
  | none => true
  | some (.directive _) => true
  | some token => token = .documentStart || token = .documentEnd

def readRoot : Reader (Option Nat) := do
  let fuel := 4 * (← get).tokens.length + 4
  match ← peek with
  | none => return none
  | some token =>
    if token != .documentEnd && endsDocument (some token) then
      let directives ← readDirectives fuel {}
      modify fun reading => { reading with handles := directives.handles ++ defaultHandles }
      if ← accept .documentStart then
        if endsDocument (← peek) then some <$> addAbsent
        else some <$> readNode fuel true false
      else refuse
    else some <$> readNode fuel true false

/-- Reads marks of the end of the document up to the end of the text; `fuel` bounds their
number. -/
def readEnd : (fuel : Nat) → Reader Unit
  | 0 => refuse
  | fuel + 1 => do
    match ← peek with
    | none => return ()
    | some .documentEnd =>
      advance
      readEnd fuel
    | some _ => refuse

def readGraph : Reader (Option Graph) := do
  match ← readRoot with
  | none => return none
  | some root =>
    readEnd ((← get).tokens.length + 1)
    return some ⟨(← get).nodes, root⟩

end Reader

def Graph.ofSource? (source : Source) : Except Fault (Option Graph) :=
  let tokens := Tokens.ofSource source
  Reader.readGraph.run' ⟨tokens.items, tokens.fault, Reader.defaultHandles, [], #[]⟩

end StepPipeline.Yaml
