/-
RuleLint/Yaml/Compose.lean

From the tokens of a document to its nodes.  The reader takes tokens one by one, so of
two errors the one that comes up first in the order of the tokens is the one that is
told.  The tags of plain scalars are found by a function that is given.

Every call lowers a count; as each round of a loop consumes a token and every collection
begins with one, the count that `compose` starts with is always enough.
-/
import RuleLint.Yaml.Node
import RuleLint.Yaml.Scan

namespace RuleLint.Yaml

/-- What the composer knows. -/
structure Composer where
  tokens : List Token
  /-- What stands behind the last token. -/
  failure : Option Failure
  graph : Graph
  anchors : List (String × NodeId)
  handles : List (String × String)

abbrev Compose := StateT Composer (Except Failure)

/-- Tag handles that need not be declared. -/
def defaultHandles : List (String × String) :=
  [("!", "!"), ("!!", "tag:yaml.org,2002:")]

/-- The tag of texts. -/
def textTag : String := "tag:yaml.org,2002:str"

/-- The tag of sequences. -/
def sequenceTag : String := "tag:yaml.org,2002:seq"

/-- The tag of mappings. -/
def mappingTag : String := "tag:yaml.org,2002:map"

namespace Compose

/-! ### Tokens -/

/-- A token that stands behind the end of every document. -/
def endToken : Token := ⟨.streamEnd, ⟨0, 0, 0⟩, ⟨0, 0, 0⟩⟩

/-- The token in front. -/
def peek : Compose Token := do
  let s ← get
  match s.tokens, s.failure with
  | t :: _, _ => return t
  | [], some e => throw e
  | [], none => return endToken

/-- Takes the token in front. -/
def take : Compose Token := do
  let t ← peek
  modify fun s => { s with tokens := s.tokens.tail }
  return t

/-- Throws an error of the parser. -/
def refuse {α : Type} (context : Option (Context × Mark)) (problem : Problem)
    (at_ : Mark) : Compose α :=
  throw (.marked ⟨.parsing, context.map (·.1), context.map (·.2), problem, at_⟩)

/-! ### Nodes -/

/-- Adds a node. -/
def addNode (n : Node) : Compose NodeId := do
  let s ← get
  set { s with graph := s.graph.push n }
  return s.graph.size

/-- Sets what a node holds. -/
def fillNode (i : NodeId) (content : Content) : Compose Unit :=
  modify fun s => { s with graph := s.graph.modify i fun n => { n with content } }

/-- An empty plain scalar. -/
def emptyScalar (resolve : String → String) (at_ : Mark) : Compose NodeId :=
  addNode ⟨resolve "", .scalar "", at_⟩

/-- Refuses an anchor that there is already. -/
def checkAnchor (anchor : Option String) (start : Mark) : Compose Unit := do
  match anchor with
  | none => return ()
  | some name =>
    let s ← get
    match s.anchors.lookup name with
    | some i =>
      throw (.marked ⟨.composing, some (.duplicateAnchor name),
        some (s.graph.node i).start, .secondOccurrence, start⟩)
    | none => return ()

/-- Adds a node and remembers its anchor. -/
def addAnchored (anchor : Option String) (n : Node) : Compose NodeId := do
  checkAnchor anchor n.start
  let i ← addNode n
  match anchor with
  | some name => modify fun s => { s with anchors := (name, i) :: s.anchors }
  | none => pure ()
  return i

/-- What stands in front of a node. -/
structure Properties where
  anchor : Option String
  tag : Option (Option String × String)
  /-- Where the properties start, if there are any. -/
  start : Option Mark
  tagMark : Mark

/-- The anchor and the tag in front of a node, in either order. -/
def properties : Compose Properties := do
  let t ← peek
  match t.kind with
  | .anchor name =>
    discard take
    let u ← peek
    match u.kind with
    | .tag handle suffix =>
      discard take
      return ⟨some name, some (handle, suffix), some t.start, u.start⟩
    | _ => return ⟨some name, none, some t.start, t.start⟩
  | .tag handle suffix =>
    discard take
    let u ← peek
    match u.kind with
    | .anchor name =>
      discard take
      return ⟨some name, some (handle, suffix), some t.start, t.start⟩
    | _ => return ⟨none, some (handle, suffix), some t.start, t.start⟩
  | _ => return ⟨none, none, none, t.start⟩

/-- The full tag of a node. -/
def fullTag (p : Properties) : Compose (Option String) := do
  match p.tag with
  | none => return none
  | some (none, suffix) => return some suffix
  | some (some handle, suffix) =>
    match (← get).handles.lookup handle with
    | some uri => return some (uri ++ suffix)
    | none =>
        refuse (some (.node, p.start.getD p.tagMark)) (.undefinedHandle handle) p.tagMark

/-- Whether a tag leaves the choice to the content. -/
def isOpenTag (tag : Option String) : Bool :=
  tag == none || tag == some "!"

/-- The tag of a scalar. -/
def scalarTag (resolve : String → String) (tag : Option String) (text : String)
    (plain : Bool) : String :=
  match tag with
  | none => if plain then resolve text else textTag
  | some "!" => resolve text
  | some t => t

/-- The tag of a collection. -/
def collectionTag (tag : Option String) (default : String) : String :=
  match tag with
  | none | some "!" => default
  | some t => t

/-! ### The grammar -/

mutual

/-- A node; `block` allows block collections, and `indentless` a sequence whose dashes
are not indented. -/
def node (resolve : String → String) : Nat → Bool → Bool → Compose NodeId
  | 0, _, _ => return 0
  | n + 1, block, indentless => do
    let t ← peek
    match t.kind with
    | .alias name =>
      discard take
      match (← get).anchors.lookup name with
      | some i => return i
      | none => throw (.marked ⟨.composing, none, none, .undefinedAlias name, t.start⟩)
    | _ =>
      let p ← properties
      let tag ← fullTag p
      let t ← peek
      let start := p.start.getD t.start
      let collection (content : Content) (default : String) : Compose NodeId :=
        addAnchored p.anchor ⟨collectionTag tag default, content, start⟩
      match t.kind, block with
      | .blockEntry, _ =>
        if indentless then
          let i ← collection (.sequence []) sequenceTag
          fillNode i (.sequence (← indentlessEntries resolve n))
          return i
        else if p.start.isSome then
          addAnchored p.anchor
            ⟨scalarTag resolve tag "" (isOpenTag tag), .scalar "", start⟩
        else
          refuse (some (if block then .blockNode else .flowNode, start))
            (.contentExpected t.kind.name) t.start
      | .scalar text plain, _ =>
        discard take
        addAnchored p.anchor ⟨scalarTag resolve tag text plain, .scalar text, start⟩
      | .halves codes, _ =>
        let text := String.ofList (Text.joinHalves codes)
        discard take
        addAnchored p.anchor ⟨scalarTag resolve tag text false, .halves codes, start⟩
      | .flowSequenceStart, _ =>
        let i ← collection (.sequence []) sequenceTag
        discard take
        fillNode i (.sequence (← flowItems resolve n t.start true))
        return i
      | .flowMappingStart, _ =>
        let i ← collection (.mapping []) mappingTag
        discard take
        fillNode i (.mapping (← flowEntries resolve n t.start true))
        return i
      | .blockSequenceStart, true =>
        let i ← collection (.sequence []) sequenceTag
        discard take
        fillNode i (.sequence (← blockItems resolve n t.start))
        return i
      | .blockMappingStart, true =>
        let i ← collection (.mapping []) mappingTag
        discard take
        fillNode i (.mapping (← blockEntries resolve n t.start))
        return i
      | _, _ =>
        if p.start.isSome then
          addAnchored p.anchor
            ⟨scalarTag resolve tag "" (isOpenTag tag), .scalar "", start⟩
        else
          refuse (some (if block then .blockNode else .flowNode, start))
            (.contentExpected t.kind.name) t.start

/-- The entries of a block sequence that was opened at `opened`. -/
def blockItems (resolve : String → String) : Nat → Mark → Compose (List NodeId)
  | 0, _ => return []
  | n + 1, opened => do
    let t ← take
    match t.kind with
    | .blockEntry =>
      let i ← match (← peek).kind with
        | .blockEntry | .blockEnd => emptyScalar resolve t.stop
        | _ => node resolve n true false
      return i :: (← blockItems resolve n opened)
    | .blockEnd => return []
    | k => refuse (some (.blockCollection, opened)) (.blockEndExpected k.name) t.start

/-- The entries of a sequence whose dashes are not indented. -/
def indentlessEntries (resolve : String → String) : Nat → Compose (List NodeId)
  | 0 => return []
  | n + 1 => do
    let t ← peek
    match t.kind with
    | .blockEntry =>
      discard take
      let i ← match (← peek).kind with
        | .blockEntry | .key | .value | .blockEnd => emptyScalar resolve t.stop
        | _ => node resolve n true false
      return i :: (← indentlessEntries resolve n)
    | _ => return []

/-- The entries of a block mapping that was opened at `opened`. -/
def blockEntries (resolve : String → String) :
    Nat → Mark → Compose (List (NodeId × NodeId))
  | 0, _ => return []
  | n + 1, opened => do
    let t ← peek
    match t.kind with
    | .key =>
      discard take
      let k ← match (← peek).kind with
        | .key | .value | .blockEnd => emptyScalar resolve t.stop
        | _ => node resolve n true true
      let u ← peek
      let v ← match u.kind with
        | .value => do
          discard take
          match (← peek).kind with
          | .key | .value | .blockEnd => emptyScalar resolve u.stop
          | _ => node resolve n true true
        | _ => emptyScalar resolve u.start
      return (k, v) :: (← blockEntries resolve n opened)
    | .blockEnd =>
      discard take
      return []
    | kind => refuse (some (.blockMapping, opened)) (.blockEndExpected kind.name) t.start

/-- The items of a flow sequence that was opened at `opened`. -/
def flowItems (resolve : String → String) : Nat → Mark → Bool → Compose (List NodeId)
  | 0, _, _ => return []
  | n + 1, opened, first => do
    let t ← peek
    if t.kind = .flowSequenceEnd then
      discard take
      return []
    if !first then
      if t.kind = .flowEntry then discard take
      else
        refuse (some (.flowSequence, opened)) (.sequenceEndExpected t.kind.name) t.start
    let t ← peek
    match t.kind with
    | .key =>
      let i ← addNode ⟨mappingTag, .mapping [], t.start⟩
      discard take
      let k ← match (← peek).kind with
        | .value | .flowEntry | .flowSequenceEnd => emptyScalar resolve t.stop
        | _ => node resolve n false false
      let u ← peek
      let v ← match u.kind with
        | .value => do
          discard take
          match (← peek).kind with
          | .flowEntry | .flowSequenceEnd => emptyScalar resolve u.stop
          | _ => node resolve n false false
        | _ => emptyScalar resolve u.start
      fillNode i (.mapping [(k, v)])
      return i :: (← flowItems resolve n opened false)
    | .flowSequenceEnd =>
      discard take
      return []
    | _ =>
      let i ← node resolve n false false
      return i :: (← flowItems resolve n opened false)

/-- The entries of a flow mapping that was opened at `opened`. -/
def flowEntries (resolve : String → String) :
    Nat → Mark → Bool → Compose (List (NodeId × NodeId))
  | 0, _, _ => return []
  | n + 1, opened, first => do
    let t ← peek
    if t.kind = .flowMappingEnd then
      discard take
      return []
    if !first then
      if t.kind = .flowEntry then discard take
      else refuse (some (.flowMapping, opened)) (.mappingEndExpected t.kind.name) t.start
    let t ← peek
    match t.kind with
    | .key =>
      discard take
      let k ← match (← peek).kind with
        | .value | .flowEntry | .flowMappingEnd => emptyScalar resolve t.stop
        | _ => node resolve n false false
      let u ← peek
      let v ← match u.kind with
        | .value => do
          discard take
          match (← peek).kind with
          | .flowEntry | .flowMappingEnd => emptyScalar resolve u.stop
          | _ => node resolve n false false
        | _ => emptyScalar resolve u.start
      return (k, v) :: (← flowEntries resolve n opened false)
    | .flowMappingEnd =>
      discard take
      return []
    | _ =>
      let k ← node resolve n false false
      let v ← emptyScalar resolve (← peek).start
      return (k, v) :: (← flowEntries resolve n opened false)

end

/-! ### Documents -/

/-- Takes the directives in front of a document; `n` bounds their number. -/
def directives : Nat → Option Unit → List (String × String) →
    Compose (List (String × String))
  | 0, _, handles => return handles
  | n + 1, version, handles => do
    let t ← peek
    match t.kind with
    | .directive d =>
      discard take
      match d with
      | .version major _ =>
        if version.isSome then refuse none .duplicateVersion t.start
        if major ≠ 1 then refuse none .incompatibleVersion t.start
        directives n (some ()) handles
      | .handle name uri =>
        if (handles.lookup name).isSome then refuse none (.duplicateHandle name) t.start
        directives n version (handles ++ [(name, uri)])
      | .other _ => directives n version handles
    | _ => return handles

/-- Skips marks for the end of a document; `n` bounds their number. -/
def skipDocumentEnds : Nat → Compose Unit
  | 0 => return ()
  | n + 1 => do
    if (← peek).kind = .documentEnd then
      discard take
      skipDocumentEnds n

/-- The start of a further document: where it starts, or nothing at the end of the
stream. -/
def documentStart (n : Nat) : Compose (Option Mark) := do
  skipDocumentEnds n
  let t ← peek
  if t.kind = .streamEnd then return none
  let handles ← directives n none []
  modify fun s => { s with handles := handles ++ defaultHandles }
  let u ← peek
  if u.kind ≠ .documentStart then refuse none (.documentStartExpected u.kind.name) u.start
  discard take
  return some t.start

/-- The content of a document that was started by a mark. -/
def documentContent (resolve : String → String) (n : Nat) : Compose NodeId := do
  let t ← peek
  match t.kind with
  | .directive _ | .documentStart | .documentEnd | .streamEnd =>
      emptyScalar resolve t.start
  | _ => node resolve n true false

/-- The first document, if there is one. -/
def firstDocument (resolve : String → String) (n : Nat) : Compose (Option NodeId) := do
  let t ← peek
  match t.kind with
  | .directive _ | .documentStart | .streamEnd =>
    match ← documentStart n with
    | none => return none
    | some _ => return some (← documentContent resolve n)
  | _ =>
    modify fun s => { s with handles := defaultHandles }
    return some (← node resolve n true false)

/-- The only document of a stream. -/
def singleDocument (resolve : String → String) (n : Nat) : Compose (Option NodeId) := do
  discard take
  match ← firstDocument resolve n with
  | none => return none
  | some i =>
    if (← peek).kind = .documentEnd then discard take
    match ← documentStart n with
    | none => return some i
    | some m =>
      let start := ((← get).graph.node i).start
      throw (.marked ⟨.composing, some .singleDocument, some start, .anotherDocument, m⟩)

end Compose

/-- The nodes of a document with the number of its root, or nothing for an empty one. -/
def compose (resolve : String → String) (ts : Tokens) :
    Except Failure (Option (NodeId × Graph)) := do
  let start : Composer := ⟨ts.list, ts.failure, #[], [], []⟩
  let (root, s) ← (Compose.singleDocument resolve (2 * ts.list.length + 5)).run start
  return root.map fun i => (i, s.graph)

end RuleLint.Yaml
