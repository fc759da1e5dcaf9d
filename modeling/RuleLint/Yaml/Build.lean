/-
RuleLint/Yaml/Build.lean

From the nodes of a document to its value.

Every node is built once, and a node that is referred to again is the same object.
Lists, mappings and sets are built in two steps: the object is there at once, and its
parts are built after everything that is already waiting.  So such a container may hold
itself, while a tuple or settings may not.  `shapes` says what a node has become, in
terms of other nodes; `assemble` turns shapes into a value at the end.

Before a mapping is built, the entries that it merges from other mappings are put in
front of its own.  Of two entries with the same key the later one counts, so own entries
win.
-/
import RuleLint.Host.Basic
import RuleLint.Path
import RuleLint.Regex.Parse
import RuleLint.XPath.Parse
import RuleLint.Yaml.Resolve

namespace RuleLint.Yaml

/-- What a node has become. -/
inductive Shape where
  | leaf (v : Value)
  | list (items : List NodeId)
  | tuple (items : List NodeId)
  | map (entries : List (NodeId × NodeId))
  | set (items : List NodeId)
  /-- A list of pairs. -/
  | pairs (entries : List (NodeId × NodeId))
  | settings (included excluded allowIgnore : NodeId)

/-- What is known while a document is built. -/
structure Site where
  registry : Registry
  /-- The name of the document. -/
  name : String

/-- How far the work on a document is. -/
structure Work where
  graph : Graph
  shapes : Array (Option Shape)
  /-- The nodes that are being built. -/
  active : List NodeId
  /-- The containers whose parts are still to be built, the latest first. -/
  pending : List (NodeId × Maker)

/-- Whether a node is a key that asks for merging. -/
def Graph.isMerge (g : Graph) (k : NodeId) : Bool :=
  (g.node k).tag == standardTag "merge"

/-- The number of entries that ask for merging. -/
def Graph.mergeCount (g : Graph) : Nat :=
  ((List.range g.size).flatMap g.entries).countP fun e => g.isMerge e.1

abbrev Build := StateT Work (Except Failure)

namespace Build

/-! ### Access -/

/-- The node with a number. -/
def node (i : NodeId) : Build Node := do
  return (← get).graph.node i

/-- Says what a node has become. -/
def setShape (i : NodeId) (s : Shape) : Build Unit :=
  modify fun w => { w with shapes := w.shapes.setIfInBounds i (some s) }

/-- Throws an error about a node. -/
def refuse {α : Type} (context : Option (Context × Mark)) (problem : Problem)
    (at_ : Mark) : Build α :=
  throw (.marked ⟨.constructing, context.map (·.1), context.map (·.2), problem, at_⟩)

/-- The text of a scalar, with halves of characters as they are shown.  A mapping
stands for the value of its key for values; `n` bounds the steps. -/
def scalarText : Nat → NodeId → Build String
  | 0, _ => return ""
  | n + 1, i => do
    let w ← get
    let nd := w.graph.node i
    match nd.content with
    | .scalar text => return text
    | .halves codes => return String.ofList (Text.joinHalves codes)
    | .mapping entries =>
      match entries.find? fun (k, _) => (w.graph.node k).tag == standardTag "value" with
      | some (_, v) => scalarText n v
      | none => refuse none (.nodeExpected "scalar" "mapping") nd.start
    | .sequence _ => refuse none (.nodeExpected "scalar" "sequence") nd.start

/-- The text of a scalar. -/
def text (i : NodeId) : Build String := do
  scalarText ((← get).graph.size + 1) i

/-- The items of a sequence. -/
def items (i : NodeId) : Build (List NodeId) := do
  let nd ← node i
  match nd.content with
  | .sequence items => return items
  | c => refuse none (.nodeExpected "sequence" c.kind) nd.start

/-! ### Merging -/

/-- Changes the entries of a mapping. -/
def setEntries (i : NodeId) (entries : List (NodeId × NodeId)) : Build Unit :=
  modify fun w => { w with graph := w.graph.modify i fun nd =>
    { nd with content := .mapping entries } }

/-- The entries of a mapping; other nodes have none. -/
def entriesOf (i : NodeId) : Build (List (NodeId × NodeId)) := do
  return (← get).graph.entries i

/-- Makes a key for values an ordinary text. -/
def asText (k : NodeId) : Build Unit :=
  modify fun w => { w with graph := w.graph.modify k fun nd =>
    { nd with tag := textTag } }

/-- The entries of a mapping that is merged into one that starts at a place; `follow`
merges what it merges itself. -/
def followed (follow : NodeId → Build Unit) (start : Mark) (s : NodeId) :
    Build (List (NodeId × NodeId)) := do
  let sub ← node s
  match sub.content with
  | .mapping _ =>
    follow s
    entriesOf s
  | c => refuse (some (.mapping, start)) (.mergeMappingExpected c.kind) sub.start

/-- What a merging entry with a value stands for: the entries of a mapping, or those of
mappings in a list, from the last to the first. -/
def mergedBy (follow : NodeId → Build Unit) (start : Mark) (v : NodeId) :
    Build (List (NodeId × NodeId)) := do
  let value ← node v
  match value.content with
  | .mapping _ => followed follow start v
  | .sequence subs => return (← subs.mapM (followed follow start)).reverse.flatten
  | .scalar _ | .halves _ =>
      refuse (some (.mapping, start)) (.mergeExpected "scalar") value.start

/-- Goes through the entries of a mapping and puts those that it merges apart from its
own.  A merging entry is dropped before it is followed, so a mapping may even merge
itself. -/
def gather (follow : NodeId → Build Unit) (i : NodeId) (start : Mark) :
    List (NodeId × NodeId) → List (NodeId × NodeId) → List (NodeId × NodeId) →
      Build (List (NodeId × NodeId) × List (NodeId × NodeId))
  | [], merged, own => return (merged, own.reverse)
  | (k, v) :: rest, merged, own => do
    if (← get).graph.isMerge k then
      setEntries i (own.reverse ++ rest)
      gather follow i start rest (merged ++ (← mergedBy follow start v)) own
    else
      if (← node k).tag = standardTag "value" then asText k
      gather follow i start rest merged ((k, v) :: own)

/-- Puts the entries that a mapping merges in front of its own.  Every merging entry on
the way is dropped, so `n` above their number is enough. -/
def flatten : Nat → NodeId → Build Unit
  | 0, _ => return ()
  | n + 1, i => do
    let start := (← node i).start
    let (merged, own) ← gather (flatten n) i start (← entriesOf i) [] []
    setEntries i (merged ++ own)

/-! ### Values of nodes -/

variable [Host]

/-- The value of a node; `path` holds the containers around it, the innermost first, and
`n` bounds the way down. -/
def assemble (shapes : Array (Option Shape)) : Nat → List (Option NodeId) → NodeId → Value
  | 0, _, _ => .null
  | n + 1, path, i =>
    match path.findIdx? (· == some i) with
    | some k => .loop k
    | none =>
      let inner := assemble shapes n (some i :: path)
      match (shapes[i]?).join with
      | none => .null
      | some (.leaf v) => v
      | some (.list items) => .list (items.map inner)
      | some (.tuple items) => .tuple (items.map inner)
      | some (.set items) => .set (Host.order (items.map inner) [])
      | some (.map entries) => .map (entries.map fun (k, v) => (inner k, inner v))
      | some (.pairs entries) =>
        let inner := assemble shapes n (none :: some i :: path)
        .list (entries.map fun (k, v) => .tuple [inner k, inner v])
      | some (.settings a b c) => .settings (inner a) (inner b) (inner c)

/-- The value of a node as it is now. -/
def valueOf (i : NodeId) : Build Value := do
  let w ← get
  return assemble w.shapes (w.graph.size + 1) [] i

/-- The type of the first part of a value that cannot be in a key. -/
def changeable? : Value → Option String
  | .list _ => some "list"
  | .map _ => some "dict"
  | .set _ => some "set"
  | .tuple items => first items
  | .settings a b c => (changeable? a).or ((changeable? b).or (changeable? c))
  | .object o => if o.isKey then none else some o.type
  | _ => none
where
  first : List Value → Option String
    | [] => none
    | v :: rest => (changeable? v).or (first rest)

/-- Whether a value by itself cannot be a key. -/
def isChangeable : Value → Bool
  | .list _ | .map _ | .set _ => true
  | .object o => !o.isKey
  | _ => false

/-- Adds an entry, or changes the value of the same key.  A node is the same key as
itself. -/
def addEntry (k : NodeId) (key : Value) (v : NodeId) :
    List (NodeId × Value × NodeId) → List (NodeId × Value × NodeId)
  | [] => [(k, key, v)]
  | (l, other, w) :: rest =>
    if l = k || Value.same other key then (l, other, v) :: rest
      else (l, other, w) :: addEntry k key v rest

/-! ### Making -/

/-- Builds an entry of a mapping that starts at a place, and adds it to those before;
keys and values are built by `sub`. -/
def enter (sub : NodeId → Build Unit) (start : Mark)
    (acc : List (NodeId × Value × NodeId)) :
    NodeId × NodeId → Build (List (NodeId × Value × NodeId))
  | (k, v) => do
    sub k
    let key ← valueOf k
    if isChangeable key then
      refuse (some (.mapping, start)) .unhashableKey (← node k).start
    sub v
    match changeable? key with
    | some type => throw (.unhashable type)
    | none => return addEntry k key v acc

/-- Entries of a mapping, behind what it merges. -/
def entries (sub : NodeId → Build Unit) (i : NodeId) :
    Build (List (NodeId × NodeId)) := do
  let nd ← node i
  match nd.content with
  | .mapping _ => pure ()
  | c => refuse none (.nodeExpected "mapping" c.kind) nd.start
  flatten ((← get).graph.mergeCount + 1) i
  let made ← (← entriesOf i).foldlM (enter sub nd.start) []
  return made.map fun (k, _, v) => (k, v)

/-- Pairs from a sequence of mappings with one entry each. -/
def singles (sub : NodeId → Build Unit) (context : Context) (i : NodeId) :
    Build (List (NodeId × NodeId)) := do
  let nd ← node i
  match nd.content with
  | .sequence subs =>
    subs.mapM fun s => do
      let inner ← node s
      match inner.content with
      | .mapping [(k, v)] =>
        sub k
        sub v
        return (k, v)
      | .mapping es =>
          refuse (some (context, nd.start)) (.singleItemExpected es.length) inner.start
      | c => refuse (some (context, nd.start)) (.singleMappingExpected c.kind) inner.start
  | c => refuse (some (context, nd.start)) (.sequenceExpected c.kind) nd.start

/-- The fields of settings, in order. -/
def settingsFields : List String := ["included", "excluded", "allow_ignore"]

/-- Settings from the entries of a mapping with their keys as values. -/
def settingsOf (es : List (Value × NodeId)) : Except Failure Shape :=
  let field (name : String) : Option NodeId :=
    (es.find? fun (k, _) => match k with | .text t => t == name | _ => false).map (·.2)
  let isText : Value → Bool | .text _ => true | _ => false
  let isExtra : Value → Bool | .text t => !settingsFields.contains t | _ => true
  match settingsFields.find? fun name => (field name).isNone with
  | some name =>
      .error (.invalid ("!settings node missing required field \x60" ++ name ++ "\x60."))
  | none =>
    if es.any fun (k, _) => !isText k then .error .fieldNameNotText
    else match es.find? fun (k, _) => isExtra k, field "included", field "excluded",
      field "allow_ignore" with
      | some (.text name, _), _, _, _ => .error (.unexpectedField name)
      | _, some a, some b, some c => .ok (.settings a b c)
      | _, _, _, _ => .error .fieldNameNotText

/-- Cuts a full name of an object at its last dot; a name without a dot is one of
the language's own. -/
def cutFullName (s : String) : String × String :=
  let last := s.toList.reverse.takeWhile (· != '.')
  if last.length = s.length then ("builtins", s)
  else (String.ofList (s.toList.take (s.length - last.length - 1)),
    String.ofList last.reverse)

/-- The object that a tag names. -/
def named (suffix : String) (i : NodeId) : Build Value := do
  let start := (← node i).start
  let value ← text i
  if value ≠ "" then refuse (some (.objectName, start)) (.emptyValueExpected value) start
  if suffix = "" then refuse (some (.object, start)) .emptyName start
  let (module, name) := cutFullName suffix
  match Host.named module name with
  | .found v => return v
  | .unknownModule m => refuse (some (.object, start)) (.unknownModule m) start
  | .unknownName n m => refuse (some (.object, start)) (.unknownName n m) start

/-- The message of a node that a tag of the configuration refuses. -/
def atLine (start : Mark) (said : String) : Failure :=
  .invalid ("line " ++ toString (start.line + 1) ++ ": " ++ said ++ ".")

/-- Runs a step and tells a failure of it with the line of a node. -/
def toldAtLine {α : Type} (site : Site) (i : NodeId) (step : Build α) :
    Build α := fun w =>
  match step w with
  | .ok r => .ok r
  | .error e => .error (atLine (w.graph.node i).start (e.message site.name))

/-- What a maker makes at once.  The shape of a container is empty until its parts are
built. -/
def make (site : Site) (sub : NodeId → Build Unit) (i : NodeId) : Maker → Build Shape
  | .null => do
    discard (text i)
    return .leaf .null
  | .bool => return .leaf (.bool (← boolOf (← text i)))
  | .int => return .leaf (.int (← intOf (← text i)))
  | .float => return .leaf (.float (← floatOf (← text i)))
  | .complex => do
    match complexOf? (← text i) with
    | some (re, im) => return .leaf (.complex re im)
    | none => throw .badComplex
  | .bytes => do
    let t ← text i
    return .leaf (.bytes (← binaryOf t (← node i).start))
  | .timestamp => return .leaf (← timestampOf (← text i))
  | .text => do
    let t ← text i
    match (← node i).content with
    | .halves codes => return .leaf (.halves codes)
    | _ => return .leaf (.text t)
  | .list => return .list []
  | .map => return .map []
  | .set => return .set []
  | .orderedMap | .pairs => return .pairs []
  | .tuple => do
    let is ← items i
    is.forM sub
    return .tuple is
  | .glob => toldAtLine site i do
    let t ← text i
    return .leaf
      (.text (Path.join (Path.dirname site.name) (String.ofList (t.toList.drop 3))))
  | .xpath => toldAtLine site i do
    let t ← text i
    match XPath.Query.ofText t with
    | .ok q => return .leaf (.xpath q)
    | .error e => throw (.invalid e.message)
  | .regex => toldAtLine site i do
    let t ← text i
    match Regex.Pattern.ofText { multiline := true } t with
    | .ok p => return .leaf (.regex p)
    | .error e => throw (.invalid e.message)
  | .steps => toldAtLine site i do
    (← items i).forM sub
    return .leaf .null
  | .settings => do
    let es ← entries sub i
    settingsOf (← es.mapM fun (k, v) => return (← valueOf k, v))
  | .labelled label => return .leaf (.list [.text label, .text (← text i)])

/-- Whether a maker leaves the parts of its object for later. -/
def isContainer : Maker → Bool
  | .list | .map | .set | .orderedMap | .pairs => true
  | _ => false

/-- Fills the object of a container. -/
def fill (sub : NodeId → Build Unit) (i : NodeId) (m : Maker) : Build Unit := do
  match m with
  | .list =>
    let is ← items i
    is.forM sub
    setShape i (.list is)
  | .map => setShape i (.map (← entries sub i))
  | .set => setShape i (.set ((← entries sub i).map (·.1)))
  | .orderedMap => setShape i (.pairs (← singles sub .orderedMap i))
  | .pairs => setShape i (.pairs (← singles sub .pairs i))
  | _ => pure ()

/-- The start of the tags that name an object. -/
def nameTag : String := standardTag "python/name:"

/-- Builds a node if it is not there.  The nodes that are being built are all different,
so `n` above their number is enough. -/
def build (site : Site) : Nat → NodeId → Build Unit
  | 0, _ => return ()
  | n + 1, i => do
    let w ← get
    if ((w.shapes[i]?).join).isSome then return ()
    let nd := w.graph.node i
    if w.active.contains i then refuse none .recursiveNode nd.start
    set { w with active := i :: w.active }
    match site.registry.maker? nd.tag with
    | some m =>
      let shape ← make site (build site n) i m
      setShape i shape
      if isContainer m then modify fun w => { w with pending := (i, m) :: w.pending }
    | none =>
      if nd.tag.startsWith nameTag then
        setShape i (.leaf (← named (String.ofList (nd.tag.toList.drop nameTag.length)) i))
      else refuse none (.noConstructor nd.tag) nd.start
    modify fun w => { w with active := w.active.erase i }

/-- Fills the containers that wait, round by round; `n` bounds the rounds. -/
def finish (site : Site) : Nat → Build Unit
  | 0 => return ()
  | n + 1 => do
    let w ← get
    if w.pending.isEmpty then return ()
    set { w with pending := [] }
    w.pending.reverse.forM fun (i, m) => fill (build site (w.graph.size + 1)) i m
    finish site n

end Build

variable [Host]

/-- The value of a graph with a root. -/
def build (site : Site) (root : NodeId) (graph : Graph) : Except Failure Value := do
  let n := graph.size + 1
  let (_, w) ← (do Build.build site n root; Build.finish site n : Build Unit).run ⟨graph,
    Array.replicate graph.size none, [], []⟩
  return Build.assemble w.shapes n [] root

/-- Whether a character may stand in a document. -/
def isAllowed (c : Char) : Bool :=
  c == '\t' || c == '\n' || c == '\r' || (' ' ≤ c && c ≤ '~') || c == '\u0085' ||
    ('\u00a0' ≤ c && c ≤ '\ufffd') || '\uffff' < c

/-- The place up to which a document has been read when the part with a place is
looked at: it is read in parts, of which the first is longer. -/
def readBefore (k : Nat) : Nat :=
  if k < 8192 then 0 else k / 4096 * 4096

/-- Whether a failure comes before the place up to which a document has been read;
eight characters is as far as one looks ahead. -/
def Failure.comesBefore (stop : Nat) : Failure → Bool
  | .marked e => e.problemMark.index + 8 < stop
  | _ => true

/-- The failure of a document with a character that may not stand in it at a place:
what is wrong in the parts before comes first. -/
def failureAt (site : Site) (cs : List Char) (k : Nat) : Failure :=
  let front := cs.take (readBefore k)
  let forbidden := .forbidden ((cs[k]?).map Char.toNat |>.getD 0) k
  match compose site.registry.plainTag (tokensOf front) with
  | .error f => if f.comesBefore front.length then f else forbidden
  | .ok _ => forbidden

/-- The value of a document with a name; an empty document is nothing. -/
def load (site : Site) (document : String) : Except Failure Value := do
  match document.toList.findIdx? (!isAllowed ·) with
  | some k => throw (failureAt site document.toList k)
  | none => pure ()
  match ← compose site.registry.plainTag (tokensOf document.toList) with
  | none => return .null
  | some (root, graph) => build site root graph

end RuleLint.Yaml
