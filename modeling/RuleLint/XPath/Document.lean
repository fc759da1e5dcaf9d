/-
RuleLint/XPath/Document.lean

Documents that path expressions look at.  An element has a name, attributes and parts; a
document numbers the document itself and the elements and texts below it in document
order, so a node comes before another exactly if its number is smaller, and the nodes
below a node are the numbers from behind it up to its `stop`.

`Ref` points at a node or at something that belongs to an element: the name space that
every element has, or one of its attributes.  References are ordered by document order
too.
-/

namespace RuleLint.XPath

/-! ### Elements -/

mutual

/-- An element or a text. -/
inductive Element where
  | element (name : String) (attrs : List (String × String)) (parts : Elements)
  | text (s : String)

/-- The parts of an element. -/
inductive Elements where
  | nil
  | cons (first : Element) (rest : Elements)

end

/-- Parts from a list. -/
def Elements.ofList : List Element → Elements
  | [] => .nil
  | e :: rest => .cons e (ofList rest)

/-! ### Numbered nodes -/

/-- What a node is. -/
inductive Kind where
  | document
  | element (name : String) (attrs : List (String × String))
  | text (s : String)

/-- A node: what it is, the number of the node it is in, and the number behind the last
node below it. -/
structure Node where
  kind : Kind
  parent : Nat
  stop : Nat

/-- Nodes by number.  The document is the node 0. -/
abbrev Document := Array Node

/-- A reference: a node itself (`part` is 0), the name space of an element (1), or its
attribute `part - 2`. -/
structure Ref where
  node : Nat
  part : Nat
deriving Repr, BEq, DecidableEq

mutual

/-- Numbers an element and what is in it. -/
def Element.number (parent : Nat) (nodes : Document) : Element → Document
  | .text s => nodes.push ⟨.text s, parent, nodes.size + 1⟩
  | .element name attrs parts =>
    let i := nodes.size
    let nodes := parts.number i (nodes.push ⟨.element name attrs, parent, 0⟩)
    let stop := nodes.size
    nodes.modify i fun n => { n with stop }
termination_by structural e => e

/-- Numbers the parts of a node. -/
def Elements.number (parent : Nat) (nodes : Document) : Elements → Document
  | .nil => nodes
  | .cons e rest => rest.number parent (e.number parent nodes)
termination_by structural es => es

end

/-- The document of a root element. -/
def Document.ofElement (e : Element) : Document :=
  let nodes := e.number 0 #[⟨.document, 0, 0⟩]
  let stop := nodes.size
  nodes.modify 0 fun n => { n with stop }

namespace Document

/-- The root element. -/
def root : Ref := ⟨1, 0⟩

/-- What a node is; numbers beyond the document stand for empty texts. -/
def kind (d : Document) (i : Nat) : Kind :=
  match d[i]? with
  | some n => n.kind
  | none => .text ""

/-- The number behind the last node below a node. -/
def stop (d : Document) (i : Nat) : Nat :=
  match d[i]? with
  | some n => n.stop
  | none => 0

/-- The node that a node is in, but for the document. -/
def parent? (d : Document) (i : Nat) : Option Nat :=
  if i = 0 then none else d[i]?.map (·.parent)

/-- The attributes of a node. -/
def attrs (d : Document) (i : Nat) : List (String × String) :=
  match d.kind i with
  | .element _ attrs => attrs
  | _ => []

/-- The value of an attribute by name. -/
def attr? (d : Document) (i : Nat) (name : String) : Option String :=
  (d.attrs i).lookup name

/-- Whether a node is an element. -/
def isElement (d : Document) (i : Nat) : Bool :=
  match d.kind i with
  | .element _ _ => true
  | _ => false

/-! ### Kin -/

/-- The numbers from `i` to below `j`. -/
def span (i j : Nat) : List Nat :=
  (List.range (j - i)).map (· + i)

/-- The nodes next to each other from `i` to below `bound`; `n` bounds their number. -/
def row (d : Document) (bound : Nat) : Nat → Nat → List Nat
  | 0, _ => []
  | n + 1, i => if i < bound then i :: row d bound n (d.stop i) else []

/-- The nodes directly in a node. -/
def children (d : Document) (i : Nat) : List Nat :=
  d.row (d.stop i) (d.stop i - i) (i + 1)

/-- The nodes that a node is in, the innermost first; `n` bounds their number. -/
def ancestorsFrom (d : Document) : Nat → Nat → List Nat
  | 0, _ => []
  | n + 1, i => match d.parent? i with
    | some p => p :: ancestorsFrom d n p
    | none => []

/-- The nodes that a node is in, the innermost first. -/
def ancestors (d : Document) (i : Nat) : List Nat :=
  d.ancestorsFrom (i + 1) i

/-- The nodes in the same node behind a node. -/
def laterSiblings (d : Document) (i : Nat) : List Nat :=
  match d.parent? i with
  | some p => d.row (d.stop p) (d.stop p - i) (d.stop i)
  | none => []

/-- The nodes in the same node in front of a node, the nearest first. -/
def earlierSiblings (d : Document) (i : Nat) : List Nat :=
  match d.parent? i with
  | some p => (d.row i (i - p) (p + 1)).reverse
  | none => []

/-- The nodes that end before a node begins, the nearest first. -/
def preceding (d : Document) (i : Nat) : List Nat :=
  ((span 1 i).filter fun j => d.stop j ≤ i).reverse

/-! ### Texts -/

/-- The text of a node: all texts in it, one behind the other. -/
def textOf (d : Document) (i : Nat) : String :=
  match d.kind i with
  | .text s => s
  | _ => String.join ((span (i + 1) (d.stop i)).filterMap fun j => match d.kind j with
    | .text s => some s
    | _ => none)

/-- The text of what a reference points at. -/
def refText (d : Document) (r : Ref) : String :=
  match r.part with
  | 0 => d.textOf r.node
  | 1 => ""
  | k + 2 => match (d.attrs r.node)[k]? with
    | some (_, s) => s
    | none => ""

/-- The name of what a reference points at; texts and the document have none. -/
def refName (d : Document) (r : Ref) : String :=
  match r.part with
  | 0 => match d.kind r.node with
    | .element name _ => name
    | _ => ""
  | 1 => "xml"
  | k + 2 => match (d.attrs r.node)[k]? with
    | some (name, _) => name
    | none => ""

end Document

/-! ### Order -/

/-- Document order. -/
def Ref.le (a b : Ref) : Bool :=
  a.node < b.node || (a.node == b.node && a.part ≤ b.part)

/-- Drops what equals its neighbour. -/
def dropRepeats : List Ref → List Ref
  | a :: b :: rest =>
      if a = b then dropRepeats (b :: rest) else a :: dropRepeats (b :: rest)
  | rs => rs

/-- References in document order, each once. -/
def inOrder (rs : List Ref) : List Ref :=
  dropRepeats (rs.mergeSort Ref.le)

end RuleLint.XPath
