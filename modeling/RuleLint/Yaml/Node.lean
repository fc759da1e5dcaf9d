/-
RuleLint/Yaml/Node.lean

The nodes of a document.  An alias makes two places of a document share a node, and a
node may even contain itself, so the nodes form a graph: they are numbered, and
collections hold numbers.
-/
import RuleLint.Yaml.Error

namespace RuleLint.Yaml

/-- The number of a node. -/
abbrev NodeId := Nat

/-- What a node holds. -/
inductive Content where
  | scalar (text : String)
  /-- A scalar with halves of characters. -/
  | halves (codes : List Nat)
  | sequence (items : List NodeId)
  | mapping (entries : List (NodeId × NodeId))
deriving Repr, BEq, DecidableEq

/-- How a kind of node is called in messages. -/
def Content.kind : Content → String
  | .scalar _ | .halves _ => "scalar"
  | .sequence _ => "sequence"
  | .mapping _ => "mapping"

/-- A node with its tag and the place where it starts. -/
structure Node where
  tag : String
  content : Content
  start : Mark
deriving Repr, BEq, DecidableEq

/-- The nodes of a document by number. -/
abbrev Graph := Array Node

/-- A node that every number outside of a graph stands for. -/
def noNode : Node := ⟨"", .scalar "", ⟨0, 0, 0⟩⟩

/-- The node with a number. -/
def Graph.node (g : Graph) (i : NodeId) : Node :=
  (g[i]?).getD noNode

/-- The entries of a mapping; other nodes have none. -/
def Graph.entries (g : Graph) (i : NodeId) : List (NodeId × NodeId) :=
  match (g.node i).content with
  | .mapping entries => entries
  | _ => []

theorem Graph.entries_of_mapping {g : Graph} {i : NodeId} {es : List (NodeId × NodeId)}
    (h : (g.node i).content = .mapping es) :
    g.entries i = es := by
  rw [entries, h]

end RuleLint.Yaml
