/-
RuleLint/Proofs/Composing.lean

From the tokens of a document to what its nodes mean.

The composer numbers the nodes as it meets them and fills a collection when it has read
its parts, so a graph that is not finished means nothing yet.  What is composed is
therefore said about every later graph that has the new nodes as they are now, and in
which the anchors mean what they are known to mean (`Composer.Step`).  An anchor has a
meaning only behind its node.

`Denotes` says of the tokens of a node what value it stands for, `DenotesItems` and
`DenotesEntries` the same of what a block holds up to its end.  There is one rule for
each kind of node and two for each kind of block; a document is put together from these
rules alone.

Main result: `load_of_denotes`.
-/
import RuleLint.Proofs.Meaning

namespace RuleLint.Yaml

/-- The anchors of a document with what they mean, as far as that is known. -/
abbrev Anchors := List (String × Option Value)

variable {site : Site} {c c₁ c₂ : Composer} {known known₁ known₂ known' : Anchors}
    {k : TokenKind} {ks ks' : List TokenKind}
  {t : Token} {ts rest : List Token} {v : Value} {P Q : Graph → Prop} {n : Nat}

/-! ### Steps of the composer -/

/-- Whether a token opens a node, other than a sequence that is not indented. -/
def TokenKind.opensNode : TokenKind → Bool
  | .alias _ | .anchor _ | .tag _ _ | .scalar _ _
  | .blockSequenceStart | .blockMappingStart => true
  | _ => false

namespace Compose

variable {resolve : String → String} {block indentless : Bool} {u : Token}

/-- An alias is the node of its anchor. -/
theorem node_of_alias {name : String} {i : NodeId} (htokens : c.tokens = t :: ts)
    (ht : t.kind = .alias name)
    (hname : c.anchors.lookup name = some i) :
    node resolve (n + 1) block indentless c = .ok (i, { c with tokens := ts }) := by
  rw [node, run_bind_of_ok (peek_cons htokens), ht]
  dsimp only
  rw [run_bind_of_ok (discard_take_cons htokens), run_bind_of_ok run_get]
  dsimp only
  rw [hname]
  rfl

/-- An anchor and a tag in front of a node. -/
theorem properties_anchor_tag {name suffix : String} {handle : Option String}
    (h : c.tokens = t :: u :: ts) (ht : t.kind = .anchor name)
    (hu : u.kind = .tag handle suffix) :
    properties c = .ok (⟨some name, some (handle, suffix), some t.start, u.start⟩,
      { c with tokens := ts }) := by
  rw [properties, run_bind_of_ok (peek_cons h), ht]
  dsimp only
  rw [run_bind_of_ok (discard_take_cons h), run_bind_of_ok (peek_cons rfl), hu]
  dsimp only
  rw [run_bind_of_ok (discard_take_cons rfl)]
  rfl

/-- A node without an anchor is put behind the others. -/
theorem addAnchored_none (nd : Node) :
    addAnchored none nd c = .ok (c.graph.size, { c with graph := c.graph.push nd }) :=
  rfl

/-- A node with a new anchor is known by it from then on. -/
theorem addAnchored_some {name : String} (h : c.anchors.lookup name = none) (nd : Node) :
    addAnchored (some name) nd c
      = .ok (c.graph.size,
        { c with
          graph := c.graph.push nd
          anchors := (name, c.graph.size) :: c.anchors }) := by
  have hcheck : checkAnchor (some name) nd.start c = .ok ((), c) := by
    rw [checkAnchor, run_bind_of_ok run_get, h]
    rfl
  rw [addAnchored, run_bind_of_ok hcheck]
  rfl

/-- A block sequence is added, then its items are read, then it is filled. -/
theorem node_of_sequenceStart (htokens : c.tokens = t :: ts)
    (ht : t.kind = .blockSequenceStart) {is : List NodeId}
    (hitems : blockItems resolve n t.start
      { c with tokens := ts, graph := c.graph.push ⟨sequenceTag, .sequence [], t.start⟩ }
      = .ok (is, c₂)) :
    node resolve (n + 1) true indentless c
      = .ok (c.graph.size, { c₂ with graph := c₂.graph.modify c.graph.size fun nd =>
        { nd with content := .sequence is } }) := by
  rw [node, run_bind_of_ok (peek_cons htokens), ht]
  dsimp only
  rw [run_bind_of_ok (properties_none htokens (by rw [ht]; rfl)),
    run_bind_of_ok (show fullTag _ c = .ok (none, c) from rfl),
    run_bind_of_ok (peek_cons htokens), ht]
  dsimp only
  -- the node is numbered before its items are read, and filled behind them
  have htake :
    discard take { c with graph := c.graph.push ⟨sequenceTag, .sequence [], t.start⟩ }
      = .ok ((), { c with tokens := ts, graph := c.graph.push ⟨sequenceTag, .sequence [],
        t.start⟩ }) := discard_take_cons htokens
  exact (run_bind_of_ok (addAnchored_none _)).trans
    ((run_bind_of_ok htake).trans (run_bind_of_ok hitems))

/-- A mapping is numbered before its entries, and filled with them afterwards. -/
theorem node_of_mappingStart (htokens : c.tokens = t :: ts)
    (ht : t.kind = .blockMappingStart) {es : List (NodeId × NodeId)}
    (hentries : blockEntries resolve n t.start
      { c with tokens := ts, graph := c.graph.push ⟨mappingTag, .mapping [], t.start⟩ }
      = .ok (es, c₂)) :
    node resolve (n + 1) true indentless c
      = .ok (c.graph.size, { c₂ with graph := c₂.graph.modify c.graph.size fun nd =>
        { nd with content := .mapping es } }) := by
  rw [node, run_bind_of_ok (peek_cons htokens), ht]
  dsimp only
  rw [run_bind_of_ok (properties_none htokens (by rw [ht]; rfl)),
    run_bind_of_ok (show fullTag _ c = .ok (none, c) from rfl),
    run_bind_of_ok (peek_cons htokens), ht]
  dsimp only
  have htake :
    discard take { c with graph := c.graph.push ⟨mappingTag, .mapping [], t.start⟩ }
      = .ok ((), { c with tokens := ts, graph := c.graph.push ⟨mappingTag, .mapping [],
        t.start⟩ }) := discard_take_cons htokens
  exact (run_bind_of_ok (addAnchored_none _)).trans
    ((run_bind_of_ok htake).trans (run_bind_of_ok hentries))

/-- The same for a block mapping with an anchor and a tag. -/
theorem node_of_anchor_tag_mappingStart {a b : Token} {name suffix tag : String}
    {handle : Option String} (htokens : c.tokens = a :: b :: t :: ts)
    (ha : a.kind = .anchor name) (hb : b.kind = .tag handle suffix)
    (ht : t.kind = .blockMappingStart)
    (htag : fullTagOf? c.handles handle suffix = some tag)
    (hname : c.anchors.lookup name = none) {es : List (NodeId × NodeId)}
    (hentries : blockEntries resolve n t.start { c with
      tokens := ts
      graph := c.graph.push ⟨collectionTag (some tag) mappingTag, .mapping [], a.start⟩
      anchors := (name, c.graph.size) :: c.anchors } = .ok (es, c₂)) :
    node resolve (n + 1) true indentless c
      = .ok (c.graph.size, { c₂ with graph := c₂.graph.modify c.graph.size fun nd =>
        { nd with content := .mapping es } }) := by
  have hfull : fullTag ⟨some name, some (handle, suffix), some a.start, b.start⟩
    { c with tokens := t :: ts }
      = .ok (some tag, { c with tokens := t :: ts }) := fullTag_tag rfl htag
  rw [node, run_bind_of_ok (peek_cons htokens), ha]
  dsimp only
  rw [run_bind_of_ok (properties_anchor_tag htokens ha hb), run_bind_of_ok hfull,
    run_bind_of_ok (peek_cons rfl), ht]
  dsimp only
  have hadd := addAnchored_some (c := { c with tokens := t :: ts }) hname
  exact (run_bind_of_ok (hadd _)).trans ((run_bind_of_ok (discard_take_cons rfl)).trans
    (run_bind_of_ok hentries))

theorem blockItems_of_blockEnd {opened : Mark} (htokens : c.tokens = t :: ts)
    (ht : t.kind = .blockEnd) :
    blockItems resolve (n + 1) opened c = .ok ([], { c with tokens := ts }) := by
  rw [blockItems, run_bind_of_ok (take_cons htokens), ht]
  rfl

/-- An item of a block, and the items behind it. -/
theorem blockItems_of_blockEntry {opened : Mark} {i : NodeId} {is : List NodeId}
    (htokens : c.tokens = t :: ts) (ht : t.kind = .blockEntry)
    (hts : ts = u :: rest) (hu : u.kind.opensNode = true)
    (hnode : node resolve n true false { c with tokens := ts } = .ok (i, c₁))
    (hitems : blockItems resolve n opened c₁ = .ok (is, c₂)) :
    blockItems resolve (n + 1) opened c = .ok (i :: is, c₂) := by
  have hrest : (node resolve n true false >>= fun i => blockItems resolve n opened >>=
    fun is => pure (i :: is)) { c with tokens := ts }
      = .ok (i :: is, c₂) := by
    rw [run_bind_of_ok hnode, run_bind_of_ok hitems]
    rfl
  rw [blockItems, run_bind_of_ok (take_cons htokens), ht]
  dsimp only
  rw [run_bind_of_ok (peek_cons hts)]
  -- behind a dash, only a node or the end of the item can follow
  cases hk : u.kind with
  | blockEntry => simp [hk, TokenKind.opensNode] at hu
  | blockEnd => simp [hk, TokenKind.opensNode] at hu
  | _ => exact hrest

theorem blockEntries_of_blockEnd {opened : Mark} (htokens : c.tokens = t :: ts)
    (ht : t.kind = .blockEnd) :
    blockEntries resolve (n + 1) opened c = .ok ([], { c with tokens := ts }) := by
  rw [blockEntries, run_bind_of_ok (peek_cons htokens), ht]
  dsimp only
  rw [run_bind_of_ok (discard_take_cons htokens)]
  rfl

/-- An entry with a scalar as its key. -/
theorem blockEntries_of_key {opened : Mark} {a b : Token} {text : String} {plain : Bool}
    {i : NodeId} {es : List (NodeId × NodeId)}
    (htokens : c.tokens = t :: a :: b :: ts) (ht : t.kind = .key)
    (ha : a.kind = .scalar text plain) (hb : b.kind = .value)
    (hts : ts = u :: rest) (hu : u.kind.opensNode = true)
    (hnode : node resolve (n + 1) true true { c with
      tokens := ts
      graph := c.graph.push ⟨scalarTag resolve none text plain, .scalar text, a.start⟩ } =
        .ok (i, c₁))
    (hentries : blockEntries resolve (n + 1) opened c₁ = .ok (es, c₂)) :
    blockEntries resolve (n + 2) opened c = .ok ((c.graph.size, i) :: es, c₂) := by
  -- the key is composed first, and gets the number in front of the value
  have hkey : node resolve (n + 1) true true { c with tokens := a :: b :: ts } =
    .ok (c.graph.size, { c with
      tokens := b :: ts
      graph := c.graph.push ⟨scalarTag resolve none text plain, .scalar text, a.start⟩
        }) := node_of_atScalar (.bare rfl ha)
  have hrest : (node resolve (n + 1) true true >>= fun i =>
      blockEntries resolve (n + 1) opened >>= fun es =>
      pure ((c.graph.size, i) :: es)) { c with
        tokens := ts
        graph := c.graph.push ⟨scalarTag resolve none text plain, .scalar text, a.start⟩
          } = .ok ((c.graph.size, i) :: es, c₂) := by
    rw [run_bind_of_ok hnode, run_bind_of_ok hentries]
    rfl
  rw [blockEntries, run_bind_of_ok (peek_cons htokens), ht]
  dsimp only
  rw [run_bind_of_ok (discard_take_cons htokens), run_bind_of_ok (peek_cons rfl), ha]
  dsimp only
  rw [run_bind_of_ok hkey, run_bind_of_ok (peek_cons rfl), hb]
  dsimp only
  rw [run_bind_of_ok (discard_take_cons rfl)]
  rw [run_bind_of_ok (peek_cons hts)]
  -- a value that is missing would show by one of three tokens
  cases hk : u.kind with
  | key => simp [hk, TokenKind.opensNode] at hu
  | value => simp [hk, TokenKind.opensNode] at hu
  | blockEnd => simp [hk, TokenKind.opensNode] at hu
  | _ => exact hrest

end Compose

/-! ### Nodes that have been composed -/

/-- Numbers and values side by side. -/
theorem exists_parts {α β : Type} {R : α → β → Prop} {as : List α} {bs : List β}
    (h : List.Forall₂ R as bs) :
    ∃ parts : List (α × β), as = parts.map (·.1) ∧ bs = parts.map (·.2) ∧ ∀ p ∈ parts,
      R p.1 p.2 := by
  induction h with
  | nil => exact ⟨[], rfl, rfl, List.forall_mem_nil _⟩
  | @cons a b as bs hab _ ih =>
      obtain ⟨parts, rfl, rfl, hparts⟩ := ih
      exact ⟨(a, b) :: parts, rfl, rfl, List.forall_mem_cons.mpr ⟨hab, hparts⟩⟩

/-- Whether a graph has the nodes of another one from a number on. -/
structure Graph.Agrees (g g' : Graph) (start : Nat) : Prop where
  size : g.size ≤ g'.size
  node : ∀ i, start ≤ i → i < g.size → g'.node i = g.node i

/-- Whether a composer is in front of tokens of some kinds. -/
structure Composer.At (c : Composer) (ks : List TokenKind) (rest : List Token)
    (known : Anchors) : Prop where
  tokens : ∃ ts, c.tokens = ts ++ rest ∧ ts.map (·.kind) = ks
  handles : c.handles = defaultHandles
  anchors : ∀ name, (c.anchors.lookup name).isSome = (known.lookup name).isSome

theorem Graph.Agrees.mono {g g' : Graph} {start start' : Nat} (h : g.Agrees g' start)
    (hstart : start ≤ start') : g.Agrees g' start' :=
  ⟨h.size, fun i hi hlt => h.node i (hstart.trans hi) hlt⟩

/-- The node that was put last is found at the number that it got. -/
theorem Graph.node_push_size (g : Graph) (nd : Node) :
    Graph.node (g.push nd) g.size = nd := by
  rw [Graph.node, Array.getElem?_push_size]
  rfl

theorem Graph.node_push_of_lt {g : Graph} {i : NodeId} (hi : i < g.size) (nd : Node) :
    Graph.node (g.push nd) i = g.node i := by
  rw [Graph.node, Graph.node, Array.getElem?_push_lt hi, Array.getElem?_eq_getElem hi]

/-- A node is filled without a change of the others. -/
theorem Graph.node_modify_of_ne {g : Graph} {i j : NodeId} (hij : i ≠ j)
    (f : Node → Node) : Graph.node (g.modify i f) j = g.node j := by
  rw [Graph.node, Graph.node, Array.getElem?_modify, if_neg hij]

theorem Graph.node_modify_self {g : Graph} {i : NodeId} (hi : i < g.size)
    (f : Node → Node) : Graph.node (g.modify i f) i = f (g.node i) := by
  rw [Graph.node, Graph.node, Array.getElem?_modify, if_pos rfl,
    Array.getElem?_eq_getElem hi]
  rfl

namespace Composer

/-- A token is taken from the front. -/
theorem At.cons (h : c.At (k :: ks) rest known) : ∃ t ts, c.tokens = t :: ts ∧
    t.kind = k ∧ At { c with tokens := ts } ks rest known := by
  obtain ⟨_ | ⟨t, ts⟩, htokens, hkinds⟩ := h.tokens
  · cases hkinds
  · rw [List.map_cons] at hkinds
    obtain ⟨hk, hks⟩ := List.cons.inj hkinds
    exact ⟨t, ts ++ rest, htokens, hk, ⟨ts, rfl, hks⟩, h.handles, h.anchors⟩

/-- Tokens are taken up to a point, and the rest is left for later. -/
theorem At.append (h : c.At (ks ++ ks') rest known) :
    ∃ ts, ts.map (·.kind) = ks' ∧ c.At ks (ts ++ rest) known := by
  obtain ⟨ts, htokens, hkinds⟩ := h.tokens
  obtain ⟨ts₁, ts₂, rfl, hks, hks'⟩ := List.map_eq_append_iff.mp hkinds
  exact ⟨ts₂, hks', ⟨ts₁, by rw [htokens, List.append_assoc], hks⟩, h.handles, h.anchors⟩

theorem At.of_nil (h : c.At [] (ts ++ rest) known) :
    c.At (ts.map (·.kind)) rest known := by
  obtain ⟨us, htokens, hus⟩ := h.tokens
  obtain rfl := List.map_eq_nil_iff.mp hus
  exact ⟨⟨ts, htokens, rfl⟩, h.handles, h.anchors⟩

theorem At.tokens_of_nil (h : c.At [] rest known) : c.tokens = rest := by
  obtain ⟨us, htokens, hus⟩ := h.tokens
  obtain rfl := List.map_eq_nil_iff.mp hus
  exact htokens

/-- An anchor that is not known yet can be given. -/
theorem At.anchor_free (h : c.At ks rest known) {name : String}
    (hname : known.lookup name = none) : c.anchors.lookup name = none := by
  have hsome := h.anchors name
  rwa [hname, Option.isSome_none, Option.isSome_eq_false_iff, Option.isNone_iff_eq_none]
    at hsome

/-- An anchor that has been seen, with a node that is not there yet. -/
theorem At.note (h : c.At ks rest known) (name : String) (i : NodeId) :
    At { c with anchors := (name, i) :: c.anchors } ks rest ((name, none) :: known) := by
  refine ⟨h.tokens, h.handles, fun other => ?_⟩
  rw [List.lookup_cons, List.lookup_cons]
  cases other == name
  · exact h.anchors other
  · rfl

/-- An anchor gets its meaning when its node has one. -/
theorem At.learn {name : String} (h : c.At ks rest ((name, none) :: known)) (v : Value) :
    c.At ks rest ((name, some v) :: known) := by
  refine ⟨h.tokens, h.handles, fun other => (h.anchors other).trans ?_⟩
  rw [List.lookup_cons, List.lookup_cons]
  cases other == name <;> rfl

/-- A new anchor hides none that there are. -/
theorem lookup_note {anchors : List (String × NodeId)} {name other : String}
    {i j : NodeId} (hfree : anchors.lookup name = none)
    (hother : anchors.lookup other = some j) :
    ((name, i) :: anchors).lookup other = some j := by
  have hne : other ≠ name := by
    rintro rfl
    cases hfree.symm.trans hother
  rwa [List.lookup_cons, beq_false_of_ne hne]

end Composer

variable [Host]

/-- Whether the anchors of a composer have the meanings that are known. -/
def Composer.Knows (site : Site) (c : Composer) (g : Graph) (known : Anchors) : Prop :=
  ∀ name v, known.lookup name = some (some v) → ∃ i, c.anchors.lookup name = some i ∧
    Means site g i v

/-- What a step of a composer does: it adds nodes of which something holds. -/
structure Composer.Step (site : Site) (c c' : Composer) (known known' : Anchors)
    (P : Graph → Prop) : Prop where
  size : c.graph.size ≤ c'.graph.size
  node : ∀ i, i < c.graph.size → c'.graph.node i = c.graph.node i
  anchors : ∀ name i, c.anchors.lookup name = some i → c'.anchors.lookup name = some i
  holds : ∀ g, c'.graph.Agrees g c.graph.size → c.Knows site g known → P g ∧
    c'.Knows site g known'

namespace Composer

/-- A step that adds no nodes. -/
theorem Step.of_eq (hgraph : c₁.graph = c.graph) (hanchors : c₁.anchors = c.anchors)
    (h : ∀ g, c.Knows site g known → P g) :
    c.Step site c₁ known known P where
  size := hgraph ▸ le_rfl
  node i _ := by rw [hgraph]
  anchors name i hi := hanchors ▸ hi
  holds g _ hknows := by
    refine ⟨h g hknows, fun name v hv => ?_⟩
    rw [hanchors]
    exact hknows name v hv

/-- Tokens that have been taken do not matter. -/
theorem Step.of_tokens (h : Step site { c with tokens := ts } c₁ known known₁ P) :
    c.Step site c₁ known known₁ P :=
  ⟨h.size, h.node, h.anchors, h.holds⟩

/-- What is said about later graphs may be weakened. -/
theorem Step.mono (h : c.Step site c₁ known known₁ P) (hPQ : ∀ g, P g → Q g) :
    c.Step site c₁ known known₁ Q where
  size := h.size
  node := h.node
  anchors := h.anchors
  holds g hg hknows := (h.holds g hg hknows).imp_left (hPQ g)

/-- Two steps behind each other: later graphs agree with the nodes of both. -/
theorem Step.trans (h : c.Step site c₁ known known₁ P)
    (h' : c₁.Step site c₂ known₁ known₂ Q) :
    c.Step site c₂ known known₂ fun g => P g ∧ Q g where
  size := h.size.trans h'.size
  node i hi := (h'.node i (hi.trans_le h.size)).trans (h.node i hi)
  anchors name i hi := h'.anchors name i (h.anchors name i hi)
  holds g hg hknows := by
    have hg₁ : c₁.graph.Agrees g c.graph.size := by
      refine ⟨h'.size.trans hg.size, fun i hi hlt => ?_⟩
      rw [hg.node i hi (hlt.trans_le h'.size), h'.node i hlt]
    obtain ⟨hP, hknows₁⟩ := h.holds g hg₁ hknows
    obtain ⟨hQ, hknows₂⟩ := h'.holds g (hg.mono h.size) hknows₁
    exact ⟨⟨hP, hQ⟩, hknows₂⟩

/-- A step that adds one node, with an anchor or without. -/
theorem Step.push {nd : Node} (hgraph : c₁.graph = c.graph.push nd)
    (hanchors : c₁.anchors = c.anchors)
    (h : ∀ g : Graph, c.graph.size < g.size → g.node c.graph.size = nd → P g) :
    c.Step site c₁ known known P where
  size := by rw [hgraph, Array.size_push]; exact Nat.le_succ _
  node i hi := by rw [hgraph, Graph.node_push_of_lt hi]
  anchors name i hi := hanchors ▸ hi
  holds g hg hknows := by
    have hsize : c.graph.size < c₁.graph.size := by
      rw [hgraph, Array.size_push]
      exact Nat.lt_succ_self _
    have hnode : g.node c.graph.size = nd := by
      rw [hg.node _ le_rfl hsize, hgraph, Graph.node_push_size]
    refine ⟨h g (hsize.trans_le hg.size) hnode, fun name v hv => ?_⟩
    rw [hanchors]
    exact hknows name v hv

/-- A collection gets its number first and its parts at the end. -/
theorem Step.fill {nd : Node} {content : Content} (hgraph : c₁.graph = c.graph.push nd)
    (hanchors : ∀ name i, c.anchors.lookup name = some i →
      c₁.anchors.lookup name = some i)
    (hknows : ∀ g, c.Knows site g known → c₁.Knows site g known₁)
    (h : c₁.Step site c₂ known₁ known₂ P)
    (hQ : ∀ g : Graph, c.graph.size < g.size → g.node c.graph.size = { nd with content } →
      P g → c₂.Knows site g known₂ →
      Q g ∧ c₂.Knows site g known') :
    c.Step site { c₂ with graph := c₂.graph.modify c.graph.size fun nd =>
      { nd with content } } known known' Q := by
  have hsize : c₁.graph.size = c.graph.size + 1 := by rw [hgraph, Array.size_push]
  have hlt : c.graph.size < c₂.graph.size := Nat.lt_of_lt_of_le (by omega) h.size
  have hnode : c₂.graph.node c.graph.size = nd := by
    rw [h.node _ (by omega), hgraph, Graph.node_push_size]
  refine ⟨?_, fun i hi => ?_, fun name i hi => h.anchors name i (hanchors name i hi),
    fun g hg hc => ?_⟩
  · rw [Array.size_modify]
    exact hlt.le
  · rw [Graph.node_modify_of_ne hi.ne', h.node i (by omega), hgraph,
      Graph.node_push_of_lt hi]
  · have hgsize : c₂.graph.size ≤ g.size := by
      have := hg.size
      rwa [Array.size_modify] at this
    -- the nodes of the parts are not touched when the collection is filled
    have hparts : c₂.graph.Agrees g c₁.graph.size := by
      refine ⟨hgsize, fun i hi hi' => ?_⟩
      have hlt' : c.graph.size < i := by omega
      rw [hg.node i hlt'.le (by rwa [Array.size_modify]), Graph.node_modify_of_ne hlt'.ne]
    have hfilled : g.node c.graph.size = { nd with content } := by
      rw [hg.node _ le_rfl (by rwa [Array.size_modify]),
        Graph.node_modify_self hlt, hnode]
    obtain ⟨hP, hc₂⟩ := h.holds g hparts (hknows g hc)
    exact hQ g (hlt.trans_le hgsize) hfilled hP hc₂

/-- An anchor may be noted before its node means something. -/
theorem Knows.cons {g : Graph} {name : String} {i : NodeId} (h : c.Knows site g known)
    (hanchors : c₁.anchors = (name, i) :: c.anchors) :
    c₁.Knows site g ((name, none) :: known) := by
  intro other v hv
  rw [hanchors]
  by_cases hname : other = name
  · subst hname
    rw [List.lookup_cons_self] at hv
    cases hv
  · rw [List.lookup_cons, beq_false_of_ne hname] at hv ⊢
    exact h other v hv

/-- When the node of an anchor has been read, its meaning is known. -/
theorem Knows.learn {g : Graph} {name : String} {i : NodeId}
    (h : c.Knows site g ((name, none) :: known))
    (hname : c.anchors.lookup name = some i) (hi : Means site g i v) :
    c.Knows site g ((name, some v) :: known) := by
  intro other u hu
  by_cases hother : other = name
  · subst hother
    rw [List.lookup_cons_self] at hu
    cases hu
    exact ⟨i, hname, hi⟩
  · refine h other u ?_
    rw [List.lookup_cons, beq_false_of_ne hother] at hu ⊢
    exact hu

end Composer

/-! ### The grammar -/

/-- Whether tokens are read as something that holds of the later graphs; `x` reads them
and gets at least one step for each. -/
def ReadsAs {α : Type} (site : Site) (x : Nat → Compose α) (ks : List TokenKind)
    (known known' : Anchors) (P : α → Graph → Prop) : Prop :=
  ∀ c rest n, Composer.At c ks rest known → ks.length ≤ n →
    ∃ a c', x n c = .ok (a, c') ∧ c'.At [] rest known' ∧ c.Step site c' known known' (P a)

/-- Whether the tokens of a node stand for a value, with the anchors that are known
before and behind it. -/
structure Denotes (site : Site) (known : Anchors) (ks : List TokenKind) (v : Value)
    (known' : Anchors) : Prop where
  opens : ∃ k ks', ks = k :: ks' ∧ k.opensNode = true
  reads : ∀ indentless,
    ReadsAs site (fun n => Compose.node site.registry.plainTag n true indentless) ks known
    known' fun i g => Means site g i v

/-- Whether the tokens of a block sequence behind its start stand for values. -/
def DenotesItems (site : Site) (known : Anchors) (ks : List TokenKind) (vs : List Value)
    (known' : Anchors) : Prop :=
  ∀ opened, ReadsAs site (fun n => Compose.blockItems site.registry.plainTag n opened) ks
    known known' fun is g =>
    List.Forall₂ (Means site g) is vs

/-- Whether a field is in a graph. -/
structure Field.IsIn (site : Site) (g : Graph) (f : Field) : Prop where
  tag : (g.node f.key).tag = textTag
  key : Means site g f.key (.text f.name)
  node : Means site g f.node f.value

/-- Whether the tokens of a block mapping behind its start stand for values with names. -/
def DenotesEntries (site : Site) (known : Anchors) (ks : List TokenKind)
    (es : List (String × Value)) (known' : Anchors) : Prop :=
  ∀ opened, ReadsAs site (fun n => Compose.blockEntries site.registry.plainTag n opened)
    ks known known' fun is g =>
    ∃ fields : List Field, is = fields.map Field.entry ∧
      es = fields.map (fun f => (f.name, f.value)) ∧ ∀ f ∈ fields, f.IsIn site g

/-! ### Rules for nodes -/

/-- A scalar denotes what its tag makes of its text. -/
theorem denotes_scalar {text : String} {plain : Bool}
    (h : site.Makes (Compose.scalarTag site.registry.plainTag none text plain) text v) :
    Denotes site known [.scalar text plain] v known where
  opens := ⟨_, _, rfl, rfl⟩
  reads indentless c rest n hc hn := by
    obtain ⟨t, ts, htokens, ht, hc'⟩ := hc.cons
    obtain ⟨n, rfl⟩ := Nat.exists_eq_add_of_le' hn
    refine ⟨_, _, Compose.node_of_atScalar (.bare htokens ht),
      ⟨hc'.tokens, hc'.handles, hc'.anchors⟩, ?_⟩
    refine Composer.Step.push rfl rfl fun g hlt hnode => ?_
    have hcontent : (g.node c.graph.size).content = .scalar text := by rw [hnode]
    refine .leaf hlt hcontent ?_
    rw [hnode]
    exact h

/-- An alias denotes what its anchor does. -/
theorem denotes_alias {name : String} (h : known.lookup name = some (some v)) :
    Denotes site known [.alias name] v known where
  opens := ⟨_, _, rfl, rfl⟩
  reads indentless c rest n hc hn := by
    obtain ⟨t, ts, htokens, ht, hc'⟩ := hc.cons
    obtain ⟨n, rfl⟩ := Nat.exists_eq_add_of_le' hn
    obtain ⟨i, hi⟩ : ∃ i, c.anchors.lookup name = some i := by
      apply Option.isSome_iff_exists.mp
      rw [hc.anchors name, h]
      rfl
    refine ⟨i, _, Compose.node_of_alias htokens ht hi, hc',
      Composer.Step.of_eq rfl rfl fun g hknows => ?_⟩
    obtain ⟨j, hj, hmeans⟩ := hknows name v h
    cases hi.symm.trans hj
    exact hmeans

/-- A block sequence denotes the list of what its items do. -/
theorem denotes_list (hmaker : site.registry.maker? sequenceTag = some .list)
    {vs : List Value} (h : DenotesItems site known ks vs known') :
    Denotes site known (.blockSequenceStart :: ks) (.list vs) known' where
  opens := ⟨_, _, rfl, rfl⟩
  reads indentless c rest n hc hn := by
    obtain ⟨t, ts, htokens, ht, hc'⟩ := hc.cons
    obtain ⟨n, rfl⟩ : ∃ m, n = m + 1 :=
      Nat.exists_eq_add_of_le' (Nat.le_of_add_left_le hn)
    -- the items are read with the number of the list taken already
    let c₁ : Composer :=
      { c with tokens := ts, graph := c.graph.push ⟨sequenceTag, .sequence [], t.start⟩ }
    have hc₁ : c₁.At ks rest known := ⟨hc'.tokens, hc'.handles, hc'.anchors⟩
    obtain ⟨is, c₂, hitems, hc₂, hstep⟩ :=
      h t.start c₁ rest n hc₁ (Nat.le_of_succ_le_succ hn)
    refine ⟨_, _, Compose.node_of_sequenceStart htokens ht hitems,
      ⟨hc₂.tokens, hc₂.handles, hc₂.anchors⟩, ?_⟩
    have hgraph : c₁.graph = c.graph.push _ := rfl
    -- in every later graph, the list is filled with what the items mean
    refine .fill hgraph (fun _ _ h => h) (fun _ h => h) hstep fun g hlt hnode hmeans
      hknows => ⟨?_, hknows⟩
    obtain ⟨parts, rfl, rfl, hparts⟩ := exists_parts hmeans
    apply Means.list
    · rw [hnode]
    · rw [hnode]
      exact hmaker
    · exact hparts

/-- A block mapping denotes its entries, if no name comes twice. -/
theorem denotes_map (hmaker : site.registry.maker? mappingTag = some .map)
    {es : List (String × Value)} (hnames : (es.map (·.1)).Nodup)
    (h : DenotesEntries site known ks es known') :
    Denotes site known (.blockMappingStart :: ks)
      (.map (es.map fun e => (.text e.1, e.2))) known' where
  opens := ⟨_, _, rfl, rfl⟩
  reads indentless c rest n hc hn := by
    obtain ⟨t, ts, htokens, ht, hc'⟩ := hc.cons
    obtain ⟨n, rfl⟩ : ∃ m, n = m + 1 :=
      Nat.exists_eq_add_of_le' (Nat.le_of_add_left_le hn)
    let c₁ : Composer :=
      { c with tokens := ts, graph := c.graph.push ⟨mappingTag, .mapping [], t.start⟩ }
    have hc₁ : c₁.At ks rest known := ⟨hc'.tokens, hc'.handles, hc'.anchors⟩
    obtain ⟨is, c₂, hentries, hc₂, hstep⟩ :=
      h t.start c₁ rest n hc₁ (Nat.le_of_succ_le_succ hn)
    refine ⟨_, _, Compose.node_of_mappingStart htokens ht hentries,
      ⟨hc₂.tokens, hc₂.handles, hc₂.anchors⟩, ?_⟩
    have hgraph : c₁.graph = c.graph.push _ := rfl
    -- in every later graph, the mapping is filled with what the entries mean
    refine .fill hgraph (fun _ _ h => h) (fun _ h => h) hstep fun g hlt hnode hmeans
      hknows => ⟨?_, hknows⟩
    obtain ⟨fields, rfl, rfl, hfields⟩ := hmeans
    rw [List.map_map] at hnames ⊢
    refine .map ?_ ?_ (fun f hf => (hfields f hf).tag) (fun f hf => (hfields f hf).key)
      hnames fun f hf => (hfields f hf).node
    · rw [hnode]
    · rw [hnode]
      exact hmaker

/-- Settings with an anchor, which is known behind them. -/
theorem denotes_settings (hmaker : site.registry.maker? "!settings" = some .settings)
    {name : String} (hname : known.lookup name = none)
    {included excluded allowIgnore : Value}
    (h : DenotesEntries site ((name, none) :: known) ks [("included", included),
      ("excluded", excluded), ("allow_ignore", allowIgnore)]
      ((name, none) :: known)) :
    Denotes site known (.anchor name :: .tag (some "!") "settings" ::
      .blockMappingStart :: ks) (.settings included excluded allowIgnore)
      ((name, some (.settings included excluded allowIgnore)) :: known) where
  opens := ⟨_, _, rfl, rfl⟩
  reads indentless c rest n hc hn := by
    obtain ⟨a, _, htokens, ha, hc'⟩ := hc.cons
    obtain ⟨b, _, rfl, hb, hc'⟩ := hc'.cons
    obtain ⟨t, ts, rfl, ht, hc'⟩ := hc'.cons
    obtain ⟨n, rfl⟩ : ∃ m, n = m + 1 :=
      Nat.exists_eq_add_of_le' (Nat.le_of_add_left_le hn)
    have htag : fullTagOf? c.handles (some "!") "settings" = some "!settings" := by
      rw [hc.handles]
      rfl
    have hfree : c.anchors.lookup name = none := hc.anchor_free hname
    -- the anchor is noted before the entries are read, and among them nothing is known
    -- of what it means
    let c₁ : Composer := { c with
      tokens := ts
      graph := c.graph.push ⟨"!settings", .mapping [], a.start⟩
      anchors := (name, c.graph.size) :: c.anchors }
    have hnoted := hc'.note name c.graph.size
    have hc₁ : c₁.At ks rest ((name, none) :: known) :=
      ⟨hnoted.tokens, hnoted.handles, hnoted.anchors⟩
    have hlen : ks.length ≤ n := by
      simp only [List.length_cons] at hn
      omega
    obtain ⟨is, c₂, hentries, hc₂, hstep⟩ := h t.start c₁ rest n hc₁ hlen
    refine ⟨_, _, Compose.node_of_anchor_tag_mappingStart htokens ha hb ht htag hfree
      hentries, ?_, ?_⟩
    · have hlearned := hc₂.learn (.settings included excluded allowIgnore)
      exact ⟨hlearned.tokens, hlearned.handles, hlearned.anchors⟩
    · refine hstep.fill rfl (fun _ _ hother => Composer.lookup_note hfree hother)
        (fun _ h => h.cons rfl) fun g hlt hnode hmeans hknows => ?_
      have hname₂ : c₂.anchors.lookup name = some c.graph.size :=
        hstep.anchors name _ List.lookup_cons_self
      suffices hvalue :
        Means site g c.graph.size (.settings included excluded allowIgnore)
          from ⟨hvalue, hknows.learn hname₂ hvalue⟩
      obtain ⟨fields, rfl, hes, hfields⟩ := hmeans
      obtain ⟨a, b, d, rfl⟩ : ∃ a b d, fields = [a, b, d] :=
        List.length_eq_three.mp (by simpa using (congrArg List.length hes).symm)
      simp only [List.map_cons, List.map_nil, List.cons.injEq, Prod.mk.injEq,
        and_true] at hes
      obtain ⟨⟨ha', rfl⟩, ⟨hb', rfl⟩, ⟨hd', rfl⟩⟩ := hes
      refine .settings ?_ ?_ (fun f hf => (hfields f hf).tag) (fun f hf =>
        (hfields f hf).key) ?_ fun f hf => (hfields f hf).node
      · rw [hnode]
      · rw [hnode]
        exact hmaker
      · simp only [List.map_cons, List.map_nil, ← ha', ← hb', ← hd']
        rfl

/-! ### Rules for blocks -/

theorem denotesItems_nil : DenotesItems site known [.blockEnd] [] known := by
  intro opened c rest n hc hn
  obtain ⟨t, ts, htokens, ht, hc'⟩ := hc.cons
  obtain ⟨n, rfl⟩ := Nat.exists_eq_add_of_le' hn
  exact ⟨[], _, Compose.blockItems_of_blockEnd htokens ht, hc',
    .of_eq rfl rfl fun _ _ => .nil⟩

/-- An item in front of others, which may use its anchors. -/
theorem denotesItems_cons {vs : List Value} (h : Denotes site known ks v known₁)
    (h' : DenotesItems site known₁ ks' vs known₂) :
    DenotesItems site known (.blockEntry :: (ks ++ ks')) (v :: vs) known₂ := by
  intro opened c rest n hc hn
  obtain ⟨t, ts, htokens, ht, hc'⟩ := hc.cons
  obtain ⟨n, rfl⟩ : ∃ m, n = m + 1 := Nat.exists_eq_add_of_le' (Nat.le_of_add_left_le hn)
  rw [List.length_cons, List.length_append] at hn
  obtain ⟨us, rfl, hat⟩ := hc'.append
  obtain ⟨i, c₁, hnode, hc₁, hstep₁⟩ := h.reads false _ _ n hat (by omega)
  obtain ⟨is, c₂, hitems, hc₂, hstep₂⟩ := h' opened c₁ rest n hc₁.of_nil (by omega)
  refine ⟨i :: is, c₂, ?_, hc₂, ?_⟩
  · obtain ⟨k, ks'', rfl, hk⟩ := h.opens
    obtain ⟨u, us', hus, rfl, -⟩ := hat.cons
    exact Compose.blockItems_of_blockEntry htokens ht hus hk hnode hitems
  · exact (hstep₁.trans hstep₂).of_tokens.mono fun g hg => List.Forall₂.cons hg.1 hg.2

theorem denotesEntries_nil : DenotesEntries site known [.blockEnd] [] known := by
  intro opened c rest n hc hn
  obtain ⟨t, ts, htokens, ht, hc'⟩ := hc.cons
  obtain ⟨n, rfl⟩ := Nat.exists_eq_add_of_le' hn
  refine ⟨[], _, Compose.blockEntries_of_blockEnd htokens ht, hc',
    .of_eq rfl rfl fun _ _ => ?_⟩
  exact ⟨[], rfl, rfl, List.forall_mem_nil _⟩

/-- An entry with a plain name, in front of others. -/
theorem denotesEntries_cons (hmaker : site.registry.maker? textTag = some .text)
    {name : String}
    (htag : site.registry.plainTag name = textTag) {es : List (String × Value)}
    (h : Denotes site known ks v known₁)
    (h' : DenotesEntries site known₁ ks' es known₂) :
    DenotesEntries site known (.key :: .scalar name true :: .value :: (ks ++ ks'))
      ((name, v) :: es) known₂ := by
  intro opened c rest n hc hn
  obtain ⟨t, _, htokens, ht, hc'⟩ := hc.cons
  obtain ⟨a, _, rfl, ha, hc'⟩ := hc'.cons
  obtain ⟨b, ts, rfl, hb, hc'⟩ := hc'.cons
  simp only [List.length_cons, List.length_append] at hn
  obtain ⟨n, rfl⟩ : ∃ m, n = m + 2 := Nat.exists_eq_add_of_le' (by omega)
  obtain ⟨us, rfl, hat⟩ := hc'.append
  -- the key is one node, and what follows does not touch it
  let c₀ : Composer :=
    { c with tokens := ts, graph := c.graph.push ⟨site.registry.plainTag name,
      .scalar name, a.start⟩ }
  have hc₀ : c₀.At ks (us ++ rest) known := ⟨hat.tokens, hat.handles, hat.anchors⟩
  have hstep₀ : c.Step site c₀ known known fun g => c.graph.size < g.size ∧
      g.node c.graph.size = ⟨textTag, .scalar name, a.start⟩ := by
    refine .push (show c₀.graph = c.graph.push _ from rfl) rfl fun g hlt hnode =>
      ⟨hlt, ?_⟩
    rw [hnode, htag]
  obtain ⟨i, c₁, hnode, hc₁, hstep₁⟩ := h.reads true _ _ (n + 1) hc₀ (by omega)
  obtain ⟨is, c₂, hentries, hc₂, hstep₂⟩ :=
    h' opened c₁ rest (n + 1) hc₁.of_nil (by omega)
  refine ⟨(c.graph.size, i) :: is, c₂, ?_, hc₂, ?_⟩
  · obtain ⟨k, ks'', rfl, hk⟩ := h.opens
    obtain ⟨u, us', hus, rfl, -⟩ := hat.cons
    exact Compose.blockEntries_of_key htokens ht ha hb hus hk hnode hentries
  · refine (hstep₀.trans (hstep₁.trans hstep₂)).mono fun g hg => ?_
    obtain ⟨⟨hlt, hkey⟩, hmeans, fields, rfl, rfl, hfields⟩ := hg
    have hfield : Field.IsIn site g ⟨c.graph.size, name, i, v⟩ := by
      refine ⟨by rw [hkey], .leaf hlt (by rw [hkey]) ?_, hmeans⟩
      rw [hkey]
      exact ⟨.text, hmaker, rfl, fun _ _ _ hcontent => Build.make_text_of_scalar hcontent⟩
    exact ⟨⟨c.graph.size, name, i, v⟩ :: fields, rfl, rfl,
      List.forall_mem_cons.mpr ⟨hfield, hfields⟩⟩

/-! ### Documents -/

/-- **A document whose tokens stand for a value is loaded as that value.** -/
theorem load_of_denotes {document : String} {s e : Token} (hallowed : IsAllowed document)
    (htokens : tokensOf document.toList = ⟨s :: ts ++ [e], none⟩)
    (he : e.kind = .streamEnd)
    (h : Denotes site [] (ts.map (·.kind)) v known') : load site document = .ok v := by
  obtain ⟨k, ks', hks, hk⟩ := h.opens
  obtain ⟨t, us, rfl, rfl, -⟩ := List.map_eq_cons_iff.mp hks
  -- the composer at the first token of the content
  let c₀ : Composer := ⟨t :: (us ++ [e]), none, #[], [], defaultHandles⟩
  have hc₀ : c₀.At ((t :: us).map (·.kind)) [e] [] :=
    ⟨⟨t :: us, rfl, rfl⟩, rfl, fun _ => rfl⟩
  obtain ⟨i, c₁, hnode, hc₁, hstep⟩ :=
    h.reads false c₀ [e] (2 * ((us ++ [e]).length + 2) + 5) hc₀ (by simp; omega)
  -- the content is no mark of a document
  have hopens : t.kind.opensDocument = false := by
    cases hkind : t.kind with
    | directive | documentStart | streamEnd => simp [hkind, TokenKind.opensNode] at hk
    | _ => rfl
  have hcompose : compose site.registry.plainTag ⟨s :: t :: (us ++ [e]), none⟩ =
      .ok (some (i, c₁.graph)) :=
    compose_of_node hopens hnode hc₁.tokens_of_nil he
  -- the graph at the end is one of those that the step is about
  have hmeans : Means site c₁.graph i v :=
    (hstep.holds c₁.graph ⟨le_rfl, fun _ _ _ => rfl⟩ fun name v hv => by cases hv).1
  rw [load_of_isAllowed hallowed, htokens]
  show compose site.registry.plainTag ⟨s :: t :: (us ++ [e]), none⟩ >>= _ = _
  rw [hcompose]
  exact build_of_means hmeans

end RuleLint.Yaml
