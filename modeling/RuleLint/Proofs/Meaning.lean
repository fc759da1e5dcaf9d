/-
RuleLint/Proofs/Meaning.lean

What a graph of nodes means, and that building it gives that.

`Means` says of a node which value it stands for: a scalar that its tag makes a value
of, or a list, a mapping or settings whose parts mean something.  It is about the graph
alone; that a node is referred to twice, that containers are filled later and that steps
are counted are matters of the builder.

A meaning is a tree, so no node is among its own parts, and on the way down to a node
all nodes are different (`Below`).  That is why the builder never meets a node that is
being built and never runs out of steps.  Its invariant is `Inv`: what is built has its
parts built too or waits for them.  A step that meets a node with a meaning succeeds
(`goes_build`), and each round of filling leaves fewer nodes to build (`finish_of_inv`).

Main result: `build_of_means`.
-/
import Mathlib.Data.Finset.Card
import RuleLint.Proofs.Building
import RuleLint.Proofs.Scalars

namespace RuleLint.Yaml

variable {g : Graph} {i : NodeId}

/-! ### Parts of nodes -/

/-- An entry of a mapping with the name and the value that it stands for. -/
structure Field where
  key : NodeId
  name : String
  node : NodeId
  value : Value

/-- The nodes of an entry. -/
def Field.entry (f : Field) : NodeId × NodeId := (f.key, f.node)

/-- The nodes that a content refers to. -/
def Content.parts : Content → List NodeId
  | .scalar _ | .halves _ => []
  | .sequence items => items
  | .mapping entries => entries.flatMap fun e => [e.1, e.2]

/-- Whether a node is a part of another one. -/
def Graph.PartOf (g : Graph) (j i : NodeId) : Prop :=
  j ∈ (g.node i).content.parts

theorem mem_parts_mapping {fields : List Field} {j : NodeId}
    (h : j ∈ (Content.mapping (fields.map Field.entry)).parts) :
    ∃ f ∈ fields, j = f.key ∨ j = f.node := by
  obtain ⟨e, he, hj⟩ := List.mem_flatMap.mp h
  obtain ⟨f, hf, rfl⟩ := List.mem_map.mp he
  exact ⟨f, hf, by simpa [Field.entry] using hj⟩

theorem partOf_of_sequence {items : List NodeId}
    (hcontent : (g.node i).content = .sequence items) {j : NodeId} (hj : j ∈ items) :
    g.PartOf j i := by
  rw [Graph.PartOf, hcontent]
  exact hj

theorem partOf_of_mapping {fields : List Field}
    (hcontent : (g.node i).content = .mapping (fields.map Field.entry)) {f : Field}
    (hf : f ∈ fields) : g.PartOf f.key i ∧ g.PartOf f.node i := by
  have he : f.entry ∈ fields.map Field.entry := List.mem_map_of_mem hf
  rw [Graph.PartOf, Graph.PartOf, hcontent]
  constructor
  · exact List.mem_flatMap.mpr ⟨f.entry, he, by simp [Field.entry]⟩
  · exact List.mem_flatMap.mpr ⟨f.entry, he, by simp [Field.entry]⟩

theorem Graph.lt_size_of_content {g : Graph} {i : NodeId}
    (h : ∀ text, (g.node i).content ≠ .scalar text) : i < g.size := by
  by_contra hi
  apply h ""
  rw [Graph.node, Array.getElem?_eq_none (Nat.le_of_not_lt hi)]
  rfl

/-- What is accessible is not below itself. -/
theorem not_transGen_self {α : Type} {r : α → α → Prop} {a : α} (h : Acc r a) :
    ¬ Relation.TransGen r a a := by
  have htrans := h.transGen
  clear h
  induction htrans with
  | intro a _ ih => exact fun ha => ih a ha ha

/-- Whether a node is below all nodes of a list, which are different. -/
structure Graph.Below (g : Graph) (path : List NodeId) (i : NodeId) : Prop where
  nodup : path.Nodup
  lt_size : ∀ j ∈ path, j < g.size
  below : ∀ j ∈ path, Relation.TransGen g.PartOf i j

theorem Graph.Below.nil : g.Below [] i :=
  ⟨.nil, List.forall_mem_nil _, List.forall_mem_nil _⟩

/-- A node that is not on a path is not found on it. -/
theorem findIdx?_path {path : List NodeId} (hi : i ∉ path) :
    (path.map some).findIdx? (· == some i) = none := by
  rw [List.findIdx?_eq_none_iff]
  intro j hj
  obtain ⟨k, hk, rfl⟩ := List.mem_map.mp hj
  have hne : k ≠ i := fun hki => hi (hki ▸ hk)
  simpa using hne

/-! ### Work that grows -/

/-- What building adds to the work: what is built stays so, and what begins to wait is
new. -/
structure Work.Grows (w w' : Work) : Prop where
  built : ∀ i, w.Built i → w'.Built i
  active : w'.active = w.active
  fresh : ∀ e ∈ w'.pending, e ∈ w.pending ∨ ¬ w.Built e.1

theorem Work.Grows.refl (w : Work) : w.Grows w :=
  ⟨fun _ h => h, rfl, fun _ h => .inl h⟩

/-- Both steps only build. -/
theorem Work.Grows.trans {w w₁ w₂ : Work} (h : w.Grows w₁) (h' : w₁.Grows w₂) :
    w.Grows w₂ where
  built i hi := h'.built i (h.built i hi)
  active := h'.active.trans h.active
  fresh e he := by
    rcases h'.fresh e he with he | he
    · exact h.fresh e he
    · exact .inr fun hbuilt => he (h.built e.1 hbuilt)

/-- A node that gets a shape is built, and no other. -/
theorem Work.built_withShape {w : Work} (hi : i < w.shapes.size) {s : Shape}
    {j : NodeId} : (w.withShape i s).Built j ↔ j = i ∨ w.Built j := by
  by_cases hji : j = i
  · subst hji
    rw [Built, shapeAt?_withShape_self hi]
    simp
  · rw [Built, shapeAt?_withShape_of_ne hji]
    simp [hji, Built]

instance (w : Work) : DecidablePred w.Built :=
  fun i => inferInstanceAs (Decidable ((w.shapeAt? i).isSome = true))

/-- The number of nodes that are not built. -/
def Work.unbuilt (w : Work) : Nat :=
  ((Finset.range w.shapes.size).filter fun i => ¬ w.Built i).card

theorem Work.unbuilt_le (w : Work) : w.unbuilt ≤ w.shapes.size :=
  (Finset.card_filter_le _ _).trans (Finset.card_range _).le

/-- With another node built, fewer are left. -/
theorem Work.unbuilt_lt {w w' : Work} (hsize : w'.shapes.size = w.shapes.size)
    (hgrows : ∀ i, w.Built i → w'.Built i) (hi : i < w.shapes.size)
    (hold : ¬ w.Built i) (hnew : w'.Built i) : w'.unbuilt < w.unbuilt := by
  apply Finset.card_lt_card
  rw [Finset.ssubset_iff_of_subset]
  · refine ⟨i, Finset.mem_filter.mpr ⟨Finset.mem_range.mpr hi, hold⟩, fun hmem => ?_⟩
    exact (Finset.mem_filter.mp hmem).2 hnew
  · intro j hj
    rw [hsize] at hj
    obtain ⟨hj, hbuilt⟩ := Finset.mem_filter.mp hj
    exact Finset.mem_filter.mpr ⟨hj, fun h => hbuilt (hgrows j h)⟩

/-! ### Mappings that merge nothing -/

namespace Build

variable {w : Work}

/-- Nothing is merged where no key asks for it. -/
theorem gather_of_tags {follow : NodeId → Build Unit} {start : Mark}
    {es : List (NodeId × NodeId)}
    (htags : ∀ e ∈ es, (w.graph.node e.1).tag = textTag)
    (merged own : List (NodeId × NodeId)) :
    gather follow i start es merged own w = .ok ((merged, own.reverse ++ es), w) := by
  induction es generalizing own with
  | nil =>
      rw [gather, List.append_nil]
      rfl
  | cons e es ih =>
      obtain ⟨htag, htags⟩ := List.forall_mem_cons.mp htags
      -- a key that is a text asks for no merging, and needs no change
      have hmerge : w.graph.isMerge e.1 = false := by
        rw [Graph.isMerge, htag]
        decide
      have hvalue : textTag ≠ standardTag "value" := by decide
      rw [gather, run_bind_of_ok run_get, hmerge, if_neg Bool.false_ne_true,
        run_bind_of_ok run_node, htag, if_neg hvalue]
      refine (ih htags (e :: own)).trans ?_
      rw [List.reverse_cons, List.append_assoc]
      rfl

/-- A mapping that merges nothing gets the entries it has. -/
theorem setEntries_self {es : List (NodeId × NodeId)}
    (hcontent : (w.graph.node i).content = .mapping es) :
    setEntries i es w = .ok ((), w) := by
  have hgraph : w.graph.modify i (fun nd => { nd with content := .mapping es }) =
      w.graph := by
    apply Array.ext
    · exact Array.size_modify
    · intro j hj hj'
      rw [Array.getElem_modify]
      split
      · -- the node is a mapping with these entries already
        subst i
        have hnode : w.graph.node j = w.graph[j] := by
          rw [Graph.node, Array.getElem?_eq_getElem hj']
          rfl
        rw [hnode] at hcontent
        generalize w.graph[j] = nd at hcontent ⊢
        obtain ⟨tag, content, start⟩ := nd
        cases hcontent
        rfl
      · rfl
  show Except.ok ((),
    { w with graph := w.graph.modify i (fun nd => { nd with content := .mapping es }) }) =
    _
  rw [hgraph]

/-- A mapping that merges nothing stays as it is. -/
theorem flatten_of_tags {es : List (NodeId × NodeId)}
    (hcontent : (w.graph.node i).content = .mapping es)
    (htags : ∀ e ∈ es, (w.graph.node e.1).tag = textTag) (n : Nat) :
    flatten (n + 1) i w = .ok ((), w) := by
  have hentries : entriesOf i w = .ok (es, w) := by
    rw [run_entriesOf, Graph.entries_of_mapping hcontent]
  rw [flatten, run_bind_of_ok run_node, run_bind_of_ok hentries,
    run_bind_of_ok (gather_of_tags htags [] [])]
  exact setEntries_self hcontent

/-- An entry with a new key comes last. -/
theorem addEntry_of_new {acc : List (NodeId × Value × NodeId)}
    {k j : NodeId} {key : Value}
    (h : ∀ e ∈ acc, e.1 ≠ k ∧ Value.same e.2.1 key = false) :
    addEntry k key j acc = acc ++ [(k, key, j)] := by
  induction acc with
  | nil => rfl
  | cons e acc ih =>
      obtain ⟨⟨hk, hkey⟩, h⟩ := List.forall_mem_cons.mp h
      rw [addEntry, if_neg (by simp [hk, hkey]), ih h]
      rfl

end Build

theorem same_text_eq_false {s t : String} (h : s ≠ t) :
    Value.same (.text s) (.text t) = false := by
  simp [Value.same, Value.sameLeaf, Value.asNumber, h]

/-- The keys of settings name their fields. -/
theorem settingsOf_fields {a b c : Field}
    (hnames : [a, b, c].map (·.name) = Build.settingsFields) :
    Build.settingsOf ([a, b, c].map fun f => (.text f.name, f.node)) =
      .ok (.settings a.node b.node c.node) := by
  obtain ⟨ha, hb, hc⟩ : a.name = "included" ∧ b.name = "excluded" ∧
      c.name = "allow_ignore" := by
    simpa [Build.settingsFields] using hnames
  simp only [List.map_cons, List.map_nil, ha, hb, hc]
  rfl

/-! ### Meanings -/

variable [Host]

/-- Whether a scalar with a tag is a value by itself. -/
def Site.Makes (site : Site) (tag text : String) (v : Value) : Prop :=
  ∃ m, site.registry.maker? tag = some m ∧ Build.isContainer m = false ∧
    ∀ sub i w, (w.graph.node i).content = .scalar text → Build.make site sub i m w =
      .ok (.leaf v, w)

/-- The value that a node stands for. -/
inductive Means (site : Site) (g : Graph) : NodeId → Value → Prop
  | leaf {i : NodeId} {text : String} {v : Value} (hi : i < g.size)
      (hcontent : (g.node i).content = .scalar text)
      (hmakes : site.Makes (g.node i).tag text v) : Means site g i v
  | list {i : NodeId} {parts : List (NodeId × Value)}
      (hcontent : (g.node i).content = .sequence (parts.map (·.1)))
      (hmaker : site.registry.maker? (g.node i).tag = some .list)
      (hparts : ∀ p ∈ parts, Means site g p.1 p.2) :
      Means site g i (.list (parts.map (·.2)))
  | map {i : NodeId} {fields : List Field}
      (hcontent : (g.node i).content = .mapping (fields.map Field.entry))
      (hmaker : site.registry.maker? (g.node i).tag = some .map)
      (htags : ∀ f ∈ fields, (g.node f.key).tag = textTag)
      (hkeys : ∀ f ∈ fields, Means site g f.key (.text f.name))
      (hnames : (fields.map (·.name)).Nodup)
      (hfields : ∀ f ∈ fields, Means site g f.node f.value) :
      Means site g i (.map (fields.map fun f => (.text f.name, f.value)))
  | settings {i : NodeId} {a b c : Field}
      (hcontent : (g.node i).content = .mapping ([a, b, c].map Field.entry))
      (hmaker : site.registry.maker? (g.node i).tag = some .settings)
      (htags : ∀ f ∈ [a, b, c], (g.node f.key).tag = textTag)
      (hkeys : ∀ f ∈ [a, b, c], Means site g f.key (.text f.name))
      (hnames : [a, b, c].map (·.name) = Build.settingsFields)
      (hfields : ∀ f ∈ [a, b, c], Means site g f.node f.value) :
      Means site g i (.settings a.value b.value c.value)

variable {site : Site} {v : Value}

/-- A text has one meaning at most under a tag. -/
theorem Site.Makes.unique {tag text : String} {u : Value} (h : site.Makes tag text v)
    (h' : site.Makes tag text u) : v = u := by
  obtain ⟨m, hm, -, hmake⟩ := h
  obtain ⟨m', hm', -, hmake'⟩ := h'
  cases hm.symm.trans hm'
  let w : Work := ⟨#[⟨"", .scalar text, ⟨0, 0, 0⟩⟩], #[], [], []⟩
  have hw : (w.graph.node 0).content = .scalar text := rfl
  cases (hmake (fun _ => pure ()) 0 w hw).symm.trans (hmake' (fun _ => pure ()) 0 w hw)
  rfl

/-- A pattern in a configuration is a path below the directory of the configuration. -/
theorem Site.makes_glob (name text : String) :
    (Site.mk .configuration name).Makes "!glob" text
      (.text (Path.join (Path.dirname name) (String.ofList (text.toList.drop 3)))) := by
  refine ⟨.glob, show Registry.configuration.maker? "!glob" =
    some .glob by decide +kernel, rfl, fun sub i w hcontent => ?_⟩
  rw [Build.make, Build.toldAtLine, run_bind_of_ok (Build.text_of_scalar hcontent)]
  rfl

/-- What has a meaning is a node of the graph. -/
theorem Means.lt_size (h : Means site g i v) : i < g.size := by
  cases h with
  | leaf hi => exact hi
  | list hcontent =>
      exact Graph.lt_size_of_content fun text htext => by cases hcontent.symm.trans htext
  | map hcontent =>
      exact Graph.lt_size_of_content fun text htext => by cases hcontent.symm.trans htext
  | settings hcontent =>
      exact Graph.lt_size_of_content fun text htext => by cases hcontent.symm.trans htext

/-- A node that is a text is a scalar. -/
theorem Means.makes_of_text {s : String} (h : Means site g i (.text s)) :
    ∃ text, (g.node i).content = .scalar text ∧
      site.Makes (g.node i).tag text (.text s) := by
  cases h with
  | leaf hi hcontent hmakes => exact ⟨_, hcontent, hmakes⟩

/-! ### The way down -/

/-- The parts of what means something mean something, down to the leaves. -/
theorem Means.acc (h : Means site g i v) : Acc g.PartOf i := by
  induction h with
  -- a scalar has no parts; in the other cases they are accessible by induction
  | leaf hi hcontent hmakes =>
      constructor
      intro j hj
      rw [Graph.PartOf, hcontent] at hj
      cases hj
  | list hcontent hmaker hparts ih =>
      constructor
      intro j hj
      rw [Graph.PartOf, hcontent] at hj
      obtain ⟨p, hp, rfl⟩ := List.mem_map.mp hj
      exact ih p hp
  | map hcontent hmaker htags hkeys hnames hfields ihkeys ih =>
      constructor
      intro j hj
      rw [Graph.PartOf, hcontent] at hj
      obtain ⟨f, hf, rfl | rfl⟩ := mem_parts_mapping hj
      · exact ihkeys f hf
      · exact ih f hf
  | settings hcontent hmaker htags hkeys hnames hfields ihkeys ih =>
      constructor
      intro j hj
      rw [Graph.PartOf, hcontent] at hj
      obtain ⟨f, hf, rfl | rfl⟩ := mem_parts_mapping hj
      · exact ihkeys f hf
      · exact ih f hf

/-- A part of what means something means something. -/
theorem Means.part (h : Means site g i v) {j : NodeId} (hj : g.PartOf j i) :
    ∃ u, Means site g j u := by
  rw [Graph.PartOf] at hj
  cases h with
  | leaf hi hcontent =>
      rw [hcontent] at hj
      cases hj
  | list hcontent hmaker hparts =>
      rw [hcontent] at hj
      obtain ⟨p, hp, rfl⟩ := List.mem_map.mp hj
      exact ⟨_, hparts p hp⟩
  | map hcontent hmaker htags hkeys hnames hfields =>
      rw [hcontent] at hj
      obtain ⟨f, hf, rfl | rfl⟩ := mem_parts_mapping hj
      · exact ⟨_, hkeys f hf⟩
      · exact ⟨_, hfields f hf⟩
  | settings hcontent hmaker htags hkeys hnames hfields =>
      rw [hcontent] at hj
      obtain ⟨f, hf, rfl | rfl⟩ := mem_parts_mapping hj
      · exact ⟨_, hkeys f hf⟩
      · exact ⟨_, hfields f hf⟩

/-- A node with a meaning is not on the way down to it. -/
theorem Graph.Below.not_mem {path : List NodeId} (h : g.Below path i)
    (hi : Means site g i v) : i ∉ path :=
  fun hmem => not_transGen_self hi.acc (h.below i hmem)

/-- Going down to a part, one never comes back to a node: parts of what has a meaning do
not go round in circles. -/
theorem Graph.Below.cons {path : List NodeId} {j : NodeId} (h : g.Below path i)
    (hi : Means site g i v) (hj : g.PartOf j i) :
    g.Below (i :: path) j where
  nodup := List.nodup_cons.mpr ⟨h.not_mem hi, h.nodup⟩
  lt_size := List.forall_mem_cons.mpr ⟨hi.lt_size, h.lt_size⟩
  below := List.forall_mem_cons.mpr ⟨.single hj, fun k hk => .head hj (h.below k hk)⟩

/-- The way down to a node leaves a step for it. -/
theorem Graph.Below.length_lt {path : List NodeId} (h : g.Below path i)
    (hi : Means site g i v) : path.length < g.size := by
  have hsub : i :: path ⊆ List.range g.size :=
    List.cons_subset.mpr ⟨List.mem_range.mpr hi.lt_size, fun j hj =>
      List.mem_range.mpr (h.lt_size j hj)⟩
  have hnodup : (i :: path).Nodup := List.nodup_cons.mpr ⟨h.not_mem hi, h.nodup⟩
  have hle := (List.subperm_of_subset hnodup hsub).length_le
  rw [List.length_cons, List.length_range] at hle
  exact hle

/-- With steps for the way down to a node there is one for the node, and enough are left
for its parts. -/
theorem Graph.Below.step {path : List NodeId} (h : g.Below path i) (hi : Means site g i v)
    {n : Nat} (hn : g.size < n + path.length) :
    ∃ k, n = k + 1 ∧ ∀ j, g.PartOf j i → g.Below (i :: path) j ∧
      g.size < k + (i :: path).length := by
  have hlength := h.length_lt hi
  refine ⟨n - 1, by omega, fun j hj => ⟨h.cons hi hj, ?_⟩⟩
  rw [List.length_cons]
  omega

/-! ### Values of finished work -/

/-- What a node becomes in the end. -/
inductive Becomes (site : Site) (g : Graph) (i : NodeId) : Shape → Prop
  | leaf {text : String} {v : Value} (hcontent : (g.node i).content = .scalar text)
      (hmakes : site.Makes (g.node i).tag text v) :
      Becomes site g i (.leaf v)
  | list {items : List NodeId} (hcontent : (g.node i).content = .sequence items)
      (hmaker : site.registry.maker? (g.node i).tag = some .list) :
      Becomes site g i (.list items)
  | map {es : List (NodeId × NodeId)} (hcontent : (g.node i).content = .mapping es)
      (hmaker : site.registry.maker? (g.node i).tag = some .map) :
      Becomes site g i (.map es)
  | settings {a b c : NodeId × NodeId}
      (hcontent : (g.node i).content = .mapping [a, b, c])
      (hmaker : site.registry.maker? (g.node i).tag = some .settings) :
      Becomes site g i (.settings a.2 b.2 c.2)

/-- A node has one shape at most. -/
theorem Becomes.unique {s t : Shape} (h : Becomes site g i s) (h' : Becomes site g i t) :
    s = t := by
  cases h with
  -- a scalar, a sequence and a mapping differ in their contents
  | leaf hcontent hmakes =>
      cases h' with
      | leaf hcontent' hmakes' =>
          cases hcontent.symm.trans hcontent'
          rw [hmakes.unique hmakes']
      | list hcontent' | map hcontent' | settings hcontent' =>
          cases hcontent.symm.trans hcontent'
  | list hcontent hmaker =>
      cases h' with
      | list hcontent' =>
          cases hcontent.symm.trans hcontent'
          rfl
      | leaf hcontent' | map hcontent' | settings hcontent' =>
          cases hcontent.symm.trans hcontent'
  | map hcontent hmaker =>
      cases h' with
      | map hcontent' =>
          cases hcontent.symm.trans hcontent'
          rfl
      -- two kinds of mappings differ in their tags
      | settings hcontent' hmaker' => cases hmaker.symm.trans hmaker'
      | leaf hcontent' | list hcontent' => cases hcontent.symm.trans hcontent'
  | settings hcontent hmaker =>
      cases h' with
      | settings hcontent' =>
          cases hcontent.symm.trans hcontent'
          rfl
      | map hcontent' hmaker' => cases hmaker.symm.trans hmaker'
      | leaf hcontent' | list hcontent' => cases hcontent.symm.trans hcontent'

/-- Whether a node is what it becomes in the end, and its parts are built. -/
def Work.Final (site : Site) (w : Work) (i : NodeId) : Prop :=
  ∃ s, w.shapeAt? i = some s ∧ Becomes site w.graph i s ∧
    ∀ j, w.graph.PartOf j i → w.Built j

theorem Work.Final.shapeAt? {w : Work} (h : w.Final site i) {s : Shape}
    (hs : Becomes site w.graph i s) : w.shapeAt? i = some s := by
  obtain ⟨t, ht, hbecomes, -⟩ := h
  rw [ht, hbecomes.unique hs]

/-- The parts of what is final are built. -/
theorem Work.Final.built {w : Work} (h : w.Final site i) (j : NodeId)
    (hj : w.graph.PartOf j i) : w.Built j := by
  obtain ⟨-, -, -, hbuilt⟩ := h
  exact hbuilt j hj

section

variable {w : Work} {path : List NodeId} (n : Nat)

theorem assemble_leaf (hi : i ∉ path) (h : w.shapeAt? i = some (.leaf v)) :
    Build.assemble w.shapes (n + 1) (path.map some) i = v := by
  rw [Build.assemble, findIdx?_path hi]
  dsimp only
  rw [show (w.shapes[i]?).join = _ from h]

/-- A list is assembled from its items, with itself on the path. -/
theorem assemble_list (hi : i ∉ path) {items : List NodeId}
    (h : w.shapeAt? i = some (.list items)) :
    Build.assemble w.shapes (n + 1) (path.map some) i =
      .list (items.map (Build.assemble w.shapes n ((i :: path).map some))) := by
  rw [Build.assemble, findIdx?_path hi]
  dsimp only
  rw [show (w.shapes[i]?).join = _ from h]
  rfl

theorem assemble_map (hi : i ∉ path) {es : List (NodeId × NodeId)}
    (h : w.shapeAt? i = some (.map es)) :
    Build.assemble w.shapes (n + 1) (path.map some) i =
      .map (es.map fun e => (Build.assemble w.shapes n ((i :: path).map some) e.1,
        Build.assemble w.shapes n ((i :: path).map some) e.2)) := by
  rw [Build.assemble, findIdx?_path hi]
  dsimp only
  rw [show (w.shapes[i]?).join = _ from h]
  rfl

theorem assemble_settings (hi : i ∉ path) {a b c : NodeId}
    (h : w.shapeAt? i = some (.settings a b c)) :
    Build.assemble w.shapes (n + 1) (path.map some) i =
      .settings (Build.assemble w.shapes n ((i :: path).map some) a)
        (Build.assemble w.shapes n ((i :: path).map some) b)
        (Build.assemble w.shapes n ((i :: path).map some) c) := by
  rw [Build.assemble, findIdx?_path hi]
  dsimp only
  rw [show (w.shapes[i]?).join = _ from h]
  rfl

end

/-- When all that is built is final, values are what the nodes mean. -/
theorem assemble_of_means {w : Work} (hall : ∀ i, w.Built i → w.Final site i)
    (h : Means site w.graph i v) (hi : w.Built i)
    {path : List NodeId} (hpath : w.graph.Below path i) {n : Nat}
    (hn : w.graph.size < n + path.length) :
    Build.assemble w.shapes n (path.map some) i = v := by
  -- by induction on what the node means: a part is never one of the nodes above it, so
  -- no loop is made
  induction h generalizing path n with
  | @leaf i text v hlt hcontent hmakes =>
      have hmeans : Means site w.graph i v := .leaf hlt hcontent hmakes
      obtain ⟨n, rfl, -⟩ := hpath.step hmeans hn
      have hshape := (hall i hi).shapeAt? (.leaf hcontent hmakes)
      exact assemble_leaf n (hpath.not_mem hmeans) hshape
  | @list i parts hcontent hmaker hparts ih =>
      have hmeans : Means site w.graph i (.list (parts.map (·.2))) :=
        .list hcontent hmaker hparts
      obtain ⟨n, rfl, hdown⟩ := hpath.step hmeans hn
      have hshape := (hall i hi).shapeAt? (.list hcontent hmaker)
      have hinner : ∀ p ∈ parts, Build.assemble w.shapes n ((i :: path).map some) p.1 =
          p.2 := by
        intro p hp
        have hpart := partOf_of_sequence hcontent (List.mem_map_of_mem hp)
        exact ih p hp ((hall i hi).built _ hpart) (hdown _ hpart).1 (hdown _ hpart).2
      rw [assemble_list n (hpath.not_mem hmeans) hshape, List.map_map]
      exact congrArg Value.list (List.map_congr_left hinner)
  | @map i fields hcontent hmaker htags hkeys hnames hfields ihkeys ih =>
      have hmeans :
          Means site w.graph i (.map (fields.map fun f => (.text f.name, f.value))) :=
        .map hcontent hmaker htags hkeys hnames hfields
      obtain ⟨n, rfl, hdown⟩ := hpath.step hmeans hn
      have hshape := (hall i hi).shapeAt? (.map hcontent hmaker)
      have hinner : ∀ f ∈ fields, Build.assemble w.shapes n ((i :: path).map some) f.key =
        .text f.name ∧
          Build.assemble w.shapes n ((i :: path).map some) f.node = f.value := by
        intro f hf
        obtain ⟨hkey, hnode⟩ := partOf_of_mapping hcontent hf
        exact ⟨ihkeys f hf ((hall i hi).built _ hkey) (hdown _ hkey).1 (hdown _ hkey).2,
          ih f hf ((hall i hi).built _ hnode) (hdown _ hnode).1 (hdown _ hnode).2⟩
      rw [assemble_map n (hpath.not_mem hmeans) hshape, List.map_map]
      exact congrArg Value.map (List.map_congr_left fun f hf =>
        Prod.ext (hinner f hf).1 (hinner f hf).2)
  | @settings i a b c hcontent hmaker htags hkeys hnames hfields ihkeys ih =>
      have hmeans : Means site w.graph i (.settings a.value b.value c.value) :=
        .settings hcontent hmaker htags hkeys hnames hfields
      obtain ⟨n, rfl, hdown⟩ := hpath.step hmeans hn
      have hshape := (hall i hi).shapeAt? (.settings hcontent hmaker)
      have hinner : ∀ f ∈ [a, b, c], Build.assemble w.shapes n ((i :: path).map some)
          f.node = f.value := by
        intro f hf
        obtain ⟨-, hnode⟩ := partOf_of_mapping hcontent hf
        exact ih f hf ((hall i hi).built _ hnode) (hdown _ hnode).1 (hdown _ hnode).2
      rw [assemble_settings n (hpath.not_mem hmeans) hshape]
      exact congr (congr (congrArg Value.settings (hinner a (by simp)))
        (hinner b (by simp))) (hinner c (by simp))

/-! ### The invariant of the work -/

/-- What holds while nodes with meanings are built; `todo` are containers that are being
filled, besides those that wait. -/
structure Inv (site : Site) (g : Graph) (todo : List (NodeId × Maker)) (w : Work) :
    Prop where
  graph : w.graph = g
  size : w.shapes.size = g.size
  final : ∀ i, w.Built i → w.Final site i ∨ ∃ m, (i, m) ∈ w.pending ++ todo
  waiting : ∀ e ∈ w.pending ++ todo, w.Built e.1 ∧ Build.isContainer e.2 = true ∧
    site.registry.maker? (g.node e.1).tag = some e.2 ∧
    ∃ v, Means site g e.1 v

variable {todo : List (NodeId × Maker)} {w w' : Work}

/-- Another node may get another shape. -/
theorem Work.Final.withShape (hi : i < w.shapes.size) {s : Shape} {j : NodeId}
    (hji : j ≠ i) (h : w.Final site j) :
    (w.withShape i s).Final site j := by
  obtain ⟨t, ht, hbecomes, hparts⟩ := h
  refine ⟨t, ?_, hbecomes, fun k hk => ?_⟩
  · rw [shapeAt?_withShape_of_ne hji, ht]
  · exact (built_withShape hi).mpr (.inr (hparts k hk))

/-- A node gets a shape: the one that it has in the end, or one without its parts if it
waits for these. -/
theorem Inv.withShape {todo' pending : List (NodeId × Maker)} (hw : Inv site g todo w)
    (hi : i < g.size) {s : Shape}
    (hs : (Becomes site g i s ∧ ∀ j, g.PartOf j i → w.Built j) ∨
      ∃ m, (i, m) ∈ pending ++ todo')
    (hold : ∀ e ∈ w.pending ++ todo, e.1 = i ∨ e ∈ pending ++ todo')
    (hnew : ∀ e ∈ pending ++ todo', e ∈ w.pending ++ todo ∨ e.1 = i ∧
      Build.isContainer e.2 = true ∧
      site.registry.maker? (g.node e.1).tag = some e.2 ∧ ∃ v, Means site g e.1 v)
        (active : List NodeId) :
    Inv site g todo' { w.withShape i s with pending, active } := by
  have hlt : i < w.shapes.size := hw.size ▸ hi
  refine ⟨hw.graph, (Array.size_setIfInBounds ..).trans hw.size, fun j hj => ?_,
    fun e he => ?_⟩
  · -- the node that has got a shape; all others keep theirs
    by_cases hji : j = i
    · subst hji
      rcases hs with ⟨hbecomes, hparts⟩ | hwaits
      · refine .inl ⟨s, Work.shapeAt?_withShape_self hlt s, hw.graph.symm ▸ hbecomes,
          fun k hk => ?_⟩
        exact (Work.built_withShape hlt).mpr (.inr (hparts k (hw.graph ▸ hk)))
      · exact .inr hwaits
    · have hbuilt : w.Built j := ((Work.built_withShape hlt).mp hj).resolve_left hji
      rcases hw.final j hbuilt with hfinal | ⟨m, hm⟩
      · exact .inl (hfinal.withShape hlt hji)
      · exact .inr ⟨m, (hold _ hm).resolve_left hji⟩
  · rcases hnew e he with he | ⟨rfl, hwaits⟩
    · obtain ⟨hbuilt, hwaits⟩ := hw.waiting e he
      exact ⟨(Work.built_withShape hlt).mpr (.inr hbuilt), hwaits⟩
    · exact ⟨(Work.built_withShape hlt).mpr (.inl rfl), hwaits⟩

/-! ### Steps that succeed -/

/-- Whether a step succeeds, keeps the invariant and ends where something holds. -/
def Goes {α : Type} (site : Site) (g : Graph) (todo : List (NodeId × Maker)) (w : Work)
    (x : Build α) (Q : α → Work → Prop) : Prop :=
  ∃ a w', x w = .ok (a, w') ∧ Inv site g todo w' ∧ w.Grows w' ∧ Q a w'

namespace Goes

variable {α β : Type} {x : Build α} {Q : α → Work → Prop} {R : β → Work → Prop}

/-- A step that leaves the work as it is. -/
theorem of_eq {a : α} (hw : Inv site g todo w) (h : x w = .ok (a, w)) (hQ : Q a w) :
    Goes site g todo w x Q :=
  ⟨a, w, h, hw, .refl w, hQ⟩

/-- Steps that leave the work as it is can be passed over. -/
theorem after {f : α → Build β} {a : α} (h : x w = .ok (a, w))
    (hf : Goes site g todo w (f a) R) : Goes site g todo w (x >>= f) R := by
  obtain ⟨b, w', hb, hw', hgrows, hR⟩ := hf
  exact ⟨b, w', (run_bind_of_ok h).trans hb, hw', hgrows, hR⟩

/-- The second step starts from what holds behind the first. -/
theorem bind {f : α → Build β} (hx : Goes site g todo w x Q)
    (hf : ∀ a w', Inv site g todo w' → w.Grows w' → Q a w' →
      Goes site g todo w' (f a) R) : Goes site g todo w (x >>= f) R := by
  obtain ⟨a, w₁, h₁, hw₁, hgrows₁, hQ⟩ := hx
  obtain ⟨b, w₂, h₂, hw₂, hgrows₂, hR⟩ := hf a w₁ hw₁ hgrows₁ hQ
  exact ⟨b, w₂, (run_bind_of_ok h₁).trans h₂, hw₂, hgrows₁.trans hgrows₂, hR⟩

theorem forM {f : NodeId → Build Unit} {items : List NodeId} (hw : Inv site g todo w)
    (hf : ∀ j ∈ items, ∀ w', Inv site g todo w' → w.Grows w' →
      Goes site g todo w' (f j) fun _ w'' => w''.Built j) :
    Goes site g todo w (items.forM f) fun _ w' => ∀ j ∈ items, w'.Built j := by
  induction items generalizing w with
  | nil => exact of_eq hw rfl (List.forall_mem_nil _)
  | cons j items ih =>
      refine (hf j List.mem_cons_self w hw (.refl w)).bind fun _ w₁ hw₁ hgrows₁ hj => ?_
      obtain ⟨a, w₂, h₂, hw₂, hgrows₂, hitems⟩ := ih hw₁ fun k hk w' hw' hgrows' =>
        hf k (List.mem_cons_of_mem j hk) w' hw' (hgrows₁.trans hgrows')
      exact ⟨a, w₂, h₂, hw₂, hgrows₂,
        List.forall_mem_cons.mpr ⟨hgrows₂.built j hj, hitems⟩⟩

/-- A step for every item, where `I` says how far it has come. -/
theorem foldlM {f : β → α → Build β} {xs : List α} {I : List α → β → Work → Prop}
    (hw : Inv site g todo w)
    (hf : ∀ done a rest b w', xs = done ++ a :: rest → Inv site g todo w' →
      w.Grows w' → I done b w' →
      Goes site g todo w' (f b a) fun b' w'' => I (done ++ [a]) b' w'')
    {b : β} (hI : I [] b w) :
    Goes site g todo w (xs.foldlM f b) fun b' w' => I xs b' w' := by
  -- the induction is on what is left, with what is done kept for the invariant
  suffices h : ∀ rest done b w', xs = done ++ rest → Inv site g todo w' →
    w.Grows w' → I done b w' →
      Goes site g todo w' (rest.foldlM f b) fun b' w'' => I xs b' w''
        from h xs [] b w rfl hw (.refl w) hI
  intro rest
  induction rest with
  | nil =>
      intro done b w' hxs hw' _ hI
      rw [List.append_nil] at hxs
      exact of_eq hw' rfl (hxs ▸ hI)
  | cons a rest ih =>
      intro done b w' hxs hw' hgrows hI
      rw [List.foldlM_cons]
      refine (hf done a rest b w' hxs hw' hgrows hI).bind fun b' w'' hw'' hgrows' hI' =>
        ?_
      exact ih (done ++ [a]) b' w'' (by rw [hxs, List.append_assoc]; rfl) hw''
        (hgrows.trans hgrows') hI'

end Goes

/-! ### Entries of a mapping -/

/-- A key that is built is known by its text. -/
theorem Inv.valueOf_key (hw : Inv site g todo w) {k : NodeId} {s : String}
    (hk : Means site g k (.text s)) (hbuilt : w.Built k) :
    Build.valueOf k w = .ok (.text s, w) := by
  obtain ⟨text, hcontent, hmakes⟩ := hk.makes_of_text
  have hfinal : w.Final site k := by
    rcases hw.final k hbuilt with hfinal | ⟨m, hm⟩
    · exact hfinal
    · -- what waits is a container, and a key is none
      obtain ⟨-, hcontainer, hmaker, -⟩ := hw.waiting _ hm
      obtain ⟨m', hmaker', hleaf, -⟩ := hmakes
      cases hmaker.symm.trans hmaker'
      rw [hleaf] at hcontainer
      cases hcontainer
  have hshape : w.shapeAt? k = some (.leaf (.text s)) := by
    apply hfinal.shapeAt?
    rw [hw.graph]
    exact .leaf hcontent hmakes
  have htext : w.textAt? k = some s := by
    rw [Work.textAt?, hshape]
    rfl
  show Except.ok (Build.assemble w.shapes (w.graph.size + 1) [] k, w) = _
  rw [assemble_of_textAt? htext]

/-- Keys with different names are different nodes. -/
theorem Field.key_ne {f f' : Field} (h : Means site g f.key (.text f.name))
    (h' : Means site g f'.key (.text f'.name))
    (hname : f.name ≠ f'.name) : f.key ≠ f'.key := by
  intro hkey
  obtain ⟨text, hcontent, hmakes⟩ := h.makes_of_text
  obtain ⟨text', hcontent', hmakes'⟩ := h'.makes_of_text
  rw [hkey] at hcontent hmakes
  cases hcontent.symm.trans hcontent'
  exact hname (Value.text.inj (hmakes.unique hmakes'))

/-- An entry as it is gathered. -/
def Field.made (f : Field) : NodeId × Value × NodeId := (f.key, .text f.name, f.node)

/-- Whether the entries for some fields have been gathered and are built. -/
def Entered (fields : List Field) (made : List (NodeId × Value × NodeId)) (w : Work) :
    Prop :=
  made = fields.map Field.made ∧ ∀ f ∈ fields, w.Built f.key ∧ w.Built f.node

/-- The entries of a mapping with different names are the fields, with all parts
built. -/
theorem goes_entries {fields : List Field} (hw : Inv site g todo w)
    (hcontent : (g.node i).content = .mapping (fields.map Field.entry))
    (htags : ∀ f ∈ fields, (g.node f.key).tag = textTag)
    (hkeys : ∀ f ∈ fields, Means site g f.key (.text f.name))
    (hnames : (fields.map (·.name)).Nodup) {sub : NodeId → Build Unit}
    (hsub : ∀ j, g.PartOf j i → ∀ w', Inv site g todo w' → w.Grows w' →
      Goes site g todo w' (sub j) fun _ w'' => w''.Built j) :
    Goes site g todo w (Build.entries sub i) fun es w' => es = fields.map Field.entry ∧
      ∀ j, g.PartOf j i → w'.Built j := by
  have hcontent' : (w.graph.node i).content = .mapping (fields.map Field.entry) :=
    hw.graph.symm ▸ hcontent
  have htags' : ∀ e ∈ fields.map Field.entry, (w.graph.node e.1).tag = textTag := by
    intro e he
    obtain ⟨f, hf, rfl⟩ := List.mem_map.mp he
    exact hw.graph.symm ▸ htags f hf
  have hentriesOf : Build.entriesOf i w = .ok (fields.map Field.entry, w) := by
    rw [Build.run_entriesOf, Graph.entries_of_mapping hcontent']
  rw [Build.entries]
  refine .after Build.run_node ?_
  rw [hcontent']
  dsimp only
  refine .after run_get (.after (Build.flatten_of_tags hcontent' htags' _)
    (.after hentriesOf ?_))
  rw [List.foldlM_map]
  -- the entries come one by one, and none has the name of an earlier one
  refine Goes.bind (Q := Entered fields) (Goes.foldlM (I := Entered) hw ?_ ⟨rfl,
    List.forall_mem_nil _⟩) ?_
  · rintro done f rest _ w' rfl hw' hgrows ⟨rfl, hdone⟩
    have hf : f ∈ done ++ f :: rest := by simp
    obtain ⟨hkeyPart, hnodePart⟩ := partOf_of_mapping hcontent hf
    dsimp only [Field.entry]
    refine (hsub f.key hkeyPart w' hw' hgrows).bind fun _ w₁ hw₁ hgrows₁ hkey => ?_
    refine .after (hw₁.valueOf_key (hkeys f hf) hkey) ?_
    dsimp only
    refine (hsub f.node hnodePart w₁ hw₁ (hgrows.trans hgrows₁)).bind fun _ w₂ hw₂
      hgrows₂ hnode => ?_
    have hnew : ∀ e ∈ done.map Field.made, e.1 ≠ f.key ∧
        Value.same e.2.1 (.text f.name) = false := by
      intro e he
      obtain ⟨f', hf', rfl⟩ := List.mem_map.mp he
      have hname : f'.name ≠ f.name := by
        rw [List.map_append, List.nodup_append] at hnames
        exact hnames.2.2 _ (List.mem_map_of_mem hf') _ (by simp)
      exact ⟨Field.key_ne (hkeys f' (List.mem_append_left _ hf')) (hkeys f hf) hname,
        same_text_eq_false hname⟩
    refine Goes.of_eq hw₂ rfl ⟨?_, ?_⟩
    · rw [Build.addEntry_of_new hnew, List.map_append]
      rfl
    · intro f' hf'
      rcases List.mem_append.mp hf' with hf' | hf'
      · obtain ⟨hkey', hnode'⟩ := hdone f' hf'
        exact ⟨hgrows₂.built _ (hgrows₁.built _ hkey'),
          hgrows₂.built _ (hgrows₁.built _ hnode')⟩
      · obtain rfl := List.mem_singleton.mp hf'
        exact ⟨hgrows₂.built _ hkey, hnode⟩
  · rintro _ w' hw' - ⟨rfl, hbuilt⟩
    refine Goes.of_eq hw' rfl ⟨?_, ?_⟩
    · rw [List.map_map]
      rfl
    · intro j hj
      rw [Graph.PartOf, hcontent] at hj
      obtain ⟨f, hf, rfl | rfl⟩ := mem_parts_mapping hj
      · exact (hbuilt f hf).1
      · exact (hbuilt f hf).2

/-! ### Building a node -/

section

variable {m : Maker} {n : Nat} (hw : Inv site g todo w) (h : Means site g i v)
    (hbuilt : ¬ w.Built i) (hactive : i ∉ w.active)
  (hmaker : site.registry.maker? (g.node i).tag = some m)

include hw h hbuilt hactive hmaker

/-- A node that gets all of its parts at once. -/
theorem goes_build_of_make (hm : Build.isContainer m = false)
    (hmake : Goes site g todo { w with active := i :: w.active }
      (Build.make site (Build.build site n) i m) fun s w' =>
      Becomes site g i s ∧ ∀ j, g.PartOf j i → w'.Built j) :
    Goes site g todo w (Build.build site (n + 1) i) fun _ w' => w'.Built i := by
  obtain ⟨s, w₁, hs, hw₁, hgrows, hbecomes, hparts⟩ := hmake
  have hlt : i < w₁.shapes.size := hw₁.size ▸ h.lt_size
  -- what was begun on the way has been finished
  have herase : w₁.active.erase i = w.active := by
    rw [hgrows.active]
    exact List.erase_cons_head ..
  refine ⟨(),
    { w₁.withShape i s with pending := w₁.pending, active := w₁.active.erase i },
    ?_, ?_, ⟨?_, herase, hgrows.fresh⟩, ?_⟩
  · -- the run: the shape is made, and the node is no container
    rw [Build.build_eq_complete hbuilt hactive (hw.graph.symm ▸ hmaker), Build.complete,
      run_bind_of_ok hs, hm]
    rfl
  · -- the node has become what it means, and its parts are built
    exact hw₁.withShape h.lt_size (.inl ⟨hbecomes, hparts⟩) (fun e he =>
      .inr he) (fun e he => .inl he) _
  · exact fun j hj => (Work.built_withShape hlt).mpr (.inr (hgrows.built j hj))
  · exact (Work.built_withShape hlt).mpr (.inl rfl)

/-- A container, which waits for its parts. -/
theorem goes_build_of_container (hm : Build.isContainer m = true) {s : Shape}
    (hmake : ∀ w, Build.make site (Build.build site n) i m w = .ok (s, w)) :
    Goes site g todo w (Build.build site (n + 1) i) fun _ w' => w'.Built i := by
  have hlt : i < w.shapes.size := hw.size ▸ h.lt_size
  have herase : (i :: w.active).erase i = w.active := List.erase_cons_head ..
  refine ⟨(),
    { w.withShape i s with
      pending := (i, m) :: w.pending
      active := (i :: w.active).erase i },
    ?_, ?_, ⟨?_, herase, ?_⟩, ?_⟩
  · -- the run: the shape is made at once, and the node is one of those that wait
    rw [Build.build_eq_complete hbuilt hactive (hw.graph.symm ▸ hmaker), Build.complete,
      run_bind_of_ok (hmake _), hm]
    rfl
  · -- it is on the list, so it need not have its parts yet
    refine hw.withShape h.lt_size (.inr ⟨m, by simp⟩) (fun e he =>
      .inr (List.mem_cons_of_mem _ he)) (fun e he => ?_) _
    rcases List.mem_cons.mp he with rfl | he
    · exact .inr ⟨rfl, hm, hmaker, v, h⟩
    · exact .inl he
  · exact fun j hj => (Work.built_withShape hlt).mpr (.inr hj)
  · -- the only new one on the list is the node itself, which was not built before
    intro e he
    rcases List.mem_cons.mp he with rfl | he
    · exact .inr hbuilt
    · exact .inl he
  · exact (Work.built_withShape hlt).mpr (.inl rfl)

end

/-- The work on a node begins. -/
theorem Inv.withActive (hw : Inv site g todo w) (active : List NodeId) :
    Inv site g todo { w with active } :=
  ⟨hw.graph, hw.size, hw.final, hw.waiting⟩

/-- The keys of the fields are their names. -/
theorem goes_keys {fields : List Field} (hw : Inv site g todo w)
    (hkeys : ∀ f ∈ fields, Means site g f.key (.text f.name))
    (hbuilt : ∀ f ∈ fields, w.Built f.key) :
    ((fields.map Field.entry).mapM
      fun e => do return (← Build.valueOf e.1, e.2) : Build (List (Value × NodeId))) w =
      .ok (fields.map fun f => (.text f.name, f.node), w) := by
  induction fields with
  | nil => rfl
  | cons f fields ih =>
      obtain ⟨hkey, hkeys⟩ := List.forall_mem_cons.mp hkeys
      obtain ⟨hf, hbuilt⟩ := List.forall_mem_cons.mp hbuilt
      rw [List.map_cons, List.mapM_cons, bind_assoc, Field.entry,
        run_bind_of_ok (hw.valueOf_key hkey hf), pure_bind,
        run_bind_of_ok (ih hkeys hbuilt)]
      rfl

/-- **A node with a meaning can be built.** -/
theorem goes_build (h : Means site g i v) {n : Nat} (hw : Inv site g todo w)
    (hbelow : g.Below w.active i)
    (hn : g.size < n + w.active.length) :
    Goes site g todo w (Build.build site n i) fun _ w' => w'.Built i := by
  have hacc := h.acc
  -- by induction on the parts, since a node is built after its parts; lists and
  -- mappings are only begun and wait
  induction hacc generalizing v n w with
  | intro i _ ih =>
      obtain ⟨n, rfl, hdown⟩ := hbelow.step h hn
      by_cases hbuilt : w.Built i
      · exact .of_eq hw (Build.build_of_built hbuilt) hbuilt
      have hactive := hbelow.not_mem h
      have hmeans := h
      cases h with
      | leaf hi hcontent hmakes =>
          have hbecomes : Becomes site g i (.leaf v) := .leaf hcontent hmakes
          obtain ⟨m, hmaker, hm, hmake⟩ := hmakes
          apply goes_build_of_make hw hmeans hbuilt hactive hmaker hm
          apply Goes.of_eq (hw.withActive _) (hmake _ _ _ (hw.graph.symm ▸ hcontent))
          refine ⟨hbecomes, fun j hj => ?_⟩
          rw [Graph.PartOf, hcontent] at hj
          cases hj
      | list hcontent hmaker =>
          exact goes_build_of_container hw hmeans hbuilt hactive hmaker rfl fun _ => rfl
      | map hcontent hmaker =>
          exact goes_build_of_container hw hmeans hbuilt hactive hmaker rfl fun _ => rfl
      | @settings _ a b c hcontent hmaker htags hkeys hnames hfields =>
          apply goes_build_of_make hw hmeans hbuilt hactive hmaker rfl
          have hnodup : ([a, b, c].map (·.name)).Nodup := by
            rw [hnames]
            decide
          have hsub : ∀ j, g.PartOf j i → ∀ w', Inv site g todo w' →
            Work.Grows { w with active := i :: w.active } w' →
              Goes site g todo w' (Build.build site n j) fun _ w'' => w''.Built j := by
            intro j hj w' hw' hgrows
            obtain ⟨u, hu⟩ := hmeans.part hj
            obtain ⟨hbelow', hn'⟩ := hdown j hj
            exact ih j hj hu hw' (hgrows.active.symm ▸ hbelow') (hgrows.active.symm ▸ hn')
          refine (goes_entries (hw.withActive _) hcontent htags hkeys hnodup hsub).bind
            fun es w' hw' _ hes => ?_
          obtain ⟨rfl, hparts⟩ := hes
          refine .after (goes_keys hw' hkeys fun f hf =>
            hparts _ (partOf_of_mapping hcontent hf).1) ?_
          rw [settingsOf_fields hnames]
          exact .of_eq hw' rfl ⟨.settings hcontent hmaker, hparts⟩

/-! ### Filling containers -/

/-- Parts that are built on their own. -/
theorem goes_part (h : Means site g i v) (hactive : w.active = []) {j : NodeId}
    (hj : g.PartOf j i) (hw : Inv site g todo w) :
    Goes site g todo w (Build.build site (g.size + 1) j) fun _ w' => w'.Built j := by
  obtain ⟨u, hu⟩ := h.part hj
  apply goes_build hu hw
  · rw [hactive]
    exact .nil
  · rw [hactive]
    exact Nat.lt_succ_self _

/-- A container that gets the shape which it has in the end does not wait any more. -/
theorem Inv.filled {m : Maker} (hw : Inv site g ((i, m) :: todo) w) (hi : i < g.size)
    {s : Shape} (hs : Becomes site g i s)
    (hparts : ∀ j, g.PartOf j i → w.Built j) :
    ∃ w', Build.setShape i s w = .ok ((), w') ∧ Inv site g todo w' ∧ w.Grows w' := by
  have hlt : i < w.shapes.size := hw.size ▸ hi
  refine ⟨{ w.withShape i s with pending := w.pending, active := w.active }, rfl, ?_, ?_,
    rfl, fun e he => .inl he⟩
  · -- the node leaves the list, and all others stay on it
    apply hw.withShape hi (.inl ⟨hs, hparts⟩)
    · intro e he
      rcases List.mem_append.mp he with he | he
      · exact .inr (List.mem_append_left _ he)
      · rcases List.mem_cons.mp he with rfl | he
        · exact .inl rfl
        · exact .inr (List.mem_append_right _ he)
    · intro e he
      rcases List.mem_append.mp he with he | he
      · exact .inl (List.mem_append_left _ he)
      · exact .inl (List.mem_append_right _ (List.mem_cons_of_mem _ he))
  · exact fun j hj => (Work.built_withShape hlt).mpr (.inr hj)

/-- One container is filled. -/
theorem fill_of_waiting {m : Maker} (hw : Inv site g ((i, m) :: todo) w)
    (hactive : w.active = []) :
    ∃ w', Build.fill (Build.build site (g.size + 1)) i m w = .ok ((), w') ∧
      Inv site g todo w' ∧ w.Grows w' := by
  obtain ⟨-, hcontainer, hmaker, v, hv⟩ := hw.waiting (i, m) (by simp)
  have hsub : ∀ j, g.PartOf j i → ∀ w', Inv site g ((i, m) :: todo) w' → w.Grows w' →
      Goes site g ((i, m) :: todo) w' (Build.build site (g.size + 1) j) fun _ w'' =>
        w''.Built j :=
    fun j hj w' hw' hgrows => goes_part hv (hgrows.active.trans hactive) hj hw'
  have hlt := hv.lt_size
  -- of the four meanings only lists and mappings are of nodes that wait
  cases hv with
  | leaf hi hcontent hmakes =>
      obtain ⟨m', hmaker', hleaf, -⟩ := hmakes
      cases hmaker.symm.trans hmaker'
      rw [hleaf] at hcontainer
      cases hcontainer
  | @list _ parts hcontent hmaker' =>
      cases hmaker.symm.trans hmaker'
      have hitems : Build.items i w = .ok (parts.map (·.1), w) := by
        rw [Build.items, run_bind_of_ok Build.run_node, hw.graph, hcontent]
        rfl
      obtain ⟨_, w₁, h₁, hw₁, hgrows₁, hbuilt⟩ := Goes.forM hw fun j hj =>
        hsub j (partOf_of_sequence hcontent hj)
      have hparts : ∀ j, g.PartOf j i → w₁.Built j := by
        intro j hj
        rw [Graph.PartOf, hcontent] at hj
        exact hbuilt j hj
      obtain ⟨w₂, h₂, hw₂, hgrows₂⟩ := hw₁.filled hlt (.list hcontent hmaker) hparts
      refine ⟨w₂, ?_, hw₂, hgrows₁.trans hgrows₂⟩
      rw [Build.fill, run_bind_of_ok hitems, run_bind_of_ok h₁, h₂]
  | @map _ fields hcontent hmaker' htags hkeys hnames =>
      cases hmaker.symm.trans hmaker'
      obtain ⟨_, w₁, h₁, hw₁, hgrows₁, rfl, hparts⟩ :=
        goes_entries hw hcontent htags hkeys hnames hsub
      obtain ⟨w₂, h₂, hw₂, hgrows₂⟩ := hw₁.filled hlt (.map hcontent hmaker) hparts
      refine ⟨w₂, ?_, hw₂, hgrows₁.trans hgrows₂⟩
      rw [Build.fill, run_bind_of_ok h₁, h₂]
  | settings hcontent hmaker' =>
      cases hmaker.symm.trans hmaker'
      cases hcontainer

/-- All containers of a round are filled. -/
theorem fill_all (hw : Inv site g todo w) (hactive : w.active = []) :
    ∃ w', (todo.forM fun e => Build.fill (Build.build site (g.size + 1)) e.1 e.2) w =
      .ok ((), w') ∧ Inv site g [] w' ∧ w.Grows w' := by
  induction todo generalizing w with
  | nil => exact ⟨w, rfl, hw, .refl w⟩
  | cons e todo ih =>
      obtain ⟨w₁, h₁, hw₁, hgrows₁⟩ := fill_of_waiting hw hactive
      obtain ⟨w₂, h₂, hw₂, hgrows₂⟩ := ih hw₁ (hgrows₁.active.trans hactive)
      exact ⟨w₂, (run_bind_of_ok h₁).trans h₂, hw₂, hgrows₁.trans hgrows₂⟩

/-- **Filling comes to an end.** A round after which something waits has built a node
that was not there. -/
theorem finish_of_inv {n : Nat} (hw : Inv site g [] w) (hactive : w.active = [])
    (hn : w.pending = [] ∨ w.unbuilt < n) :
    ∃ w', Build.finish site n w = .ok ((), w') ∧ Inv site g [] w' ∧ w'.pending = [] ∧
      ∀ i, w.Built i → w'.Built i := by
  induction n generalizing w with
  | zero => exact ⟨w, rfl, hw, hn.resolve_right (Nat.not_lt_zero _), fun _ h => h⟩
  | succ n ih =>
      obtain rfl := hw.graph
      rw [Build.finish]
      by_cases hpending : w.pending = []
      · refine ⟨w, ?_, hw, hpending, fun _ h => h⟩
        rw [run_bind_of_ok run_get, hpending]
        rfl
      -- in a round all that waits is filled; what waits afterwards was built in it
      have hround : Inv site w.graph w.pending.reverse { w with pending := [] } := by
        refine ⟨hw.graph, hw.size, fun j hj => ?_, fun e he => ?_⟩
        · refine (hw.final j hj).imp_right ?_
          rintro ⟨m, hm⟩
          exact ⟨m, by simpa using hm⟩
        · exact hw.waiting e (by simpa using he)
      obtain ⟨w₁, h₁, hw₁, hgrows₁⟩ := fill_all hround hactive
      -- so each round leaves fewer nodes to build, or nothing that waits
      have hless : w₁.pending = [] ∨ w₁.unbuilt < n := by
        rcases hwaits : w₁.pending with _ | ⟨e, rest⟩
        · exact .inl rfl
        · have he : e ∈ w₁.pending := by simp [hwaits]
          obtain ⟨hbuilt, -, -, v, hv⟩ := hw₁.waiting e (by simpa using he)
          have hnew : ¬ w.Built e.1 := (hgrows₁.fresh e he).resolve_left List.not_mem_nil
          have hlt : w₁.unbuilt < w.unbuilt :=
            Work.unbuilt_lt (hw₁.size.trans hw.size.symm) hgrows₁.built
              (hw.size ▸ hv.lt_size) hnew hbuilt
          exact .inr (Nat.lt_of_lt_of_le hlt
            (Nat.le_of_lt_succ (hn.resolve_left hpending)))
      obtain ⟨w₂, h₂, hw₂, hpending₂, hgrows₂⟩ :=
        ih hw₁ (hgrows₁.active.trans hactive) hless
      refine ⟨w₂, ?_, hw₂, hpending₂, fun i hi => hgrows₂ i (hgrows₁.built i hi)⟩
      rw [run_bind_of_ok run_get, if_neg (by simpa using hpending)]
      have hset : (set { w with pending := [] } : Build Unit) w =
        .ok ((), { w with pending := [] }) := rfl
      rw [run_bind_of_ok hset]
      exact (run_bind_of_ok h₁).trans h₂

/-- **Building a graph gives what its root means.** -/
theorem build_of_means {root : NodeId} (h : Means site g root v) :
    build site root g = .ok v := by
  let w₀ : Work := ⟨g, Array.replicate g.size none, [], []⟩
  have hnone : ∀ i, ¬ w₀.Built i := by
    intro i hi
    rw [Work.Built, Work.shapeAt?, Array.getElem?_replicate] at hi
    split at hi
    · cases hi
    · cases hi
  have hw₀ : Inv site g [] w₀ :=
    ⟨rfl, Array.size_replicate, fun i hi => absurd hi (hnone i), List.forall_mem_nil _⟩
  obtain ⟨_, w₁, h₁, hw₁, hgrows₁, hroot⟩ :=
    goes_build h (n := g.size + 1) hw₀ .nil (Nat.lt_succ_self _)
  have hcount : w₁.unbuilt < g.size + 1 := Nat.lt_succ_of_le (hw₁.size ▸ w₁.unbuilt_le)
  obtain ⟨w₂, h₂, hw₂, hpending, hgrows₂⟩ :=
    finish_of_inv (n := g.size + 1) hw₁ hgrows₁.active (.inr hcount)
  -- nothing waits any more, so every node that is built is final
  have hall : ∀ i, w₂.Built i → w₂.Final site i := by
    intro i hi
    refine (hw₂.final i hi).resolve_right ?_
    rintro ⟨m, hm⟩
    rw [hpending] at hm
    cases hm
  have hvalue : Build.assemble w₂.shapes (g.size + 1) [] root = v := by
    have hnil : w₂.graph.Below [] root := .nil
    apply assemble_of_means hall (hw₂.graph.symm ▸ h) (hgrows₂ root hroot) hnil
    rw [hw₂.graph]
    exact Nat.lt_succ_self _
  have hrun :
      (do Build.build site (g.size + 1) root; Build.finish site (g.size + 1)
          : Build Unit) w₀ = .ok ((), w₂) :=
    (run_bind_of_ok h₁).trans h₂
  rw [build, StateT.run]
  dsimp only
  rw [hrun]
  exact congrArg Except.ok hvalue

end RuleLint.Yaml
