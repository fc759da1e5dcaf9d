/-
RuleLint/Proofs/Scalars.lean

Scalars, from their tokens to their values.

A scalar may stand anywhere in a document, with a tag in front of it or without one.
Wherever the composer meets it (`Composer.AtScalar`), it adds one node, whose tag
depends on nothing but the scalar and its tag (`node_of_atScalar`).  Wherever the
builder comes to such a node, the maker of its tag decides alone what becomes of it:
nothing else that the registry knows has a say (`build_of_scalar`).

For a document that is nothing but a scalar the two together are `load_of_isScalar`.
-/
import RuleLint.Proofs.Work

namespace RuleLint.Yaml

variable {site : Site} {name text tag : String} {plain : Bool} {start : Mark} {m : Maker}
    {i : NodeId} {n : Nat}

/-! ### Documents -/

/-- Whether every character of a text may stand in a document. -/
def IsAllowed (text : String) : Prop :=
  ∀ c ∈ text.toList, isAllowed c = true

instance (text : String) : Decidable (IsAllowed text) :=
  List.decidableBAll _ text.toList

/-- What is allowed is composed and built. -/
theorem load_of_isAllowed [Host] (h : IsAllowed text) :
    load site text =
      (compose site.registry.plainTag (tokensOf text.toList) >>= fun nodes =>
      nodes.elim (.ok .null) fun p => build site p.1 p.2) := by
  have hfind : text.toList.findIdx? (!isAllowed ·) = none :=
    List.findIdx?_eq_none_iff.mpr fun c hc => by rw [h c hc]; rfl
  rw [load, hfind]
  refine congrArg (compose site.registry.plainTag (tokensOf text.toList) >>= ·)
    (funext fun nodes => ?_)
  cases nodes <;> rfl

/-! ### Composing -/

/-- The full tag that a tag token stands for, with some handles. -/
def fullTagOf? (handles : List (String × String)) : Option String → String → Option String
  | none, suffix => some suffix
  | some handle, suffix => (handles.lookup handle).map (· ++ suffix)

/-- Whether a scalar is in front of a composer, with its full tag if it has one, and
which tokens are behind it. -/
inductive Composer.AtScalar (c : Composer) : Option String → String → Bool → Mark →
    List Token → Prop
  | bare {t : Token} {rest : List Token} {text : String} {plain : Bool}
      (htokens : c.tokens = t :: rest)
      (ht : t.kind = .scalar text plain) : AtScalar c none text plain t.start rest
  | tagged {t u : Token} {rest : List Token} {handle : Option String}
      {suffix tag text : String} {plain : Bool}
      (htokens : c.tokens = t :: u :: rest) (ht : t.kind = .tag handle suffix)
      (htag : fullTagOf? c.handles handle suffix = some tag)
      (hu : u.kind = .scalar text plain) : AtScalar c (some tag) text plain t.start rest

/-- Whether a token belongs to the properties of a node. -/
def TokenKind.isProperty : TokenKind → Bool
  | .anchor _ | .tag _ _ => true
  | _ => false

/-- Whether a token can stand before the first node of a document. -/
def TokenKind.opensDocument : TokenKind → Bool
  | .directive _ | .documentStart | .streamEnd => true
  | _ => false

namespace Compose

variable {c : Composer} {t u : Token} {ts rest : List Token} {resolve : String → String}
    {block indentless : Bool}

/-- The first token is the one that is looked at. -/
theorem peek_cons (h : c.tokens = t :: ts) : peek c = .ok (t, c) := by
  obtain ⟨tokens, failure, graph, anchors, handles⟩ := c
  subst h
  rfl

theorem take_cons (h : c.tokens = t :: ts) :
    take c = .ok (t, { c with tokens := ts }) := by
  obtain ⟨tokens, failure, graph, anchors, handles⟩ := c
  subst h
  rfl

theorem discard_take_cons (h : c.tokens = t :: ts) :
    discard take c = .ok ((), { c with tokens := ts }) := by
  obtain ⟨tokens, failure, graph, anchors, handles⟩ := c
  subst h
  rfl

/-- A token that is neither an anchor nor a tag has no properties in front of it. -/
theorem properties_none (h : c.tokens = t :: ts) (ht : t.kind.isProperty = false) :
    properties c = .ok (⟨none, none, none, t.start⟩, c) := by
  rw [properties, run_bind_of_ok (peek_cons h)]
  cases hk : t.kind with
  | anchor => simp [hk, TokenKind.isProperty] at ht
  | tag => simp [hk, TokenKind.isProperty] at ht
  | _ => rfl

/-- A tag without an anchor, in front of a node. -/
theorem properties_tag {handle : Option String} {suffix : String}
    (h : c.tokens = t :: u :: ts) (ht : t.kind = .tag handle suffix)
    (hu : u.kind.isProperty = false) :
    properties c = .ok (⟨none, some (handle, suffix), some t.start, t.start⟩,
      { c with tokens := u :: ts }) := by
  rw [properties, run_bind_of_ok (peek_cons h), ht]
  dsimp only
  rw [run_bind_of_ok (discard_take_cons h), run_bind_of_ok (peek_cons rfl)]
  cases hk : u.kind with
  | anchor => simp [hk, TokenKind.isProperty] at hu
  | _ => rfl

/-- A tag is written out with what its handle stands for. -/
theorem fullTag_tag {p : Properties} {handle : Option String} {suffix tag : String}
    (hp : p.tag = some (handle, suffix))
    (htag : fullTagOf? c.handles handle suffix = some tag) :
    fullTag p c = .ok (some tag, c) := by
  rw [fullTag, hp]
  cases handle with
  | none =>
      cases htag
      rfl
  | some handle =>
      obtain ⟨uri, huri, rfl⟩ := Option.map_eq_some_iff.mp htag
      dsimp only
      rw [run_bind_of_ok run_get, huri]
      rfl

/-- The composer adds one node for a scalar. -/
theorem node_of_atScalar {tag : Option String}
    (h : c.AtScalar tag text plain start rest) :
    node resolve (n + 1) block indentless c = .ok (c.graph.size,
      { c with tokens := rest, graph := c.graph.push ⟨scalarTag resolve tag text plain,
        .scalar text, start⟩ }) := by
  cases h with
  | bare htokens ht =>
      -- without properties the token is looked at twice, before and behind where they
      -- could be
      rw [node, run_bind_of_ok (peek_cons htokens), ht]
      dsimp only
      rw [run_bind_of_ok (properties_none htokens (by rw [ht]; rfl)),
        run_bind_of_ok (show fullTag _ c = .ok (none, c) from rfl),
        run_bind_of_ok (peek_cons htokens), ht]
      dsimp only
      rw [run_bind_of_ok (discard_take_cons htokens)]
      rfl
  | @tagged t u _ handle suffix tag _ _ htokens ht htag hu =>
      have hfull : fullTag ⟨none, some (handle, suffix), some t.start, t.start⟩
        { c with tokens := u :: rest }
          = .ok (some tag, { c with tokens := u :: rest }) := fullTag_tag rfl htag
      rw [node, run_bind_of_ok (peek_cons htokens), ht]
      dsimp only
      rw [run_bind_of_ok (properties_tag htokens ht (by rw [hu]; rfl)),
        run_bind_of_ok hfull,
        run_bind_of_ok (peek_cons rfl), hu]
      dsimp only
      rw [run_bind_of_ok (discard_take_cons rfl)]
      rfl

/-- Behind the only document of a stream there is none. -/
theorem documentStart_of_streamEnd (h : c.tokens = t :: ts) (ht : t.kind = .streamEnd) :
    documentStart (n + 1) c = .ok (none, c) := by
  have hskip : skipDocumentEnds (n + 1) c = .ok ((), c) := by
    rw [skipDocumentEnds, run_bind_of_ok (peek_cons h), if_neg (by rw [ht]; decide)]
    rfl
  rw [documentStart, run_bind_of_ok hskip, run_bind_of_ok (peek_cons h), if_pos ht]
  rfl

/-- The only document of a stream is the node behind the start of the stream. -/
theorem singleDocument_of_node {s : Token} (htokens : c.tokens = s :: ts)
    (hts : ts = t :: rest)
    (ht : t.kind.opensDocument = false) {c' : Composer} {e : Token}
    (hnode : node resolve (n + 1) true false
      { c with tokens := ts, handles := defaultHandles } = .ok (i, c'))
    (hrest : c'.tokens = [e]) (he : e.kind = .streamEnd) :
    singleDocument resolve (n + 1) c = .ok (some i, c') := by
  have hfirst : firstDocument resolve (n + 1) { c with tokens := ts } =
      .ok (some i, c') := by
    rw [firstDocument, run_bind_of_ok (peek_cons hts)]
    -- three kinds of tokens do not begin the contents; of all others the node is read
    cases hk : t.kind with
    | directive => simp [hk, TokenKind.opensDocument] at ht
    | documentStart => simp [hk, TokenKind.opensDocument] at ht
    | streamEnd => simp [hk, TokenKind.opensDocument] at ht
    | _ =>
        show (node resolve (n + 1) true false >>= fun i => pure (some i))
          { c with tokens := ts, handles := defaultHandles } = _
        rw [run_bind_of_ok hnode]
        rfl
  rw [singleDocument, run_bind_of_ok (discard_take_cons htokens), run_bind_of_ok hfirst]
  dsimp only
  rw [run_bind_of_ok (peek_cons hrest), if_neg (by rw [he]; decide)]
  rw [run_bind_of_ok (documentStart_of_streamEnd hrest he)]
  rfl

end Compose

/-- The nodes of a stream with one document that is the node behind its start. -/
theorem compose_of_node {resolve : String → String} {s t e : Token} {rest : List Token}
    {c : Composer}
    (ht : t.kind.opensDocument = false)
    (hnode : Compose.node resolve (2 * (rest.length + 2) + 5) true false ⟨t :: rest, none,
      #[], [], defaultHandles⟩ = .ok (i, c))
    (hrest : c.tokens = [e]) (he : e.kind = .streamEnd) :
    compose resolve ⟨s :: t :: rest, none⟩ = .ok (some (i, c.graph)) := by
  have hsingle :=
    Compose.singleDocument_of_node (c := ⟨s :: t :: rest, none, #[], [], []⟩) rfl rfl ht
      hnode hrest he
  rw [compose]
  show (Compose.singleDocument resolve (2 * (rest.length + 2) + 5) ⟨s :: t :: rest, none,
    #[], [], []⟩ >>= _) = _
  rw [hsingle]
  rfl

/-- Whether a document is nothing but a scalar, with its full tag if it has one. -/
structure IsScalar (document : String) (tag : Option String) (text : String)
    (plain : Bool) (start : Mark) : Prop where
  allowed : IsAllowed document
  tokens : ∃ s ts e, tokensOf document.toList = ⟨s :: ts, none⟩ ∧ e.kind = .streamEnd ∧
    Composer.AtScalar ⟨ts, none, #[], [], defaultHandles⟩ tag text plain start [e]

/-- A document with one token between the ends of its stream. -/
theorem IsScalar.of_tokens {document : String} {s t e : Token}
    (hallowed : IsAllowed document)
    (htokens : tokensOf document.toList = ⟨[s, t, e], none⟩)
    (ht : t.kind = .scalar text plain) (he : e.kind = .streamEnd) :
    IsScalar document none text plain t.start :=
  ⟨hallowed, s, [t, e], e, htokens, he, .bare rfl ht⟩

/-- A document of one scalar is composed of one node. -/
theorem compose_of_isScalar {resolve : String → String} {document : String}
    {tag : Option String}
    (h : IsScalar document tag text plain start) :
    compose resolve (tokensOf document.toList)
      = .ok (some (0,
        #[⟨Compose.scalarTag resolve tag text plain, .scalar text, start⟩])) := by
  obtain ⟨s, ts, e, htokens, he, hat⟩ := h.tokens
  rw [htokens]
  have hnode (n : Nat) :=
    @Compose.node_of_atScalar text plain start n _ [e] resolve true false tag hat
  cases hat with
  | bare hts ht =>
      cases hts
      exact compose_of_node (by rw [ht]; rfl) (hnode _) rfl he
  | tagged hts ht htag hu =>
      cases hts
      exact compose_of_node (by rw [ht]; rfl) (hnode _) rfl he

/-! ### Building -/

namespace Build

variable {w : Work} {r r' : Registry} {sub sub' : NodeId → Build Unit}

theorem run_node : node i w = .ok (w.graph.node i, w) :=
  rfl

theorem run_entriesOf : entriesOf i w = .ok (w.graph.entries i, w) :=
  rfl

/-- A scalar has no items, and is refused where they are asked for. -/
theorem items_of_scalar (h : (w.graph.node i).content = .scalar text) :
    items i w = .error (.marked ⟨.constructing, none, none,
      .nodeExpected "sequence" "scalar", (w.graph.node i).start⟩) := by
  rw [items, run_bind_of_ok run_node, h]
  rfl

/-- Its text is there, and reading it changes nothing. -/
theorem text_of_scalar (h : (w.graph.node i).content = .scalar text) :
    Build.text i w = .ok (text, w) := by
  rw [Build.text, run_bind_of_ok run_get, scalarText,
    run_bind_of_ok run_get]
  dsimp only
  rw [h]
  rfl

/-- It is no sequence of mappings either. -/
theorem singles_of_scalar {context : Context}
    (h : (w.graph.node i).content = .scalar text) :
    singles sub context i w =
      .error (.marked ⟨.constructing, some context, some (w.graph.node i).start,
      .sequenceExpected "scalar", (w.graph.node i).start⟩) := by
  rw [singles, run_bind_of_ok run_node, h]
  rfl

/-- Whether a step leaves a state as it is if it succeeds. -/
def Leaves {α : Type} (w : Work) (x : Build α) : Prop :=
  Safe (· = w) (fun _ => True) x

/-- A step that succeeds without a change leaves the state. -/
theorem Leaves.of_eq_ok {α : Type} {x : Build α} {a : α} (h : x w = .ok (a, w)) :
    Leaves w x := by
  rintro _ rfl
  rw [h]
  exact .ok rfl

theorem Leaves.of_eq_error {α : Type} {x : Build α} {e : Failure} (h : x w = .error e) :
    Leaves w x := by
  rintro _ rfl
  rw [h]
  exact .error trivial

theorem Leaves.lift {α : Type} (z : Except Failure α) : Leaves w (liftM z) := by
  refine Safe.lift ?_
  cases z with
  | error e => exact .error trivial
  | ok a => exact .ok trivial

/-- To tell a failure at its line leaves the state as before. -/
theorem Leaves.toldAtLine {α : Type} {x : Build α} (hx : Leaves w x) :
    Leaves w (toldAtLine site i x) := by
  rintro _ rfl
  have hx := hx _ rfl
  unfold Build.toldAtLine
  split
  · rename_i heq
    rwa [heq] at hx
  · exact .error trivial

variable [Host]

/-- It has no entries. -/
theorem entries_of_scalar (h : (w.graph.node i).content = .scalar text) :
    entries sub i w
      = .error (.marked ⟨.constructing, none, none, .nodeExpected "mapping" "scalar",
        (w.graph.node i).start⟩) := by
  rw [entries, run_bind_of_ok run_node, h]
  rfl

/-- A scalar whose tag is that of a text is the text. -/
theorem make_text_of_scalar (h : (w.graph.node i).content = .scalar text) :
    make site sub i .text w = .ok (.leaf (.text text), w) := by
  rw [make, run_bind_of_ok (text_of_scalar h), run_bind_of_ok run_node, h]
  rfl

/-- What a maker makes of a scalar depends on nothing but the name of the document. -/
theorem make_of_scalar (h : (w.graph.node i).content = .scalar text) :
    make ⟨r, name⟩ sub i m w = make ⟨r', name⟩ sub' i m w := by
  cases m with
  | tuple =>
      rw [make, make, run_bind_of_error (items_of_scalar h),
        run_bind_of_error (items_of_scalar h)]
  | settings =>
      rw [make, make, run_bind_of_error (entries_of_scalar h),
        run_bind_of_error (entries_of_scalar h)]
  | steps =>
      rw [make, make]
      unfold toldAtLine
      rw [run_bind_of_error (items_of_scalar h), run_bind_of_error (items_of_scalar h)]
  | _ => rfl

/-- Filling a scalar does nothing or fails, whatever builds the parts that it does not
have. -/
theorem fill_of_scalar (h : (w.graph.node i).content = .scalar text) (m : Maker) :
    (∀ sub, fill sub i m w = .ok ((), w)) ∨ ∃ e, ∀ sub, fill sub i m w = .error e := by
  cases m with
  | list => exact .inr ⟨_, fun sub => run_bind_of_error (items_of_scalar h)⟩
  | map => exact .inr ⟨_, fun sub => run_bind_of_error (entries_of_scalar h)⟩
  | set => exact .inr ⟨_, fun sub => run_bind_of_error (entries_of_scalar h)⟩
  | orderedMap => exact .inr ⟨_, fun sub => run_bind_of_error (singles_of_scalar h)⟩
  | pairs => exact .inr ⟨_, fun sub => run_bind_of_error (singles_of_scalar h)⟩
  | _ => exact .inl fun sub => rfl

/-- Nothing is filled with scalars, or the first that should be is refused. -/
theorem forM_fill_of_scalars (h : ∀ i, ∃ t, (w.graph.node i).content = .scalar t)
    (es : List (NodeId × Maker)) :
    (∀ sub, es.forM (fun e => fill sub e.1 e.2) w = .ok ((), w)) ∨ ∃ e, ∀ sub,
      es.forM (fun e => fill sub e.1 e.2) w = .error e := by
  induction es with
  | nil => exact .inl fun sub => rfl
  | cons e es ih =>
      obtain ⟨t, ht⟩ := h e.1
      rcases fill_of_scalar ht e.2 with hok | ⟨f, hf⟩
      · -- the state is the same, so the rest decides
        have hcons (sub : NodeId → Build Unit) :
            (e :: es).forM (fun e => fill sub e.1 e.2) w = es.forM
            (fun e => fill sub e.1 e.2) w := run_bind_of_ok (hok sub)
        simp only [hcons]
        exact ih
      · exact .inr ⟨f, fun sub => run_bind_of_error (hf sub)⟩

/-- With nothing but scalars it does not matter what the registry knows once they are
made. -/
theorem finish_of_scalars (h : ∀ i, ∃ t, (w.graph.node i).content = .scalar t) (n : Nat) :
    finish ⟨r, name⟩ n w = finish ⟨r', name⟩ n w := by
  induction n generalizing w with
  | zero => rfl
  | succ n ih =>
      rw [finish, finish, run_bind_of_ok run_get,
        run_bind_of_ok run_get]
      by_cases hpending : w.pending.isEmpty = true
      · rw [if_pos hpending, if_pos hpending]
      · rw [if_neg hpending, if_neg hpending]
        have hset (w' : Work) : (set w' : Build PUnit) w = .ok (PUnit.unit, w') := rfl
        rw [run_bind_of_ok (hset _), run_bind_of_ok (hset _)]
        have hscalars : ∀ i, ∃ t,
          (({ w with pending := [] } : Work).graph.node i).content = .scalar t := h
        -- nothing can be filled, or the first that should be fails, with every registry
        rcases forM_fill_of_scalars hscalars w.pending.reverse with hok | ⟨e, he⟩
        · have hround (site : Site) :=
            run_bind_of_ok (f := fun _ => finish site n)
              (hok (build site (w.graph.size + 1)))
          exact (hround _).trans ((ih hscalars).trans (hround _).symm)
        · exact (run_bind_of_error (he _)).trans (run_bind_of_error (he _)).symm

/-- Gives a node the shape that a step makes, lets it wait if it is a container, and
ends the work on it. -/
def complete (i : NodeId) (m : Maker) (x : Build Shape) : Build Unit := do
  setShape i (← x)
  if isContainer m then modify fun w => { w with pending := (i, m) :: w.pending }
  modify fun w => { w with active := w.active.erase i }

/-- A node is built once. -/
theorem build_of_built (h : w.Built i) : build site (n + 1) i w = .ok ((), w) := by
  have hsome : (w.shapes[i]?).join.isSome = true := h
  rw [build, run_bind_of_ok run_get, if_pos hsome]
  rfl

/-- A node that is not there is made by the maker of its tag. -/
theorem build_eq_complete (hbuilt : ¬ w.Built i) (hactive : i ∉ w.active)
    (hmaker : site.registry.maker? (w.graph.node i).tag = some m) :
    build site (n + 1) i w = complete i m (make site (build site n) i m)
      { w with active := i :: w.active } := by
  have hnone : ¬ (w.shapes[i]?).join.isSome = true := hbuilt
  rw [build, run_bind_of_ok run_get]
  dsimp only
  rw [if_neg hnone, if_neg (by simpa using hactive), hmaker]
  rfl

/-- Wherever a scalar is built, the maker of its tag alone decides what becomes of it. -/
theorem build_of_scalar (h : (w.graph.node i).content = .scalar text)
    (hactive : i ∉ w.active)
    (hmaker : r.maker? (w.graph.node i).tag = some m)
    (hmaker' : r'.maker? (w.graph.node i).tag = some m) :
    build ⟨r, name⟩ (n + 1) i w = build ⟨r', name⟩ (n + 1) i w := by
  by_cases hbuilt : w.Built i
  · rw [build_of_built hbuilt, build_of_built hbuilt]
  · rw [build_eq_complete hbuilt hactive hmaker, build_eq_complete hbuilt hactive hmaker']
    exact run_bind_congr (make_of_scalar h)

/-- Every maker leaves the state when it makes something of a scalar. -/
theorem leaves_make_of_scalar (h : (w.graph.node i).content = .scalar text) :
    Leaves w (make site sub i m) := by
  have htext : Leaves w (Build.text i) := .of_eq_ok (text_of_scalar h)
  cases m with
  | null => exact htext.discard.bind fun _ => .pure _
  | bool => exact htext.bind fun t => (Leaves.lift (boolOf t)).bind fun _ => .pure _
  | int => exact htext.bind fun t => (Leaves.lift (intOf t)).bind fun _ => .pure _
  | float => exact htext.bind fun t => (Leaves.lift (floatOf t)).bind fun _ => .pure _
  | timestamp =>
      exact htext.bind fun t => (Leaves.lift (timestampOf t)).bind fun _ => .pure _
  | complex =>
      refine htext.bind fun t => ?_
      split
      · exact .pure _
      · exact .throw trivial
  | bytes =>
      exact htext.bind fun t => (Leaves.of_eq_ok run_node).bind fun nd =>
        (Leaves.lift (binaryOf t nd.start)).bind fun _ => .pure _
  | text =>
      refine htext.bind fun t => (Leaves.of_eq_ok run_node).bind fun nd => ?_
      split
      · exact .pure _
      · exact .pure _
  | list | map | set | orderedMap | pairs =>
      -- containers look at their content only when they are filled
      exact .pure _
  | tuple => exact .of_eq_error (run_bind_of_error (items_of_scalar h))
  | settings => exact .of_eq_error (run_bind_of_error (entries_of_scalar h))
  | labelled label => exact htext.bind fun _ => .pure _
  | glob => exact .toldAtLine (htext.bind fun _ => .pure _)
  | xpath =>
      refine .toldAtLine (htext.bind fun t => ?_)
      split
      · exact .pure _
      · exact .throw trivial
  | regex =>
      refine .toldAtLine (htext.bind fun t => ?_)
      split
      · exact .pure _
      · exact .throw trivial
  | steps => exact .toldAtLine (.of_eq_error (run_bind_of_error (items_of_scalar h)))

/-- Building a scalar changes no node. -/
theorem graph_of_build {w' : Work} (h : (w.graph.node i).content = .scalar text)
    (hbuilt : ¬ w.Built i) (hactive : i ∉ w.active)
    (hmaker : site.registry.maker? (w.graph.node i).tag = some m)
    (hbuild : build site (n + 1) i w = .ok ((), w')) :
    w'.graph = w.graph := by
  rw [build_eq_complete hbuilt hactive hmaker] at hbuild
  obtain ⟨s, w₁, hmake, hrest⟩ := run_bind.mp hbuild
  -- no maker changes the graph for a scalar
  have hleaves :
    Leaves { w with active := i :: w.active } (make site (build site n) i m) :=
      leaves_make_of_scalar h
  have hw₁ := hleaves _ rfl
  rw [hmake] at hw₁
  cases hw₁ with
  | ok hw₁ =>
      dsimp only at hw₁
      subst hw₁
      revert hrest
      split
      · rintro ⟨⟩
        rfl
      · rintro ⟨⟩
        rfl

end Build

theorem content_node_singleton (g : Graph) (hg : g = #[⟨tag, .scalar text, start⟩])
    (i : NodeId) :
    ∃ t, (g.node i).content = .scalar t := by
  subst hg
  cases i with
  | zero => exact ⟨text, rfl⟩
  | succ i => exact ⟨"", rfl⟩

section Alone

variable [Host]

/-- What a maker makes of a scalar with a tag when nothing else is known. -/
def Maker.ofScalar (m : Maker) (name tag text : String) (start : Mark) :
    Except Failure Value :=
  build ⟨⟨[(tag, m)], []⟩, name⟩ 0 #[⟨tag, .scalar text, start⟩]

/-- A document of one scalar gives what the maker for its tag makes of it. -/
theorem build_of_maker? {r : Registry} (hmaker : r.maker? tag = some m) :
    build ⟨r, name⟩ 0 #[⟨tag, .scalar text, start⟩] = m.ofScalar name tag text start := by
  let w : Work := ⟨#[⟨tag, .scalar text, start⟩], Array.replicate 1 none, [], []⟩
  let alone : Registry := ⟨[(tag, m)], []⟩
  have hcontent : (w.graph.node 0).content = .scalar text := rfl
  have hbuilt : ¬ w.Built 0 := by simp [w, Work.Built, Work.shapeAt?]
  have halone : alone.maker? (w.graph.node 0).tag = some m := List.lookup_cons_self
  have hbuild : Build.build ⟨alone, name⟩ 2 0 w = Build.build ⟨r, name⟩ 2 0 w :=
    Build.build_of_scalar hcontent List.not_mem_nil halone hmaker
  have hrun : (do Build.build ⟨r, name⟩ 2 0; Build.finish ⟨r, name⟩ 2 : Build Unit) w
      = (do Build.build ⟨alone, name⟩ 2 0; Build.finish ⟨alone, name⟩ 2 : Build Unit)
        w := by
    rcases hr : Build.build ⟨r, name⟩ 2 0 w with e | ⟨u, w'⟩
    · rw [run_bind_of_error hr, run_bind_of_error (hbuild.trans hr)]
    · rw [run_bind_of_ok hr, run_bind_of_ok (hbuild.trans hr)]
      have hgraph : w'.graph = w.graph :=
        Build.graph_of_build hcontent hbuilt List.not_mem_nil hmaker hr
      exact Build.finish_of_scalars (content_node_singleton w'.graph hgraph) 2
  exact congrArg (· >>= fun p => .ok (Build.assemble p.2.shapes 2 [] 0)) hrun

/-- A document that is nothing but a scalar is what the maker of its tag makes of it. -/
theorem load_of_isScalar {r : Registry} {document : String} {given : Option String}
    (h : IsScalar document given text plain start)
    (htag : Compose.scalarTag r.plainTag given text plain = tag)
    (hmaker : r.maker? tag = some m) :
    load ⟨r, name⟩ document = m.ofScalar name tag text start := by
  rw [load_of_isAllowed h.allowed, compose_of_isScalar h, htag]
  exact build_of_maker? hmaker

/-- A maker that needs nothing but the text of a scalar gives its value at once. -/
theorem Maker.ofScalar_of_make {v : Value} (hm : Build.isContainer m = false)
    (hmake : ∀ sub w, (w.graph.node 0).content = .scalar text →
      Build.make ⟨⟨[(tag, m)], []⟩, name⟩ sub 0 m w = .ok (.leaf v, w)) :
    m.ofScalar name tag text start = .ok v := by
  let w : Work := ⟨#[⟨tag, .scalar text, start⟩], Array.replicate 1 none, [], []⟩
  let alone : Site := ⟨⟨[(tag, m)], []⟩, name⟩
  have hbuilt : ¬ w.Built 0 := by simp [w, Work.Built, Work.shapeAt?]
  have hmaker : alone.registry.maker? (w.graph.node 0).tag = some m :=
    List.lookup_cons_self
  have hbuild : Build.build alone 2 0 w =
      .ok ((), { w with shapes := #[some (.leaf v)] }) := by
    rw [Build.build_eq_complete hbuilt List.not_mem_nil hmaker, Build.complete,
      run_bind_of_ok (hmake _ _ rfl), hm]
    rfl
  show ((do Build.build alone 2 0; Build.finish alone 2 : Build Unit) w >>= _) = _
  rw [run_bind_of_ok hbuild]
  rfl

theorem Maker.ofScalar_labelled (label : String) :
    (Maker.labelled label).ofScalar name tag text start =
      .ok (.list [.text label, .text text]) :=
  ofScalar_of_make rfl fun _ _ h => run_bind_of_ok (Build.text_of_scalar h)

/-- A pattern is taken from the directory of the configuration, without its sign. -/
theorem Maker.ofScalar_glob :
    Maker.glob.ofScalar name tag text start =
      .ok (.text (Path.join (Path.dirname name)
      (String.ofList (text.toList.drop 3)))) := by
  refine ofScalar_of_make rfl fun _ _ h => ?_
  rw [Build.make, Build.toldAtLine, run_bind_of_ok (Build.text_of_scalar h)]
  rfl

end Alone

/-! ### Patterns below the directory of a document -/

section Tilde

variable (rest : List Char)

/-- No word that stands for a value starts as a pattern does. -/
theorem contains_tilde {words : List String}
    (h : words.all (fun w => w.toList.take 2 != ['~', '+']) = true) :
    words.contains (String.ofList ('~' :: '+' :: rest)) = false := by
  rw [Bool.eq_false_iff]
  intro hcontains
  have hmem := List.all_eq_true.mp h _ (List.contains_iff_mem.mp hcontains)
  simp at hmem

/-- No number starts with a tilde. -/
theorem isFloat_tilde : isFloat ('~' :: '+' :: rest) = false := by
  have hunsigned : unsigned ('~' :: '+' :: rest) = '~' :: '+' :: rest := rfl
  have hsixty : isPointedSixty ('~' :: '+' :: rest) = false := by
    rw [isPointedSixty]
    split <;> rfl
  rw [isFloat, hunsigned, hsixty, contains_tilde rest (by decide),
    contains_tilde rest (by decide)]
  rfl

theorem exists_withoutBreak_tilde : ∃ front, withoutBreak ('~' :: '+' :: '/' :: rest) =
    '~' :: '+' :: front := by
  rw [withoutBreak]
  split
  · exact ⟨('/' :: rest).dropLast, rfl⟩
  · exact ⟨'/' :: rest, rfl⟩

/-- A tilde and a plus sign begin nothing of a standard type. -/
theorem standardType?_tilde {s : String} (h : s.toList = '~' :: '+' :: '/' :: rest) :
    standardType? s = none := by
  obtain ⟨front, hfront⟩ := exists_withoutBreak_tilde rest
  have hne : ∀ w : String, w.toList.take 2 ≠ ['~', '+'] →
      String.ofList ('~' :: '+' :: front) ≠ w := by
    rintro w hw rfl
    simp at hw
  have hbool : boolWords.contains (String.ofList ('~' :: '+' :: front)) = false :=
    contains_tilde front (by decide)
  have hnull : nullWords.contains (String.ofList ('~' :: '+' :: front)) = false :=
    contains_tilde front (by decide)
  have hint : isInt ('~' :: '+' :: front) = false := rfl
  have htime : isTimestamp ('~' :: '+' :: front) = false := rfl
  unfold standardType?
  rw [h, hfront]
  simp only [hbool, hnull, hint, htime, isFloat_tilde, Bool.and_false, Bool.false_eq_true,
    if_false, hne "<<" (by decide), hne "=" (by decide),
    hne "!" (by decide), hne "&" (by decide), hne "*" (by decide), or_false]

end Tilde

/-- What is a pattern, of the plain scalars. -/
theorem plainTag_tilde {s : String} {rest : List Char}
    (h : s.toList = '~' :: '+' :: '/' :: rest) (hne : rest ≠ [])
    (hbreak : rest.head? ≠ some '\n') :
    Registry.configuration.plainTag s = "!glob" := by
  have hfits : Cue.glob.fits s = true := by
    rw [Cue.fits, h]
    cases rest with
    | nil => exact absurd rfl hne
    | cons c rest =>
        have hc : c ≠ '\n' := fun hc => hbreak (congrArg some hc)
        simp [hasMore, hc]
  rw [Registry.plainTag, standardType?_tilde rest h]
  simp [Registry.configuration, hfits]

end RuleLint.Yaml
