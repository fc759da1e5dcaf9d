/-
RuleLint/Proofs/Merging.lean

What mappings merge.  An entry of a mapping may ask for the entries of another mapping,
or of several, to be put in front of its own ones, and those mappings may merge others
in turn.  `Graph.merged?` says what comes in front, from the entries as they are
written. `Build.flatten` does the same on the graph itself: it changes every mapping
that it comes through, may find a mapping changed already, and follows mappings only
down to a bound.

The bound never matters (`Build.flatten_eq_of_le`): a merging entry is taken away before
it is followed, so there are less of them in the graph with every level, also where
mappings merge one another in a circle.  And if they do not, then what is put in front
is what the entries say (`Build.entries_of_flatten`): at every level, mappings whose
merging is known have their entries as they were written or as they are to be, which is
`Graph.Unrolls`, and all others are left alone.
-/
import Mathlib.Algebra.Order.BigOperators.Group.List
import Mathlib.Algebra.Order.Group.Nat
import RuleLint.Proofs.Composing
import RuleLint.Proofs.Told

namespace RuleLint.Yaml

variable {α β : Type} {g g' : Graph} {i j k v : NodeId}
    {es merged own : List (NodeId × NodeId)} {w w' : Work}

/-! ### Changes of a graph -/

namespace Graph

/-- A graph with other entries of a mapping. -/
def withEntries (g : Graph) (i : NodeId) (es : List (NodeId × NodeId)) : Graph :=
  g.modify i fun nd => { nd with content := .mapping es }

/-- A graph in which a key for values is an ordinary text. -/
def withPlainKey (g : Graph) (k : NodeId) : Graph :=
  if (g.node k).tag = standardTag "value" then g.modify k fun nd =>
    { nd with tag := textTag } else g

theorem size_withEntries : (g.withEntries i es).size = g.size :=
  Array.size_modify

/-- The other nodes stay what they are. -/
theorem node_withEntries_of_ne (h : i ≠ j) : (g.withEntries i es).node j = g.node j :=
  node_modify_of_ne h _

theorem entries_withEntries_of_ne (h : i ≠ j) :
    (g.withEntries i es).entries j = g.entries j := by
  rw [entries, node_withEntries_of_ne h, entries]

theorem entries_withEntries_self (h : i < g.size) : (g.withEntries i es).entries i = es :=
  entries_of_mapping (by rw [withEntries, node_modify_self h])

/-- Entries have no say in which keys merge: the tag of a key has. -/
theorem isMerge_withEntries : (g.withEntries i es).isMerge k = g.isMerge k := by
  rw [isMerge, isMerge, withEntries]
  rcases node_modify g i k fun nd => { nd with content := .mapping es }
    with h | h <;> rw [h]

theorem size_withPlainKey : (g.withPlainKey k).size = g.size := by
  rw [withPlainKey]
  split
  · exact Array.size_modify
  · rfl

/-- A key changes its tag, never its content. -/
theorem content_withPlainKey :
    ((g.withPlainKey k).node j).content = (g.node j).content := by
  rw [withPlainKey]
  split
  · rcases node_modify g k j fun nd => { nd with tag := textTag } with h | h <;> rw [h]
  · rfl

theorem entries_withPlainKey : (g.withPlainKey k).entries j = g.entries j := by
  rw [entries, content_withPlainKey, entries]

/-- Neither a key for values nor a text asks for merging. -/
theorem isMerge_withPlainKey : (g.withPlainKey k).isMerge j = g.isMerge j := by
  rw [withPlainKey]
  split
  · rename_i hvalue
    by_cases hkj : k = j
    · subst hkj
      rcases node_modify g k k fun nd => { nd with tag := textTag } with h | h
      · rw [isMerge, h, isMerge]
      · rw [isMerge, h, isMerge, hvalue]
        show (textTag == standardTag "merge") = _
        decide
    · rw [isMerge, node_modify_of_ne hkj, isMerge]
  · rfl

/-- The entries of a mapping that do not ask for merging. -/
def explicit (g : Graph) (i : NodeId) : List (NodeId × NodeId) :=
  (g.entries i).filter fun e => !g.isMerge e.1

/-- Whether no entry asks for merging. -/
def Plain (g : Graph) (es : List (NodeId × NodeId)) : Prop :=
  ∀ e ∈ es, g.isMerge e.1 = false

/-- The entries that a mapping has by itself do not merge. -/
theorem plain_explicit : g.Plain (g.explicit i) :=
  fun e he => by simpa using (List.mem_filter.mp he).2

/-- What several mappings contribute does not merge if the parts do not. -/
theorem plain_flatten {parts : List (List (NodeId × NodeId))}
    (h : ∀ part ∈ parts, g.Plain part) : g.Plain parts.flatten := by
  intro e he
  obtain ⟨part, hpart, he⟩ := List.mem_flatten.mp he
  exact h part hpart e he

/-- How many entries of a mapping ask for merging. -/
def mergesAt (g : Graph) (i : NodeId) : Nat :=
  (g.entries i).countP fun e => g.isMerge e.1

/-- A mapping has no merging entries left when all its entries are plain. -/
theorem mergesAt_eq_zero : g.mergesAt i = 0 ↔ g.Plain (g.entries i) := by
  rw [mergesAt, List.countP_eq_zero]
  simp only [Plain, Bool.not_eq_true]

/-- A graph with the same keys, in so far as they ask for merging. -/
structure SameKeys (g g' : Graph) : Prop where
  size : g'.size = g.size
  isMerge : ∀ k, g'.isMerge k = g.isMerge k

/-- A graph in which no mapping, except for one, has more entries that ask for merging. -/
structure FewerBut (i : NodeId) (g g' : Graph) : Prop extends SameKeys g g' where
  le : ∀ j, j ≠ i → g'.mergesAt j ≤ g.mergesAt j

/-- A graph in which no mapping has more entries that ask for merging. -/
structure Fewer (g g' : Graph) : Prop extends SameKeys g g' where
  le : ∀ j, g'.mergesAt j ≤ g.mergesAt j

namespace SameKeys

theorem refl (g : Graph) : SameKeys g g :=
  ⟨rfl, fun _ => rfl⟩

theorem trans {g₁ g₂ : Graph} (h₁ : SameKeys g g₁) (h₂ : SameKeys g₁ g₂) :
    SameKeys g g₂ :=
  ⟨h₂.size.trans h₁.size, fun k => (h₂.isMerge k).trans (h₁.isMerge k)⟩

/-- Other entries do not make a key a merging one. -/
theorem withEntries (h : SameKeys g g') : SameKeys g (g'.withEntries i es) :=
  ⟨size_withEntries.trans h.size, fun k => isMerge_withEntries.trans (h.isMerge k)⟩

/-- A key for values that becomes a text was no merging one. -/
theorem withPlainKey (h : SameKeys g g') : SameKeys g (g'.withPlainKey k) :=
  ⟨size_withPlainKey.trans h.size, fun _ => isMerge_withPlainKey.trans (h.isMerge _)⟩

/-- Entries are plain in both graphs or in neither. -/
theorem plain_iff (h : SameKeys g g') : g'.Plain es ↔ g.Plain es := by
  simp only [Plain, h.isMerge]

theorem mergesAt_eq (h : SameKeys g g') : g'.mergesAt i = (g'.entries i).countP fun e =>
    g.isMerge e.1 := by
  simp only [mergesAt, h.isMerge]

end SameKeys

namespace Fewer

theorem refl (g : Graph) : Fewer g g :=
  ⟨.refl g, fun _ => le_rfl⟩

theorem trans {g₁ g₂ : Graph} (h₁ : Fewer g g₁) (h₂ : Fewer g₁ g₂) : Fewer g g₂ :=
  ⟨h₁.toSameKeys.trans h₂.toSameKeys, fun j => (h₂.le j).trans (h₁.le j)⟩

/-- Fewer merging entries at every node are fewer in the graph. -/
theorem mergeCount_le (h : Fewer g g') : g'.mergeCount ≤ g.mergeCount := by
  rw [mergeCount, mergeCount, List.countP_flatMap, List.countP_flatMap, h.size]
  exact List.sum_le_sum fun j _ => h.le j

end Fewer

namespace FewerBut

/-- What happens behind the step may change the mapping, too, as long as it does not
merge more. -/
theorem trans {g₁ g₂ : Graph} (h₁ : FewerBut i g g₁) (h₂ : Fewer g₁ g₂) :
    FewerBut i g g₂ :=
  ⟨h₁.toSameKeys.trans h₂.toSameKeys, fun j hj => (h₂.le j).trans (h₁.le j hj)⟩

/-- The mapping that is left out may have any entries. -/
theorem withEntries (h : FewerBut i g g') : FewerBut i g (g'.withEntries i es) := by
  refine ⟨h.toSameKeys.withEntries, fun j hj => ?_⟩
  rw [h.toSameKeys.withEntries.mergesAt_eq,
    entries_withEntries_of_ne hj.symm, ← h.mergesAt_eq]
  exact h.le j hj

/-- A key that becomes a text changes no entries. -/
theorem withPlainKey (h : FewerBut i g g') : FewerBut i g (g'.withPlainKey k) := by
  refine ⟨h.toSameKeys.withPlainKey, fun j hj => ?_⟩
  rw [h.toSameKeys.withPlainKey.mergesAt_eq, entries_withPlainKey, ← h.mergesAt_eq]
  exact h.le j hj

/-- With less entries that ask for merging at the mapping that was left out, there are
less in all. -/
theorem mergeCount_lt (h : FewerBut i g g') (hi : g'.mergesAt i < g.mergesAt i) :
    g'.mergeCount < g.mergeCount := by
  have hsize : i < g.size := by
    by_contra hout
    have hnone : g.entries i = [] := by
      rw [entries, node, Array.getElem?_eq_none (Nat.le_of_not_lt hout)]
      rfl
    rw [mergesAt.eq_def g, hnone] at hi
    exact absurd hi (Nat.not_lt_zero _)
  rw [mergeCount, mergeCount, List.countP_flatMap, List.countP_flatMap, h.size]
  refine List.sum_lt_sum _ _ (fun j _ => ?_) ⟨i, List.mem_range.mpr hsize, hi⟩
  by_cases hj : j = i
  · exact hj ▸ hi.le
  · exact h.le j hj

end FewerBut

end Graph

/-! ### Steps that agree -/

/-- Whether two steps agree on a state, and where they end if they succeed. -/
def Agrees (w : Work) (x y : Build α) (Q : α → Work → Prop) : Prop :=
  y w = x w ∧ ∀ a w', x w = .ok (a, w') → Q a w'

namespace Agrees

variable {x y : Build α} {Q Q' : α → Work → Prop}

/-- A computation that succeeds agrees with itself. -/
theorem of_ok {a : α} (h : x w = .ok (a, w')) (hq : Q a w') : Agrees w x x Q := by
  refine ⟨rfl, fun b w'' h' => ?_⟩
  cases h.symm.trans h'
  exact hq

/-- Two computations agree where they come down to others that do. -/
theorem of_eq {x' y' : Build α} (hx : x w = x' w') (hy : y w = y' w')
    (h : Agrees w' x' y' Q) : Agrees w x y Q := by
  rw [Agrees, hx, hy]
  exact h

/-- A refusal is the same refusal on both sides. -/
theorem refuse {context : Option (Context × Mark)} {problem : Problem} {mark : Mark} :
    Agrees w (Build.refuse context problem mark : Build α)
      (Build.refuse context problem mark) Q :=
  ⟨rfl, fun _ _ => nofun⟩

theorem imp (h : Agrees w x y Q) (hq : ∀ a w', Q a w' → Q' a w') : Agrees w x y Q' :=
  ⟨h.1, fun a w' hx => hq a w' (h.2 a w' hx)⟩

/-- Computations that agree, one after the other. -/
theorem bind {f f' : α → Build β} {R : β → Work → Prop} (h : Agrees w x y Q)
    (hf : ∀ a w', Q a w' → Agrees w' (f a) (f' a) R) :
    Agrees w (x >>= f) (y >>= f') R := by
  obtain ⟨heq, hq⟩ := h
  rw [Agrees, run_bind_congr heq]
  rcases hx : x w with e | ⟨a, w'⟩
  · rw [run_bind_of_error hx, run_bind_of_error hx]
    exact ⟨rfl, fun _ _ => nofun⟩
  · rw [run_bind_of_ok hx, run_bind_of_ok hx]
    exact hf a w' (hq a w' hx)

/-- A step that both take first. -/
theorem after {f f' : α → Build β} {R : β → Work → Prop} {a : α} (h : x w = .ok (a, w'))
    (hf : Agrees w' (f a) (f' a) R) :
    Agrees w (x >>= f) (x >>= f') R := by
  rw [Agrees, run_bind_of_ok h, run_bind_of_ok h]
  exact hf

/-- By induction on the list, with an invariant of the state. -/
theorem mapM {f f' : α → Build β} {I : Work → Prop} {S : β → Prop}
    {xs : List α} (hw : I w)
    (hf : ∀ a w', I w' → Agrees w' (f a) (f' a) fun b w'' => I w'' ∧ S b) :
    Agrees w (xs.mapM f) (xs.mapM f') fun bs w' => I w' ∧ ∀ b ∈ bs, S b := by
  induction xs generalizing w with
  | nil => exact of_ok rfl ⟨hw, List.forall_mem_nil _⟩
  | cons a xs ih =>
      rw [List.mapM_cons, List.mapM_cons]
      refine (hf a w hw).bind fun b w₁ hb => (ih hb.1).bind fun bs w₂ hbs => ?_
      exact of_ok rfl ⟨hbs.1, List.forall_mem_cons.mpr ⟨hb.2, hbs.2⟩⟩

end Agrees

/-! ### Enough steps -/

namespace Build

variable {follow follow' : NodeId → Build Unit} {start : Mark}
    {rest : List (NodeId × NodeId)} {n : Nat}

theorem run_setEntries :
    setEntries i es w = .ok ((), { w with graph := w.graph.withEntries i es }) :=
  rfl

/-- An entry of its own is kept, in reverse, and its key is made an ordinary one. -/
theorem gather_own (h : w.graph.isMerge k = false) :
    gather follow i start ((k, v) :: rest) merged own w =
      gather follow i start rest merged ((k, v) :: own)
        { w with graph := w.graph.withPlainKey k } := by
  rw [gather, run_bind_of_ok run_get, h, if_neg Bool.false_ne_true,
    run_bind_of_ok run_node, Graph.withPlainKey]
  split <;> rfl

/-- A merging entry is taken away before it is followed, and what it brings is put
behind what was brought before. -/
theorem gather_merge (h : w.graph.isMerge k = true) :
    gather follow i start ((k, v) :: rest) merged own w =
      (mergedBy follow start v >>= fun part =>
        gather follow i start rest (merged ++ part) own)
        { w with graph := w.graph.withEntries i (own.reverse ++ rest) } := by
  rw [gather, run_bind_of_ok run_get, h, if_pos rfl]
  rfl

/-- What is true of a mapping when everything that it merges has been put in front of
its own entries. -/
def Merges (w : Work) (j : NodeId) (w' : Work) : Prop :=
  w.graph.Fewer w'.graph ∧ w'.graph.mergesAt j = 0

/-- A mapping that is followed, with two ways to follow that agree on it. -/
theorem agrees_followed
    (hfollow : ∀ s, s < w.graph.size → Agrees w (follow s) (follow' s) fun _ =>
    Merges w s) (s : NodeId) :
    Agrees w (followed follow start s) (followed follow' start s) fun part w' =>
      w.graph.Fewer w'.graph ∧ w.graph.Plain part := by
  refine .after run_node ?_
  split
  · rename_i hcontent
    have hs : s < w.graph.size := Graph.lt_size_of_content fun _ h => by
      cases hcontent.symm.trans h
    refine (hfollow s hs).bind fun _ w' hmerges => ?_
    obtain ⟨hfewer, hnone⟩ := hmerges
    refine .of_ok run_entriesOf ⟨hfewer, ?_⟩
    exact hfewer.plain_iff.mp (Graph.mergesAt_eq_zero.mp hnone)
  · exact .refuse

/-- A merging entry asks for one mapping or for a sequence of them. -/
theorem agrees_mergedBy
    (hfollow : ∀ s w', w.graph.Fewer w'.graph → s < w'.graph.size →
      Agrees w' (follow s) (follow' s) fun _ => Merges w' s) (v : NodeId) :
    Agrees w (mergedBy follow start v) (mergedBy follow' start v) fun part w' =>
      w.graph.Fewer w'.graph ∧ w.graph.Plain part := by
  refine .after run_node ?_
  split
  · exact agrees_followed (fun s => hfollow s w (.refl _)) v
  · refine Agrees.bind (Q := fun parts w' => w.graph.Fewer w'.graph ∧ ∀ part ∈ parts,
      w.graph.Plain part) ?_ fun parts w' hparts => ?_
    · apply Agrees.mapM (.refl _)
      intro s w' hw'
      refine (agrees_followed (fun s => hfollow s w' hw') s).imp fun part w'' h =>
        ⟨hw'.trans h.1, ?_⟩
      exact hw'.plain_iff.mp h.2
    · refine .of_ok rfl ⟨hparts.1, Graph.plain_flatten fun part hpart => ?_⟩
      exact hparts.2 part (List.mem_reverse.mp hpart)
  · exact .refuse
  · exact .refuse

/-- Going through entries, with the graph `g` from before: the entries that ask for
merging become less with every one that is followed. -/
theorem agrees_gather
    (hfollow : ∀ s w', w'.graph.mergeCount < g.mergeCount → s < w'.graph.size →
      Agrees w' (follow s) (follow' s) fun _ => Merges w' s)
    (hw : g.FewerBut i w.graph) (hi : i < g.size)
    (hes : (es.countP fun e => g.isMerge e.1) ≤ g.mergesAt i) (hmerged : g.Plain merged)
    (hown : g.Plain own) :
    Agrees w (gather follow i start es merged own) (gather follow' i start es merged own)
      fun r w' =>
      g.FewerBut i w'.graph ∧ g.Plain r.1 ∧ r.2 = own.reverse ++ es.filter fun e =>
        !g.isMerge e.1 := by
  -- by induction on the entries; a merge is taken out of the graph before it is
  -- followed, so that fewer are left
  induction es generalizing w merged own with
  | nil =>
      refine .of_ok rfl ⟨hw, hmerged, ?_⟩
      rw [List.filter_nil, List.append_nil]
  | cons e rest ih =>
      obtain ⟨k, v⟩ := e
      rcases hk : g.isMerge k with _ | _
      · have hk' : w.graph.isMerge k = false := (hw.isMerge k).trans hk
        have hrest : (rest.countP fun e => g.isMerge e.1) ≤ g.mergesAt i := by
          rwa [List.countP_cons_of_neg (by simpa using hk)] at hes
        have hown' : g.Plain ((k, v) :: own) := List.forall_mem_cons.mpr ⟨hk, hown⟩
        refine .of_eq (gather_own hk') (gather_own hk')
          ((ih hw.withPlainKey hrest hmerged hown').imp fun r w' h => ?_)
        obtain ⟨hw', hplain, hr⟩ := h
        refine ⟨hw', hplain, ?_⟩
        rw [hr, List.reverse_cons, List.append_assoc, List.singleton_append,
          List.filter_cons_of_pos (by simpa using hk)]
      · have hk' : w.graph.isMerge k = true := (hw.isMerge k).trans hk
        have hrest : (rest.countP fun e => g.isMerge e.1) < g.mergesAt i := by
          rwa [List.countP_cons_of_pos (by simpa using hk)] at hes
        have hw₁ : g.FewerBut i (w.graph.withEntries i (own.reverse ++ rest)) :=
          hw.withEntries
        have hless : (w.graph.withEntries i (own.reverse ++ rest)).mergeCount <
            g.mergeCount := by
          apply hw₁.mergeCount_lt
          rw [hw₁.mergesAt_eq, Graph.entries_withEntries_self (hw.size.symm ▸ hi),
            List.countP_append, List.countP_reverse,
            List.countP_eq_zero.mpr fun e he => by simp [hown e he], Nat.zero_add]
          exact hrest
        have hfollow₁ : ∀ s w', (w.graph.withEntries i (own.reverse ++ rest)).Fewer
          w'.graph → s < w'.graph.size →
            Agrees w' (follow s) (follow' s) fun _ => Merges w' s :=
          fun s w' hw' hs => hfollow s w' (lt_of_le_of_lt hw'.mergeCount_le hless) hs
        refine .of_eq (gather_merge hk') (gather_merge hk')
          ((agrees_mergedBy hfollow₁ v).bind fun part w' h => ?_)
        obtain ⟨hfewer, hpart⟩ := h
        have hmerged' : g.Plain (merged ++ part) :=
          List.forall_mem_append.mpr ⟨hmerged, hw₁.plain_iff.mp hpart⟩
        refine (ih (hw₁.trans hfewer) hrest.le hmerged' hown).imp fun r w'' h => ?_
        obtain ⟨hw', hplain, hr⟩ := h
        refine ⟨hw', hplain, ?_⟩
        rw [hr, List.filter_cons_of_neg (by simpa using hk)]

/-- The number of entries that ask for merging bounds the steps: with more of them
nothing changes. -/
theorem agrees_flatten (n : Nat) (hn : w.graph.mergeCount < n) (hi : i < w.graph.size) :
    Agrees w (flatten n i) (flatten (n + 1) i) fun _ w' =>
      Merges w i w' ∧ ∃ more, w'.graph.entries i = more ++ w.graph.explicit i := by
  -- a number of steps above the count of merges is as good as one more
  induction n generalizing w i with
  | zero => exact absurd hn (Nat.not_lt_zero _)
  | succ n ih =>
      refine .after run_node (.after run_entriesOf ?_)
      have hself : w.graph.FewerBut i w.graph := ⟨.refl _, fun _ _ => le_rfl⟩
      refine (agrees_gather (g := w.graph) (fun s w' hw' hs =>
        (ih (by omega) hs).imp fun _ _ h => h.1) hself hi le_rfl
        (List.forall_mem_nil _) (List.forall_mem_nil _)).bind fun r w' h => ?_
      obtain ⟨hw', hplain, hr⟩ := h
      have hi' : i < w'.graph.size := hw'.size.symm ▸ hi
      have hentries : (w'.graph.withEntries i (r.1 ++ r.2)).entries i = r.1 ++
          w.graph.explicit i := by
        rw [Graph.entries_withEntries_self hi', hr]
        rfl
      have hnone : (w'.graph.withEntries i (r.1 ++ r.2)).mergesAt i = 0 := by
        rw [Graph.mergesAt_eq_zero, hw'.toSameKeys.withEntries.plain_iff, hentries]
        exact List.forall_mem_append.mpr ⟨hplain, Graph.plain_explicit⟩
      refine .of_ok rfl ⟨⟨⟨hw'.toSameKeys.withEntries, fun j => ?_⟩, hnone⟩,
        r.1, hentries⟩
      by_cases hj : j = i
      · subst hj
        exact hnone.symm ▸ Nat.zero_le _
      · exact hw'.withEntries.le j hj

/-- Steps beyond the number of merging entries change nothing. -/
theorem flatten_eq_of_le {m : Nat} (hn : w.graph.mergeCount < n)
    (hi : i < w.graph.size) (h : n ≤ m) :
    flatten m i w = flatten n i w := by
  induction m, h using Nat.le_induction with
  | base => rfl
  | succ m hm ih => exact (agrees_flatten m (hn.trans_le hm) hi).1.trans ih

end Build

/-! ### What a mapping merges -/

namespace Graph

/-- Whether a node is a mapping. -/
def isMapping (g : Graph) (i : NodeId) : Bool :=
  match (g.node i).content with
  | .mapping _ => true
  | _ => false

/-- All entries of a mapping: those that it merges are in front of its own. -/
def whole? (g : Graph) (merged? : NodeId → Option (List (NodeId × NodeId))) (i : NodeId) :
    Option (List (NodeId × NodeId)) :=
  if g.isMapping i then (merged? i).map (· ++ g.explicit i) else none

/-- What a merging entry with a value stands for: a mapping, or mappings in a list, of
which the first comes last. -/
def mergedBy? (g : Graph) (merged? : NodeId → Option (List (NodeId × NodeId)))
    (v : NodeId) : Option (List (NodeId × NodeId)) :=
  match (g.node v).content with
  | .mapping _ => g.whole? merged? v
  | .sequence subs =>
      (subs.mapM (g.whole? merged?)).map fun parts => parts.reverse.flatten
  | .scalar _ | .halves _ => none

/-- The entries that a mapping merges, if mappings that merge mappings are nested less
than `n` deep. -/
def merged? (g : Graph) : Nat → NodeId → Option (List (NodeId × NodeId))
  | 0, _ => none
  | n + 1, i =>
      (((g.entries i).filter fun e => g.isMerge e.1).mapM fun e =>
        g.mergedBy? (g.merged? n) e.2).map List.flatten

/-- A mapping is its entries. -/
theorem content_of_isMapping (h : g.isMapping i = true) :
    (g.node i).content = .mapping (g.entries i) := by
  rw [isMapping] at h
  split at h
  · rename_i es hes
    rw [hes, entries_of_mapping hes]
  · cases h

theorem isMapping_of_content (h : (g.node i).content = .mapping es) :
    g.isMapping i = true := by
  rw [isMapping, h]

theorem lt_size_of_isMapping (h : g.isMapping i = true) : i < g.size :=
  lt_size_of_content fun _ htext => by cases (content_of_isMapping h).symm.trans htext

variable {f f' : NodeId → Option (List (NodeId × NodeId))}
    {ms part : List (NodeId × NodeId)} {n : Nat}

/-- What a mapping contributes is what it merges, then what it has by itself. -/
theorem whole?_eq_some : g.whole? f i = some part ↔ g.isMapping i = true ∧ ∃ ms, f i =
    some ms ∧ ms ++ g.explicit i = part := by
  rw [whole?]
  split
  · rename_i h
    rw [Option.map_eq_some_iff, and_iff_right h]
  · rename_i h
    simp [h]

/-- What is merged one level up: the parts of all merging entries, in order. -/
theorem merged?_succ : g.merged? (n + 1) i = some ms ↔ ∃ parts,
    List.Forall₂ (fun e part => g.mergedBy? (g.merged? n) e.2 = some part)
      ((g.entries i).filter fun e => g.isMerge e.1) parts ∧
      parts.flatten = ms := by
  rw [merged?, Option.map_eq_some_iff]
  simp only [mapM_eq_some]

/-- What a merging entry stands for, if that of a mapping is known for all that is asked
for. -/
theorem mergedBy?_cases (h : g.mergedBy? f v = some part) :
    (∃ es, (g.node v).content = .mapping es) ∧ g.whole? f v = some part ∨
      ∃ subs parts, (g.node v).content = .sequence subs ∧
        List.Forall₂ (fun s p => g.whole? f s = some p) subs parts ∧
        parts.reverse.flatten = part := by
  rw [mergedBy?] at h
  split at h
  · rename_i es hes
    exact .inl ⟨⟨es, hes⟩, h⟩
  · rename_i subs hsubs
    obtain ⟨parts, hparts, h⟩ := Option.map_eq_some_iff.mp h
    exact .inr ⟨subs, parts, hsubs, mapM_eq_some.mp hparts, h⟩
  · cases h
  · cases h

/-- What a mapping contributes stays when more is known below it. -/
theorem whole?_mono (hf : ∀ j ms, f j = some ms → f' j = some ms)
    (h : g.whole? f i = some part) : g.whole? f' i = some part := by
  obtain ⟨hi, ms, hms, rfl⟩ := whole?_eq_some.mp h
  exact whole?_eq_some.mpr ⟨hi, ms, hf i ms hms, rfl⟩

/-- What an entry asks for stays when more is known below it. -/
theorem mergedBy?_mono (hf : ∀ j ms, f j = some ms → f' j = some ms)
    (h : g.mergedBy? f v = some part) :
    g.mergedBy? f' v = some part := by
  rcases mergedBy?_cases h with ⟨⟨es, hes⟩, h⟩ | ⟨subs, parts, hsubs, hparts, rfl⟩
  · rw [mergedBy?, hes]
    exact whole?_mono hf h
  · rw [mergedBy?, hsubs]
    exact Option.map_eq_some_iff.mpr ⟨parts, mapM_eq_some.mpr (hparts.imp fun _ _ =>
      whole?_mono hf), rfl⟩

/-- Another level changes nothing that is known already. -/
theorem merged?_mono (h : g.merged? n i = some ms) : g.merged? (n + 1) i = some ms := by
  induction n generalizing i ms with
  | zero => cases h
  | succ n ih =>
      obtain ⟨parts, hparts, rfl⟩ := merged?_succ.mp h
      exact merged?_succ.mpr ⟨parts, hparts.imp fun _ _ =>
        mergedBy?_mono fun _ _ => ih, rfl⟩

theorem merged?_eq_none_of_succ (h : g.merged? (n + 1) i = none) :
    g.merged? n i = none := by
  rcases hms : g.merged? n i with - | ms
  · rfl
  · rw [merged?_mono hms] at h
    cases h

/-- What a mapping contributes does not merge. -/
theorem plain_of_whole? (hf : ∀ j ms, f j = some ms → g.Plain ms)
    (h : g.whole? f i = some part) : g.Plain part := by
  obtain ⟨-, ms, hms, rfl⟩ := whole?_eq_some.mp h
  exact List.forall_mem_append.mpr ⟨hf i ms hms, plain_explicit⟩

/-- What is merged asks for nothing more. -/
theorem plain_of_merged? (h : g.merged? n i = some ms) : g.Plain ms := by
  induction n generalizing i ms with
  | zero => cases h
  | succ n ih =>
      obtain ⟨parts, hparts, rfl⟩ := merged?_succ.mp h
      refine plain_flatten (forall_mem_of_forall₂ hparts fun e part hpart => ?_)
      rcases mergedBy?_cases hpart with ⟨-, hpart⟩ | ⟨subs, parts, -, hparts, rfl⟩
      · exact plain_of_whole? (fun _ _ => ih) hpart
      · refine plain_flatten fun part hpart => ?_
        exact forall_mem_of_forall₂ hparts (fun _ _ => plain_of_whole? fun _ _ =>
          ih) part (List.mem_reverse.mp hpart)

/-- A graph in which each mapping with a known merging has its own entries, as before,
or has what it merges in front of them. -/
structure Unrolls (g : Graph) (n : Nat) (g' : Graph) : Prop extends SameKeys g g' where
  content : ∀ j, g.isMapping j = false → (g'.node j).content = (g.node j).content
  isMapping : ∀ j, g.isMapping j = true → g'.isMapping j = true
  entries : ∀ j ms, g.merged? n j = some ms → g'.entries j = g.entries j ∨ g'.entries j =
    ms ++ g.explicit j

namespace Unrolls

theorem refl (g : Graph) (n : Nat) : g.Unrolls n g :=
  ⟨.refl g, fun _ _ => rfl, fun _ h => h, fun _ _ _ => .inl rfl⟩

/-- What is unrolled to a level is so to those below. -/
theorem of_succ (h : g.Unrolls (n + 1) g') : g.Unrolls n g' :=
  ⟨h.toSameKeys, h.content, h.isMapping, fun j ms hms =>
    h.entries j ms (merged?_mono hms)⟩

/-- One level more, if what was known there before still holds. -/
theorem succ {g₁ : Graph} (h : g.Unrolls n g') (h₁ : g.Unrolls (n + 1) g₁)
    (hothers : ∀ j ms, g.merged? n j = none → g.merged? (n + 1) j = some ms →
      g'.entries j = g₁.entries j ∨ g'.entries j = ms ++ g.explicit j) :
        g.Unrolls (n + 1) g' := by
  refine ⟨h.toSameKeys, h.content, h.isMapping, fun j ms hms => ?_⟩
  rcases hn : g.merged? n j with - | ms'
  · rcases hothers j ms hn hms with heq | heq
    · rw [heq]
      exact h₁.entries j ms hms
    · exact .inr heq
  · cases (merged?_mono hn).symm.trans hms
    exact h.entries j ms hn

/-- A mapping whose merging is unknown at a level may have any entries. -/
theorem withEntries (h : g.Unrolls n g') (hi : g.isMapping i = true) (hsize : i < g.size)
    (hnone : g.merged? n i = none) :
    g.Unrolls n (g'.withEntries i es) := by
  refine ⟨h.toSameKeys.withEntries, fun j hj => ?_, fun j hj => ?_, fun j ms hms => ?_⟩
  · -- other nodes than the mapping are as they were
    have hij : i ≠ j := by
      rintro rfl
      rw [hi] at hj
      cases hj
    rw [node_withEntries_of_ne hij]
    exact h.content j hj
  · by_cases hij : i = j
    · subst hij
      exact isMapping_of_content
        (by rw [Graph.withEntries, node_modify_self (h.size.symm ▸ hsize)])
    · rw [Graph.isMapping, node_withEntries_of_ne hij]
      exact h.isMapping j hj
  · -- the merging of the mapping is not known, so nothing is said of its entries
    have hij : i ≠ j := by
      rintro rfl
      rw [hnone] at hms
      cases hms
    rw [entries_withEntries_of_ne hij]
    exact h.entries j ms hms

theorem withPlainKey (h : g.Unrolls n g') : g.Unrolls n (g'.withPlainKey k) := by
  refine ⟨h.toSameKeys.withPlainKey, fun j hj => ?_, fun j hj => ?_, fun j ms hms => ?_⟩
  · rw [content_withPlainKey]
    exact h.content j hj
  · rw [Graph.isMapping, content_withPlainKey]
    exact h.isMapping j hj
  · rw [entries_withPlainKey]
    exact h.entries j ms hms

end Unrolls

end Graph

/-! ### Merging succeeds -/

/-- Whether a step succeeds on a state, and where it ends. -/
def Reaches (w : Work) (x : Build α) (Q : α → Work → Prop) : Prop :=
  ∃ a w', x w = .ok (a, w') ∧ Q a w'

namespace Reaches

variable {x : Build α} {Q Q' : α → Work → Prop}

/-- A computation reaches what the one that it comes down to does. -/
theorem of_eq {x' : Build α} (hx : x w = x' w') (h : Reaches w' x' Q) :
    Reaches w x Q := by
  rw [Reaches, hx]
  exact h

theorem imp (h : Reaches w x Q) (hq : ∀ a w', Q a w' → Q' a w') : Reaches w x Q' := by
  obtain ⟨a, w', hx, h⟩ := h
  exact ⟨a, w', hx, hq a w' h⟩

/-- What the second one reaches, from all that the first one does. -/
theorem bind {f : α → Build β} {R : β → Work → Prop} (h : Reaches w x Q)
    (hf : ∀ a w', Q a w' → Reaches w' (f a) R) :
    Reaches w (x >>= f) R := by
  obtain ⟨a, w', hx, hq⟩ := h
  exact of_eq (run_bind_of_ok hx) (hf a w' hq)

end Reaches

namespace Build

variable {follow : NodeId → Build Unit} {start : Mark} {n : Nat}
    {ms part : List (NodeId × NodeId)}

/-- Where a step of merging may lead. -/
structure Unrolled (g : Graph) (n : Nat) (w w' : Work) : Prop where
  unrolls : g.Unrolls n w'.graph
  /-- Mappings whose merging is not known keep their entries. -/
  others : ∀ j, g.merged? n j = none → (w'.graph.node j).content =
    (w.graph.node j).content

theorem Unrolled.refl (h : g.Unrolls n w.graph) : Unrolled g n w w :=
  ⟨h, fun _ _ => rfl⟩

/-- Both steps keep to the graph, and change no other part of the state. -/
theorem Unrolled.trans {w₁ w₂ : Work} (h₁ : Unrolled g n w w₁) (h₂ : Unrolled g n w₁ w₂) :
    Unrolled g n w w₂ :=
  ⟨h₂.unrolls, fun j hj => (h₂.others j hj).trans (h₁.others j hj)⟩

section

variable (hfollow : ∀ s ms w', g.isMapping s = true → g.merged? n s = some ms →
    g.Unrolls n w'.graph →
  Reaches w' (follow s) fun _ w'' => Unrolled g n w' w'' ∧ w''.graph.entries s =
    ms ++ g.explicit s)

include hfollow

/-- A mapping that is followed contributes what it is known to. -/
theorem reaches_followed {s : NodeId} (hs : g.whole? (g.merged? n) s = some part)
    (hw : g.Unrolls n w.graph) :
    Reaches w (followed follow start s) fun p w' => p = part ∧ Unrolled g n w w' := by
  obtain ⟨hmapping, ms, hms, rfl⟩ := Graph.whole?_eq_some.mp hs
  refine .of_eq (run_bind_of_ok run_node) ?_
  rw [Graph.content_of_isMapping (hw.isMapping s hmapping)]
  refine (hfollow s ms w hmapping hms hw).bind fun _ w' h => ?_
  exact ⟨_, w', run_entriesOf, h.2, h.1⟩

/-- And so do several, by induction on them. -/
theorem reaches_mapM_followed {subs : List NodeId} {parts : List (List (NodeId × NodeId))}
    (hsubs : List.Forall₂ (fun s part => g.whole? (g.merged? n) s = some part) subs parts)
    (hw : g.Unrolls n w.graph) :
    Reaches w (subs.mapM (followed follow start)) fun ps w' => ps = parts ∧
      Unrolled g n w w' := by
  induction hsubs generalizing w with
  | nil => exact ⟨[], w, rfl, rfl, .refl hw⟩
  | cons hs _ ih =>
      rw [List.mapM_cons]
      refine (reaches_followed hfollow hs hw).bind fun p w₁ h₁ =>
        (ih h₁.2.unrolls).bind fun ps w₂ h₂ => ?_
      obtain ⟨rfl, h₁⟩ := h₁
      obtain ⟨rfl, h₂⟩ := h₂
      exact ⟨_, w₂, rfl, rfl, h₁.trans h₂⟩

/-- A merging entry brings what it asks for. -/
theorem reaches_mergedBy (hv : g.mergedBy? (g.merged? n) v = some part)
    (hw : g.Unrolls n w.graph) :
    Reaches w (mergedBy follow start v) fun p w' => p = part ∧ Unrolled g n w w' := by
  refine .of_eq (run_bind_of_ok run_node) ?_
  rcases Graph.mergedBy?_cases hv with ⟨⟨es, hes⟩, hv⟩ | ⟨subs, parts, hsubs, hparts, rfl⟩
  · rw [Graph.content_of_isMapping (hw.isMapping v (Graph.isMapping_of_content hes))]
    exact reaches_followed hfollow hv hw
  · have hkind : g.isMapping v = false := by rw [Graph.isMapping, hsubs]
    rw [hw.content v hkind, hsubs]
    refine (reaches_mapM_followed hfollow hparts hw).bind fun ps w' h => ?_
    obtain ⟨rfl, h⟩ := h
    exact ⟨_, w', rfl, rfl, h⟩

/-- The entries of a mapping whose merging is not known one level below are not touched
while they are gone through. -/
theorem reaches_gather {parts : List (List (NodeId × NodeId))} (hi : g.isMapping i = true)
    (hnone : g.merged? n i = none)
    (hparts : List.Forall₂ (fun e part => g.mergedBy? (g.merged? n) e.2 = some part)
      (es.filter fun e => g.isMerge e.1) parts)
    (hw : g.Unrolls n w.graph) :
    Reaches w (gather follow i start es merged own) fun r w' =>
      r = (merged ++ parts.flatten, own.reverse ++ es.filter fun e => !g.isMerge e.1) ∧
        g.Unrolls n w'.graph ∧
        ∀ j, j ≠ i → g.merged? n j = none → (w'.graph.node j).content =
          (w.graph.node j).content := by
  -- by induction on the entries; `parts` has what each merge among them brings
  induction es generalizing w merged own parts with
  | nil =>
      cases hparts
      refine ⟨_, w, rfl, ?_, hw, fun _ _ _ => rfl⟩
      rw [List.flatten_nil, List.append_nil, List.filter_nil, List.append_nil]
  | cons e rest ih =>
      obtain ⟨k, v⟩ := e
      rcases hk : g.isMerge k with _ | _
      · rw [List.filter_cons_of_neg (by simpa using hk)] at hparts
        refine .of_eq (gather_own ((hw.isMerge k).trans hk))
          ((ih hparts hw.withPlainKey).imp fun r w' h => ?_)
        obtain ⟨rfl, hw', hothers⟩ := h
        refine ⟨?_, hw', fun j hj hjnone =>
          (hothers j hj hjnone).trans Graph.content_withPlainKey⟩
        rw [List.reverse_cons, List.append_assoc, List.singleton_append,
          List.filter_cons_of_pos (by simpa using hk)]
      · rw [List.filter_cons_of_pos (by simpa using hk)] at hparts
        obtain ⟨part, parts, hpart, hrest, rfl⟩ := List.forall₂_cons_left_iff.mp hparts
        have hsize : i < g.size := Graph.lt_size_of_isMapping hi
        refine .of_eq (gather_merge ((hw.isMerge k).trans hk)) ?_
        refine (reaches_mergedBy hfollow hpart (hw.withEntries hi hsize hnone)).bind
          fun p w₁ h₁ => ?_
        obtain ⟨rfl, h₁⟩ := h₁
        refine (ih hrest h₁.unrolls).imp fun r w' h => ?_
        obtain ⟨rfl, hw', hothers⟩ := h
        refine ⟨?_, hw', fun j hj hjnone => ?_⟩
        · rw [List.filter_cons_of_neg (by simpa using hk), List.flatten_cons,
            List.append_assoc]
        · rw [hothers j hj hjnone, h₁.others j hjnone,
            Graph.node_withEntries_of_ne hj.symm]

/-- A mapping that was gone through before has nothing left to be merged. -/
theorem reaches_gather_entries (hi : g.isMapping i = true) (hnone : g.merged? n i = none)
    (hms : g.merged? (n + 1) i = some ms)
    (hw : g.Unrolls (n + 1) w.graph) :
    Reaches w (gather follow i start (w.graph.entries i) [] []) fun r w' =>
      r.1 ++ r.2 = ms ++ g.explicit i ∧ g.Unrolls n w'.graph ∧
        ∀ j, j ≠ i → g.merged? n j = none → (w'.graph.node j).content =
          (w.graph.node j).content := by
  rcases hw.entries i ms hms with hentries | hentries
  · -- the entries are as they were written
    obtain ⟨parts, hparts, rfl⟩ := Graph.merged?_succ.mp hms
    rw [hentries]
    refine (reaches_gather hfollow hi hnone hparts hw.of_succ).imp fun r w' h => ⟨?_, h.2⟩
    rw [h.1]
    rfl
  · -- the entries are as they are to be, and there is nothing left to merge
    have hplain : g.Plain (w.graph.entries i) := by
      rw [hentries]
      exact List.forall_mem_append.mpr ⟨Graph.plain_of_merged? hms, Graph.plain_explicit⟩
    have hparts : List.Forall₂ (fun e part => g.mergedBy? (g.merged? n) e.2 = some part)
        ((w.graph.entries i).filter fun e => g.isMerge e.1) [] := by
      rw [List.filter_eq_nil_iff.mpr fun e he => by simp [hplain e he]]
      exact .nil
    refine (reaches_gather hfollow hi hnone hparts hw.of_succ).imp fun r w' h => ⟨?_, h.2⟩
    rw [h.1, ← hentries]
    exact List.filter_eq_self.mpr fun e he => by simp [hplain e he]

end

/-- **What a mapping merges is put in front of its own entries**, if mappings that merge
mappings do not come back to one another. -/
theorem reaches_flatten {m : Nat} (hi : g.isMapping i = true)
    (hms : g.merged? n i = some ms) (hn : n ≤ m) (hw : g.Unrolls n w.graph) :
    Reaches w (flatten m i) fun _ w' => Unrolled g n w w' ∧ w'.graph.entries i = ms ++
      g.explicit i := by
  induction n generalizing i ms m w with
  | zero => cases hms
  | succ n ih =>
      obtain ⟨m, rfl⟩ : ∃ m', m = m' + 1 := ⟨m - 1, by omega⟩
      rcases hnone : g.merged? n i with - | ms'
      · -- all that is merged is known one level below, and the mapping itself is not
        have hsize : i < g.size := Graph.lt_size_of_isMapping hi
        refine .of_eq ((run_bind_of_ok run_node).trans (run_bind_of_ok run_entriesOf)) ?_
        refine (reaches_gather_entries (fun s ms w' hs hms hw' =>
          ih hs hms (Nat.le_of_succ_le_succ hn) hw') hi hnone hms hw).bind
          fun r w' h => ?_
        obtain ⟨hr, hw', hothers⟩ := h
        have hentries : (w'.graph.withEntries i (r.1 ++ r.2)).entries i = ms ++
            g.explicit i := by
          rw [Graph.entries_withEntries_self (hw'.size.symm ▸ hsize), hr]
        refine ⟨(), _, run_setEntries,
          ⟨(hw'.withEntries hi hsize hnone).succ hw fun j ms' hj hms' => ?_, fun j hj =>
          ?_⟩, hentries⟩
        · by_cases hij : i = j
          · subst hij
            cases hms.symm.trans hms'
            exact .inr hentries
          · left
            rw [Graph.entries_withEntries_of_ne hij, Graph.entries,
              hothers j (Ne.symm hij) hj, Graph.entries]
        · have hij : i ≠ j := by
            rintro rfl
            rw [hms] at hj
            cases hj
          rw [Graph.node_withEntries_of_ne hij]
          exact hothers j hij.symm (Graph.merged?_eq_none_of_succ hj)
      · -- nothing more is known about the mapping than one level below
        cases (Graph.merged?_mono hnone).symm.trans hms
        refine (ih hi hnone (by omega) hw.of_succ).imp fun _ w' h =>
          ⟨⟨h.1.unrolls.succ hw fun j ms hj _ => .inl ?_, fun j hj => ?_⟩, h.2⟩
        · rw [Graph.entries, h.1.others j hj, Graph.entries]
        · exact h.1.others j (Graph.merged?_eq_none_of_succ hj)

/-- What stands in front of the own entries of a mapping behind the merging, which is
what it merges. -/
theorem entries_of_flatten (hi : i < w.graph.size)
    (h : flatten (w.graph.mergeCount + 1) i w = .ok ((), w')) :
    ∃ merged, w'.graph.entries i = merged ++ w.graph.explicit i ∧
      ∀ n ms, w.graph.isMapping i = true → w.graph.merged? n i = some ms →
        merged = ms := by
  obtain ⟨-, merged, hmerged⟩ := (agrees_flatten _ (Nat.lt_succ_self _) hi).2 () w' h
  refine ⟨merged, hmerged, fun n ms hmapping hms => ?_⟩
  -- enough steps for the nesting give the same as there are
  have heq := flatten_eq_of_le (Nat.lt_succ_self _) hi
    (le_max_right n (w.graph.mergeCount + 1))
  obtain ⟨_, w'', hok, -, hentries⟩ :=
    reaches_flatten hmapping hms (le_max_left n (w.graph.mergeCount + 1))
      (.refl w.graph n)
  rw [heq, h] at hok
  cases hok
  rw [hmerged] at hentries
  exact List.append_cancel_right hentries

end Build

end RuleLint.Yaml
