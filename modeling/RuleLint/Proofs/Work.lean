/-
RuleLint/Proofs/Work.lean

The state of the builder of a document.  The builder goes from node to node with a state
that says what each node has become, which nodes are being built and which containers
wait for their parts.  `Work.Sound` is the invariant of that state and `Work.Advances`
what a step may do to it: what has been built stays, at least in so far as it is a text
or not, and a node that is being built is not built by anybody else.

`Works` says of a step that it keeps the invariant and advances, from where one thing
holds to where another does.  There is one rule for each way to put steps together, so
that what is said about the builder follows its text.
-/
import Mathlib.Data.List.Perm.Subperm
import RuleLint.Proofs.Loadable
import RuleLint.Proofs.Steps
import RuleLint.Yaml.Build

namespace RuleLint.Yaml

/-! ### What nodes have become -/

/-- What a node has become so far. -/
def Work.shapeAt? (w : Work) (i : NodeId) : Option Shape :=
  (w.shapes[i]?).join

/-- The text that a shape is. -/
def Shape.text? : Shape → Option String
  | .leaf (.text s) => some s
  | _ => none

/-- The text that a node has become. -/
def Work.textAt? (w : Work) (i : NodeId) : Option String :=
  (w.shapeAt? i).bind Shape.text?

/-- Whether a node is built, possibly without its parts. -/
def Work.Built (w : Work) (i : NodeId) : Prop :=
  (w.shapeAt? i).isSome = true

/-- Whether a node is a container, possibly without its parts. -/
def Work.Waits (w : Work) (i : NodeId) : Prop :=
  w.Built i ∧ w.textAt? i = none

/-- Whether the keys of entries are built and no two are the same text. -/
structure Work.KeysApart (w : Work) (es : List (NodeId × NodeId)) : Prop where
  built : ∀ e ∈ es, w.Built e.1
  apart : es.Pairwise fun a b => ∀ s, w.textAt? a.1 = some s → w.textAt? b.1 ≠ some s

/-- Whether a shape is one that a document can give. -/
def Shape.Sound (w : Work) : Shape → Prop
  | .leaf v => v.Loadable
  | .map es => w.KeysApart es
  | _ => True

/-- The invariant of the builder. -/
structure Work.Sound (w : Work) : Prop where
  shapes : ∀ i s, w.shapeAt? i = some s → s.Sound w
  waiting : ∀ e ∈ w.pending, w.Waits e.1
  size : w.shapes.size = w.graph.size
  active_nodup : w.active.Nodup
  active_lt : ∀ i ∈ w.active, i < w.graph.size

/-- Whether what is built stays what it is, in so far as it is a text or not. -/
def Work.Keeps (w w' : Work) : Prop :=
  ∀ i, w.Built i → w'.Built i ∧ w'.textAt? i = w.textAt? i

/-- What a step of the builder may do. -/
structure Work.Advances (w w' : Work) : Prop where
  keeps : w.Keeps w'
  size : w'.graph.size = w.graph.size
  active : w'.active = w.active
  /-- A node that is being built waits for the step to end. -/
  idle : ∀ i ∈ w.active, ¬ w.Built i → ¬ w'.Built i

namespace Work

variable {w w₁ w₂ : Work} {i : NodeId}

theorem Advances.refl (w : Work) : w.Advances w :=
  ⟨fun _ h => ⟨h, rfl⟩, rfl, rfl, fun _ _ h => h⟩

/-- What is built by the first step stays built by the second. -/
theorem Advances.trans (h₁ : w.Advances w₁) (h₂ : w₁.Advances w₂) : w.Advances w₂ where
  keeps i h :=
    ⟨(h₂.keeps i (h₁.keeps i h).1).1,
      (h₂.keeps i (h₁.keeps i h).1).2.trans (h₁.keeps i h).2⟩
  size := h₂.size.trans h₁.size
  active := h₂.active.trans h₁.active
  idle i hi h := h₂.idle i (h₁.active ▸ hi) (h₁.idle i hi h)

/-- A container that waits is no text later on. -/
theorem Waits.mono (hw : w.Keeps w₁) (h : w.Waits i) : w₁.Waits i :=
  ⟨(hw i h.1).1, (hw i h.1).2.trans h.2⟩

/-- Keys that are told apart keep their texts, so they stay apart. -/
theorem KeysApart.mono (hw : w.Keeps w₁) {es : List (NodeId × NodeId)}
    (h : w.KeysApart es) : w₁.KeysApart es where
  built e he := (hw e.1 (h.built e he)).1
  apart := by
    refine h.apart.imp_of_mem fun {a b} ha hb hab s => ?_
    rw [(hw a.1 (h.built a ha)).2, (hw b.1 (h.built b hb)).2]
    exact hab s

/-- The work after a node has been given a shape. -/
def withShape (w : Work) (i : NodeId) (s : Shape) : Work :=
  { w with shapes := w.shapes.setIfInBounds i (some s) }

theorem shapeAt?_withShape_self (h : i < w.shapes.size) (s : Shape) :
    (w.withShape i s).shapeAt? i = some s := by
  simp [shapeAt?, withShape, h]

/-- Other nodes keep their shapes. -/
theorem shapeAt?_withShape_of_ne {j : NodeId} (h : j ≠ i) (s : Shape) :
    (w.withShape i s).shapeAt? j = w.shapeAt? j := by
  simp [shapeAt?, withShape, Ne.symm h]

theorem Built.lt_size (h : w.Built i) : i < w.shapes.size := by
  by_contra hi
  simp [Built, shapeAt?, hi] at h

/-- A node may get a shape if it has none, or one with the same text. -/
theorem Keeps.withShape {s : Shape} (hi : i < w.shapes.size)
    (h : w.Built i → w.textAt? i = s.text?) :
    w.Keeps (w.withShape i s) := by
  intro j hj
  by_cases hji : j = i
  · subst hji
    have hs := shapeAt?_withShape_self hi s
    exact ⟨by rw [Built, hs]; rfl, by rw [h hj, textAt?, hs]; rfl⟩
  · rw [Built, textAt?, shapeAt?_withShape_of_ne hji]
    exact ⟨hj, rfl⟩

end Work

/-- A sound shape stays so while the builder advances. -/
theorem Shape.Sound.mono {w w' : Work} (hw : w.Keeps w') {s : Shape} (h : s.Sound w) :
    s.Sound w' := by
  cases s with
  | map es => exact Work.KeysApart.mono hw h
  | leaf | list | tuple | set | pairs | settings => exact h

theorem Shape.Sound.congr {w w' : Work} (hw : w'.shapes = w.shapes) {s : Shape}
    (h : s.Sound w) : s.Sound w' := by
  refine h.mono fun i hi => ?_
  rw [Work.Built, Work.textAt?, Work.shapeAt?, hw]
  exact ⟨hi, rfl⟩

namespace Work

variable {w : Work} {i : NodeId} {s : Shape}

/-- A new shape keeps all shapes sound if it keeps what is built. -/
theorem sound_withShape (hw : ∀ j t, w.shapeAt? j = some t → t.Sound w) (hs : s.Sound w)
    (hkeeps : w.Keeps (w.withShape i s))
    (hi : i < w.shapes.size) (j : NodeId) (t : Shape)
    (h : (w.withShape i s).shapeAt? j = some t) :
    t.Sound (w.withShape i s) := by
  by_cases hji : j = i
  · subst hji
    rw [shapeAt?_withShape_self hi] at h
    cases h
    exact hs.mono hkeeps
  · rw [shapeAt?_withShape_of_ne hji] at h
    exact (hw j t h).mono hkeeps

/-- A container gets its parts. -/
theorem Sound.withShape (hw : w.Sound) (hi : w.Waits i) (hs : s.Sound w)
    (ht : s.text? = none) :
    w.Advances (w.withShape i s) ∧ (w.withShape i s).Sound := by
  have hlt := hi.1.lt_size
  have hkeeps : w.Keeps (w.withShape i s) := .withShape hlt fun _ => hi.2.trans ht.symm
  refine ⟨⟨hkeeps, rfl, rfl, ?_⟩, ?_⟩
  · intro j hj hjb
    have hji : j ≠ i := fun h => hjb (h ▸ hi.1)
    rwa [Built, shapeAt?_withShape_of_ne hji]
  · exact ⟨sound_withShape hw.shapes hs hkeeps hlt, fun e he =>
      (hw.waiting e he).mono hkeeps,
      (Array.size_setIfInBounds ..).trans hw.size, hw.active_nodup, hw.active_lt⟩

/-- No more nodes are being built than there are: they are all different. -/
theorem Sound.length_active_le (hw : w.Sound) : w.active.length ≤ w.graph.size := by
  have hsub : w.active ⊆ List.range w.graph.size :=
    fun i hi => List.mem_range.mpr (hw.active_lt i hi)
  simpa using (List.subperm_of_subset hw.active_nodup hsub).length_le

end Work

/-! ### Steps of the builder -/

variable {α β : Type} {n : Nat} {P P' : Work → Prop} {x : Build α}
    {Q Q' : α → Work → Prop}

/-- Two steps of the builder succeed if both do. -/
theorem run_bind {f : α → Build β} {w w₂ : Work} {b : β} :
    (x >>= f) w = .ok (b, w₂) ↔ ∃ a w₁, x w = .ok (a, w₁) ∧ f a w₁ = .ok (b, w₂) := by
  show (x w >>= fun p => f p.1 p.2) = _ ↔ _
  rw [bind_eq_ok, Prod.exists]

/-- Whether a step that succeeds keeps the invariant and advances, where `n` bounds the
nodes that may still be begun.  It starts where `P` holds and ends where `Q` does. -/
def Works (n : Nat) (P : Work → Prop) (x : Build α) (Q : α → Work → Prop) : Prop :=
  ∀ w a w', w.Sound → w.graph.size < n + w.active.length → P w → x w = .ok (a, w') →
    w.Advances w' ∧ w'.Sound ∧ Q a w'

/-- Whether something stays true while the builder advances. -/
def Stable (P : Work → Prop) : Prop :=
  ∀ w w', w.Keeps w' → P w → P w'

/-- Stable properties go together. -/
theorem Stable.and (hP : Stable P) (hP' : Stable P') : Stable fun w => P w ∧ P' w :=
  fun w w' hw h => ⟨hP w w' hw h.1, hP' w w' hw h.2⟩

theorem Stable.true : Stable fun _ => True :=
  fun _ _ _ _ => trivial

namespace Works

theorem pure {a : α} (h : ∀ w, P w → Q a w) : Works n P (Pure.pure a) Q := by
  rintro w _ _ hw - hP ⟨⟩
  exact ⟨.refl w, hw, h w hP⟩

theorem refuse {context : Option (Context × Mark)} {problem : Problem} {mark : Mark} :
    Works n P (Build.refuse context problem mark) Q :=
  fun _ _ _ _ _ _ => nofun

/-- Nothing has to be said of what stands behind a refusal. -/
theorem refuse_bind {context : Option (Context × Mark)} {problem : Problem} {mark : Mark}
    {f : α → Build β}
    {R : β → Work → Prop} : Works n P (Build.refuse context problem mark >>= f) R :=
  fun _ _ _ _ _ _ => nofun

/-- The same for a refusal at the place of a node. -/
theorem node_refuse_bind {k : NodeId} {context : Option (Context × Mark)}
    {problem : Problem} {f : α → Build β}
    {R : β → Work → Prop} :
    Works n P (Build.node k >>= fun nd =>
      Build.refuse context problem nd.start >>= f) R :=
  fun _ _ _ _ _ _ => nofun

theorem throw {f : Failure} : Works n P (MonadExcept.throw f) Q :=
  fun _ _ _ _ _ _ => nofun

/-- The second step starts where the first one ends. -/
theorem bind {f : α → Build β} {R : β → Work → Prop} (hx : Works n P x Q)
    (hf : ∀ a, Works n (Q a) (f a) R) :
    Works n P (x >>= f) R := by
  intro w b w₂ hw hn hP h
  obtain ⟨a, w₁, h₁, h₂⟩ := run_bind.mp h
  obtain ⟨hadv₁, hw₁, hQ⟩ := hx w a w₁ hw hn hP h₁
  -- the first step leaves the graph as large and the open nodes as many as they were,
  -- so there are steps enough for the second one
  have hn₁ : w₁.graph.size < n + w₁.active.length := by rwa [hadv₁.size, hadv₁.active]
  obtain ⟨hadv₂, hw₂, hR⟩ := hf a w₁ b w₂ hw₁ hn₁ hQ h₂
  exact ⟨hadv₁.trans hadv₂, hw₂, hR⟩

/-- From more than is needed, to more than is asked for. -/
theorem imp (hx : Works n P' x Q') (hP : ∀ w, P w → P' w) (hQ : ∀ a w, Q' a w → Q a w) :
    Works n P x Q := by
  intro w a w' hw hn hp h
  obtain ⟨hadv, hw', hq⟩ := hx w a w' hw hn (hP w hp) h
  exact ⟨hadv, hw', hQ a w' hq⟩

/-- What is stable holds behind every step. -/
theorem frame (hx : Works n P x Q) {F : Work → Prop} (hF : Stable F) :
    Works n (fun w => P w ∧ F w) x fun a w => Q a w ∧ F w := by
  rintro w a w' hw hn ⟨hp, hf⟩ h
  obtain ⟨hadv, hw', hq⟩ := hx w a w' hw hn hp h
  exact ⟨hadv, hw', hq, hF w w' hadv.keeps hf⟩

/-- By induction on the list, with an invariant of the value so far. -/
theorem foldlM {f : β → α → Build β} {I : β → Work → Prop}
    (hf : ∀ b a, Works n (I b) (f b a) I) (xs : List α) (b : β) :
    Works n (I b) (xs.foldlM f b) I := by
  induction xs generalizing b with
  | nil => exact .pure fun _ h => h
  | cons a xs ih =>
      rw [List.foldlM_cons]
      exact (hf b a).bind ih

/-- By induction on the list, for a property that every step keeps. -/
theorem forM {f : α → Build Unit} {xs : List α}
    (hf : ∀ a ∈ xs, Works n P (f a) fun _ => P) :
    Works n P (xs.forM f) fun _ => P := by
  induction xs with
  | nil => exact .pure fun _ h => h
  | cons a xs ih =>
      exact (hf a List.mem_cons_self).bind fun _ => ih fun b hb =>
        hf b (List.mem_cons_of_mem a hb)

theorem mapM {f : α → Build β} (hf : ∀ a, Works n P (f a) fun _ => P) (xs : List α) :
    Works n P (xs.mapM f) fun _ => P := by
  induction xs with
  | nil => exact .pure fun _ h => h
  | cons a xs ih =>
      rw [List.mapM_cons]
      exact (hf a).bind fun _ => ih.bind fun _ => .pure fun _ h => h

end Works

end RuleLint.Yaml
