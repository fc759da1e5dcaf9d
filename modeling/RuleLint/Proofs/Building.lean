/-
RuleLint/Proofs/Building.lean

What the builder makes of a document.

A mapping gets its entries one by one, and an entry whose key is there already changes
the value of that one.  Keys are compared when they are built, so the point is that a
key is never without a shape at that time and keeps its text later on.  The first needs
that the builder never runs out of steps: the nodes being built are all different.

Most steps only read the state or change nodes of the graph (`Regraphs`); those that
build are `Builds`.  A node that is asked for is there afterwards (`builds_build`), and
containers are filled without losing the invariant (`sound_of_finish`).

The result is `loadable_of_load`: the value of a document is loadable.
-/
import RuleLint.Proofs.Work

namespace RuleLint.Yaml

variable {α β : Type} {n : Nat} {P P' : Work → Prop} {x : Build α}
    {Q Q' : α → Work → Prop}

/-! ### Steps that change the graph only -/

/-- Whether a step changes nothing but nodes of the graph. -/
def Regraphs (x : Build α) : Prop :=
  ∀ w a w', x w = .ok (a, w') → ∃ g : Graph, g.size = w.graph.size ∧
    w' = { w with graph := g }

namespace Regraphs

/-- What holds of the shapes is kept by a step that leaves them alone. -/
theorem works (hx : Regraphs x) (hP : Stable P) : Works n P x fun _ => P := by
  intro w a w' hw _ hp h
  obtain ⟨g, hg, rfl⟩ := hx w a w' h
  have hkeeps : w.Keeps { w with graph := g } := fun _ hi => ⟨hi, rfl⟩
  refine ⟨⟨hkeeps, hg, rfl, fun _ _ h => h⟩, ?_, hP _ _ hkeeps hp⟩
  exact ⟨fun i s hs => (hw.shapes i s hs).mono hkeeps, hw.waiting, hw.size.trans hg.symm,
    hw.active_nodup,
    fun i hi => hg.symm ▸ hw.active_lt i hi⟩

/-- A step that does nothing. -/
theorem pure (a : α) : Regraphs (Pure.pure a : Build α) := by
  rintro w _ _ ⟨⟩
  exact ⟨w.graph, rfl, rfl⟩

theorem refuse {context : Option (Context × Mark)} {problem : Problem} {mark : Mark} :
    Regraphs (Build.refuse context problem mark : Build α) :=
  fun _ _ _ => nofun

theorem lift (y : Except Failure α) : Regraphs (liftM y : Build α) := by
  intro w a w' h
  cases y with
  | error f => cases h
  | ok b =>
      cases h
      exact ⟨w.graph, rfl, rfl⟩

theorem get : Regraphs (MonadState.get : Build Work) := by
  rintro w _ _ ⟨⟩
  exact ⟨w.graph, rfl, rfl⟩

/-- Two steps behind each other, each with its own graph. -/
theorem bind {f : α → Build β} (hx : Regraphs x) (hf : ∀ a, Regraphs (f a)) :
    Regraphs (x >>= f) := by
  intro w b w₂ h
  obtain ⟨a, w₁, h₁, h₂⟩ := run_bind.mp h
  obtain ⟨g₁, hg₁, rfl⟩ := hx w a w₁ h₁
  obtain ⟨g₂, hg₂, rfl⟩ := hf a _ b w₂ h₂
  exact ⟨g₂, hg₂.trans hg₁, rfl⟩

/-- By induction on the list. -/
theorem mapM {f : α → Build β} (hf : ∀ a, Regraphs (f a)) (xs : List α) :
    Regraphs (xs.mapM f) := by
  induction xs with
  | nil => exact .pure []
  | cons a xs ih =>
      rw [List.mapM_cons]
      exact (hf a).bind fun _ => ih.bind fun _ => .pure _

theorem discard (hx : Regraphs x) : Regraphs (Functor.discard x) := by
  have h : Functor.discard x = x >>= fun _ => Pure.pure () := rfl
  rw [h]
  exact hx.bind fun _ => .pure ()

theorem node (i : NodeId) : Regraphs (Build.node i) :=
  get.bind fun _ => .pure _

theorem valueOf [Host] (i : NodeId) : Regraphs (Build.valueOf i) :=
  get.bind fun _ => .pure _

theorem entriesOf (i : NodeId) : Regraphs (Build.entriesOf i) :=
  get.bind fun _ => .pure _

theorem items (i : NodeId) : Regraphs (Build.items i) := by
  refine (node i).bind fun nd => ?_
  split
  · exact .pure _
  · exact .refuse

/-- A node of the graph may change, the number of nodes does not. -/
theorem modifyNode (i : NodeId) (f : Node → Node) :
    Regraphs (modify fun w => { w with graph := w.graph.modify i f } : Build Unit) := by
  rintro w _ _ ⟨⟩
  exact ⟨_, Array.size_modify, rfl⟩

/-- The text of a scalar is only read, also where a mapping stands for its value. -/
theorem scalarText (n : Nat) (i : NodeId) : Regraphs (Build.scalarText n i) := by
  induction n generalizing i with
  | zero => exact .pure _
  | succ n ih =>
      refine get.bind fun w => ?_
      dsimp only
      split
      · exact .pure _
      · exact .pure _
      · split
        · exact ih _
        · exact .refuse
      · exact .refuse

theorem text (i : NodeId) : Regraphs (Build.text i) :=
  get.bind fun _ => scalarText _ i

/-- A mapping that is followed is flattened in the graph. -/
theorem followed {follow : NodeId → Build Unit} (hfollow : ∀ j, Regraphs (follow j))
    (start : Mark) (s : NodeId) :
    Regraphs (Build.followed follow start s) := by
  refine (node s).bind fun sub => ?_
  split
  · exact (hfollow s).bind fun _ => entriesOf s
  · exact .refuse

/-- A mapping or a sequence of mappings to merge. -/
theorem mergedBy {follow : NodeId → Build Unit} (hfollow : ∀ j, Regraphs (follow j))
    (start : Mark) (v : NodeId) :
    Regraphs (Build.mergedBy follow start v) := by
  refine (node v).bind fun value => ?_
  split
  · exact followed hfollow start v
  · exact (mapM (followed hfollow start) _).bind fun _ => .pure _
  · exact .refuse
  · exact .refuse

/-- The entries of a mapping, one by one: merging ones are followed. -/
theorem gather {follow : NodeId → Build Unit} (hfollow : ∀ j, Regraphs (follow j))
    (i : NodeId) (start : Mark)
    (es merged own : List (NodeId × NodeId)) :
    Regraphs (Build.gather follow i start es merged own) := by
  induction es generalizing merged own with
  | nil => exact .pure _
  | cons e rest ih =>
      refine get.bind fun w => ?_
      dsimp only
      split
      · exact (modifyNode i _).bind fun _ => (mergedBy hfollow start e.2).bind fun _ =>
          ih _ _
      · refine (node e.1).bind fun nd => ?_
        split
        · exact (modifyNode e.1 _).bind fun _ => ih _ _
        · exact ih _ _

/-- A mapping is flattened in the graph, whatever the bound. -/
theorem flatten (n : Nat) (i : NodeId) : Regraphs (Build.flatten n i) := by
  induction n generalizing i with
  | zero => exact .pure _
  | succ n ih =>
      exact (node i).bind fun _ => (entriesOf i).bind fun _ =>
        (gather ih i _ _ _ _).bind fun _ => modifyNode i _

end Regraphs

/-! ### Entries of a mapping -/

/-- Whether a node is built and its value is a key: if it is a text, then that. -/
def Work.HasKey (w : Work) (k : NodeId) (key : Value) : Prop :=
  w.Built k ∧ ∀ s, w.textAt? k = some s → key = .text s

/-- A key keeps its text for as long as shapes are kept. -/
theorem Work.HasKey.stable (k : NodeId) (key : Value) :
    Stable fun w => w.HasKey k key := by
  intro w w' hw h
  refine ⟨(hw k h.1).1, fun s hs => h.2 s ?_⟩
  rwa [← (hw k h.1).2]

/-- Whether the keys that are gathered for a mapping are built, and no two are the same
text. -/
structure Work.Gathers (w : Work) (keys : List (NodeId × Value)) : Prop where
  has : ∀ e ∈ keys, w.HasKey e.1 e.2
  apart : keys.Pairwise fun a b => ¬ Value.SameText a.2 b.2

theorem Work.Gathers.stable (keys : List (NodeId × Value)) :
    Stable fun w => w.Gathers keys :=
  fun w w' hw h => ⟨fun e he => HasKey.stable e.1 e.2 w w' hw (h.has e he), h.apart⟩

/-- The keys among gathered entries. -/
def keysOf (acc : List (NodeId × Value × NodeId)) : List (NodeId × Value) :=
  acc.map fun e => (e.1, e.2.1)

/-- Entries gathered so far have keys that are told apart. -/
theorem Work.Gathers.keysApart {w : Work} {acc : List (NodeId × Value × NodeId)}
    (h : w.Gathers (keysOf acc)) :
    w.KeysApart (acc.map fun (k, _, v) => (k, v)) := by
  have hhas : ∀ e ∈ acc, w.HasKey e.1 e.2.1 :=
    fun e he => h.has _ (List.mem_map_of_mem he)
  refine ⟨List.forall_mem_map.mpr fun e he => (hhas e he).1, List.pairwise_map.mpr ?_⟩
  refine (List.pairwise_map.mp h.apart).imp_of_mem fun {a b} ha hb hab s hsa hsb => hab ?_
  exact ⟨s, (hhas a ha).2 s hsa, (hhas b hb).2 s hsb⟩

/-- An entry with a new key comes last; one with a key that is there changes no key. -/
theorem keysOf_addEntry (k : NodeId) (key : Value) (v : NodeId)
    (acc : List (NodeId × Value × NodeId)) :
    keysOf (Build.addEntry k key v acc) = keysOf acc ∨
    keysOf (Build.addEntry k key v acc) = keysOf acc ++ [(k, key)] ∧ ∀ e ∈ keysOf acc,
      Value.same e.2 key = false := by
  induction acc with
  | nil => exact .inr ⟨rfl, List.forall_mem_nil _⟩
  | cons e acc ih =>
      obtain ⟨l, other, u⟩ := e
      rw [Build.addEntry]
      split
      · exact .inl rfl
      · rename_i hne
        have hother : Value.same other key = false := by simp_all
        rcases ih with ih | ⟨ih, hall⟩
        · exact .inl (congrArg ((l, other) :: ·) ih)
        · exact .inr ⟨congrArg ((l, other) :: ·) ih,
            List.forall_mem_cons.mpr ⟨hother, hall⟩⟩

theorem same_text (s : String) : Value.same (.text s) (.text s) = true := by
  simp [Value.same, Value.sameLeaf, Value.asNumber]

/-- Another entry changes the value of one with the same key, or comes last. -/
theorem Work.Gathers.addEntry {w : Work} {acc : List (NodeId × Value × NodeId)}
    {k v : NodeId} {key : Value}
    (h : w.Gathers (keysOf acc)) (hk : w.HasKey k key) :
    w.Gathers (keysOf (Build.addEntry k key v acc)) := by
  rcases keysOf_addEntry k key v acc with heq | ⟨heq, hnew⟩ <;> rw [heq]
  · exact h
  · refine ⟨List.forall_mem_append.mpr ⟨h.has, List.forall_mem_singleton.mpr hk⟩, ?_⟩
    refine List.pairwise_append.mpr ⟨h.apart, List.pairwise_singleton _ _, ?_⟩
    rintro e he _ hlast ⟨s, hes, hks⟩
    cases List.mem_singleton.mp hlast
    have := hnew e he
    rw [hes, show key = .text s from hks, same_text] at this
    cases this

/-- The value of a node that has become a text is that text. -/
theorem assemble_of_textAt? [Host] {w : Work} {k : NodeId} {s : String}
    (h : w.textAt? k = some s) (n : Nat) :
    Build.assemble w.shapes (n + 1) [] k = .text s := by
  obtain ⟨shape, hshape, hs⟩ := Option.bind_eq_some_iff.mp h
  have hleaf : shape = .leaf (.text s) := by
    unfold Shape.text? at hs
    split at hs <;> cases hs
    rfl
  rw [Build.assemble, List.findIdx?_nil]
  dsimp only
  rw [show (w.shapes[k]?).join = _ from hshape, hleaf]

/-- A node that is built has the value of its shape. -/
theorem Works.valueOf [Host] (k : NodeId) (hP : ∀ w, P w → w.Built k) :
    Works n P (Build.valueOf k) fun key w => w.HasKey k key ∧ P w := by
  rintro w _ _ hw - hp ⟨⟩
  exact ⟨.refl w, hw, ⟨hP w hp, fun s hs => assemble_of_textAt? hs _⟩, hp⟩

/-- Whether a step builds the node that it is given. -/
def Builds (n : Nat) (sub : NodeId → Build Unit) : Prop :=
  ∀ k, Works n (fun _ => True) (sub k) fun _ w => w.Built k

variable {sub : NodeId → Build Unit}

/-- Building another node keeps what is stable. -/
theorem Builds.frame (hsub : Builds n sub) (hP : Stable P) (k : NodeId) :
    Works n P (sub k) fun _ w => w.Built k ∧ P w :=
  ((hsub k).frame hP).imp (fun _ h => ⟨trivial, h⟩) fun _ _ h => h

/-- Behind the check of a key, its value is built and the entry is added. -/
theorem Builds.addEntry (hsub : Builds n sub) (k v : NodeId) (key : Value)
    (acc : List (NodeId × Value × NodeId)) :
    Works n (fun w => w.HasKey k key ∧ w.Gathers (keysOf acc))
      (sub v >>= fun _ => match Build.changeable? key with
        | some type => throw (Failure.unhashable type)
        | none => pure (Build.addEntry k key v acc))
      fun acc w => w.Gathers (keysOf acc) := by
  refine (hsub.frame ((Work.HasKey.stable k key).and (.stable _)) v).bind fun _ => ?_
  split
  · exact .throw
  · exact .pure fun w h => h.2.2.addEntry h.2.1

/-- **The keys of a mapping are apart.** -/
theorem Builds.entries [Host] (hsub : Builds n sub) (i : NodeId) :
    Works n (fun _ => True) (Build.entries sub i) fun es w => w.KeysApart es := by
  refine ((Regraphs.node i).works .true).bind fun nd => ?_
  dsimp only
  split
  · refine (Regraphs.get.works .true).bind fun w =>
      ((Regraphs.flatten _ i).works .true).bind fun _ => ?_
    refine ((Regraphs.entriesOf i).works .true).bind fun es => ?_
    refine Works.bind (Q := fun acc w => w.Gathers (keysOf acc)) ?_ fun acc =>
      .pure fun _ h => h.keysApart
    refine (Works.foldlM (I := fun acc w => w.Gathers (keysOf acc)) ?_ es []).imp
      (fun _ _ => ⟨List.forall_mem_nil _, .nil⟩) fun _ _ h => h
    -- first the key is built, then its value is looked at, and only then the value of
    -- the entry is built
    rintro acc ⟨k, v⟩
    refine (hsub.frame (.stable _) k).bind fun _ =>
      (Works.valueOf k fun _ h => h.1).bind fun key => ?_
    have hadd := (hsub.addEntry k v key acc).imp (P := fun w => w.HasKey k key ∧
      w.Built k ∧ w.Gathers (keysOf acc))
      (fun _ h => ⟨h.1, h.2.2⟩) fun _ _ h => h
    dsimp only
    split
    · exact .node_refuse_bind
    · exact hadd
  · exact .refuse_bind

/-! ### What makers make -/

/-- Whether everything that a computation may give has a property. -/
def Yields (p : α → Prop) (y : Except Failure α) : Prop :=
  ∀ a, y = .ok a → p a

theorem Yields.pure {p : α → Prop} {a : α} (h : p a) : Yields p (Pure.pure a) := by
  rintro _ ⟨⟩
  exact h

/-- What a step yields at its end does not depend on how it got there. -/
theorem Yields.bind {p : β → Prop} {y : Except Failure α} {f : α → Except Failure β}
    (h : ∀ a, Yields p (f a)) :
    Yields p (y >>= f) := by
  intro b hb
  obtain ⟨a, _, ha⟩ := bind_eq_ok.mp hb
  exact h a b ha

/-- A check either fails or goes on. -/
theorem Yields.check {p : β → Prop} {c : Prop} [Decidable c] {f : Failure}
    {g : α → Except Failure β} {y : Except Failure β}
    (h : Yields p y) :
    Yields p (if c then (throw f : Except Failure α) >>= g else y) := by
  split
  · exact fun _ => nofun
  · exact h

/-- A date that is accepted is a value that can be loaded. -/
theorem yields_timestampOf (t : String) : Yields Value.Loadable (timestampOf t) := by
  unfold timestampOf
  dsimp only
  split
  · exact fun _ => nofun
  · exact .bind fun _ => .pure (.plain rfl)
  · split
    · exact .check (.bind fun _ => .check (.check (.check (.pure (.plain rfl)))))
    · exact .bind fun _ => .check (.check (.check (.pure (.plain rfl))))

/-- Settings are made of nodes that are looked up later. -/
theorem yields_settingsOf (es : List (Value × NodeId)) :
    Yields (fun s => ∀ w, s.Sound w) (Build.settingsOf es) := by
  intro s h w
  unfold Build.settingsOf at h
  dsimp only at h
  repeat' split at h
  all_goals cases h
  trivial

theorem Works.lift {y : Except Failure α} {p : α → Prop} (h : Yields p y) :
    Works n P (liftM y) fun a _ => p a := by
  intro w a w' hw _ _ hy
  cases y with
  | error f => cases hy
  | ok b =>
      cases hy
      exact ⟨.refl w, hw, h a rfl⟩

/-- A step that makes a value without parts. -/
theorem Regraphs.leaf (hx : Regraphs x) {f : α → Value} (hf : ∀ a, (f a).isPlain = true) :
    Works n (fun _ => True) (x >>= fun a => Pure.pure (Shape.leaf (f a))) fun s w =>
      s.Sound w :=
  (hx.works .true).bind fun a => .pure fun _ _ => .plain (hf a)

/-- To tell a failure at its line changes no success. -/
theorem Works.toldAtLine {site : Site} {i : NodeId} (hx : Works n P x Q) :
    Works n P (Build.toldAtLine site i x) Q := by
  intro w a w' hw hn hp h
  refine hx w a w' hw hn hp ?_
  unfold Build.toldAtLine at h
  split at h
  · rw [← h]
    assumption
  · cases h

variable {site : Site} {i : NodeId}

theorem Builds.forM (hsub : Builds n sub) (is : List NodeId) :
    Works n (fun _ => True) (is.forM sub) fun _ _ => True :=
  .forM fun k _ => (hsub k).imp (fun _ h => h) fun _ _ _ => trivial

/-- An object that is found by its name is one that can be loaded, by a law of the
host. -/
theorem Builds.named [Host] (suffix : String) (i : NodeId) :
    Works n (fun _ => True) (Build.named suffix i) fun v _ => v.Loadable := by
  refine ((Regraphs.node i).works .true).bind fun nd =>
    ((Regraphs.text i).works .true).bind fun value => ?_
  dsimp only
  split
  · exact .refuse_bind
  · split
    · exact .refuse_bind
    · split
      · rename_i hfound
        exact .pure fun _ _ => Host.named_loadable hfound
      · exact .refuse
      · exact .refuse

/-- A shape that is made refers to nodes that are built, case by case over the
makers. -/
theorem Builds.make [Host] (hsub : Builds n sub) (m : Maker) :
    Works n (fun _ => True) (Build.make site sub i m) fun s w => s.Sound w := by
  have htext := (Regraphs.text i).works (n := n) .true
  -- most makers read a text and make a value without parts; the rest look at other nodes
  cases m with
  | null => exact (Regraphs.discard (.text i)).leaf fun _ => rfl
  | bool => exact htext.bind fun t => (Regraphs.lift _).leaf fun _ => rfl
  | int => exact htext.bind fun t => (Regraphs.lift _).leaf fun _ => rfl
  | float => exact htext.bind fun t => (Regraphs.lift _).leaf fun _ => rfl
  | complex =>
      refine htext.bind fun t => ?_
      split
      · exact .pure fun _ _ => .plain rfl
      · exact .throw
  | bytes =>
      exact htext.bind fun t => ((Regraphs.node i).works .true).bind fun nd =>
        (Regraphs.lift _).leaf fun _ => rfl
  | timestamp =>
      exact htext.bind fun t => (Works.lift (yields_timestampOf t)).bind fun v =>
        .pure fun _ h => h
  | text =>
      refine htext.bind fun t => ((Regraphs.node i).works .true).bind fun nd => ?_
      split
      · exact .pure fun _ _ => .plain rfl
      · exact .pure fun _ _ => .plain rfl
  | list | set | orderedMap | pairs => exact .pure fun _ _ => trivial
  | map => exact .pure fun _ _ => ⟨List.forall_mem_nil _, .nil⟩
  | tuple =>
      exact ((Regraphs.items i).works .true).bind fun is => (hsub.forM is).bind fun _ =>
        .pure fun _ _ => trivial
  | glob => exact .toldAtLine ((Regraphs.text i).leaf fun _ => rfl)
  | xpath =>
      refine .toldAtLine (htext.bind fun t => ?_)
      split
      · exact .pure fun _ _ => .plain rfl
      · exact .throw
  | regex =>
      refine .toldAtLine (htext.bind fun t => ?_)
      split
      · exact .pure fun _ _ => .plain rfl
      · exact .throw
  | steps =>
      refine .toldAtLine (((Regraphs.items i).works .true).bind fun is =>
        (hsub.forM is).bind fun _ => ?_)
      exact .pure fun _ _ => .plain rfl
  | settings =>
      -- the keys of settings are read when the entries are built
      refine (hsub.entries i).bind fun es =>
        Works.bind (Q := fun _ _ => True) ?_ fun kvs => ?_
      · refine (Works.mapM (fun e => ?_) es).imp (fun _ _ => trivial) fun _ _ h => h
        exact ((Regraphs.valueOf e.1).works .true).bind fun _ => .pure fun _ h => h
      · exact (Works.lift (yields_settingsOf kvs)).imp (fun _ h => h) fun _ w h => h w
  | labelled label =>
      refine htext.bind fun t => .pure fun _ _ => .list fun v hv => ?_
      rcases List.mem_pair.mp hv with rfl | rfl <;> exact .plain rfl

/-- The object of a container is there without its parts. -/
theorem text?_of_make [Host] {m : Maker} (hm : Build.isContainer m = true)
    {w w' : Work} {s : Shape}
    (h : Build.make site sub i m w = .ok (s, w')) : s.text? = none := by
  cases m <;> cases hm <;> cases h <;> rfl

/-! ### Building a node -/

namespace Work

variable {w w₁ : Work} {s : Shape}

/-- A node that is not being built yet may be begun. -/
theorem Sound.begin (hw : w.Sound) (hi : i < w.graph.size) (hidle : i ∉ w.active) :
    ({ w with active := i :: w.active } : Work).Sound :=
  ⟨fun j t ht => (hw.shapes j t ht).congr (by rfl), hw.waiting, hw.size,
    List.nodup_cons.mpr ⟨hidle, hw.active_nodup⟩,
      List.forall_mem_cons.mpr ⟨hi, hw.active_lt⟩⟩

/-- A node that was begun gets its shape.  Nobody else has built it in the meantime,
since it was active. -/
theorem Sound.complete (hi : i < w.graph.size) (hb : ¬ w.Built i) (hidle : i ∉ w.active)
    (hadv : ({ w with active := i :: w.active } : Work).Advances w₁) (hw₁ : w₁.Sound)
    (hs : s.Sound w₁)
    {pending : List (NodeId × Maker)} (hpending : ∀ e ∈ pending, e ∈ w₁.pending ∨
      e.1 = i ∧ s.text? = none) :
    let w₂ := { w₁.withShape i s with active := w₁.active.erase i, pending := pending }
    w.Advances w₂ ∧ w₂.Sound ∧ w₂.Built i := by
  intro w₂
  have hb₁ : ¬ w₁.Built i := hadv.idle i List.mem_cons_self hb
  have hlt : i < w₁.shapes.size := by rw [hw₁.size, hadv.size]; exact hi
  have hkeeps₁ : w₁.Keeps w₂ := Keeps.withShape hlt fun h => absurd h hb₁
  have hactive : w₂.active = w.active := by
    show w₁.active.erase i = w.active
    rw [hadv.active]
    exact List.erase_cons_head ..
  have hsize : w₂.graph.size = w.graph.size := hadv.size
  have hself : w₂.shapeAt? i = some s := shapeAt?_withShape_self hlt s
  have hbuilt : w₂.Built i := by rw [Built, hself]; rfl
  refine ⟨⟨fun j hj => ?_, hsize, hactive, fun j hj hjb => ?_⟩,
    ⟨?_, fun e he => ?_, ?_, ?_, ?_⟩, hbuilt⟩
  · -- what is built stays, over the step and over the new shape
    have hj₁ := hadv.keeps j hj
    exact ⟨(hkeeps₁ j hj₁.1).1, (hkeeps₁ j hj₁.1).2.trans hj₁.2⟩
  · -- another node that is being built has not been touched
    have hji : j ≠ i := fun h => hidle (h ▸ hj)
    have hj₁ := hadv.idle j (List.mem_cons_of_mem i hj) hjb
    rwa [Built, show w₂.shapeAt? j = w₁.shapeAt? j from shapeAt?_withShape_of_ne hji s]
  · exact fun j t ht => (sound_withShape hw₁.shapes hs hkeeps₁ hlt j t ht).congr (by rfl)
  · rcases hpending e he with he | ⟨rfl, ht⟩
    · exact (hw₁.waiting e he).mono hkeeps₁
    · exact ⟨hbuilt, by rw [textAt?, hself]; exact ht⟩
  · exact (Array.size_setIfInBounds ..).trans hw₁.size
  · rw [hactive]
    exact (List.nodup_cons.mp (hadv.active ▸ hw₁.active_nodup)).2
  · rw [hactive, hsize]
    exact fun j hj =>
      hadv.size ▸ hw₁.active_lt j (hadv.active ▸ List.mem_cons_of_mem i hj)

end Work

/-- The tag of what is no node is known to nobody. -/
theorem lt_size_of_known (hsite : site.registry.maker? "" = none) {g : Graph}
    (h : (site.registry.maker? (g.node i).tag).isSome ∨
    (g.node i).tag.startsWith Build.nameTag = true) : i < g.size := by
  by_contra hi
  have hnode : g.node i = noNode := by
    rw [Graph.node, Array.getElem?_eq_none (Nat.le_of_not_lt hi)]
    rfl
  rw [hnode] at h
  rcases h with h | h
  · rw [show noNode.tag = "" from rfl, hsite] at h
    cases h
  · exact absurd h (by decide)

/-- **A node that is asked for is there afterwards**, and all that holds of the work
still does. -/
theorem builds_build [Host] (hsite : site.registry.maker? "" = none) (n : Nat) :
    Builds n (Build.build site n) := by
  induction n with
  | zero =>
      -- the nodes being built are different, so there cannot be more of them than nodes
      intro k w _ _ hw hn
      have := hw.length_active_le
      omega
  | succ n ih =>
      intro k w _ w' hw hn _ h
      rw [Build.build] at h
      obtain ⟨_, _, ⟨⟩, h⟩ := run_bind.mp h
      split at h
      · -- the node is there
        rename_i hb
        cases h
        exact ⟨.refl w, hw, hb⟩
      rename_i hb
      dsimp only at h
      split at h
      · -- the node would be a part of itself
        cases h
      rename_i hidle
      have hidle : k ∉ w.active := by simpa using hidle
      obtain ⟨_, w₀, h₀, h⟩ := run_bind.mp h
      cases h₀
      -- one step less is left, but one node more is being built
      have hn₀ : w.graph.size < n + (k :: w.active).length := by
        rw [List.length_cons]; omega
      cases hm : site.registry.maker? (w.graph.node k).tag with
      | some m =>
          rw [hm] at h
          have hk : k < w.graph.size := lt_size_of_known hsite (.inl (by rw [hm]; rfl))
          obtain ⟨s, w₁, hs, h⟩ := run_bind.mp h
          obtain ⟨hadv, hw₁, hsound⟩ := ih.make m _ _ _ (hw.begin hk hidle) hn₀ trivial hs
          split at h
          · rename_i hcontainer
            cases h
            refine Work.Sound.complete hk hb hidle hadv hw₁ hsound
              (List.forall_mem_cons.mpr ⟨?_, fun e he => .inl he⟩)
            exact .inr ⟨rfl, text?_of_make hcontainer hs⟩
          · cases h
            exact Work.Sound.complete hk hb hidle hadv hw₁ hsound fun e he => .inl he
      | none =>
          rw [hm] at h
          dsimp only at h
          split at h
          · rename_i htag
            have hk : k < w.graph.size := lt_size_of_known hsite (.inr htag)
            obtain ⟨v, w₁, hv, h⟩ := run_bind.mp h
            obtain ⟨hadv, hw₁, hsound⟩ :=
              Builds.named _ k _ _ _ (hw.begin hk hidle) hn₀ trivial hv
            cases h
            exact Work.Sound.complete (s := .leaf v) hk hb hidle hadv hw₁ hsound
              fun e he => .inl he
          · cases h

/-! ### Filling containers -/

theorem Work.Waits.stable (i : NodeId) : Stable fun w => w.Waits i :=
  fun _ _ hw h => h.mono hw

/-- A container that waits for its items may get them. -/
theorem Works.setShape {s : Shape} (ht : s.text? = none)
    (hP : ∀ w, P w → s.Sound w ∧ w.Waits i) :
    Works n P (Build.setShape i s) fun _ w => w.Waits i := by
  rintro w _ _ hw - hp ⟨⟩
  obtain ⟨hs, hi⟩ := hP w hp
  obtain ⟨hadv, hw'⟩ := hw.withShape hi hs ht
  exact ⟨hadv, hw', hi.mono hadv.keeps⟩

/-- Mappings of one entry each, in order. -/
theorem Builds.singles (hsub : Builds n sub) (context : Context) (i : NodeId) :
    Works n (fun _ => True) (Build.singles sub context i) fun _ _ => True := by
  refine ((Regraphs.node i).works .true).bind fun nd => ?_
  split
  · refine .mapM (fun s => ((Regraphs.node s).works .true).bind fun inner => ?_) _
    split
    · exact (hsub.frame .true _).bind fun _ =>
        (hsub.frame .true _).imp (fun _ h => h.2) (fun _ _ h => h.2)
        |>.bind fun _ => .pure fun _ h => h
    · exact .refuse
    · exact .refuse
  · exact .refuse

/-- A container is filled when its items are built. -/
theorem Builds.fill [Host] (hsub : Builds n sub) (i : NodeId) (m : Maker) :
    Works n (fun w => w.Waits i) (Build.fill sub i m) fun _ w => w.Waits i := by
  have hwaits := Work.Waits.stable i
  have hentries : Works n (fun w => w.Waits i) (Build.entries sub i) fun es w =>
      w.KeysApart es ∧ w.Waits i :=
    ((hsub.entries i).frame hwaits).imp (fun _ h => ⟨trivial, h⟩) fun _ _ h => h
  have hsingles (context : Context) :
      Works n (fun w => w.Waits i) (Build.singles sub context i) fun _ w => w.Waits i :=
    ((hsub.singles context i).frame hwaits).imp (fun _ h => ⟨trivial, h⟩) fun _ _ h => h.2
  cases m with
  -- what is filled in may not be a text, or keys would change
  | list =>
      refine ((Regraphs.items i).works hwaits).bind fun is =>
          Works.bind (Q := fun _ w => w.Waits i) ?_ fun _ =>
        .setShape rfl fun _ h => ⟨trivial, h⟩
      exact ((hsub.forM is).frame hwaits).imp (fun _ h => ⟨trivial, h⟩) fun _ _ h => h.2
  | map => exact hentries.bind fun _ => .setShape rfl fun _ h => h
  | set => exact hentries.bind fun _ => .setShape rfl fun _ h => ⟨trivial, h.2⟩
  | orderedMap => exact (hsingles _).bind fun _ => .setShape rfl fun _ h => ⟨trivial, h⟩
  | pairs => exact (hsingles _).bind fun _ => .setShape rfl fun _ h => ⟨trivial, h⟩
  | null | bool | int | float | complex | bytes | timestamp | text | tuple
  | glob | xpath | regex | steps | settings | labelled =>
      exact .pure fun _ h => h

/-- By induction on the rounds: each fills what waits, and may leave more to wait. -/
theorem sound_of_finish [Host] (hsite : site.registry.maker? "" = none) {rounds : Nat}
    {w w' : Work} (hw : w.Sound)
    (hactive : w.active = []) (h : Build.finish site rounds w = .ok ((), w')) :
    w'.Sound := by
  induction rounds generalizing w with
  | zero =>
      cases h
      exact hw
  | succ rounds ih =>
      rw [Build.finish] at h
      obtain ⟨_, _, ⟨⟩, h⟩ := run_bind.mp h
      split at h
      · cases h
        exact hw
      obtain ⟨_, w₀, h₀, h⟩ := run_bind.mp h
      cases h₀
      obtain ⟨_, w₁, h₁, h⟩ := run_bind.mp h
      have hw₀ : ({ w with pending := [] } : Work).Sound :=
        ⟨fun j t ht => (hw.shapes j t ht).congr (by rfl), List.forall_mem_nil _, hw.size,
          hw.active_nodup, hw.active_lt⟩
      -- those that wait now are filled; what is found on the way waits for the next round
      have hfill : Works (w.graph.size + 1) (fun v => ∀ e ∈ w.pending, v.Waits e.1)
          (w.pending.reverse.forM fun e =>
            Build.fill (Build.build site (w.graph.size + 1)) e.1 e.2)
          fun _ v => ∀ e ∈ w.pending, v.Waits e.1 := by
        refine .forM fun e he => ?_
        have hstable : Stable fun v => ∀ e ∈ w.pending, v.Waits e.1 :=
          fun v v' hv h e he => (h e he).mono hv
        refine (((builds_build hsite _).fill e.1 e.2).frame hstable).imp (fun v h =>
          ⟨?_, h⟩) fun _ _ h => h.2
        exact h e (List.mem_reverse.mp he)
      have hn : w.graph.size < w.graph.size + 1 + w.active.length := by omega
      obtain ⟨hadv, hw₁, -⟩ := hfill _ _ _ hw₀ hn hw.waiting h₁
      exact ih hw₁ (hadv.active.trans hactive) h

/-! ### Values -/

/-- Nothing is built at first. -/
theorem Work.sound_start (g : Graph) :
    (⟨g, Array.replicate g.size none, [], []⟩ : Work).Sound := by
  have hempty : ∀ i, (⟨g, Array.replicate g.size none, [], []⟩ : Work).shapeAt? i =
      none := by
    intro i
    by_cases hi : i < g.size <;> simp [Work.shapeAt?, hi]
  exact ⟨fun i s hs => absurd hs (by simp [hempty]), List.forall_mem_nil _,
    Array.size_replicate, .nil, List.forall_mem_nil _⟩

variable [Host]

/-- A value is a text only if the node has become one. -/
theorem textAt?_of_assemble {w : Work} {n : Nat} {path : List (Option NodeId)}
    {k : NodeId} {s : String}
    (h : Build.assemble w.shapes n path k = .text s) : w.textAt? k = some s := by
  cases n with
  | zero => cases h
  | succ n =>
      rw [Build.assemble] at h
      split at h
      · cases h
      · dsimp only at h
        split at h <;> cases h
        rename_i hleaf
        rw [Work.textAt?, Work.shapeAt?, hleaf]
        rfl

/-- What is assembled from sound shapes is loadable, by induction on the depth. -/
theorem loadable_assemble {w : Work} (hw : w.Sound) (n : Nat)
    (path : List (Option NodeId)) (k : NodeId) :
    (Build.assemble w.shapes n path k).Loadable := by
  induction n generalizing path k with
  | zero => exact .plain rfl
  | succ n ih =>
      rw [Build.assemble]
      split
      · exact .plain rfl
      · dsimp only
        split
        · exact .plain rfl
        · rename_i v hleaf
          exact hw.shapes k _ hleaf
        · exact .list (List.forall_mem_map.mpr fun j _ => ih _ j)
        · exact .tuple (List.forall_mem_map.mpr fun j _ => ih _ j)
        · refine .set fun v hv => ?_
          have hv := List.mem_of_mem_filter ((Host.order_perm _ _).mem_iff.mp hv)
          obtain ⟨j, -, rfl⟩ := List.mem_map.mp hv
          exact ih _ j
        · -- keys that are the same text would be the same text as nodes
          rename_i es hmap
          have hes : w.KeysApart es := hw.shapes k _ hmap
          refine .map (List.pairwise_map.mpr ?_) (List.forall_mem_map.mpr fun e _ =>
            ih _ e.1)
            (List.forall_mem_map.mpr fun e _ => ih _ e.2)
          refine hes.apart.imp fun {a b} hab => ?_
          rintro ⟨s, ha, hb⟩
          exact hab s (textAt?_of_assemble ha) (textAt?_of_assemble hb)
        · refine .list (List.forall_mem_map.mpr fun e _ => .tuple fun v hv => ?_)
          rcases List.mem_pair.mp hv with rfl | rfl <;> exact ih _ _
        · exact .settings (ih _ _) (ih _ _) (ih _ _)

/-- Hence what is built from the root of a graph is. -/
theorem loadable_of_build (hsite : site.registry.maker? "" = none) {root : NodeId}
    {g : Graph} {v : Value}
    (h : build site root g = .ok v) : v.Loadable := by
  obtain ⟨⟨_, w'⟩, hrun, h⟩ := bind_eq_ok.mp h
  cases h
  obtain ⟨_, w₁, hroot, hfinish⟩ := run_bind.mp hrun
  obtain ⟨hadv, hw₁, -⟩ :=
    builds_build hsite _ root _ _ _ (Work.sound_start g)
      (Nat.lt_succ_self _) trivial hroot
  exact loadable_assemble (sound_of_finish hsite hw₁ hadv.active hfinish) _ _ _

/-- **The value of a document is loadable.** -/
theorem loadable_of_load (hsite : site.registry.maker? "" = none)
    {document : String} {v : Value}
    (h : load site document = .ok v) : v.Loadable := by
  unfold load at h
  dsimp only at h
  split at h
  · cases h
  · obtain ⟨composed, _, h⟩ := bind_eq_ok.mp h
    split at h
    · cases h
      exact .plain rfl
    · exact loadable_of_build hsite h

end RuleLint.Yaml
