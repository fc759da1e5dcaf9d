/-
RuleLint/Proofs/Places.lean

Lines of nodes.

A document numbers its nodes in order, so what is in an element comes behind it and has
a parent from it on (`Nests`).  If the element has a line, so has everything in it
(`isPlaced_number`).  The statements of a source all have places, and the body of the
module holds nothing else: in the document of a source exactly the nodes in the body
have lines (`lineOf?_isSome_iff`).  The module itself, its body as a whole and the list
of its type comments have none.
-/
import Mathlib
import RuleLint.Proofs.Faults
import RuleLint.Proofs.Statements

namespace RuleLint

namespace XPath

/-! ### Numbered nodes -/

namespace Document

/-- What a node is and the number of the node it is in. -/
def slot? (d : Document) (i : Nat) : Option (Kind × Nat) :=
  d[i]?.map fun n => (n.kind, n.parent)

/-- A slot says what a node is and what it is in. -/
theorem kind_of_slot? {d : Document} {i p : Nat} {k : Kind}
    (h : d.slot? i = some (k, p)) : d.kind i = k := by
  obtain ⟨n, hn, heq⟩ := Option.map_eq_some_iff.mp h
  cases heq
  rw [kind, hn]

theorem parent?_of_slot? {d : Document} {i p : Nat} {k : Kind}
    (h : d.slot? i = some (k, p)) (hi : i ≠ 0) : d.parent? i = some p := by
  obtain ⟨n, hn, heq⟩ := Option.map_eq_some_iff.mp h
  cases heq
  rw [parent?, if_neg hi, hn, Option.map_some]

/-- The node that was put last has the next number. -/
theorem slot?_push_size (d : Document) (n : Node) :
    slot? (Array.push d n) d.size = some (n.kind, n.parent) := by
  rw [slot?, Array.getElem?_push_size, Option.map_some]

/-- The end of a node is no part of what it is. -/
theorem slot?_modify (d : Document) (i stop j : Nat) :
    slot? (Array.modify d i fun n => { n with stop }) j = d.slot? j := by
  rw [slot?, slot?, Array.getElem?_modify]
  split
  · rw [Option.map_map]
    rfl
  · rfl

/-- Whether a document goes on from another: the nodes that are there stay what and
where they are. -/
structure GoesOn (d d' : Document) : Prop where
  size : d.size ≤ d'.size
  slot? : ∀ i, i < d.size → d'.slot? i = d.slot? i

variable {d d' d'' : Document}

theorem GoesOn.refl (d : Document) : d.GoesOn d :=
  ⟨le_rfl, fun _ _ => rfl⟩

theorem GoesOn.trans (h : d.GoesOn d') (h' : d'.GoesOn d'') : d.GoesOn d'' where
  size := h.size.trans h'.size
  slot? i hi := (h'.slot? i (hi.trans_le h.size)).trans (h.slot? i hi)

/-- A document goes on with another node. -/
theorem GoesOn.push (d : Document) (n : Node) : d.GoesOn (Array.push d n) where
  size := by simp
  slot? i hi := by rw [Document.slot?, Document.slot?, Array.getElem?_push, if_neg hi.ne]

/-- To note where a node stops changes neither its kind nor its parent. -/
theorem GoesOn.modify (d : Document) (i stop : Nat) :
    d.GoesOn (Array.modify d i fun n => { n with stop }) where
  size := by simp
  slot? j _ := slot?_modify d i stop j

/-- Whether the new nodes of a document are in nodes in front of them, and none in a
node in front of `base`. -/
def Nests (base : Nat) (d d' : Document) : Prop :=
  ∀ i, d.size ≤ i → i < d'.size → ∃ k p, d'.slot? i = some (k, p) ∧ p < i ∧ base ≤ p

end Document

open Document

mutual

/-- Numbering only adds nodes, by induction on the element. -/
theorem Element.number_goesOn (parent : Nat) (nodes : Document) :
    (e : Element) → nodes.GoesOn (e.number parent nodes)
  | .text _ => .push nodes _
  | .element _ _ parts =>
      ((GoesOn.push nodes _).trans (parts.number_goesOn nodes.size _)).trans (.modify ..)

theorem Elements.number_goesOn (parent : Nat) (nodes : Document) :
    (es : Elements) → nodes.GoesOn (es.number parent nodes)
  | .nil => .refl nodes
  | .cons e rest => (e.number_goesOn parent nodes).trans (rest.number_goesOn parent _)

end

/-- The node of an element itself. -/
theorem Element.slot?_number (parent : Nat) (nodes : Document) (name : String)
    (attrs : List (String × String)) (parts : Elements) :
    ((Element.element name attrs parts).number parent nodes).slot? nodes.size =
      some (.element name attrs, parent) := by
  rw [Element.number, slot?_modify, (parts.number_goesOn nodes.size _).slot? nodes.size
    (by simp), slot?_push_size]

/-- What is in an element is in nodes from that of the element on, if its parts are. -/
theorem Element.nests_within {base parent : Nat} {nodes : Document} {name : String}
    {attrs : List (String × String)} {parts : Elements}
    (hparts : Nests base (Array.push nodes ⟨.element name attrs, parent, 0⟩)
      (parts.number nodes.size (Array.push nodes ⟨.element name attrs, parent, 0⟩)))
    (i : Nat) (hi : nodes.size < i)
    (hlt : i < ((Element.element name attrs parts).number parent nodes).size) :
    ∃ k p, ((Element.element name attrs parts).number parent nodes).slot? i =
      some (k, p) ∧ p < i ∧ base ≤ p := by
  rw [Element.number] at hlt ⊢
  rw [slot?_modify]
  rw [Array.size_modify] at hlt
  exact hparts i (by simpa using hi) hlt

mutual

/-- New nodes are in new nodes or in the one that they were numbered for. -/
theorem Element.number_nests {base parent : Nat} {nodes : Document}
    (hbase : base ≤ parent) (hparent : parent < nodes.size) :
    (e : Element) → Nests base nodes (e.number parent nodes)
  | .text s => by
      intro i hi hlt
      have heq : i = nodes.size := by
        rw [Element.number, Array.size_push] at hlt
        omega
      exact ⟨.text s, parent, heq ▸ slot?_push_size .., heq ▸ hparent, hbase⟩
  | .element name attrs parts => by
      intro i hi hlt
      rcases Nat.eq_or_lt_of_le hi with rfl | hi
      · exact ⟨_, parent, Element.slot?_number .., hparent, hbase⟩
      · exact Element.nests_within (parts.number_nests (hbase.trans hparent.le) (by simp))
          i hi hlt

theorem Elements.number_nests {base parent : Nat} {nodes : Document}
    (hbase : base ≤ parent) (hparent : parent < nodes.size) :
    (es : Elements) → Nests base nodes (es.number parent nodes)
  | .nil => fun _ hi hlt => absurd hlt (Nat.not_lt.mpr hi)
  | .cons e rest => by
      intro i hi hlt
      -- a node of the first element, which the others leave alone, or one of the others
      by_cases h : i < (e.number parent nodes).size
      · obtain ⟨k, p, hp, hnest⟩ := e.number_nests hbase hparent i hi h
        exact ⟨k, p, ((rest.number_goesOn parent _).slot? i h).trans hp, hnest⟩
      · exact rest.number_nests hbase
          (hparent.trans_le (e.number_goesOn parent nodes).size) i (Nat.not_lt.mp h) hlt

end

end XPath

/-! ### Lines of nodes -/

namespace Lint

open XPath Document

/-- A node that has a line, or is in one that has. -/
inductive IsPlaced (d : Document) : Nat → Prop
  | here {i : Nat} (h : ((d.attr? i "lineno").bind String.toNat?).isSome = true) :
      IsPlaced d i
  | within {i p : Nat} (hp : d.parent? i = some p) (hlt : p < i) (h : IsPlaced d p) :
      IsPlaced d i

/-- More steps outwards only add nodes at the end. -/
theorem ancestorsFrom_mono (d : Document) {m n : Nat} (h : m ≤ n) (i : Nat) :
    d.ancestorsFrom m i <+: d.ancestorsFrom n i := by
  induction m generalizing n i with
  | zero => exact List.nil_prefix
  | succ m ih =>
      obtain ⟨n, rfl⟩ := Nat.exists_eq_add_of_le' h
      rw [ancestorsFrom, ← Nat.add_assoc, ancestorsFrom]
      rcases d.parent? i with - | p
      · exact List.prefix_refl _
      · exact (List.prefix_cons_inj p).mpr (ih (Nat.le_add_left m n) p)

/-- A node with a place has a line. -/
theorem IsPlaced.isSome {d : Document} {i : Nat} (h : IsPlaced d i) :
    (lineOf? d i).isSome = true := by
  simp only [lineOf?, List.findSome?_isSome_iff]
  induction h with
  | here h => exact ⟨_, List.mem_cons_self, h⟩
  | @within i p hp hlt _ ih =>
      -- the parent is looked at with fewer steps left; its number is smaller, so these
      -- are enough
      obtain ⟨j, hj, hsome⟩ := ih
      refine ⟨j, List.mem_cons_of_mem i ?_, hsome⟩
      rw [ancestors, ancestorsFrom, hp]
      rcases List.mem_cons.mp hj with rfl | hj
      · exact List.mem_cons_self
      · exact List.mem_cons_of_mem p ((ancestorsFrom_mono d hlt p).subset hj)

/-- Where the first of some nodes is placed and the others are in each other, all are. -/
theorem isPlaced_of_nested {d : Document} {low high : Nat} (hlow : IsPlaced d low)
    (hnested : ∀ i, low < i → i < high → ∃ k p, d.slot? i = some (k, p) ∧ p < i ∧ low ≤ p)
    (i : Nat) (hi : low ≤ i) (hlt : i < high) :
    IsPlaced d i := by
  induction i using Nat.strongRecOn with
  | _ i ih =>
      rcases Nat.eq_or_lt_of_le hi with rfl | hi
      · exact hlow
      · obtain ⟨k, p, hp, hpi, hle⟩ := hnested i hi hlt
        exact .within (parent?_of_slot? hp (by omega)) hpi (ih p hpi hle (hpi.trans hlt))

/-- An element with a line of its own. -/
def HasLine : Element → Prop
  | .element _ attrs _ => ((attrs.lookup "lineno").bind String.toNat?).isSome = true
  | .text _ => False

/-- Parts that are all elements with lines of their own. -/
def AllHaveLines : Elements → Prop
  | .nil => True
  | .cons e rest => HasLine e ∧ AllHaveLines rest

/-- Everything in an element with a line is placed, in whatever document it ends up. -/
theorem isPlaced_number {parent : Nat} {nodes d : Document} (e : Element) (he : HasLine e)
    (hd : (e.number parent nodes).GoesOn d)
    (i : Nat) (hi : nodes.size ≤ i) (hlt : i < (e.number parent nodes).size) :
    IsPlaced d i := by
  cases e with
  | text => cases he
  | element name attrs parts =>
      refine isPlaced_of_nested (.here ?_) (fun j hj hlt => ?_) i hi hlt
      · have hroot :=
          (hd.slot? nodes.size (hi.trans_lt hlt)).trans
            (Element.slot?_number parent nodes name attrs parts)
        rw [attr?, Document.attrs, kind_of_slot? hroot]
        exact he
      · obtain ⟨k, p, hp, hnest⟩ :=
          Element.nests_within (parts.number_nests le_rfl (by simp)) j hj hlt
        exact ⟨k, p, (hd.slot? j hlt).trans hp, hnest⟩

/-- Elements with lines are placed, and so is everything in them. -/
theorem isPlaced_numberAll {parent : Nat} {nodes d : Document} :
    (es : Elements) → AllHaveLines es → (es.number parent nodes).GoesOn d →
    ∀ i, nodes.size ≤ i → i < (es.number parent nodes).size → IsPlaced d i
  | .nil, _, _, _, hi, hlt => absurd hlt (Nat.not_lt.mpr hi)
  | .cons e rest, ⟨he, hrest⟩, hd, i, hi, hlt => by
      by_cases h : i < (e.number parent nodes).size
      · exact isPlaced_number e he ((rest.number_goesOn parent _).trans hd) i hi h
      · exact isPlaced_numberAll rest hrest hd i (Nat.not_lt.mp h) hlt

open Source

/-- The element of a statement has the line of its place. -/
theorem hasLine_of_hasPlace {t : Tree} {e : Element} (ht : t.HasPlace)
    (h : t.element? = some e) : HasLine e := by
  obtain ⟨kind, p, fields⟩ := ht
  obtain ⟨parts, -, h⟩ := Option.bind_eq_some_iff.mp h
  cases h
  have hnumber : (toString p.line).toNat? = some p.line := Nat.toNat?_repr p.line
  rw [HasLine, placeAttrs, List.cons_append, List.lookup_cons_self,
    Option.bind_some, hnumber]
  rfl

/-- Statements with places are written as elements with lines. -/
theorem allHaveLines_of_hasPlace {body : List Tree} {es : Elements}
    (hbody : ∀ t ∈ body, t.HasPlace)
    (h : (Siblings.ofList body).elements? = some es) : AllHaveLines es := by
  induction body generalizing es with
  | nil =>
      cases h
      trivial
  | cons t rest ih =>
      obtain ⟨ht, hrest⟩ := List.forall_mem_cons.mp hbody
      obtain ⟨e, he, h⟩ := Option.bind_eq_some_iff.mp h
      obtain ⟨more, hmore, h⟩ := Option.bind_eq_some_iff.mp h
      cases h
      exact ⟨hasLine_of_hasPlace ht he, ih hrest hmore⟩

/-- The element of a module. -/
def moduleElement (es : Elements) : Element :=
  .element "Module" []
    (.cons (.element "body" [] es) (.cons (.element "type_ignores" [] .nil) .nil))

/-- The element of a module has one part, which holds its statements. -/
theorem element?_moduleOf {body : List Tree} {e : Element}
    (h : (Tree.moduleOf body).element? = some e) :
    ∃ es, (Siblings.ofList body).elements? = some es ∧ e = moduleElement es := by
  rcases hes : (Siblings.ofList body).elements? with - | es
  · simp [Tree.moduleOf, Tree.plain, Tree.many, Fields.ofList, Tree.element?,
      Fields.parts?, Field.part?, hes] at h
  · refine ⟨es, rfl, ?_⟩
    simp [Tree.moduleOf, Tree.plain, Tree.many, Fields.ofList, Tree.element?,
      Fields.parts?, Field.part?, hes, Siblings.ofList,
      Siblings.elements?, placeAttrs] at h
    exact h.symm

/-- Nodes without lines in nodes of the same sort have no lines. -/
theorem lineOf?_eq_none {d : Document} {S : Nat → Prop}
    (hS : ∀ i, S i → d.attr? i "lineno" = none ∧ ∀ p, d.parent? i = some p → S p)
    {i : Nat} (hi : S i) : lineOf? d i = none := by
  have hancestors : ∀ n i, S i → ∀ j ∈ d.ancestorsFrom n i, S j := by
    -- on the number of steps, for all nodes at once: the next step is from the parent
    intro n
    induction n with
    | zero => exact fun _ _ => List.forall_mem_nil _
    | succ n ih =>
        intro i hi
        rw [ancestorsFrom]
        rcases hp : d.parent? i with - | p
        · exact List.forall_mem_nil _
        · have hSp := (hS i hi).2 p hp
          exact List.forall_mem_cons.mpr ⟨hSp, ih p hSp⟩
  rw [lineOf?, List.findSome?_eq_none_iff]
  intro j hj
  have hSj : S j := by
    rcases List.mem_cons.mp hj with rfl | hj
    · exact hi
    · exact hancestors _ i hi j hj
  rw [(hS j hSj).1, Option.bind_none]

/-- The first nodes of the document of a source. -/
def moduleTop : Document :=
  #[⟨.document, 0, 0⟩, ⟨.element "Module" [], 0, 0⟩, ⟨.element "body" [], 1, 0⟩]

/-- The document of a module: first the outer nodes, then what is in the body, and one
more node at the end. -/
theorem ofElement_moduleElement (es : Elements) :
    (es.number 2 moduleTop).GoesOn (Document.ofElement (moduleElement es)) ∧
      (Document.ofElement (moduleElement es)).size = (es.number 2 moduleTop).size + 1 ∧
      (Document.ofElement (moduleElement es)).slot? (es.number 2 moduleTop).size =
        some (.element "type_ignores" [], 1) := by
  have hbody :
      (es.number 2 moduleTop).GoesOn ((Element.element "body" [] es).number 1
        #[⟨.document, 0, 0⟩, ⟨.element "Module" [], 0, 0⟩]) :=
    .modify ..
  have hsize :
      ((Element.element "body" [] es).number 1 #[⟨.document, 0, 0⟩,
        ⟨.element "Module" [], 0, 0⟩]).size = (es.number 2 moduleTop).size :=
    Array.size_modify
  -- what the body is made of matters no longer, only where it ends
  generalize hb : (Element.element "body" [] es).number 1 #[⟨.document, 0, 0⟩,
    ⟨.element "Module" [], 0, 0⟩] = b at hbody hsize
  have hlast := Element.number_goesOn 1 b (.element "type_ignores" [] .nil)
  have hlast' := Element.slot?_number 1 b "type_ignores" [] .nil
  have hsize' : ((Element.element "type_ignores" [] .nil).number 1 b).size =
      b.size + 1 := by
    rw [Element.number, Array.size_modify, Elements.number, Array.size_push]
  have hd : ((Element.element "type_ignores" [] .nil).number 1 b).GoesOn
      (Document.ofElement (moduleElement es)) := by
    subst hb
    exact (GoesOn.modify _ 1 _).trans (.modify _ 0 _)
  have hsize'' : (Document.ofElement (moduleElement es)).size =
      ((Element.element "type_ignores" [] .nil).number 1 b).size := by
    subst hb
    exact Array.size_modify.trans Array.size_modify
  refine ⟨(hbody.trans hlast).trans hd, by omega, ?_⟩
  rw [← hsize]
  exact (hd.slot? _ (by omega)).trans hlast'

/-- What is in the body of a module is in statements, and the other nodes are not. -/
theorem lineOf?_moduleElement {es : Elements} (hes : AllHaveLines es) (i : Nat) :
    (lineOf? (Document.ofElement (moduleElement es)) i).isSome = true ↔ 2 < i ∧
      i + 1 < (Document.ofElement (moduleElement es)).size := by
  obtain ⟨hd, hsize, hlast⟩ := ofElement_moduleElement es
  have htop := (es.number_goesOn 2 moduleTop).trans hd
  have hthree : 3 ≤ (es.number 2 moduleTop).size := (es.number_goesOn 2 moduleTop).size
  generalize Document.ofElement (moduleElement es) = d at hd hsize hlast htop ⊢
  have hdocument : d.slot? 0 = some (.document, 0) := htop.slot? 0 (by decide)
  have hmodule : d.slot? 1 = some (.element "Module" [], 0) := htop.slot? 1 (by decide)
  have hbody : d.slot? 2 = some (.element "body" [], 1) := htop.slot? 2 (by decide)
  constructor
  · intro h
    by_contra hout
    have houter : ∀ i name p, d.slot? i = some (.element name [], p) → p ≤ 1 →
        d.attr? i "lineno" = none ∧ ∀ q, d.parent? i = some q →
          ¬ (2 < q ∧ q + 1 < d.size) := by
      intro i name p hslot hp
      refine ⟨by rw [attr?, Document.attrs, kind_of_slot? hslot]; rfl, fun q hq => ?_⟩
      rcases eq_or_ne i 0 with rfl | hi
      · cases hq
      · cases (parent?_of_slot? hslot hi).symm.trans hq
        omega
    -- the nodes outside of the body have no attributes, and neither have those they are
    -- in
    have hS : ∀ i, ¬ (2 < i ∧ i + 1 < d.size) →
        d.attr? i "lineno" = none ∧ ∀ q, d.parent? i = some q →
          ¬ (2 < q ∧ q + 1 < d.size) := by
      intro i hi
      obtain rfl | rfl | rfl | rfl | hbeyond : i = 0 ∨ i = 1 ∨ i = 2 ∨
        i = (es.number 2 moduleTop).size ∨ d.size ≤ i := by omega
      · refine ⟨?_, fun q hq => by cases hq⟩
        rw [attr?, Document.attrs, kind_of_slot? hdocument]
        rfl
      · exact houter 1 _ 0 hmodule (Nat.zero_le 1)
      · exact houter 2 _ 1 hbody le_rfl
      · exact houter _ _ 1 hlast le_rfl
      · -- a number beyond the document
        have hnone : d[i]? = none := Array.getElem?_eq_none hbeyond
        refine ⟨by rw [attr?, Document.attrs, Document.kind, hnone]; rfl, fun q hq => ?_⟩
        rw [parent?, hnone] at hq
        split at hq <;> cases hq
    rw [lineOf?_eq_none hS hout] at h
    cases h
  · rintro ⟨hi, hlt⟩
    exact (isPlaced_numberAll es hes hd i hi (by omega)).isSome

/-- **Lines of nodes.** In the document of a source, exactly the nodes in the body of
the module have a line. -/
theorem lineOf?_isSome_iff {source : String} {tree : Tree} {d : Document}
    (htree : Tree.ofSource source = .ok tree)
    (hd : tree.document? = some d) (i : Nat) : (lineOf? d i).isSome = true ↔ 2 < i ∧
    i + 1 < d.size := by
  obtain ⟨body, rfl, hbody⟩ := Tree.eq_moduleOf htree
  obtain ⟨e, he, rfl⟩ := Option.map_eq_some_iff.mp hd
  obtain ⟨es, hes, rfl⟩ := element?_moduleOf he
  exact lineOf?_moduleElement (allHaveLines_of_hasPlace hbody hes) i

end Lint

end RuleLint
