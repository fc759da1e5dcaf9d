/-
RuleLint/Proofs/Dispatch.lean

Which function builds a scalar, whatever has been registered.

Registrations go into two tables with opposite rules: of the patterns that a plain
scalar fits the earliest counts, and of the functions for a tag the latest.
`plainTag_of_history` and `maker?_of_history` say so for every history on top of the
registrations that configurations come with (`Registration.builtin`), whose cues are
patterns like any other (`fits_glob`, `fits_path`).

`Dispatches` says of a scalar which tag and which maker it has, wherever it stands, and
`dispatches_of_history` says it for every kind of scalar.
-/
import RuleLint.Host.Standard
import RuleLint.Proofs.Scalars

namespace RuleLint.Yaml

/-! ### Cues of configurations as patterns -/

namespace Cue

open Regex

/-- At least one character up to the end of the line. -/
def restOfLine : Regex.Node := .loop .greedy 1 none (.leaf (.any false))

/-- The expression of patterns below the directory of a configuration. -/
def globNode : Regex.Node :=
  .cat (.cat (.cat (.leaf (.point .exact 126)) (.leaf (.point .exact 43)))
    (.leaf (.oneOf .exact false false [.point 47, .point 92])))
    restOfLine

/-- The expression of paths. -/
def pathNode : Regex.Node := .cat (.leaf (.point .exact 47)) restOfLine

variable {k : Then}

/-- A run that can end anywhere ends, however much is given back. -/
theorem isSome_giveBack (hk : ∀ e, (k e).isSome = true) (s : Spot) (length extra : Nat) :
    (giveBack s length k extra).isSome = true := by
  induction extra with
  | zero => exact hk _
  | succ extra ih =>
      rw [giveBack]
      split
      · rfl
      · exact ih

/-- The rest of a line is matched if there is something. -/
theorem isSome_restOfLine (hk : ∀ e, (k e).isSome = true) (front rest : List Char)
    (groups : List (Nat × Nat × Nat)) :
    (restOfLine.run (front ++ rest).toArray ⟨front.length, groups⟩ k).isSome =
      hasMore rest := by
  show ((Leaf.any false).runLoop (front ++ rest).toArray .greedy 1 none ⟨front.length,
    groups⟩ k).isSome = hasMore rest
  unfold Leaf.runLoop
  cases rest with
  | nil => simp [Leaf.runLength, hasMore]
  | cons c rest =>
      by_cases hc : c = '\n'
      · simp [Leaf.runLength, Leaf.takes, hasMore, hc]
      · simp [Leaf.runLength, Leaf.takes, hasMore, hc, isSome_giveBack hk]

/-- A character for itself. -/
theorem takes_point (d c : Char) : (Leaf.point .exact d.toNat).takes c = (c == d) := by
  have hnat : d.toNat = c.toNat ↔ c = d :=
    ⟨fun h => (Char.toNat_inj.mp h).symm, fun h => h ▸ rfl⟩
  have hfold : (Fold.exact == Fold.full) = false := rfl
  rw [Bool.eq_iff_iff]
  simpa [Leaf.takes, Member.takes, Fold.key, hfold] using hnat

/-- A slash of either kind. -/
theorem takes_slash (c : Char) :
    (Leaf.oneOf .exact false false [.point '/'.toNat, .point '\\'.toNat]).takes c =
      (c == '/' || c == '\\') := by
  rw [← takes_point '/' c, ← takes_point '\\' c]
  simp [Leaf.takes]

/-- Whether a text begins with a character that passes a test, with something behind it
that passes another. -/
def opens (first : Char → Bool) (test : List Char → Bool) : List Char → Bool
  | [] => false
  | c :: rest => first c && test rest

/-- A leaf and what follows it match where both do. -/
theorem isSome_leaf {l : Leaf} {first : Char → Bool} (hfirst : ∀ c, l.takes c = first c)
    (front rest : List Char)
    (groups : List (Nat × Nat × Nat)) {test : List Char → Bool}
    (htest : ∀ c cs, rest = c :: cs →
      (k ⟨(front ++ [c]).length, groups⟩).isSome = test cs) :
    ((Regex.Node.leaf l).run (front ++ rest).toArray ⟨front.length, groups⟩ k).isSome =
      opens first test rest := by
  cases rest with
  | nil => simp [Regex.Node.run, opens]
  | cons c rest =>
      have hrest := htest c rest rfl
      by_cases hc : first c = true
      · simpa [Regex.Node.run, opens, hfirst, hc] using hrest
      · simp [Regex.Node.run, opens, hfirst, hc]

/-- Every end of a match at the start of a text will do. -/
def anyEnd : Then := fun e => if (false && e.place == 0) = true then none else some e

theorem isSome_anyEnd (e : Spot) : (anyEnd e).isSome = true :=
  rfl

theorem matchesStart_eq (p : Pattern) (s : String) :
    p.matchesStart s = (p.root.run s.toList.toArray ⟨0, []⟩ anyEnd).isSome :=
  Option.isSome_map

/-- The expression for queries asks for a slash and one more character. -/
theorem fits_path {p : Pattern} (hp : p.root = pathNode) (s : String) :
    (Cue.pattern p).fits s = Cue.path.fits s := by
  have hpattern : p.matchesStart s = opens (· == '/') hasMore s.toList := by
    rw [matchesStart_eq, hp, pathNode, Regex.Node.run]
    refine isSome_leaf (takes_point '/') [] s.toList [] fun c cs hs => ?_
    rw [hs]
    exact isSome_restOfLine isSome_anyEnd [c] cs []
  show p.matchesStart s = Cue.path.fits s
  rw [hpattern, Cue.fits]
  cases s.toList with
  | nil => rfl
  | cons c rest => by_cases hc : c = '/' <;> simp [opens, hc]

/-- The expression for patterns asks for a tilde, a plus, a slash and one more. -/
theorem fits_glob {p : Pattern} (hp : p.root = globNode) (s : String) :
    (Cue.pattern p).fits s = Cue.glob.fits s := by
  have hpattern : p.matchesStart s
      = opens (· == '~')
        (opens (· == '+') (opens (fun c => c == '/' || c == '\\') hasMore)) s.toList := by
    rw [matchesStart_eq, hp, globNode, Regex.Node.run, Regex.Node.run, Regex.Node.run]
    -- the three signs one after the other, then the rest of the line
    refine isSome_leaf (takes_point '~') [] s.toList [] fun a as hs => ?_
    rw [hs]
    refine isSome_leaf (takes_point '+') [a] as [] fun b bs has => ?_
    rw [has]
    refine isSome_leaf takes_slash [a, b] bs [] fun c cs hbs => ?_
    rw [hbs]
    exact isSome_restOfLine isSome_anyEnd [a, b, c] cs []
  show p.matchesStart s = Cue.glob.fits s
  rw [hpattern, Cue.fits]
  -- by the length of the text, up to the third sign
  rcases s.toList with - | ⟨a, - | ⟨b, - | ⟨c, cs⟩⟩⟩
  · rfl
  · simp [opens]
  · simp [opens]
  · by_cases ha : a = '~' <;> by_cases hb : b = '+' <;> simp [opens, ha, hb]

end Cue

/-! ### Registrations -/

namespace Registration

/-- The registration of path patterns. -/
def glob : Registration :=
    { name := "glob", maker := .glob, pattern := some "\\~\\+[/\\\\].+" }

/-- The registration of path expressions. -/
def xpath : Registration := { name := "xpath", maker := .xpath, pattern := some "/.+" }

/-- The registrations that configurations come with. -/
def builtin : List Registration :=
  [glob, xpath, { name := "regex", maker := .regex },
    { name := "verbal", maker := .steps }, { name := "chain", maker := .steps },
   { name := "settings", maker := .settings }]

/-- Whether a registration has a pattern that a scalar fits. -/
def fits (g : Registration) (s : String) : Bool :=
  match g.cue? with
  | .ok (some cue) => cue.fits s
  | _ => false

/-- Whether the tag of a registration is an exclamation mark with something behind it. -/
def IsOwn (g : Registration) : Prop :=
  g.tagName.toList.head? = some '!' ∧ 1 < g.tagName.toList.length

instance (g : Registration) : Decidable g.IsOwn :=
  inferInstanceAs (Decidable (_ ∧ _))

/-- A tag of its own is not that of texts. -/
theorem IsOwn.tagName_ne_textTag {g : Registration} (h : g.IsOwn) :
    g.tagName ≠ textTag := by
  intro htag
  have hhead := h.1
  rw [htag] at hhead
  exact absurd hhead (by decide)

/-- A tag of one's own does not leave the choice to the content. -/
theorem IsOwn.scalarTag {g : Registration} (h : g.IsOwn) (resolve : String → String)
    (text : String) (plain : Bool) :
    Compose.scalarTag resolve (some g.tagName) text plain = g.tagName := by
  unfold Compose.scalarTag
  split
  · rename_i hnone
    cases hnone
  · rename_i htag
    have hlength := h.2
    rw [Option.some.inj htag] at hlength
    exact absurd hlength (by decide)
  · rename_i htag
    exact (Option.some.inj htag).symm

/-- The maker of a tag that was registered last. -/
def latest? (all : List Registration) (tag : String) : Option Maker :=
  (all.reverse.find? (·.tagName == tag)).map (·.maker)

/-- The maker of a tag is that of the first registration of it. -/
theorem lookup_map (gs : List Registration) (tag : String) :
    (gs.map fun g => (g.tagName, g.maker)).lookup tag =
      (gs.find? (·.tagName == tag)).map (·.maker) := by
  induction gs with
  | nil => rfl
  | cons g gs ih =>
      rw [List.map_cons, List.lookup_cons, List.find?_cons, ih, Bool.beq_comm]
      cases g.tagName == tag <;> rfl

/-- An expression that can be read is the cue of its registration. -/
theorem exists_pattern {g : Registration} {source : String} {root : Regex.Node}
    (hg : g.pattern = some source)
    (hroot : (Regex.Pattern.ofText {} source).toOption.map (·.root) = some root) :
    ∃ p, g.cue? = .ok (some (.pattern p)) ∧ p.root = root := by
  obtain ⟨p, hp, rfl⟩ := Option.map_eq_some_iff.mp hroot
  refine ⟨p, ?_, rfl⟩
  rw [cue?, hg]
  cases hread : Regex.Pattern.ofText {} source with
  | error e => simp [hread, Except.toOption] at hp
  | ok q =>
      rw [hread] at hp
      cases hp
      dsimp only
      rw [hread]
      rfl

/-- The patterns of configurations are their cues. -/
theorem find?_builtin (s : String) :
    (builtin.find? (·.fits s)).map (·.tagName) =
      (Registry.configuration.cues.find? (·.2.fits s)).map (·.1) := by
  have hglob : glob.fits s = Cue.glob.fits s := by
    obtain ⟨p, hp, hroot⟩ :=
      exists_pattern (g := glob) rfl (show _ = some Cue.globNode by decide +kernel)
    rw [fits, hp]
    exact Cue.fits_glob hroot s
  have hpath : xpath.fits s = Cue.path.fits s := by
    obtain ⟨p, hp, hroot⟩ :=
      exists_pattern (g := xpath) rfl (show _ = some Cue.pathNode by decide +kernel)
    rw [fits, hp]
    exact Cue.fits_path hroot s
  have hplain (name : String) (m : Maker) : fits { name := name, maker := m } s = false :=
    rfl
  have htags : glob.tagName = "!glob" ∧ xpath.tagName = "!xpath" := ⟨rfl, rfl⟩
  -- only two of the registrations have a pattern, so it is enough to ask these two
  cases hg : Cue.glob.fits s <;> cases hp : Cue.path.fits s <;>
    simp [builtin, Registry.configuration, hglob, hpath, hplain, hg, hp, htags]

end Registration

namespace Registry

open Registration

variable {r r' : Registry} {g : Registration} {history : List Registration}

/-- A registration succeeds if its expression can be read. -/
theorem add_eq_ok : r.add g = .ok r' ↔ ∃ cue, g.cue? = .ok cue ∧
    r.register g.tagName g.maker cue = r' := by
  rw [add, bind_eq_ok]
  refine exists_congr fun cue => and_congr_right fun _ => ?_
  exact ⟨fun h => Except.ok.inj h, fun h => congrArg Except.ok h⟩

/-- Makers stand in reverse order of registration, so the last one of a tag counts. -/
theorem makers_of_history (h : history.foldlM Registry.add r = .ok r') :
    r'.makers = history.reverse.map (fun g => (g.tagName, g.maker)) ++ r.makers := by
  induction history generalizing r with
  | nil =>
      cases h
      rfl
  | cons g history ih =>
      rw [List.foldlM_cons, bind_eq_ok] at h
      obtain ⟨r₁, hadd, hrest⟩ := h
      obtain ⟨cue, -, rfl⟩ := add_eq_ok.mp hadd
      rw [ih hrest, List.reverse_cons, List.map_append, List.append_assoc]
      rfl

/-- The latest function for a tag is its maker. -/
theorem maker?_of_history (h : history.foldlM Registry.add .configuration = .ok r)
    (tag : String) :
    r.maker? tag = (latest? (builtin ++ history) tag).or (standardMakers.lookup tag) := by
  have hmakers : r.makers = (builtin ++ history).reverse.map (fun g =>
      (g.tagName, g.maker)) ++ standardMakers := by
    rw [makers_of_history h, List.reverse_append, List.map_append, List.append_assoc]
    rfl
  rw [maker?, hmakers, List.lookup_append, lookup_map]
  rfl

/-- A new pattern is tried when all others have failed. -/
theorem cueTag_of_add (h : r.add g = .ok r') (s : String) :
    (r'.cues.find? (·.2.fits s)).map (·.1)
      = ((r.cues.find? (·.2.fits s)).map (·.1)).or (if g.fits s then some g.tagName
        else none) := by
  obtain ⟨cue, hcue, rfl⟩ := add_eq_ok.mp h
  rw [register, List.find?_append, Option.map_or, Registration.fits, hcue]
  cases cue with
  | none => simp
  | some cue => by_cases hs : cue.fits s = true <;> simp [hs]

/-- Cues stand in order of registration, so the first one that fits counts. -/
theorem cueTag_of_history (h : history.foldlM Registry.add r = .ok r') (s : String) :
    (r'.cues.find? (·.2.fits s)).map (·.1)
      = ((r.cues.find? (·.2.fits s)).map (·.1)).or
        ((history.find? (·.fits s)).map (·.tagName)) := by
  induction history generalizing r with
  | nil =>
      cases h
      exact Option.or_none.symm
  | cons g history ih =>
      rw [List.foldlM_cons, bind_eq_ok] at h
      obtain ⟨r₁, hadd, hrest⟩ := h
      rw [ih hrest, cueTag_of_add hadd, Option.or_assoc, List.find?_cons]
      cases g.fits s <;> rfl

/-- The earliest pattern that a plain scalar fits gives its tag. -/
theorem plainTag_of_history (h : history.foldlM Registry.add .configuration = .ok r)
    {s : String} (hs : standardType? s = none) :
    r.plainTag s =
      (((builtin ++ history).find? (·.fits s)).map (·.tagName)).getD textTag := by
  rw [plainTag, hs]
  show ((r.cues.find? (·.2.fits s)).map (·.1)).getD textTag = _
  rw [cueTag_of_history h, ← find?_builtin, List.find?_append, Option.map_or]

/-- The maker of a registered tag is the one that was registered last. -/
theorem exists_latest? {g : Registration} {all : List Registration} (hg : g ∈ all) :
    ∃ m, latest? all g.tagName = some m := by
  have hsome : (all.reverse.find? (·.tagName == g.tagName)).isSome = true :=
    List.find?_isSome.mpr ⟨g, List.mem_reverse.mpr hg, beq_self_eq_true _⟩
  obtain ⟨g', hg'⟩ := Option.isSome_iff_exists.mp hsome
  exact ⟨g'.maker, by rw [latest?, hg']; rfl⟩

/-- Tags of the standard are nobody's own. -/
theorem latest?_textTag {all : List Registration} (hall : ∀ g ∈ all, g.IsOwn) :
    latest? all textTag = none := by
  rw [latest?, Option.map_eq_none_iff, List.find?_eq_none]
  intro g hg htag
  exact (hall g (List.mem_reverse.mp hg)).tagName_ne_textTag (beq_iff_eq.mp htag)

theorem isOwn_builtin : ∀ g ∈ builtin, g.IsOwn := by
  decide

end Registry

/-! ### Scalars -/

section Scalars

variable [Host]

/-- Whether scalars with a text, plain or not and with a tag in front of them or none,
have one tag and are built by one maker, wherever they stand. -/
structure Dispatches (site : Site) (given : Option String) (text : String) (plain : Bool)
    (tag : String) (m : Maker) : Prop where
  composed {c : Composer} {start : Mark} {rest : List Token}
    (h : c.AtScalar given text plain start rest) (n : Nat) (block indentless : Bool) :
    Compose.node site.registry.plainTag (n + 1) block indentless c
      = .ok (c.graph.size,
        { c with tokens := rest, graph := c.graph.push ⟨tag, .scalar text, start⟩ })
  built {w : Work} {i : NodeId} (htag : (w.graph.node i).tag = tag)
    (htext : (w.graph.node i).content = .scalar text)
      (hactive : i ∉ w.active) (n : Nat) :
    Build.build site (n + 1) i w = Build.build ⟨⟨[(tag, m)], []⟩, site.name⟩ (n + 1) i w
  loaded {document : String} {start : Mark}
    (h : IsScalar document given text plain start) :
    load site document = m.ofScalar site.name tag text start

variable {r : Registry} {name text tag : String} {given : Option String}
    {plain : Bool} {m : Maker}

/-- A scalar is dispatched to the maker of its tag, whatever else there is. -/
theorem dispatches_of_maker? (htag : Compose.scalarTag r.plainTag given text plain = tag)
    (hmaker : r.maker? tag = some m) :
    Dispatches ⟨r, name⟩ given text plain tag m where
  composed h n block indentless := by
    rw [Compose.node_of_atScalar h, htag]
  built hnode htext hactive n :=
    Build.build_of_scalar htext hactive (hnode ▸ hmaker) (hnode ▸ List.lookup_cons_self)
  loaded h := load_of_isScalar h htag hmaker

/-- **Dispatch.** After every history of registrations: a plain scalar of no standard
type has the tag of the earliest pattern that it fits and is built by the latest
function for that tag; one that fits no pattern is the text that it is without any
registration.  A scalar with a registered tag is built by the latest function for it,
whatever its text, and a quoted scalar without a tag is a text. -/
theorem dispatches_of_history {history : List Registration}
    (hown : ∀ g ∈ history, g.IsOwn)
    (hr : history.foldlM Registry.add .configuration = .ok r) (name text : String) :
    (standardType? text = none → ∀ g,
      (Registration.builtin ++ history).find? (·.fits text) = some g →
      ∃ m, Registration.latest? (Registration.builtin ++ history) g.tagName = some m ∧
        Dispatches ⟨r, name⟩ none text true g.tagName m) ∧
    (standardType? text = none → (Registration.builtin ++ history).find? (·.fits text) =
      none →
      Dispatches ⟨r, name⟩ none text true textTag .text ∧
        Dispatches ⟨⟨standardMakers, []⟩, name⟩ none text true textTag .text) ∧
    (∀ g ∈ Registration.builtin ++ history, ∀ plain, ∃ m,
      Registration.latest? (Registration.builtin ++ history) g.tagName = some m ∧
        Dispatches ⟨r, name⟩ (some g.tagName) text plain g.tagName m) ∧
    Dispatches ⟨r, name⟩ none text false textTag .text ∧
      Dispatches ⟨⟨standardMakers, []⟩, name⟩ none text false textTag .text := by
  have hall : ∀ g ∈ Registration.builtin ++ history, g.IsOwn :=
    List.forall_mem_append.mpr ⟨Registry.isOwn_builtin, hown⟩
  -- a registration has a maker, possibly that of a later one
  have hregistered (g : Registration) (hg : g ∈ Registration.builtin ++ history) :
      ∃ m, Registration.latest? (Registration.builtin ++ history) g.tagName = some m ∧
        r.maker? g.tagName = some m := by
    obtain ⟨m, hm⟩ := Registry.exists_latest? hg
    exact ⟨m, hm, by rw [Registry.maker?_of_history hr, hm]; rfl⟩
  -- no registration is one of the tag for texts
  have htext : r.maker? textTag = some .text := by
    rw [Registry.maker?_of_history hr, Registry.latest?_textTag hall]
    decide
  have hstandard : (⟨standardMakers, []⟩ : Registry).maker? textTag = some .text := by
    decide
  refine ⟨fun hs g hg => ?_, fun hs hnone => ⟨?_, ?_⟩, fun g hg plain => ?_, ?_, ?_⟩
  · -- a plain text that fits a cue has the tag of the first one
    obtain ⟨m, hm, hmaker⟩ := hregistered g (List.mem_of_find?_eq_some hg)
    refine ⟨m, hm, dispatches_of_maker? ?_ hmaker⟩
    show r.plainTag text = g.tagName
    rw [Registry.plainTag_of_history hr hs, hg]
    rfl
  · refine dispatches_of_maker? ?_ htext
    show r.plainTag text = textTag
    rw [Registry.plainTag_of_history hr hs, hnone]
    rfl
  · refine dispatches_of_maker? ?_ hstandard
    show Registry.plainTag _ text = textTag
    rw [Registry.plainTag, hs]
    rfl
  · -- a tag that is given counts, whatever the text looks like
    obtain ⟨m, hm, hmaker⟩ := hregistered g hg
    exact ⟨m, hm, dispatches_of_maker? ((hall g hg).scalarTag _ _ _) hmaker⟩
  · exact dispatches_of_maker? rfl htext
  · exact dispatches_of_maker? rfl hstandard

end Scalars

/-- A pattern with a function that another one takes over, and a later pattern for the
same scalars. -/
def rivals : List Registration :=
  [{ name := "first", maker := .labelled "first", pattern := some "q+" },
   { name := "second", maker := .labelled "second", tag := some "!first" },
   { name := "third", maker := .labelled "third", pattern := some "qu" }]

theorem isScalar_quux : IsScalar "quux" none "quux" true ⟨0, 0, 0⟩ :=
  .of_tokens (s := ⟨.streamStart, ⟨0, 0, 0⟩, ⟨0, 0, 0⟩⟩)
    (t := ⟨.scalar "quux" true, ⟨0, 0, 0⟩, ⟨4, 0, 4⟩⟩)
    (e := ⟨.streamEnd, ⟨4, 0, 4⟩, ⟨4, 0, 4⟩⟩) (by decide) (by decide +kernel) rfl rfl

theorem standardType?_quux : standardType? "quux" = none := by
  unfold standardType?
  simp only [String.contains_char_eq]
  decide +kernel

open scoped Standard

/-- Of two makers for one tag, the second. -/
theorem dispatches_rivals : ∃ r, rivals.foldlM Registry.add .configuration = .ok r ∧
    load ⟨r, "rules.yml"⟩ "quux" = .ok (.list [.text "second", .text "quux"]) := by
  have htoBool : (rivals.foldlM Registry.add .configuration).toBool = true := by
    decide +kernel
  obtain ⟨r, hr⟩ := exists_of_toBool htoBool
  have hfirst : (Registration.builtin ++ rivals).find? (·.fits "quux") =
    rivals.head? := by decide +kernel
  obtain ⟨m, hm, h⟩ := (dispatches_of_history (by decide) hr "rules.yml" "quux").1
    standardType?_quux _ hfirst
  have hsecond : Registration.latest? (Registration.builtin ++ rivals) "!first" =
    some (.labelled "second") := by decide
  cases hm.symm.trans hsecond
  exact ⟨r, hr, (h.loaded isScalar_quux).trans (Maker.ofScalar_labelled "second")⟩

end RuleLint.Yaml
