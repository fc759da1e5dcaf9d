/-
RuleLint/Proofs/Lines.lean

The lines that an expression finds.  `Finds` says what an expression of each kind gives
for a text, as it comes: the lines of the nodes that a query finds, a line for every
match of a pattern, the parts of what a call gives.  `IsSetOf` says that a list holds
the members of such a collection, each once.  `linesOf` gives the members of what an
expression finds (`finds_of_linesOf`), whenever there is something to give
(`linesOf_of_finds`), and it leaves out exactly the expressions that are of no such
kind.

Two members of a set are told apart by `Value.same`, which compares numbers of all kinds
by value; it is only ever asked in the order in which members arrive, so nothing has to
be known about it here.
-/
import Mathlib.Order.Basic
import RuleLint.Lint.Basic
import RuleLint.Proofs.Sorting

namespace RuleLint

/-! ### Matches and their lines -/

namespace Regex

/-- A match starts where it was looked for. -/
theorem Pattern.find?_start_lt {p : Pattern} {text : Array Char} {moving : Bool}
    {place left a b : Nat}
    (h : p.find? text moving place left = some (a, b)) : a < place + left := by
  induction left generalizing moving place with
  | zero => cases h
  | succ left ih =>
      rw [Pattern.find?] at h
      rcases hm : p.matchAt? text moving place with - | e
      · rw [hm] at h
        have := ih h
        omega
      · rw [hm] at h
        cases h
        omega

/-- Matches start in the text or at its end. -/
theorem Pattern.findFrom_start_le {p : Pattern} {text : Array Char} {moving : Bool}
    {place left : Nat} {m : Nat × Nat}
    (h : m ∈ p.findFrom text moving place left) : m.1 ≤ text.size := by
  induction left generalizing moving place with
  | zero => cases h
  | succ left ih =>
      rw [Pattern.findFrom] at h
      rcases hf : p.find? text moving place (text.size + 1 - place) with - | ⟨a, b⟩
      · rw [hf] at h
        cases h
      · rw [hf] at h
        rcases List.mem_cons.mp h with rfl | h
        · have := Pattern.find?_start_lt hf
          show a ≤ text.size
          by_cases hp : place ≤ text.size + 1
          · omega
          · -- no place is left to look at
            rw [Nat.sub_eq_zero_of_le (by omega)] at hf
            cases hf
        · exact ih h

/-- A match starts in a text or at its end. -/
theorem Pattern.findAll_start_le {p : Pattern} {text : Array Char} {m : Nat × Nat}
    (h : m ∈ p.findAll text) :
    m.1 ≤ text.size :=
  Pattern.findFrom_start_le h

end Regex

namespace Lint

/-- The number at a place counts the line feeds in front of it. -/
theorem lineNumbers_getElem? {n : Nat} {cs : List Char} {i : Nat} (h : i ≤ cs.length) :
    (lineNumbers n cs)[i]? = some (n + (cs.take i).count '\n') := by
  induction cs generalizing n i with
  | nil =>
      obtain rfl := Nat.le_zero.mp h
      rfl
  | cons c cs ih =>
      cases i with
      | zero => simp [lineNumbers]
      | succ i =>
          rw [lineNumbers, List.getElem?_cons_succ, ih (by simpa using h),
            List.take_succ_cons, List.count_cons]
          by_cases hc : c = '\n'
          · simp [hc, Nat.add_comm, Nat.add_left_comm]
          · simp [hc]

/-- The lines of the matches of a pattern, one for each match: behind every line feed in
front of a match a line has begun. -/
def matchLines (p : Regex.Pattern) (text : String) : List Nat :=
  (p.findAll text.toList.toArray).map fun m => 1 + (text.toList.take m.1).count '\n'

/-- Lines are counted once for the whole text, which gives the same numbers. -/
theorem patternLines_eq_matchLines (p : Regex.Pattern) (text : String) :
    patternLines p text = matchLines p text := by
  -- every match starts at a place that has a line number
  refine List.map_congr_left fun m hm => ?_
  have hle : m.1 ≤ text.toList.length := by simpa using Regex.Pattern.findAll_start_le hm
  show ((lineNumbers 1 text.toList).toArray).getD m.1 0 = _
  rw [Array.getD_eq_getD_getElem?, List.getElem?_toArray, lineNumbers_getElem? hle,
    Option.getD_some]

/-! ### Members of a set -/

/-- `ms` are the members of the set of `vs`: some of the values, no two of them the
same, and each value is one of them or the same as one. -/
structure IsSetOf (vs ms : List Value) : Prop where
  sound : ∀ m ∈ ms, m ∈ vs
  distinct : ms.Pairwise fun a b => Value.same a b = false
  complete : ∀ v ∈ vs, ∃ m ∈ ms, m = v ∨ Value.same m v = true

theorem IsSetOf.nil : IsSetOf [] [] :=
  ⟨List.forall_mem_nil _, .nil, List.forall_mem_nil _⟩

/-- A member is added unless there is one that is the same. -/
theorem IsSetOf.addMember {vs ms : List Value} (h : IsSetOf vs ms) (v : Value) :
    IsSetOf (vs ++ [v]) (Value.addMember v ms) := by
  rw [Value.addMember]
  by_cases hany : ms.any (Value.same · v) = true
  · -- a member that is the same stands for the value
    rw [if_pos hany]
    obtain ⟨m, hm, hsame⟩ := List.any_eq_true.mp hany
    refine ⟨fun m hm => List.mem_append_left _ (h.sound m hm), h.distinct, fun w hw => ?_⟩
    rcases List.mem_append.mp hw with hw | hw
    · exact h.complete w hw
    · obtain rfl := List.mem_singleton.mp hw
      exact ⟨m, hm, Or.inr hsame⟩
  · rw [if_neg hany]
    refine ⟨?_, ?_, fun w hw => ?_⟩
    · intro m hm
      rcases List.mem_append.mp hm with hm | hm
      · exact List.mem_append_left _ (h.sound m hm)
      · exact List.mem_append_right _ hm
    · refine List.pairwise_append.mpr ⟨h.distinct, List.pairwise_singleton _ v, ?_⟩
      intro m hm w hw
      obtain rfl := List.mem_singleton.mp hw
      exact Bool.eq_false_iff.mpr fun hsame => hany (List.any_eq_true.mpr ⟨m, hm, hsame⟩)
    · rcases List.mem_append.mp hw with hw | hw
      · obtain ⟨m, hm, hmw⟩ := h.complete w hw
        exact ⟨m, List.mem_append_left _ hm, hmw⟩
      · exact ⟨w, List.mem_append_right _ hw, Or.inl rfl⟩

/-- By induction on the values, in order of arrival. -/
theorem IsSetOf.foldl_addMember {front ms : List Value} (h : IsSetOf front ms)
    (vs : List Value) :
    IsSetOf (front ++ vs) (vs.foldl (fun acc v => Value.addMember v acc) ms) := by
  induction vs generalizing front ms with
  | nil => simpa using h
  | cons v vs ih =>
      have := ih (h.addMember v)
      rwa [List.append_assoc, List.singleton_append] at this

/-- The members of a set, as they are gathered. -/
theorem isSetOf_members (vs : List Value) : IsSetOf vs (members vs) :=
  IsSetOf.nil.foldl_addMember vs

/-- What can be put in a set is put in one, and nothing else is. -/
theorem distinct_eq_ok {vs ms : List Value} :
    distinct vs = .ok ms ↔ (∀ v ∈ vs, v.canBeKey = true) ∧ ms = members vs := by
  rcases hfind : vs.find? (fun v => !v.canBeKey) with - | v
  · have hkeys : ∀ v ∈ vs, v.canBeKey = true := by simpa using List.find?_eq_none.mp hfind
    rw [distinct, hfind]
    exact ⟨fun h => ⟨hkeys, (Except.ok.inj h).symm⟩, fun h => by rw [h.2]⟩
  · have hbad : v.canBeKey = false := by simpa using List.find?_some hfind
    rw [distinct, hfind]
    refine iff_of_false (by rintro ⟨⟩) fun h => ?_
    rw [h.1 v (List.mem_of_find?_eq_some hfind)] at hbad
    cases hbad

theorem same_int (m n : Int) : Value.same (.int m) (.int n) = (m == n) := rfl

/-! ### What an expression finds -/

/-- `GaveParts given vs`: a function comes to something with the parts `vs`, which can all
be members of a set. -/
structure GaveParts (given : Except Fault Value) (vs : List Value) : Prop where
  parts : ∃ v, given = .ok v ∧ v.parts = .ok vs
  keys : ∀ v ∈ vs, v.canBeKey = true

/-- `Finds text d e vs`: for a text with a document, the expression `e` gives the values
`vs`, in any order and as often as they come. -/
inductive Finds (text : String) (d : XPath.Document) : Value → List Value → Prop
  | query {q : XPath.Query} {r : XPath.Result} {ns : List Nat}
      (hr : Clause.query q d = .ok r)
      (hns : queryLines d r = .ok ns) : Finds text d (.xpath q) (asLines ns)
  | pattern (p : Regex.Pattern) : Finds text d (.regex p) (asLines (matchLines p text))
  | call {e : Value} {c : Call Value} {vs : List Value} (hcall : e.call? = some c)
      (hgave : GaveParts (c.give text) vs) : Finds text d e vs

/-- Whether an expression is a query or a pattern, or can be called. -/
def canRun : Value → Bool
  | .xpath _ | .regex _ => true
  | e => e.call?.isSome

variable {text : String} {d : XPath.Document} {e : Value} {given : Except Fault Value}

/-- What a call gave has its parts in one way. -/
theorem GaveParts.unique {vs vs' : List Value} (h : GaveParts given vs)
    (h' : GaveParts given vs') :
    vs = vs' := by
  obtain ⟨v, hv, hparts⟩ := h.parts
  obtain ⟨v', hv', hparts'⟩ := h'.parts
  cases hv.symm.trans hv'
  exact Except.ok.inj (hparts.symm.trans hparts')

/-- The members of what a call gave are those of its parts, if it has any. -/
theorem membersOf_eq_ok {ms : List Value} :
    membersOf given = .ok ms ↔ ∃ vs, GaveParts given vs ∧ ms = members vs := by
  constructor
  · intro h
    obtain ⟨v, hv, h⟩ := bind_eq_ok.mp h
    obtain ⟨vs, hvs, h⟩ := bind_eq_ok.mp h
    obtain ⟨hkeys, rfl⟩ := distinct_eq_ok.mp h
    exact ⟨vs, ⟨⟨v, hv, hvs⟩, hkeys⟩, rfl⟩
  · rintro ⟨vs, hgave, rfl⟩
    obtain ⟨v, rfl, hparts⟩ := hgave.parts
    have hms := distinct_eq_ok.mpr ⟨hgave.keys, rfl⟩
    exact bind_eq_ok.mpr ⟨v, rfl, bind_eq_ok.mpr ⟨vs, hparts, hms⟩⟩

/-- What can be called is asked for its members. -/
theorem linesOf_of_call? {c : Call Value} (h : e.call? = some c) :
    linesOf e text d = (membersOf (c.give text)).map some := by
  cases e
  case object o =>
    unfold linesOf
    dsimp only
    rw [h]
    dsimp only
    cases membersOf (c.give text) <;> rfl
  all_goals cases h

/-- What can be called can be run. -/
theorem canRun_of_call? {c : Call Value} (h : e.call? = some c) : canRun e = true := by
  cases e
  case object o =>
    unfold canRun
    dsimp only
    rw [h]
    rfl
  all_goals cases h

/-- Exactly the expressions that cannot be run give no lines at all. -/
theorem linesOf_eq_none_iff : linesOf e text d = .ok none ↔ canRun e = false := by
  rcases hcall : e.call? with - | c
  · cases e
    case xpath q =>
      refine iff_of_false (fun h => ?_) (by rintro ⟨⟩)
      obtain ⟨r, -, h⟩ := bind_eq_ok.mp h
      obtain ⟨ns, -, h⟩ := bind_eq_ok.mp h
      cases h
    case regex p => exact iff_of_false (by rintro ⟨⟩) (by rintro ⟨⟩)
    case object o =>
      unfold linesOf canRun
      dsimp only
      rw [hcall]
      exact iff_of_true rfl rfl
    all_goals exact iff_of_true rfl rfl
  · rw [linesOf_of_call? hcall, canRun_of_call? hcall]
    refine iff_of_false (fun h => ?_) (by decide)
    obtain ⟨ms, -, h⟩ := map_eq_ok.mp h
    cases h

theorem Finds.canRun {vs : List Value} (h : Finds text d e vs) : canRun e = true := by
  cases h with
  | query | pattern => rfl
  | call hcall => exact canRun_of_call? hcall

/-- An expression finds one list of values at most. -/
theorem Finds.unique {vs vs' : List Value} (h : Finds text d e vs)
    (h' : Finds text d e vs') :
    vs = vs' := by
  -- what can be called is neither a query nor a pattern
  cases h with
  | query hr hns =>
      cases h' with
      | query hr' hns' =>
          cases hr.symm.trans hr'
          cases hns.symm.trans hns'
          rfl
      | call hcall => cases hcall
  | pattern p =>
      cases h' with
      | pattern => rfl
      | call hcall => cases hcall
  | call hcall hgave =>
      cases h' with
      | query | pattern => cases hcall
      | call hcall' hgave' =>
          cases hcall.symm.trans hcall'
          exact hgave.unique hgave'

/-- What is found gives the lines, each once. -/
theorem linesOf_of_finds {vs : List Value} (h : Finds text d e vs) :
    linesOf e text d = .ok (some (members vs)) := by
  cases h with
  | query hr hns => exact bind_eq_ok.mpr ⟨_, hr, bind_eq_ok.mpr ⟨_, hns, rfl⟩⟩
  | pattern p =>
      rw [← patternLines_eq_matchLines]
      rfl
  | call hcall hgave =>
      rw [linesOf_of_call? hcall, membersOf_eq_ok.mpr ⟨vs, hgave, rfl⟩]; rfl

/-- And lines come from what is found only. -/
theorem finds_of_linesOf {lines : List Value} (h : linesOf e text d = .ok (some lines)) :
    ∃ vs, Finds text d e vs ∧ lines = members vs := by
  -- without a call, only queries and patterns give lines
  rcases hcall : e.call? with - | c
  · cases e
    case xpath q =>
      obtain ⟨r, hr, h⟩ := bind_eq_ok.mp h
      obtain ⟨ns, hns, h⟩ := bind_eq_ok.mp h
      cases h
      exact ⟨_, .query hr hns, rfl⟩
    case regex p =>
      cases h
      rw [patternLines_eq_matchLines]
      exact ⟨_, .pattern p, rfl⟩
    case object o =>
      unfold linesOf at h
      dsimp only at h
      rw [hcall] at h
      cases h
    all_goals cases h
  · rw [linesOf_of_call? hcall] at h
    obtain ⟨ms, hms, ⟨⟩⟩ := map_eq_ok.mp h
    obtain ⟨vs, hgave, rfl⟩ := membersOf_eq_ok.mp hms
    exact ⟨vs, .call hcall hgave, rfl⟩

end Lint

end RuleLint
