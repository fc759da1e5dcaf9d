/-
RuleLint/Proofs/Faults.lean

What ends a run too early.

A run asks every rule whether it is for the path.  If one is, it looks for comments in
the text, reads it, writes the tree into a document, and puts the rules in order of
their names; then it asks one expression after the other.  Loading a configuration rules
out next to none of the faults on that way: settings, names and expressions are whatever
the document holds there.  `Runs` says what is needed at each place, and
`file_fault_eq_none_iff` that this is all.

Comments are found by other means than the tree, and a text may have a tree and comments
that cannot be found (`file_separator`): a line separator in a comment ends the line for
the one and not for the other.
-/
import RuleLint.Proofs.Report

namespace RuleLint

/-! ### Settings -/

namespace Selection

/-- Whether a value is a text, which may hold halves of characters. -/
def IsTextual (v : Value) : Prop :=
  (∃ s, v = .text s) ∨ ∃ codes, v = .halves codes

/-- Patterns that can be gone through: each that no match before it makes superfluous is a
text. -/
def CanBeMatched (path : String) (patterns : List Value) : Prop :=
  ∀ front pattern back, patterns = front ++ pattern :: back →
    (∀ v ∈ front, patternMatches path v ≠ .ok true) → IsTextual pattern

variable {path : String}

/-- Behind a pattern that does not match, the others are gone through. -/
theorem CanBeMatched.of_cons {v : Value} {rest : List Value}
    (h : CanBeMatched path (v :: rest))
    (hv : patternMatches path v ≠ .ok true) : CanBeMatched path rest := by
  intro front pattern back heq hfront
  refine h (v :: front) pattern back (by rw [heq, List.cons_append]) ?_
  exact List.forall_mem_cons.mpr ⟨hv, hfront⟩

end Selection

/-- Settings that can be asked whether they select a path. -/
def Settings.CanBeAsked (path : String) (s : Settings) : Prop :=
  (∃ ps, s.included.parts = .ok ps ∧ Selection.CanBeMatched path ps) ∧
    ∃ ps, s.excluded.parts = .ok ps ∧ Selection.CanBeMatched path ps

namespace Value

/-- Kinds of values that have an order. -/
inductive Kind where
  | number
  | text
  | bytes
  | day
  | moment

end Value

namespace Lint

variable {rules : List Rule}

end Lint

/-! ### Integers -/

namespace Source

mutual

/-- The literals in a tree. -/
def Tree.literals : Tree → List Literal
  | .item l => [l]
  | .branch _ _ fields => fields.literals
termination_by structural t => t

/-- The literals in fields. -/
def Fields.literals : Fields → List Literal
  | .nil => []
  | .cons _ f rest => f.literals ++ rest.literals
termination_by structural fs => fs

/-- The literals in a field. -/
def Field.literals : Field → List Literal
  | .absent => []
  | .literal l => [l]
  | .one t => t.literals
  | .many ts => ts.literals
termination_by structural f => f

/-- The literals in nodes. -/
def Siblings.literals : Siblings → List Literal
  | .nil => []
  | .cons t rest => t.literals ++ rest.literals
termination_by structural ts => ts

end

/-- Whether a literal is no integer with too many digits. -/
def Literal.CanBeWritten (l : Literal) : Prop :=
  ∀ n, l = .int n → n.natAbs < writtenLimit

/-- A literal has a text unless it is an integer with too many digits. -/
theorem Literal.text?_isSome_iff {l : Literal} :
    l.text?.isSome = true ↔ l.CanBeWritten := by
  unfold Literal.CanBeWritten
  cases l with
  | int n =>
      rw [Literal.text?]
      split
      · simpa
      · simpa using Nat.not_lt.mp ‹_›
  | none | bool | float | imaginary | text | bytes | ellipsis => simp [Literal.text?]

/-- Two steps, where it is the same for all results of the first one whether the second
succeeds. -/
theorem isSome_bind_of_forall {α β : Type} {x : Option α} {f : α → Option β} {b : Bool}
    (h : ∀ a, (f a).isSome = b) :
    (x >>= f).isSome = (x.isSome && b) := by
  cases x with
  | none => rfl
  | some a => exact h a

mutual

/-- A tree can be written if its literals can, by induction on it. -/
theorem Tree.element?_isSome_iff :
    (t : Tree) → (t.element?.isSome = true ↔ ∀ l ∈ t.literals, l.CanBeWritten)
  | .item l => by
      have hsome : (Tree.item l).element?.isSome = (l.text?.isSome && true) :=
        isSome_bind_of_forall fun _ => rfl
      rw [hsome, Bool.and_true, Tree.literals, List.forall_mem_singleton,
        Literal.text?_isSome_iff]
  | .branch kind place fields => by
      have hsome : (Tree.branch kind place fields).element?.isSome =
          (fields.parts?.isSome && true) :=
        isSome_bind_of_forall fun _ => rfl
      rw [hsome, Bool.and_true, Tree.literals, fields.parts?_isSome_iff]

theorem Fields.parts?_isSome_iff :
    (fs : Fields) → (fs.parts?.isSome = true ↔ ∀ l ∈ fs.literals, l.CanBeWritten)
  | .nil => by simp [Fields.parts?, Fields.literals]
  | .cons name f rest => by
      have hsome : (Fields.cons name f rest).parts?.isSome =
          ((f.part? name).isSome && (rest.parts?.isSome && true)) :=
        isSome_bind_of_forall fun _ => isSome_bind_of_forall fun _ => rfl
      rw [hsome, Bool.and_true, Bool.and_eq_true, Fields.literals, List.forall_mem_append,
        f.part?_isSome_iff name,
        rest.parts?_isSome_iff]

theorem Field.part?_isSome_iff (name : String) :
    (f : Field) → ((f.part? name).isSome = true ↔ ∀ l ∈ f.literals, l.CanBeWritten)
  | .absent => by simp [Field.part?, Field.literals]
  | .literal l => by
      have hsome : ((Field.literal l).part? name).isSome = (l.text?.isSome && true) :=
        isSome_bind_of_forall fun _ => rfl
      rw [hsome, Bool.and_true, Field.literals, List.forall_mem_singleton,
        Literal.text?_isSome_iff]
  | .one t => by
      have hsome : ((Field.one t).part? name).isSome = (t.element?.isSome && true) :=
        isSome_bind_of_forall fun _ => rfl
      rw [hsome, Bool.and_true, Field.literals, t.element?_isSome_iff]
  | .many ts => by
      have hsome : ((Field.many ts).part? name).isSome = (ts.elements?.isSome && true) :=
        isSome_bind_of_forall fun _ => rfl
      rw [hsome, Bool.and_true, Field.literals, ts.elements?_isSome_iff]

theorem Siblings.elements?_isSome_iff :
    (ts : Siblings) → (ts.elements?.isSome = true ↔ ∀ l ∈ ts.literals, l.CanBeWritten)
  | .nil => by simp [Siblings.elements?, Siblings.literals]
  | .cons t rest => by
      have hsome : (Siblings.cons t rest).elements?.isSome =
          (t.element?.isSome && (rest.elements?.isSome && true)) :=
        isSome_bind_of_forall fun _ => isSome_bind_of_forall fun _ => rfl
      rw [hsome, Bool.and_true, Bool.and_eq_true, Siblings.literals,
        List.forall_mem_append, t.element?_isSome_iff,
        rest.elements?_isSome_iff]

end

end Source

/-! ### Expressions -/

namespace Lint

section

variable {text : String} {d : XPath.Document}

/-- Whether everything that a query gives has a line to be looked for. -/
def HasLines (d : XPath.Document) : XPath.Result → Prop
  | .text s => s = ""
  | .nodes rs => ∀ r ∈ rs, r.part = 0 ∧ d.isElement r.node = true
  | .number _ | .bool _ => False

/-- A query has lines if its result is one of nodes that have them. -/
theorem queryLines_ok_iff {r : XPath.Result} :
    (∃ ns, queryLines d r = .ok ns) ↔ HasLines d r := by
  cases r with
  | number | bool => simp [queryLines, HasLines]
  | text s =>
      rw [queryLines, HasLines, ← String.isEmpty_iff]
      cases s.isEmpty <;> simp
  | nodes rs =>
      have hall : (rs.all fun r => r.part == 0 && d.isElement r.node) = true ↔
          HasLines d (.nodes rs) := by
        simp [HasLines]
      rw [queryLines, ← hall]
      cases rs.all fun r => r.part == 0 && d.isElement r.node <;> simp

theorem query_eq_ok {q : XPath.Query} {r : XPath.Result} :
    Clause.query q d = .ok r ↔ q.eval d = .ok r := by
  rw [Clause.query]
  rcases q.eval d with e | r' <;> simp

/-- Expressions that can be asked about a text.  Of what a call gives, the parts have to
be members of a set; expressions that cannot be run are not asked at all. -/
inductive CanBeAnswered (text : String) (d : XPath.Document) : Value → Prop
  | query {q : XPath.Query} {r : XPath.Result} (hr : q.eval d = .ok r)
      (hlines : HasLines d r) :
      CanBeAnswered text d (.xpath q)
  | pattern (p : Regex.Pattern) : CanBeAnswered text d (.regex p)
  | call {e : Value} {c : Call Value} {vs : List Value} (hcall : e.call? = some c)
      (hgave : GaveParts (c.give text) vs) : CanBeAnswered text d e
  | skipped {e : Value} (h : canRun e = false) : CanBeAnswered text d e

end

/-! ### Runs -/

/-- Whether some rule is for a path. -/
def IsNeeded (path : String) (rules : List Rule) : Prop :=
  ∃ r ∈ rules, r.isFor path = true

section

variable [Host] {path text : String} {rules : List Rule}

/-- What it takes to run rules on a file that has a syntax tree. -/
structure Runs (path text : String) (tree : Source.Tree) (rules : List Rule) : Prop where
  /-- All rules can be asked whether they are for the path. -/
  asked : ∀ r ∈ rules, r.settings.CanBeAsked path
  /-- If one is, comments can be found, … -/
  comments : IsNeeded path rules → ∃ ignored, Source.ignoredLines text = .ok ignored
  /-- … the tree is not too deep, … -/
  depth : IsNeeded path rules → tree.levels ≤ Host.depth
  /-- … no integer is too long, … -/
  integers : IsNeeded path rules → ∀ l ∈ tree.literals, l.CanBeWritten
  /-- … the rules for the path can be put in order … -/
  names : ∃ ordered, byName (rules.filter (Rule.isFor path)) = .ok ordered
  /-- … and their expressions can be asked about the document. -/
  expressions : ∀ r ∈ rules, r.isFor path = true → ∀ document, tree.document? =
    some document →
    CanBeAnswered text document r.expr

end

/-- The document of a source with one statement that does nothing. -/
def passDocument : XPath.Document :=
  #[⟨.document, 0, 5⟩, ⟨.element "Module" [], 0, 5⟩, ⟨.element "body" [], 1, 4⟩,
    ⟨.element "Pass" [("lineno", "1"), ("col_offset", "0")], 2, 4⟩,
    ⟨.element "type_ignores" [], 1, 5⟩]

theorem ofSource_pass :
    Source.Tree.ofSource "pass\n" = .ok (.moduleOf [.at_ ⟨1, 0⟩ "Pass" []]) := by
  rfl

theorem document?_pass :
    (Source.Tree.moduleOf [.at_ ⟨1, 0⟩ "Pass" []]).document? = some passDocument := by
  rfl

theorem eval_passQuery : Config.passQuery.eval passDocument = .ok (.nodes [⟨3, 0⟩]) := by
  cbv

open scoped Standard

end Lint

end RuleLint
