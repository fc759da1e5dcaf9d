/-
RuleLint/Rule/Clause.lean

The clauses of a rule: a source that shows what the rule finds, and one that shows
what to write instead.  Both have to be sources with a syntax tree; the expression
has to find something in the first and nothing in the second.
-/
import RuleLint.Source.Bytes
import RuleLint.Source.Document
import RuleLint.Value.Print
import RuleLint.XPath.Eval

namespace RuleLint

/-- Whether the result of a query counts as a find: some node, a number that is not
zero, a text that is not empty. -/
def XPath.Result.isFind : XPath.Result → Bool
  | .nodes rs => !rs.isEmpty
  | .bool b => b
  | .number x => !(x == 0)
  | .text s => !s.isEmpty

namespace Clause

variable [Host]

/-- The fault of taking halves of characters for a source. -/
def halvesFault (codes : List Nat) : Fault :=
  let (code, start, stop) := (Text.firstHalves? codes).getD (0, 0, 0)
  .halfCharacters code start stop

/-- The syntax tree of the source in a value. -/
def treeOf (v : Value) : Except Fault Source.Tree :=
  let told (r : Except Source.SourceFault Source.Tree) : Except Fault Source.Tree :=
    match r with
    | .ok t => .ok t
    | .error f => .error (.source f)
  match v with
  | .text s => told (Source.Tree.ofSource s)
  | .bytes bs => told (Source.Tree.ofBytes bs)
  | .halves codes => .error (halvesFault codes)
  | _ => .error .notSource

/-- Checks that a clause has a syntax tree; `label` is the name of the clause. -/
def validate (label : String) (v : Value) : Except Fault Source.Tree :=
  match treeOf v with
  | .error (.source _) =>
      .error (.refused ("Invalid syntax in \x60" ++ label ++ "\x60 clause."))
  | r => r

/-- The document of a tree. -/
def documentOf (t : Source.Tree) : Except Fault XPath.Document :=
  if Host.depth < t.levels then .error .tooDeep
  else match t.document? with
    | some d => .ok d
    | none => .error .hugeInteger

/-- A tree has a document if it is not too deep and all of its integers can be written. -/
theorem documentOf_eq_ok {t : Source.Tree} {d : XPath.Document} :
    documentOf t = .ok d ↔ t.levels ≤ Host.depth ∧ t.document? = some d := by
  rw [documentOf]
  split
  · rename_i hdeep
    exact iff_of_false (by rintro ⟨⟩) fun h => absurd h.1 (Nat.not_le.mpr hdeep)
  · rename_i hdeep
    rcases t.document? with - | d
    · simp
    · simp [Nat.not_lt.mp hdeep]

/-- The result of a query on a document. -/
def query (q : XPath.Query) (d : XPath.Document) : Except Fault XPath.Result :=
  match q.eval d with
  | .ok r => .ok r
  | .error e => .error (.path e)

/-- Whether an expression finds something in a clause.  Only queries are asked: no
clause can show what another expression finds. -/
def isFound (expr clause : Value) (t : Source.Tree) : Except Fault Bool :=
  match expr with
  | .xpath q => do return (← query q (← documentOf t)).isFind
  | _ => .error (.noAttribute clause.typeName "match")

/-- Checks that a clause is there only if it has a syntax tree in which the
expression finds something, or finds nothing. -/
def check (label : String) (expr : Value) (find : Bool) (complaint : String)
    (clause : Value) :
    Except Fault Unit :=
  match clause with
  | .null => .ok ()
  | v => do
    let t ← validate label v
    if (← isFound expr v t) != find then throw (.refused complaint)

end Clause

end RuleLint
