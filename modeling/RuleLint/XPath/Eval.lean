/-
RuleLint/XPath/Eval.lean

Evaluating path expressions on a document.

The nodes of an axis are listed in the order in which conditions count them: the nearest
first.  Each condition of a step is asked of the nodes that the conditions before it
left, separately for each node that the step starts from; the nodes of all of them are
then put in document order.
-/
import RuleLint.XPath.Function

namespace RuleLint.XPath

/-! ### Axes -/

/-- References to nodes themselves. -/
def selves (is : List Nat) : List Ref :=
  is.map fun i => ⟨i, 0⟩

/-- The references on an axis from a reference, in the order of the axis.  An attribute
comes before and behind what the element that has it comes before and behind. -/
def Axis.refs (d : Document) (axis : Axis) (r : Ref) : List Ref :=
  let whole := r.part == 0
  let i := r.node
  match axis with
  | .self => [r]
  | .parent => if whole then selves (d.parent? i).toList else [⟨i, 0⟩]
  | .ancestor => if whole then selves (d.ancestors i) else selves (i :: d.ancestors i)
  | .ancestorOrSelf =>
      if whole then selves (i :: d.ancestors i) else r :: selves (i :: d.ancestors i)
  | .child => if whole then selves (d.children i) else []
  | .descendant => if whole then selves (Document.span (i + 1) (d.stop i)) else []
  | .descendantOrSelf => if whole then selves (Document.span i (d.stop i)) else [r]
  | .following => selves (Document.span (d.stop i) d.size)
  | .preceding => selves (d.preceding i)
  | .followingSibling => if whole then selves (d.laterSiblings i) else []
  | .precedingSibling => if whole then selves (d.earlierSiblings i) else []
  | .attr => if whole then (List.range (d.attrs i).length).map fun k => ⟨i, k + 2⟩ else []
  | .spaces => if whole && d.isElement i then [⟨i, 1⟩] else []

/-- Whether a reference is of the main kind of an axis. -/
def Axis.isMain (d : Document) (axis : Axis) (r : Ref) : Bool :=
  match axis with
  | .attr => 2 ≤ r.part
  | .spaces => r.part == 1
  | _ => r.part == 0 && d.isElement r.node

/-- Whether a reference passes a test on an axis. -/
def Test.passes (d : Document) (axis : Axis) (test : Test) (r : Ref) : Bool :=
  match test with
  | .any => axis.isMain d r
  | .named name => axis.isMain d r && d.refName r == name
  | .inSpace _ _ | .comment | .instruction _ => false
  | .anyNode => true
  | .text => r.part == 0 && match d.kind r.node with
    | .text _ => true
    | _ => false

/-- Whether nothing binds the space that a test asks for. -/
def Test.isUnbound : Test → Bool
  | .inSpace space _ => space != "xml"
  | _ => false

/-- The references that a step finds from one, before its conditions. -/
def found (d : Document) (axis : Axis) (test : Test) (r : Ref) : List Ref :=
  (axis.refs d r).filter (test.passes d axis)

/-! ### Conditions -/

/-- Whether a condition with a result holds at a position: a number says which position
is meant. -/
def Result.admits (position : Nat) : Result → Bool
  | .number x => x == position.toFloat
  | r => r.toBool

/-- Keeps the references at which a condition holds; `position` is that of the first
one. -/
def keep (size : Nat) (condition : Focus → Except Error Result) :
    Nat → List Ref → Except Error (List Ref)
  | _, [] => .ok []
  | position, r :: rest => do
    let result ← condition ⟨r, some (position, size)⟩
    let rest ← keep size condition (position + 1) rest
    return if result.admits position then r :: rest else rest

/-- Keeps the references of a list at which a condition holds. -/
def keepAll (condition : Focus → Except Error Result) (rs : List Ref) :
    Except Error (List Ref) :=
  keep rs.length condition 1 rs

/-! ### Expressions -/

mutual

/-- The result of an expression. -/
def Expr.eval (d : Document) (focus : Focus) : Expr → Except Error Result
  | .here => .ok (.nodes [focus.node])
  | .top => .ok (.nodes [⟨0, 0⟩])
  | .number x => .ok (.number x)
  | .literal s => .ok (.text s)
  | .varRef none _ => .error .undefinedVariable
  | .varRef (some _) _ => .error .unboundName
  | .call space name args => do
    let results ← args.evalAll d focus
    match space, results with
    | none, _ => Function.apply d focus name results
    | some _, [r] => return r
    | some _, _ => throw .unboundName
  | .step base axis test conditions => do
    let rs ← (← base.eval d focus).toNodes
    if test.isUnbound then throw .undefinedSpace
    let parts ← rs.mapM fun r => conditions.select d (found d axis test r)
    return .nodes (inOrder parts.flatten)
  | .filter base condition => do
    let rs ← (← base.eval d focus).toNodes
    return .nodes (← keepAll (fun f => condition.eval d f) rs)
  | .union a b => do
    let first ← a.eval d focus
    let second ← b.eval d focus
    return .nodes (inOrder ((← first.toNodes) ++ (← second.toNodes)))
  | .neg a => do return .number (-((← a.eval d focus).toNumber d))
  | .plus a => do return .number ((← a.eval d focus).toNumber d)
  | .arith op a b => do
    let first ← a.eval d focus
    return .number (first.arith d op (← b.eval d focus))
  | .rel op a b => do
    let first ← a.eval d focus
    return .bool (first.compareRel d op (← b.eval d focus))
  | .eq a b => do
    let first ← a.eval d focus
    return .bool (first.compareEq d false (← b.eval d focus))
  | .ne a b => do
    let first ← a.eval d focus
    return .bool (first.compareEq d true (← b.eval d focus))
  | .both a b => do
    if (← a.eval d focus).toBool then return .bool (← b.eval d focus).toBool
    return .bool false
  | .either a b => do
    if (← a.eval d focus).toBool then return .bool true
    return .bool (← b.eval d focus).toBool
termination_by structural e => e

/-- The results of expressions, from the first to the last. -/
def Exprs.evalAll (d : Document) (focus : Focus) : Exprs → Except Error (List Result)
  | .nil => .ok []
  | .cons e rest => do
    let r ← e.eval d focus
    return r :: (← rest.evalAll d focus)
termination_by structural es => es

/-- The references at which conditions hold, one condition after the other. -/
def Exprs.select (d : Document) (rs : List Ref) : Exprs → Except Error (List Ref)
  | .nil => .ok rs
  | .cons condition rest => do rest.select d (← keepAll (fun f => condition.eval d f) rs)
termination_by structural es => es

end

/-! ### Queries -/

/-- The result of a query, looked at from the root element.  The document itself is
never among the nodes. -/
def Query.eval (q : Query) (d : Document) : Except Error Result := do
  match ← q.expr.eval d ⟨Document.root, none⟩ with
  | .nodes rs => return .nodes (rs.filter (· ≠ ⟨0, 0⟩))
  | r => return r

end RuleLint.XPath
