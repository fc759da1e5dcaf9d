/-
RuleLint/XPath/Result.lean

What path expressions give: nodes in document order, a truth value, a number or a text.
Each can be taken for each of the last three, and results of any two types can be
compared.  A comparison with nodes holds if it holds for the text of some node.
-/
import RuleLint.XPath.Document
import RuleLint.XPath.Error
import RuleLint.XPath.Number

namespace RuleLint.XPath

/-- The result of a path expression. -/
inductive Result where
  | nodes (rs : List Ref)
  | bool (b : Bool)
  | number (x : Float)
  | text (s : String)

namespace Result

/-- A result as a truth value. -/
def toBool : Result → Bool
  | .nodes rs => !rs.isEmpty
  | .bool b => b
  | .number x => !(x == 0 || x.isNaN)
  | .text s => !s.isEmpty

/-- A result as a text: of nodes, the text of the first. -/
def toText (d : Document) : Result → String
  | .nodes [] => ""
  | .nodes (r :: _) => d.refText r
  | .bool b => if b then "true" else "false"
  | .number x => numberText x
  | .text s => s

/-- A result as a number. -/
def toNumber (d : Document) : Result → Float
  | .bool b => if b then 1 else 0
  | .number x => x
  | r => numberOfText (r.toText d)

/-- The nodes of a result. -/
def toNodes : Result → Except Error (List Ref)
  | .nodes rs => .ok rs
  | _ => .error .badType

/-! ### Comparisons -/

/-- Equality of results without nodes. -/
def plainEq (d : Document) (a b : Result) : Bool :=
  match a, b with
  | .bool x, b => x == b.toBool
  | a, .bool y => a.toBool == y
  | .number x, b => x == b.toNumber d
  | a, .number y => a.toNumber d == y
  | a, b => a.toText d == b.toText d

/-- Equality of a result without nodes and some of the nodes. -/
def nodesEq (d : Document) (rs : List Ref) (differ : Bool) : Result → Bool
  | .bool y => (!rs.isEmpty == y) != differ
  | .number y => rs.any fun r => (numberOfText (d.refText r) == y) != differ
  | b => rs.any fun r => (d.refText r == b.toText d) != differ

/-- Whether two results are equal, or whether they `differ`; for nodes both may hold. -/
def compareEq (d : Document) (differ : Bool) (a b : Result) : Bool :=
  match a, b with
  | .nodes rs, .nodes qs =>
    let texts := qs.map d.refText
    rs.any fun r => let s := d.refText r; texts.any fun t => (s == t) != differ
  | .nodes rs, b => nodesEq d rs differ b
  | a, .nodes qs => nodesEq d qs differ a
  | a, b => plainEq d a b != differ

/-- An order of numbers. -/
def orderHolds : Rel → Float → Float → Bool
  | .lt, x, y => x < y
  | .le, x, y => x ≤ y
  | .gt, x, y => y < x
  | .ge, x, y => y ≤ x

/-- The numbers that an order compares: for nodes those of all of them, but one truth
value where the other side is one. -/
def numbers (d : Document) (a other : Result) : List Float :=
  match a, other with
  | .nodes rs, .bool _ => [if rs.isEmpty then 0 else 1]
  | .nodes rs, _ => rs.map fun r => numberOfText (d.refText r)
  | a, _ => [a.toNumber d]

/-- Whether two results stand in an order. -/
def compareRel (d : Document) (op : Rel) (a b : Result) : Bool :=
  let ys := numbers d b a
  (numbers d a b).any fun x => ys.any fun y => orderHolds op x y

/-- Arithmetic on results. -/
def arith (d : Document) (op : Arith) (a b : Result) : Float :=
  let x := a.toNumber d
  let y := b.toNumber d
  match op with
  | .add => x + y
  | .sub => x - y
  | .mul => x * y
  | .div => x / y
  | .mod => remainder x y

end Result

end RuleLint.XPath
