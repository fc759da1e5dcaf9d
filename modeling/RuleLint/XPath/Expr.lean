/-
RuleLint/XPath/Expr.lean

Path expressions as data.  A step stands on the expression that gives its context nodes,
so a path is a chain of steps down to `here` (the context node) or `top` (the document).
A query is an expression with the text that it was read from.
-/

namespace RuleLint.XPath

/-- The axes, in the words of the language. -/
inductive Axis where
  | ancestor
  | ancestorOrSelf
  | attr
  | child
  | descendant
  | descendantOrSelf
  | following
  | followingSibling
  | spaces
  | parent
  | preceding
  | precedingSibling
  | self
deriving Repr, BEq, DecidableEq

/-- What a step asks of a node. -/
inductive Test where
  /-- Any node of the axis' main kind. -/
  | any
  /-- A node of the axis' main kind with this name. -/
  | named (name : String)
  /-- A name with a space in front that nothing binds, or `none` for any name in it. -/
  | inSpace (space : String) (name : Option String)
  | anyNode
  | text
  | comment
  | instruction (target : Option String)
deriving Repr, BEq

/-- Orders of numbers. -/
inductive Rel where
  | lt
  | le
  | gt
  | ge
deriving Repr, BEq

/-- Arithmetic. -/
inductive Arith where
  | add
  | sub
  | mul
  | div
  | mod
deriving Repr, BEq

mutual

/-- A path expression. -/
inductive Expr where
  | here
  | top
  | number (x : Float)
  | literal (s : String)
  | varRef (space : Option String) (name : String)
  | call (space : Option String) (name : String) (args : Exprs)
  | step (base : Expr) (axis : Axis) (test : Test) (conditions : Exprs)
  | filter (base : Expr) (condition : Expr)
  | union (a b : Expr)
  | neg (a : Expr)
  | plus (a : Expr)
  | arith (op : Arith) (a b : Expr)
  | rel (op : Rel) (a b : Expr)
  | eq (a b : Expr)
  | ne (a b : Expr)
  | both (a b : Expr)
  | either (a b : Expr)

/-- A list of path expressions. -/
inductive Exprs where
  | nil
  | cons (head : Expr) (tail : Exprs)

end

/-- Adds an expression at the end. -/
def Exprs.snoc (e : Expr) : Exprs → Exprs
  | .nil => .cons e .nil
  | .cons head tail => .cons head (tail.snoc e)

/-- A step down to all descendants and the node itself, as `//` is short for. -/
def Expr.deep (base : Expr) : Expr :=
  .step base .descendantOrSelf .anyNode .nil

/-- An expression with its text. -/
structure Query where
  source : String
  expr : Expr

end RuleLint.XPath
