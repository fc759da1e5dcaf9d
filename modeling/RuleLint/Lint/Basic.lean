/-
RuleLint/Lint/Basic.lean

Running rules on a file.

The rules whose settings select the path are run in order of their names.  Each
gives the lines that its expression finds, less the lines that comments silence if
its settings allow that; a rule that finds nothing is kept, and gives one finding
that says so.  A rule whose expression is nothing that can be run is left out.  The
lines of a rule are a set, and come in the order in which the host goes through it.

A fault ends the run, and the findings before it stand.  So does what functions have
left of the files: `leftBy` says what.
-/
import RuleLint.Regex.Search
import RuleLint.Rule.Basic
import RuleLint.Rule.Clause
import RuleLint.Selection
import RuleLint.Source.Ignored

namespace RuleLint

/-- What a rule says about a file: a line where it is broken, or that it is kept. -/
structure Finding where
  rule : Rule
  line : Option Value

/-- The findings of a run, and what ended it too early. -/
structure Outcome where
  findings : List Finding
  fault : Option Fault

namespace Lint

/-! ### Lines that expressions find -/

/-- The line of a node: that of the innermost element around it, or itself, that has
one. -/
def lineOf? (d : XPath.Document) (i : Nat) : Option Nat :=
  (i :: d.ancestors i).findSome? fun j => (d.attr? j "lineno").bind String.toNat?

/-- The lines of what a query finds; elements without a line are left out. -/
def queryLines (d : XPath.Document) : XPath.Result → Except Fault (List Nat)
  | .number _ => .error (.notIterable "float")
  | .bool _ => .error (.notIterable "bool")
  | .text s => if s.isEmpty then .ok [] else .error .noLine
  | .nodes rs =>
    if rs.all fun r => r.part == 0 && d.isElement r.node then
      .ok (rs.filterMap fun r => lineOf? d r.node)
    else .error .noLine

/-- The line of each place in a text, the place behind its end included; `n` is the
line of the first one. -/
def lineNumbers (n : Nat) : List Char → List Nat
  | [] => [n]
  | c :: rest => n :: lineNumbers (if c = '\n' then n + 1 else n) rest

/-- The lines on which a pattern is found. -/
def patternLines (p : Regex.Pattern) (text : String) : List Nat :=
  let numbers := (lineNumbers 1 text.toList).toArray
  (p.findAll text.toList.toArray).map fun (start, _) => numbers.getD start 0

/-- Numbers of lines as values. -/
def asLines (ns : List Nat) : List Value :=
  ns.map fun (n : Nat) => .int n

/-- Values each once, in order of arrival. -/
def members (vs : List Value) : List Value :=
  vs.foldl (fun acc v => Value.addMember v acc) []

/-- The members of a set of values, if all of them can be one. -/
def distinct (vs : List Value) : Except Fault (List Value) :=
  match vs.find? fun v => !v.canBeKey with
  | some v => .error (.unhashable v.typeName)
  | none => .ok (members vs)

/-- The parts of what a function comes to, each once. -/
def membersOf (given : Except Fault Value) : Except Fault (List Value) := do
  distinct (← (← given).parts)

/-- The lines that an expression finds in a text with a document, if it is one that
can be run; each is there once. -/
def linesOf (expr : Value) (text : String) (d : XPath.Document) :
    Except Fault (Option (List Value)) :=
  match expr with
  | .xpath q => do return some (members (asLines (← queryLines d (← Clause.query q d))))
  | .regex p => .ok (some (members (asLines (patternLines p text))))
  | v => match v.call? with
    | some c => do return some (← membersOf (c.give text))
    | none => .ok none

/-! ### Runs -/

/-- A text that rules are run on: the lines that comments silence, and the document
of its syntax tree. -/
structure Subject where
  text : String
  ignored : List Nat
  document : XPath.Document

variable [Host]

/-- Prepares a text. -/
def Subject.ofText (text : String) : Except Fault Subject := do
  let ignored ← match Source.ignoredLines text with
    | .ok lines => pure lines
    | .error f => throw (.comments f)
  let t ← match Source.Tree.ofSource text with
    | .ok t => pure t
    | .error f => throw (.source f)
  return { text, ignored, document := ← Clause.documentOf t }

/-- The findings of a rule at the lines that are left. -/
def findingsAt (rule : Rule) (lines : List Value) : List Finding :=
  match lines with
  | [] => [⟨rule, none⟩]
  | lines => lines.map fun line => ⟨rule, some line⟩

/-- The lines that are taken from what a rule finds. -/
def silenced (s : Subject) (rule : Rule) : List Value :=
  if rule.settings.allowIgnore.isTrue then asLines s.ignored else []

/-- The findings of a rule. -/
def runRule (s : Subject) (rule : Rule) : Except Fault (List Finding) := do
  match ← linesOf rule.expr s.text s.document with
  | none => return []
  | some lines => return findingsAt rule (Host.order lines (silenced s rule))

/-- The findings of rules, one after the other. -/
def runAll (s : Subject) : List Rule → Outcome
  | [] => ⟨[], none⟩
  | rule :: rest => match runRule s rule with
    | .error f => ⟨[], some f⟩
    | .ok findings =>
      let more := runAll s rest
      ⟨findings ++ more.findings, more.fault⟩

/-- The rules that select a path. -/
def selected (path : String) : List Rule → Except Fault (List Rule)
  | [] => .ok []
  | rule :: rest => do
    let chosen ← rule.settings.selects path
    let rest ← selected path rest
    return if chosen then rule :: rest else rest

/-- Rules in order of their names. -/
def byName (rules : List Rule) : Except Fault (List Rule) :=
  match sortOn (fun a b => Value.lt a.name b.name) rules with
  | .ok sorted => .ok sorted
  | .error e => .error (.unordered e.left e.right)

/-- Everything that has to be known before the first rule is run: the rules in order,
and the text they are run on. -/
def prepare (path text : String) (rules : List Rule) :
    Except Fault (Option (Subject × List Rule)) := do
  let chosen ← selected path rules
  if chosen.isEmpty then return none
  let subject ← Subject.ofText text
  return some (subject, ← byName chosen)

/-- Runs rules on a file with a path and a text. -/
def file (path text : String) (rules : List Rule) : Outcome :=
  match prepare path text rules with
  | .error f => ⟨[], some f⟩
  | .ok none => ⟨[], none⟩
  | .ok (some (subject, rules)) => runAll subject rules

/-- Runs rules on what a clause holds.  In bytes no comments can be looked for; they
end the run at their first line. -/
def clause (path : String) (v : Value) (rules : List Rule) : Outcome :=
  match v with
  | .text s => file path s rules
  | .bytes [] => file path "" rules
  | v => match selected path rules with
    | .error f => ⟨[], some f⟩
    | .ok [] => ⟨[], none⟩
    | .ok _ => ⟨[], some (match v with
      | .bytes _ => .bytesForText
      | .halves codes => Clause.halvesFault codes
      | v => .noAttribute v.typeName "splitlines")⟩

/-! ### What is left of the files -/

/-- What calling the expression of a rule leaves of a tree. -/
def leftByRule (text : String) (rule : Rule) (tree : Project.Item) : Project.Item :=
  match rule.expr.call? with
  | some c => c.leave text tree
  | none => tree

/-- What rules leave of a tree, up to the first one that ends in a fault. -/
def leftByAll (s : Subject) : List Rule → Project.Item → Project.Item
  | [], tree => tree
  | rule :: rest, tree =>
    let tree := leftByRule s.text rule tree
    match runRule s rule with
    | .error _ => tree
    | .ok _ => leftByAll s rest tree

/-- What running rules on a file leaves of a tree. -/
def leftBy (path text : String) (rules : List Rule) (tree : Project.Item) :
    Project.Item :=
  match prepare path text rules with
  | .ok (some (subject, rules)) => leftByAll subject rules tree
  | _ => tree

end Lint

end RuleLint
