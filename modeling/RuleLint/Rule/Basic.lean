/-
RuleLint/Rule/Basic.lean

Rules.  A rule looks for something with an expression, which is a query of the syntax
tree, a pattern, or a function of the text.  It may give an example of what it finds and
say what to write instead.  Only the settings have a type of their own: the other parts
are whatever the configuration holds.
-/
import RuleLint.Value.Basic

namespace RuleLint

/-- A rule of a configuration. -/
structure Rule where
  name : Value
  description : Value
  expr : Value
  sample : Value
  remedy : Value
  settings : Settings
deriving Inhabited

end RuleLint
