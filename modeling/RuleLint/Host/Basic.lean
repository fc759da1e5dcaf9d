/-
RuleLint/Host/Basic.lean

What the program leaves to the language that it runs in: the objects that names
stand for, the order in which a set is gone through, the encodings of sources, and
how deep a recursion may go.  Everything from the loading of a configuration on
has a host as a parameter, and what is proved holds for every one.

`Host.order` gets the members of a set in order of arrival and the values that were
taken out of it again.  Nothing but `Host.order_perm` is known about it: a set has
no order of its own.
-/
import RuleLint.Value.Loadable
import RuleLint.Value.Order

namespace RuleLint

/-- What a name stands for. -/
inductive Named where
  | found (v : Value)
  | unknownModule (module : String)
  | unknownName (name module : String)

/-- The language that the program runs in. -/
class Host where
  /-- What the name of an object in a module stands for. -/
  named : (module name : String) → Named
  /-- What is found can be part of a document. -/
  named_loadable : ∀ {module name : String} {v : Value}, named module name =
    .found v → v.Loadable
  /-- The way through a set of values that arrived, without those that are gone. -/
  order : (arrived gone : List Value) → List Value
  order_perm : ∀ arrived gone,
    (order arrived gone).Perm (arrived.filter fun v => !gone.any (Value.same · v))
  /-- The text that bytes stand for in an encoding with a name. -/
  decode : (encoding : String) → List UInt8 → Option (List Char)
  /-- The number of levels that a tree may have to be written as a document. -/
  depth : Nat
  /-- Trees of a few levels can always be written. -/
  depth_ge : 16 ≤ depth

end RuleLint
