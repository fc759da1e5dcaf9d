/-
RuleLint/Value/Loadable.lean

What a document can hold.  A mapping of a document has no text twice among its
keys, and neither has an object that it names: whoever makes a mapping sees to it.
`Value.Loadable` says so of a value and of everything in it.
-/
import RuleLint.Value.Basic

namespace RuleLint.Value

/-- Whether two values are the same text. -/
def SameText (a b : Value) : Prop :=
  ∃ s, a = .text s ∧ b = .text s

/-- Whether no text is the key of two entries. -/
def KeysApart (entries : List (Value × Value)) : Prop :=
  entries.Pairwise fun a b => ¬ SameText a.1 b.1

/-- Whether a value has no parts and is no object. -/
def isPlain : Value → Bool
  | .list _ | .tuple _ | .set _ | .map _ | .settings _ _ _ | .object _ => false
  | _ => true

/-- A value that a document can hold. -/
inductive Loadable : Value → Prop
  | plain {v : Value} (h : v.isPlain = true) : Loadable v
  | list {items : List Value} (h : ∀ v ∈ items, Loadable v) : Loadable (.list items)
  | tuple {items : List Value} (h : ∀ v ∈ items, Loadable v) : Loadable (.tuple items)
  | set {items : List Value} (h : ∀ v ∈ items, Loadable v) : Loadable (.set items)
  | map {entries : List (Value × Value)} (hkeys : KeysApart entries)
      (hk : ∀ e ∈ entries, Loadable e.1) (hv : ∀ e ∈ entries, Loadable e.2) :
      Loadable (.map entries)
  | settings {a b c : Value} (ha : Loadable a) (hb : Loadable b) (hc : Loadable c) :
      Loadable (.settings a b c)
  | object {o : Object Value} (hkeys : ∀ es, o.items = .ok es → KeysApart es)
      (hv : ∀ es, o.items = .ok es → ∀ e ∈ es, Loadable e.2)
      (hget : ∀ key v, o.get key = .ok (some v) → Loadable v) : Loadable (.object o)

end RuleLint.Value
