/-
RuleLint/Value/Use.lean

What a value is good for: going through its parts, asking for what it holds under
a key, and going through its entries.  Most values are good for none of this, and
an object answers for itself.
-/
import RuleLint.Value.Print

namespace RuleLint.Value

/-- The parts of a text with halves of characters. -/
def halfParts (codes : List Nat) : List Value :=
  codes.map fun n => if Text.isHalf n then .halves [n]
    else .text (String.ofList [Char.ofNat n])

/-- The parts that a value is gone through by: the items of a sequence or set, the
keys of a mapping, the characters of a text, the numbers of the bytes. -/
def parts : Value → Except Fault (List Value)
  | .list items => .ok (items.map (unrolled (.list items)))
  | .tuple items => .ok (items.map (unrolled (.tuple items)))
  | .set items => .ok (items.map (unrolled (.set items)))
  | .map entries => .ok (entries.map fun (k, _) => unrolled (.map entries) k)
  | .settings a b c => .ok ([a, b, c].map (unrolled (.settings a b c)))
  | .text s => .ok (s.toList.map fun c => .text (String.ofList [c]))
  | .halves codes => .ok (halfParts codes)
  | .bytes bs => .ok (bs.map fun b => .int b.toNat)
  | .object o => o.parts
  | v => .error (.notIterable v.typeName)

/-- What a value holds under a key, if there is anything. -/
def get (v : Value) (key : String) : Except Fault (Option Value) :=
  match v with
  | .object o => o.get key
  | v => match v.entries? with
    | some entries => .ok (lookup key entries)
    | none => .error (.noAttribute v.typeName "get")

/-- The entries of a value. -/
def items (v : Value) : Except Fault (List (Value × Value)) :=
  match v with
  | .object o => o.items
  | v => match v.entries? with
    | some entries => .ok entries
    | none => .error (.noAttribute v.typeName "items")

/-- What comes of calling a value with a text, if it can be called. -/
def call? : Value → Option (Call Value)
  | .object o => o.call?
  | _ => none

end RuleLint.Value
