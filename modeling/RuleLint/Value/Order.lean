/-
RuleLint/Value/Order.lean

When two values are the same, and which comes first.  Numbers of all kinds are compared
by their value, so that one and true are the same key.  Only values of like kinds have
an order; `lt` gives the names of two types that have none, the smaller-to-be first.
`sortOn` sorts by an order that may fail, and compares in the order of a binary
insertion behind the first run, which decides which two values a failure names.
-/
import RuleLint.Number.Shortest
import RuleLint.Value.Basic
import RuleLint.Value.Print

namespace RuleLint

namespace Value

/-! ### Numbers -/

/-- A finite floating-point number as a fraction, negative for a negative one. -/
def fraction? (x : Float) : Option (Int × Nat) :=
  match Number.Binary.ofFloat x with
  | .finite negative m q =>
    let r := Number.Ratio.binary m q
    some (if negative then -(r.num : Int) else r.num, r.den)
  | _ => none

/-- Whether an integer equals a floating-point number. -/
def intEqFloat (n : Int) (x : Float) : Bool :=
  match fraction? x with
  | some (num, den) => n * den == num
  | none => false

/-- Whether an integer is below a floating-point number. -/
def intLtFloat (n : Int) (x : Float) : Bool :=
  match fraction? x with
  | some (num, den) => n * den < num
  | none => 0 < x

/-- Whether a floating-point number is below an integer. -/
def floatLtInt (x : Float) (n : Int) : Bool :=
  match fraction? x with
  | some (num, den) => num < n * den
  | none => x < 0

/-- Truth values count as numbers. -/
def asNumber : Value → Value
  | .bool b => .int (if b then 1 else 0)
  | v => v

/-! ### Sameness -/

/-- A number that is no number is the same as itself here, as one key. -/
def floatSame (x y : Float) : Bool :=
  x == y || (x.isNaN && y.isNaN)

/-- Sameness of values without parts. -/
def sameLeaf (a b : Value) : Bool :=
  match asNumber a, asNumber b with
  | .null, .null => true
  | .int m, .int n => m == n
  | .int m, .float x => intEqFloat m x
  | .float x, .int m => intEqFloat m x
  | .float x, .float y => floatSame x y
  | .complex r i, .complex s j => floatSame r s && floatSame i j
  | .complex r i, .int m => i == 0 && intEqFloat m r
  | .int m, .complex r i => i == 0 && intEqFloat m r
  | .complex r i, .float x => i == 0 && r == x
  | .float x, .complex r i => i == 0 && r == x
  | .text s, .text t => s == t
  | .bytes s, .bytes t => s == t
  | .day s, .day t => s == t
  | .moment s, .moment t => s == t
  | .regex p, .regex q => p.source == q.source && p.flags == q.flags
  | .halves s, .halves t => s == t
  | .object o, .object p => o.module == p.module && o.name == p.name
  | .loop m, .loop n => m == n
  | _, _ => false

mutual

/-- Whether two values are the same.  Mappings and sets do not depend on order. -/
def same : Value → Value → Bool
  | .list xs, b => match b with
    | .list ys => sameAll xs ys
    | _ => false
  | .tuple xs, b => match b with
    | .tuple ys => sameAll xs ys
    | .settings d e f => sameAll xs [d, e, f]
    | _ => false
  | .settings x y z, b => match b with
    | .tuple [d, e, f] | .settings d e f => same x d && same y e && same z f
    | _ => false
  | .set xs, b => match b with
    | .set ys => xs.length == ys.length && eachIn xs ys
    | _ => false
  | .map xs, b => match b with
    | .map ys => xs.length == ys.length && eachEntryIn xs ys
    | _ => false
  | a, b => sameLeaf a b
termination_by structural a => a

def sameAll : List Value → List Value → Bool
  | [], ys => ys.isEmpty
  | x :: xs, ys => match ys with
    | [] => false
    | y :: ys => same x y && sameAll xs ys
termination_by structural xs => xs

def eachIn : List Value → List Value → Bool
  | [], _ => true
  | x :: xs, ys => ys.any (fun y => same x y) && eachIn xs ys
termination_by structural xs => xs

def eachEntryIn : List (Value × Value) → List (Value × Value) → Bool
  | [], _ => true
  | e :: es, ys => entryIn e ys && eachEntryIn es ys
termination_by structural xs => xs

def entryIn : Value × Value → List (Value × Value) → Bool
  | (k, v), ys => ys.any fun (l, w) => same k l && same v w
termination_by structural x => x

end

/-- Whether a value may be a key: containers that can change may not, and a tuple only
if all of its parts may. -/
def canBeKey : Value → Bool
  | .list _ | .map _ | .set _ => false
  | .tuple items => allKeys items
  | .settings a b c => canBeKey a && canBeKey b && canBeKey c
  | .object o => o.isKey
  | _ => true
where
  allKeys : List Value → Bool
    | [] => true
    | v :: rest => canBeKey v && allKeys rest

/-- Adds an entry, or changes the value of the key that is there. -/
def insert (k v : Value) : List (Value × Value) → List (Value × Value)
  | [] => [(k, v)]
  | (l, w) :: rest => if same l k then (l, v) :: rest else (l, w) :: insert k v rest

/-- Adds a member if it is not there. -/
def addMember (v : Value) (items : List Value) : List Value :=
  if items.any (same · v) then items else items ++ [v]

/-! ### Order -/

/-- The order of moments: by the standard clock if both know it. -/
def Moment.key (m : Moment) : List Int :=
  let days : Int := (m.date.year * 372 + m.date.month * 31 + m.date.day : Nat)
  [days * 86400 + (m.hour * 3600 + m.minute * 60 + m.second : Nat) - m.offset.getD 0,
    m.micro]

/-- Two types that have no order between them. -/
structure Unordered where
  left : String
  right : String

/-- The order of values without parts. -/
def ltLeaf (a b : Value) : Except Unordered Bool :=
  match asNumber a, asNumber b with
  | .int m, .int n => .ok (m < n)
  | .int m, .float x => .ok (intLtFloat m x)
  | .float x, .int m => .ok (floatLtInt x m)
  | .float x, .float y => .ok (x < y)
  | .text s, .text t => .ok (s < t)
  | .text s, .halves t => .ok (s.toList.map Char.toNat < t)
  | .halves s, .text t => .ok (s < t.toList.map Char.toNat)
  | .halves s, .halves t => .ok (s < t)
  | .bytes s, .bytes t => .ok (s < t)
  | .day s, .day t => .ok ([s.year, s.month, s.day] < [t.year, t.month, t.day])
  | .moment s, .moment t => .ok (Moment.key s < Moment.key t)
  | _, _ => .error ⟨a.typeName, b.typeName⟩

mutual

/-- Whether a value comes before another. -/
def lt : Value → Value → Except Unordered Bool
  | .list xs, b => match b with
    | .list ys => ltAll xs ys
    | _ => .error ⟨"list", b.typeName⟩
  | .tuple xs, b => match b with
    | .tuple ys => ltAll xs ys
    | .settings d e f => ltAll xs [d, e, f]
    | _ => .error ⟨"tuple", b.typeName⟩
  | .settings x y z, b => match b with
    | .tuple [d, e, f] | .settings d e f =>
      if !same x d then lt x d else if !same y e then lt y e else if !same z f then lt z f
        else .ok false
    | _ => .error ⟨"Settings", b.typeName⟩
  | .set xs, b => match b with
    | .set ys => .ok (xs.length < ys.length && eachIn xs ys)
    | _ => .error ⟨"set", b.typeName⟩
  | a, b => ltLeaf a b
termination_by structural a => a

def ltAll : List Value → List Value → Except Unordered Bool
  | [], ys => .ok !ys.isEmpty
  | x :: xs, ys => match ys with
    | [] => .ok false
    | y :: ys => if same x y then ltAll xs ys else lt x y
termination_by structural xs => xs

end

end Value

/-! ### Sorting by an order that may fail -/

section Sorting

variable {α ε : Type}

/-- The length of the run at the front that goes strictly down. -/
def fallingRun (lt : α → α → Except ε Bool) : α → List α → Except ε Nat
  | _, [] => return 1
  | a, b :: rest => do if ← lt b a then return (← fallingRun lt b rest) + 1 else return 1

/-- The length of the run at the front that does not go down. -/
def risingRun (lt : α → α → Except ε Bool) : α → List α → Except ε Nat
  | _, [] => return 1
  | a, b :: rest => do if ← lt b a then return 1 else return (← risingRun lt b rest) + 1

/-- The place of a new item in a sorted array, found by halving. -/
def insertionPoint (lt : α → α → Except ε Bool) (a : α) (sorted : Array α)
    (low high : Nat) : Except ε Nat :=
  if low < high then
    let mid := (low + high) / 2
    match sorted[mid]? with
    | none => return low
    | some b => do
      if ← lt a b then insertionPoint lt a sorted low mid
        else insertionPoint lt a sorted (mid + 1) high
  else return low
termination_by high - low

/-- Puts an item in front of the given place. -/
def placeAt (a : α) (sorted : Array α) (i : Nat) : Array α :=
  sorted.take i ++ #[a] ++ sorted.drop i

/-- Sorts a list; equal items stay in order. -/
def sortOn (lt : α → α → Except ε Bool) (xs : List α) : Except ε (List α) := do
  match xs with
  | [] => return []
  | [a] => return [a]
  | a :: b :: rest =>
    let falling ← lt b a
    let run ← if falling then fallingRun lt b rest else risingRun lt b rest
    let start := if falling then (xs.take (run + 1)).reverse else xs.take (run + 1)
    let sorted ← (xs.drop (run + 1)).foldlM
      (fun sorted x =>
        return placeAt x sorted (← insertionPoint lt x sorted 0 sorted.size))
        start.toArray
    return sorted.toList

end Sorting

end RuleLint
