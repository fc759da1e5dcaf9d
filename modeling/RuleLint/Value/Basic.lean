/-
RuleLint/Value/Basic.lean

The values that a configuration holds.  A configuration is written by hand, so a
rule's name may turn out to be a number and its example a list: values keep what
was written, and what a value is good for is asked of it later.

A value is a tree.  Where a document makes a container hold itself, the inner
occurrence is `loop n`, which stands for the `n`-th container around it;
`Value.unrolled` puts the container back in place when a part is taken out.

A document may also name things that are defined elsewhere: functions, types and
other objects.  All that is known of an `Object` is what comes of it when it is
used.
-/
import RuleLint.Fault
import RuleLint.Regex.Pattern
import RuleLint.XPath.Expr

namespace RuleLint

/-- A day of the calendar. -/
structure Day where
  year : Nat
  month : Nat
  day : Nat
deriving Repr, BEq, DecidableEq

/-- A moment: a day, a time of day, and the seconds by which its clock is ahead of
the standard one, if that is known. -/
structure Moment where
  date : Day
  hour : Nat
  minute : Nat
  second : Nat
  micro : Nat
  offset : Option Int
deriving Repr, BEq, DecidableEq

/-- What comes of calling an object with a text. -/
structure Call (α : Type) where
  /-- What it gives, or the fault in which it ends. -/
  give : String → Except Fault α
  /-- What it leaves of a tree of files. -/
  leave : String → Project.Item → Project.Item := fun _ tree => tree

/-- An object that is defined elsewhere, and what comes of it when it is used. -/
structure Object (α : Type) where
  module : String
  name : String
  /-- The name of its type. -/
  type : String
  /-- How it is shown. -/
  shown : String
  isTrue : Bool := true
  /-- Whether it may be a key. -/
  isKey : Bool := true
  /-- The parts that it is gone through by. -/
  parts : Except Fault (List α)
  /-- What it holds under a key, if there is anything. -/
  get : String → Except Fault (Option α)
  /-- Its entries. -/
  items : Except Fault (List (α × α))
  call? : Option (Call α) := none

/-- A value in a configuration. -/
inductive Value where
  | null
  | bool (b : Bool)
  | int (n : Int)
  | float (x : Float)
  | complex (re im : Float)
  | text (s : String)
  /-- A text with code points that are only halves of a character. -/
  | halves (codes : List Nat)
  | bytes (bs : List UInt8)
  | day (d : Day)
  | moment (m : Moment)
  | list (items : List Value)
  | tuple (items : List Value)
  | map (entries : List (Value × Value))
  | set (items : List Value)
  /-- Which files a rule is for, and whether a comment may silence it. -/
  | settings (included excluded allowIgnore : Value)
  | xpath (q : XPath.Query)
  | regex (p : Regex.Pattern)
  | object (o : Object Value)
  /-- The container that is the given number of containers further out. -/
  | loop (outward : Nat)

instance : Inhabited Value := ⟨.null⟩

namespace Value

/-! ### Containers that hold themselves -/

mutual

/-- Puts `outer` in place of every reference to the container `depth` levels out. -/
def fill (outer : Value) (depth : Nat) : Value → Value
  | .list items => .list (fillAll outer (depth + 1) items)
  | .tuple items => .tuple (fillAll outer (depth + 1) items)
  | .set items => .set (fillAll outer (depth + 1) items)
  | .map entries => .map (fillEntries outer (depth + 1) entries)
  | .settings a b c =>
    .settings (fill outer (depth + 1) a) (fill outer (depth + 1) b)
      (fill outer (depth + 1) c)
  | .loop n => if n = depth then outer else .loop n
  | v => v
termination_by structural v => v

def fillAll (outer : Value) (depth : Nat) : List Value → List Value
  | [] => []
  | v :: rest => fill outer depth v :: fillAll outer depth rest
termination_by structural vs => vs

def fillEntries (outer : Value) (depth : Nat) :
    List (Value × Value) → List (Value × Value)
  | [] => []
  | e :: rest => fillEntry outer depth e :: fillEntries outer depth rest
termination_by structural es => es

def fillEntry (outer : Value) (depth : Nat) : Value × Value → Value × Value
  | (k, v) => (fill outer depth k, fill outer depth v)
termination_by structural e => e

end

/-- A part of a container as a value of its own. -/
def unrolled (outer part : Value) : Value :=
  fill outer 0 part

/-! ### Taking values apart -/

/-- The entries of a mapping, in order of arrival. -/
def entries? : Value → Option (List (Value × Value))
  | .map entries =>
    some (entries.map fun (k, v) =>
      (unrolled (.map entries) k, unrolled (.map entries) v))
  | _ => none

/-- Whether a value counts as true: empty containers, empty texts, zeros and nothing do
not. -/
def isTrue : Value → Bool
  | .null => false
  | .bool b => b
  | .int n => n != 0
  | .float x => !(x == 0)
  | .complex re im => !(re == 0 && im == 0)
  | .text s => !s.isEmpty
  | .bytes bs => !bs.isEmpty
  | .list items | .tuple items | .set items => !items.isEmpty
  | .map entries => !entries.isEmpty
  | .object o => o.isTrue
  | _ => true

/-- The value of a text key in the entries of a mapping. -/
def lookup (key : String) : List (Value × Value) → Option Value
  | [] => none
  | (.text k, v) :: rest => if k = key then some v else lookup key rest
  | _ :: rest => lookup key rest

end Value

/-- Which files a rule is for, and whether a comment may silence it. -/
structure Settings where
  included : Value
  excluded : Value
  allowIgnore : Value
deriving Inhabited

end RuleLint
