/-
RuleLint/Source/Document.lean

The document of a syntax tree, which queries are asked of.  A branch is an element of
its kind.  Its place and the literals in its fields are attributes; a field that holds
branches is an element with the name of the field around them, also if there are none. A
literal in a list is an element `item` around its text.

Texts are ASCII: any other character is written as its number between marks.  Literals
that have no text of that kind are empty, and an integer with too many digits cannot be
written at all.
-/
import RuleLint.Number.Shortest
import RuleLint.Source.Tree
import RuleLint.XPath.Document

namespace RuleLint.Source

open RuleLint.XPath

/-! ### Literals -/

/-- The least integer that has too many digits to be written. -/
def writtenLimit : Nat := Nat.pow 10 4300

/-- A code point in ASCII. -/
def asciiOf (n : Nat) : List Char :=
  if n < 128 then [Char.ofNat n] else '&' :: '#' :: Nat.toDigits 10 n ++ [';']

/-- Whether a code point may stand in a document. -/
def isWritable (n : Nat) : Bool :=
  0x20 ≤ n || n == 9 || n == 10 || n == 13

/-- The text of a literal, but for an integer with too many digits. -/
def Literal.text? : Literal → Option String
  | .bool b => some (if b then "True" else "False")
  | .int n => if n.natAbs < writtenLimit then some (toString n) else Option.none
  | .float x => some (Number.floatText x)
  | .imaginary x => some (Number.complexText 0 x)
  | .text points =>
      some (if points.all isWritable then String.ofList (points.flatMap asciiOf) else "")
  | .none | .bytes _ | .ellipsis => some ""

/-! ### Levels -/

mutual

/-- The number of branches inside each other, at most. -/
def Tree.levels : Tree → Nat
  | .item _ => 0
  | .branch _ _ fields => fields.levels + 1
termination_by structural t => t

def Fields.levels : Fields → Nat
  | .nil => 0
  | .cons _ f rest => max f.levels rest.levels
termination_by structural fs => fs

def Field.levels : Field → Nat
  | .absent | .literal _ => 0
  | .one t => t.levels
  | .many ts => ts.levels
termination_by structural f => f

def Siblings.levels : Siblings → Nat
  | .nil => 0
  | .cons t rest => max t.levels rest.levels
termination_by structural ts => ts

end

/-! ### Trees -/

/-- The attributes for a place. -/
def placeAttrs : Option Place → List (String × String)
  | some p => [("lineno", toString p.line), ("col_offset", toString p.column)]
  | none => []

mutual

/-- The element of a node. -/
def Tree.element? : Tree → Option Element
  | .item l => do return .element "item" [] (.cons (.text (← l.text?)) .nil)
  | .branch kind place fields => do
    let (attrs, parts) ← fields.parts?
    return .element kind (placeAttrs place ++ attrs) parts
termination_by structural t => t

/-- The attributes and elements of fields. -/
def Fields.parts? : Fields → Option (List (String × String) × Elements)
  | .nil => some ([], .nil)
  | .cons name f rest => do
    let (attr, part) ← f.part? name
    let (attrs, parts) ← rest.parts?
    return (attr ++ attrs, match part with
      | some e => .cons e parts
      | none => parts)
termination_by structural fs => fs

/-- The attribute or the element of a field. -/
def Field.part? (name : String) : Field → Option (List (String × String) × Option Element)
  | .absent => some ([], none)
  | .literal l => do return ([(name, ← l.text?)], none)
  | .one t => do return ([], some (.element name [] (.cons (← t.element?) .nil)))
  | .many ts => do return ([], some (.element name [] (← ts.elements?)))
termination_by structural f => f

/-- The elements of nodes. -/
def Siblings.elements? : Siblings → Option Elements
  | .nil => some .nil
  | .cons t rest => do
    let e ← t.element?
    return .cons e (← rest.elements?)
termination_by structural ts => ts

end

/-- The document of a tree; an integer in it may have too many digits. -/
def Tree.document? (t : Tree) : Option Document :=
  t.element?.map Document.ofElement

end RuleLint.Source
