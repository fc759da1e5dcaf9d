/-
RuleLint/Regex/Pattern.lean

Regular expressions as data.  The flags that hold at a place are settled when the
pattern is read, so a leaf knows by itself how it compares letters and which classes it
means; a node says nothing about flags.  `Node.width` gives the least and the greatest
length of a match, as far as the syntax tells it: a look-behind needs the two to be
equal.
-/
import RuleLint.Text.Case
import RuleLint.Text.Word

namespace RuleLint.Regex

open RuleLint.Text

/-- The flags of a pattern. -/
structure Flags where
  template : Bool := false
  ignoreCase : Bool := false
  multiline : Bool := false
  dotAll : Bool := false
  unicode : Bool := false
  verbose : Bool := false
  ascii : Bool := false
deriving Repr, BEq, DecidableEq

/-- The flags that hold in one of two. -/
def Flags.union (a b : Flags) : Flags where
  template := a.template || b.template
  ignoreCase := a.ignoreCase || b.ignoreCase
  multiline := a.multiline || b.multiline
  dotAll := a.dotAll || b.dotAll
  unicode := a.unicode || b.unicode
  verbose := a.verbose || b.verbose
  ascii := a.ascii || b.ascii

/-- The flags that hold in both of two. -/
def Flags.inter (a b : Flags) : Flags where
  template := a.template && b.template
  ignoreCase := a.ignoreCase && b.ignoreCase
  multiline := a.multiline && b.multiline
  dotAll := a.dotAll && b.dotAll
  unicode := a.unicode && b.unicode
  verbose := a.verbose && b.verbose
  ascii := a.ascii && b.ascii

/-- The flags of the first that the second lacks. -/
def Flags.diff (a b : Flags) : Flags where
  template := a.template && !b.template
  ignoreCase := a.ignoreCase && !b.ignoreCase
  multiline := a.multiline && !b.multiline
  dotAll := a.dotAll && !b.dotAll
  unicode := a.unicode && !b.unicode
  verbose := a.verbose && !b.verbose
  ascii := a.ascii && !b.ascii

/-- Flags with some turned on and some turned off; the choice of an alphabet replaces
the one before. -/
def Flags.adjust (f add del : Flags) : Flags :=
  let f := if add.ascii || add.unicode then { f with ascii := false, unicode := false }
    else f
  (f.union add).diff del

/-- The number that stands for a set of flags. -/
def Flags.toNat (f : Flags) : Nat :=
  f.template.toNat + 2 * f.ignoreCase.toNat + 8 * f.multiline.toNat + 16 * f.dotAll.toNat
    + 32 * f.unicode.toNat + 64 * f.verbose.toNat + 256 * f.ascii.toNat

/-- How letters are compared: as they are, or up to case for ASCII letters or for all. -/
inductive Fold where
  | exact
  | ascii
  | full
deriving Repr, BEq, DecidableEq

/-- How letters are compared under some flags. -/
def Flags.fold (f : Flags) : Fold :=
  if f.ignoreCase then (if f.ascii then .ascii else .full) else .exact

/-- The code point that stands for a letter in comparisons. -/
def Fold.key : Fold → Nat → Nat
  | .exact, n => n
  | .ascii, n => toLowerAscii n
  | .full, n => toLower n

/-- Classes of characters. -/
inductive CharClass where
  | digit
  | space
  | word
deriving Repr, BEq, DecidableEq

/-- Whether a character is in a class; with `ascii` only ASCII characters are. -/
def CharClass.contains (ascii : Bool) (c : Char) : CharClass → Bool
  | .digit => if ascii then c.isDigit else isDecimal c
  | .space => if ascii then c == ' ' || (0x09 ≤ c.toNat && c.toNat ≤ 0x0d) else isBlank c
  | .word => if ascii then c.isAlphanum || c == '_' else isWord c

/-- A member of a set of characters. -/
inductive Member where
  | point (n : Nat)
  | range (low high : Nat)
  | named (cls : CharClass) (negated : Bool)
deriving Repr, BEq, DecidableEq

/-- A pattern for one character. -/
inductive Leaf where
  | point (fold : Fold) (n : Nat)
  | oneOf (fold : Fold) (ascii negated : Bool) (members : List Member)
  | any (newline : Bool)
deriving Repr, BEq, DecidableEq

/-- A condition on a place of the text. -/
inductive Anchor where
  | textStart
  | lineStart
  | textEnd
  | lastLineEnd
  | lineEnd
  | boundary (ascii wanted : Bool)
deriving Repr, BEq, DecidableEq

/-- How often a loop tries to go round: often first, seldom first, or often without
giving anything back. -/
inductive Haste where
  | greedy
  | reluctant
  | possessive
deriving Repr, BEq, DecidableEq

/-- A regular expression. -/
inductive Node where
  | empty
  | leaf (l : Leaf)
  | anchor (a : Anchor)
  | cat (a b : Node)
  | alt (a b : Node)
  | group (id : Nat) (body : Node)
  | loop (haste : Haste) (least : Nat) (most : Option Nat) (body : Node)
  | ahead (wanted : Bool) (body : Node)
  | behind (wanted : Bool) (width : Nat) (body : Node)
  | ref (fold : Fold) (id : Nat)
  | cond (id : Nat) (yes no : Node)
  | atomic (body : Node)
deriving Repr, DecidableEq

/-- The greatest width that is told apart from others. -/
def widthLimit : Nat := Nat.pow 2 64

/-- The greatest number of rounds that can be written. -/
def roundLimit : Nat := Nat.pow 2 32 - 1

/-- The least and the greatest length of a match, given those of the groups. -/
def Node.width (groups : Nat → Nat × Nat) : Node → Nat × Nat
  | .empty | .anchor _ | .ahead _ _ | .behind _ _ _ => (0, 0)
  | .leaf _ => (1, 1)
  | .cat a b =>
    let (lowA, highA) := a.width groups
    let (lowB, highB) := b.width groups
    (min (lowA + lowB) widthLimit, min (highA + highB) widthLimit)
  | .alt a b | .cond _ a b =>
    let (lowA, highA) := a.width groups
    let (lowB, highB) := b.width groups
    (min lowA lowB, max highA highB)
  | .group _ body | .atomic body => body.width groups
  | .loop _ least most body =>
    let (low, high) := body.width groups
    (min (low * least) widthLimit, match most with
      | some m => min (high * m) widthLimit
      | none => if high = 0 then 0 else widthLimit)
  | .ref _ id => groups id

/-- A pattern with the text that it was written as. -/
structure Pattern where
  source : String
  flags : Flags
  root : Node
deriving Repr

end RuleLint.Regex
