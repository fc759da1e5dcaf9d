/-
RuleLint/Glob.lean

Patterns for paths.  A star stands for any text (slashes too), a question mark for any
character, and brackets for one character of a set; all else stands for itself.

A bracket begins a set only if a closing one follows.  In a set a hyphen between two
characters means the range from one to the other, unless the two hyphens on both sides
of a single character would both want it: the second one is then a character of the set.
A range from a later to an earlier character is empty, and a set that lost all of its
members matches nothing.

`Pattern.matches` keeps the list of what may be left of the text while it goes through
the pieces of a pattern; the list is sorted by length, so that behind a star it is the
list of all tails of its first member.
-/

namespace RuleLint.Glob

/-- A set of characters as ranges. -/
structure CharSet where
  negated : Bool
  ranges : List (Char × Char)
deriving Repr, BEq, DecidableEq

/-- Whether a character is in a set. -/
def CharSet.contains (s : CharSet) (c : Char) : Bool :=
  (s.ranges.any fun (a, b) => a ≤ c && c ≤ b) != s.negated

/-- A piece of a pattern. -/
inductive Piece where
  | star
  | one
  | oneOf (s : CharSet)
  | char (c : Char)
deriving Repr, BEq, DecidableEq

/-- A pattern for a path. -/
abbrev Pattern := List Piece

/-! ### Sets -/

/-- Cuts the inside of brackets at the hyphens that make ranges.  Such a hyphen has a
character on either side, and the next one is at least three places further on; `skip`
counts the places until a hyphen may make a range. -/
def chunks : Nat → List Char → List (List Char)
  | _, [] => [[]]
  | skip, c :: rest =>
    if c == '-' && skip == 0 then [] :: chunks 2 rest
    else match chunks (skip - 1) rest with
      | [] => [[c]]
      | first :: more => (c :: first) :: more

/-- Chunks with a hyphen at the end made a character. -/
def closeHyphen : List (List Char) → List (List Char)
  | [a, []] => [a ++ ['-']]
  | a :: rest => a :: closeHyphen rest
  | [] => []

/-- Drops the empty ranges between chunks, from the last to the first. -/
def dropEmpty : List (List Char) → List (List Char)
  | [] => []
  | a :: rest =>
    match dropEmpty rest with
    | [] => [a]
    | b :: more =>
      match a.getLast?, b.head? with
      | some x, some y => if y < x then (a.dropLast ++ b.tail) :: more else a :: b :: more
      | _, _ => a :: b :: more

/-- A character of a set, or a hyphen between chunks. -/
inductive Mark where
  | char (c : Char)
  | hyphen

/-- Chunks in a row with hyphens between them. -/
def marks : List (List Char) → List Mark
  | [] => []
  | [a] => a.map .char
  | a :: rest => a.map .char ++ .hyphen :: marks rest

/-- The ranges of a row of characters and hyphens. -/
def rangesOf : List Mark → List (Char × Char)
  | [] => []
  | .char a :: .hyphen :: .char b :: rest => (a, b) :: rangesOf rest
  | .char a :: rest => (a, a) :: rangesOf rest
  | .hyphen :: rest => ('-', '-') :: rangesOf rest

/-- The set that the inside of brackets means.  An exclamation mark at the front, when
the empty ranges are gone, turns it around. -/
def charSet (inside : List Char) : CharSet :=
  let parts :=
    dropEmpty (closeHyphen (chunks (if inside.head? == some '!' then 2 else 1) inside))
  match marks parts with
  | .char '!' :: rest => ⟨true, rangesOf rest⟩
  | row => ⟨false, rangesOf row⟩

/-- The inside of brackets that go on behind a beginning, and what is behind the closing
one. -/
def closed? (lead rest : List Char) : Option (List Char × List Char) :=
  match rest.dropWhile (· != ']') with
  | [] => none
  | _ :: after => some (lead ++ rest.takeWhile (· != ']'), after)

/-- The inside of brackets and what is behind them; an exclamation mark and a closing
bracket may come first. -/
def cutBrackets? : List Char → Option (List Char × List Char)
  | '!' :: ']' :: rest => closed? ['!', ']'] rest
  | '!' :: rest => closed? ['!'] rest
  | ']' :: rest => closed? [']'] rest
  | cs => closed? [] cs

/-- Reads the pieces of a pattern; `n` bounds their number. -/
def pieces : Nat → List Char → Pattern
  | 0, _ => []
  | _, [] => []
  | n + 1, '*' :: rest => .star :: pieces n rest
  | n + 1, '?' :: rest => .one :: pieces n rest
  | n + 1, '[' :: rest =>
    match cutBrackets? rest with
    | some (inside, after) => .oneOf (charSet inside) :: pieces n after
    | none => .char '[' :: pieces n rest
  | n + 1, c :: rest => .char c :: pieces n rest

/-- Reads a pattern. -/
def Pattern.ofText (s : String) : Pattern :=
  pieces s.length s.toList

/-! ### Matching -/

/-- Whether a piece for one character takes it. -/
def Piece.takes (c : Char) : Piece → Bool
  | .star => false
  | .one => true
  | .oneOf s => s.contains c
  | .char d => c == d

/-- A text and all of its tails, the longest first. -/
def tails : List Char → List (List Char)
  | [] => [[]]
  | c :: rest => (c :: rest) :: tails rest

/-- What may be left behind a piece. -/
def Piece.step (p : Piece) (left : List (List Char)) : List (List Char) :=
  match p with
  | .star => match left with
    | [] => []
    | longest :: _ => tails longest
  | p => left.filterMap fun s => match s with
    | [] => none
    | c :: rest => if p.takes c then some rest else none

/-- Whether a pattern matches a whole text. -/
def Pattern.matches (p : Pattern) (s : String) : Bool :=
  (p.foldl (fun left piece => piece.step left) [s.toList]).any List.isEmpty

end RuleLint.Glob
