/-
RuleLint/Text/Ranges.lean

Sets of code points given as sorted ranges, and maps on such ranges.  The tables of the
character classes are written as text, one range a word (`41-5a`, or `5f` for a single
code point, in hexadecimal), read once by `Ranges.ofText` and searched by halving.
-/

namespace RuleLint.Text

/-- The value of a hexadecimal digit. -/
def hexDigit? (c : Char) : Option Nat :=
  if '0' ≤ c ∧ c ≤ '9' then some (c.toNat - '0'.toNat)
  else if 'a' ≤ c ∧ c ≤ 'f' then some (c.toNat - 'a'.toNat + 10)
  else if 'A' ≤ c ∧ c ≤ 'F' then some (c.toNat - 'A'.toNat + 10)
  else none

/-- The number a list of hexadecimal digits stands for; other characters count as zero. -/
def hexNat (cs : List Char) : Nat :=
  cs.foldl (fun n c => 16 * n + (hexDigit? c).getD 0) 0

/-- The words of a text, cut at spaces and line breaks. -/
def words (s : String) : List (List Char) :=
  (s.toList.splitOnP fun c => c == ' ' || c == '\n').filter (· ≠ [])

/-- The two ends of a range; a single code point is both. -/
def rangeOf (w : List Char) : Nat × Nat :=
  match w.splitOn '-' with
  | [a, b] => (hexNat a, hexNat b)
  | _ => (hexNat w, hexNat w)

/-- Sorted, disjoint ranges of code points, both ends included, each with a value. -/
abbrev RangeMap (α : Type) := Array (Nat × Nat × α)

namespace RangeMap

/-- The range that holds a code point among those with an index from `lo` up to `hi`. -/
def search {α : Type} (t : RangeMap α) (n lo hi : Nat) : Option (Nat × Nat × α) :=
  if lo < hi then
    let mid := (lo + hi) / 2
    match t[mid]? with
    | none => none
    | some (a, b, v) =>
      if n < a then search t n lo mid
      else if b < n then search t n (mid + 1) hi
      else some (a, b, v)
  else none
termination_by hi - lo

/-- The range that holds a code point. -/
def find? {α : Type} (t : RangeMap α) (n : Nat) : Option (Nat × Nat × α) :=
  search t n 0 t.size

end RangeMap

/-- Sorted, disjoint ranges of code points, both ends included. -/
abbrev Ranges := RangeMap Unit

namespace Ranges

/-- Reads a table; see the head of the file for its form. -/
def ofText (s : String) : Ranges :=
  (words s).toArray.map fun w => let (a, b) := rangeOf w; (a, b, ())

/-- Whether a code point lies in one of the ranges. -/
def contains (t : Ranges) (n : Nat) : Bool :=
  (RangeMap.find? t n).isSome

end Ranges

end RuleLint.Text
