/-
RuleLint/Number/Read.lean

Reading numbers.  Integers in a base from 2 to 36 and decimal floating-point numbers,
with a sign, blanks around them and single underscores between digits.
-/
import RuleLint.Text.Word

namespace RuleLint.Number

open RuleLint.Text

/-- The value of a digit in bases up to 36; decimal digits of any script count. -/
def digitIn36? (c : Char) : Option Nat :=
  match digitValue? c with
  | some d => some d
  | none =>
    if 'a' ≤ c ∧ c ≤ 'z' then some (c.toNat - 'a'.toNat + 10)
    else if 'A' ≤ c ∧ c ≤ 'Z' then some (c.toNat - 'A'.toNat + 10)
    else none

/-- The value of a digit in a base. -/
def digitIn? (base : Nat) (c : Char) : Option Nat :=
  (digitIn36? c).filter (· < base)

/-- Reads digits with single underscores between them; `acc` is the value so far, `some`
once a digit was read, and `gap` says that an underscore came last. -/
def readDigits (base : Nat) : Option Nat → Bool → List Char → Option Nat
  | acc, gap, [] => if gap then none else acc
  | acc, gap, c :: rest =>
    if c == '_' then
      if gap || acc.isNone then none else readDigits base acc true rest
    else match digitIn? base c with
      | none => none
      | some d => readDigits base (some (acc.getD 0 * base + d)) false rest

/-- A sign and the rest. -/
def cutSign : List Char → Bool × List Char
  | '-' :: rest => (true, rest)
  | '+' :: rest => (false, rest)
  | cs => (false, cs)

/-- The digits of an integer without the mark of its base, after which one underscore
may stand. -/
def cutBaseMark (base : Nat) (cs : List Char) : List Char :=
  let after (rest : List Char) : List Char := match rest with
    | '_' :: more => more
    | _ => rest
  match cs with
  | '0' :: c :: rest =>
    if (base = 16 ∧ (c = 'x' ∨ c = 'X')) ∨ (base = 8 ∧ (c = 'o' ∨ c = 'O')) ∨
      (base = 2 ∧ (c = 'b' ∨ c = 'B'))
    then after rest else cs
  | _ => cs

/-- Reads an integer in a base. -/
def readInt? (base : Nat) (cs : List Char) : Option Int :=
  let (negative, body) := cutSign (trim cs)
  (readDigits base none false (cutBaseMark base body)).map fun n => if negative
    then -(n : Int) else n

/-- Decimal digits with the underscores taken out, if each stands between two digits. -/
def plainDigits? : List Char → Option (List Char)
  | [] => some []
  | c :: rest => go c.isDigit (c :: rest)
where
  go : Bool → List Char → Option (List Char)
    | _, [] => some []
    | afterDigit, '_' :: d :: rest =>
      if afterDigit && d.isDigit then (go true rest).map (d :: ·) else none
    | _, c :: rest => if c == '_' then none else (go c.isDigit rest).map (c :: ·)

/-- `m * 10 ^ e` rounded to the nearest floating-point number; far exponents are settled
without the power. -/
def floatOf (negative : Bool) (m : Nat) (e : Int) : Float :=
  let size : Int := (Nat.toDigits 10 m).length
  let x :=
    if m = 0 then 0.0
    else if size + e < -400 then 0.0
    else if 400 < size + e then 1.0 / 0.0
    else if e < 0 then Float.ofScientific m true e.natAbs
      else Float.ofScientific m false e.natAbs
  if negative then -x else x

/-- The value of a list of decimal digits. -/
def decimalNat (cs : List Char) : Nat :=
  cs.foldl (fun n c => 10 * n + (c.toNat - '0'.toNat)) 0

/-- The exponent part of a decimal number, if that is all there is. -/
def readExponent? : List Char → Option Int
  | [] => some 0
  | c :: rest =>
    if c == 'e' || c == 'E' then
      let (negative, ds) := cutSign rest
      if ds ≠ [] ∧ ds.all Char.isDigit then some (if negative then -(decimalNat ds : Int)
        else decimalNat ds) else none
    else none

/-- Digits with an optional point and an optional exponent. -/
def readDecimal? (cs : List Char) : Option (Nat × Int) :=
  let whole := cs.takeWhile Char.isDigit
  let rest := cs.dropWhile Char.isDigit
  let (frac, tail) := match rest with
    | '.' :: more => (more.takeWhile Char.isDigit, more.dropWhile Char.isDigit)
    | _ => ([], rest)
  if whole = [] ∧ frac = [] then none
  else (readExponent? tail).map fun e => (decimalNat (whole ++ frac), e - frac.length)

/-- Reads a floating-point number; the words for infinity and not-a-number count in any
case. -/
def readFloat? (cs : List Char) : Option Float :=
  let (negative, body) := cutSign (trim cs)
  let word := String.ofList (body.map Char.toLower)
  if word = "inf" ∨ word = "infinity" then some (if negative then -1.0 / 0.0
    else 1.0 / 0.0)
  else if word = "nan" then some (0.0 / 0.0)
  else do
    let ds ← plainDigits? (body.map fun c => match digitValue? c with
      | some d => Nat.digitChar d
      | none => c)
    let (m, e) ← readDecimal? ds
    return floatOf negative m e

end RuleLint.Number
