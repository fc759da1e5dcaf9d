/-
RuleLint/XPath/Number.lean

Numbers in path expressions: their text, the number in a text, remainders and rounding.

A whole number in the range of 32-bit integers is written as such.  Numbers above 10^9
and below 10^-5 are written with an exponent and fifteen digits, all others with as many
places as make about fifteen digits; zeros at the end of a fraction are left out.
-/
import RuleLint.Number.Shortest
import RuleLint.XPath.Parse

namespace RuleLint.XPath

open RuleLint.Number

/-! ### Text -/

/-- The quotient nearest to `num / den`; of two as near, the even one. -/
def nearest (num den : Nat) : Nat :=
  let q := num / den
  let r := num % den
  if den < 2 * r || (den == 2 * r && q % 2 == 1) then q + 1 else q

/-- A text without the zeros at its end, and without a point that is then last. -/
def withoutZeros (cs : List Char) : List Char :=
  match cs.reverse.dropWhile (· == '0') with
  | '.' :: rest => rest.reverse
  | rest => rest.reverse

/-- A fraction with a number of places behind the point. -/
def placesText (r : Ratio) (places : Nat) : String :=
  let ds := Nat.toDigits 10 (nearest (r.num * Nat.pow 10 places) r.den)
  let ds := zeros (places + 1 - ds.length) ++ ds
  let whole := ds.take (ds.length - places)
  String.ofList (withoutZeros (whole ++ '.' :: ds.drop (ds.length - places)))

/-- A fraction with fifteen digits and an exponent. -/
def exponentText (r : Ratio) : String :=
  let e := r.magnitude - 1
  let shift := Ratio.decimal 1 (14 - e)
  let n := nearest (r.num * shift.num) (r.den * shift.den)
  let (n, e) := if n = Nat.pow 10 15 then (Nat.pow 10 14, e + 1) else (n, e)
  let size := toString e.natAbs
  match Nat.toDigits 10 n with
  | [] => ""
  | c :: rest =>
    String.ofList (withoutZeros (c :: '.' :: rest)) ++ (if e < 0 then "e-" else "e+")
      ++ (if size.length < 2 then "0" ++ size else size)

/-- The text of a positive fraction that is no whole number of 32 bits; `x` is its
nearest number. -/
def fractionText (x : Float) (r : Ratio) : String :=
  if 1.0e9 < x || x < 1.0e-5 then exponentText r
  else
    let digits := x.log10
    if 1.0 ≤ digits then placesText r (14 - digits.toUInt64.toNat)
    else placesText r (15 + (-digits).toUInt64.toNat)

/-- The text of a number. -/
def numberText (x : Float) : String :=
  match Binary.ofFloat x with
  | .nan => "NaN"
  | .infinite negative => if negative then "-Infinity" else "Infinity"
  | .finite negative m q =>
    let r := Ratio.binary m q
    let body :=
      if r.num % r.den = 0 ∧ r.num / r.den < 2147483647 then toString (r.num / r.den)
        else fractionText x.abs r
    if negative && m != 0 then "-" ++ body else body

/-! ### Reading -/

/-- What is no number. -/
def noNumber : Float := 0.0 / 0.0

/-- The number that a text holds, with a sign and blanks around it. -/
def numberOfText (s : String) : Float :=
  let (negative, cs) := match skipSpace s.toList with
    | '-' :: rest => (true, rest)
    | cs => (false, cs)
  match cutNumber? cs with
  | some (x, rest) =>
      if skipSpace rest = [] then (if negative then -x else x) else noNumber
  | none => noNumber

/-! ### Arithmetic -/

/-- `n * 2 ^ e`, for a value that can be represented. -/
def scaled (n : Nat) (e : Int) : Float :=
  let extra := n.log2 - 52
  (Float.ofNat (n >>> extra)).scaleB (e + extra)

/-- The remainder of a division that is cut off towards zero; it has the sign of the
first number. -/
def remainder (x y : Float) : Float :=
  match Binary.ofFloat x, Binary.ofFloat y with
  | .finite negative m p, .finite _ n q =>
    if n = 0 then noNumber
    else
      let low := min p q
      let r := (m <<< (p - low).toNat) % (n <<< (q - low).toNat)
      if negative then -(scaled r low) else scaled r low
  | .finite _ _ _, .infinite _ => x
  | _, _ => noNumber

/-- The nearest whole number; of two as near, the greater one. -/
def rounded (x : Float) : Float :=
  if -0.5 ≤ x && x < 0.5 then x * 0.0
  else
    let low := x.floor
    if 0.5 ≤ x - low then low + 1.0 else low

end RuleLint.XPath
