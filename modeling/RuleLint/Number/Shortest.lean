/-
RuleLint/Number/Shortest.lean

The decimal text of a binary floating-point number: the fewest digits that read back as
the same number, and among those the nearest to it.

A finite number is `m * 2 ^ q`.  The reals that round to it form an interval around it,
whose ends belong to it when `m` is even.  For one digit, two digits and so on the two
neighbours of the number on that decimal grid are tested in exact arithmetic; the first
grid with a neighbour inside the interval gives the digits.
-/

namespace RuleLint.Number

/-- A nonnegative decimal number `digits * 10 ^ exponent`. -/
structure Decimal where
  digits : Nat
  exponent : Int

/-- A positive fraction. -/
structure Ratio where
  num : Nat
  den : Nat

/-- `n * 2 ^ e` as a fraction. -/
def Ratio.binary (n : Nat) (e : Int) : Ratio :=
  if e < 0 then ⟨n, Nat.pow 2 e.natAbs⟩ else ⟨n * Nat.pow 2 e.natAbs, 1⟩

/-- `n * 10 ^ e` as a fraction. -/
def Ratio.decimal (n : Nat) (e : Int) : Ratio :=
  if e < 0 then ⟨n, Nat.pow 10 e.natAbs⟩ else ⟨n * Nat.pow 10 e.natAbs, 1⟩

/-- Whether one fraction is below another. -/
def Ratio.lt (a b : Ratio) : Bool :=
  a.num * b.den < b.num * a.den

/-- The distance between two fractions. -/
def Ratio.distance (a b : Ratio) : Ratio :=
  let x := a.num * b.den
  let y := b.num * a.den
  ⟨if x < y then y - x else x - y, a.den * b.den⟩

/-- The number of decimal digits of a natural number; zero has one. -/
def digitCount (n : Nat) : Nat :=
  (Nat.toDigits 10 n).length

/-- The least `k` with `r < 10 ^ k`. -/
def Ratio.magnitude (r : Ratio) : Int :=
  if r.den ≤ r.num then digitCount (r.num / r.den)
  else
    let j := digitCount (r.den / r.num)
    if r.num * Nat.pow 10 (j - 1) = r.den then 2 - (j : Int) else 1 - (j : Int)

/-- The reals that round to a floating-point number, around the number itself. -/
structure Interval where
  low : Ratio
  value : Ratio
  high : Ratio
  closed : Bool

/-- The interval of `m * 2 ^ q`; below a power of two the numbers lie twice as dense. -/
def Interval.ofBinary (m : Nat) (q : Int) : Interval :=
  let below := if m = Nat.pow 2 52 ∧ -1074 < q then 1 else 2
  { low := .binary (4 * m - below) (q - 2)
    value := .binary (4 * m) (q - 2)
    high := .binary (4 * m + 2) (q - 2)
    closed := m % 2 = 0 }

def Interval.contains (i : Interval) (r : Ratio) : Bool :=
  if i.closed then !r.lt i.low && !i.high.lt r else i.low.lt r && r.lt i.high

/-- The neighbour of the value on the grid of the multiples of `10 ^ e` that lies in the
interval, if one does; the nearer of two, and of two as near the one with an even last
digit. -/
def Interval.onGrid? (i : Interval) (e : Int) : Option Decimal :=
  let unit := Ratio.decimal 1 e
  let d := (i.value.num * unit.den) / (i.value.den * unit.num)
  let down := Ratio.decimal d e
  let up := Ratio.decimal (d + 1) e
  match i.contains down, i.contains up with
  | true, false => some ⟨d, e⟩
  | false, true => some ⟨d + 1, e⟩
  | false, false => none
  | true, true =>
    let below := Ratio.distance i.value down
    let above := Ratio.distance i.value up
    if below.lt above then some ⟨d, e⟩
    else if above.lt below then some ⟨d + 1, e⟩
    else if d % 2 = 0 then some ⟨d, e⟩ else some ⟨d + 1, e⟩

/-- The shortest decimal that reads back as `m * 2 ^ q`; seventeen digits always
suffice. -/
def shortest (m : Nat) (q : Int) : Decimal :=
  let i := Interval.ofBinary m q
  let k := i.value.magnitude
  ((List.range 17).findSome? fun (n : Nat) => i.onGrid? (k - ((n : Int) + 1))).getD ⟨m, 0⟩

/-- What a floating-point number is, read off its bits. -/
inductive Binary where
  | nan
  | infinite (negative : Bool)
  | finite (negative : Bool) (m : Nat) (q : Int)

/-- Decodes the sign, the significand and the exponent. -/
def Binary.ofFloat (x : Float) : Binary :=
  let bits := x.toBits.toNat
  let negative := bits / Nat.pow 2 63 = 1
  let e : Nat := bits / Nat.pow 2 52 % Nat.pow 2 11
  let f := bits % Nat.pow 2 52
  if e = 2047 then (if f = 0 then .infinite negative else .nan)
  else if e = 0 then .finite negative f (-1074)
  else .finite negative (Nat.pow 2 52 + f) ((e : Int) - 1075)

/-- The digits of a decimal without trailing zeros, and the place of its point: the
number is `0.digits * 10 ^ place`. -/
def Decimal.spread (d : Decimal) : List Char × Int :=
  let ds := Nat.toDigits 10 d.digits
  let kept := (ds.reverse.dropWhile (· == '0')).reverse
  (kept, (ds.length : Int) + d.exponent)

/-- How a number is written: positionally for a point from `lowest` to `highest` places
right of the first digit, else with an exponent of at least two digits. -/
structure Style where
  lowest : Int
  highest : Int
  wholeMark : String
  exponentMark : String

/-- Zeros to the number of `n`. -/
def zeros (n : Nat) : List Char :=
  List.replicate n '0'

/-- Digits and the place of their point, written in a style. -/
def Style.write (f : Style) (ds : List Char) (place : Int) : String :=
  if f.lowest ≤ place ∧ place ≤ f.highest then
    if place ≤ 0 then "0." ++ String.ofList (zeros place.natAbs ++ ds)
    else
      let p := place.toNat
      if ds.length ≤ p then String.ofList (ds ++ zeros (p - ds.length)) ++ f.wholeMark
      else String.ofList (ds.take p ++ '.' :: ds.drop p)
  else
    let e := place - 1
    let size := toString e.natAbs
    let mantissa := match ds with
      | c :: [] => String.ofList [c]
      | c :: more => String.ofList (c :: '.' :: more)
      | [] => "0"
    mantissa ++ f.exponentMark ++ (if e < 0 then "-" else "+") ++
      (if size.length < 2 then "0" ++ size else size)

/-- Numbers in reports: positional from 0.0001 up to, not including, 10^16; a whole
number keeps `.0`. -/
def reportStyle : Style := ⟨-3, 16, ".0", "e"⟩

/-- The same without the mark of a whole number, for the parts of a complex number. -/
def partStyle : Style := ⟨-3, 16, "", "e"⟩

/-- The shortest text of a floating-point number in a style. -/
def Style.text (f : Style) (x : Float) : String :=
  match Binary.ofFloat x with
  | .nan => "nan"
  | .infinite negative => if negative then "-inf" else "inf"
  | .finite negative m q =>
    let body :=
      if m = 0 then "0" ++ f.wholeMark
      else
        let (ds, place) := (shortest m q).spread
        f.write ds place
    if negative then "-" ++ body else body

/-- The text of a floating-point number. -/
def floatText (x : Float) : String :=
  reportStyle.text x

/-- The text of a complex number: the real part is left out when it is a positive zero. -/
def complexText (re im : Float) : String :=
  if re == 0 && re.toBits == 0 then partStyle.text im ++ "j"
  else
    let imText := partStyle.text im
    let sign := if imText.startsWith "-" then "" else "+"
    "(" ++ partStyle.text re ++ sign ++ imText ++ "j)"

end RuleLint.Number
