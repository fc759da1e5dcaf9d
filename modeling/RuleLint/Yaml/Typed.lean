/-
RuleLint/Yaml/Typed.lean

Scalars as values: which texts are numbers, truth values, points in time or nothing, and
what they stand for.  The tests (`isInt`, `isFloat`, …) say which type a plain scalar
has by its looks; the readers (`intOf`, `floatOf`, …) also meet texts that only a tag
calls a number, and then they may fail.
-/
import RuleLint.Number.Read
import RuleLint.Value.Print
import RuleLint.Yaml.Failure

namespace RuleLint.Yaml

open RuleLint.Text RuleLint.Number

/-! ### Looks -/

/-- The texts of truth values. -/
def boolWords : List String :=
  ["yes", "Yes", "YES", "no", "No", "NO", "true", "True", "TRUE", "false", "False",
    "FALSE", "on", "On", "ON", "off", "Off", "OFF"]

/-- The texts for nothing. -/
def nullWords : List String := ["~", "null", "Null", "NULL", ""]

/-- Digits and underscores. -/
def isDigitOrGap (c : Char) : Bool := c.isDigit || c == '_'

/-- A text without its sign. -/
def unsigned : List Char → List Char
  | '-' :: rest => rest
  | '+' :: rest => rest
  | cs => cs

/-- An exponent with a sign, or nothing. -/
def isExponent : List Char → Bool
  | [] => true
  | e :: s :: ds =>
      (e == 'e' || e == 'E') && (s == '-' || s == '+') && !ds.isEmpty &&
        ds.all Char.isDigit
  | _ => false

/-- A number below sixty in one digit or two. -/
def isSixtieth : List Char → Bool
  | [d] => d.isDigit
  | [t, d] => '0' ≤ t && t ≤ '5' && d.isDigit
  | _ => false

/-- Numbers below sixty, each behind a colon; at least one. -/
def areSixtieths (cs : List Char) : Bool :=
  match cs.splitOn ':' with
  | [] :: first :: more => isSixtieth first && more.all isSixtieth
  | _ => false

/-- Digits with a point, and perhaps an exponent. -/
def isPointed (cs : List Char) : Bool :=
  match cs with
  | d :: rest =>
    d.isDigit && match rest.dropWhile isDigitOrGap with
      | '.' :: more => isExponent (more.dropWhile isDigitOrGap)
      | _ => false
  | [] => false

/-- A point with digits behind it, and perhaps an exponent. -/
def isFraction : List Char → Bool
  | '.' :: d :: rest => d.isDigit && isExponent (rest.dropWhile isDigitOrGap)
  | _ => false

/-- Digits and sixtieths with a point. -/
def isPointedSixty (cs : List Char) : Bool :=
  match cs with
  | d :: rest =>
    let whole := rest.takeWhile (· != '.')
    match rest.dropWhile (· != '.') with
    | '.' :: more =>
      d.isDigit && areSixtieths (whole.dropWhile isDigitOrGap) && more.all isDigitOrGap
    | _ => false
  | [] => false

/-- Whether a text looks like a floating-point number. -/
def isFloat (cs : List Char) : Bool :=
  isPointed (unsigned cs) || isFraction cs || isPointedSixty (unsigned cs)
    || [".inf", ".Inf", ".INF"].contains (String.ofList (unsigned cs))
    || [".nan", ".NaN", ".NAN"].contains (String.ofList cs)

/-- Whether a text looks like an integer. -/
def isInt (cs : List Char) : Bool :=
  match unsigned cs with
  | ['0'] => true
  | '0' :: 'b' :: rest =>
      !rest.isEmpty && rest.all fun c => c == '0' || c == '1' || c == '_'
  | '0' :: 'x' :: rest =>
      !rest.isEmpty && rest.all fun c => (hexDigit? c).isSome || c == '_'
  | '0' :: rest => rest.all fun c => ('0' ≤ c && c ≤ '7') || c == '_'
  | d :: rest =>
    d.isDigit && match rest.dropWhile isDigitOrGap with
      | [] => true
      | more => areSixtieths more
  | [] => false

/-! ### Points in time -/

/-- The time of day in a text for a point in time. -/
structure Clock where
  hour : Nat
  minute : Nat
  second : Nat
  micro : Nat
  /-- Seconds ahead of the standard clock. -/
  offset : Option Int

/-- A text for a point in time, taken apart. -/
structure Stamp where
  day : Day
  /-- Whether month and day are written with two digits. -/
  full : Bool
  clock : Option Clock

/-- Between `least` and `most` digits in front. -/
def cutDigits (least most : Nat) (cs : List Char) : Option (List Char × List Char) :=
  let ds := (cs.takeWhile Char.isDigit).take most
  if least ≤ ds.length then some (ds, cs.drop ds.length) else none

/-- A given character in front. -/
def cutChar (c : Char) : List Char → Option (List Char)
  | d :: rest => if c == d then some rest else none
  | [] => none

/-- The six digits of a fraction of a second. -/
def microOf (ds : List Char) : Nat :=
  decimalNat ((ds ++ List.replicate 6 '0').take 6)

/-- The distance from the standard clock at the end of a text, if there is one. -/
def cutZone (cs : List Char) : Option (Option Int) :=
  match cs.dropWhile (fun c => c == ' ' || c == '\t'), cs with
  | [], [] => some none
  | ['Z'], _ => some (some 0)
  | s :: rest, _ =>
    if s == '-' || s == '+' then do
      let (h, rest) ← cutDigits 1 2 rest
      let minutes ← match rest with
        | [] => some 0
        | _ => do
          let (m, rest) ← cutDigits 2 2 (← cutChar ':' rest)
          if rest.isEmpty then some (decimalNat m) else none
      let n : Int := (decimalNat h * 3600 + minutes * 60 : Nat)
      return some (if s == '-' then -n else n)
    else none
  | [], _ => none

/-- The time of day behind a date. -/
def cutClock (cs : List Char) : Option Clock := do
  let rest ← match cs with
    | 'T' :: rest | 't' :: rest => some rest
    | c :: _ =>
        if c == ' ' || c == '\t' then some (cs.dropWhile fun c => c == ' ' || c == '\t')
          else none
    | [] => none
  let (h, rest) ← cutDigits 1 2 rest
  let (m, rest) ← cutDigits 2 2 (← cutChar ':' rest)
  let (s, rest) ← cutDigits 2 2 (← cutChar ':' rest)
  let (micro, rest) := match rest with
    | '.' :: more => (microOf (more.takeWhile Char.isDigit), more.dropWhile Char.isDigit)
    | _ => (0, rest)
  let offset ← cutZone rest
  return ⟨decimalNat h, decimalNat m, decimalNat s, micro, offset⟩

/-- A text for a point in time. -/
def stampOf? (cs : List Char) : Option Stamp := do
  let (y, rest) ← cutDigits 4 4 cs
  let (m, rest) ← cutDigits 1 2 (← cutChar '-' rest)
  let (d, rest) ← cutDigits 1 2 (← cutChar '-' rest)
  let day : Day := ⟨decimalNat y, decimalNat m, decimalNat d⟩
  let full := m.length == 2 && d.length == 2
  if rest.isEmpty then return ⟨day, full, none⟩
  return ⟨day, full, some (← cutClock rest)⟩

/-- Whether a text looks like a point in time; a date by itself is written in full. -/
def isTimestamp (cs : List Char) : Bool :=
  match stampOf? cs with
  | some s => s.full || s.clock.isSome
  | none => false

/-! ### Readers -/

/-- A text without underscores. -/
def withoutGaps (cs : List Char) : List Char := cs.filter (· != '_')

/-- A truth value. -/
def boolOf (s : String) : Except Failure Bool :=
  let word := String.ofList (s.toList.map fun c => Char.ofNat (toLower c.toNat))
  if ["yes", "true", "on"].contains word then .ok true
  else if ["no", "false", "off"].contains word then .ok false
  else .error (.badBool word)

/-- The greatest number of decimal digits that is read as an integer. -/
def digitLimit : Nat := 4300

/-- An integer in a base. -/
def intIn (base : Nat) (cs : List Char) : Except Failure Int :=
  match readInt? base cs with
  | some n =>
    let digits := (cs.filter isDecimal).length
    if base = 10 ∧ digitLimit < digits then .error (.tooManyDigits digits) else .ok n
  | none => .error (.badInt base (String.ofList cs))

/-- The value of parts in base sixty, the last part having weight one. -/
def sixty (parts : List Int) : Int :=
  parts.foldl (fun n p => n * 60 + p) 0

/-- An integer. -/
def intOf (s : String) : Except Failure Int := do
  let cs := withoutGaps s.toList
  if cs.isEmpty then throw .emptyNumber
  let negative := cs.head? == some '-'
  let n ← readBody (unsigned cs)
  return if negative then -n else n
where
  readBody (body : List Char) : Except Failure Int :=
    match body with
    | ['0'] => .ok 0
    | '0' :: 'b' :: ds => intIn 2 ds
    | '0' :: 'x' :: ds => intIn 16 ds
    | '0' :: _ => intIn 8 body
    | [] => .error .emptyNumber
    | _ =>
        if body.contains ':' then ((body.splitOn ':').mapM (intIn 10)).map sixty
          else intIn 10 body

/-- A floating-point number from its text. -/
def floatIn (cs : List Char) : Except Failure Float :=
  match readFloat? cs with
  | some x => .ok x
  | none => .error (.badFloat (String.ofList cs))

/-- The value of parts in base sixty, summed from the last part on. -/
def sixtyFloat (parts : List Float) : Float :=
  (parts.reverse.foldl (fun (acc : Float × Float) p =>
    (acc.1 + p * acc.2, acc.2 * 60)) (0.0, 1.0)).1

/-- A floating-point number. -/
def floatOf (s : String) : Except Failure Float := do
  let cs := (withoutGaps s.toList).map fun c => Char.ofNat (toLower c.toNat)
  if cs.isEmpty then throw .emptyNumber
  let sign : Float := if cs.head? == some '-' then -1 else 1
  let body := unsigned cs
  if body = ".inf".toList then return sign * (1.0 / 0.0)
  if body = ".nan".toList then return 0.0 / 0.0
  if body.contains ':' then return sign * sixtyFloat (← (body.splitOn ':').mapM floatIn)
  return sign * (← floatIn body)

/-- The longest number in front of a text, with its sign. -/
def cutFloat? (cs : List Char) : Option (Float × List Char) :=
  (List.range cs.length).findSome? fun k =>
    let n := cs.length - k
    (readFloat? (cs.take n)).bind fun x =>
      if (cs.take n).any isBlank then none else some (x, cs.drop n)

/-- A sign by itself stands for one. -/
def unitOf? : List Char → Option (Float × List Char)
  | '+' :: rest => some (1.0, rest)
  | '-' :: rest => some (-1.0, rest)
  | cs => some (1.0, cs)

/-- Whether a text is the mark of an imaginary part. -/
def isImaginaryMark (cs : List Char) : Bool := cs == ['j'] || cs == ['J']

/-- A complex number: a real part, an imaginary part, or both. -/
def complexOf? (s : String) : Option (Float × Float) := do
  let cs := trim s.toList
  let cs := match cs with
    | '(' :: rest => if rest.getLast? == some ')' then trim rest.dropLast else cs
    | _ => cs
  match cutFloat? cs with
  | none =>
    let (x, rest) ← unitOf? cs
    if isImaginaryMark rest then some (0.0, x) else none
  | some (x, []) => some (x, 0.0)
  | some (x, rest) =>
    if isImaginaryMark rest then some (0.0, x)
    else if rest.head? == some '+' || rest.head? == some '-' then
      let (y, rest) ← (cutFloat? rest).orElse fun _ => unitOf? rest
      if isImaginaryMark rest then some (x, y) else none
    else none

/-- The number of days of a month. -/
def monthLength (year month : Nat) : Nat :=
  if month = 2 then (if year % 4 = 0 ∧ (year % 100 ≠ 0 ∨ year % 400 = 0) then 29 else 28)
  else if month = 4 ∨ month = 6 ∨ month = 9 ∨ month = 11 then 30 else 31

/-- Refuses a day that the calendar does not have. -/
def checkDay (d : Day) : Except Failure Unit := do
  if d.year = 0 then throw (.badDate ("year " ++ toString d.year ++ " is out of range"))
  if d.month = 0 ∨ 12 < d.month then throw (.badDate "month must be in 1..12")
  if d.day = 0 ∨ monthLength d.year d.month < d.day
    then throw (.badDate "day is out of range for month")

/-- A point in time. -/
def timestampOf (s : String) : Except Failure Value := do
  let cs := s.toList
  let cs := if cs.getLast? == some '\n' then cs.dropLast else cs
  match stampOf? cs with
  | none => throw .badTimestamp
  | some ⟨day, _, none⟩ =>
    checkDay day
    return .day day
  | some ⟨day, _, some c⟩ =>
    match c.offset with
    | some n =>
      if 86400 ≤ n.natAbs then
        throw (.badDate
          ("offset must be a timedelta strictly between -timedelta(hours=24) and "
          ++ "timedelta(hours=24), not " ++ durationWritten n ++ "."))
    | none => pure ()
    checkDay day
    if 23 < c.hour then throw (.badDate "hour must be in 0..23")
    if 59 < c.minute then throw (.badDate "minute must be in 0..59")
    if 59 < c.second then throw (.badDate "second must be in 0..59")
    return .moment ⟨day, c.hour, c.minute, c.second, c.micro, c.offset⟩

/-! ### Bytes -/

/-- The value of a character in base 64. -/
def sextet? (c : Char) : Option Nat :=
  if c.isUpper then some (c.toNat - 'A'.toNat)
  else if c.isLower then some (c.toNat - 'a'.toNat + 26)
  else if c.isDigit then some (c.toNat - '0'.toNat + 52)
  else if c == '+' then some 62
  else if c == '/' then some 63
  else none

/-- The bytes that whole and begun groups of four characters give. -/
def sextetBytes : List Nat → List UInt8
  | a :: b :: c :: d :: rest =>
    (a * 4 + b / 16).toUInt8 :: (b % 16 * 16 + c / 4).toUInt8 ::
      (c % 4 * 64 + d).toUInt8 :: sextetBytes rest
  | [a, b, c] => [(a * 4 + b / 16).toUInt8, (b % 16 * 16 + c / 4).toUInt8]
  | [a, b] => [(a * 4 + b / 16).toUInt8]
  | _ => []

/-- The characters of base 64 up to the padding that ends them, and whether it did;
other characters are skipped.  `pads` counts the equal signs in a row. -/
def sextets : List Char → Nat → Nat → List Nat × Bool
  | [], _, _ => ([], false)
  | c :: rest, read, pads =>
    if c == '=' then
      if 2 ≤ read % 4 ∧ 4 ≤ read % 4 + (pads + 1) then ([], true)
      else sextets rest read (if 2 ≤ read % 4 then pads + 1 else pads)
    else match sextet? c with
      | none => sextets rest read pads
      | some n =>
        let (more, ended) := sextets rest (read + 1) 0
        (n :: more, ended)

/-- Bytes written in base 64. -/
def base64Of (cs : List Char) : Except String (List UInt8) :=
  let (ns, ended) := sextets cs 0 0
  if ended || ns.length % 4 = 0 then .ok (sextetBytes ns)
  else if ns.length % 4 = 1 then
    .error ("Invalid base64-encoded string: number of data characters (" ++
      toString ns.length
      ++ ") cannot be 1 more than a multiple of 4")
  else .error "Incorrect padding"

/-- How a character beyond ASCII is named. -/
def escapedChar (c : Char) : String :=
  let n := c.toNat
  if n < 0x100 then "\\x" ++ String.ofList (hexDigits 2 n)
  else if n < 0x10000 then "\\u" ++ String.ofList (hexDigits 4 n)
  else "\\U" ++ String.ofList (hexDigits 8 n)

/-- Why a text is not ASCII, if it is not. -/
def notAscii? (cs : List Char) : Option String :=
  let start := (cs.takeWhile fun c => c.toNat < 128).length
  match cs.drop start with
  | [] => none
  | c :: rest =>
    let more := (rest.takeWhile fun d => 128 ≤ d.toNat).length
    some ("'ascii' codec can't encode " ++ (if more = 0 then "character '" ++
      escapedChar c ++ "' in position " ++ toString start
      else "characters in position " ++ toString start ++ "-" ++
        toString (start + more)) ++ ": ordinal not in range(128)")

/-- Bytes written in base 64, in a scalar at a mark. -/
def binaryOf (s : String) (at_ : Mark) : Except Failure (List UInt8) :=
  let fail (p : Problem) : Except Failure (List UInt8) :=
    .error (.marked ⟨.constructing, none, none, p, at_⟩)
  match notAscii? s.toList with
  | some reason => fail (.notAscii reason)
  | none =>
    match base64Of s.toList with
    | .ok bs => .ok bs
    | .error reason => fail (.badBase64 reason)

end RuleLint.Yaml
