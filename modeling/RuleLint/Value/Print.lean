/-
RuleLint/Value/Print.lean

The text of a value.  `written` is its written form, with texts in quotes; `shown`
is the same but for a text by itself, which is shown as it is, and for points in
time.  An integer with too many digits has no text; `shown?` tells of it.
-/
import RuleLint.Number.Shortest
import RuleLint.Source.Document
import RuleLint.Text.Halves
import RuleLint.Text.Quoted
import RuleLint.Value.Basic

namespace RuleLint

open RuleLint.Text

/-! ### Points in time -/

/-- A number with zeros in front up to a width. -/
def padded (width n : Nat) : String :=
  let s := toString n
  String.ofList (List.replicate (width - s.length) '0') ++ s

/-- Year, month and day, divided by dashes. -/
def Day.iso (d : Day) : String :=
  padded 4 d.year ++ "-" ++ padded 2 d.month ++ "-" ++ padded 2 d.day

/-- The distance of a clock from the standard one, as hours and minutes, and seconds if
there are any. -/
def offsetText (seconds : Int) : String :=
  let n := seconds.natAbs
  let rest := n % 60
  (if seconds < 0 then "-" else "+") ++ padded 2 (n / 3600) ++ ":" ++
    padded 2 (n / 60 % 60)
    ++ (if rest = 0 then "" else ":" ++ padded 2 rest)

/-- Day and time of day with `divider` between them. -/
def Moment.iso (m : Moment) (divider : String) : String :=
  m.date.iso ++ divider ++ padded 2 m.hour ++ ":" ++ padded 2 m.minute ++ ":" ++
    padded 2 m.second
    ++ (if m.micro = 0 then "" else "." ++ padded 6 m.micro)
    ++ (match m.offset with
      | some s => offsetText s
      | none => "")

/-- The written form of a day. -/
def Day.written (d : Day) : String :=
  "datetime.date(" ++ toString d.year ++ ", " ++ toString d.month ++ ", " ++
    toString d.day ++ ")"

/-- The written form of a span of time in seconds. -/
def durationWritten (seconds : Int) : String :=
  let days := seconds.fdiv 86400
  let rest := seconds.fmod 86400
  let parts := (if days = 0 then [] else ["days=" ++ toString days]) ++
    (if rest = 0 then [] else ["seconds=" ++ toString rest])
  "datetime.timedelta(" ++ (if parts.isEmpty then "0" else ", ".intercalate parts) ++ ")"

/-- The written form of a clock's distance. -/
def offsetWritten (seconds : Int) : String :=
  if seconds = 0 then "datetime.timezone.utc" else "datetime.timezone(" ++
    durationWritten seconds ++ ")"

/-- The written form of a moment. -/
def Moment.written (m : Moment) : String :=
  let numbers := [m.date.year, m.date.month, m.date.day, m.hour, m.minute]
    ++ (if m.micro ≠ 0 then [m.second, m.micro] else if m.second ≠ 0
      then [m.second] else [])
  let zone := match m.offset with
    | some s => [("tzinfo=" ++ offsetWritten s)]
    | none => []
  "datetime.datetime(" ++ ", ".intercalate (numbers.map toString ++ zone) ++ ")"

/-! ### Bytes and patterns -/

/-- How a byte stands between quotes `q`. -/
def quoteByte (q : Char) (b : UInt8) : List Char :=
  let c := Char.ofNat b.toNat
  if c == q || c == '\\' then ['\\', c]
  else if c == '\n' then ['\\', 'n']
  else if c == '\r' then ['\\', 'r']
  else if c == '\t' then ['\\', 't']
  else if 0x20 ≤ b.toNat && b.toNat < 0x7f then [c]
  else '\\' :: 'x' :: hexDigits 2 b.toNat

/-- Bytes in quotes. -/
def bytesWritten (bs : List UInt8) : String :=
  let q := quoteFor (bs.map fun b => Char.ofNat b.toNat)
  String.ofList ('b' :: q :: bs.flatMap (quoteByte q) ++ [q])

/-- How a code point stands between quotes `q`; it may be half of a character. -/
def quoteCode (q : Char) (n : Nat) : List Char :=
  if isHalf n then '\\' :: 'u' :: hexDigits 4 n else quoteChar q (Char.ofNat n)

/-- Code points in quotes. -/
def codesWritten (codes : List Nat) : String :=
  let q := quoteFor (codes.map shownChar)
  String.ofList (q :: codes.flatMap (quoteCode q) ++ [q])

/-- The names of the flags of a pattern, without the alphabet that is taken by default. -/
def flagNames (f : Regex.Flags) : List String :=
  [(f.template, "re.TEMPLATE"), (f.ignoreCase, "re.IGNORECASE"),
    (f.multiline, "re.MULTILINE"), (f.dotAll, "re.DOTALL"),
   (f.verbose, "re.VERBOSE"), (f.ascii, "re.ASCII")].filterMap fun (on, name) => if on
     then some name else none

/-- The written form of a pattern. -/
def patternWritten (p : Regex.Pattern) : String :=
  let source := String.ofList ((quoted p.source).toList.take 200)
  match flagNames p.flags with
  | [] => "re.compile(" ++ source ++ ")"
  | names => "re.compile(" ++ source ++ ", " ++ "|".intercalate names ++ ")"

/-! ### Values -/

namespace Value

/-- A container that is left out because it is inside itself. -/
def elided : Value → String
  | .map _ => "\x7b...\x7d"
  | .tuple _ => "(...)"
  | .set _ => "set(...)"
  | .settings _ _ _ => "Settings(...)"
  | _ => "[...]"

mutual

/-- The written form of a value; `around` are the containers around it, the innermost
first. -/
def writtenIn (around : List Value) : Value → String
  | .null => "None"
  | .bool b => if b then "True" else "False"
  | .int n => toString n
  | .float x => Number.floatText x
  | .complex re im => Number.complexText re im
  | .text s => quoted s
  | .halves codes => codesWritten codes
  | .bytes bs => bytesWritten bs
  | .day d => d.written
  | .moment m => m.written
  | .list items => "[" ++ ", ".intercalate (writtenAll (.list [] :: around) items) ++ "]"
  | .tuple items =>
    match writtenAll (.tuple [] :: around) items with
    | [one] => "(" ++ one ++ ",)"
    | many => "(" ++ ", ".intercalate many ++ ")"
  | .map entries =>
      "\x7b" ++ ", ".intercalate (writtenEntries (.map [] :: around) entries) ++ "\x7d"
  | .set items =>
    match writtenAll (.set [] :: around) items with
    | [] => "set()"
    | many => "\x7b" ++ ", ".intercalate many ++ "\x7d"
  | .settings a b c =>
    "Settings(included=" ++ writtenIn (.null :: around) a ++ ", excluded=" ++
      writtenIn (.null :: around) b
      ++ ", allow_ignore=" ++ writtenIn (.null :: around) c ++ ")"
  | .xpath q => q.source
  | .regex p => patternWritten p
  | .object o => o.shown
  | .loop n => elided (around[n]?.getD .null)
termination_by structural v => v

def writtenAll (around : List Value) : List Value → List String
  | [] => []
  | v :: rest => writtenIn around v :: writtenAll around rest
termination_by structural vs => vs

def writtenEntries (around : List Value) : List (Value × Value) → List String
  | [] => []
  | e :: rest => writtenEntry around e :: writtenEntries around rest
termination_by structural es => es

def writtenEntry (around : List Value) : Value × Value → String
  | (k, v) => writtenIn around k ++ ": " ++ writtenIn around v
termination_by structural e => e

end

/-- The written form of a value. -/
def written (v : Value) : String := writtenIn [] v

/-- A value as it is shown in a message. -/
def shown : Value → String
  | .text s => s
  | .halves codes => String.ofList (joinHalves codes)
  | .day d => d.iso
  | .moment m => m.iso " "
  | v => v.written

/-! ### Integers with too many digits -/

mutual

/-- Whether a value holds an integer with too many digits to be written. -/
def isHuge : Value → Bool
  | .int n => Source.writtenLimit ≤ n.natAbs
  | .list items | .tuple items | .set items => anyHuge items
  | .map entries => anyHugeEntry entries
  | .settings a b c => isHuge a || isHuge b || isHuge c
  | _ => false
termination_by structural v => v

def anyHuge : List Value → Bool
  | [] => false
  | v :: rest => isHuge v || anyHuge rest
termination_by structural vs => vs

def anyHugeEntry : List (Value × Value) → Bool
  | [] => false
  | e :: rest => hugeEntry e || anyHugeEntry rest
termination_by structural es => es

def hugeEntry : Value × Value → Bool
  | (k, v) => isHuge k || isHuge v
termination_by structural e => e

end

/-- A value as it is shown in a message, unless an integer in it cannot be written. -/
def shown? (v : Value) : Except Fault String :=
  if v.isHuge then .error .hugeInteger else .ok v.shown

/-! ### Names of types -/

/-- The name of a value's type, with the module that it comes from. -/
def typeName : Value → String
  | .null => "NoneType"
  | .bool _ => "bool"
  | .int _ => "int"
  | .float _ => "float"
  | .complex _ _ => "complex"
  | .text _ | .halves _ => "str"
  | .bytes _ => "bytes"
  | .day _ => "datetime.date"
  | .moment _ => "datetime.datetime"
  | .list _ | .loop _ => "list"
  | .tuple _ => "tuple"
  | .map _ => "dict"
  | .set _ => "set"
  | .settings _ _ _ => "Settings"
  | .xpath _ => "lxml.etree.XPath"
  | .regex _ => "re.Pattern"
  | .object o => o.type

/-- The name of a value's type by itself. -/
def shortTypeName (v : Value) : String :=
  String.ofList (v.typeName.toList.reverse.takeWhile (· != '.')).reverse

end Value

end RuleLint
