/-
RuleLint/Source/Literal.lean

What numbers and strings in a source stand for.

A string token is a few letters, quotes and a body.  In the body of an ordinary string a
backslash escapes what follows; in a raw string it does not.  The body of a template is
cut into texts and fields (`Segment`); the expression of a field is kept as text here,
with its place, and is read by the grammar later.  A doubled brace stands for a brace.
The format of a field is a template again, whose own fields may have a format without
fields.
-/
import RuleLint.Number.Read
import RuleLint.Source.Tree
import RuleLint.Text.CharName

namespace RuleLint.Source

open RuleLint.Text RuleLint.Number

/-! ### Numbers -/

/-- The largest number of digits that are read as a number in ten digits. -/
def decimalLimit : Nat := 4300

/-- The value of digits in a base. -/
def natIn (base : Nat) (cs : List Char) : Nat :=
  cs.foldl (fun n c => base * n + (digitIn? base c).getD 0) 0

/-- What a number stands for; too long a number in ten digits stands for nothing. -/
def numberOf? (s : String) : Option Literal :=
  let cs := s.toList.filter (· != '_')
  match cs with
  | '0' :: c :: rest =>
    if c == 'x' || c == 'X' then some (.int (natIn 16 rest))
    else if c == 'o' || c == 'O' then some (.int (natIn 8 rest))
    else if c == 'b' || c == 'B' then some (.int (natIn 2 rest))
    else inTen cs
  | _ => inTen cs
where
  inTen (cs : List Char) : Option Literal :=
    match cs.getLast? with
    | some c =>
      if c == 'j' || c == 'J' then (readFloat? cs.dropLast).map .imaginary
      else if cs.all Char.isDigit then
        if cs.length > decimalLimit && cs.any (· != '0') then none
          else some (.int (decimalNat cs))
      else (readFloat? cs).map .float
    | none => none

/-! ### Strings -/

/-- A string token, taken apart. -/
structure StringToken where
  letters : List Char
  body : List Char
  /-- The place where the body starts. -/
  start : Place
deriving Repr

namespace StringToken

/-- Whether one of the letters is the given one, in either case. -/
def has (t : StringToken) (c : Char) : Bool := t.letters.any fun d => d.toLower == c

/-- Whether backslashes stand for themselves. -/
def isRaw (t : StringToken) : Bool := t.has 'r'

/-- Whether the string is one of bytes. -/
def isBytes (t : StringToken) : Bool := t.has 'b'

/-- Whether the string is a template. -/
def isTemplate (t : StringToken) : Bool := t.has 'f'

/-- Takes a string token apart. -/
def ofToken (t : Token) : StringToken :=
  let cs := t.text.toList
  let isLetter (c : Char) : Bool := c != '\'' && c != '"'
  let letters := cs.takeWhile isLetter
  let quoted := cs.dropWhile isLetter
  let width := match quoted with
    | q :: _ => if isLongQuote q quoted && quoted.length ≥ 6 then 3 else 1
    | [] => 0
  { letters
    body := (quoted.drop width).take (quoted.length - 2 * width)
    start := ⟨t.place.line, t.place.column + letters.length + width⟩ }

end StringToken

/-- Escapes of one character that texts and bytes have in common. -/
def simpleEscape? : Char → Option Nat
  | '\\' => some 92
  | '\'' => some 39
  | '"' => some 34
  | 'a' => some 7
  | 'b' => some 8
  | 'f' => some 12
  | 'n' => some 10
  | 'r' => some 13
  | 't' => some 9
  | 'v' => some 11
  | _ => none

/-- Whether a character is an octal digit. -/
def isOctalDigit (c : Char) : Bool := '0' ≤ c && c ≤ '7'

/-- Exactly so many hexadecimal digits and what is behind them. -/
def cutHex? (width : Nat) (cs : List Char) : Option (Nat × List Char) :=
  let ds := cs.take width
  if ds.length = width && ds.all fun c => (hexDigit? c).isSome
    then some (hexNat ds, cs.drop width) else none

/-- A name in braces and what is behind it. -/
def cutNamed? : List Char → Option (Nat × List Char)
  | '\x7b' :: rest =>
    match rest.dropWhile (· != '\x7d') with
    | _ :: after =>
        (charNamed? (String.ofList (rest.takeWhile (· != '\x7d')))).map (·, after)
    | [] => none
  | _ => none

/-- The code point of a numbered or named escape, behind its backslash. -/
def cutPoint? : List Char → Option (Nat × List Char)
  | 'x' :: rest => cutHex? 2 rest
  | 'u' :: rest => cutHex? 4 rest
  | 'U' :: rest => (cutHex? 8 rest).filter (·.1 < 0x110000)
  | 'N' :: rest => cutNamed? rest
  | _ => none

/-- The characters of a text with its escapes read; `n` bounds the steps. -/
def textPoints : Nat → List Char → Option (List Nat)
  | 0, _ => some []
  | _, [] => some []
  | n + 1, '\\' :: rest =>
    match rest with
    | [] => some [92]
    | '\n' :: more => textPoints n more
    | c :: more =>
      match simpleEscape? c with
      | some k => (textPoints n more).map (k :: ·)
      | none =>
        if isOctalDigit c then
          let ds := (rest.take 3).takeWhile isOctalDigit
          (textPoints n (rest.drop ds.length)).map (natIn 8 ds :: ·)
        else if c == 'x' || c == 'u' || c == 'U' || c == 'N' then
          match cutPoint? rest with
          | some (k, after) => (textPoints n after).map (k :: ·)
          | none => none
        else (textPoints n more).map (92 :: c.toNat :: ·)
  | n + 1, c :: rest => (textPoints n rest).map (c.toNat :: ·)

/-- The bytes of a string of bytes with its escapes read; `n` bounds the steps. -/
def byteValues : Nat → List Char → Option (List Nat)
  | 0, _ => some []
  | _, [] => some []
  | n + 1, '\\' :: rest =>
    match rest with
    | [] => some [92]
    | '\n' :: more => byteValues n more
    | c :: more =>
      match simpleEscape? c with
      | some k => (byteValues n more).map (k :: ·)
      | none =>
        if isOctalDigit c then
          let ds := (rest.take 3).takeWhile isOctalDigit
          (byteValues n (rest.drop ds.length)).map (natIn 8 ds % 256 :: ·)
        else if c == 'x' then
          match cutHex? 2 more with
          | some (k, after) => (byteValues n after).map (k :: ·)
          | none => none
        else (byteValues n more).map (92 :: c.toNat :: ·)
  | n + 1, c :: rest => (byteValues n rest).map (c.toNat :: ·)

/-- The characters of a text; escapes are read unless it is raw. -/
def pointsOf (raw : Bool) (cs : List Char) : Option (List Nat) :=
  if raw then some (cs.map Char.toNat) else textPoints cs.length cs

/-- The bytes of a string token; only plain characters may stand in it. -/
def StringToken.bytes? (t : StringToken) : Option (List Nat) :=
  if t.body.any (·.toNat ≥ 128) then none
  else if t.isRaw then some (t.body.map Char.toNat) else byteValues t.body.length t.body

/-! ### Templates -/

/-- A part of a template. -/
inductive Segment where
  | text (points : List Nat)
  /-- A field: its expression with the place of its brace, the conversion, and the
  format if there is one. -/
  | field (expression : List Char) (start : Place) (conversion : Int)
      (format : Option (List Segment))

/-- A bracket in the expression of a field, or the quotes of a string in it. -/
structure FieldScan where
  /-- The brackets that are open, the innermost first. -/
  brackets : List Char
  /-- The string that is open: its quote, and whether it is written three times. -/
  string : Option (Char × Bool)

/-- Whether two more quotes follow. -/
def twoMore (q : Char) : List Char → Bool
  | a :: b :: _ => a == q && b == q
  | _ => false

/-- The number of characters of the expression of a field.  No backslash may be in it,
and no mark of a comment; `n` bounds the steps. -/
def fieldLength : Nat → FieldScan → List Char → Option Nat
  | 0, _, _ => none
  | _, _, [] => none
  | n + 1, s, c :: rest =>
    if c == '\\' then none
    else match s.string with
      | some (q, long) =>
        if c == q then
          if !long then (fieldLength n { s with string := none } rest).map (· + 1)
          else if twoMore q rest
            then (fieldLength n { s with string := none } (rest.drop 2)).map (· + 3)
          else (fieldLength n s rest).map (· + 1)
        else (fieldLength n s rest).map (· + 1)
      | none =>
        if c == '\'' || c == '"' then
          if twoMore c rest
            then (fieldLength n { s with string := some (c, true) } (rest.drop 2)).map
            (· + 3)
          else (fieldLength n { s with string := some (c, false) } rest).map (· + 1)
        else match Lexer.closerOf c with
          | some closer =>
            if s.brackets.length ≥ bracketLimit then none
            else (fieldLength n { s with brackets := closer :: s.brackets } rest).map
              (· + 1)
          | none =>
            if c == '#' then none
            else if s.brackets.isEmpty && ['!', ':', '\x7d', '=', '>', '<'].contains c
              then
              if rest.head? == some '=' && ['!', '=', '<', '>'].contains c then
                (fieldLength n s (rest.drop 1)).map (· + 2)
              else if c == '>' || c == '<' then (fieldLength n s rest).map (· + 1)
              else some 0
            else if c == ')' || c == ']' || c == '\x7d' then
              match s.brackets with
              | due :: outer =>
                if due == c then (fieldLength n { s with brackets := outer } rest).map
                  (· + 1) else none
              | [] => none
            else (fieldLength n s rest).map (· + 1)

/-- The blanks that may stand around an expression. -/
def isFieldBlank (c : Char) : Bool := c == ' ' || c == '\t' || c == '\n' || c == '\x0c'

/-- The blanks that may stand behind an equals sign. -/
def isLabelBlank (c : Char) : Bool := isFieldBlank c || c == '\r' || c == '\x0b'

/-- How far the text at the front of a template goes: its length, and whether a doubled
brace ends it.  `top` says that the template is not a format. -/
def textLength (raw top : Bool) : Nat → List Char → Option (Nat × Bool)
  | 0, _ => some (0, false)
  | _, [] => some (0, false)
  | n + 1, '\\' :: c :: rest =>
    if raw then (textLength raw top n (c :: rest)).map fun (k, d) => (k + 1, d)
    else if c == 'N' then
      match rest with
      | '\x7b' :: more =>
        let name := (more.takeWhile (· != '\x7d')).length
        let closed := min 1 (more.length - name)
        (textLength raw top n (more.drop (name + closed))).map fun (k, d) =>
          (k + 3 + name + closed, d)
      | _ :: more => (textLength raw top n more).map fun (k, d) => (k + 3, d)
      | [] => some (2, false)
    else if c == '\x7b' || c == '\x7d' then (brace c rest).map fun (k, d) => (k + 1, d)
    else (textLength raw top n rest).map fun (k, d) => (k + 2, d)
  | n + 1, c :: rest =>
    if c == '\x7b' || c == '\x7d' then brace c rest
    else (textLength raw top n rest).map fun (k, d) => (k + 1, d)
where
  /-- A brace ends a text; a doubled one belongs to it, and a closing one must not stand
  alone. -/
  brace (c : Char) (rest : List Char) : Option (Nat × Bool) :=
    if !top then some (0, false)
    else if rest.head? == some c then some (1, true)
    else if c == '\x7d' then none
    else some (0, false)

/-- The conversion behind an exclamation mark and what is behind it. -/
def cutConversion? : List Char → Option (Int × List Char)
  | '!' :: c :: rest =>
      if c == 's' || c == 'r' || c == 'a' then some (c.toNat, rest) else none
  | '!' :: [] => none
  | cs => some (-1, cs)

/-- The segments of a template up to its end or, in a format, up to a closing brace;
with what is left and its place.  `level` is the number of levels that may still have
fields, and `n` bounds the steps. -/
def segments (raw : Bool) : Nat → Nat → Bool → List Char → Place →
    Option (List Segment × List Char × Place)
  | 0, _, _, cs, p => some ([], cs, p)
  | n + 1, level, top, cs, p => do
    let (k, doubled) ← textLength raw top cs.length cs
    let points ← pointsOf raw (cs.take k)
    let used := if doubled then k + 1 else k
    let p := Lexer.advance p (cs.take used)
    let cs := cs.drop used
    if doubled then
      let (more, rest) ← segments raw n level top cs p
      return (.text points :: more, rest)
    match cs with
    | '\x7b' :: inside =>
      if level = 0 then none
      let length ← fieldLength (inside.length + 1) ⟨[], none⟩ inside
      let expression := inside.take length
      if expression.all isFieldBlank then none
      let after := inside.drop length
      let labelled := after.head? == some '='
      let blanks := if labelled then ((after.drop 1).takeWhile isLabelBlank).length + 1
        else 0
      let label := if labelled
        then [Segment.text ((expression ++ after.take blanks).map Char.toNat)] else []
      let after := after.drop blanks
      let (conversion, behind) ← cutConversion? after
      let here := Lexer.advance p (cs.take (cs.length - behind.length))
      let (format, behind, here) ← match behind with
        | ':' :: spec => do
          if spec.isEmpty then none
          let (parts, rest, q) ← segments raw n (level - 1) false spec ⟨here.line,
            here.column + 1⟩
          pure (some parts, rest, q)
        | _ => pure (none, behind, here)
      match behind with
      | '\x7d' :: rest =>
        let conversion : Int := if labelled && format.isNone && conversion == -1
          then ('r'.toNat : Int) else conversion
        let (more, left) ← segments raw n level top rest ⟨here.line, here.column + 1⟩
        return (.text points :: label ++ .field expression p conversion format :: more,
          left)
      | _ => none
    | _ => return ([.text points], cs, p)

/-- The segments of a string token that is a template. -/
def StringToken.segments? (t : StringToken) : Option (List Segment) := do
  let (parts, rest, _) ← segments t.isRaw (t.body.length + 1) 2 true t.body t.start
  if rest.isEmpty then return parts else none

end RuleLint.Source
