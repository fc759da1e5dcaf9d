/-
RuleLint/Text/Fields.lean

Texts with fields in braces, which a text is put in place of.  A field is numbered by
its order or by the number in it; a brace that is meant as such is written twice.  There
is one text to put in, the one with the number zero.

Behind its number a field may ask for a part of the text, then for a conversion of it,
and last for a style: a width to fill and a length to cut at.  A style may itself hold
fields, but these hold no further ones.
-/
import RuleLint.Text.Quoted
import RuleLint.Text.Word

namespace RuleLint.Text

/-- What can be wrong with a text with fields. -/
inductive FieldError where
  | loneClose
  | loneOpen
  | openInName
  | unclosed
  /-- There is no text with a number. -/
  | outOfRange (index : Nat)
  /-- There is no text with a name. -/
  | unknownName (name : String)
  /-- Fields by order follow fields by number. -/
  | orderAfterNumber
  /-- Fields by number follow fields by order. -/
  | numberAfterOrder
  | noConversion
  | colonExpected
  | unknownConversion (c : Char)
  | openInStyle
  | tooDeep
  | emptyAttribute
  /-- A text does not have what is asked of it. -/
  | noAttribute (name : String)
  | openBracket
  | behindBracket
  /-- A character is asked for by a word. -/
  | notIndex
  /-- A character is asked for that the text does not have. -/
  | noCharacter
  | badStyle (style : String)
  /-- A style is meant for something else than a text. -/
  | unknownCode (c : Char)
deriving Repr, BEq

/-- The words for an error. -/
def FieldError.message : FieldError → String
  | .loneClose => "Single '\x7d' encountered in format string"
  | .loneOpen => "Single '\x7b' encountered in format string"
  | .openInName => "unexpected '\x7b' in field name"
  | .unclosed => "expected '\x7d' before end of string"
  | .outOfRange index =>
      "Replacement index " ++ toString index ++ " out of range for positional args tuple"
  | .unknownName name => quoted name
  | .orderAfterNumber =>
      "cannot switch from manual field specification to automatic field numbering"
  | .numberAfterOrder =>
      "cannot switch from automatic field numbering to manual field specification"
  | .noConversion => "end of string while looking for conversion specifier"
  | .colonExpected => "expected ':' after conversion specifier"
  | .unknownConversion c => "Unknown conversion specifier " ++ codeText c
  | .openInStyle => "unmatched '\x7b' in format spec"
  | .tooDeep => "Max string recursion exceeded"
  | .emptyAttribute => "Empty attribute in format string"
  | .noAttribute name => "'str' object has no attribute " ++ quoted name
  | .openBracket => "Missing ']' in format string"
  | .behindBracket => "Only '.' or '[' may follow ']' in format field specifier"
  | .notIndex => "string indices must be integers, not 'str'"
  | .noCharacter => "string index out of range"
  | .badStyle style =>
      "Invalid format specifier '" ++ style ++ "' for object of type 'str'"
  | .unknownCode c =>
      "Unknown format code '" ++ codeText c ++ "' for object of type 'str'"
where
  /-- A character, or its code if it is no ASCII character that can be seen. -/
  codeText (c : Char) : String :=
    if 32 < c.toNat ∧ c.toNat < 127 then String.ofList [c]
    else String.ofList ('\\' :: 'x' :: Nat.toDigits 16 c.toNat)

/-- How fields have been numbered so far. -/
inductive Numbering where
  | undecided
  | byOrder (next : Nat)
  | byNumber

/-! ### The parts of a field -/

/-- A field as it is written: its name, the conversion, and the style. -/
structure FieldParts where
  name : List Char
  conversion : Option Char
  style : List Char

/-- The number of characters of a name.  In brackets a name may hold any character. -/
def fieldNameLength (inBrackets : Bool) : List Char → Nat
  | [] => 0
  | c :: rest =>
    if inBrackets then 1 + fieldNameLength (c != ']') rest
    else if c == '\x7b' || c == '\x7d' || c == ':' || c == '!' then 0
    else 1 + fieldNameLength (c == '[') rest

/-- The number of characters of a style up to the brace that closes its field; `depth`
counts the braces open in it. -/
def styleLength? (depth : Nat) : List Char → Option Nat
  | [] => none
  | c :: rest =>
    if c == '\x7b' then (styleLength? (depth + 1) rest).map (· + 1)
    else if c == '\x7d' then
      match depth with
      | 0 => some 0
      | d + 1 => (styleLength? d rest).map (· + 1)
    else (styleLength? depth rest).map (· + 1)

/-- A style, and what stands behind the field. -/
def cutStyle (name : List Char) (conversion : Option Char) (cs : List Char) :
    Except FieldError (FieldParts × List Char) :=
  match styleLength? 0 cs with
  | none => .error .openInStyle
  | some k => .ok (⟨name, conversion, cs.take k⟩, cs.drop (k + 1))

/-- The parts of a field behind its brace, and what stands behind the field. -/
def cutField (cs : List Char) : Except FieldError (FieldParts × List Char) :=
  let name := cs.take (fieldNameLength false cs)
  match cs.drop name.length with
  | [] => .error .unclosed
  | '\x7d' :: rest => .ok (⟨name, none, []⟩, rest)
  | ':' :: rest => cutStyle name none rest
  | '!' :: [] => .error .noConversion
  | '!' :: c :: '\x7d' :: rest => .ok (⟨name, some c, []⟩, rest)
  | '!' :: c :: ':' :: rest => cutStyle name (some c) rest
  | '!' :: _ :: [] => .error .openInStyle
  | '!' :: _ :: _ => .error .colonExpected
  | _ => .error .openInName

/-! ### What a field stands for -/

/-- A number in decimal digits of any script. -/
def indexOf? (cs : List Char) : Option Nat :=
  if cs.isEmpty || !cs.all isDecimal then none
  else some (cs.foldl (fun n c => 10 * n + (digitValue? c).getD 0) 0)

/-- The text with the number or name at the front of a field. -/
def argumentOf (numbering : Numbering) (name : List Char) (arg : List Char) :
    Except FieldError (List Char × Numbering) :=
  let pick (index : Nat) (next : Numbering) : Except FieldError (List Char × Numbering) :=
    if index = 0 then .ok (arg, next) else .error (.outOfRange index)
  if name.isEmpty then match numbering with
    | .undecided => pick 0 (.byOrder 1)
    | .byOrder n => pick n (.byOrder (n + 1))
    | .byNumber => .error .orderAfterNumber
  else match indexOf? name with
    | some k => match numbering with
      | .byOrder _ => .error .numberAfterOrder
      | _ => pick k .byNumber
    | none => .error (.unknownName (String.ofList name))

/-- The part of a text that the rest of a name asks for: characters by number.  `n`
bounds the steps. -/
def partOf (text : List Char) : Nat → List Char → Except FieldError (List Char)
  | 0, _ => .ok text
  | _, [] => .ok text
  | n + 1, c :: rest =>
    if c == '.' then
      let name := rest.takeWhile fun d => d != '.' && d != '['
      .error (if name.isEmpty then .emptyAttribute else .noAttribute (String.ofList name))
    else if c == '[' then
      let key := rest.takeWhile (· != ']')
      if key.length = rest.length then .error .openBracket
      else if key.isEmpty then .error .emptyAttribute
      else match indexOf? key with
        | none => .error .notIndex
        | some k => match text[k]? with
          | none => .error .noCharacter
          | some d => partOf [d] n (rest.drop (key.length + 1))
    else .error .behindBracket

/-- The text for the name of a field. -/
def namedText (numbering : Numbering) (name : List Char) (arg : List Char) :
    Except FieldError (List Char × Numbering) := do
  let first := name.takeWhile fun c => c != '.' && c != '['
  let (text, numbering) ← argumentOf numbering first arg
  return (← partOf text name.length (name.drop first.length), numbering)

/-- A converted text: as it is, or set in quotes. -/
def converted (conversion : Option Char) (text : List Char) :
    Except FieldError (List Char) :=
  match conversion with
  | none | some 's' => .ok text
  | some 'r' | some 'a' => .ok (quoted (String.ofList text)).toList
  | some c => .error (.unknownConversion c)

/-- A text in a style: filled up to a width on one side or on both, and cut at a
length. -/
def styled (style text : List Char) : Except FieldError (List Char) :=
  let isSide (c : Char) : Bool := c == '<' || c == '>' || c == '^'
  let (filler, side, rest) : Char × Char × List Char := match style with
    | f :: s :: rest =>
        if isSide s then (f, s, rest) else if isSide f then (' ', f, s :: rest)
          else (' ', '<', style)
    | [s] => if isSide s then (' ', s, []) else (' ', '<', style)
    | [] => (' ', '<', [])
  let width := rest.takeWhile Char.isDigit
  let rest := rest.drop width.length
  let (length, rest) := match rest with
    | '.' :: more => (indexOf? (more.takeWhile Char.isDigit), more.dropWhile Char.isDigit)
    | _ => (none, rest)
  let fill (text : List Char) : List Char :=
    let missing := (indexOf? width).getD 0 - text.length
    match side with
    | '>' => List.replicate missing filler ++ text
    | '^' =>
        List.replicate (missing / 2) filler ++ text ++
          List.replicate (missing - missing / 2) filler
    | _ => text ++ List.replicate missing filler
  match rest with
  | [] | ['s'] => .ok (fill (match length with
    | some k => text.take k
    | none => text))
  | [c] => .error (.unknownCode c)
  | _ => .error (.badStyle (String.ofList style))

/-! ### Texts with fields -/

/-- Puts a text in place of the fields of another.  `depth` is the number of levels that
may have fields, and `n` bounds the number of pieces. -/
def putFrom (arg : List Char) : Nat → Nat → Numbering → List Char →
    Except FieldError (List Char × Numbering)
  | 0, _, numbering, _ => .ok ([], numbering)
  | n + 1, depth, numbering, cs =>
    if depth = 0 then .error .tooDeep
    else
      let plain := cs.takeWhile fun c => c != '\x7b' && c != '\x7d'
      match cs.drop plain.length with
      | [] => .ok (plain, numbering)
      | '\x7b' :: '\x7b' :: rest => do
        let (text, numbering) ← putFrom arg n depth numbering rest
        return (plain ++ '\x7b' :: text, numbering)
      | '\x7d' :: '\x7d' :: rest => do
        let (text, numbering) ← putFrom arg n depth numbering rest
        return (plain ++ '\x7d' :: text, numbering)
      | ['\x7b'] => .error .loneOpen
      | '\x7b' :: rest => do
        let (field, behind) ← cutField rest
        let (text, numbering) ← namedText numbering field.name arg
        let text ← converted field.conversion text
        let (style, numbering) ←
          if field.style.contains '\x7b'
            then putFrom arg n (depth - 1) numbering field.style
          else pure (field.style, numbering)
        let text ← styled style text
        let (more, numbering) ← putFrom arg n depth numbering behind
        return (plain ++ text ++ more, numbering)
      | _ => .error .loneClose

/-- A text with another put in place of its fields. -/
def putInFields (template arg : String) : Except FieldError String := do
  let (text, _) ← putFrom arg.toList (template.length + 1) 2 .undecided template.toList
  return String.ofList text

end RuleLint.Text
