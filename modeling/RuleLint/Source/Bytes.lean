/-
RuleLint/Source/Bytes.lean

Sources that are given as bytes.  A comment in one of the first two lines may name
the encoding; the second line counts only if nothing but a comment stands in the
first one.  Without such a comment the bytes are UTF-8.  They are then looked at
token by token, so bytes that are no text do no harm in a comment.

Among characters, zero stands for a byte that is no text: a source with the byte
zero is refused before.
-/
import RuleLint.Host.Basic

namespace RuleLint.Source

/-! ### The encoding -/

/-- Bytes as characters, one for each. -/
def byteChars (bs : List UInt8) : List Char :=
  bs.map fun b => Char.ofNat b.toNat

/-- Blanks that may stand in front of a comment. -/
def isMargin (c : Char) : Bool :=
  c == ' ' || c == '\t' || c == '\x0c'

/-- Characters of the name of an encoding. -/
def isEncodingChar (c : Char) : Bool :=
  c.isAlphanum || c == '-' || c == '_' || c == '.'

/-- The name behind the word `coding` in front, if a colon or an equals sign is
between them. -/
def codingAhead (cs : List Char) : List Char :=
  if "coding".toList.isPrefixOf cs then
    match cs.drop 6 with
    | ':' :: rest | '=' :: rest =>
      (rest.dropWhile fun c => c == ' ' || c == '\t').takeWhile isEncodingChar
    | _ => []
  else []

/-- The first such name in a comment. -/
def codingIn : List Char → Option (List Char)
  | [] => none
  | c :: rest =>
    match codingAhead (c :: rest) with
    | [] => codingIn rest
    | name => some name

/-- The encoding that a line names. -/
def codingOfLine (line : List Char) : Option (List Char) :=
  match line.dropWhile isMargin with
  | '#' :: comment => codingIn comment
  | _ => none

/-- Whether nothing but a comment stands in a line. -/
def isSilentLine (line : List Char) : Bool :=
  match line.dropWhile isMargin with
  | [] | '#' :: _ => true
  | _ => false

/-- Whether a name is another one, or begins with it and a dash. -/
def isVariant (name base : List Char) : Bool :=
  name == base || (base ++ ['-']).isPrefixOf name

/-- The name of an encoding, with one name for each of the two best known. -/
def encodingName (name : List Char) : String :=
  let short := (name.take 12).map fun c => if c == '_' then '-' else c.toLower
  if isVariant short "utf-8".toList then "utf-8"
  else if ["latin-1", "iso-8859-1", "iso-latin-1"].any fun s =>
    isVariant short s.toList then
    "iso-8859-1"
  else String.ofList name

/-- The encoding that a source names. -/
def encodingOf? (cs : List Char) : Option String :=
  let first := cs.takeWhile (· != '\n')
  let second := (cs.drop (first.length + 1)).takeWhile (· != '\n')
  let name := match codingOfLine first with
    | some name => some name
    | none => if isSilentLine first then codingOfLine second else none
  name.map encodingName

/-! ### Bytes -/

/-- The bytes of a source behind the mark of UTF-8, if there is one. -/
def behindMark? : List UInt8 → Option (List UInt8)
  | 0xef :: 0xbb :: 0xbf :: rest => some rest
  | _ => none

/-- Decodes UTF-8 and puts zeros in place of what is no text; `n` bounds the number
of such places. -/
def decodeLoose : Nat → List UInt8 → List Char
  | 0, _ => []
  | n + 1, bs =>
    match Text.decodeUtf8 bs with
    | .ok cs => cs
    | .error e =>
      decodeLoose n (bs.take e.start) ++ List.replicate (e.stop - e.start) '\x00'
        ++ decodeLoose n (bs.drop e.stop)

variable [Host]

/-- The text of bytes in an encoding. -/
def decodeAs (encoding : String) (bs : List UInt8) : Option (List Char) :=
  if encoding = "iso-8859-1" then some (byteChars bs) else Host.decode encoding bs

/-- The syntax tree of UTF-8: no token may hold a byte that is no text. -/
def Tree.ofUtf8 (bs : List UInt8) : Except SourceFault Tree :=
  let cs := decodeLoose (bs.length + 1) bs
  if (tokensOf cs).list.any fun t => t.text.toList.contains '\x00'
    then .error (.bad .invalid)
  else Tree.ofChars cs

/-- The syntax tree of bytes. -/
def Tree.ofBytes (bs : List UInt8) : Except SourceFault Tree :=
  if bs.contains 0 then .error .zeroByte
  else
    let body := (behindMark? bs).getD bs
    match encodingOf? (Text.unixNewlines (byteChars body)) with
    | none | some "utf-8" => Tree.ofUtf8 body
    | some encoding =>
      if (behindMark? bs).isSome then .error (.bad .invalid)
      else match decodeAs encoding body with
        | some cs => Tree.ofChars cs
        | none => .error (.bad .invalid)

end RuleLint.Source
