/-
RuleLint/Yaml/Token.lean

The tokens of a document, and the cursor that walks over its characters.  Behind the
last character the cursor sees `'\x00'`, which stands in no document.  A line ends at a
line feed, a carriage return (with the line feed behind it, if there is one), U+0085,
U+2028 or U+2029; a byte order mark takes no column.
-/
import RuleLint.Yaml.Error

namespace RuleLint.Yaml

/-- A directive in front of a document. -/
inductive Directive where
  | version (major minor : Nat)
  | handle (name uri : String)
  | other (name : String)
deriving Repr, BEq, DecidableEq

/-- What a token is. -/
inductive TokenKind where
  | streamStart
  | streamEnd
  | directive (d : Directive)
  | documentStart
  | documentEnd
  | blockSequenceStart
  | blockMappingStart
  | blockEnd
  | flowSequenceStart
  | flowMappingStart
  | flowSequenceEnd
  | flowMappingEnd
  | key
  | value
  | blockEntry
  | flowEntry
  | alias (name : String)
  | anchor (name : String)
  | tag (handle : Option String) (suffix : String)
  | scalar (text : String) (plain : Bool)
  /-- A quoted scalar with halves of characters. -/
  | halves (codes : List Nat)
deriving Repr, BEq, DecidableEq

/-- How a token is called in messages. -/
def TokenKind.name : TokenKind → String
  | .streamStart => "<stream start>"
  | .streamEnd => "<stream end>"
  | .directive _ => "<directive>"
  | .documentStart => "<document start>"
  | .documentEnd => "<document end>"
  | .blockSequenceStart => "<block sequence start>"
  | .blockMappingStart => "<block mapping start>"
  | .blockEnd => "<block end>"
  | .flowSequenceStart => "["
  | .flowMappingStart => "\x7b"
  | .flowSequenceEnd => "]"
  | .flowMappingEnd => "\x7d"
  | .key => "?"
  | .value => ":"
  | .blockEntry => "-"
  | .flowEntry => ","
  | .alias _ => "<alias>"
  | .anchor _ => "<anchor>"
  | .tag _ _ => "<tag>"
  | .scalar _ _ | .halves _ => "<scalar>"

/-- A token with the places where it starts and ends. -/
structure Token where
  kind : TokenKind
  start : Mark
  stop : Mark
deriving Repr, BEq, DecidableEq

/-! ### The cursor -/

/-- A place in a document with the characters from there on. -/
structure Cursor where
  rest : List Char
  mark : Mark
deriving Repr, BEq, DecidableEq

namespace Cursor

/-- The cursor at the start of a document. -/
def ofChars (cs : List Char) : Cursor := ⟨cs, ⟨0, 0, 0⟩⟩

/-- The character `k` places on. -/
def peek (c : Cursor) (k : Nat := 0) : Char :=
  (c.rest[k]?).getD '\x00'

/-- Characters that end a line. -/
def isBreak (c : Char) : Bool :=
  c == '\n' || c == '\r' || c == '\u0085' || c == '\u2028' || c == '\u2029'

/-- The end of the document, or a character that ends a line. -/
def isEnd (c : Char) : Bool :=
  c == '\x00' || isBreak c

/-- The end of a line or of the document, or a space. -/
def isSpaceOrEnd (c : Char) : Bool :=
  c == ' ' || isEnd c

/-- The end of a line or of the document, a space or a tab. -/
def isBlankOrEnd (c : Char) : Bool :=
  c == '\t' || isSpaceOrEnd c

/-- One character on. -/
def next (c : Cursor) : Cursor :=
  match c.rest with
  | [] => c
  | ch :: rest =>
    let m := c.mark
    let ends := (isBreak ch && ch != '\r') || (ch == '\r' && rest.head? != some '\n')
    ⟨rest, ⟨m.index + 1, if ends then m.line + 1 else m.line,
      if ends then 0 else if ch == '\ufeff' then m.column else m.column + 1⟩⟩

/-- Some characters on. -/
def skip (c : Cursor) : Nat → Cursor
  | 0 => c
  | n + 1 => c.next.skip n

/-- The number of characters in front that satisfy a test. -/
def count (c : Cursor) (test : Char → Bool) : Nat :=
  (c.rest.takeWhile test).length

/-- Behind the characters in front that satisfy a test. -/
def skipWhile (c : Cursor) (test : Char → Bool) : Cursor :=
  c.skip (c.count test)

/-- The characters in front that satisfy a test. -/
def taken (c : Cursor) (test : Char → Bool) : List Char :=
  c.rest.takeWhile test

/-- A line break in front, as it counts in a text, and what is behind it. -/
def lineBreak? (c : Cursor) : Option (Char × Cursor) :=
  let ch := c.peek
  if ch == '\r' && c.peek 1 == '\n' then some ('\n', c.skip 2)
  else if ch == '\r' || ch == '\n' || ch == '\u0085' then some ('\n', c.next)
  else if ch == '\u2028' || ch == '\u2029' then some (ch, c.next)
  else none

/-- Whether three dashes or three dots that stand by themselves are in front. -/
def atSeparator (c : Cursor) : Bool :=
  (c.rest.take 3 == ['-', '-', '-'] || c.rest.take 3 == ['.', '.', '.']) &&
    isBlankOrEnd (c.peek 3)

end Cursor

end RuleLint.Yaml
