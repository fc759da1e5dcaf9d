/-
RuleLint/Source/Token.lean

The tokens of a source.  A source is cut into names, reserved words, numbers, strings
and signs; the ends of lines and the changes of indentation outside of brackets are
tokens as well.  Columns count bytes.

Blanks in front of a line are measured twice, with tabs to multiples of eight and with
tabs as one: a source whose blocks depend on the width of a tab is refused.  The lexer
stops at the first fault.  Some faults are only noticed by a reader that comes to them;
a fault that is `loud` is told even if the reader has already met another problem.
-/
import RuleLint.Source.Ignored
import RuleLint.Text.Identifier
import RuleLint.Text.Printable

namespace RuleLint.Source

open RuleLint.Text

/-- The kinds of tokens. -/
inductive TokenKind where
  | name
  /-- A reserved word. -/
  | word
  | number
  | string
  | sign
  | newline
  | indent
  | dedent
  | finish
deriving Repr, BEq, DecidableEq

/-- A place in a source: the line from one, the column in bytes from zero. -/
structure Place where
  line : Nat
  column : Nat
deriving Repr, BEq, DecidableEq

/-- A token with its text and its place. -/
structure Token where
  kind : TokenKind
  text : String
  place : Place
deriving Repr, BEq, DecidableEq

/-- Why a source is refused. -/
inductive SyntaxFault where
  /-- The text is no program. -/
  | invalid
  /-- The blocks of the text are wrong. -/
  | indentation
  /-- The blocks of the text depend on the width of a tab. -/
  | tabs
deriving Repr, BEq, DecidableEq

/-- Why the lexer stops, and whether the fault is told in any case. -/
structure LexFault where
  fault : SyntaxFault
  loud : Bool
deriving Repr, BEq, DecidableEq

/-- The tokens of a source up to a fault. -/
structure Tokens where
  list : Array Token
  fault : Option LexFault
deriving Repr

/-- The reserved words. -/
def reservedWords : List String :=
  ["False", "None", "True", "and", "as", "assert", "async", "await", "break", "class",
    "continue", "def", "del", "elif",
   "else", "except", "finally", "for", "from", "global", "if", "import", "in", "is",
     "lambda", "nonlocal", "not", "or",
   "pass", "raise", "return", "try", "while", "with", "yield"]

/-- The deepest nesting of brackets. -/
def bracketLimit : Nat := 200

/-- The deepest nesting of blocks, counting the outermost one. -/
def blockLimit : Nat := 100

namespace Lexer

/-- A fault that is told in any case. -/
def loud : LexFault := ⟨.invalid, true⟩

/-- A fault that is told when it is met. -/
def quiet (f : SyntaxFault) : LexFault := ⟨f, false⟩

/-! ### Names and numbers -/

/-- Whether a character may start a name, for all that the lexer looks at. -/
def startsName (c : Char) : Bool := c.isAlpha || c == '_' || c.toNat ≥ 128

/-- Whether a character may go on with a name, for all that the lexer looks at. -/
def continuesName (c : Char) : Bool := startsName c || c.isDigit

/-- Whether a number may end in front of a text: a name may not follow, but some words
may. -/
def endsNumber (cs : List Char) : Bool :=
  match cs with
  | [] => true
  | c :: _ =>
    !continuesName c || ["and", "else", "for", "if", "in", "is", "or", "not"].any fun w =>
      w.toList.isPrefixOf cs

/-- Behind a number that ends here. -/
def endNumber (cs : List Char) : Except LexFault (List Char) :=
  if endsNumber cs then .ok cs else .error loud

/-- Behind the digits of a number; an underscore has a digit behind it. -/
def skipDigits : List Char → Except LexFault (List Char)
  | '_' :: d :: rest => if d.isDigit then skipDigits rest else .error loud
  | ['_'] => .error loud
  | d :: rest => if d.isDigit then skipDigits rest else .ok (d :: rest)
  | [] => .ok []

/-- Behind digits of a base; there is at least one, and an underscore has one behind
it. -/
def skipBased (isDigit : Char → Bool) : List Char → Except LexFault (List Char)
  | '_' :: d :: rest => if isDigit d then more rest else .error loud
  | d :: rest => if isDigit d then more rest else .error loud
  | [] => .error loud
where
  more : List Char → Except LexFault (List Char)
    | '_' :: d :: rest => if isDigit d then more rest else .error loud
    | ['_'] => .error loud
    | d :: rest =>
      if isDigit d then more rest else if d.isDigit then .error loud
        else endNumber (d :: rest)
    | [] => .ok []

/-- Behind the letter of an imaginary number, if there is one. -/
def skipUnit (cs : List Char) : Except LexFault (List Char) :=
  match cs with
  | c :: rest => if c == 'j' || c == 'J' then endNumber rest else endNumber cs
  | [] => .ok []

/-- Behind an exponent, if there is one.  A letter without digits is not part of the
number. -/
def skipExponent (cs : List Char) : Except LexFault (List Char) :=
  match cs with
  | e :: rest =>
    if e == 'e' || e == 'E' then
      match rest with
      | s :: d :: more =>
        if s == '+' || s == '-' then
          if d.isDigit then do skipUnit (← skipDigits more) else .error loud
        else if s.isDigit then do skipUnit (← skipDigits (d :: more))
        else endNumber cs
      | [s] =>
          if s == '+' || s == '-' then .error loud else if s.isDigit then .ok []
            else endNumber cs
      | [] => endNumber cs
    else skipUnit cs
  | [] => .ok []

/-- Behind a fraction, whose point is already taken. -/
def skipFraction (cs : List Char) : Except LexFault (List Char) :=
  match cs with
  | d :: rest =>
      if d.isDigit then do skipExponent (← skipDigits rest) else skipExponent cs
  | [] => .ok []

/-- Behind the digits in front of a point. -/
def skipWhole (cs : List Char) : Except LexFault (List Char) :=
  match cs with
  | '.' :: rest => skipFraction rest
  | cs => skipExponent cs

/-- Zeros with single underscores between them. -/
def skipZeros : List Char → Except LexFault (List Char)
  | '_' :: d :: rest =>
      if d == '0' then skipZeros rest else if d.isDigit then .ok (d :: rest)
        else .error loud
  | ['_'] => .error loud
  | '0' :: rest => skipZeros rest
  | cs => .ok cs

/-- Whether a number goes on as one that is not whole. -/
def isBroken : List Char → Bool
  | c :: _ => c == '.' || c == 'e' || c == 'E' || c == 'j' || c == 'J'
  | [] => false

/-- Behind a number that starts with zero, which is already taken. -/
def skipZero (cs : List Char) : Except LexFault (List Char) :=
  match cs with
  | c :: rest =>
    if c == 'x' || c == 'X' then skipBased (fun d => (hexDigit? d).isSome) rest
    else if c == 'o' || c == 'O' then skipBased (fun d => '0' ≤ d && d ≤ '7') rest
    else if c == 'b' || c == 'B' then skipBased (fun d => d == '0' || d == '1') rest
    else do
      let zeros ← skipZeros cs
      match zeros with
      | d :: more =>
        if d.isDigit then
          let tail ← skipDigits more
          if isBroken tail then skipWhole tail else .error loud
        else skipWhole zeros
      | [] => .ok []
  | [] => .ok []

/-- Behind a number. -/
def skipNumber (cs : List Char) : Except LexFault (List Char) :=
  match cs with
  | '0' :: rest => skipZero rest
  | '.' :: rest => skipFraction rest
  | _ :: rest => do skipWhole (← skipDigits rest)
  | [] => .ok []

/-- The characters that a number and the words behind it are looked for in; `sign` says
that a sign may come. -/
def numberRun (sign : Bool) : List Char → List Char
  | [] => []
  | c :: rest =>
    if continuesName c || c == '.' || (sign && (c == '+' || c == '-'))
      then c :: numberRun (c == 'e' || c == 'E') rest else []

/-! ### Strings -/

/-- The number of characters up to the end of a string, behind its opening quotes. -/
def stringLength (quote : Char) (long : Bool) : List Char → Option Nat
  | [] => none
  | '\\' :: _ :: rest => (stringLength quote long rest).map (· + 2)
  | c :: rest =>
    if c == quote then
      if !long then some 1
      else match rest with
        | d :: e :: _ =>
            if d == quote && e == quote then some 3
              else (stringLength quote long rest).map (· + 1)
        | _ => none
    else if c == '\n' && !long then none
    else (stringLength quote long rest).map (· + 1)

/-- The number of characters of a string with its letters and quotes. -/
def wholeStringLength? (letters : Nat) (quote : Char) (cs : List Char) : Option Nat :=
  let body := cs.drop letters
  if isLongQuote quote body
    then (stringLength quote true (body.drop 3)).map (· + letters + 3)
  else (stringLength quote false (body.drop 1)).map (· + letters + 1)

/-! ### Signs -/

/-- Signs of three characters. -/
def longSigns : List String := ["**=", "...", "//=", "<<=", ">>="]

/-- Signs of two characters. -/
def doubleSigns : List String :=
  ["!=", "%=", "&=", "**", "*=", "+=", "-=", "->", "//", "/=", ":=", "<<", "<=", "<>",
    "==", ">=", ">>", "@=", "^=", "|="]

/-- The number of characters of a sign. -/
def signLength (cs : List Char) : Nat :=
  if longSigns.contains (String.ofList (cs.take 3)) then 3
  else if doubleSigns.contains (String.ofList (cs.take 2)) then 2
  else 1

/-- The bracket that closes another. -/
def closerOf (c : Char) : Option Char :=
  match c with
  | '(' => some ')'
  | '[' => some ']'
  | '\x7b' => some '\x7d'
  | _ => none

/-! ### The lexer -/

/-- What the lexer knows. -/
structure State where
  rest : List Char
  place : Place
  /-- The closing brackets that are due, the innermost first. -/
  brackets : List Char
  /-- The widths of the open blocks, measured both ways, the innermost first. -/
  blocks : List (Nat × Nat)
  tokens : Array Token

/-- The place behind some characters. -/
def advance (p : Place) (cs : List Char) : Place :=
  cs.foldl (fun p c => if c == '\n' then ⟨p.line + 1, 0⟩
    else ⟨p.line, p.column + c.utf8Size⟩) p

/-- Skips characters. -/
def State.skip (s : State) (n : Nat) : State :=
  { s with rest := s.rest.drop n, place := advance s.place (s.rest.take n) }

/-- Adds a token without text. -/
def State.mark (s : State) (k : TokenKind) : State :=
  { s with tokens := s.tokens.push ⟨k, "", s.place⟩ }

/-- Takes a token. -/
def State.take (s : State) (k : TokenKind) (n : Nat) : State :=
  { s.skip n with tokens := s.tokens.push ⟨k, String.ofList (s.rest.take n), s.place⟩ }

/-- The blanks in front of a line. -/
structure Margin where
  /-- The width with tabs to multiples of eight. -/
  width : Nat
  /-- The width with tabs as one. -/
  narrow : Nat
  /-- The width in front of the first backslash, zero if there is none. -/
  joined : Nat
  /-- The number of characters. -/
  length : Nat

/-- Measures the blanks in front of a line. -/
def measure (m : Margin) : List Char → Except LexFault Margin
  | ' ' :: rest =>
      measure { m with
        width := m.width + 1
        narrow := m.narrow + 1
        length := m.length + 1 } rest
  | '\t' :: rest =>
      measure { m with
        width := (m.width / 8 + 1) * 8
        narrow := m.narrow + 1
        length := m.length + 1 } rest
  | '\x0c' :: rest =>
      measure { m with width := 0, narrow := 0, length := m.length + 1 } rest
  | ['\\', '\n'] => .error (quiet .invalid)
  | '\\' :: '\n' :: rest =>
      measure { m with
        joined := if m.joined = 0 then m.width else m.joined
        length := m.length + 2 } rest
  | '\\' :: _ => .error (quiet .invalid)
  | _ => .ok m

/-- Opens or closes blocks for a line with the given widths. -/
def State.setBlocks (s : State) (w v : Nat) : Except LexFault State :=
  match s.blocks with
  | [] => .ok s
  | (top, other) :: outer =>
    if w = top then
      if v = other then .ok s else .error (quiet .tabs)
    else if top < w then
      if s.blocks.length ≥ blockLimit then .error (quiet .indentation)
      else if v ≤ other then .error (quiet .tabs)
      else .ok ({ s with blocks := (w, v) :: s.blocks }.mark .indent)
    else close ((top, other) :: outer) s
where
  /-- Closes the blocks that are wider than the line. -/
  close : List (Nat × Nat) → State → Except LexFault State
    | (top, other) :: outer, s =>
      if w < top then close outer (s.mark .dedent)
      else if w ≠ top then .error (quiet .indentation)
      else if v ≠ other then .error (quiet .tabs)
      else .ok { s with blocks := (top, other) :: outer }
    | [], s => .ok s

/-- The number of characters of a comment. -/
def commentLength (cs : List Char) : Nat := (cs.takeWhile (· != '\n')).length

/-- Takes the token in front, which is neither blank nor the end of a line. -/
def State.takeToken (s : State) : Except LexFault State :=
  match s.rest with
  | [] => .ok s
  | c :: more =>
    match stringStart? s.rest with
    | some (letters, quote) =>
      match wholeStringLength? letters quote s.rest with
      | some n => .ok (s.take .string n)
      | none => .error loud
    | none =>
      if startsName c then
        let name := s.rest.takeWhile continuesName
        if name.all (·.toNat < 128) || isName name then
          .ok (s.take (if reservedWords.contains (String.ofList name) then .word
            else .name) name.length)
        else .error loud
      else if c.isDigit || (c == '.' && (more.head?.map Char.isDigit).getD false) then do
        let around := numberRun false s.rest
        let after ← skipNumber around
        return s.take .number (around.length - after.length)
      else
        let n := signLength s.rest
        if n > 1 then .ok (s.take .sign n)
        else match closerOf c with
          | some closer =>
            if s.brackets.length ≥ bracketLimit then .error loud
            else .ok { s.take .sign 1 with brackets := closer :: s.brackets }
          | none =>
            if c == ')' || c == ']' || c == '\x7d' then
              match s.brackets with
              | due :: outer =>
                  if due == c then .ok { s.take .sign 1 with brackets := outer }
                    else .error loud
              | [] => .error loud
            else if isPrintable c then .ok (s.take .sign 1) else .error loud

/-- Goes through a source.  `atStart` says that a line begins, and `n` bounds the
steps. -/
def run : Nat → Bool → State → Tokens
  | 0, _, s => ⟨s.tokens, none⟩
  | n + 1, true, s =>
    match measure ⟨0, 0, 0, 0⟩ s.rest with
    | .error f => ⟨s.tokens, some f⟩
    | .ok m =>
      let s := s.skip m.length
      match s.rest with
      | '#' :: _ => run n true (s.skip (commentLength s.rest + 1))
      | '\n' :: _ => run n true (s.skip 1)
      | _ =>
        match if m.joined = 0 then s.setBlocks m.width m.narrow
          else s.setBlocks m.joined m.joined with
        | .error f => ⟨s.tokens, some f⟩
        | .ok s => run n false s
  | n + 1, false, s =>
    let s := s.skip (s.rest.takeWhile Ignored.isGap).length
    match s.rest with
    | [] =>
        if s.brackets.isEmpty then ⟨(s.mark .finish).tokens, none⟩
          else ⟨s.tokens, some (quiet .invalid)⟩
    | '#' :: _ => run n false (s.skip (commentLength s.rest))
    | '\n' :: _ =>
        if s.brackets.isEmpty then run n true ((s.mark .newline).skip 1)
          else run n false (s.skip 1)
    | ['\\', '\n'] => ⟨s.tokens, some (quiet .invalid)⟩
    | '\\' :: '\n' :: _ => run n false (s.skip 2)
    | '\\' :: _ => ⟨s.tokens, some (quiet .invalid)⟩
    | _ =>
      match s.takeToken with
      | .error f => ⟨s.tokens, some f⟩
      | .ok s => run n false s

end Lexer

/-- A text with the line ends of a source, the last of which may be missing. -/
def wholeLines (cs : List Char) : List Char :=
  let cs := unixNewlines cs
  if cs.getLast? = some '\n' then cs else cs ++ ['\n']

/-- The tokens of a source. -/
def tokensOf (source : List Char) : Tokens :=
  let cs := wholeLines source
  Lexer.run (2 * cs.length + 3) true ⟨cs, ⟨1, 0⟩, [], [(0, 0)], #[]⟩

end RuleLint.Source
