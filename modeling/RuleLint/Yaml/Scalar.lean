/-
RuleLint/Yaml/Scalar.lean

The texts of scalars, cut from a document: plain ones, quoted ones and blocks.  Each
function gives the text and the cursor behind it.  Loops are bounded by the number of
characters left.
-/
import RuleLint.Text.Ranges
import RuleLint.Yaml.Failure
import RuleLint.Yaml.Token

namespace RuleLint.Yaml

open RuleLint.Text Cursor

/-- An error of the scanner. -/
def scanError {α : Type} (context : Option (Context × Mark)) (problem : Problem)
    (at_ : Mark) : Except Failure α :=
  .error (.marked ⟨.scanning, context.map (·.1), context.map (·.2), problem, at_⟩)

/-! ### Plain scalars -/

/-- Whether a plain scalar ends at the front of the characters. -/
def endsPlain (flow : Bool) : List Char → Bool
  | [] => true
  | c :: rest =>
    isBlankOrEnd c
      || (c == ':' && (let d := rest.head?.getD '\x00'
          isBlankOrEnd d ||
            (flow && (d == ',' || d == '[' || d == ']' || d == '\x7b' || d == '\x7d'))))
      || (flow && (c == ',' || c == '?' || c == '[' || c == ']' ||
        c == '\x7b' || c == '\x7d'))

/-- The characters of a plain scalar up to the next blank or end. -/
def plainRun (flow : Bool) : List Char → List Char
  | [] => []
  | c :: rest => if endsPlain flow (c :: rest) then [] else c :: plainRun flow rest

/-- Blank lines behind a line break, as they count in a plain scalar; `none` if a
separator of documents stops them. -/
def plainBreaks (c : Cursor) : Nat → List Char × Cursor × Bool
  | 0 => ([], c, true)
  | n + 1 =>
    if c.peek == ' ' then plainBreaks c.next n
    else match c.lineBreak? with
      | none => ([], c, true)
      | some (b, c') =>
        if c'.atSeparator then ([], c', false)
        else
          let (bs, c'', fine) := plainBreaks c' n
          (b :: bs, c'', fine)

/-- The spaces in a plain scalar. -/
structure PlainSpaces where
  /-- What the spaces count as, nothing if the scalar ends here. -/
  text : List Char
  cursor : Cursor
  /-- Whether a line ended. -/
  broken : Bool

/-- The spaces and line breaks between two runs of a plain scalar. -/
def plainSpaces (c : Cursor) : PlainSpaces :=
  let blanks := c.taken (· == ' ')
  let c := c.skip blanks.length
  match c.lineBreak? with
  | none => ⟨blanks, c, false⟩
  | some (b, c) =>
    if c.atSeparator then ⟨[], c, true⟩
    else
      let (bs, c, fine) := plainBreaks c (c.rest.length + 1)
      if !fine then ⟨[], c, true⟩
      else ⟨(if b != '\n' then [b] else if bs.isEmpty then [' '] else []) ++ bs, c, true⟩

/-- A plain scalar cut from a document. -/
structure PlainScalar where
  text : List Char
  stop : Mark
  cursor : Cursor
  /-- Whether a line ended behind the last run. -/
  broken : Bool

/-- Runs of a plain scalar from the cursor on; `held` are the spaces before them.
`indent` is the least column in a block. -/
def plainRuns (flow : Bool) (indent : Int) (c : Cursor) (held : List Char)
    (before : PlainScalar) : Nat → PlainScalar
  | 0 => before
  | n + 1 =>
    if c.peek == '#' then { before with cursor := c }
    else
      let run := plainRun flow c.rest
      if run.isEmpty then { before with cursor := c }
      else
        let c := c.skip run.length
        let spaces := plainSpaces c
        let now : PlainScalar :=
          ⟨before.text ++ held ++ run, c.mark, spaces.cursor, spaces.broken⟩
        if spaces.text.isEmpty || spaces.cursor.peek == '#' ||
          (!flow && (spaces.cursor.mark.column : Int) < indent) then now
        else plainRuns flow indent spaces.cursor spaces.text now n

/-- A plain scalar at the cursor. -/
def plainScalar (flow : Bool) (indent : Int) (c : Cursor) : PlainScalar :=
  plainRuns flow indent c [] ⟨[], c.mark, c, false⟩ (c.rest.length + 1)

/-! ### Quoted scalars -/

/-- Escapes that stand for one character. -/
def escapeOf? : Char → Option Char
  | '0' => some '\x00'
  | 'a' => some '\x07'
  | 'b' => some '\x08'
  | 't' => some '\t'
  | '\t' => some '\t'
  | 'n' => some '\n'
  | 'v' => some '\x0b'
  | 'f' => some '\x0c'
  | 'r' => some '\r'
  | 'e' => some '\x1b'
  | ' ' => some ' '
  | '"' => some '"'
  | '\\' => some '\\'
  | '/' => some '/'
  | 'N' => some '\u0085'
  | '_' => some '\u00a0'
  | 'L' => some '\u2028'
  | 'P' => some '\u2029'
  | _ => none

/-- The number of digits behind an escape for a code point. -/
def escapeDigits? : Char → Option Nat
  | 'x' => some 2
  | 'u' => some 4
  | 'U' => some 8
  | _ => none

/-- A code point written as digits behind an escape. -/
def codeEscape (start : Mark) (digits : Nat) (c : Cursor) :
    Except Failure (Nat × Cursor) := do
  let ds := (c.rest ++ List.replicate digits '\x00').take digits
  match ds.find? fun d => (hexDigit? d).isNone with
  | some d => scanError (some (.doubleQuoted, start)) (.hexDigitsExpected digits d) c.mark
  | none =>
    let n := hexNat ds
    if 0x7fffffff < n then throw .codeOverflow
    if 0x10ffff < n then throw .noCodePoint
    return (n, c.skip digits)

/-- Line breaks inside a quoted scalar. -/
def quotedBreaks (start : Mark) (c : Cursor) : Nat → Except Failure (List Char × Cursor)
  | 0 => return ([], c)
  | n + 1 => do
    if c.atSeparator then scanError (some (.quoted, start)) .documentSeparator c.mark
    let c := c.skipWhile fun ch => ch == ' ' || ch == '\t'
    match c.lineBreak? with
    | none => return ([], c)
    | some (b, c) =>
      let (bs, c) ← quotedBreaks start c n
      return (b :: bs, c)

/-- Blanks inside a quoted scalar. -/
def quotedSpaces (start : Mark) (c : Cursor) : Except Failure (List Char × Cursor) := do
  let blanks := c.taken fun ch => ch == ' ' || ch == '\t'
  let c := c.skip blanks.length
  if c.peek == '\x00' then scanError (some (.quoted, start)) .endOfStream c.mark
  match c.lineBreak? with
  | none => return (blanks, c)
  | some (b, c) =>
    let (bs, c) ← quotedBreaks start c (c.rest.length + 1)
    return ((if b != '\n' then [b] else if bs.isEmpty then [' '] else []) ++ bs, c)

/-- Characters that a run inside quotes stops at. -/
def stopsQuoted (c : Char) : Bool :=
  c == '\'' || c == '"' || c == '\\' || isBlankOrEnd c

/-- The code points of characters. -/
def codesOf (cs : List Char) : List Nat := cs.map Char.toNat

/-- Code points of a quoted scalar up to a blank or the closing quote. -/
def quotedRun (double : Bool) (start : Mark) (c : Cursor) :
    Nat → Except Failure (List Nat × Cursor)
  | 0 => return ([], c)
  | n + 1 => do
    let run := c.taken fun ch => !stopsQuoted ch
    let c := c.skip run.length
    let ch := c.peek
    let more (codes : List Nat) (c : Cursor) : Except Failure (List Nat × Cursor) := do
      let (rest, c) ← quotedRun double start c n
      return (codesOf run ++ codes ++ rest, c)
    if !double && ch == '\'' && c.peek 1 == '\'' then more (codesOf ['\'']) (c.skip 2)
    else if (double && ch == '\'') || (!double && (ch == '"' || ch == '\\')) then
      more (codesOf [ch]) c.next
    else if double && ch == '\\' then
      let c := c.next
      let ch := c.peek
      match escapeOf? ch, escapeDigits? ch, c.lineBreak? with
      | some e, _, _ => more (codesOf [e]) c.next
      | none, some digits, _ => do
        let (n, c) ← codeEscape start digits c.next
        more [n] c
      | none, none, some (_, c) => do
        let (bs, c) ← quotedBreaks start c (c.rest.length + 1)
        more (codesOf bs) c
      | none, none, none =>
          scanError (some (.doubleQuoted, start)) (.unknownEscape ch) c.mark
    else return (codesOf run, c)

/-- Runs and blanks of a quoted scalar up to the closing quote. -/
def quotedParts (quote : Char) (start : Mark) (c : Cursor) :
    Nat → Except Failure (List Nat × Cursor)
  | 0 => return ([], c)
  | n + 1 => do
    if c.peek == quote then return ([], c)
    let (blanks, c) ← quotedSpaces start c
    let (run, c) ← quotedRun (quote == '"') start c (c.rest.length + 1)
    let (rest, c) ← quotedParts quote start c n
    return (codesOf blanks ++ run ++ rest, c)

/-- The code points of a quoted scalar at the cursor. -/
def quotedScalar (c : Cursor) : Except Failure (List Nat × Cursor) := do
  let start := c.mark
  let quote := c.peek
  let c := c.next
  let (run, c) ← quotedRun (quote == '"') start c (c.rest.length + 1)
  let (rest, c) ← quotedParts quote start c (c.rest.length + 1)
  return (run ++ rest, c.next)

/-! ### Block scalars -/

/-- What becomes of the line breaks at the end of a block. -/
inductive Chomping where
  | clip
  | strip
  | keep
deriving Repr, BEq, DecidableEq

/-- The indicator for the end of a block. -/
def chompingOf? : Char → Option Chomping
  | '+' => some .keep
  | '-' => some .strip
  | _ => none

/-- A digit that sets the indentation of a block. -/
def indentDigit (start : Mark) (c : Cursor) : Except Failure (Option Nat × Cursor) := do
  let ch := c.peek
  if ch.isDigit then
    if ch == '0' then scanError (some (.blockScalar, start)) .zeroIndentation c.mark
    return (some (ch.toNat - '0'.toNat), c.next)
  return (none, c)

/-- The indicators of a block. -/
def blockIndicators (start : Mark) (c : Cursor) :
    Except Failure (Chomping × Option Nat × Cursor) := do
  let (chomping, increment, c) ← match chompingOf? c.peek with
    | some chomping => do
      let (increment, c) ← indentDigit start c.next
      pure (chomping, increment, c)
    | none => do
      let (increment, c) ← indentDigit start c
      match increment.bind fun _ => chompingOf? c.peek with
      | some chomping => pure (chomping, increment, c.next)
      | none => pure (.clip, increment, c)
  if !isSpaceOrEnd c.peek
    then scanError (some (.blockScalar, start)) (.indicatorExpected c.peek) c.mark
  return (chomping, increment, c)

/-- The rest of a line that may only hold a comment. -/
def ignoredLine (context : Context) (start : Mark) (c : Cursor) :
    Except Failure Cursor := do
  let c := c.skipWhile (· == ' ')
  let c := if c.peek == '#' then c.skipWhile fun ch => !isEnd ch else c
  if !isEnd c.peek then scanError (some (context, start)) (.breakExpected c.peek) c.mark
  return match c.lineBreak? with
    | some (_, c) => c
    | none => c

/-- The line breaks in front of a block whose indentation is yet unknown: the breaks,
the greatest column of spaces, and the place behind the last break. -/
def leadingBreaks (c : Cursor) (deepest : Nat) (stop : Mark) :
    Nat → List Char × Nat × Mark × Cursor
  | 0 => ([], deepest, stop, c)
  | n + 1 =>
    if c.peek == ' ' then leadingBreaks c.next (max deepest c.next.mark.column) stop n
    else match c.lineBreak? with
      | none => ([], deepest, stop, c)
      | some (b, c) =>
        let (bs, deepest, stop, c) := leadingBreaks c deepest c.mark n
        (b :: bs, deepest, stop, c)

/-- Up to `indent` columns of spaces. -/
def skipIndent (indent : Nat) (c : Cursor) : Cursor :=
  c.skip (min (indent - c.mark.column) (c.count (· == ' ')))

/-- The line breaks in front of the next line of a block, whose indentation is taken
off. -/
def blockBreaks (indent : Nat) (c : Cursor) (stop : Mark) :
    Nat → List Char × Mark × Cursor
  | 0 => ([], stop, c)
  | n + 1 =>
    let c := skipIndent indent c
    match c.lineBreak? with
    | none => ([], stop, c)
    | some (b, c) =>
      let (bs, stop, c) := blockBreaks indent c c.mark n
      (b :: bs, stop, c)

/-- A block scalar cut from a document. -/
structure BlockScalar where
  text : List Char
  stop : Mark
  cursor : Cursor

/-- Spaces and tabs. -/
def isSpaceOrTab (c : Char) : Bool := c == ' ' || c == '\t'

/-- The lines of a block.  `breaks` are the line breaks before the cursor, and `stop` is
the place behind the last of them. -/
def blockLines (folded : Bool) (chomping : Chomping) (indent : Nat) (c : Cursor)
    (breaks : List Char) (stop : Mark) :
    Nat → BlockScalar
  | 0 => ⟨[], stop, c⟩
  | n + 1 =>
    if c.mark.column == indent && c.peek != '\x00' then
      let plainStart := !isSpaceOrTab c.peek
      let line := c.taken fun ch => !isEnd ch
      let c := c.skip line.length
      let (last, c) := match c.lineBreak? with
        | some (b, c) => ([b], c)
        | none => ([], c)
      let (after, stop, c) := blockBreaks indent c c.mark (c.rest.length + 1)
      if c.mark.column == indent && c.peek != '\x00' then
        let joint :=
          if folded && last == ['\n'] && plainStart && !isSpaceOrTab c.peek
            then (if after.isEmpty then [' '] else [])
          else last
        let rest := blockLines folded chomping indent c after stop n
        { rest with text := breaks ++ line ++ joint ++ rest.text }
      else
        let tail := (if chomping == .strip then [] else last) ++ (if chomping == .keep
          then after else [])
        ⟨breaks ++ line ++ tail, stop, c⟩
    else ⟨if chomping == .keep then breaks else [], stop, c⟩

/-- A block scalar at the cursor, in a block indented by `indent`. -/
def blockScalar (folded : Bool) (indent : Int) (c : Cursor) :
    Except Failure BlockScalar := do
  let start := c.mark
  let (chomping, increment, c) ← blockIndicators start c.next
  let c ← ignoredLine .blockScalar start c
  let least := (max (indent + 1) 1).toNat
  let n := c.rest.length + 1
  match increment with
  | none =>
    let (breaks, deepest, stop, c) := leadingBreaks c 0 c.mark n
    return blockLines folded chomping (max least deepest) c breaks stop n
  | some k =>
    let (breaks, stop, c) := blockBreaks (least + k - 1) c c.mark n
    return blockLines folded chomping (least + k - 1) c breaks stop n

end RuleLint.Yaml
