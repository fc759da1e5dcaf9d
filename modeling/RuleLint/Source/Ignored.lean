/-
RuleLint/Source/Ignored.lean

Which lines of a source ask to be left alone: those with a comment that says so.

Comments are found line by line by a scanner that is more lenient than the language: it
goes on behind characters that no program may hold and behind strings that are not
closed on their line.  It keeps the number of open brackets (which may become negative),
the widths of the open blocks, and the string that is open at the end of a line.  `Piece`
is what stands at the front of the rest of a line; `scanLine` takes pieces off a line,
and `scanLines` goes through the lines.
-/
import RuleLint.Source.Quote
import RuleLint.Text.Lines
import RuleLint.Text.Word

namespace RuleLint.Source

open RuleLint.Text

namespace Ignored

/-! ### Comments -/

/-- Whether a text starts with the words that ask for silence, with at most one blank
between them. -/
def asksHere (cs : List Char) : Bool :=
  match cs with
  | 'b' :: 'b' :: ':' :: rest =>
    "ignore".toList.isPrefixOf rest || match rest with
      | c :: more => isBlank c && "ignore".toList.isPrefixOf more
      | [] => false
  | _ => false

/-- Whether the words that ask for silence stand anywhere in a text. -/
def asks : List Char → Bool
  | [] => false
  | c :: rest => asksHere (c :: rest) || asks rest

/-! ### Pieces of a line -/

/-- The blanks inside a line. -/
def isGap (c : Char) : Bool := c == ' ' || c == '\x0c' || c == '\t'

/-- The kinds of strings: the quote, and whether it is written three times. -/
structure Quote where
  char : Char
  long : Bool
deriving Repr, BEq, DecidableEq

/-- What is at the front of the rest of a line. -/
inductive Piece where
  /-- Characters that do not change anything. -/
  | plain (length : Nat)
  | opening
  | closing
  | comment (text : List Char)
  /-- A backslash at the end of a line. -/
  | join (length : Nat)
  /-- A string that goes on in the next line. -/
  | open_ (q : Quote)
deriving Repr, BEq, DecidableEq

/-- Digits with single underscores between them; what is behind them. -/
def cutDigits? (isDigit : Char → Bool) : List Char → Option (List Char)
  | [] => none
  | d :: rest => if isDigit d then some (more rest) else none
where
  more : List Char → List Char
    | '_' :: d :: rest => if isDigit d then more rest else '_' :: d :: rest
    | d :: rest => if isDigit d then more rest else d :: rest
    | [] => []

/-- An exponent. -/
def cutExponent? : List Char → Option (List Char)
  | e :: rest =>
    if e == 'e' || e == 'E' then
      match rest with
      | s :: more =>
          if s == '-' || s == '+' then cutDigits? Char.isDigit more
            else cutDigits? Char.isDigit rest
      | [] => none
    else none
  | [] => none

/-- A number with a point or an exponent. -/
def cutFloat? (cs : List Char) : Option (List Char) :=
  let pointed : Option (List Char) :=
    match cutDigits? Char.isDigit cs, cs with
    | some ('.' :: rest), _ => some ((cutDigits? Char.isDigit rest).getD rest)
    | none, '.' :: rest => cutDigits? Char.isDigit rest
    | _, _ => none
  match pointed with
  | some rest => some ((cutExponent? rest).getD rest)
  | none => (cutDigits? Char.isDigit cs).bind cutExponent?

/-- The letter of an imaginary number. -/
def cutUnit? : List Char → Option (List Char)
  | c :: rest => if c == 'j' || c == 'J' then some rest else none
  | [] => none

/-- Digits behind a mark for a base. -/
def cutBased? (letters : List Char) (isDigit : Char → Bool) :
    List Char → Option (List Char)
  | '0' :: b :: rest =>
    if letters.contains b then
      match rest with
      | '_' :: more => cutDigits? isDigit more
      | _ => cutDigits? isDigit rest
    else none
  | _ => none

/-- A whole number in ten digits; one that starts with zero has zeros only. -/
def cutDecimal? : List Char → Option (List Char)
  | '0' :: rest => cutDigits? (· == '0') ('0' :: rest)
  | cs => cutDigits? Char.isDigit cs

/-- What is behind a number. -/
def cutNumber? (cs : List Char) : Option (List Char) :=
  ((cutDigits? Char.isDigit cs).bind cutUnit?).or <|
  ((cutFloat? cs).bind cutUnit?).or <|
  (cutFloat? cs).or <|
  (cutBased? ['x', 'X'] (fun c => (hexDigit? c).isSome) cs).or <|
  (cutBased? ['b', 'B'] (fun c => c == '0' || c == '1') cs).or <|
  (cutBased? ['o', 'O'] (fun c => '0' ≤ c && c ≤ '7') cs).or <|
  cutDecimal? cs

/-- The length of the rest of a string up to its closing quote; an escaped line break
cannot be in it. -/
def closing? (q : Quote) : List Char → Option Nat
  | [] => none
  | '\\' :: c :: rest => if c == '\n' then none else (closing? q rest).map (· + 2)
  | c :: rest =>
    if c == q.char then
      if !q.long then some 1
      else match rest with
        | d :: e :: _ =>
            if d == c && e == c then some 3 else (closing? q rest).map (· + 1)
        | _ => none
    else if c == '\\' then none
    else (closing? q rest).map (· + 1)

/-- How a string in simple quotes goes on behind its quote: its length, or that it goes
on in the next line. -/
inductive Tail where
  | closed (length : Nat)
  | joined
  | broken
deriving Repr, BEq, DecidableEq

/-- A longer tail. -/
def Tail.after (n : Nat) : Tail → Tail
  | .closed k => .closed (k + n)
  | t => t

/-- The tail of a string in simple quotes. -/
def shortTail (quote : Char) : List Char → Tail
  | [] => .broken
  | '\\' :: '\n' :: _ => .joined
  | '\\' :: '\r' :: '\n' :: _ => .joined
  | '\\' :: _ :: rest => (shortTail quote rest).after 2
  | c :: rest =>
    if c == quote then .closed 1
    else if c == '\n' || c == '\\' then .broken
    else (shortTail quote rest).after 1

/-- The string at the front, if there is one. -/
def stringPiece? (cs : List Char) : Option Piece := do
  let (letters, quote) ← stringStart? cs
  let body := cs.drop letters
  if isLongQuote quote body then
    match closing? ⟨quote, true⟩ (body.drop 3) with
    | some n => return .plain (letters + 3 + n)
    | none => return .open_ ⟨quote, true⟩
  else
    match shortTail quote (body.drop 1) with
    | .closed n => return .plain (letters + 1 + n)
    | .joined => return .open_ ⟨quote, false⟩
    | .broken => none

/-- What is at the front of a text that does not start with a blank. -/
def piece (cs : List Char) : Piece :=
  match cs with
  | [] => .plain 0
  | '\\' :: '\n' :: _ => .join 2
  | '\\' :: '\r' :: '\n' :: _ => .join 3
  | '#' :: _ => .comment (cs.takeWhile fun c => c != '\r' && c != '\n')
  | c :: _ =>
    match stringPiece? cs with
    | some p => p
    | none =>
      match cutNumber? cs with
      | some rest => .plain (cs.length - rest.length)
      | none =>
        if c == '(' || c == '[' || c == '\x7b' then .opening
        else if c == ')' || c == ']' || c == '\x7d' then .closing
        else .plain (max 1 (cs.takeWhile isWord).length)

/-! ### Lines -/

/-- Why the scanner gives up. -/
inductive Fault where
  /-- The source ends in a string that starts at a line and a column. -/
  | openString (line column : Nat)
  /-- The source ends in a statement; the line behind the last one. -/
  | openStatement (line : Nat)
  /-- A line is indented like none of the blocks around it. -/
  | unevenIndent
deriving Repr, BEq, DecidableEq

/-- The words for why the scanner gives up. -/
def Fault.message : Fault → String
  | .openString line column =>
    "('EOF in multi-line string', (" ++ toString line ++ ", " ++ toString column ++ "))"
  | .openStatement line => "('EOF in multi-line statement', (" ++ toString line ++ ", 0))"
  | .unevenIndent => "unindent does not match any outer indentation level"

/-- A string that is open at the end of a line. -/
structure OpenString where
  quote : Quote
  line : Nat
  column : Nat
deriving Repr, BEq, DecidableEq

/-- What the scanner knows between two lines. -/
structure Scanner where
  /-- Opening less closing brackets. -/
  depth : Int
  /-- The line before ended in a backslash. -/
  joined : Bool
  string : Option OpenString
  /-- A string may only go on behind a backslash. -/
  strict : Bool
  /-- The widths of the open blocks, the innermost first. -/
  blocks : List Nat
  /-- The lines that ask for silence, the latest first. -/
  found : List Nat
deriving Repr, BEq, DecidableEq

/-- The scanner at the start of a source. -/
def Scanner.start : Scanner := ⟨0, false, none, false, [0], []⟩

/-- Notes a comment in a line. -/
def Scanner.note (s : Scanner) (line : Nat) (text : List Char) : Scanner :=
  if asks text then { s with found := line :: s.found } else s

/-- Takes the pieces off a line, from a column on; `n` bounds their number. -/
def scanLine (line : Nat) : Nat → Nat → List Char → Scanner → Scanner
  | 0, _, _, s => s
  | n + 1, column, cs, s =>
    let gap := (cs.takeWhile isGap).length
    let cs := cs.drop gap
    let column := column + gap
    if cs.isEmpty then s
    else match piece cs with
      | .plain k => scanLine line n (column + max 1 k) (cs.drop (max 1 k)) s
      | .opening =>
          scanLine line n (column + 1) (cs.drop 1) { s with depth := s.depth + 1 }
      | .closing =>
          scanLine line n (column + 1) (cs.drop 1) { s with depth := s.depth - 1 }
      | .comment text =>
          scanLine line n (column + text.length) (cs.drop text.length) (s.note line text)
      | .join k => scanLine line n (column + k) (cs.drop k) { s with joined := true }
      | .open_ q =>
        { s with string := some ⟨q, line, column⟩, strict := if q.long
          then s.strict else true }

/-- Goes on behind a piece of a line. -/
def scanRest (line column : Nat) (cs : List Char) (s : Scanner) : Scanner :=
  scanLine line (cs.length + 1) column cs s

/-- The width of the blanks in front of a line; tabs go to the next multiple of eight,
and a form feed starts again. -/
def indentWidth : Nat → List Char → Nat
  | w, ' ' :: rest => indentWidth (w + 1) rest
  | w, '\t' :: rest => indentWidth ((w / 8 + 1) * 8) rest
  | _, '\x0c' :: rest => indentWidth 0 rest
  | w, _ => w

/-- The blocks that stay open in front of a statement with a width. -/
def closeBlocks (width : Nat) (blocks : List Nat) : Except Fault (List Nat) :=
  match blocks with
  | [] => .ok [width]
  | top :: _ =>
    if top < width then .ok (width :: blocks)
    else if blocks.contains width then .ok (blocks.dropWhile (width < ·))
    else .error .unevenIndent

/-- Whether a line ends in a backslash. -/
def endsJoined (cs : List Char) : Bool :=
  match cs.reverse with
  | '\n' :: '\\' :: _ => true
  | '\n' :: '\r' :: '\\' :: _ => true
  | _ => false

/-- A line in a string that is open. -/
def stringLine (line : Nat) (o : OpenString) (cs : List Char) (s : Scanner) : Scanner :=
  match closing? o.quote cs with
  | some k => scanRest line k (cs.drop k) { s with string := none, strict := false }
  | none => if s.strict && !endsJoined cs then { s with string := none } else s

/-- A line that begins a statement; nothing if it ends the source. -/
def statementLine (line : Nat) (cs : List Char) (s : Scanner) :
    Except Fault (Option Scanner) :=
  let gap := (cs.takeWhile isGap).length
  match cs.drop gap with
  | [] => .ok none
  | c :: rest =>
    if c == '#' then .ok
      (some (s.note line ((c :: rest).takeWhile fun c => c != '\r' && c != '\n')))
    else if c == '\r' || c == '\n' then .ok (some s)
    else do
      let blocks ← closeBlocks (indentWidth 0 cs) s.blocks
      return some (scanRest line gap (c :: rest) { s with blocks })

/-- Goes through the lines from a number on. -/
def scanLines (s : Scanner) (line : Nat) : List (List Char) → Except Fault Scanner
  | [] =>
    match s.string with
    | some o => .error (.openString o.line o.column)
    | none => if s.depth = 0 ∧ !s.joined then .ok s else .error (.openStatement line)
  | cs :: rest =>
    match s.string with
    | some o => scanLines (stringLine line o cs s) (line + 1) rest
    | none =>
      if s.depth = 0 ∧ !s.joined then
        match statementLine line cs s with
        | .error f => .error f
        | .ok none => .ok s
        | .ok (some s) => scanLines s (line + 1) rest
      else scanLines (scanRest line 0 cs { s with joined := false }) (line + 1) rest

end Ignored

/-- The lines of a source that ask to be left alone, in order. -/
def ignoredLines (source : String) : Except Ignored.Fault (List Nat) := do
  let s ← Ignored.scanLines .start 1 (fullLines source)
  return s.found.reverse

end RuleLint.Source
