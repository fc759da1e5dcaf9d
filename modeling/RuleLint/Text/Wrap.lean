/-
RuleLint/Text/Wrap.lean

Filling lines with words.  A text is cut into chunks: runs of blanks, words, and the
parts of words that end with a hyphen between letters; a line takes as many chunks as
fit.  A chunk that fits on no line is cut, after a hyphen if it has one.
-/
import RuleLint.Text.Word

namespace RuleLint.Text

/-! ### Chunks -/

/-- Blanks of ASCII. -/
def isAsciiBlank (c : Char) : Bool :=
  c == ' ' || c == '\t' || c == '\n' || c == '\r' || c == '\x0b' || c == '\x0c'

/-- Letters: what is part of a word and no digit. -/
def isWordLetter (c : Char) : Bool :=
  isWord c && !isDecimal c

/-- Characters that a dash may follow. -/
def isBeforeDash (c : Char) : Bool :=
  isWord c || c == '!' || c == '"' || c == '\'' || c == '&' || c == '.' ||
    c == ',' || c == '?'

/-- Whether a dash of two or more hyphens is in front, with a word behind it. -/
def dashAhead (cs : List Char) : Bool :=
  let hyphens := cs.takeWhile (· == '-')
  2 ≤ hyphens.length && (cs.drop hyphens.length).head?.any isWord

/-- Whether a hyphen may be broken at, for the characters in front of it (the last one
first) and those behind it. -/
def breaksAtHyphen (front rest : List Char) : Bool :=
  let before := match front with
    | a :: b :: _ =>
        isWordLetter a && (isWordLetter b || (b == '-' && (front[2]?).any isWordLetter))
    | _ => false
  let behind := match rest with
    | a :: '-' :: b :: _ => isWordLetter a && isWordLetter b
    | a :: b :: _ => isWordLetter a && isWordLetter b
    | _ => false
  before && behind

/-- Cuts a text into chunks; `front` holds what was read (the last character first),
`chunk` the chunk under way likewise. -/
def chunksFrom (front chunk : List Char) : List Char → List (List Char)
  | [] => if chunk.isEmpty then [] else [chunk.reverse]
  | c :: rest =>
    let cut (more : List (List Char)) : List (List Char) := if chunk.isEmpty then more
      else chunk.reverse :: more
    let sameKind := match chunk with
      | d :: _ => isAsciiBlank c == isAsciiBlank d
      | [] => true
    if !sameKind then cut (chunksFrom (c :: front) [c] rest)
    else if isAsciiBlank c then chunksFrom (c :: front) (c :: chunk) rest
    else if c == '-' then
      if chunk.all (· == '-') then chunksFrom (c :: front) (c :: chunk) rest
      else if breaksAtHyphen front rest then (c :: chunk).reverse ::
        chunksFrom (c :: front) [] rest
      else if front.head?.any isBeforeDash && dashAhead (c :: rest)
        then cut (chunksFrom (c :: front) [c] rest)
      else chunksFrom (c :: front) (c :: chunk) rest
    else if chunk.length ≥ 2 && chunk.all (· == '-') && isWord c &&
      (front.drop chunk.length).head?.any isBeforeDash then
      cut (chunksFrom (c :: front) [c] rest)
    else chunksFrom (c :: front) (c :: chunk) rest

/-- The chunks of a text. -/
def chunks (cs : List Char) : List (List Char) :=
  chunksFrom [] [] cs

/-! ### Lines -/

/-- Whether a chunk is blank. -/
def isBlankChunk (chunk : List Char) : Bool :=
  chunk.all isBlank

/-- Where a chunk that is too long is cut: behind the last hyphen in the space left, or
at the end of the space. -/
def cutPlace (space : Nat) (chunk : List Char) : Nat :=
  let front := chunk.take space
  let tail := (front.reverse.takeWhile (· != '-')).length
  let hyphen := front.length - tail - 1
  if tail < front.length && 0 < hyphen && (chunk.take hyphen).any (· != '-')
    then hyphen + 1 else space

/-- Takes chunks as long as they fit in `width`. -/
def takeFitting (width : Nat) : List (List Char) → List (List Char) × List (List Char)
  | [] => ([], [])
  | chunk :: rest =>
    if chunk.length ≤ width then
      let (taken, left) := takeFitting (width - chunk.length) rest
      (chunk :: taken, left)
    else ([], chunk :: rest)

/-- A line without a blank chunk at its end. -/
def withoutBlankEnd (line : List (List Char)) : List (List Char) :=
  match line.reverse with
  | last :: rest => if isBlankChunk last then rest.reverse else line
  | [] => []

/-- Fills lines with chunks; `n` bounds the number of lines, and `first` says that none
is there yet. -/
def fillLines (width : Nat) (first : Bool) : Nat → List (List Char) → List String
  | 0, _ => []
  | n + 1, chunks =>
    let chunks := match chunks with
      | chunk :: rest => if !first && isBlankChunk chunk then rest else chunks
      | [] => []
    match chunks with
    | [] => []
    | _ =>
      let (line, rest) := takeFitting width chunks
      let (line, rest) := match rest with
        | chunk :: more =>
          if width < chunk.length then
            let k := cutPlace (width - line.flatten.length) chunk
            (line ++ [chunk.take k], if k < chunk.length
              then chunk.drop k :: more else more)
          else (line, rest)
        | [] => (line, rest)
      let line := (withoutBlankEnd line).flatten
      if line.isEmpty then fillLines width first n rest else String.ofList line ::
        fillLines width false n rest

/-- A text with single blanks, in lines of at most the given width. -/
def fill (width : Nat) (s : String) : String :=
  let words := s.toList.splitOnP isAsciiBlank
  let cs := trim (" ".intercalate ((words.filter (· ≠ [])).map String.ofList)).toList
  "\n".intercalate (fillLines width true (cs.length + 1) (chunks cs))

end RuleLint.Text
