/-
RuleLint/Yaml/Scan.lean

Cutting a document into tokens.

A scalar, an anchor, a tag or a flow collection may turn out to be the key of a mapping
when a colon follows on the same line within 1024 characters.  Its place is therefore
kept among the possible keys, one a level of flow collections, and the tokens for the
key are put in front of it when the colon comes.

Whoever reads the tokens takes them one by one, and a token is handed out only when it
cannot become a key any more.  If scanning fails, the reader has received just the
tokens before the first possible key (`Scanner.settled`), and the error is what it finds
in place of the next one.
-/
import RuleLint.Text.Halves
import RuleLint.Yaml.Scalar

namespace RuleLint.Yaml

open RuleLint.Text Cursor

/-- A place where a key may have begun. -/
structure PossibleKey where
  token : Nat
  /-- Nothing else than a key can stand there. -/
  required : Bool
  mark : Mark
deriving Repr, BEq

/-- What the scanner knows. -/
structure Scanner where
  cursor : Cursor
  tokens : Array Token
  /-- The number of flow collections around the cursor; stray closing brackets take it
  below zero. -/
  flow : Int
  /-- The columns of the blocks around the cursor, the innermost first. -/
  indents : List Int
  indent : Int
  allowKey : Bool
  keys : List (Int × PossibleKey)
  done : Bool

abbrev Scan := StateT Scanner (Except Failure)

namespace Scanner

/-- The scanner at the start of a document. -/
def start (cs : List Char) : Scanner where
  cursor := .ofChars cs
  tokens := #[⟨.streamStart, ⟨0, 0, 0⟩, ⟨0, 0, 0⟩⟩]
  flow := 0
  indents := []
  indent := -1
  allowKey := true
  keys := []
  done := false

/-- Whether the cursor is inside a flow collection. -/
def inFlow (s : Scanner) : Bool := s.flow != 0

/-- The number of tokens that can be handed out. -/
def settled (s : Scanner) : Nat :=
  s.keys.foldl (fun n (_, k) => min n k.token) s.tokens.size

end Scanner

/-! ### State -/

/-- Throws an error of the scanner at the cursor. -/
def failHere {α : Type} (context : Option (Context × Mark)) (problem : Problem) :
    Scan α := do
  match (scanError context problem (← get).cursor.mark : Except Failure α) with
  | .ok a => return a
  | .error e => throw e

/-- Adds a token. -/
def pushToken (kind : TokenKind) (start stop : Mark) : Scan Unit :=
  modify fun s => { s with tokens := s.tokens.push ⟨kind, start, stop⟩ }

/-- Adds a token of no width at the cursor. -/
def pushHere (kind : TokenKind) : Scan Unit := do
  let m := (← get).cursor.mark
  pushToken kind m m

/-- Adds a token for the next `n` characters. -/
def pushChars (kind : TokenKind) (n : Nat) : Scan Unit := do
  let c := (← get).cursor
  let after := c.skip n
  modify fun s => { s with cursor := after }
  pushToken kind c.mark after.mark

/-- Forgets keys whose line is over or that would be too long. -/
def dropStaleKeys : Scan Unit := do
  let s ← get
  let m := s.cursor.mark
  let stale (k : PossibleKey) : Bool := k.mark.line != m.line ||
    1024 < m.index - k.mark.index
  match s.keys.find? fun (_, k) => stale k && k.required with
  | some (_, k) => failHere (some (.simpleKey, k.mark)) .missingColon
  | none => set { s with keys := s.keys.filter fun (_, k) => !stale k }

/-- Forgets the possible key of the current level. -/
def dropKey : Scan Unit := do
  let s ← get
  match s.keys.lookup s.flow with
  | none => return ()
  | some k =>
    if k.required then failHere (some (.simpleKey, k.mark)) .missingColon
    set { s with keys := s.keys.filter fun (level, _) => level != s.flow }

/-- Notes that a key may begin at the cursor. -/
def notePossibleKey : Scan Unit := do
  let s ← get
  if s.allowKey then
    dropKey
    modify fun t => { t with keys := t.keys ++ [(s.flow,
      ⟨s.tokens.size, !s.inFlow && s.indent == (s.cursor.mark.column : Int),
        s.cursor.mark⟩)] }

/-- Sets whether a key may begin next. -/
def setAllowKey (b : Bool) : Scan Unit :=
  modify fun s => { s with allowKey := b }

/-- Closes the blocks that are indented deeper than a column; `n` bounds their number. -/
def closeBlocks (column : Int) : Nat → Scan Unit
  | 0 => return ()
  | n + 1 => do
    let s ← get
    if column < s.indent then
      modify fun s =>
        { s with indent := s.indents.head?.getD (-1), indents := s.indents.tail }
      pushHere .blockEnd
      closeBlocks column n

/-- Closes the blocks that are indented deeper than a column, outside of flow
collections. -/
def unwind (column : Int) : Scan Unit := do
  let s ← get
  if !s.inFlow then closeBlocks column (s.indents.length + 1)

/-- Opens a block at a column if it is deeper than the current one. -/
def deepen (column : Int) : Scan Bool := do
  let s ← get
  if s.indent < column then
    set { s with indents := s.indent :: s.indents, indent := column }
    return true
  return false

/-! ### Between tokens -/

/-- Skips spaces, comments and line breaks; a new line outside of flow collections
allows a key. -/
def skipToToken : Nat → Scan Unit
  | 0 => return ()
  | n + 1 => do
    let c := (← get).cursor.skipWhile (· == ' ')
    let c := if c.peek == '#' then c.skipWhile fun ch => !isEnd ch else c
    match c.lineBreak? with
    | some (_, c) =>
      modify fun s => { s with cursor := c, allowKey := s.allowKey || !s.inFlow }
      skipToToken n
    | none => modify fun s => { s with cursor := c }

/-! ### Directives, tags and names -/

/-- Characters of names and of tag handles. -/
def isHandleChar (c : Char) : Bool :=
  c.isAlphanum || c == '-' || c == '_'

/-- Characters of the address in a tag. -/
def isUriChar (c : Char) : Bool :=
  c.isAlphanum || "-;/?:@&=+$,_.!~*'()[]%".toList.contains c

/-- Bytes written as two digits behind percent signs; `n` bounds their number. -/
def uriBytes (context : Context × Mark) (c : Cursor) :
    Nat → Except Failure (List UInt8 × Cursor)
  | 0 => return ([], c)
  | n + 1 => do
    if c.peek != '%' then return ([], c)
    let c := c.next
    match [c.peek, c.peek 1].find? fun d => (hexDigit? d).isNone with
    | some d => scanError (some context) (.uriEscapeExpected d) c.mark
    | none =>
      let b := hexNat [c.peek, c.peek 1]
      let (bs, c) ← uriBytes context (c.skip 2) n
      return (b.toUInt8 :: bs, c)

/-- The parts of an address; `n` bounds their number. -/
def uriParts (context : Context × Mark) (c : Cursor) :
    Nat → Except Failure (List Char × Cursor)
  | 0 => return ([], c)
  | n + 1 => do
    let run := c.taken fun ch => isUriChar ch && ch != '%'
    let c := c.skip run.length
    if c.peek == '%' then
      let (bs, after) ← uriBytes context c (c.rest.length + 1)
      let text ← match decodeUtf8 bs with
        | .ok text => pure text
        | .error e => scanError (some context) (.uriUndecodable e) c.mark
      let (rest, after) ← uriParts context after n
      return (run ++ text ++ rest, after)
    else return (run, c)

/-- An address in a tag or directive. -/
def tagUri (scanning parsing : Context) (start : Mark) (c : Cursor) :
    Except Failure (String × Cursor) := do
  if !isUriChar c.peek
    then scanError (some (parsing, start)) (.charExpected "URI" c.peek) c.mark
  let (text, c) ← uriParts (scanning, start) c (c.rest.length + 1)
  return (String.ofList text, c)

/-- A tag handle: an exclamation mark, or a name between two. -/
def tagHandle (context : Context) (start : Mark) (c : Cursor) :
    Except Failure (String × Cursor) := do
  if c.peek != '!'
    then scanError (some (context, start)) (.charExpected "'!'" c.peek) c.mark
  if c.peek 1 == ' ' then return ("!", c.next)
  let name := c.next.taken isHandleChar
  let after := c.skip (name.length + 1)
  if after.peek != '!'
    then scanError (some (context, start)) (.charExpected "'!'" after.peek) after.mark
  return (String.ofList ('!' :: name ++ ['!']), after.next)

/-- A number in a version. -/
def versionNumber (start : Mark) (c : Cursor) : Except Failure (Nat × Cursor) := do
  let ds := c.taken Char.isDigit
  if ds.isEmpty then scanError (some (.directive, start)) (.digitExpected c.peek) c.mark
  return (ds.foldl (fun n d => 10 * n + (d.toNat - '0'.toNat)) 0, c.skip ds.length)

/-- What a directive says, behind its name. -/
def directiveValue (start : Mark) (name : String) (c : Cursor) :
    Except Failure (Directive × Mark × Cursor) := do
  if name = "YAML" then
    let (major, c) ← versionNumber start (c.skipWhile (· == ' '))
    if c.peek != '.'
      then scanError (some (.directive, start)) (.digitOrDotExpected c.peek) c.mark
    let (minor, c) ← versionNumber start c.next
    if !isSpaceOrEnd c.peek
      then scanError (some (.directive, start)) (.digitOrSpaceExpected c.peek) c.mark
    return (.version major minor, c.mark, c)
  else if name = "TAG" then
    let (handle, c) ← tagHandle .directive start (c.skipWhile (· == ' '))
    if c.peek != ' '
      then scanError (some (.directive, start)) (.charExpected "' '" c.peek) c.mark
    let (uri, c) ← tagUri .directive .directiveUri start (c.skipWhile (· == ' '))
    if !isSpaceOrEnd c.peek
      then scanError (some (.directive, start)) (.charExpected "' '" c.peek) c.mark
    return (.handle handle uri, c.mark, c)
  else return (.other name, c.mark, c.skipWhile fun ch => !isEnd ch)

/-- A name of letters, digits, dashes and underscores. -/
def handleName (context : Context) (start : Mark) (ends : Char → Bool) (c : Cursor) :
    Except Failure (String × Cursor) := do
  let name := c.taken isHandleChar
  if name.isEmpty then scanError (some (context, start)) (.nameExpected c.peek) c.mark
  let c := c.skip name.length
  if !ends c.peek then scanError (some (context, start)) (.nameExpected c.peek) c.mark
  return (String.ofList name, c)

/-- A directive at the cursor. -/
def directive (c : Cursor) : Except Failure (Token × Cursor) := do
  let start := c.mark
  let (name, c) ← handleName .directive start isSpaceOrEnd c.next
  let (d, stop, c) ← directiveValue start name c
  let c ← ignoredLine .directive start c
  return (⟨.directive d, start, stop⟩, c)

/-- Whether an exclamation mark stands in the word in front. -/
def wordHasMark (c : Cursor) : Bool :=
  (c.taken fun ch => !isSpaceOrEnd ch).contains '!'

/-- A tag at the cursor. -/
def tag (c : Cursor) : Except Failure (Token × Cursor) := do
  let start := c.mark
  let (handle, suffix, c) ←
    if c.peek 1 == '<' then do
      let (uri, c) ← tagUri .tag .tagUri start (c.skip 2)
      if c.peek != '>'
        then scanError (some (.tagUri, start)) (.charExpected "'>'" c.peek) c.mark
      pure (none, uri, c.next)
    else if isBlankOrEnd (c.peek 1) then pure (none, "!", c.next)
    else do
      let (handle, c) ← if wordHasMark c.next then tagHandle .tag start c
        else pure ("!", c.next)
      let (suffix, c) ← tagUri .tag .tagUri start c
      pure (some handle, suffix, c)
  if !isSpaceOrEnd c.peek
    then scanError (some (.tag, start)) (.charExpected "' '" c.peek) c.mark
  return (⟨.tag handle suffix, start, c.mark⟩, c)

/-- Characters that may follow the name of an anchor or alias. -/
def endsAnchor (c : Char) : Bool :=
  isBlankOrEnd c || "?:,]\x7d%@\x60".toList.contains c

/-- An anchor or an alias at the cursor. -/
def anchorOrAlias (c : Cursor) : Except Failure (Token × Cursor) := do
  let start := c.mark
  let isAlias := c.peek == '*'
  let (name, c) ← handleName (.named (if isAlias then "alias" else "anchor")) start
    endsAnchor c.next
  return (⟨if isAlias then .alias name else .anchor name, start, c.mark⟩, c)

/-! ### Tokens -/

/-- Runs a function that cuts a token at the cursor. -/
def cut (f : Cursor → Except Failure (Token × Cursor)) : Scan Unit := do
  match f (← get).cursor with
  | .ok (t, c) => modify fun s => { s with cursor := c, tokens := s.tokens.push t }
  | .error e => throw e

/-- The end of the document. -/
def fetchEnd : Scan Unit := do
  unwind (-1)
  dropKey
  modify fun s => { s with allowKey := false, keys := [], done := true }
  pushHere .streamEnd

/-- A directive. -/
def fetchDirective : Scan Unit := do
  unwind (-1)
  dropKey
  setAllowKey false
  cut directive

/-- A separator of documents. -/
def fetchSeparator (kind : TokenKind) : Scan Unit := do
  unwind (-1)
  dropKey
  setAllowKey false
  pushChars kind 3

/-- An opening bracket. -/
def fetchFlowStart (kind : TokenKind) : Scan Unit := do
  notePossibleKey
  modify fun s => { s with flow := s.flow + 1, allowKey := true }
  pushChars kind 1

/-- A closing bracket. -/
def fetchFlowEnd (kind : TokenKind) : Scan Unit := do
  dropKey
  modify fun s => { s with flow := s.flow - 1, allowKey := false }
  pushChars kind 1

/-- A comma in a flow collection. -/
def fetchFlowEntry : Scan Unit := do
  setAllowKey true
  dropKey
  pushChars .flowEntry 1

/-- Opens a block at the cursor if the cursor is deeper than the current one, and
refuses it where no key may begin. -/
def openBlock (kind : TokenKind) (problem : Problem) : Scan Unit := do
  let s ← get
  if !s.inFlow then
    if !s.allowKey then failHere none problem
    if ← deepen s.cursor.mark.column then pushHere kind

/-- A dash in front of an entry. -/
def fetchBlockEntry : Scan Unit := do
  openBlock .blockSequenceStart .entryNotAllowed
  setAllowKey true
  dropKey
  pushChars .blockEntry 1

/-- A question mark in front of a key. -/
def fetchKey : Scan Unit := do
  openBlock .blockMappingStart .keyNotAllowed
  setAllowKey !(← get).inFlow
  dropKey
  pushChars .key 1

/-- Puts tokens in front of the token with the given number. -/
def insertTokens (ts : Array Token) (number : Nat) (new : List Token) : Array Token :=
  ts.take number ++ new.toArray ++ ts.drop number

/-- A colon behind a key. -/
def fetchValue : Scan Unit := do
  let s ← get
  match s.keys.lookup s.flow with
  | some k =>
    set { s with keys := s.keys.filter fun (level, _) => level != s.flow }
    let opens ← if s.inFlow then pure false else deepen k.mark.column
    let key : Token := ⟨.key, k.mark, k.mark⟩
    let new := if opens then [⟨.blockMappingStart, k.mark, k.mark⟩, key] else [key]
    modify fun s =>
      { s with tokens := insertTokens s.tokens k.token new, allowKey := false }
  | none =>
    openBlock .blockMappingStart .valueNotAllowed
    setAllowKey !(← get).inFlow
    dropKey
  pushChars .value 1

/-- An anchor, an alias or a tag. -/
def fetchProperty (f : Cursor → Except Failure (Token × Cursor)) : Scan Unit := do
  notePossibleKey
  setAllowKey false
  cut f

/-- A block scalar. -/
def fetchBlockScalar (folded : Bool) : Scan Unit := do
  setAllowKey true
  dropKey
  let indent := (← get).indent
  cut fun c => do
    let b ← blockScalar folded indent c
    return (⟨.scalar (String.ofList b.text) false, c.mark, b.stop⟩, b.cursor)

/-- The kind of a quoted scalar with code points. -/
def quotedKind (codes : List Nat) : TokenKind :=
  match Text.charsOf? codes with
  | some text => .scalar (String.ofList text) false
  | none => .halves codes

/-- A quoted scalar. -/
def fetchQuoted : Scan Unit :=
  fetchProperty fun c => do
    let (codes, after) ← quotedScalar c
    return (⟨quotedKind codes, c.mark, after.mark⟩, after)

/-- A plain scalar. -/
def fetchPlain : Scan Unit := do
  notePossibleKey
  let s ← get
  let p := plainScalar s.inFlow (s.indent + 1) s.cursor
  modify fun t => { t with
    cursor := p.cursor
    allowKey := p.broken
    tokens := t.tokens.push ⟨.scalar (String.ofList p.text) true, s.cursor.mark, p.stop⟩ }

/-- Characters that mean something else at the start of a token than the start of a
plain scalar. -/
def isIndicator (c : Char) : Bool :=
  "-?:,[]\x7b\x7d#&*!|>'\"%@\x60".toList.contains c

/-- Whether a plain scalar begins at the cursor. -/
def startsPlain (flow : Bool) (c : Cursor) : Bool :=
  let ch := c.peek
  !(isBlankOrEnd ch || isIndicator ch)
    || (!isBlankOrEnd (c.peek 1) && (ch == '-' || (!flow && (ch == '?' || ch == ':'))))

/-- The token at the cursor. -/
def fetchAt (c : Cursor) (flow : Bool) : Scan Unit :=
  let ch := c.peek
  let alone := isBlankOrEnd (c.peek 1)
  if ch == '\x00' then fetchEnd
  else if ch == '%' && c.mark.column == 0 then fetchDirective
  else if ch == '-' && c.mark.column == 0 && c.atSeparator
    then fetchSeparator .documentStart
  else if ch == '.' && c.mark.column == 0 && c.atSeparator
    then fetchSeparator .documentEnd
  else if ch == '[' then fetchFlowStart .flowSequenceStart
  else if ch == '\x7b' then fetchFlowStart .flowMappingStart
  else if ch == ']' then fetchFlowEnd .flowSequenceEnd
  else if ch == '\x7d' then fetchFlowEnd .flowMappingEnd
  else if ch == ',' then fetchFlowEntry
  else if ch == '-' && alone then fetchBlockEntry
  else if ch == '?' && (flow || alone) then fetchKey
  else if ch == ':' && (flow || alone) then fetchValue
  else if ch == '*' || ch == '&' then fetchProperty anchorOrAlias
  else if ch == '!' then fetchProperty tag
  else if ch == '|' && !flow then fetchBlockScalar false
  else if ch == '>' && !flow then fetchBlockScalar true
  else if ch == '\'' || ch == '"' then fetchQuoted
  else if startsPlain flow c then fetchPlain
  else failNext ch
where
  failNext (ch : Char) : Scan Unit := do
    let m := (← get).cursor.mark
    throw (.marked ⟨.scanning, some .nextToken, none, .badStart ch, m⟩)

/-- Fetches what comes next: at least one token. -/
def fetch : Scan Unit := do
  let s ← get
  if s.cursor.mark.index = 0 && s.cursor.peek == '\ufeff'
    then set { s with cursor := s.cursor.next }
  skipToToken (s.cursor.rest.length + 1)
  dropStaleKeys
  unwind (← get).cursor.mark.column
  let s ← get
  fetchAt s.cursor s.inFlow

/-- The tokens of a document, up to an error if there is one. -/
structure Tokens where
  list : List Token
  failure : Option Failure
deriving Repr, DecidableEq

/-- Fetches tokens until the end or an error; `n` bounds the rounds. -/
def fetchAll (s : Scanner) : Nat → Tokens
  | 0 => ⟨s.tokens.toList, none⟩
  | n + 1 =>
    let fail (e : Failure) : Tokens := ⟨(s.tokens.take s.settled).toList, some e⟩
    match fetch.run s with
    | .error e => fail e
    | .ok ((), t) =>
      if t.done then ⟨t.tokens.toList, none⟩
      else match dropStaleKeys.run t with
        | .error e => fail e
        | .ok ((), t) => fetchAll t n

/-- The tokens of a document. -/
def tokensOf (cs : List Char) : Tokens :=
  fetchAll (.start cs) (cs.length + 2)

end RuleLint.Yaml
