/-
RuleLint/Regex/Parse.lean

Reading the text of a regular expression.

The text is read in tokens: a character, or a backslash with the character after it.  The
reader looks one token ahead, and a backslash at the very end is refused as soon as it
comes into sight.  Flags written at the start of the pattern hold for all of it and come
before the first item, so the flags in force are known wherever a leaf is made.

Recursion is bounded by a count that every call lowers; as each round of a loop consumes
a token, three times the length of the text is always enough.
-/
import RuleLint.Number.Read
import RuleLint.Regex.Error
import RuleLint.Regex.Pattern
import RuleLint.Text.CharName
import RuleLint.Text.Identifier

namespace RuleLint.Regex

open RuleLint.Text

/-! ### The reader -/

/-- What the reader knows at a place of the text. -/
structure Reader where
  source : List Char
  rest : List Char
  place : Nat
  flags : Flags
  names : List (String × Nat)
  /-- The widths of the groups, from group 1 on; `none` while a group is open. -/
  widths : Array (Option (Nat × Nat))
  /-- The number of groups before the outermost look-behind that is open. -/
  behindFrom : Option Nat
  /-- Groups asked for by number in conditions, with the place of the number. -/
  asked : List (Nat × Nat)
  /-- Whether some look-behind has no fixed width. -/
  looseBehind : Bool

abbrev Read := StateT Reader (Except Error)

/-- Refuses the text at a place `back` before the current one. -/
def refuse {α : Type} (cause : Cause) (back : Nat := 0) : Read α := do
  let r ← get
  throw (.text cause r.source (r.place - back))

/-- The token in front. -/
def Reader.token (r : Reader) : Option (List Char) :=
  match r.rest with
  | [] => none
  | '\\' :: c :: _ => some ['\\', c]
  | c :: _ => some [c]

/-- The token in front. -/
def peek : Read (Option (List Char)) := do
  return (← get).token

/-- Whether the token in front is a given character. -/
def ahead (c : Char) : Read Bool := do
  return (← peek) == some [c]

/-- Sets the reader to a place, unless a lone backslash is in front there. -/
def moveTo (rest : List Char) (place : Nat) : Read Unit := do
  if rest = ['\\'] then
    throw (.text .escapeAtEnd (← get).source ((← get).source.length - 1))
  modify fun r => { r with rest, place }

/-- Takes the token in front, if there is one. -/
def next : Read (Option (List Char)) := do
  let r ← get
  match r.token with
  | none => return none
  | some t =>
    moveTo (r.rest.drop t.length) (r.place + t.length)
    return some t

/-- Takes the token in front if it is a given character. -/
def accept (c : Char) : Read Bool := do
  if ← ahead c then
    discard next
    return true
  return false

/-- Takes up to `n` characters that satisfy a test. -/
def takeChars (test : Char → Bool) : Nat → Read (List Char)
  | 0 => return []
  | n + 1 => do
    match ← peek with
    | some [c] =>
      if test c then
        discard next
        return c :: (← takeChars test n)
      return []
    | _ => return []

/-- Takes all digits in front. -/
def takeDigits : Read (List Char) := do
  takeChars Char.isDigit (← get).rest.length

/-- Takes tokens up to a closing character, which is taken too; `taken` is what was
read. -/
def takeName (closing : Char) (what : String) : Nat → List Char → Read String
  | 0, taken => return String.ofList taken
  | n + 1, taken => do
    match ← next with
    | none =>
      if taken = [] then refuse (.missingName what)
      refuse (.unterminatedName (String.ofList [closing])) taken.length
    | some t =>
      if t = [closing] then
        if taken = [] then refuse (.missingName what) 1
        return String.ofList taken
      takeName closing what n (taken ++ t)

/-- Takes a name up to a closing character. -/
def readName (closing : Char) (what : String) : Read String := do
  takeName closing what ((← get).rest.length + 1) []

/-! ### Escapes -/

/-- An item under construction, with what a repeat after it has to know. -/
inductive Item where
  | plain (n : Node)
  | anchor (a : Anchor)
  | loop (n : Node)

/-- The node of an item. -/
def Item.node : Item → Node
  | .plain n | .loop n => n
  | .anchor a => .anchor a

/-- Control characters written as a letter. -/
def controlEscape? : Char → Option Nat
  | 'a' => some 7
  | 'b' => some 8
  | 'f' => some 12
  | 'n' => some 10
  | 'r' => some 13
  | 't' => some 9
  | 'v' => some 11
  | '\\' => some 92
  | _ => none

/-- Classes written as a letter. -/
def classEscape? : Char → Option Member
  | 'd' => some (.named .digit false)
  | 'D' => some (.named .digit true)
  | 's' => some (.named .space false)
  | 'S' => some (.named .space true)
  | 'w' => some (.named .word false)
  | 'W' => some (.named .word true)
  | _ => none

/-- Conditions written as a letter. -/
def anchorEscape? (ascii : Bool) : Char → Option Anchor
  | 'A' => some .textStart
  | 'b' => some (.boundary ascii true)
  | 'B' => some (.boundary ascii false)
  | 'Z' => some .textEnd
  | _ => none

/-- The code point of `\x`, `\u` or `\U` with exactly `width` digits after it. -/
def hexEscape (c : Char) (width : Nat) : Read Nat := do
  let ds ← takeChars (fun d => (hexDigit? d).isSome) width
  let text := '\\' :: c :: ds
  if ds.length ≠ width then refuse (.incompleteEscape (String.ofList text)) text.length
  let n := hexNat ds
  if 0x10ffff < n then refuse (.badEscape (String.ofList text)) text.length
  return n

/-- The code point of a named character, behind `\N`. -/
def nameEscape : Read Nat := do
  if !(← accept '\x7b') then refuse .missingBrace
  let name ← readName '\x7d' "character name"
  match charNamed? name with
  | some n => return n
  | none => refuse (.undefinedName name) (name.length + 4)

/-- Octal digits. -/
def isOctal (c : Char) : Bool := '0' ≤ c && c ≤ '7'

/-- The number of a list of octal digits. -/
def octalNat (cs : List Char) : Nat :=
  cs.foldl (fun n c => 8 * n + (c.toNat - '0'.toNat)) 0

/-- An octal escape, refused above 255. -/
def octalEscape (ds : List Char) : Read Nat := do
  let n := octalNat ds
  if 0o377 < n then refuse (.octalTooLarge (String.ofList ('\\' :: ds))) (ds.length + 1)
  return n

/-- Escapes that mean a code point in and outside of sets. -/
def pointEscape? (c : Char) : Option (Read Nat) :=
  match c with
  | 'x' => some (hexEscape 'x' 2)
  | 'u' => some (hexEscape 'u' 4)
  | 'U' => some (hexEscape 'U' 8)
  | 'N' => some nameEscape
  | _ => none

/-- A backslash before any other character; letters and digits are refused. -/
def literalEscape (c : Char) : Read Nat := do
  if c.isAlphanum then refuse (.badEscape (String.ofList ['\\', c])) 2
  return c.toNat

/-- An escape in a set of characters. -/
def setEscape (c : Char) : Read Member := do
  match controlEscape? c with
  | some n => return .point n
  | none =>
    match classEscape? c, pointEscape? c with
    | some m, _ => return m
    | none, some read => return .point (← read)
    | none, none =>
      if isOctal c then return .point (← octalEscape (c :: (← takeChars isOctal 2)))
      return .point (← literalEscape c)

/-- Whether a group may be referred to by number: it exists and is closed. -/
def Reader.closedGroup (r : Reader) (id : Nat) : Bool :=
  id ≠ 0 && ((r.widths[id - 1]?).bind (·)).isSome

/-- Inside a look-behind only groups that were closed before it may be referred to. -/
def checkBehind (id : Nat) : Read Unit := do
  let r ← get
  match r.behindFrom with
  | none => return ()
  | some first =>
    if !r.closedGroup id then refuse .openGroup
    if first ≤ id then refuse .lookbehindGroup

/-- The flags in force. -/
def flagsHere (scope : Option Flags) : Read Flags := do
  return scope.getD (← get).flags

/-- A digit behind a backslash: an octal escape of three digits, or the number of a
group. -/
def digitEscape (flags : Flags) (c : Char) : Read Node := do
  let more ← takeChars Char.isDigit 1
  let third ← if isOctal c && more ≠ [] && more.all isOctal
    then takeChars isOctal 1 else pure []
  if third ≠ [] then return .leaf (.point flags.fold (← octalEscape (c :: more ++ third)))
  let ds := c :: more
  let id := Number.decimalNat ds
  let r ← get
  if r.widths.size < id then refuse (.invalidReference id) ds.length
  if !r.closedGroup id then refuse .openGroup (ds.length + 1)
  checkBehind id
  return .ref flags.fold id

/-- An escape outside of sets. -/
def escape (scope : Option Flags) (c : Char) : Read Item := do
  let flags ← flagsHere scope
  match anchorEscape? flags.ascii c with
  | some a => return .anchor a
  | none =>
    match classEscape? c, controlEscape? c, pointEscape? c with
    | some m, _, _ => return .plain (.leaf (.oneOf flags.fold flags.ascii false [m]))
    | none, some n, _ => return .plain (.leaf (.point flags.fold n))
    | none, none, some read => return .plain (.leaf (.point flags.fold (← read)))
    | none, none, none =>
      if c = '0' then
        return .plain (.leaf (.point flags.fold (octalNat (← takeChars isOctal 2))))
      if c.isDigit then return .plain (← digitEscape flags c)
      return .plain (.leaf (.point flags.fold (← literalEscape c)))

/-! ### Sets of characters -/

/-- A member that begins with a token. -/
def setMember (t : List Char) : Read Member :=
  match t with
  | ['\\', c] => setEscape c
  | c :: _ => return .point c.toNat
  | [] => return .point 0

/-- The members of a set whose opening bracket is at `start`, in reverse order. -/
def setMembers (start : Nat) : Nat → List Member → Read (List Member)
  | 0, acc => return acc
  | n + 1, acc => do
    let unterminated : Read (List Char) := do
      refuse .unterminatedSet ((← get).place - start)
    let this ← match ← next with
      | none => unterminated
      | some t => pure t
    if this = [']'] ∧ acc ≠ [] then return acc
    let low ← setMember this
    if ← accept '-' then
      let that ← match ← next with
        | none => unterminated
        | some t => pure t
      if that = [']'] then return .point '-'.toNat :: low :: acc
      let high ← setMember that
      let bad : Read Member :=
        refuse (.badRange (String.ofList this) (String.ofList that))
          (this.length + 1 + that.length)
      let range ← match low, high with
        | .point a, .point b => if b < a then bad else pure (.range a b)
        | _, _ => bad
      setMembers start n (range :: acc)
    else setMembers start n (low :: acc)

/-- A set of characters, behind its opening bracket. -/
def charSet (scope : Option Flags) : Read Node := do
  let start := (← get).place - 1
  let negated ← accept '^'
  let members ← setMembers start ((← get).rest.length + 1) []
  let flags ← flagsHere scope
  return .leaf (.oneOf flags.fold flags.ascii negated members.reverse)

/-! ### Repeats -/

/-- The bounds of a repeat in braces, behind the opening brace; `none` if the brace
means itself. -/
def braces : Read (Option (Nat × Option Nat)) := do
  if ← ahead '\x7d' then return none
  let r ← get
  let low ← takeDigits
  let high ← if ← accept ',' then takeDigits else pure low
  if !(← accept '\x7d') then
    moveTo r.rest r.place
    return none
  let least := Number.decimalNat low
  if low ≠ [] ∧ roundLimit ≤ least then throw .tooManyRounds
  if high = [] then return some (least, none)
  let most := Number.decimalNat high
  if roundLimit ≤ most then throw .tooManyRounds
  if most < least then refuse .repeatBounds ((← get).place - r.place)
  return some (least, some most)

/-- How a repeat goes about it, by the sign behind it. -/
def hasteOfRepeat : Read Haste := do
  if ← accept '?' then return .reluctant
  if ← accept '+' then return .possessive
  return .greedy

/-- Repeats the last item; `start` is the place behind the sign of the repeat. -/
def repeatLast (start : Nat) (least : Nat) (most : Option Nat) (acc : List Item) :
    Read (List Item) := do
  let back := (← get).place - start + 1
  match acc with
  | [] | .anchor _ :: _ => refuse .nothingToRepeat back
  | .loop _ :: _ => refuse .multipleRepeat back
  | .plain body :: before =>
    return .loop (.loop (← hasteOfRepeat) least most body) :: before

/-! ### Flags in the text -/

/-- The flag of a letter. -/
def flagOf? : Char → Option Flags
  | 'i' => some { ignoreCase := true }
  | 'm' => some { multiline := true }
  | 's' => some { dotAll := true }
  | 'x' => some { verbose := true }
  | 'a' => some { ascii := true }
  | 't' => some { template := true }
  | 'u' => some { unicode := true }
  | _ => none

/-- Whether a token is a letter for a flag; the locale's letter is one, though texts
refuse it. -/
def isFlag : List Char → Bool
  | [c] => (flagOf? c).isSome || c == 'L'
  | _ => false

/-- A token that stands where a flag is wanted. -/
def notFlag {α : Type} (t : List Char) (otherwise : Cause) : Read α :=
  let letters := t.all fun c => c != '_' && isNameStart c
  refuse (if letters then .unknownFlag else otherwise) t.length

/-- Flags to turn on, from the token `t` on, with the token that ends them. -/
def flagsOn : Nat → Flags → List Char → Read (Flags × List Char)
  | 0, on, t => return (on, t)
  | n + 1, on, t => do
    if t = ['L'] then refuse .localeFlag
    let on := on.union (((t.head?).bind flagOf?).getD {})
    if on.ascii && on.unicode && (t = ['a'] || t = ['u']) then refuse .flagsClash
    match ← next with
    | none => refuse .missingFlagsEnd
    | some u =>
      if u = [')'] ∨ u = ['-'] ∨ u = [':'] then return (on, u)
      if !isFlag u then notFlag u .missingFlagsEnd
      flagsOn n on u

/-- Flags to turn off, from the token `t` up to the colon. -/
def flagsOff : Nat → Flags → List Char → Read Flags
  | 0, off, _ => return off
  | n + 1, off, t => do
    if t = ['a'] ∨ t = ['u'] ∨ t = ['L'] then refuse .alphabetFlagOff
    let off := off.union (((t.head?).bind flagOf?).getD {})
    match ← next with
    | none => refuse .missingColon
    | some u =>
      if u = [':'] then return off
      if !isFlag u then notFlag u .missingColon
      flagsOff n off u

/-- Flags from the token `t` on: `none` if they hold for the whole pattern, else what is
turned on and off in a group. -/
def readFlags (t : List Char) : Read (Option (Flags × Flags)) := do
  let n := (← get).rest.length + 1
  let (on, last) ← if t = ['-'] then pure ({}, t) else flagsOn n {} t
  if last = [')'] then
    modify fun r => { r with flags := r.flags.union on }
    return none
  if on.template then refuse .globalFlagOn 1
  let off ← if last = ['-'] then
      match ← next with
      | none => refuse .missingFlag
      | some u =>
        if !isFlag u then notFlag u .missingFlag
        flagsOff n {} u
    else pure {}
  if off.template then refuse .globalFlagOff 1
  if on.inter off ≠ {} then refuse .flagOnAndOff 1
  return some (on, off)

/-! ### Groups -/

/-- A name of a group, refused if it is none. -/
def groupName (closing : Char) : Read String := do
  let name ← readName closing "group name"
  if !isName name.toList then refuse (.badGroupName name) (name.length + 1)
  return name

/-- The number of a named group. -/
def groupNamed (name : String) : Read Nat := do
  match (← get).names.lookup name with
  | some id => return id
  | none => refuse (.unknownGroupName name) (name.length + 1)

/-- Opens a group and gives its number. -/
def openGroup (name : Option String) : Read Nat := do
  let r ← get
  let id := r.widths.size + 1
  match name with
  | none => modify fun r => { r with widths := r.widths.push none }
  | some s =>
    match r.names.lookup s with
    | some previous => refuse (.redefinedGroup s id previous) (s.length + 1)
    | none =>
        modify fun r =>
          { r with widths := r.widths.push none, names := (s, id) :: r.names }
  return id

/-- The width of a node, the groups being as wide as is known. -/
def widthHere (n : Node) : Read (Nat × Nat) := do
  let ws := (← get).widths
  return n.width fun id => ((ws[id - 1]?).bind (·)).getD (0, 0)

/-- Closes a group. -/
def closeGroup (id : Nat) (body : Node) : Read Unit := do
  let w ← widthHere body
  modify fun r => { r with widths := r.widths.setIfInBounds (id - 1) (some w) }

/-- The group that a condition asks for. -/
def conditionGroup : Read Nat := do
  let name ← readName ')' "group name"
  if isName name.toList then
    let id ← groupNamed name
    checkBehind id
    return id
  match Number.readInt? 10 name.toList with
  | some (.ofNat 0) => refuse .badGroupNumber (name.length + 1)
  | some (.ofNat id) =>
    if Nat.pow 2 30 ≤ id then refuse (.invalidReference id) (name.length + 1)
    modify fun r =>
      if (r.asked.lookup id).isSome then r
        else { r with asked := r.asked ++ [(id, r.place - name.length - 1)] }
    checkBehind id
    return id
  | _ => refuse (.badGroupName name) (name.length + 1)

/-- Takes the closing parenthesis of a group that was opened at `start`. -/
def closeParen (start : Nat) : Read Unit := do
  if !(← accept ')') then refuse .unterminatedGroup ((← get).place - start)

/-- Skips a comment up to its closing parenthesis. -/
def skipComment (start : Nat) : Nat → Read Unit
  | 0 => return ()
  | n + 1 => do
    match ← peek with
    | none => refuse .unterminatedComment ((← get).place - start)
    | some t =>
      discard next
      if t = [')'] then return ()
      skipComment start n

/-- Skips the rest of a line. -/
def skipLine : Nat → Read Unit
  | 0 => return ()
  | n + 1 => do
    match ← next with
    | none => return ()
    | some t => if t = ['\n'] then return () else skipLine n

/-- Blanks that a verbose pattern may be spread with. -/
def isLoose (t : List Char) : Bool :=
  [" ", "\t", "\n", "\r", "\x0b", "\x0c"].contains (String.ofList t)

/-- Nodes one after the other; the list is reversed. -/
def catItems : List Item → Node
  | [] => .empty
  | [i] => i.node
  | i :: before => .cat (catItems before) i.node

/-- What an opening parenthesis begins. -/
inductive Opening where
  | group (name : Option String)
  | scoped (on off : Flags)
  | atomic
  | ahead (wanted : Bool)
  | behind (wanted : Bool)
  | condition
  | ref (id : Nat)
  | nothing
  | globalFlags

/-- Reads what follows `(?P`. -/
def namedOpening : Read Opening := do
  if ← accept '<' then return .group (some (← groupName '>'))
  if ← accept '=' then
    let name ← groupName ')'
    let id ← groupNamed name
    if !(← get).closedGroup id then refuse .openGroup (name.length + 1)
    checkBehind id
    return .ref id
  match ← next with
  | none => refuse .patternEnds
  | some t => refuse (.unknownExtension ("P" ++ String.ofList t)) (t.length + 2)

/-- Reads what follows an opening parenthesis at `start`. -/
def readOpening (start : Nat) : Read Opening := do
  if !(← accept '?') then return .group none
  match ← next with
  | none => refuse .patternEnds
  | some t =>
    match t with
    | ['P'] => namedOpening
    | [':'] => return .scoped {} {}
    | ['#'] => do
      skipComment start ((← get).rest.length + 1)
      return .nothing
    | ['='] => return .ahead true
    | ['!'] => return .ahead false
    | ['<'] => do
      match ← next with
      | none => refuse .patternEnds
      | some u =>
        if u = ['='] then return .behind true
        if u = ['!'] then return .behind false
        refuse (.unknownExtension ("<" ++ String.ofList u)) (u.length + 2)
    | ['('] => return .condition
    | ['>'] => return .atomic
    | _ =>
      if isFlag t || t = ['-'] then
        match ← readFlags t with
        | none => return .globalFlags
        | some (on, off) => return .scoped on off
      else refuse (.unknownExtension (String.ofList t)) (t.length + 1)

/-! ### The grammar -/

mutual

/-- Alternatives up to a closing parenthesis or the end; `top` says that they make up
the whole pattern. -/
def alternatives : Nat → Option Flags → Bool → Bool → Bool → Read Node
  | 0, _, _, _, _ => return .empty
  | n + 1, scope, verbose, top, first => do
    let one := catItems (← items n scope verbose (top && first) [])
    if ← accept '|' then
      let r ← get
      let verbose := if top then r.flags.verbose else verbose
      return .alt one (← alternatives n scope verbose top false)
    return one

/-- Items up to a bar, a closing parenthesis or the end, in reverse order; `first`
allows flags for the whole pattern. -/
def items : Nat → Option Flags → Bool → Bool → List Item → Read (List Item)
  | 0, _, _, _, acc => return acc
  | n + 1, scope, verbose, first, acc => do
    match ← peek with
    | none => return acc
    | some t =>
      if t = ['|'] ∨ t = [')'] then return acc
      discard next
      if verbose && isLoose t then items n scope verbose first acc
      else if verbose && t = ['#'] then
        skipLine ((← get).rest.length + 1)
        items n scope verbose first acc
      else
        let start := (← get).place
        match t with
        | ['\\', c] => items n scope verbose first ((← escape scope c) :: acc)
        | ['['] => items n scope verbose first (.plain (← charSet scope) :: acc)
        | ['?'] => items n scope verbose first (← repeatLast start 0 (some 1) acc)
        | ['*'] => items n scope verbose first (← repeatLast start 0 none acc)
        | ['+'] => items n scope verbose first (← repeatLast start 1 none acc)
        | ['\x7b'] => do
          match ← braces with
          | some (least, most) =>
              items n scope verbose first (← repeatLast start least most acc)
          | none =>
            let fold := (← flagsHere scope).fold
            items n scope verbose first (.plain (.leaf (.point fold 0x7b)) :: acc)
        | ['.'] => do
          let newline := (← flagsHere scope).dotAll
          items n scope verbose first (.plain (.leaf (.any newline)) :: acc)
        | ['^'] => do
          let a := if (← flagsHere scope).multiline then .lineStart else .textStart
          items n scope verbose first (.anchor a :: acc)
        | ['$'] => do
          let a := if (← flagsHere scope).multiline then .lineEnd else .lastLineEnd
          items n scope verbose first (.anchor a :: acc)
        | ['('] => do
          match ← readOpening (start - 1) with
          | .nothing => items n scope verbose first acc
          | .globalFlags =>
            if !first || !acc.isEmpty
              then refuse .flagsNotAtStart ((← get).place - (start - 1))
            items n scope (← get).flags.verbose first acc
          | .ref id =>
              items n scope verbose first
                (.plain (.ref (← flagsHere scope).fold id) :: acc)
          | opening =>
              items n scope verbose first
                (.plain (← parens n scope verbose (start - 1) opening) :: acc)
        | _ =>
          let fold := (← flagsHere scope).fold
          items n scope verbose first
            (.plain (.leaf (.point fold ((t.head?).getD ' ').toNat)) :: acc)

/-- The rest of a group whose opening was read. -/
def parens : Nat → Option Flags → Bool → Nat → Opening → Read Node
  | 0, _, _, _, _ => return .empty
  | n + 1, scope, verbose, start, opening => do
    match opening with
    | .ahead wanted =>
      let body ← alternatives n scope verbose false false
      closeParen start
      return .ahead wanted body
    | .behind wanted =>
      let outer := (← get).behindFrom
      if outer.isNone then modify fun r =>
        { r with behindFrom := some (r.widths.size + 1) }
      let body ← alternatives n scope verbose false false
      if outer.isNone then modify fun r => { r with behindFrom := none }
      closeParen start
      let (low, high) ← widthHere body
      if low ≠ high then modify fun r => { r with looseBehind := true }
      return .behind wanted low body
    | .condition =>
      let id ← conditionGroup
      let yes := catItems (← items n scope verbose false [])
      let no ← if ← accept '|' then
          let no := catItems (← items n scope verbose false [])
          if ← ahead '|' then refuse .tooManyBranches
          pure no
        else pure .empty
      closeParen start
      return .cond id yes no
    | .atomic =>
      let body ← alternatives n scope verbose false false
      closeParen start
      return .atomic body
    | .scoped on off =>
      let flags ← flagsHere scope
      let scope := if on = {} ∧ off = {} then scope else some (flags.adjust on off)
      let body ← alternatives n scope ((verbose || on.verbose) &&
        !off.verbose) false false
      closeParen start
      return .group 0 body
    | .group name =>
      let id ← openGroup name
      let body ← alternatives n scope verbose false false
      closeParen start
      closeGroup id body
      return .group id body
    | _ => return .empty

end

/-- The kinds of the loops of a node, in reading order. -/
def Node.loopKinds : Node → List String
  | .cat a b | .alt a b | .cond _ a b => a.loopKinds ++ b.loopKinds
  | .group _ b | .ahead _ b | .behind _ _ b | .atomic b => b.loopKinds
  | .loop haste _ _ b =>
    (match haste with
      | .greedy => "MAX_REPEAT"
      | .reluctant => "MIN_REPEAT"
      | .possessive => "POSSESSIVE_REPEAT") :: b.loopKinds
  | _ => []

/-- Reads a whole pattern. -/
def readPattern (n : Nat) : Read Node := do
  let r ← get
  moveTo r.rest r.place
  let root ← alternatives n none r.flags.verbose true true
  let flags := (← get).flags
  if flags.ascii && flags.unicode then throw .alphabets
  if (← peek).isSome then refuse .unbalanced
  let r ← get
  for (id, place) in r.asked do
    if r.widths.size < id then throw (.text (.invalidReference id) r.source place)
  if flags.template then
    match root.loopKinds with
    | kind :: _ => throw (.templateRepeat kind)
    | [] => pure ()
  if r.looseBehind then throw .lookbehindWidth
  return root

/-- Reads a regular expression, with flags given beside its text. -/
def Pattern.ofText (flags : Flags) (source : String) : Except Error Pattern := do
  let cs := source.toList
  let start : Reader := ⟨cs, cs, 0, flags, [], #[], none, [], false⟩
  let (root, r) ← (readPattern (3 * cs.length + 5)).run start
  return { source, flags := if r.flags.ascii then r.flags
    else { r.flags with unicode := true }, root }

end RuleLint.Regex
