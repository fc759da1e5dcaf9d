/-
RuleLint/XPath/Parse.lean

Reading path expressions.

Each level of the grammar is a function of the reader for a whole expression, one
nesting deeper; `expression` ties the levels together by recursion on the depth that is
left, and runs out with the error for too deep a nesting.

Paths that hold nothing but names, stars, dots and slashes are read by `plainPaths?`
first.  It takes what the grammar takes, and two things more: a bar at the very end, and
a name beyond ASCII right behind the first slash.
-/
import RuleLint.Text.Identifier
import RuleLint.XPath.Error
import RuleLint.XPath.Expr

namespace RuleLint.XPath

open RuleLint.Text

/-! ### Characters -/

/-- Blanks of the language. -/
def isSpace (c : Char) : Bool :=
  c == ' ' || c == '\t' || c == '\n' || c == '\r'

/-- Characters that begin a name. -/
def startsName (c : Char) : Bool := isNameStart c

/-- Characters that go on with a name. -/
def continuesName (c : Char) : Bool :=
  isNamePart c || c == '.' || c == '-'

/-- Whether a text may stand in a document. -/
def isDocumentChar (c : Char) : Bool :=
  let n := c.toNat
  (0x20 ≤ n && n != 0xfffe && n != 0xffff) || c == '\t' || c == '\n' || c == '\r'

/-- A text without the blanks in front. -/
def skipSpace (cs : List Char) : List Char :=
  cs.dropWhile isSpace

/-- A name in front, and what is behind it. -/
def cutName? : List Char → Option (String × List Char)
  | c :: rest =>
    if startsName c then some (String.ofList (c :: rest.takeWhile continuesName),
      rest.dropWhile continuesName) else none
  | [] => none

/-! ### Plain paths -/

/-- A step of a plain path on `base`. -/
def plainStep? (base : Expr) (cs : List Char) : Option (Expr × List Char) :=
  match skipSpace cs with
  | '.' :: rest => some (.step base .self .anyNode .nil, rest)
  | '*' :: rest => some (.step base .child .any .nil, rest)
  | cs =>
      (cutName? cs).map fun (name, rest) =>
        (.step base .child (.named name) .nil, skipSpace rest)

/-- Further steps of a plain path; `n` bounds their number. -/
def plainSteps? (base : Expr) (cs : List Char) : Nat → Option Expr
  | 0 => none
  | n + 1 =>
    match skipSpace cs with
    | [] => some base
    | '/' :: '/' :: rest =>
        (plainStep? base.deep rest).bind fun (e, rest) => plainSteps? e rest n
    | '/' :: rest => (plainStep? base rest).bind fun (e, rest) => plainSteps? e rest n
    | _ => none

/-- A plain path, and whether it starts at the top. -/
def plainPath? (cs : List Char) : Option (Bool × Expr) :=
  let n := cs.length + 1
  match skipSpace cs with
  | '/' :: '/' :: rest => do
    let (e, rest) ← plainStep? (Expr.deep .top) rest
    return (true, ← plainSteps? e rest n)
  | '/' :: rest => do
    let (e, rest) ← plainStep? .top rest
    return (true, ← plainSteps? e rest n)
  | cs => do
    let (e, rest) ← plainStep? .here cs
    return (false, ← plainSteps? e rest n)

/-- Plain paths divided by bars, all from the top or all from the context node; nothing
needs to follow the last bar. -/
def plainPaths? (cs : List Char) : Option Expr := do
  if cs.any fun c => c == '[' || c == '(' || c == '@' || c == ':' then none
  let pieces := cs.splitOn '|'
  let pieces := if pieces.getLast? = some [] then pieces.dropLast else pieces
  match ← pieces.mapM plainPath? with
  | [] => none
  | (fromTop, e) :: more =>
    if more.all fun (other, _) => other == fromTop then
      return more.foldl (fun acc (_, e) => .union acc e) e
    else none

/-! ### The reader -/

abbrev Read := StateT (List Char) (Except Error)

/-- Skips blanks. -/
def blanks : Read Unit := modify skipSpace

/-- The character in front. -/
def peek : Read (Option Char) := do
  return (← get).head?

/-- Whether a text is in front. -/
def sees (s : String) : Read Bool := do
  return s.toList.isPrefixOf (← get)

/-- Skips `n` characters. -/
def skip (n : Nat) : Read Unit := modify (·.drop n)

/-- Skips a text if it is in front. -/
def accept (s : String) : Read Bool := do
  if ← sees s then
    skip s.length
    return true
  return false

/-- A name in front, if there is one. -/
def name? : Read (Option String) := do
  match cutName? (← get) with
  | some (name, rest) =>
    set rest
    return some name
  | none => return none

/-- A name with an optional space before a colon; nothing is given if the last part is
missing. -/
def qualifiedName? : Read (Option (Option String × String)) := do
  match ← name? with
  | none => return none
  | some first =>
    if ← accept ":" then
      match ← name? with
      | some second => return some (some first, second)
      | none => return none
    return some (none, first)

/-- Repeats a step that says with `none` that there is nothing more; `n` bounds the
rounds. -/
def repeatWhile {α : Type} (step : α → Read (Option α)) : Nat → α → Read α
  | 0, a => return a
  | n + 1, a => do
    match ← step a with
    | some b => repeatWhile step n b
    | none => return a

/-- Repeats a step as long as it finds something to read. -/
def repeatAll {α : Type} (step : α → Read (Option α)) (a : α) : Read α := do
  repeatWhile step ((← get).length + 1) a

/-! ### Numbers and texts -/

/-- The value of digits, each folded in. -/
def foldDigits (ds : List Char) : Float :=
  ds.foldl (fun x c => x * 10 + (c.toNat - '0'.toNat).toFloat) 0

/-- The value of the digits behind a point; of those behind the leading zeros twenty
count. -/
def fractionOf (ds : List Char) : Float :=
  let zeros := ds.takeWhile (· == '0')
  let rest := (ds.dropWhile (· == '0')).take 20
  foldDigits rest / (10 : Float).pow (zeros.length + rest.length).toFloat

/-- An exponent in front, if there is one, and what is behind it. -/
def cutExponent (cs : List Char) : Int × List Char :=
  match cs with
  | c :: rest =>
    if c == 'e' || c == 'E' then
      let (negative, rest) := match rest with
        | '-' :: more => (true, more)
        | '+' :: more => (false, more)
        | _ => (false, rest)
      let ds := rest.takeWhile Char.isDigit
      let n : Int :=
        ds.foldl (fun n d => if n < 1000000 then 10 * n + (d.toNat - '0'.toNat)
          else n) (0 : Nat)
      (if negative then -n else n, rest.dropWhile Char.isDigit)
    else (0, cs)
  | [] => (0, cs)

/-- Ten to an integer. -/
def powerOfTen (e : Int) : Float :=
  (10 : Float).pow (Float.ofInt e)

/-- An unsigned number in front, and what is behind it. -/
def cutNumber? (cs : List Char) : Option (Float × List Char) :=
  let whole := cs.takeWhile Char.isDigit
  let rest := cs.dropWhile Char.isDigit
  let (x, rest) := match rest with
    | '.' :: more =>
        (foldDigits whole + fractionOf (more.takeWhile Char.isDigit),
          more.dropWhile Char.isDigit)
    | _ => (foldDigits whole, rest)
  let bare := whole.isEmpty && match cs with
    | '.' :: d :: _ => !d.isDigit
    | _ => true
  if bare then none
  else
    let (e, rest) := cutExponent rest
    some (if e = 0 then x else x * powerOfTen e, rest)

/-- A number. -/
def number : Read Expr := do
  match cutNumber? (← get) with
  | some (x, rest) =>
    set rest
    return .number x
  | none => throw .badNumber

/-- A text in quotes. -/
def literalText : Read String := do
  match ← get with
  | q :: rest =>
    if q == '"' || q == '\'' then
      match rest.dropWhile (· != q) with
      | _ :: more =>
        set more
        return String.ofList (rest.takeWhile (· != q))
      | [] => throw .unfinishedLiteral
    else throw .literalExpected
  | [] => throw .literalExpected

/-! ### Steps -/

/-- The axis of a name. -/
def axisNamed? : String → Option Axis
  | "ancestor" => some .ancestor
  | "ancestor-or-self" => some .ancestorOrSelf
  | "attribute" => some .attr
  | "child" => some .child
  | "descendant" => some .descendant
  | "descendant-or-self" => some .descendantOrSelf
  | "following" => some .following
  | "following-sibling" => some .followingSibling
  | "namespace" => some .spaces
  | "parent" => some .parent
  | "preceding" => some .preceding
  | "preceding-sibling" => some .precedingSibling
  | "self" => some .self
  | _ => none

/-- Names that ask for a kind of node when a parenthesis follows. -/
def isNodeKind (name : String) : Bool :=
  name == "node" || name == "text" || name == "comment" ||
    name == "processing-instruction"

/-- A test for a kind of node, behind its opening parenthesis. -/
def kindTest (name : String) : Read Test := do
  blanks
  let test ← match name with
    | "comment" => pure Test.comment
    | "node" => pure Test.anyNode
    | "text" => pure Test.text
    | "processing-instruction" => do
      if ← sees ")" then pure (Test.instruction none)
      else
        let target ← literalText
        blanks
        pure (Test.instruction (some target))
    | _ => throw .badExpression
  if !(← accept ")") then throw .unclosedParen
  return test

/-- What a step asks of a node; `given` is a name that was read already. -/
def nodeTest (given : Option String) : Read Test := do
  blanks
  let star ← if given.isNone then accept "*" else pure false
  if star then return .any
  let first ← match given with
    | some name => pure (some name)
    | none => name?
  match first with
  | none => throw .badExpression
  | some name =>
    let spaced := (← peek).any isSpace
    blanks
    if ← accept "(" then kindTest name
    else if !spaced && (← sees ":") then
      skip 1
      if ← accept "*" then return .inSpace name none
      match ← name? with
      | some second => return .inSpace name (some second)
      | none => throw .badExpression
    else return .named name

/-- A condition in brackets. -/
def condition (expr : Read Expr) : Read Expr := do
  blanks
  if !(← accept "[") then throw .badPredicate
  blanks
  let e ← expr
  if !(← accept "]") then throw .badPredicate
  blanks
  return e

/-- The conditions of a step. -/
def conditions (expr : Read Expr) : Read Exprs := do
  blanks
  repeatAll (fun (acc : Exprs) => do
    if ← sees "[" then return some (acc.snoc (← condition expr)) else return none) .nil

/-- The axis of a step, and the name that was read in vain for it. -/
def stepAxis : Read (Axis × Option String) := do
  if ← sees "*" then return (.child, none)
  if ← accept "@" then return (.attr, none)
  match ← name? with
  | none => return (.child, none)
  | some name =>
    match axisNamed? name with
    | none => return (.child, some name)
    | some axis =>
      blanks
      if ← accept "::" then return (axis, none)
      return (.child, some name)

/-- A step on `base`. -/
def step (expr : Read Expr) (base : Expr) : Read Expr := do
  blanks
  if ← accept ".." then
    blanks
    return .step base .parent .anyNode .nil
  if ← accept "." then
    blanks
    return base
  let (axis, given) ← stepAxis
  let test ← nodeTest given
  return .step base axis test (← conditions expr)

/-- One or two slashes in front of a step on `base`, if there are any. -/
def slashes (base : Expr) : Read Expr := do
  if ← accept "//" then
    blanks
    return base.deep
  if ← accept "/" then blanks
  return base

/-- Steps divided by slashes, with one or two slashes in front if there are any. -/
def relativePath (expr : Read Expr) (base : Expr) : Read Expr := do
  blanks
  let first ← step expr (← slashes base)
  blanks
  repeatAll (fun (e : Expr) => do
    if ← accept "//" then
      blanks
      let e ← step expr e.deep
      blanks
      return some e
    else if ← accept "/" then
      blanks
      let e ← step expr e
      blanks
      return some e
    else return none) first

/-- Characters that a step may begin with right behind a single slash at the front of a
path. -/
def beginsStep (c : Char) : Bool :=
  (c.toNat < 128 && c.isAlpha) || c == '_' || c == '.' || c == '@' || c == '*'

/-- A path from the top or from the context node. -/
def locationPath (expr : Read Expr) : Read Expr := do
  blanks
  if ← sees "/" then
    repeatAll (fun (e : Expr) => do
      if ← accept "//" then
        blanks
        return some (← relativePath expr e.deep)
      else if ← accept "/" then
        blanks
        if (← peek).any beginsStep then return some (← relativePath expr e)
        return some e
      else return none) .top
  else relativePath expr .here

/-! ### Primary expressions -/

/-- A variable. -/
def variableRef : Read Expr := do
  skip 1
  match ← qualifiedName? with
  | some (space, name) =>
    blanks
    return .varRef space name
  | none => throw .variableExpected

/-- The arguments of a call, behind the opening parenthesis.  At the end of the text
they count as closed. -/
def arguments (expr : Read Expr) : Read Exprs := do
  blanks
  if ← sees ")" then return .nil
  let (args, _) ← repeatAll (fun ((acc, more) : Exprs × Bool) => do
    if !more || (← peek).isNone then return none
    let e ← expr
    let acc := acc.snoc e
    if ← sees ")" then return some (acc, false)
    if !(← accept ",") then throw .badExpression
    blanks
    return some (acc, true)) (.nil, true)
  return args

/-- A call of a function. -/
def functionCall (expr : Read Expr) : Read Expr := do
  match ← qualifiedName? with
  | none => throw .badExpression
  | some (space, name) =>
    blanks
    if !(← accept "(") then throw .badExpression
    let args ← arguments expr
    skip 1
    blanks
    return .call space name args

/-- A variable, an expression in parentheses, a number, a text or a call. -/
def primary (expr : Read Expr) : Read Expr := do
  blanks
  let e ← match ← peek with
    | some '$' => variableRef
    | some '(' => do
      skip 1
      blanks
      let e ← expr
      if !(← accept ")") then throw .badExpression
      pure e
    | some c =>
      if c.isDigit || c == '.' then number
      else if c == '"' || c == '\'' then return .literal (← literalText)
      else functionCall expr
    | none => functionCall expr
  blanks
  return e

/-- A primary expression with conditions. -/
def filtered (expr : Read Expr) : Read Expr := do
  let e ← primary expr
  blanks
  repeatAll (fun (e : Expr) => do
    if ← sees "[" then
      let c ← condition expr
      blanks
      return some (.filter e c)
    else return none) e

/-- The longest text in front that could be a name with a space or an axis. -/
def scanName? (cs : List Char) : Option (List Char) :=
  match cs with
  | c :: _ =>
      if startsName c || c == ':' then some (cs.takeWhile fun d => continuesName d ||
        d == ':') else none
  | [] => none

/-- Whether a text holds two colons in a row. -/
def hasDoubleColon : List Char → Bool
  | ':' :: ':' :: _ => true
  | _ :: rest => hasDoubleColon rest
  | [] => false

/-- Whether a path is in front, rather than a primary expression. -/
def pathAhead (cs : List Char) : Except Error Bool :=
  match cs with
  | c :: rest =>
    if c == '$' || c == '(' || c.isDigit || c == '\'' || c == '"' then .ok false
    else if c == '.' then .ok !(rest.head?.any Char.isDigit)
    else if c == '*' || c == '/' || c == '@' then .ok true
    else match scanName? cs with
      | none => .error .badExpression
      | some name =>
        if hasDoubleColon name then .ok true
        else match skipSpace (cs.drop name.length) with
          | '(' :: _ => .ok (isNodeKind (String.ofList name))
          | _ => .ok true
  | [] => .error .badExpression

/-- A path, or a primary expression that a path may follow. -/
def pathExpr (expr : Read Expr) : Read Expr := do
  blanks
  if ← liftExcept (pathAhead (← get)) then
    let e ← locationPath expr
    blanks
    return e
  let e ← filtered expr
  let e ← pathBehind e
  blanks
  return e
where
  pathBehind (e : Expr) : Read Expr := do
    if ← accept "//" then
      blanks
      return ← relativePath expr e.deep
    if ← sees "/" then relativePath expr e else return e
  liftExcept (r : Except Error Bool) : Read Bool := match r with
    | .ok b => return b
    | .error e => throw e

/-! ### Operators -/

/-- Operands joined from the left by operators in front. -/
def chain (operand : Read Expr) (operator : Read (Option (Expr → Expr → Expr))) :
    Read Expr := do
  let first ← operand
  blanks
  repeatAll (fun (e : Expr) => do
    match ← operator with
    | none => return none
    | some join =>
      blanks
      let e := join e (← operand)
      blanks
      return some e) first

/-- An operator for a text in front. -/
def operatorOf (table : List (String × (Expr → Expr → Expr))) :
    Read (Option (Expr → Expr → Expr)) := do
  let cs ← get
  match table.find? fun (s, _) => s.toList.isPrefixOf cs with
  | some (s, join) =>
    skip s.length
    return some join
  | none => return none

/-- Paths joined by bars. -/
def unionExpr (expr : Read Expr) : Read Expr :=
  chain (pathExpr expr) (operatorOf [("|", .union)])

/-- An expression with signs in front. -/
def unaryExpr (expr : Read Expr) : Read Expr := do
  blanks
  let signs := (← get).takeWhile fun c => c == '-' || isSpace c
  skip signs.length
  let e ← unionExpr expr
  match signs.count '-' with
  | 0 => return e
  | n => return if n % 2 = 1 then .neg e else .plus e

/-- Products. -/
def productExpr (expr : Read Expr) : Read Expr :=
  chain (unaryExpr expr) (operatorOf [("*", .arith .mul), ("div", .arith .div),
    ("mod", .arith .mod)])

/-- Sums. -/
def sumExpr (expr : Read Expr) : Read Expr :=
  chain (productExpr expr) (operatorOf [("+", .arith .add), ("-", .arith .sub)])

/-- Comparisons of order. -/
def orderExpr (expr : Read Expr) : Read Expr :=
  chain (sumExpr expr) (operatorOf [("<=", .rel .le), (">=", .rel .ge), ("<", .rel .lt),
    (">", .rel .gt)])

/-- Comparisons for equality. -/
def equalityExpr (expr : Read Expr) : Read Expr :=
  chain (orderExpr expr) (operatorOf [("=", .eq), ("!=", .ne)])

/-- Conjunctions. -/
def bothExpr (expr : Read Expr) : Read Expr :=
  chain (equalityExpr expr) (operatorOf [("and", .both)])

/-- An expression of at most the given depth of nesting. -/
def expression : Nat → Read Expr
  | 0 => throw .tooDeep
  | depth + 1 => chain (bothExpr (expression depth)) (operatorOf [("or", .either)])

/-- The greatest depth of nesting. -/
def depthLimit : Nat := 500

/-- Reads an expression that makes up the whole text. -/
def wholeExpression (cs : List Char) : Except Error Expr := do
  let (e, rest) ← (expression depthLimit).run cs
  if rest = [] then return e else throw .badExpression

/-- Reads a query. -/
def Query.ofText (source : String) : Except Error Query := do
  let cs := source.toList
  if !cs.all isDocumentChar then throw .forbiddenChars
  match plainPaths? cs with
  | some expr => return { source, expr }
  | none => return { source, expr := ← wholeExpression cs }

end RuleLint.XPath
