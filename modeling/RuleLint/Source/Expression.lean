/-
RuleLint/Source/Expression.lean

The grammar of expressions.  The readers here take the grammar for what is nested deeper
as an argument (`sub`), and `grammar` closes the circle with a count of levels.  A
node's place is the place of the first token of the phrase that it stands for.

Whether a phrase is a target of an assignment shows only behind it.  So targets are read
as expressions and turned into targets afterwards (`Tree.retarget?`), which refuses what
cannot be assigned to.
-/
import RuleLint.Source.Reader

namespace RuleLint.Source

/-! ### Targets -/

mutual

/-- A tree that is used as a target; names, members, items of containers, and lists and
tuples of targets can be. -/
def Tree.retarget? (u : Tree.Use) : Tree → Option Tree
  | .branch kind p fields =>
    if kind = "Name" ∨ kind = "Attribute" ∨ kind = "Subscript"
      then some (.branch kind p (Fields.reuse u fields))
    else if kind = "List" ∨ kind = "Tuple"
      then (Fields.retarget? u fields).map (.branch kind p ·)
    else if kind = "Starred" ∧ u ≠ .delete
      then (Fields.retarget? u fields).map (.branch kind p ·)
    else none
  | .item _ => none

/-- Fields with their trees used as targets. -/
def Fields.retarget? (u : Tree.Use) : Fields → Option Fields
  | .nil => some .nil
  | .cons name f rest =>
    if name = "ctx" then (Fields.retarget? u rest).map (.cons name u.field.2 ·)
    else match Field.retarget? u f, Fields.retarget? u rest with
      | some g, some more => some (.cons name g more)
      | _, _ => none

/-- A field with its trees used as targets. -/
def Field.retarget? (u : Tree.Use) : Field → Option Field
  | .one t => (Tree.retarget? u t).map .one
  | .many ts => (Siblings.retarget? u ts).map .many
  | f => some f

/-- Trees used as targets. -/
def Siblings.retarget? (u : Tree.Use) : Siblings → Option Siblings
  | .nil => some .nil
  | .cons t rest =>
    match Tree.retarget? u t, Siblings.retarget? u rest with
    | some s, some more => some (.cons s more)
    | _, _ => none

/-- Fields with another use. -/
def Fields.reuse (u : Tree.Use) : Fields → Fields
  | .nil => .nil
  | .cons name f rest =>
      if name = "ctx" then .cons name u.field.2 (Fields.reuse u rest)
        else .cons name f (Fields.reuse u rest)

end

namespace Grammar

open Reader

/-- The phrases that may be nested. -/
inductive Phrase where
  | expression
  | disjunction
  | inversion
  /-- Operands of comparisons. -/
  | operand
  | factor
deriving Repr, BEq, DecidableEq

/-- Readers of nested phrases. -/
abbrev Sub := Phrase → Reader Tree

/-- Turns a tree into a target. -/
def asTarget (u : Tree.Use) (t : Tree) : Reader Tree :=
  match t.retarget? u with
  | some s => return s
  | none => mismatch

/-- Whether a token may start an expression. -/
def startsExpression : Reader Bool := do
  let t ← peek
  match t.kind with
  | .name | .number | .string => return true
  | .word => return ["True", "False", "None", "not", "lambda", "await"].contains t.text
  | .sign => return ["(", "[", "\x7b", "-", "+", "~", "...", "*"].contains t.text
  | _ => return false

section Phrases

variable (sub : Sub)

/-! ### Lists of expressions -/

/-- An expression, which may get a name. -/
def namedExpr : Reader Tree := do
  if ← seesNameThen ":=" then
    let p ← here
    let id ← name
    advance
    return .namedExpr p (.name p id .store) (← sub .expression)
  else sub .expression

/-- An expression, or one that is spread. -/
def starNamed : Reader Tree := do
  let p ← here
  if ← acceptSign "*" then return .starred p (← sub .operand) else namedExpr sub

/-- An expression without a name, or one that is spread. -/
def starExpression : Reader Tree := do
  let p ← here
  if ← acceptSign "*" then return .starred p (← sub .operand) else sub .expression

/-- An expression or, with commas, a tuple. -/
def starExpressions : Reader Tree := do
  let p ← here
  let (es, comma) ← items (starExpression sub) startsExpression
  match es, comma with
  | [e], false => return e
  | es, _ => return .tuple p es

/-- What is handed out. -/
def yieldExpr : Reader Tree := do
  let p ← here
  expectWord "yield"
  if ← acceptWord "from" then return .yieldFrom p (← sub .expression)
  else if ← startsExpression then return .yield p (some (← starExpressions sub))
  else return .yield p none

/-- The right side of an assignment. -/
def rightSide : Reader Tree := do
  if ← seesWord "yield" then yieldExpr sub else starExpressions sub

/-- A target, which may take all that is left. -/
def starTarget : Reader Tree := do
  let p ← here
  let t ← if ← acceptSign "*" then pure (.starred p (← sub .operand)) else sub .operand
  asTarget .store t

/-- A target or, with commas, a tuple of targets. -/
def starTargets : Reader Tree := do
  let p ← here
  let (ts, comma) ← items (starTarget sub) startsExpression
  match ts, comma with
  | [t], false => return t
  | ts, _ => return .tuple p ts .store

/-! ### Comprehensions -/

/-- Whether a clause of a comprehension is in front. -/
def seesClause : Reader Bool := do
  if ← seesWord "for" then return true
  else if ← seesWord "async" then
    let t ← ahead 1
    return t.kind == .word && t.text == "for"
  else return false

/-- A clause of a comprehension. -/
def clause : Reader Tree := do
  let isAsync ← acceptWord "async"
  expectWord "for"
  let target ← starTargets sub
  expectWord "in"
  let iter ← sub .disjunction
  let ifs ← collect do
    if ← acceptWord "if" then return some (← sub .disjunction) else return none
  return .comprehension target iter ifs isAsync

/-- The clauses of a comprehension. -/
def clauses : Reader (List Tree) :=
  collect do if ← seesClause then return some (← clause sub) else return none

/-! ### Brackets -/

/-- A tuple, a generator, or an expression in parentheses. -/
def parens : Reader Tree := do
  let p ← here
  expectSign "("
  if ← acceptSign ")" then return .tuple p []
  if ← seesWord "yield" then
    let y ← yieldExpr sub
    expectSign ")"
    return y
  let spread ← seesSign "*"
  let first ← starNamed sub
  if !spread then
    if ← seesClause then
      let cs ← clauses sub
      expectSign ")"
      return .comprehended p "GeneratorExp" first cs
  let (more, comma) ← moreItems (starNamed sub) startsExpression
  expectSign ")"
  if comma then return .tuple p (first :: more)
  else if spread then mismatch
  else return first

/-- A list, written out or described. -/
def brackets : Reader Tree := do
  let p ← here
  expectSign "["
  if ← acceptSign "]" then return .list p []
  let spread ← seesSign "*"
  let first ← starNamed sub
  if !spread then
    if ← seesClause then
      let cs ← clauses sub
      expectSign "]"
      return .comprehended p "ListComp" first cs
  let (more, _) ← moreItems (starNamed sub) startsExpression
  expectSign "]"
  return .list p (first :: more)

/-- An entry of a mapping. -/
def entry : Reader (Option Tree × Tree) := do
  if ← acceptSign "**" then return (none, ← sub .operand)
  else
    let k ← sub .expression
    expectSign ":"
    return (some k, ← sub .expression)

/-- Whether an entry of a mapping may start. -/
def startsEntry : Reader Bool := do
  if ← seesSign "**" then return true else startsExpression

/-- A mapping, from its first entry on. -/
def mapping (p : Place) (first : Option Tree × Tree) : Reader Tree := do
  match first with
  | (some k, v) =>
    if ← seesClause then
      let cs ← clauses sub
      expectSign "\x7d"
      return .dictComp p k v cs
  | _ => pure ()
  let (more, _) ← moreItems (entry sub) startsEntry
  expectSign "\x7d"
  return .dict p (first :: more)

/-- A set, from its first element on. -/
def setFrom (p : Place) (spread : Bool) (first : Tree) : Reader Tree := do
  if !spread then
    if ← seesClause then
      let cs ← clauses sub
      expectSign "\x7d"
      return .comprehended p "SetComp" first cs
  let (more, _) ← moreItems (starNamed sub) startsExpression
  expectSign "\x7d"
  return .set p (first :: more)

/-- A mapping or a set. -/
def braces : Reader Tree := do
  let p ← here
  expectSign "\x7b"
  if ← acceptSign "\x7d" then return .dict p []
  if ← seesSign "**" then mapping sub p (← entry sub)
  else if ← seesSign "*" then setFrom sub p true (← starNamed sub)
  else if ← seesNameThen ":=" then setFrom sub p false (← namedExpr sub)
  else
    let first ← sub .expression
    if ← acceptSign ":" then mapping sub p (some first, ← sub .expression)
    else setFrom sub p false first

/-! ### Strings -/

/-- The tokens of a text that starts at a place. -/
def tokensAt (p : Place) (cs : List Char) : Tokens :=
  Lexer.run (2 * cs.length + 5) true ⟨cs ++ ['\n'], p, [], [(0, 0)], #[]⟩

/-- The places that the parts of a template get: the string that the token is part of,
and the token. -/
structure TemplatePlaces where
  whole : Place
  token : Place
  unicodeMark : Bool

/-- The values of a template, with the text that is left behind them.  Texts grow
together until a field comes; `n` bounds the levels of formats. -/
def templateValues (at_ : TemplatePlaces) :
    Nat → List Nat → List Segment → Reader (List Tree × List Nat)
  | 0, pending, _ => return ([], pending)
  | n + 1, pending, segments => do
    let (values, pending) ← segments.foldlM
        (fun ((values, pending) : List Tree × List Nat) segment => do
      match segment with
      | .text points => return (values, pending ++ points)
      | .field expression start conversion format =>
        let value ← within (tokensAt start ('(' :: expression ++ [')']))
          (starExpressions sub)
        let spec ← match format with
          | none => pure none
          | some parts =>
            let (inner, last) ← templateValues at_ n [] parts
            let tail := if last.isEmpty then []
              else [Tree.constant at_.token (.text last)]
            pure (some (Tree.joinedStr at_.token (inner ++ tail)))
        let before := if pending.isEmpty then []
          else [Tree.constant at_.whole (.text pending) at_.unicodeMark]
        return (values ++ before ++ [.formattedValue at_.whole value conversion spec],
          [])) ([], pending)
    return (values, pending)

/-- A string that may be read, or a fault. -/
def orFault {α : Type} : Option α → Reader α
  | some a => return a
  | none => fault .invalid

/-- A row of strings, which are one string. -/
def joinStrings (first : Token) (tokens : List Token) : Reader Tree := do
  let p := first.place
  let mark := first.text.startsWith "u"
  let parts := tokens.map fun t => (t.place, StringToken.ofToken t)
  if parts.any fun (_, s) => s.isBytes then
    if parts.all fun (_, s) => s.isBytes then
      let values ← parts.mapM fun (_, s) => orFault s.bytes?
      return .constant p (.bytes values.flatten)
    else fault .invalid
  else
    let (values, pending) ← parts.foldlM (fun ((values, pending) : List Tree × List Nat)
        (place, s) => do
      if s.isTemplate then
        let segments ← orFault s.segments?
        let (more, pending) ← templateValues sub ⟨p, place, mark⟩ 4 pending segments
        return (values ++ more, pending)
      else return (values, pending ++ (← orFault (pointsOf s.isRaw s.body)))) ([], [])
    if parts.any fun (_, s) => s.isTemplate then
      let tail := if pending.isEmpty then [] else [Tree.constant p (.text pending) mark]
      return .joinedStr p (values ++ tail)
    else return .constant p (.text pending) mark

/-- Strings in a row. -/
def strings : Reader Tree := do
  let first ← peek
  let tokens ← collect do
    let t ← peek
    if t.kind == .string then
      advance
      return some t
    else return none
  if tokens.isEmpty then mismatch else joinStrings sub first tokens

/-! ### Atoms and what follows them -/

/-- A number. -/
def number : Reader Literal := do
  let t ← peek
  if t.kind == .number then
    advance
    orFault (numberOf? t.text)
  else mismatch

/-- The smallest expressions. -/
def atom : Reader Tree := do
  let t ← peek
  let p := t.place
  match t.kind, t.text with
  | .name, _ => return .name p (← name)
  | .number, _ => return .constant p (← number)
  | .string, _ => strings sub
  | .word, "True" => do advance; return .constant p (.bool true)
  | .word, "False" => do advance; return .constant p (.bool false)
  | .word, "None" => do advance; return .constant p .none
  | .sign, "..." => do advance; return .constant p .ellipsis
  | .sign, "(" => parens sub
  | .sign, "[" => brackets sub
  | .sign, "\x7b" => braces sub
  | _, _ => mismatch

/-- The kinds of arguments, in the order in which they may come. -/
inductive ArgumentPhase where
  | positional
  | keywords
  | mappings
deriving BEq, DecidableEq

/-- Arguments so far, the latest first. -/
structure Arguments where
  phase : ArgumentPhase
  args : List Tree
  keywords : List Tree

/-- An argument. -/
def argument (a : Arguments) : Reader Arguments := do
  let p ← here
  if ← acceptSign "**" then
    return { a with
      phase := .mappings
      keywords := .keyword p none (← sub .expression) :: a.keywords }
  else if ← acceptSign "*" then
    if a.phase == .mappings then mismatch
    return { a with args := .starred p (← sub .expression) :: a.args }
  else if ← seesNameThen "=" then
    let id ← name
    advance
    let phase := if a.phase == .positional then .keywords else a.phase
    return { a with
      phase
      keywords := .keyword p (some id) (← sub .expression) :: a.keywords }
  else if a.phase == .positional
    then return { a with args := (← namedExpr sub) :: a.args }
  else mismatch

/-- Whether an argument may start. -/
def startsArgument : Reader Bool := do
  if ← seesSign "**" then return true else startsExpression

/-- Arguments behind the first one. -/
def moreArguments (a : Arguments) : Reader Arguments := do
  let (a, _) ← repeatWhile (fun ((a, more) : Arguments × Bool) => do
    if !more then return none
    if ← acceptSign "," then
      if ← startsArgument then return some (← argument sub a, true)
        else return some (a, false)
    else return none) (a, true)
  return a

/-- The arguments of a call or of a class, with their parentheses.  A call may have a
generator as its only argument. -/
def arguments (isCall : Bool) : Reader (List Tree × List Tree) := do
  let p ← here
  expectSign "("
  if ← acceptSign ")" then return ([], [])
  let a ← argument sub ⟨.positional, [], []⟩
  match isCall, a.phase, a.args with
  | true, .positional, [e] =>
    if e.kind ≠ "Starred" then
      if ← seesClause then
        let cs ← clauses sub
        expectSign ")"
        return ([.comprehended p "GeneratorExp" e cs], [])
  | _, _, _ => pure ()
  let a ← moreArguments sub a
  expectSign ")"
  return (a.args.reverse, a.keywords.reverse)

/-- An expression in a slice, unless the slice leaves it out. -/
def bound : Reader (Option Tree) := do
  if ← startsExpression then return some (← sub .expression) else return none

/-- What is behind the first colon of a slice. -/
def sliceFrom (p : Place) (lower : Option Tree) : Reader Tree := do
  expectSign ":"
  let upper ← bound sub
  let step ← if ← acceptSign ":" then bound sub else pure none
  return .slice p lower upper step

/-- An item of a subscript. -/
def sliceItem : Reader Tree := do
  let p ← here
  if ← acceptSign "*" then return .starred p (← sub .expression)
  else if ← seesSign ":" then sliceFrom sub p none
  else if ← seesNameThen ":=" then namedExpr sub
  else
    let e ← sub .expression
    if ← seesSign ":" then sliceFrom sub p (some e) else return e

/-- Whether an item of a subscript may start. -/
def startsSlice : Reader Bool := do
  if ← seesSign ":" then return true else startsExpression

/-- A subscript, with its brackets. -/
def subscripts : Reader Tree := do
  expectSign "["
  let p ← here
  let spread ← seesSign "*"
  let (es, comma) ← items (sliceItem sub) startsSlice
  expectSign "]"
  match es, comma || spread with
  | [e], false => return e
  | es, _ => return .tuple p es

/-- An atom with members, calls and subscripts behind it. -/
def primary : Reader Tree := do
  let p ← here
  repeatWhile (fun e => do
    let t ← peek
    match t.kind, t.text with
    | .sign, "." =>
      advance
      return some (.member p e (← name))
    | .sign, "(" =>
      let (args, keywords) ← arguments sub true
      return some (.call p e args keywords)
    | .sign, "[" => return some (.subscript p e (← subscripts sub))
    | _, _ => return none) (← atom sub)

/-! ### Operators -/

/-- Powers, which bind to the left of a sign. -/
def power : Reader Tree := do
  let p ← here
  let base ← if ← acceptWord "await" then pure (.await p (← primary sub)) else primary sub
  if ← acceptSign "**" then return .binOp p "Pow" base (← sub .factor) else return base

/-- Signs of one operand. -/
def factor : Reader Tree := do
  let p ← here
  if ← acceptSign "+" then return .unaryOp p "UAdd" (← sub .factor)
  else if ← acceptSign "-" then return .unaryOp p "USub" (← sub .factor)
  else if ← acceptSign "~" then return .unaryOp p "Invert" (← sub .factor)
  else power sub

/-- Operators that bind equally, from the left. -/
def leftChain (table : List (String × String)) (operand : Reader Tree) : Reader Tree := do
  let p ← here
  repeatWhile (fun e => do
    let t ← peek
    if t.kind == .sign then
      match table.lookup t.text with
      | some op =>
        advance
        return some (.binOp p op e (← operand))
      | none => return none
    else return none) (← operand)

/-- The operators on numbers, the tightest first. -/
def operatorTables : List (List (String × String)) :=
  [[("*", "Mult"), ("/", "Div"), ("//", "FloorDiv"), ("%", "Mod"), ("@", "MatMult")],
   [("+", "Add"), ("-", "Sub")],
   [("<<", "LShift"), (">>", "RShift")],
   [("&", "BitAnd")],
   [("^", "BitXor")],
   [("|", "BitOr")]]

/-- Operands of comparisons. -/
def operand : Reader Tree :=
  operatorTables.foldl (fun p table => leftChain table p) (factor sub)

/-- Signs of comparisons. -/
def comparisonSigns : List (String × String) :=
  [("==", "Eq"), ("!=", "NotEq"), ("<=", "LtE"), ("<", "Lt"), (">=", "GtE"), (">", "Gt")]

/-- The comparison in front, if there is one. -/
def comparisonOp : Reader (Option String) := do
  let t ← peek
  match t.kind, t.text with
  | .sign, s =>
    match comparisonSigns.lookup s with
    | some op => do advance; return some op
    | none => return none
  | .word, "in" => do advance; return some "In"
  | .word, "is" => do
    advance
    if ← acceptWord "not" then return some "IsNot" else return some "Is"
  | .word, "not" => do
    let u ← ahead 1
    if u.kind == .word && u.text == "in" then
      advance
      advance
      return some "NotIn"
    else return none
  | _, _ => return none

/-- Comparisons, which may be chained. -/
def comparison : Reader Tree := do
  let p ← here
  let left ← operand sub
  let rest ← collect do
    match ← comparisonOp with
    | some op => return some (op, ← operand sub)
    | none => return none
  if rest.isEmpty then return left else return .compare p left rest

/-- Negations. -/
def inversion : Reader Tree := do
  let p ← here
  if ← acceptWord "not" then return .unaryOp p "Not" (← sub .inversion)
    else comparison sub

/-- Operands with a word between them. -/
def wordChain (word op : String) (operand : Reader Tree) : Reader Tree := do
  let p ← here
  let first ← operand
  let rest ← collect do
    if ← acceptWord word then return some (← operand) else return none
  if rest.isEmpty then return first else return .boolOp p op (first :: rest)

/-- Conjunctions. -/
def conjunction : Reader Tree := wordChain "and" "And" (inversion sub)

/-- Disjunctions. -/
def disjunction : Reader Tree := wordChain "or" "Or" (conjunction sub)

/-! ### Parameters -/

/-- Parameters so far, each list with the latest first. -/
structure ParameterState where
  positional : List Tree := []
  args : List Tree := []
  vararg : Option Tree := none
  keywordOnly : List (Tree × Option Tree) := []
  kwarg : Option Tree := none
  defaults : List Tree := []
  slash : Bool := false
  star : Bool := false
  /-- A lone star needs a parameter behind it. -/
  owed : Bool := false

/-- A name with an annotation, if there may be one. -/
def parameter (annotated spread : Bool) : Reader Tree := do
  let p ← here
  let id ← name
  if annotated then
    if ← acceptSign ":" then
      let a ← if spread then starExpression sub else sub .expression
      return .arg p id (some a)
  return .arg p id none

/-- A parameter or a sign between parameters. -/
def parameterStep (annotated : Bool) (s : ParameterState) : Reader ParameterState := do
  if s.kwarg.isSome then mismatch
  else if ← acceptSign "/" then
    if s.slash || s.star || s.args.isEmpty then mismatch
    return { s with positional := s.args, args := [], slash := true }
  else if ← acceptSign "*" then
    if s.star then mismatch
    if ← seesSign "," then return { s with star := true, owed := true }
    return { s with star := true, vararg := some (← parameter sub annotated true) }
  else if ← acceptSign "**" then
    if s.owed then mismatch
    return { s with kwarg := some (← parameter sub annotated false) }
  else
    let a ← parameter sub annotated false
    let default ← if ← acceptSign "=" then pure (some (← sub .expression)) else pure none
    if s.star then
      return { s with keywordOnly := (a, default) :: s.keywordOnly, owed := false }
    match default with
    | some d => return { s with args := a :: s.args, defaults := d :: s.defaults }
    | none =>
        if s.defaults.isEmpty then return { s with args := a :: s.args } else mismatch

/-- The parameters of a function up to a closing sign, which is not taken. -/
def parameters (annotated : Bool) (closing : String) : Reader Tree := do
  let (s, _) ← repeatWhile (fun ((s, more) : ParameterState × Bool) => do
    if !more then return none
    if ← seesSign closing then return none
    let s ← parameterStep sub annotated s
    return some (s, ← acceptSign ",")) ({}, true)
  if s.owed then mismatch
  return .arguments {
    positional := s.positional.reverse
    args := s.args.reverse
    vararg := s.vararg
    keywordOnly := s.keywordOnly.reverse.map (·.1)
    keywordDefaults := s.keywordOnly.reverse.map (·.2)
    kwarg := s.kwarg
    defaults := s.defaults.reverse }

/-! ### Expressions -/

/-- A function without a name. -/
def lambda : Reader Tree := do
  let p ← here
  expectWord "lambda"
  let args ← parameters sub false ":"
  expectSign ":"
  return .lambda p args (← sub .expression)

/-- An expression. -/
def expression : Reader Tree := do
  if ← seesWord "lambda" then lambda sub
  else
    let p ← here
    let body ← disjunction sub
    if ← acceptWord "if" then
      let test ← disjunction sub
      expectWord "else"
      return .ifExp p test body (← sub .expression)
    else return body

end Phrases

/-- The grammar of nested phrases up to a number of levels. -/
def grammar : Nat → Phrase → Reader Tree
  | 0, _ => fault .invalid
  | n + 1, .expression => expression (grammar n)
  | n + 1, .disjunction => disjunction (grammar n)
  | n + 1, .inversion => inversion (grammar n)
  | n + 1, .operand => operand (grammar n)
  | n + 1, .factor => factor (grammar n)

end Grammar

end RuleLint.Source
