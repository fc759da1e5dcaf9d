/-
RuleLint/Source/Statement.lean

The grammar of statements.  `sub` reads expressions and `inner` the statements of a
nested block.  A head that ends in a colon and a line end without an indented block
behind it is a fault of indentation whatever else may be wrong, unless a loud fault of
the text comes later.
-/
import RuleLint.Source.Pattern

namespace RuleLint.Source.Grammar

open Reader

/-- Readers of nested statements; a line may hold several. -/
abbrev SubStatement := Unit → Reader (List Tree)

section Statements

variable (sub : Sub) (inner : SubStatement)

/-! ### Simple statements -/

/-- The operators that change a target. -/
def changingSigns : List (String × String) :=
  [("+=", "Add"), ("-=", "Sub"), ("*=", "Mult"), ("@=", "MatMult"), ("/=", "Div"),
    ("%=", "Mod"), ("&=", "BitAnd"),
   ("|=", "BitOr"), ("^=", "BitXor"), ("<<=", "LShift"), (">>=", "RShift"),
     ("**=", "Pow"), ("//=", "FloorDiv")]

/-- Whether a tree is a single target. -/
def isSingleTarget (t : Tree) : Bool :=
  t.kind == "Name" || t.kind == "Attribute" || t.kind == "Subscript"

/-- The rest of an annotated target. -/
def annotated (p : Place) (bare : Bool) (target : Tree) : Reader Tree := do
  unless isSingleTarget target do mismatch
  expectSign ":"
  let t ← asTarget .store target
  let a ← sub .expression
  let value ← if ← acceptSign "=" then pure (some (← rightSide sub)) else pure none
  return .annAssign p t a value (bare && target.kind == "Name")

/-- The rest of an assignment, from the first equals sign on. -/
def assigned (p : Place) (first : Tree) : Reader Tree := do
  let (targets, value) ← repeatWhile (fun ((targets, value) : List Tree × Tree) => do
    if ← acceptSign "=" then
      let t ← asTarget .store value
      return some (t :: targets, ← rightSide sub)
    else return none) ([], first)
  return .assign p targets.reverse value

/-- An expression or an assignment. -/
def expressionStatement : Reader Tree := do
  let p ← here
  let bare ← seesKind .name
  if ← seesWord "yield" then return .exprStatement p (← yieldExpr sub)
  let e ← starExpressions sub
  let t ← peek
  if t.kind ≠ .sign then return .exprStatement p e
  if t.text = ":" then annotated sub p bare e
  else if t.text = "=" then assigned sub p e
  else match changingSigns.lookup t.text with
    | some op =>
      unless isSingleTarget e do mismatch
      advance
      return .augAssign p (← asTarget .store e) op (← rightSide sub)
    | none => return .exprStatement p e

/-- A name with dots in it. -/
def dottedName : Reader String := do
  let first ← name
  repeatWhile (fun s => do
    if ← acceptSign "." then return some (s ++ "." ++ (← name)) else return none) first

/-- Another name for what is imported. -/
def asName : Reader (Option String) := do
  if ← acceptWord "as" then return some (← name) else return none

/-- Something imported. -/
def importedName (reader : Reader String) : Reader Tree := do
  let p ← here
  let id ← reader
  return .importName p id (← asName)

/-- What is imported from a module. -/
def importedNames : Reader (List Tree) := do
  let p ← here
  if ← acceptSign "*" then return [.importName p "*" none]
  else if ← acceptSign "(" then
    let (ns, _) ← items (importedName name) (seesKind .name)
    expectSign ")"
    return ns
  else strictItems (importedName name)

/-- The dots in front of a module. -/
def leadingDots : Reader Nat :=
  repeatWhile (fun n => do
    if ← acceptSign "." then return some (n + 1)
    else if ← acceptSign "..." then return some (n + 3)
    else return none) 0

/-- An import from a module. -/
def importFrom (p : Place) : Reader Tree := do
  let level ← leadingDots
  let module ← if level > 0 && (← seesWord "import") then pure none
    else pure (some (← dottedName))
  expectWord "import"
  return .importFrom p module (← importedNames) level

/-- Whether a simple statement ends here. -/
def seesEnd : Reader Bool := do
  if ← seesKind .newline then return true else seesSign ";"

/-- Targets that are deleted. -/
def deleted : Reader (List Tree) := do
  let (ts, _) ← items (do asTarget .delete (← sub .operand)) startsExpression
  if ← seesEnd then return ts else mismatch

/-- A statement that starts with a reserved word. -/
def wordStatement (p : Place) : String → Reader Tree
  | "pass" => return .at_ p "Pass" []
  | "break" => return .at_ p "Break" []
  | "continue" => return .at_ p "Continue" []
  | "return" => do
    if ← startsExpression then return .return_ p (some (← starExpressions sub))
      else return .return_ p none
  | "raise" => do
    if ← startsExpression then
      let e ← sub .expression
      let cause ← if ← acceptWord "from" then pure (some (← sub .expression))
        else pure none
      return .raise p (some e) cause
    else return .raise p none none
  | "global" => return .names p "Global" (← strictItems name)
  | "nonlocal" => return .names p "Nonlocal" (← strictItems name)
  | "del" => return .delete p (← deleted sub)
  | "assert" => do
    let test ← sub .expression
    let msg ← if ← acceptSign "," then pure (some (← sub .expression)) else pure none
    return .assert p test msg
  | "import" => return .import_ p (← strictItems (importedName dottedName))
  | "from" => importFrom p
  | _ => mismatch

/-- The reserved words that start a simple statement. -/
def simpleWords : List String :=
  ["pass", "break", "continue", "return", "raise", "global", "nonlocal", "del", "assert",
    "import", "from"]

/-- A simple statement. -/
def simpleStatement : Reader Tree := do
  let t ← peek
  if t.kind = .word ∧ simpleWords.contains t.text then
    advance
    wordStatement sub t.place t.text
  else expressionStatement sub

/-- Simple statements on one line. -/
def simpleStatements : Reader (List Tree) := do
  let first ← simpleStatement sub
  let rest ← collect do
    if ← acceptSign ";" then
      if ← seesKind .newline then return none else return some (← simpleStatement sub)
    else return none
  expectKind .newline
  return first :: rest

/-! ### Blocks -/

/-- The fault of a missing block. -/
def missingBlock {α : Type} : Reader α := do
  match (← read).fault with
  | some f => if f.loud then fault f.fault else fault .indentation
  | none => fault .indentation

/-- Statements up to the end of a block. -/
def blockStatements : Reader (List Tree) := do
  let groups ← collect do
    if ← seesKind .dedent then return none
    else if ← seesKind .finish then return none
    else return some (← inner ())
  return groups.flatten

/-- A colon and the block behind it. -/
def block : Reader (List Tree) := do
  expectSign ":"
  if ← accept (seesKind .newline) then
    if ← accept (seesKind .indent) then
      let body ← blockStatements inner
      expectKind .dedent
      return body
    else missingBlock
  else simpleStatements sub

/-- The block behind a word, if the word is there. -/
def blockAfter (word : String) : Reader (List Tree) := do
  if ← acceptWord word then block sub inner else return []

/-! ### Compound statements -/

/-- The further branches of a decision. -/
def elseBranches : Nat → Reader (List Tree)
  | 0 => return []
  | n + 1 => do
    let p ← here
    if ← acceptWord "elif" then
      let test ← namedExpr sub
      let body ← block sub inner
      return [.tested p "If" test body (← elseBranches n)]
    else blockAfter sub inner "else"

/-- A decision. -/
def ifStatement (p : Place) : Reader Tree := do
  let test ← namedExpr sub
  let body ← block sub inner
  return .tested p "If" test body (← elseBranches sub inner (← read).list.size)

/-- A loop as long as a test holds. -/
def whileStatement (p : Place) : Reader Tree := do
  let test ← namedExpr sub
  let body ← block sub inner
  return .tested p "While" test body (← blockAfter sub inner "else")

/-- A loop over a container. -/
def forStatement (p : Place) (kind : String) : Reader Tree := do
  let target ← starTargets sub
  expectWord "in"
  let iter ← starExpressions sub
  let body ← block sub inner
  return .for_ p kind target iter body (← blockAfter sub inner "else")

/-- A resource with the target that it is bound to. -/
def withItem : Reader Tree := do
  let e ← sub .expression
  let vars ← if ← acceptWord "as" then pure (some (← starTarget sub)) else pure none
  return .withItem e vars

/-- Resources in parentheses, in front of a colon. -/
def parenItems : Reader (List Tree) := do
  expectSign "("
  let (ts, _) ← items (withItem sub) startsExpression
  expectSign ")"
  if ← seesSign ":" then return ts else mismatch

/-- A block with resources. -/
def withStatement (p : Place) (kind : String) : Reader Tree := do
  let parenthesised ← if ← seesSign "(" then attempt (parenItems sub) else pure none
  let ts ← match parenthesised with
    | some ts => pure ts
    | none => strictItems (withItem sub)
  return .with_ p kind ts (← block sub inner)

/-- A handler of exceptions; `star` says that it is for groups of them. -/
def exceptHandler (star : Bool) : Reader (Option Tree) := do
  let p ← here
  if ← acceptWord "except" then
    if star then expectSign "*"
    if !star then
      if ← seesSign ":" then return some (.handler p none none (← block sub inner))
    let e ← sub .expression
    let id ← asName
    return some (.handler p (some e) id (← block sub inner))
  else return none

/-- A block whose exceptions are handled. -/
def tryStatement (p : Place) : Reader Tree := do
  let body ← block sub inner
  if ← acceptWord "finally" then return .try_ p "Try" body [] [] (← block sub inner)
  let star ← do
    if ← seesWord "except" then
      let t ← ahead 1
      pure (t.kind == .sign && t.text == "*")
    else pure false
  let handlers ← collect (exceptHandler sub inner star)
  if handlers.isEmpty then mismatch
  let orelse ← blockAfter sub inner "else"
  let final ← blockAfter sub inner "finally"
  return .try_ p (if star then "TryStar" else "Try") body handlers orelse final

/-- A function. -/
def functionStatement (p : Place) (kind : String) (decorators : List Tree) :
    Reader Tree := do
  expectWord "def"
  let id ← name
  expectSign "("
  let args ← parameters sub true ")"
  expectSign ")"
  let returns ← if ← acceptSign "->" then pure (some (← sub .expression)) else pure none
  let body ← block sub inner
  return .functionDef p kind id args body decorators returns

/-- A class. -/
def classStatement (p : Place) (decorators : List Tree) : Reader Tree := do
  let id ← name
  let (bases, keywords) ← if ← seesSign "(" then arguments sub false else pure ([], [])
  let body ← block sub inner
  return .classDef p id bases keywords body decorators

/-- Decorators, each on a line of its own. -/
def decorators : Reader (List Tree) :=
  collect do
    if ← acceptSign "@" then
      let e ← namedExpr sub
      expectKind .newline
      return some e
    else return none

/-- A function or a class with decorators. -/
def decorated : Reader Tree := do
  let ds ← decorators sub
  let p ← here
  if ← acceptWord "class" then classStatement sub inner p ds
  else if ← acceptWord "async" then functionStatement sub inner p "AsyncFunctionDef" ds
  else functionStatement sub inner p "FunctionDef" ds

/-- A statement behind the word for waiting. -/
def asyncStatement (p : Place) : Reader Tree := do
  if ← acceptWord "for" then forStatement sub inner p "AsyncFor"
  else if ← acceptWord "with" then withStatement sub inner p "AsyncWith"
  else functionStatement sub inner p "AsyncFunctionDef" []

/-- What is taken apart. -/
def matchSubject : Reader Tree := do
  let p ← here
  let spread ← seesSign "*"
  let (es, comma) ← items (starNamed sub) startsExpression
  match es, comma with
  | [e], false => if spread then mismatch else return e
  | es, _ => return .tuple p es

/-- A case. -/
def caseBlock : Reader (Option Tree) := do
  if ← accept (sees .name "case") then
    let q ← casePattern (patternAt sub ((← read).list.size + 1))
    let guard ← if ← acceptWord "if" then pure (some (← namedExpr sub)) else pure none
    return some (.matchCase q guard (← block sub inner))
  else return none

/-- A value that is taken apart by cases. -/
def matchStatement : Reader Tree := do
  let p ← here
  unless ← accept (sees .name "match") do mismatch
  let subject ← matchSubject sub
  expectSign ":"
  expectKind .newline
  unless ← accept (seesKind .indent) do missingBlock
  let cases ← collect (caseBlock sub inner)
  if cases.isEmpty then mismatch
  expectKind .dedent
  return .match_ p subject cases

/-- A statement or a line of simple ones. -/
def statement : Reader (List Tree) := do
  let t ← peek
  let p := t.place
  let one (r : Reader Tree) : Reader (List Tree) := do return [← r]
  match t.kind, t.text with
  | .sign, "@" => one (decorated sub inner)
  | .word, "def" => one (functionStatement sub inner p "FunctionDef" [])
  | .word, "class" => do advance; one (classStatement sub inner p [])
  | .word, "if" => do advance; one (ifStatement sub inner p)
  | .word, "while" => do advance; one (whileStatement sub inner p)
  | .word, "for" => do advance; one (forStatement sub inner p "For")
  | .word, "with" => do advance; one (withStatement sub inner p "With")
  | .word, "try" => do advance; one (tryStatement sub inner p)
  | .word, "async" => do advance; one (asyncStatement sub inner p)
  | .name, "match" => do
    match ← attempt (matchStatement sub inner) with
    | some s => return [s]
    | none => simpleStatements sub
  | _, _ => simpleStatements sub

end Statements

/-- Statements up to a number of levels of blocks. -/
def statementAt (sub : Sub) : Nat → Unit → Reader (List Tree)
  | 0, _ => fault .invalid
  | n + 1, _ => statement sub (statementAt sub n)

/-- A whole source. -/
def wholeSource (n : Nat) : Reader Tree := do
  let groups ← collect do
    if ← seesKind .finish then return none
      else return some (← statementAt (grammar n) (blockLimit + 1) ())
  return .moduleOf groups.flatten

end RuleLint.Source.Grammar

namespace RuleLint.Source

/-- Why a source has no syntax tree. -/
inductive SourceFault where
  /-- The text holds the character with the number zero. -/
  | zeroByte
  | bad (f : SyntaxFault)
deriving Repr, BEq, DecidableEq

/-- The syntax tree of characters. -/
def Tree.ofChars (cs : List Char) : Except SourceFault Tree :=
  match readAll (Grammar.wholeSource (2 * cs.length + 10)) (tokensOf cs) with
  | .ok t => .ok t
  | .error f => .error (.bad f)

/-- The syntax tree of a source. -/
def Tree.ofSource (source : String) : Except SourceFault Tree :=
  let cs := source.toList
  if cs.contains '\x00' then .error .zeroByte else Tree.ofChars cs

end RuleLint.Source
