/-
RuleLint/Source/Pattern.lean

The grammar of patterns, which take a value apart.  A name alone catches the value, an
underscore lets it pass, and a name with members is compared with it.
-/
import RuleLint.Source.Expression

namespace RuleLint.Source.Grammar

open Reader

/-- Readers of nested patterns. -/
abbrev SubPattern := Unit → Reader Tree

section Patterns

variable (sub : Sub) (inner : SubPattern)

/-! ### Literals -/

/-- Whether a sign that goes on with a name is in front: such a name catches nothing. -/
def seesNameTail : Reader Bool := do
  let t ← peek
  return t.kind == .sign && (t.text == "." || t.text == "(" || t.text == "=")

/-- A name that catches a value. -/
def captureName : Reader String := do
  if ← sees .name "_" then mismatch
  let id ← name
  if ← seesNameTail then mismatch
  return id

/-- A number with a sign in front of it, perhaps. -/
def signedNumber : Reader (Tree × Literal) := do
  let p ← here
  if ← acceptSign "-" then
    let q ← here
    let l ← number
    return (.unaryOp p "USub" (.constant q l), l)
  else
    let l ← number
    return (.constant p l, l)

/-- Whether a number is imaginary. -/
def isImaginary : Literal → Bool
  | .imaginary _ => true
  | _ => false

/-- The sign between two numbers. -/
def signBetween : Reader (Option String) := do
  if ← acceptSign "+" then return some "Add"
  if ← acceptSign "-" then return some "Sub"
  return none

/-- A number, or a sum of a real and an imaginary one. -/
def numberValue : Reader Tree := do
  let p ← here
  let (real, l) ← signedNumber
  match ← signBetween with
  | none => return real
  | some op =>
    if isImaginary l then fault .invalid
    let q ← here
    let m ← number
    if isImaginary m then return .binOp p op real (.constant q m) else fault .invalid

/-- A name with members. -/
def memberChain (p : Place) (e : Tree) : Reader Tree :=
  repeatWhile (fun e => do
    if ← acceptSign "." then return some (.member p e (← name)) else return none) e

/-! ### Containers -/

/-- A pattern for all that is left, or any pattern. -/
def maybeStar : Reader Tree := do
  let p ← here
  if ← acceptSign "*" then
    if ← accept (sees .name "_") then return .matchStar p none
    else return .matchStar p (some (← captureName))
  else inner ()

/-- Whether a pattern may start. -/
def startsPattern : Reader Bool := do
  let t ← peek
  match t.kind with
  | .name | .number | .string => return true
  | .word => return ["True", "False", "None"].contains t.text
  | .sign => return ["(", "[", "\x7b", "-", "*"].contains t.text
  | _ => return false

/-- Patterns up to a closing sign; the truth value says that there was a comma. -/
def patternItems (closing : String) : Reader (List Tree × Bool) := do
  if ← acceptSign closing then return ([], true)
  let (ps, comma) ← items (maybeStar inner) startsPattern
  expectSign closing
  return (ps, comma)

/-- A sequence or a pattern in parentheses. -/
def parenPattern : Reader Tree := do
  let p ← here
  expectSign "("
  let spread ← seesSign "*"
  let (ps, comma) ← patternItems inner ")"
  match ps, comma with
  | [q], false => if spread then mismatch else return q
  | ps, _ => return .matchSequence p ps

/-- A sequence in brackets. -/
def bracketPattern : Reader Tree := do
  let p ← here
  expectSign "["
  let (ps, _) ← patternItems inner "]"
  return .matchSequence p ps

/-- A key of a mapping. -/
def patternKey : Reader Tree := do
  let t ← peek
  let p := t.place
  match t.kind, t.text with
  | .string, _ => strings sub
  | .number, _ => numberValue
  | .sign, "-" => numberValue
  | .word, "None" => do advance; return .constant p .none
  | .word, "True" => do advance; return .constant p (.bool true)
  | .word, "False" => do advance; return .constant p (.bool false)
  | .name, _ => do
    let first ← name
    expectSign "."
    memberChain p (.member p (.name p first) (← name))
  | _, _ => mismatch

/-- An entry of a mapping, or a name for what is left. -/
inductive MappingPart where
  | entry (key pattern : Tree)
  | rest (name : String)

/-- A part of a mapping. -/
def mappingPart : Reader MappingPart := do
  if ← acceptSign "**" then return .rest (← captureName)
  else
    let k ← patternKey sub
    expectSign ":"
    return .entry k (← inner ())

/-- Whether a part of a mapping may start. -/
def startsMappingPart : Reader Bool := do
  if ← seesSign "**" then return true else startsPattern

/-- The parts of a mapping; a name for what is left comes last. -/
def mappingOf (p : Place) (parts : List MappingPart) : Reader Tree := do
  let entries := parts.filterMap fun | .entry k v => some (k, v) | .rest _ => none
  match parts.getLast? with
  | some (.rest name) =>
    if entries.length + 1 = parts.length then return .matchMapping p entries (some name)
      else mismatch
  | _ =>
      if entries.length = parts.length then return .matchMapping p entries none
        else mismatch

/-- A mapping. -/
def bracePattern : Reader Tree := do
  let p ← here
  expectSign "\x7b"
  if ← acceptSign "\x7d" then return .matchMapping p [] none
  let (parts, _) ← items (mappingPart sub inner) startsMappingPart
  expectSign "\x7d"
  mappingOf p parts

/-- An argument of a class pattern. -/
def classArgument : Reader (Option String × Tree) := do
  if ← seesNameThen "=" then
    let id ← name
    advance
    return (some id, ← inner ())
  else return (none, ← inner ())

/-- A class with arguments; those with names come last. -/
def classPattern (p : Place) (cls : Tree) : Reader Tree := do
  expectSign "("
  if ← acceptSign ")" then return .matchClass p cls [] []
  let (args, _) ← items (classArgument inner) startsPattern
  expectSign ")"
  let positional := args.takeWhile (·.1.isNone)
  let keywords := args.drop positional.length
  if keywords.all (·.1.isSome) then
    return .matchClass p cls (positional.map (·.2)) (keywords.map fun (k, v) =>
      (k.getD "", v))
  else mismatch

/-! ### Patterns -/

/-- A name: it catches, lets pass, is compared, or is a class. -/
def namePattern : Reader Tree := do
  let p ← here
  if ← accept (sees .name "_") then
    return .matchAs p none none
  let first ← name
  if ← seesSign "." then
    let e ← memberChain p (.name p first)
    if ← seesSign "(" then classPattern inner p e
    else if ← seesNameTail then mismatch
    else return .matchValue p e
  else if ← seesSign "(" then classPattern inner p (.name p first)
  else if ← seesNameTail then mismatch
  else return .matchAs p none (some first)

/-- A pattern that binds tightest. -/
def closedPattern : Reader Tree := do
  let t ← peek
  let p := t.place
  match t.kind, t.text with
  | .number, _ => return .matchValue p (← numberValue)
  | .sign, "-" => return .matchValue p (← numberValue)
  | .string, _ => return .matchValue p (← strings sub)
  | .word, "None" => do advance; return .matchSingleton p .none
  | .word, "True" => do advance; return .matchSingleton p (.bool true)
  | .word, "False" => do advance; return .matchSingleton p (.bool false)
  | .name, _ => namePattern inner
  | .sign, "(" => parenPattern inner
  | .sign, "[" => bracketPattern inner
  | .sign, "\x7b" => bracePattern sub inner
  | _, _ => mismatch

/-- A pattern: alternatives, which may get a name. -/
def pattern : Reader Tree := do
  let p ← here
  let first ← closedPattern sub inner
  let more ← collect do
    if ← acceptSign "|" then return some (← closedPattern sub inner) else return none
  let q := if more.isEmpty then first else .matchOr p (first :: more)
  if ← acceptWord "as" then return .matchAs p (some q) (some (← captureName))
    else return q

/-- The pattern of a case: one, or a sequence without brackets. -/
def casePattern : Reader Tree := do
  let p ← here
  let spread ← seesSign "*"
  let (ps, comma) ← items (maybeStar inner) startsPattern
  match ps, comma with
  | [q], false => if spread then mismatch else return q
  | ps, _ => return .matchSequence p ps

end Patterns

/-- Patterns up to a number of levels. -/
def patternAt (sub : Sub) : Nat → Unit → Reader Tree
  | 0, _ => fault .invalid
  | n + 1, _ => pattern sub (patternAt sub n)

end RuleLint.Source.Grammar
