/-
RuleLint/XPath/Error.lean

What can go wrong with a path expression, when it is read and when it is evaluated.
-/

namespace RuleLint.XPath

/-- Causes for which a path expression is refused or cannot be evaluated. -/
inductive Error where
  /-- The text holds characters that no document can hold. -/
  | forbiddenChars
  | badNumber
  | unfinishedLiteral
  | literalExpected
  | variableExpected
  | badPredicate
  | badExpression
  | unclosedParen
  | tooDeep
  | undefinedVariable
  | unknownFunction
  | badType
  | badArity
  | noContextSize
  | noContextPosition
  | undefinedSpace
  /-- A function or a variable in a space that nothing binds. -/
  | unboundName
deriving Repr, BEq

/-- The words for a cause. -/
def Error.message : Error → String
  | .forbiddenChars =>
    "All strings must be XML compatible: Unicode or ASCII, "
      ++ "no NULL bytes or control characters"
  | .badNumber => "Number encoding"
  | .unfinishedLiteral => "Unfinished literal"
  | .literalExpected => "Start of literal"
  | .variableExpected => "Expected $ for variable reference"
  | .badPredicate => "Invalid predicate"
  | .badExpression => "Invalid expression"
  | .unclosedParen => "Missing closing curly brace"
  | .tooDeep => "Recursion limit exceeded"
  | .undefinedVariable => "Undefined variable"
  | .unknownFunction => "Unregistered function"
  | .badType => "Invalid type"
  | .badArity => "Invalid number of arguments"
  | .noContextSize => "Invalid context size"
  | .noContextPosition => "Invalid context position"
  | .undefinedSpace => "Undefined namespace prefix"
  | .unboundName => "Error in xpath expression"

end RuleLint.XPath
