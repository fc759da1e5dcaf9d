/-
RuleLint/Yaml/Error.lean

What can be wrong with a document.  An error says what was being done and what went
wrong, each with its mark; a mark that is the same for both is said once.
-/
import RuleLint.Text.Quoted
import RuleLint.Text.Utf8

namespace RuleLint.Yaml

open RuleLint.Text

/-- A place in a document; all counts start at zero. -/
structure Mark where
  index : Nat
  line : Nat
  column : Nat
deriving Repr, BEq, DecidableEq, Inhabited

/-- The words for a mark in a document with a name. -/
def Mark.message (name : String) (m : Mark) : String :=
  "  in \"" ++ name ++ "\", line " ++ toString (m.line + 1) ++ ", column " ++
    toString (m.column + 1)

/-- What is done to a document when an error shows up. -/
inductive Stage where
  | scanning
  | parsing
  | composing
  | constructing
deriving Repr, BEq, DecidableEq

/-- What was being done. -/
inductive Context where
  | simpleKey
  | directive
  | directiveUri
  | named (what : String)
  | tag
  | tagUri
  | blockScalar
  | doubleQuoted
  | quoted
  | nextToken
  | node
  | blockNode
  | flowNode
  | blockCollection
  | blockMapping
  | flowSequence
  | flowMapping
  | duplicateAnchor (name : String)
  | singleDocument
  | mapping
  | orderedMap
  | pairs
  | object
  | objectName
deriving Repr, BEq, DecidableEq

/-- The words for a context. -/
def Context.message : Context → String
  | .simpleKey => "while scanning a simple key"
  | .directive => "while scanning a directive"
  | .directiveUri => "while parsing a directive"
  | .named what => "while scanning an " ++ what
  | .tag => "while scanning a tag"
  | .tagUri => "while parsing a tag"
  | .blockScalar => "while scanning a block scalar"
  | .doubleQuoted => "while scanning a double-quoted scalar"
  | .quoted => "while scanning a quoted scalar"
  | .nextToken => "while scanning for the next token"
  | .node => "while parsing a node"
  | .blockNode => "while parsing a block node"
  | .flowNode => "while parsing a flow node"
  | .blockCollection => "while parsing a block collection"
  | .blockMapping => "while parsing a block mapping"
  | .flowSequence => "while parsing a flow sequence"
  | .flowMapping => "while parsing a flow mapping"
  | .duplicateAnchor name =>
      "found duplicate anchor " ++ Text.quoted name ++ "; first occurrence"
  | .singleDocument => "expected a single document in the stream"
  | .mapping => "while constructing a mapping"
  | .orderedMap => "while constructing an ordered map"
  | .pairs => "while constructing pairs"
  | .object => "while constructing a Python object"
  | .objectName => "while constructing a Python name"

/-- What went wrong. -/
inductive Problem where
  | missingColon
  | entryNotAllowed
  | keyNotAllowed
  | valueNotAllowed
  | badStart (c : Char)
  | nameExpected (c : Char)
  | digitOrDotExpected (c : Char)
  | digitOrSpaceExpected (c : Char)
  | digitExpected (c : Char)
  | charExpected (wanted : String) (c : Char)
  | uriEscapeExpected (c : Char)
  | uriUndecodable (e : Utf8Error)
  | breakExpected (c : Char)
  | zeroIndentation
  | indicatorExpected (c : Char)
  | hexDigitsExpected (count : Nat) (c : Char)
  | unknownEscape (c : Char)
  | endOfStream
  | documentSeparator
  | documentStartExpected (token : String)
  | duplicateVersion
  | incompatibleVersion
  | duplicateHandle (handle : String)
  | undefinedHandle (handle : String)
  | contentExpected (token : String)
  | blockEndExpected (token : String)
  | sequenceEndExpected (token : String)
  | mappingEndExpected (token : String)
  | undefinedAlias (name : String)
  | secondOccurrence
  | anotherDocument
  | recursiveNode
  | nodeExpected (wanted found : String)
  | unhashableKey
  | mergeMappingExpected (found : String)
  | mergeExpected (found : String)
  | noConstructor (tag : String)
  | sequenceExpected (found : String)
  | singleMappingExpected (found : String)
  | singleItemExpected (count : Nat)
  | notAscii (reason : String)
  | badBase64 (reason : String)
  | emptyValueExpected (found : String)
  | emptyName
  | unknownModule (module : String)
  | unknownName (name module : String)
deriving Repr, BEq, DecidableEq

/-- A character in quotes. -/
def quotedChar (c : Char) : String :=
  Text.quoted (String.ofList [c])

/-- The words for a problem. -/
def Problem.message : Problem → String
  | .missingColon => "could not find expected ':'"
  | .entryNotAllowed => "sequence entries are not allowed here"
  | .keyNotAllowed => "mapping keys are not allowed here"
  | .valueNotAllowed => "mapping values are not allowed here"
  | .badStart c => "found character " ++ quotedChar c ++ " that cannot start any token"
  | .nameExpected c =>
      "expected alphabetic or numeric character, but found " ++ quotedChar c
  | .digitOrDotExpected c => "expected a digit or '.', but found " ++ quotedChar c
  | .digitOrSpaceExpected c => "expected a digit or ' ', but found " ++ quotedChar c
  | .digitExpected c => "expected a digit, but found " ++ quotedChar c
  | .charExpected wanted c => "expected " ++ wanted ++ ", but found " ++ quotedChar c
  | .uriEscapeExpected c =>
      "expected URI escape sequence of 2 hexadecimal numbers, but found " ++ quotedChar c
  | .uriUndecodable e => e.message
  | .breakExpected c => "expected a comment or a line break, but found " ++ quotedChar c
  | .zeroIndentation => "expected indentation indicator in the range 1-9, but found 0"
  | .indicatorExpected c =>
      "expected chomping or indentation indicators, but found " ++ quotedChar c
  | .hexDigitsExpected count c =>
    "expected escape sequence of " ++ toString count ++
      " hexadecimal numbers, but found " ++ quotedChar c
  | .unknownEscape c => "found unknown escape character " ++ quotedChar c
  | .endOfStream => "found unexpected end of stream"
  | .documentSeparator => "found unexpected document separator"
  | .documentStartExpected token =>
      "expected '<document start>', but found " ++ Text.quoted token
  | .duplicateVersion => "found duplicate YAML directive"
  | .incompatibleVersion => "found incompatible YAML document (version 1.* is required)"
  | .duplicateHandle handle => "duplicate tag handle " ++ Text.quoted handle
  | .undefinedHandle handle => "found undefined tag handle " ++ Text.quoted handle
  | .contentExpected token => "expected the node content, but found " ++ Text.quoted token
  | .blockEndExpected token => "expected <block end>, but found " ++ Text.quoted token
  | .sequenceEndExpected token => "expected ',' or ']', but got " ++ Text.quoted token
  | .mappingEndExpected token => "expected ',' or '\x7d', but got " ++ Text.quoted token
  | .undefinedAlias name => "found undefined alias " ++ Text.quoted name
  | .secondOccurrence => "second occurrence"
  | .anotherDocument => "but found another document"
  | .recursiveNode => "found unconstructable recursive node"
  | .nodeExpected wanted found => "expected a " ++ wanted ++ " node, but found " ++ found
  | .unhashableKey => "found unhashable key"
  | .mergeMappingExpected found => "expected a mapping for merging, but found " ++ found
  | .mergeExpected found =>
      "expected a mapping or list of mappings for merging, but found " ++ found
  | .noConstructor tag =>
      "could not determine a constructor for the tag " ++ Text.quoted tag
  | .sequenceExpected found => "expected a sequence, but found " ++ found
  | .singleMappingExpected found => "expected a mapping of length 1, but found " ++ found
  | .singleItemExpected count =>
      "expected a single mapping item, but found " ++ toString count ++ " items"
  | .notAscii reason => "failed to convert base64 data into ascii: " ++ reason
  | .badBase64 reason => "failed to decode base64 data: " ++ reason
  | .emptyValueExpected found =>
      "expected the empty value, but found " ++ Text.quoted found
  | .emptyName => "expected non-empty name appended to the tag"
  | .unknownModule module => "module " ++ Text.quoted module ++ " is not imported"
  | .unknownName name module =>
      "cannot find " ++ Text.quoted name ++ " in the module " ++ Text.quoted module

/-- An error with its marks. -/
structure Error where
  stage : Stage
  context : Option Context
  contextMark : Option Mark
  problem : Problem
  problemMark : Mark
deriving Repr, BEq, DecidableEq

/-- The words for an error in a document with a name. -/
def Error.message (name : String) (e : Error) : String :=
  let contextMark := e.contextMark.filter fun m => m.line != e.problemMark.line ||
    m.column != e.problemMark.column
  "\n".intercalate (e.context.toList.map Context.message ++
    contextMark.toList.map (Mark.message name)
    ++ [e.problem.message, e.problemMark.message name])

end RuleLint.Yaml
