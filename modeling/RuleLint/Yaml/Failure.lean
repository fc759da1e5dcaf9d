/-
RuleLint/Yaml/Failure.lean

Everything for which loading a document can fail: a character that no document may hold,
an error with marks, a scalar that its tag does not fit, or a node that one of the tags
of a configuration refuses.
-/
import RuleLint.Text.Quoted
import RuleLint.Yaml.Error

namespace RuleLint.Yaml

open RuleLint.Text

/-- Causes for which a document cannot be loaded. -/
inductive Failure where
  /-- A character that no document may hold, at an index. -/
  | forbidden (code index : Nat)
  | marked (e : Error)
  /-- An escape for a code point that does not exist. -/
  | noCodePoint
  /-- An escape for a number that is too large for any code point. -/
  | codeOverflow
  | emptyNumber
  | badInt (base : Nat) (text : String)
  | tooManyDigits (count : Nat)
  | badFloat (text : String)
  | badComplex
  | badBool (text : String)
  | badTimestamp
  | badDate (reason : String)
  | unhashable (type : String)
  /-- A node that a tag of the configuration refuses. -/
  | invalid (reason : String)
  /-- Settings with a field that they do not have. -/
  | unexpectedField (name : String)
  /-- Settings with a field whose name is no text. -/
  | fieldNameNotText
deriving Repr, BEq, DecidableEq

/-- A number in hexadecimal, with at least four digits. -/
def hexCode (n : Nat) : String :=
  let ds := Nat.toDigits 16 n
  String.ofList (List.replicate (4 - ds.length) '0' ++ ds)

/-- The words for a failure in a document with a name. -/
def Failure.message (name : String) : Failure → String
  | .forbidden code index =>
    "unacceptable character #x" ++ hexCode code ++
      ": special characters are not allowed\n  in \"" ++ name
      ++ "\", position " ++ toString index
  | .marked e => e.message name
  | .noCodePoint => "chr() arg not in range(0x110000)"
  | .codeOverflow => "Python int too large to convert to C int"
  | .emptyNumber => "string index out of range"
  | .badInt base text =>
    "invalid literal for int() with base " ++ toString base ++ ": " ++
      String.ofList ((quoted text).toList.take 200)
  | .tooManyDigits count =>
    "Exceeds the limit (4300 digits) for integer string conversion: value has " ++
      toString count
      ++ " digits; use sys.set_int_max_str_digits() to increase the limit"
  | .badFloat text => "could not convert string to float: " ++ quoted text
  | .badComplex => "complex() arg is a malformed string"
  | .badBool text => quoted text
  | .badTimestamp => "'NoneType' object has no attribute 'groupdict'"
  | .badDate reason => reason
  | .unhashable type => "unhashable type: " ++ quoted type
  | .invalid reason => reason
  | .unexpectedField "_cls" =>
      "Settings.__new__() got multiple values for argument '_cls'"
  | .unexpectedField field =>
      "Settings.__new__() got an unexpected keyword argument " ++ quoted field
  | .fieldNameNotText => "keywords must be strings"

end RuleLint.Yaml
