/-
RuleLint/Fault.lean

Everything that can stop the work on a configuration or a file, with the words for it.
-/
import RuleLint.Project.Files
import RuleLint.Regex.Error
import RuleLint.Source.Ignored
import RuleLint.Source.Statement
import RuleLint.Text.Fields
import RuleLint.Text.Utf8
import RuleLint.XPath.Error
import RuleLint.Yaml.Failure

namespace RuleLint

/-- Causes for which work stops. -/
inductive Fault where
  /-- A document with a name cannot be loaded. -/
  | document (name : String) (f : Yaml.Failure)
  | pattern (e : Regex.Error)
  /-- A path expression that cannot be evaluated. -/
  | path (e : XPath.Error)
  /-- Comments cannot be found. -/
  | comments (f : Source.Ignored.Fault)
  /-- A configuration that is refused. -/
  | refused (reason : String)
  /-- A value of a type without parts is gone through. -/
  | notIterable (type : String)
  /-- A value of a type that is no path is matched as one. -/
  | notPath (type : String)
  /-- A pattern of bytes is matched against a text. -/
  | bytesOnText
  /-- A value of a type does not have what is asked of it. -/
  | noAttribute (type name : String)
  /-- A type by itself does not have what is asked of it. -/
  | noTypeAttribute (type name : String)
  /-- A source that has no syntax tree. -/
  | source (f : Source.SourceFault)
  /-- A value that is no source is taken for one. -/
  | notSource
  /-- An integer with too many digits is written. -/
  | hugeInteger
  /-- A source whose tree is too deep. -/
  | tooDeep
  /-- A source with halves of characters, from an index up to another. -/
  | halfCharacters (code start stop : Nat)
  /-- Comments are looked for in bytes. -/
  | bytesForText
  /-- Something that a query finds has no line. -/
  | noLine
  /-- Two values of types without an order are put in order. -/
  | unordered (left right : String)
  /-- A value of a type that can change is a member of a set. -/
  | unhashable (type : String)
  /-- An object that is defined elsewhere ends in a fault of its own, which may be
  one of reading and writing. -/
  | raised (kind reason : String) (ofFiles : Bool)
  /-- A path that cannot be used. -/
  | file (cause : Project.FileCause) (path : String)
  /-- Bytes of a file that are no text. -/
  | undecodable (e : Text.Utf8Error)
  /-- A line that a file does not have. -/
  | noSuchLine
  /-- A value of a type that is no number of a line. -/
  | notLineNumber (type : String)
  /-- A command of the system that ended with a code. -/
  | command (line : String) (code : Int)
  | fields (e : Text.FieldError)
deriving BEq

/-- The signals that can end a command, from the first. -/
def signalNames : List String :=
  ["HUP", "INT", "QUIT", "ILL", "TRAP", "ABRT", "BUS", "FPE", "KILL", "USR1",
    "SEGV", "USR2",
   "PIPE", "ALRM", "TERM", "STKFLT", "CHLD", "CONT", "STOP", "TSTP", "TTIN",
     "TTOU", "URG",
   "XCPU", "XFSZ", "VTALRM", "PROF", "WINCH", "IO", "PWR", "SYS"]

/-- The name of a signal. -/
def signalName? (n : Nat) : Option String :=
  if n = 34 then some "RTMIN" else if n = 64 then some "RTMAX"
  else if n = 0 then none else signalNames[n - 1]?

/-- The words for the end of a command of the system; a negative code is a signal. -/
def commandMessage (line : String) (code : Int) : String :=
  let front := "Command '" ++ line ++ "' "
  if code < 0 then match signalName? code.natAbs with
    | some name =>
        front ++ "died with <Signals.SIG" ++ name ++ ": " ++ toString code.natAbs ++ ">."
    | none => front ++ "died with unknown signal " ++ toString code.natAbs ++ "."
  else front ++ "returned non-zero exit status " ++ toString code ++ "."

/-- The words for a fault. -/
def Fault.message : Fault → String
  | .document name f => f.message name
  | .pattern e => e.message
  | .path e => e.message
  | .comments f => f.message
  | .refused reason => reason
  | .notIterable type => Text.quoted type ++ " object is not iterable"
  | .notPath type => "expected str, bytes or os.PathLike object, not " ++ type
  | .bytesOnText => "cannot use a bytes pattern on a string-like object"
  | .noAttribute type name =>
      Text.quoted type ++ " object has no attribute " ++ Text.quoted name
  | .noTypeAttribute type name =>
    "type object " ++ Text.quoted type ++ " has no attribute " ++ Text.quoted name
  | .source .zeroByte => "source code string cannot contain null bytes"
  | .source (.bad _) => "invalid syntax"
  | .notSource => "compile() arg 1 must be a string, bytes or AST object"
  | .hugeInteger =>
    "Exceeds the limit (4300 digits) for integer string conversion; "
      ++ "use sys.set_int_max_str_digits() to increase the limit"
  | .tooDeep => "maximum recursion depth exceeded while calling a Python object"
  | .halfCharacters code start stop =>
    let front := "'utf-8' codec can't encode character"
    let place := if stop = start + 1
      then " '\\u" ++ String.ofList (Text.hexDigits 4 code) ++ "' in position " ++
        toString start
      else "s in position " ++ toString start ++ "-" ++ toString (stop - 1)
    front ++ place ++ ": surrogates not allowed"
  | .bytesForText => "'in <string>' requires string as left operand, not int"
  | .noLine => "Element has no ancestor with line number."
  | .unordered left right =>
    "'<' not supported between instances of " ++ Text.quoted left ++ " and " ++
      Text.quoted right
  | .unhashable type => "unhashable type: " ++ Text.quoted type
  | .raised _ reason _ => reason
  | .file cause p => cause.message ++ ": " ++ Text.quoted p
  | .undecodable e => e.message
  | .noSuchLine => "list index out of range"
  | .notLineNumber type => "list indices must be integers or slices, not " ++ type
  | .command line code => commandMessage line code
  | .fields e => e.message

/-- Whether a fault is one of reading and writing files. -/
def Fault.isOfFiles : Fault → Bool
  | .file _ _ => true
  | .raised _ _ ofFiles => ofFiles
  | _ => false

end RuleLint
