/-
RuleLint/Host/Library.lean

The objects that a configuration may name when the program is run: functions and
types of the language and of the modules that are loaded with the program.  The
answers of functions and types of the language itself to a text are known; a
function of a module is found, but cannot be called from here.
-/
import RuleLint.Host.Basic
import RuleLint.Number.Read
import RuleLint.Text.Ranges
import RuleLint.Yaml.Typed

namespace RuleLint.Library

open RuleLint.Text

/-! ### Names -/

/-- The words of a text. -/
def namesIn (s : String) : List String :=
  (Text.words s).map String.ofList

/-- The functions of the language. -/
def coreFunctions : List String := namesIn
  "__build_class__ __import__ abs aiter all anext any ascii bin breakpoint callable chr
   compile delattr dir divmod eval exec format getattr globals hasattr hash hex id input
   isinstance issubclass iter len locals max min next oct open ord pow print repr round
   setattr sorted sum vars"

/-- The types of the language. -/
def coreTypes : List String := namesIn
  "ArithmeticError AssertionError AttributeError BaseException BaseExceptionGroup
   BlockingIOError BrokenPipeError BufferError BytesWarning ChildProcessError
   ConnectionAbortedError ConnectionError ConnectionRefusedError ConnectionResetError
   DeprecationWarning EOFError EncodingWarning Exception ExceptionGroup FileExistsError
   FileNotFoundError FloatingPointError FutureWarning GeneratorExit ImportError
   ImportWarning IndentationError IndexError InterruptedError IsADirectoryError KeyError
   KeyboardInterrupt LookupError MemoryError ModuleNotFoundError NameError
   NotADirectoryError NotImplementedError OSError OverflowError
   PendingDeprecationWarning PermissionError ProcessLookupError RecursionError
   ReferenceError ResourceWarning RuntimeError RuntimeWarning StopAsyncIteration
   StopIteration SyntaxError SyntaxWarning SystemError SystemExit TabError TimeoutError
   TypeError UnboundLocalError UnicodeDecodeError UnicodeEncodeError UnicodeError
   UnicodeTranslateError UnicodeWarning UserWarning ValueError Warning
   ZeroDivisionError bool bytearray bytes classmethod complex dict enumerate filter float
   frozenset int list map memoryview object property range reversed set slice
   staticmethod str super tuple type zip"

/-- Objects of other modules, functions first and then types. -/
def moduleNames : List (String × List String × List String) :=
  [("os",
      namesIn "abort access chdir chmod close getcwd getenv getpid kill listdir lstat
      makedirs mkdir open popen putenv read remove removedirs rename rmdir scandir stat
      system unlink urandom walk write",
      namesIn "DirEntry PathLike"),
   ("posixpath",
      namesIn "abspath basename commonpath commonprefix dirname exists expanduser
      expandvars getsize isabs isdir isfile islink join lexists normcase normpath
      realpath relpath split splitdrive splitext",
      []),
   ("sys",
      namesIn "exit getdefaultencoding getrecursionlimit getrefcount getsizeof intern
        setrecursionlimit",
      []),
   ("subprocess",
      namesIn "call check_call check_output getoutput getstatusoutput run",
      namesIn "CalledProcessError CompletedProcess Popen SubprocessError TimeoutExpired"),
   ("re",
      namesIn "compile escape findall finditer fullmatch match purge search split sub subn
        template",
      namesIn "Match Pattern"),
   ("ast",
      namesIn "dump fix_missing_locations literal_eval parse unparse walk",
      namesIn "AST NodeTransformer NodeVisitor"),
   ("json", namesIn "dump dumps load loads",
      namesIn "JSONDecodeError JSONDecoder JSONEncoder"),
   ("fnmatch", namesIn "filter fnmatch fnmatchcase translate", []),
   ("functools",
      namesIn "cached_property cmp_to_key lru_cache partial reduce singledispatch
        total_ordering update_wrapper wraps",
      []),
   ("collections", namesIn "namedtuple",
      namesIn "ChainMap Counter OrderedDict UserDict UserList UserString defaultdict
        deque")]

/-- Values of modules that are no functions and no types. -/
def constants : List ((String × String) × Value) :=
  [(("builtins", "None"), .null), (("builtins", "True"), .bool true),
   (("builtins", "False"), .bool false), (("builtins", "__debug__"), .bool true),
   (("builtins", "__name__"), .text "builtins"), (("builtins", "__package__"), .text ""),
   (("os", "curdir"), .text "."), (("os", "pardir"), .text ".."),
     (("os", "sep"), .text "/"),
   (("os", "linesep"), .text "\n"), (("os", "name"), .text "posix"),
   (("sys", "byteorder"), .text "little"), (("sys", "platform"), .text "linux"),
   (("sys", "maxsize"), .int 9223372036854775807), (("sys", "maxunicode"), .int 1114111)]

/-! ### Answers -/

/-- A value is not of the type that is asked for. -/
def badType (reason : String) : Fault := .raised "TypeError" reason false

/-- A value is of the right type, but not a right one. -/
def badValue (reason : String) : Fault := .raised "ValueError" reason false

/-- A text in quotes and in ASCII. -/
def asciiQuoted (s : String) : String :=
  String.ofList ((quoted s).toList.flatMap fun c =>
    let n := c.toNat
    if n < 128 then [c]
    else if n < 0x100 then '\\' :: 'x' :: hexDigits 2 n
    else if n < 0x10000 then '\\' :: 'u' :: hexDigits 4 n
    else '\\' :: 'U' :: hexDigits 8 n)

/-- The characters of a text as values. -/
def charValues (s : String) : List Value :=
  s.toList.map fun c => .text (String.ofList [c])

/-- The characters in order of their numbers. -/
def sortedChars (s : String) : List Value :=
  (s.toList.mergeSort (· ≤ ·)).map fun c => .text (String.ofList [c])

/-- A member at one end of the order, which an empty text does not have. -/
def extreme (name : String) (c : Option Char) : Except Fault Value :=
  match c with
  | some c => .ok (.text (String.ofList [c]))
  | none => .error (badValue (name ++ "() arg is an empty sequence"))

/-- The object of a type that cannot be gone through, asked or called. -/
def inert (module name type shown : String) : Object Value :=
  { module, name, type, shown, parts := .error (.notIterable type),
    get := fun _ => .error (.noAttribute type "get"),
    items := .error (.noAttribute type "items") }

/-- A value of a type without parts. -/
def partless (type : String) : Except Fault Value :=
  .ok (.object (inert "builtins" "" type ("<" ++ type ++ " object>")))

/-- What a function or type of the language gives for a text, if that is known. -/
def answer? (name : String) (s : String) : Option (Except Fault Value) :=
  match name with
  | "list" | "tuple" | "iter" => some (.ok (.list (charValues s)))
  | "str" | "format" => some (.ok (.text s))
  | "repr" => some (.ok (.text (quoted s)))
  | "ascii" => some (.ok (.text (asciiQuoted s)))
  | "sorted" => some (.ok (.list (sortedChars s)))
  | "reversed" => some (.ok (.list (charValues s).reverse))
  | "set" | "frozenset" =>
    some (.ok (.set ((charValues s).foldl (fun acc v => Value.addMember v acc) [])))
  | "enumerate" =>
    some (.ok (.list ((charValues s).zipIdx.map fun (v, i) => .tuple [.int i, v])))
  | "zip" => some (.ok (.list ((charValues s).map fun v => .tuple [v])))
  | "max" => some (extreme name (s.toList.mergeSort (· ≤ ·)).getLast?)
  | "min" => some (extreme name (s.toList.mergeSort (· ≤ ·)).head?)
  | "len" => some (.ok (.int s.length))
  | "hash" | "id" => some (partless "int")
  | "all" | "any" | "callable" => some (.ok (.bool true))
  | "bool" => some (.ok (.bool !s.isEmpty))
  | "type" => some (partless "type")
  | "slice" => some (partless "slice")
  | "print" => some (.ok .null)
  | "abs" => some (.error (badType "bad operand type for abs(): 'str'"))
  | "chr" | "bin" | "hex" | "oct" | "range" =>
    some (.error (badType "'str' object cannot be interpreted as an integer"))
  | "bytes" | "bytearray" => some (.error (badType "string argument without an encoding"))
  | "sum" =>
    some (if s.isEmpty then .ok (.int 0)
      else .error (badType "unsupported operand type(s) for +: 'int' and 'str'"))
  | "ord" =>
    some (match s.toList with
      | [c] => .ok (.int c.toNat)
      | cs => .error (badType ("ord() expected a character, but string of length "
          ++ toString cs.length ++ " found")))
  | "dict" =>
    some (if s.isEmpty then .ok (.map [])
      else .error (badValue
        "dictionary update sequence element #0 has length 1; 2 is required"))
  | "int" =>
    some (match Number.readInt? 10 s.toList with
      | some n => .ok (.int n)
      | none => .error (badValue ("invalid literal for int() with base 10: "
          ++ String.ofList ((quoted s).toList.take 200))))
  | "float" =>
    some (match Number.readFloat? s.toList with
      | some x => .ok (.float x)
      | none => .error (badValue ("could not convert string to float: " ++ quoted s)))
  | "complex" =>
    some (match Yaml.complexOf? s with
      | some (re, im) => .ok (.complex re im)
      | none => .error (badValue "complex() arg is a malformed string"))
  | "object" => some (.error (badType "object() takes no arguments"))
  | "round" => some (.error (badType "type str doesn't define __round__ method"))
  | "next" => some (.error (badType "'str' object is not an iterator"))
  | "aiter" => some (.error (badType "'str' object is not an async iterable"))
  | "anext" => some (.error (badType "'str' object is not an async iterator"))
  | "delattr" | "divmod" | "filter" | "hasattr" | "isinstance" | "issubclass" =>
    some (.error (badType (name ++ " expected 2 arguments, got 1")))
  | "setattr" => some (.error (badType "setattr expected 3 arguments, got 1"))
  | "getattr" => some (.error (badType "getattr expected at least 2 arguments, got 1"))
  | "globals" | "locals" =>
      some (.error (badType (name ++ "() takes no arguments (1 given)")))
  | "compile" =>
      some (.error (badType "compile() missing required argument 'filename' (pos 2)"))
  | "pow" => some (.error (badType "pow() missing required argument 'exp' (pos 2)"))
  | "map" => some (.error (badType "map() must have at least two arguments."))
  | "memoryview" =>
    some (.error (badType "memoryview: a bytes-like object is required, not 'str'"))
  | "super" => some (.error (badType "super() argument 1 must be a type, not str"))
  | "vars" => some (.error (badType "vars() argument must have __dict__ attribute"))
  | "UnicodeDecodeError" | "UnicodeEncodeError" =>
    some (.error (badType "function takes exactly 5 arguments (1 given)"))
  | "UnicodeTranslateError" =>
    some (.error (badType "function takes exactly 4 arguments (1 given)"))
  | "open" => some (.error (.file .missing s))
  | _ => none

/-- What an object of a module gives for a text. -/
def answer (module name : String) (isType : Bool) (s : String) : Except Fault Value :=
  let unknown := if module = "builtins" ∧ isType = true then partless name
    else .error (.raised "NotImplementedError" (module ++ "." ++ name ++
      " cannot be called") false)
  if module = "builtins" then (answer? name s).getD unknown else unknown

/-! ### Objects -/

/-- A function of a module. -/
def function (module name : String) : Object Value :=
  let type := if module = "builtins" then "builtin_function_or_method" else "function"
  let shown := if module = "builtins" then "<built-in function " ++ name ++ ">"
    else "<function " ++ name ++ ">"
  { inert module name type shown with call? := some { give := answer module name false } }

/-- Types of mappings: their methods are there, and ask for a mapping. -/
def mappingTypes : List String :=
  ["dict", "OrderedDict", "Counter", "defaultdict", "UserDict", "ChainMap"]

/-- What comes of asking a type itself for what only its values have. -/
def typeFault (name method : String) : Fault :=
  if mappingTypes.contains name then
    if method = "get" then
      badType "descriptor 'get' for 'dict' objects doesn't apply to a 'str' object"
    else badType ("unbound method " ++ (if name = "OrderedDict" then name else "dict")
      ++ "." ++ method ++ "() needs an argument")
  else .noTypeAttribute name method

/-- A type of a module. -/
def typeOf (module name : String) : Object Value :=
  let fullName := if module = "builtins" then name else module ++ "." ++ name
  { inert module name "type" ("<class '" ++ fullName ++ "'>") with
    get := fun _ => .error (typeFault name "get"), items :=
      .error (typeFault name "items"),
    call? := some { give := answer module name true } }

/-- The last name of a module that has two. -/
def moduleNamed (module : String) : String :=
  if module = "os.path" then "posixpath" else module

/-- An object among functions and types of a module. -/
def objectIn (module name : String) (functions types : List String) : Named :=
  if functions.contains name then .found (.object (function module name))
  else if types.contains name then .found (.object (typeOf module name))
  else .unknownName name module

/-- What a name in a module stands for. -/
def named (module name : String) : Named :=
  let module' := moduleNamed module
  match constants.lookup (module', name) with
  | some v => .found v
  | none =>
    if module' = "builtins" then
      if name = "EnvironmentError" ∨ name = "IOError"
        then .found (.object (typeOf module' "OSError"))
      else if name = "Ellipsis" then .found (.object (inert module' name "ellipsis" name))
      else if name = "NotImplemented" then
        .found (.object (inert module' name "NotImplementedType" name))
      else objectIn module' name coreFunctions coreTypes
    else match moduleNames.lookup module' with
      | none => .unknownModule module
      | some (functions, types) => objectIn module' name functions types

/-! ### What is found can be part of a document -/

/-- An object that gives no entries is loadable by itself. -/
theorem loadable_of_bare {o : Object Value} (hget : ∀ key v, o.get key ≠ .ok (some v))
    (hitems : ∀ es, o.items ≠ .ok es) : (Value.object o).Loadable :=
  .object (fun es h => absurd h (hitems es)) (fun es h => absurd h (hitems es))
    fun key v h => absurd h (hget key v)

theorem loadable_inert (module name type shown : String) :
    (Value.object (inert module name type shown)).Loadable :=
  loadable_of_bare (by rintro _ _ ⟨⟩) (by rintro _ ⟨⟩)

theorem loadable_function (module name : String) :
    (Value.object (function module name)).Loadable :=
  loadable_of_bare (by rintro _ _ ⟨⟩) (by rintro _ ⟨⟩)

theorem loadable_typeOf (module name : String) :
    (Value.object (typeOf module name)).Loadable :=
  loadable_of_bare (by rintro _ _ ⟨⟩) (by rintro _ ⟨⟩)

/-- Whatever is found among the names of a module is a function, a type or inert. -/
theorem loadable_of_objectIn {module name : String}
    {functions types : List String} {v : Value}
    (h : objectIn module name functions types = .found v) : v.Loadable := by
  unfold objectIn at h
  split at h
  · cases h
    exact loadable_function module name
  split at h
  · cases h
    exact loadable_typeOf module name
  · cases h

/-- The constants hold no parts. -/
theorem isPlain_constants : ∀ c ∈ constants, c.2.isPlain = true := by
  decide

/-- What is found by a name is loadable. -/
theorem loadable_of_named {module name : String} {v : Value}
    (h : named module name = .found v) :
    v.Loadable := by
  unfold named at h
  dsimp only at h
  split at h
  · rename_i w hw
    cases h
    obtain ⟨key, hmem⟩ : ∃ key, (key, v) ∈ constants := by
      obtain ⟨l₁, l₂, heq, -⟩ := List.lookup_eq_some_iff.mp hw
      exact ⟨_, heq ▸ List.mem_append_right _ List.mem_cons_self⟩
    exact .plain (isPlain_constants _ hmem)
  split at h
  · split at h
    · cases h
      exact loadable_typeOf _ _
    split at h
    · cases h
      exact loadable_inert _ _ _ _
    split at h
    · cases h
      exact loadable_inert _ _ _ _
    · exact loadable_of_objectIn h
  · split at h
    · cases h
    · exact loadable_of_objectIn h

end RuleLint.Library
