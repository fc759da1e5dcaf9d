/-
RuleLint/Source/Tree.lean

The syntax tree of a source.  A branch has a kind, perhaps a place, and named fields in
a fixed order; a field holds a branch, a list of branches, a literal, or nothing.
Queries look at trees by these names, so the names and their order are all that there is
to a kind of branch, and for each kind there is one function here that makes its
branches.

Texts in literals are lists of code points, because an escape may name a code point that
is no character.
-/
import RuleLint.Source.Token

namespace RuleLint.Source

/-- A constant in a source. -/
inductive Literal where
  | none
  | bool (b : Bool)
  | int (n : Int)
  | float (x : Float)
  | imaginary (x : Float)
  | text (points : List Nat)
  | bytes (values : List Nat)
  | ellipsis

mutual

/-- A node of a syntax tree. -/
inductive Tree where
  | branch (kind : String) (place : Option Place) (fields : Fields)
  /-- A literal in a list. -/
  | item (l : Literal)

/-- The fields of a branch. -/
inductive Fields where
  | nil
  | cons (name : String) (f : Field) (rest : Fields)

/-- What a field holds. -/
inductive Field where
  | absent
  | literal (l : Literal)
  | one (s : Tree)
  | many (ss : Siblings)

/-- A list of nodes. -/
inductive Siblings where
  | nil
  | cons (s : Tree) (rest : Siblings)

end

/-- The nodes of a list. -/
def Siblings.ofList : List Tree → Siblings
  | [] => .nil
  | s :: rest => .cons s (ofList rest)

/-- Nodes as a list. -/
def Siblings.toList : Siblings → List Tree
  | .nil => []
  | .cons s rest => s :: toList rest

/-- Fields from a list. -/
def Fields.ofList : List (String × Field) → Fields
  | [] => .nil
  | (name, f) :: rest => .cons name f (ofList rest)

namespace Tree

/-- The kind of a node. -/
def kind : Tree → String
  | .branch k _ _ => k
  | .item _ => ""

instance : Inhabited Tree := ⟨.item .none⟩

/-! ### Fields -/

/-- A name as a literal. -/
def nameLiteral (s : String) : Literal := .text (s.toList.map Char.toNat)

/-- A list of nodes. -/
def many (ss : List Tree) : Field := .many (.ofList ss)

/-- A node that may be missing. -/
def maybe : Option Tree → Field
  | some s => .one s
  | none => .absent

/-- A name. -/
def named (s : String) : Field := .literal (nameLiteral s)

/-- A name that may be missing. -/
def maybeNamed : Option String → Field
  | some s => named s
  | none => .absent

/-- A number. -/
def count (n : Int) : Field := .literal (.int n)

/-- A branch with a place. -/
def at_ (p : Place) (kind : String) (fields : List (String × Field)) : Tree :=
  .branch kind (some p) (.ofList fields)

/-- A branch without a place. -/
def plain (kind : String) (fields : List (String × Field)) : Tree :=
  .branch kind none (.ofList fields)

/-- A branch that is only a kind. -/
def mark (kind : String) : Tree := plain kind []

/-! ### Expressions -/

/-- What a variable is used for. -/
inductive Use where
  | load
  | store
  | delete
deriving Repr, BEq, DecidableEq

/-- The field for what a variable is used for. -/
def Use.field : Use → String × Field
  | .load => ("ctx", .one (mark "Load"))
  | .store => ("ctx", .one (mark "Store"))
  | .delete => ("ctx", .one (mark "Del"))

def name (p : Place) (id : String) (u : Use := .load) : Tree :=
    at_ p "Name" [("id", named id), u.field]

def constant (p : Place) (l : Literal) (unicodeMark : Bool := false) : Tree :=
  at_ p "Constant" [("value", match l with | .none => .absent | l => .literal l),
    ("kind", if unicodeMark then named "u" else .absent)]

def boolOp (p : Place) (op : String) (values : List Tree) : Tree :=
  at_ p "BoolOp" [("op", .one (mark op)), ("values", many values)]

def namedExpr (p : Place) (target value : Tree) : Tree :=
  at_ p "NamedExpr" [("target", .one target), ("value", .one value)]

def binOp (p : Place) (op : String) (left right : Tree) : Tree :=
  at_ p "BinOp" [("left", .one left), ("op", .one (mark op)), ("right", .one right)]

def unaryOp (p : Place) (op : String) (operand : Tree) : Tree :=
  at_ p "UnaryOp" [("op", .one (mark op)), ("operand", .one operand)]

def lambda (p : Place) (args body : Tree) : Tree :=
  at_ p "Lambda" [("args", .one args), ("body", .one body)]

def ifExp (p : Place) (test body orelse : Tree) : Tree :=
  at_ p "IfExp" [("test", .one test), ("body", .one body), ("orelse", .one orelse)]

/-- A display of keys and values; a key is missing where a whole mapping is spread. -/
def dict (p : Place) (entries : List (Option Tree × Tree)) : Tree :=
  at_ p "Dict" [("keys", many (entries.map fun (k, _) => k.getD (.item .none))),
    ("values", many (entries.map (·.2)))]

def set (p : Place) (elts : List Tree) : Tree := at_ p "Set" [("elts", many elts)]

/-- A list, a set or a generator that is described by what it goes through. -/
def comprehended (p : Place) (kind : String) (elt : Tree) (generators : List Tree) :
    Tree :=
  at_ p kind [("elt", .one elt), ("generators", many generators)]

def dictComp (p : Place) (key value : Tree) (generators : List Tree) : Tree :=
  at_ p "DictComp" [("key", .one key), ("value", .one value),
    ("generators", many generators)]

def comprehension (target iter : Tree) (ifs : List Tree) (isAsync : Bool) : Tree :=
  plain "comprehension" [("target", .one target), ("iter", .one iter), ("ifs", many ifs),
    ("is_async", count (if isAsync then 1 else 0))]

def await (p : Place) (value : Tree) : Tree := at_ p "Await" [("value", .one value)]

def yield (p : Place) (value : Option Tree) :
    Tree := at_ p "Yield" [("value", maybe value)]

def yieldFrom (p : Place) (value : Tree) :
    Tree := at_ p "YieldFrom" [("value", .one value)]

def compare (p : Place) (left : Tree) (rest : List (String × Tree)) : Tree :=
  at_ p "Compare" [("left", .one left), ("ops", many (rest.map fun (op, _) => mark op)),
    ("comparators", many (rest.map (·.2)))]

def call (p : Place) (func : Tree) (args keywords : List Tree) : Tree :=
  at_ p "Call" [("func", .one func), ("args", many args), ("keywords", many keywords)]

def keyword (p : Place) (arg : Option String) (value : Tree) : Tree :=
  at_ p "keyword" [("arg", maybeNamed arg), ("value", .one value)]

def formattedValue (p : Place) (value : Tree) (conversion : Int) (spec : Option Tree) :
    Tree :=
  at_ p "FormattedValue" [("value", .one value), ("conversion", count conversion),
    ("format_spec", maybe spec)]

def joinedStr (p : Place) (values : List Tree) :
    Tree := at_ p "JoinedStr" [("values", many values)]

def member (p : Place) (value : Tree) (attr : String) (u : Use := .load) : Tree :=
  at_ p "Attribute" [("value", .one value), ("attr", named attr), u.field]

def subscript (p : Place) (value slice : Tree) (u : Use := .load) : Tree :=
  at_ p "Subscript" [("value", .one value), ("slice", .one slice), u.field]

def starred (p : Place) (value : Tree) (u : Use := .load) : Tree :=
  at_ p "Starred" [("value", .one value), u.field]

def list (p : Place) (elts : List Tree) (u : Use := .load) : Tree :=
  at_ p "List" [("elts", many elts), u.field]

def tuple (p : Place) (elts : List Tree) (u : Use := .load) : Tree :=
  at_ p "Tuple" [("elts", many elts), u.field]

def slice (p : Place) (lower upper step : Option Tree) : Tree :=
  at_ p "Slice" [("lower", maybe lower), ("upper", maybe upper), ("step", maybe step)]

/-! ### Parameters -/

def arg (p : Place) (name : String) (note : Option Tree) : Tree :=
  at_ p "arg" [("arg", named name), ("annotation", maybe note), ("type_comment", .absent)]

/-- The parameters of a function. -/
structure Parameters where
  positional : List Tree := []
  args : List Tree := []
  vararg : Option Tree := none
  keywordOnly : List Tree := []
  keywordDefaults : List (Option Tree) := []
  kwarg : Option Tree := none
  defaults : List Tree := []

def arguments (a : Parameters) : Tree :=
  plain "arguments" [("posonlyargs", many a.positional), ("args", many a.args),
    ("vararg", maybe a.vararg),
    ("kwonlyargs", many a.keywordOnly),
      ("kw_defaults", many (a.keywordDefaults.map fun d => d.getD (.item .none))),
    ("kwarg", maybe a.kwarg), ("defaults", many a.defaults)]

/-! ### Statements -/

def functionDef (p : Place) (kind name : String) (args : Tree)
    (body decorators : List Tree) (returns : Option Tree) :
    Tree :=
  at_ p kind [("name", named name), ("args", .one args), ("body", many body),
    ("decorator_list", many decorators),
    ("returns", maybe returns), ("type_comment", .absent)]

def classDef (p : Place) (name : String) (bases keywords body decorators : List Tree) :
    Tree :=
  at_ p "ClassDef" [("name", named name), ("bases", many bases),
    ("keywords", many keywords), ("body", many body),
    ("decorator_list", many decorators)]

def return_ (p : Place) (value : Option Tree) :
    Tree := at_ p "Return" [("value", maybe value)]

def delete (p : Place) (targets : List Tree) :
    Tree := at_ p "Delete" [("targets", many targets)]

def assign (p : Place) (targets : List Tree) (value : Tree) : Tree :=
  at_ p "Assign" [("targets", many targets), ("value", .one value),
    ("type_comment", .absent)]

def augAssign (p : Place) (target : Tree) (op : String) (value : Tree) : Tree :=
  at_ p "AugAssign" [("target", .one target), ("op", .one (mark op)),
    ("value", .one value)]

def annAssign (p : Place) (target note : Tree) (value : Option Tree) (simple : Bool) :
    Tree :=
  at_ p "AnnAssign" [("target", .one target), ("annotation", .one note),
    ("value", maybe value),
    ("simple", count (if simple then 1 else 0))]

def for_ (p : Place) (kind : String) (target iter : Tree) (body orelse : List Tree) :
    Tree :=
  at_ p kind [("target", .one target), ("iter", .one iter), ("body", many body),
    ("orelse", many orelse),
    ("type_comment", .absent)]

/-- A statement with a test and two blocks. -/
def tested (p : Place) (kind : String) (test : Tree) (body orelse : List Tree) : Tree :=
  at_ p kind [("test", .one test), ("body", many body), ("orelse", many orelse)]

def withItem (context : Tree) (vars : Option Tree) : Tree :=
  plain "withitem" [("context_expr", .one context), ("optional_vars", maybe vars)]

def with_ (p : Place) (kind : String) (items body : List Tree) : Tree :=
  at_ p kind [("items", many items), ("body", many body), ("type_comment", .absent)]

def match_ (p : Place) (subject : Tree) (cases : List Tree) : Tree :=
  at_ p "Match" [("subject", .one subject), ("cases", many cases)]

def matchCase (pattern : Tree) (guard : Option Tree) (body : List Tree) : Tree :=
  plain "match_case" [("pattern", .one pattern), ("guard", maybe guard),
    ("body", many body)]

def raise (p : Place) (exc cause : Option Tree) : Tree :=
  at_ p "Raise" [("exc", maybe exc), ("cause", maybe cause)]

def try_ (p : Place) (kind : String) (body handlers orelse final : List Tree) : Tree :=
  at_ p kind [("body", many body), ("handlers", many handlers), ("orelse", many orelse),
    ("finalbody", many final)]

def handler (p : Place) (type : Option Tree) (name : Option String) (body : List Tree) :
    Tree :=
  at_ p "ExceptHandler" [("type", maybe type), ("name", maybeNamed name),
    ("body", many body)]

def assert (p : Place) (test : Tree) (msg : Option Tree) : Tree :=
  at_ p "Assert" [("test", .one test), ("msg", maybe msg)]

def import_ (p : Place) (names : List Tree) :
    Tree := at_ p "Import" [("names", many names)]

def importFrom (p : Place) (module : Option String) (names : List Tree) (level : Nat) :
    Tree :=
  at_ p "ImportFrom" [("module", maybeNamed module), ("names", many names),
    ("level", count level)]

def importName (p : Place) (name : String) (asname : Option String) : Tree :=
  at_ p "alias" [("name", named name), ("asname", maybeNamed asname)]

/-- A statement about names. -/
def names (p : Place) (kind : String) (ns : List String) : Tree :=
  at_ p kind [("names", many (ns.map fun n => .item (nameLiteral n)))]

def exprStatement (p : Place) (value : Tree) :
    Tree := at_ p "Expr" [("value", .one value)]

def moduleOf (body : List Tree) :
    Tree := plain "Module" [("body", many body), ("type_ignores", many [])]

/-! ### Patterns -/

def matchValue (p : Place) (value : Tree) :
    Tree := at_ p "MatchValue" [("value", .one value)]

def matchSingleton (p : Place) (l : Literal) : Tree :=
  at_ p "MatchSingleton" [("value", match l with | .none => .absent | l => .literal l)]

def matchSequence (p : Place) (patterns : List Tree) :
    Tree := at_ p "MatchSequence" [("patterns", many patterns)]

def matchMapping (p : Place) (entries : List (Tree × Tree)) (rest : Option String) :
    Tree :=
  at_ p "MatchMapping" [("keys", many (entries.map (·.1))),
    ("patterns", many (entries.map (·.2))), ("rest", maybeNamed rest)]

def matchClass (p : Place) (cls : Tree) (patterns : List Tree)
    (keywords : List (String × Tree)) : Tree :=
  at_ p "MatchClass" [("cls", .one cls), ("patterns", many patterns),
    ("kwd_attrs", many (keywords.map fun (k, _) => .item (nameLiteral k))),
      ("kwd_patterns", many (keywords.map (·.2)))]

def matchStar (p : Place) (name : Option String) :
    Tree := at_ p "MatchStar" [("name", maybeNamed name)]

def matchAs (p : Place) (pattern : Option Tree) (name : Option String) : Tree :=
  at_ p "MatchAs" [("pattern", maybe pattern), ("name", maybeNamed name)]

def matchOr (p : Place) (patterns : List Tree) :
    Tree := at_ p "MatchOr" [("patterns", many patterns)]

end Tree

end RuleLint.Source
