/-
RuleLint/CommandLine/Basic.lean

Parsers of command lines.  A parser has options, each with the names that it may be
called by, and positional arguments; the one positional argument of a program with
commands is the command itself.
-/
import RuleLint.Text.Case
import RuleLint.Value.Print

namespace RuleLint.CommandLine

/-- What an option does. -/
inductive Effect where
  /-- Shows the help. -/
  | help
  /-- Stands for a truth value. -/
  | flag (value : Bool)
  /-- Takes an argument, which is to be of the type of a value if one is given. -/
  | takes (like : Option Value)

/-- An option. -/
structure Opt where
  names : List String
  /-- What the value is kept under. -/
  key : String
  effect : Effect
  default : Value

/-- A positional argument. -/
inductive Positional where
  /-- One argument. -/
  | one (name : String)
  /-- A command, with all arguments behind it. -/
  | command (choices : List String)

/-- A parser. -/
structure Parser where
  prog : String
  description : String
  options : List Opt
  positionals : List Positional

/-- The option for help. -/
def helpOption : Opt :=
  { names := ["-h", "--help"], key := "help", effect := .help, default := .null }

/-- Choices in braces. -/
def choicesText (choices : List String) : String :=
  "\x7b" ++ ",".intercalate choices ++ "\x7d"

/-- How a complaint calls an option. -/
def Opt.title (o : Opt) : String :=
  "/".intercalate o.names

/-- How a complaint calls a positional argument. -/
def Positional.title : Positional → Option String
  | .one name => some name
  | .command [] => none
  | .command choices => some (choicesText choices)

/-- A complaint about an argument. -/
def about (title : Option String) (complaint : String) : String :=
  match title with
  | some title => "argument " ++ title ++ ": " ++ complaint
  | none => complaint

/-- A text in capitals. -/
def inCapitals (s : String) : String :=
  String.ofList (s.toList.map fun c =>
    if c.toNat < 128 then c.toUpper
    else match Text.capitalsOf c.toNat with
      | n :: _ => Char.ofNat n
      | [] => c)

end RuleLint.CommandLine
