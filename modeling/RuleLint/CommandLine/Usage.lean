/-
RuleLint/CommandLine/Usage.lean

What a parser says about itself: the usage, which is one line if it fits, and the help,
which has the description and a list of the arguments too.
-/
import RuleLint.CommandLine.Basic
import RuleLint.Text.Wrap

namespace RuleLint.CommandLine

/-- The width of a line. -/
def lineWidth : Nat := 78

/-- The farthest column at which the help of an argument starts. -/
def helpColumn : Nat := 24

/-! ### Parts -/

/-- An option with the name of its argument. -/
def Opt.invoked (o : Opt) (name : String) : String :=
  match o.effect with
  | .takes _ => name ++ " " ++ inCapitals o.key
  | _ => name

/-- An option in a usage. -/
def Opt.usage (o : Opt) : String :=
  "[" ++ o.invoked (o.names.headD "") ++ "]"

/-- A positional argument in a usage, word by word. -/
def Positional.usage : Positional → List String
  | .one name => [name]
  | .command choices => [choicesText choices, "..."]

/-- How a list of arguments calls an option. -/
def Opt.label (o : Opt) : String :=
  ", ".intercalate (o.names.map o.invoked)

/-- How a list of arguments calls a positional argument. -/
def Positional.label : Positional → String
  | .one name => name
  | .command choices => choicesText choices

/-- What an option is for. -/
def Opt.purpose (o : Opt) : Option String :=
  match o.effect with
  | .help => some "show this help message and exit"
  | _ => none

/-! ### Usage -/

/-- Blanks to the number of `n`. -/
def blanks (n : Nat) : String :=
  String.ofList (List.replicate n ' ')

/-- Puts parts into lines; `line` is the line under way, and `used` how much of it is
taken. -/
def partLines (indent : Nat) (line : List String) (used : Nat) :
    List String → List (List String)
  | [] => if line.isEmpty then [] else [line]
  | part :: rest =>
    if lineWidth < used + 1 + part.length && !line.isEmpty then
      line :: partLines indent [part] (indent + part.length) rest
    else partLines indent (line ++ [part]) (used + 1 + part.length) rest

/-- Lines of parts behind an indent. -/
def indentedLines (indent : Nat) (parts : List String) : List String :=
  (partLines indent [] (indent - 1) parts).map fun line => blanks indent ++
    " ".intercalate line

/-- The usage on several lines. -/
def brokenUsage (mark prog : String) (options positionals : List String) : String :=
  let front := mark.length + prog.length
  if 4 * front ≤ 3 * lineWidth then
    let indent := front + 1
    let joined (parts : List String) : List String :=
      match (partLines indent [] (mark.length - 1) (prog :: parts)).map
        (" ".intercalate ·) with
      | first :: rest => first :: rest.map (blanks indent ++ ·)
      | [] => []
    let lines :=
      if !options.isEmpty then joined options ++ indentedLines indent positionals
      else if !positionals.isEmpty then joined positionals
      else [prog]
    "\n".intercalate lines
  else
    let indent := mark.length
    let together := indentedLines indent (options ++ positionals)
    let lines := if together.length ≤ 1 then together else indentedLines indent options ++
      indentedLines indent positionals
    "\n".intercalate (prog :: lines)

/-- The usage of a parser, with the end of its line. -/
def Parser.usage (p : Parser) : String :=
  let mark := "usage: "
  let options := p.options.map Opt.usage
  let positionals := p.positionals.flatMap Positional.usage
  let line := " ".intercalate (p.prog :: options ++ positionals)
  let text := if lineWidth < mark.length + line.length
    then brokenUsage mark p.prog options positionals else line
  mark ++ text ++ "\n"

/-! ### Help -/

/-- An argument in the list of arguments; what it is for begins at a column. -/
def entryText (column : Nat) (label : String) (purpose : Option String) : String :=
  match purpose with
  | none => "  " ++ label ++ "\n"
  | some s =>
    if label.length + 4 ≤ column then "  " ++ label ++
      blanks (column - 2 - label.length) ++ s ++ "\n"
    else "  " ++ label ++ "\n" ++ blanks column ++ s ++ "\n"

/-- A section of the help, but for an empty one. -/
def sectionText (heading : String) (entries : List String) : List String :=
  if entries.isEmpty then [] else [heading ++ ":\n" ++ String.join entries]

/-- The description of a parser, in which its name may be asked for. -/
def Parser.describe (p : Parser) : String :=
  let text := if (p.description.splitOn "%(prog)").length > 1 then
      "%".intercalate
        (("".intercalate ((p.description.splitOn "%(prog)s").intersperse p.prog)).splitOn
        "%%")
    else p.description
  Text.fill lineWidth text

/-- The help of a parser. -/
def Parser.help (p : Parser) : String :=
  let labels := p.positionals.map Positional.label ++ p.options.map Opt.label
  let longest := labels.foldl (fun n s => max n (s.length + 2)) 0
  let column := min (longest + 2) helpColumn
  let description := p.describe
  let blocks := [p.usage] ++ (if description.isEmpty then [] else [description ++ "\n"])
    ++ sectionText "positional arguments" (p.positionals.map fun a =>
      entryText column a.label none)
    ++ sectionText "options" (p.options.map fun o => entryText column o.label o.purpose)
  "\n".intercalate blocks

end RuleLint.CommandLine
