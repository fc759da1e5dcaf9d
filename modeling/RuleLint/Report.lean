/-
RuleLint/Report.lean

How results are told: good news in green, bad news in red, a line for each violation
or a paragraph if more is asked for, and a line that sums up at the end.
-/
import RuleLint.Value.Print

namespace RuleLint.Report

/-! ### Colours -/

/-- A text between the marks for a colour and for its end. -/
def coloured (code : String) (s : String) : String :=
  "\x1b[" ++ code ++ "m" ++ s ++ "\x1b[0m"

/-- Good news. -/
def success (s : String) : String := coloured "92" s

/-- Bad news. -/
def error (s : String) : String := coloured "91" s

/-! ### Configurations -/

/-- There is a configuration already. -/
def alreadyThere (path : String) : String :=
  error ("ERROR: Path \x60" ++ path ++
    "\x60 already initialized (use --force to ignore).")

/-- There is no configuration. -/
def noConfiguration (path : String) : String :=
  error ("ERROR: Configuration file path \x60" ++ path ++ "\x60 does not exist.")

/-- A configuration is refused for a reason. -/
def badConfiguration (path reason : String) : String :=
  error ("ERROR: " ++ path ++ ", " ++ reason)

/-! ### Violations -/

/-- What is told of a violation. -/
structure Notice where
  path : String
  line : Value
  text : String
  name : Value
  description : Value
  sample : Value
  remedy : Value

/-- A violation in one line. -/
def Notice.brief (n : Notice) : String :=
  n.path ++ ":" ++ n.line.shown ++ "\t" ++ n.name.shown ++ ": " ++ n.description.shown

/-- A violation with its line and the clauses of the rule. -/
def Notice.full (n : Notice) : String :=
  coloured "95" (n.path ++ ":" ++ n.line.shown) ++ "\t" ++
    coloured "1;95;4" n.name.shown ++ "\n"
    ++ coloured "1" "Description" ++ ": " ++ n.description.shown ++ "\n"
    ++ coloured "1" "Line" ++ ":\n" ++ n.text ++ "\n"
    ++ coloured "1" "Example" ++ ":\n" ++ n.sample.shown ++ "\n"
    ++ coloured "1" "Instead" ++ ":\n" ++ n.remedy.shown ++ "\n"

/-- The values that a notice shows. -/
def Notice.values (n : Notice) (full : Bool) : List Value :=
  [n.line, n.name, n.description] ++ if full then [n.sample, n.remedy] else []

/-- The text of a notice, unless an integer in it cannot be written. -/
def Notice.told (n : Notice) (full : Bool) : Except Fault String :=
  if (n.values full).any Value.isHuge then .error .hugeInteger
  else .ok (if full then n.full else n.brief)

/-- A number of things. -/
def counted (n : Nat) (noun : String) : String :=
  toString n ++ " " ++ noun ++ (if n = 1 then "" else "s")

/-- What it all comes to. -/
def summary (rules files violations : Nat) : String :=
  let text := "Linting " ++ (if violations = 0 then "succeeded" else "failed") ++ " (" ++
    counted rules "rule" ++ ", "
    ++ counted files "file" ++ ", " ++ counted violations "violation" ++ ")."
  if violations = 0 then success text else error text

end RuleLint.Report
