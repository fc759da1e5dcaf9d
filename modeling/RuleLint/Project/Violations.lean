/-
RuleLint/Project/Violations.lean

Violations of rules in the files of a project, each with the line that it is on.
Files are read and linted one after the other, in order of their paths; the
violations found before something stops the work are given too.  Functions that
rules call may write to the tree, and later files are read from what they left.
-/
import RuleLint.Lint.Basic
import RuleLint.Project.Read
import RuleLint.Text.Lines

namespace RuleLint.Project

/-- A rule that is broken on a line of a file. -/
structure Violation where
  path : String
  line : Value
  /-- The line itself. -/
  text : String
  rule : Rule

/-- Violations, and what ended the search too early. -/
structure Violations where
  found : List Violation
  fault : Option Fault

/-- The item of a list at a place; negative places count from the end. -/
def atPlace? (lines : List String) (place : Int) : Option String :=
  if 0 ≤ place then lines[place.toNat]?
  else if place.natAbs ≤ lines.length then lines[lines.length - place.natAbs]? else none

/-- The line of a text with a number; behind the last line is the last line, and an
empty text has empty lines. -/
def lineText (lines : List String) (number : Value) : Except Fault String :=
  let size : Int := lines.length
  let pick (place : Int) : Except Fault String :=
    match atPlace? lines place with
    | some text => .ok text
    | none => .error .noSuchLine
  if lines.isEmpty then .ok ""
  else match Value.asNumber number with
    | .int n => pick (min n size - 1)
    | .float x =>
        if Value.intLtFloat size x then pick (size - 1)
          else .error (.notLineNumber "float")
    | _ => .error (.unordered "int" number.typeName)

/-- The violations among findings, up to one whose line cannot be shown. -/
def violationsAt (path : String) (lines : List String) : List Finding → Violations
  | [] => ⟨[], none⟩
  | ⟨_, none⟩ :: rest => violationsAt path lines rest
  | ⟨rule, some line⟩ :: rest => match lineText lines line with
    | .error f => ⟨[], some f⟩
    | .ok text =>
      let more := violationsAt path lines rest
      ⟨⟨path, line, text, rule⟩ :: more.found, more.fault⟩

variable [Host]

/-- The violations in a file with a text.  A fault of a rule hides what other rules
found in the file. -/
def violationsIn (rules : List Rule) (path text : String) : Violations :=
  match Lint.file path text rules with
  | ⟨_, some f⟩ => ⟨[], some f⟩
  | ⟨findings, none⟩ => violationsAt path (Text.lines text) findings

/-- What running rules on a file with a text leaves of the files. -/
def Files.leftBy (fs : Files) (rules : List Rule) (path text : String) : Files :=
  { fs with root := Lint.leftBy path text rules fs.root }

/-- The violations in files, one after the other. -/
def violationsFrom (fs : Files) (rules : List Rule) : List String → Violations
  | [] => ⟨[], none⟩
  | path :: rest => match fs.readText path with
    | .error f => ⟨[], some f⟩
    | .ok text => match violationsIn rules path text with
      | ⟨found, some f⟩ => ⟨found, some f⟩
      | ⟨found, none⟩ =>
        let more := violationsFrom (fs.leftBy rules path text) rules rest
        ⟨found ++ more.found, more.fault⟩

/-- The violations in files, in order of their paths. -/
def violations (fs : Files) (paths : List String) (rules : List Rule) : Violations :=
  violationsFrom fs rules (inPathOrder paths)

/-- What the search for violations leaves of the files if it ends at the first file
that has one of some kind. -/
def leftFrom (fs : Files) (rules : List Rule) (isLast : Violation → Bool) :
    List String → Files
  | [] => fs
  | path :: rest => match fs.readText path with
    | .error _ => fs
    | .ok text =>
      let vs := violationsIn rules path text
      let left := fs.leftBy rules path text
      if vs.fault.isSome || vs.found.any isLast then left
        else leftFrom left rules isLast rest

end RuleLint.Project
