/-
RuleLint/Project/Commands.lean

The two things that can be done with a project: `init` writes a configuration for
it, and `lint` runs the rules of its configuration on its sources and tells what they
find.  Each gives the files as it leaves them.
-/
import RuleLint.Project.Changes
import RuleLint.Project.Violations
import RuleLint.Report
import RuleLint.Rule.Config
import RuleLint.Template

namespace RuleLint.Project

/-- What a command prints, the commands that it gives in turn, and the code that it ends
with. -/
structure Run where
  output : String := ""
  commands : List String := []
  result : Except Fault Nat

/-- The name of the configuration of a project. -/
def configName : String := ".bellybutton.yml"

/-- A text as a line of its own. -/
def printed (s : String) : String := s ++ "\n"

/-! ### Init -/

/-- The directories for tests among items. -/
def testDirectories (items : Items) : List String :=
  items.toList.filterMap fun (name, item) => if item.isDirectory && name.startsWith "test"
    then some name else none

/-- Writes a configuration for the project in a directory, unless there is one and
nothing forces it. -/
def init (fs : Files) (directory : String) (force : Bool) : Run × Files :=
  let config := Path.join directory configName
  if fs.holds config && !force then
    ({ output := printed (Report.alreadyThere config), result := .ok 1 }, fs)
  else match fs.list directory with
    | .error cause => ({ result := .error (.file cause directory) }, fs)
    | .ok items =>
      let text := Template.configuration (testDirectories items)
      match fs.writeBytes config (Text.encodeUtf8 text) with
      | .error cause => ({ result := .error (.file cause config) }, fs)
      | .ok fs => ({ result := .ok 0 }, fs)

/-! ### Lint -/

/-- Whether a fault says that a configuration is refused. -/
def isRefusal : Fault → Bool
  | .refused _ | .document _ (.invalid _) => true
  | _ => false

variable [Host]

/-- The rules of the configuration at a path. -/
def rulesAt (fs : Files) (config : String) : Except Fault (List Rule) := do
  Config.load config (← fs.readStream config)

/-- The rules of the configuration at a path; what is printed instead if it is
refused or cannot be read. -/
def loadRules (fs : Files) (config : String) : Except Fault (Except String (List Rule)) :=
  match rulesAt fs config with
  | .ok rules => .ok (.ok rules)
  | .error f =>
    if f.isOfFiles then .ok (.error (Report.noConfiguration config))
    else if isRefusal f then .ok (.error (Report.badConfiguration config f.message))
    else .error f

/-- What is told of a violation, seen from a directory. -/
def noticeOf (directory : String) (v : Violation) : Report.Notice :=
  { path := Path.relative directory v.path, line := v.line, text := v.text,
    name := v.rule.name,
    description := v.rule.description, sample := v.rule.sample, remedy := v.rule.remedy }

/-- The sources that are linted: all of a directory, or those that have been changed. -/
def sourcesOf (fs : Files) (answers : Answers) (changedOnly : Bool) (directory : String) :
    Asked (List String) :=
  if changedOnly then changedSources fs answers directory
  else ⟨[], .ok (fs.sources directory), fs⟩

/-- Tells of violations, up to one that cannot be told of. -/
def tellAll (directory : String) (full : Bool) : List Violation → String × Option Fault
  | [] => ("", none)
  | v :: rest => match (noticeOf directory v).told full with
    | .error f => ("", some f)
    | .ok text =>
      let (more, fault) := tellAll directory full rest
      (printed text ++ more, fault)

/-- Runs rules on files and tells of it.  Each violation is told of as soon as it is
found, so one that cannot be told of ends the run. -/
def lintFiles (fs : Files) (directory : String) (full : Bool) (rules : List Rule)
    (paths : List String) : String × Except Fault Nat :=
  let vs := violations fs paths rules
  let (notices, untold) := tellAll directory full vs.found
  match untold.or vs.fault with
  | some f => (notices, .error f)
  | none =>
    (notices ++ printed (Report.summary rules.length paths.length vs.found.length),
      .ok (if vs.found.isEmpty then 0 else 1))

/-- What running rules on files leaves of them. -/
def leftByLint (fs : Files) (directory : String) (full : Bool) (rules : List Rule)
    (paths : List String) : Files :=
  leftFrom fs rules (fun v => !((noticeOf directory v).told full).toBool)
    (inPathOrder paths)

/-- Runs the rules of the project in a directory on its sources. -/
def lint (fs : Files) (answers : Answers) (changedOnly : Bool) (directory : String)
    (full : Bool) :
    Run × Files :=
  match loadRules fs (fs.absolute (Path.join directory configName)) with
  | .error f => ({ result := .error f }, fs)
  | .ok (.error message) => ({ output := printed message, result := .ok 1 }, fs)
  | .ok (.ok rules) =>
    let top := fs.absolute directory
    let asked := sourcesOf fs answers changedOnly top
    match asked.result with
    | .error f => ({ commands := asked.commands, result := .error f }, asked.files)
    | .ok paths =>
      let (output, result) := lintFiles asked.files top full rules paths
      ({ output, commands := asked.commands, result },
        leftByLint asked.files top full rules paths)

end RuleLint.Project
