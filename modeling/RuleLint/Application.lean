/-
RuleLint/Application.lean

The program: its two commands with their parameters, and what a command line does to a
project.
-/
import RuleLint.CommandLine.Registry
import RuleLint.Project.Commands

namespace RuleLint.Application

open RuleLint.CommandLine

/-- The command that writes a configuration. -/
def initCommand : Command :=
  { name := "init", doc := "Initialize bellybutton config for project.",
    signature :=
      { params := ["project_directory", "force"],
        defaults := some [.text ".", .bool false] } }

/-- The command that lints a project. -/
def lintCommand : Command :=
  { name := "lint", doc := "Lint project.",
    signature :=
      { params := ["modified_only", "project_directory", "verbose"],
        defaults := some [.bool false, .text ".", .bool false] } }

/-- The program under a name. -/
def program (name : String) : Program :=
  (({ name } : Program).registerAll [initCommand, lintCommand]).1

/-- What running the program comes to. -/
structure Session where
  output : String := ""
  errors : String := ""
  commands : List String := []
  result : Except Fault Nat
  files : Project.Files

/-- Whether an argument is given as true. -/
def isSet (args : List (String × Value)) (name : String) : Bool :=
  (args.lookup name).any Value.isTrue

/-- The directory among arguments. -/
def directoryIn (args : List (String × Value)) : String :=
  match args.lookup "project_directory" with
  | some (.text s) => s
  | _ => "."

/-- The session of a run that leaves files behind. -/
def sessionOf (r : Project.Run × Project.Files) : Session :=
  { output := r.1.output, commands := r.1.commands, result := r.1.result, files := r.2 }

variable [Host]

/-- Calls a command. -/
def call (fs : Project.Files) (answers : Project.Answers) (c : Command)
    (args : List (String × Value)) : Session :=
  let directory := directoryIn args
  if c.name = "init" then sessionOf (Project.init fs directory (isSet args "force"))
  else sessionOf
    (Project.lint fs answers (isSet args "modified_only") directory
      (isSet args "verbose"))

/-- The call of `init` is the command on its directory. -/
theorem call_init (fs : Project.Files) (answers : Project.Answers) (directory : String)
    (force : Bool) :
    call fs answers initCommand [("project_directory", .text directory),
      ("force", .bool force)] =
      sessionOf (Project.init fs directory force) :=
  rfl

/-- The call of `lint` is the command, and leaves the tree that it leaves. -/
theorem call_lint (fs : Project.Files) (answers : Project.Answers) (directory : String)
    (changedOnly full : Bool) :
    call fs answers lintCommand
        [("modified_only", .bool changedOnly), ("project_directory", .text directory),
          ("verbose", .bool full)] =
      sessionOf (Project.lint fs answers changedOnly directory full) :=
  rfl

/-- Runs the program under a name on a command line. -/
def run (fs : Project.Files) (answers : Project.Answers) (name : String)
    (argv : List String) :
    Session :=
  (program name).run
    (fun e => { output := e.output, errors := e.errors, result := e.result, files := fs })
    (call fs answers) argv

end RuleLint.Application
