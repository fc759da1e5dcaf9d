/-
RuleLint/Project/Changes.lean

Which sources have been changed.  A version control system is asked twice: for what
is about to be recorded, and for what differs from the main branch.  The answers are
texts with a path in each line.  It keeps its own files below the directory, so each
command may leave the tree another one.
-/
import RuleLint.Neighbours
import RuleLint.Project.Read

namespace RuleLint.Project

/-- What the version control system answers, and the codes with which its commands
fail. -/
structure Answers where
  staged : String := ""
  branch : String := ""
  fetchFails : Option Int := none
  stagedFails : Option Int := none
  branchFails : Option Int := none
  /-- What the commands leave of a tree. -/
  fetchLeaves : Item → Item := id
  stagedLeaves : Item → Item := id
  branchLeaves : Item → Item := id

/-- The commands that were given so far, what came of them, and the files that they
left. -/
structure Asked (α : Type) where
  commands : List String
  result : Except Fault α
  files : Files

namespace Asked

/-- Goes on after a success. -/
def andThen {α β : Type} (a : Asked α) (f : α → Files → Asked β) : Asked β :=
  match a.result with
  | .error e => ⟨a.commands, .error e, a.files⟩
  | .ok x =>
    let b := f x a.files
    ⟨a.commands ++ b.commands, b.result, b.files⟩

/-- A command that leaves something of a tree, and fails with a code if there is one. -/
def command {α : Type} (line : String) (fails : Option Int) (answer : α)
    (leaves : Item → Item)
    (fs : Files) : Asked α :=
  let result := match fails with
    | some code => .error (.command line code)
    | none => .ok answer
  ⟨[line], result, { fs with root := leaves fs.root }⟩

end Asked

/-- The sources in an answer, as paths from the root. -/
def namedSources (fs : Files) (answer : String) : List String :=
  let lines := Text.lines (String.ofList (Text.trim answer.toList))
  (lines.filter isSource).map fs.absolute

/-- Paths in order, each once. -/
def eachOnce (paths : List String) : List String :=
  dropNeighbours (inPathOrder paths)

/-- The command for what has changed in a directory, with a field for what it is
compared with. -/
def changesCommand (directory : String) : String :=
  "git -C \"" ++ directory ++ "\" diff \x7b\x7d --name-only"

/-- Asks for what has changed in a directory compared with something. -/
def askChanges (directory base : String) (fails : Option Int) (answer : String)
    (leaves : Item → Item) (fs : Files) : Asked String :=
  match Text.putInFields (changesCommand directory) base with
  | .error e => ⟨[], .error (.fields e), fs⟩
  | .ok line => .command line fails answer leaves fs

/-- The sources that have been changed in a directory, in order. -/
def changedSources (fs : Files) (answers : Answers) (directory : String) :
    Asked (List String) :=
  let top := fs.absolute directory
  let fetch := "git -C \"" ++ directory ++ "\" fetch origin"
  (Asked.command fetch answers.fetchFails () answers.fetchLeaves fs).andThen fun _ fs =>
    (askChanges top "--staged" answers.stagedFails answers.staged
      answers.stagedLeaves fs).andThen
      fun staged fs =>
        (askChanges top "origin/master..." answers.branchFails answers.branch
          answers.branchLeaves
          fs).andThen fun branch fs =>
            ⟨[], .ok (eachOnce (namedSources fs staged ++ namedSources fs branch)), fs⟩

end RuleLint.Project
