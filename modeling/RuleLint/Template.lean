/-
RuleLint/Template.lean

The configuration that a new project starts with.  Where a project has directories for
tests, they get settings of their own, and the rules leave them out.
-/
import RuleLint.Path

namespace RuleLint.Template

/-- A path pattern as an item of a list of settings. -/
def item (pattern : String) : String := "      - " ++ pattern

/-- The lines of named settings; `gap` stands behind the word for what is left out. -/
def settingsLines (name : String) (included excluded : List String) (gap : String) :
    List String :=
  ["  " ++ name ++ ": &" ++ name ++ " !settings", "    included:"] ++ included.map item
    ++ ["    excluded:" ++ gap] ++ excluded.map item ++ ["    allow_ignore: yes"]

/-- The pattern for everything in a project. -/
def everything : String := "~+/*"

/-- The pattern for what test runs leave behind. -/
def testRuns : String := "~+/.tox/*"

/-- The pattern for everything in a directory of a project. -/
def within (directory : String) : String := "~+/" ++ Path.join directory "*"

/-- The lines for the directories of tests. -/
def testLines (directories : List String) : List String :=
  settingsLines "tests_only" (directories.map within) [testRuns] " " ++ [""]
    ++ settingsLines "excluding_tests" [everything] (directories.map within ++
      [testRuns]) "" ++ [""]

/-- The lines of the example rule. -/
def ruleLines : List String :=
  ["rules:",
   "  ExampleRule:",
   "    description: \"Empty module.\"",
   "    expr: /Module/body[not(./*)]",
   "    example: \"\"",
   "    instead: |",
   "      \"\"\"This module has a docstring.\"\"\""]

/-- The lines of the configuration for a project with the given directories of tests. -/
def lines (testDirectories : List String) : List String :=
  ["settings:"] ++ settingsLines "all_files" [everything] [testRuns] "" ++ [""]
    ++ (if testDirectories.isEmpty then ["default_settings: *all_files"]
      else testLines testDirectories ++ ["default_settings: *excluding_tests"])
    ++ [""] ++ ruleLines

/-- The configuration for a project with the given directories of tests. -/
def configuration (testDirectories : List String) : String :=
  String.join ((lines testDirectories).map (· ++ "\n"))

end RuleLint.Template
