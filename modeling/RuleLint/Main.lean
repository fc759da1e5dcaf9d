/-
RuleLint/Main.lean

The command line.  The directory of the project is walked before the command runs,
and a configuration that the command makes is written when it is done.  Of the files
only sources and configurations are read.  The version control system is not run
from here: for a run on changed files only, standard input is its answer, a path in
each line.
-/
import RuleLint.Application
import RuleLint.Host.Standard

namespace RuleLint.Main

open RuleLint.Project

/-- The lines of a stream, up to its end. -/
partial def readLines (stream : IO.FS.Stream) : IO (List String) := do
  let line ← stream.getLine
  if line.isEmpty then return []
  return String.ofList (line.toList.filter (· != '\n')) :: (← readLines stream)

/-- Whether the contents of a file with a name matter. -/
def isRead (name : String) : Bool :=
  isSource name || name = configName

mutual

/-- What stands at an entry of a directory; links are not followed. -/
partial def itemOf (entry : IO.FS.DirEntry) : IO Item := do
  if (← entry.path.symlinkMetadata).type == .dir then
    return .directory (← itemsOf (← entry.path.readDir).toList)
  if !isRead entry.fileName then return .file []
  return .file (← IO.FS.readBinFile entry.path).toList

/-- What the entries of a directory stand for. -/
partial def itemsOf : List IO.FS.DirEntry → IO Items
  | [] => return .nil
  | entry :: rest => do
    let items ← itemsOf rest
    try
      return items.insert entry.fileName (← itemOf entry)
    catch _ => return items

end

/-- The names on a path from the root. -/
def placeOf (path : String) : Place :=
  (path.splitOn "/").filter (!·.isEmpty)

/-- A tree of nothing but the directory to start from. -/
def emptyTree (here : Place) : Files :=
  let root : Files := ⟨.directory .nil, []⟩
  { (root.makeDirectory ("/".intercalate here)).toOption.getD root with here }

/-- A tree with a directory and what is in it. -/
def withDirectory (fs : Files) (path : String) (items : Items) : Files :=
  let made := (fs.makeDirectory path).toOption.getD fs
  { made with root := made.root.put (placeOf (made.absolute path)) (.directory items) }

/-- The directory that a command line is about. -/
def directoryOf (args : List String) : String :=
  match (Application.program "bellybutton").read args with
  | .call _ values => Application.directoryIn values
  | _ => "."

end RuleLint.Main

open RuleLint RuleLint.Standard in
/-- Runs the program. -/
def main (args : List String) : IO UInt32 := do
  let directory := Main.directoryOf args
  let config := Path.join directory Project.configName
  let current ← IO.currentDir
  let start := Main.emptyTree (Main.placeOf current.toString)
  let fs ← try
      let entries ← (current / directory).readDir
      pure (Main.withDirectory start directory (← Main.itemsOf entries.toList))
    catch _ => pure start
  let changed := args.contains "--modified-only" || args.contains "-m"
  let lines ← if changed then Main.readLines (← IO.getStdin) else pure []
  let answers := { staged := "\n".intercalate lines }
  let session := Application.run fs answers "bellybutton" args
  IO.print session.output
  IO.eprint session.errors
  match session.files.readBytes config, fs.readBytes config with
  | .ok new, old =>
      if old.toOption ≠ some new then IO.FS.writeBinFile config ⟨new.toArray⟩
  | _, _ => pure ()
  match session.result with
  | .ok code => return code.toUInt32
  | .error f =>
    IO.eprintln f.message
    return 1
