/-
RuleLint/Project/Files.lean

A tree of files.  A directory holds entries by name, in order of their names; a place in
the tree is the list of names that leads to it. A path is a text and leads to a place
from the root or from a directory that one is in: a dot stays, and two dots go up.
-/
import RuleLint.Path
import RuleLint.Text.Quoted

namespace RuleLint.Project

mutual

/-- A file with its bytes, or a directory. -/
inductive Item where
  | file (bytes : List UInt8)
  | directory (items : Items)

/-- The contents of a directory. -/
inductive Items where
  | nil
  | cons (name : String) (item : Item) (rest : Items)

end

instance : Inhabited Item := ⟨.directory .nil⟩

/-- A place in a tree, from the root. -/
abbrev Place := List String

/-! ### Directories -/

namespace Items

/-- The item with a name. -/
def get? (name : String) : Items → Option Item
  | .nil => none
  | .cons other item rest => if other = name then some item else get? name rest

/-- Puts an item in its order, in place of one with its name. -/
def insert (name : String) (item : Item) : Items → Items
  | .nil => .cons name item .nil
  | .cons other old rest =>
    if other = name then .cons name item rest
    else if name < other then .cons name item (.cons other old rest)
    else .cons other old (insert name item rest)

/-- Takes an item away. -/
def erase (name : String) : Items → Items
  | .nil => .nil
  | .cons other item rest =>
      if other = name then rest else .cons other item (erase name rest)

/-- The names and items. -/
def toList : Items → List (String × Item)
  | .nil => []
  | .cons name item rest => (name, item) :: toList rest

end Items

/-! ### Trees -/

namespace Item

/-- Whether an item is a directory. -/
def isDirectory : Item → Bool
  | .directory _ => true
  | .file _ => false

/-- The item with a name in a directory. -/
def child? (name : String) : Item → Option Item
  | .directory items => items.get? name
  | .file _ => none

/-- The item at a place. -/
def at? : Place → Item → Option Item
  | [], item => some item
  | name :: rest, item => (item.child? name).bind (at? rest)

/-- Changes the item at a place; `none` takes it away, or says that there is none. -/
def change (f : Option Item → Option Item) : Place → Item → Item
  | [], item => (f (some item)).getD item
  | [name], .directory items =>
    match f (items.get? name) with
    | some new => .directory (items.insert name new)
    | none => .directory (items.erase name)
  | name :: rest, .directory items =>
    match items.get? name with
    | some item => .directory (items.insert name (change f rest item))
    | none => .directory items
  | _ :: _, .file bytes => .file bytes

/-- Puts an item at a place. -/
def put (root : Item) (place : Place) (new : Item) : Item :=
  root.change (fun _ => some new) place

/-- Takes the item at a place away. -/
def remove (root : Item) (place : Place) : Item :=
  root.change (fun _ => none) place

end Item

/-! ### Paths -/

/-- Why a path cannot be used. -/
inductive FileCause where
  | missing
  | notDirectory
  | isDirectory
  | taken
deriving Repr, BEq, DecidableEq

/-- The words for a cause, with its number. -/
def FileCause.message : FileCause → String
  | .missing => "[Errno 2] No such file or directory"
  | .taken => "[Errno 17] File exists"
  | .notDirectory => "[Errno 20] Not a directory"
  | .isDirectory => "[Errno 21] Is a directory"

/-- A tree, and the directory in it that paths start from. -/
structure Files where
  root : Item
  here : Place

namespace Files

/-- The item at a place. -/
def at? (fs : Files) (place : Place) : Option Item :=
  fs.root.at? place

/-- The path of the directory that paths start from. -/
def herePath (fs : Files) : String :=
  "/" ++ "/".intercalate fs.here

/-- A path from the root. -/
def absolute (fs : Files) (path : String) : String :=
  Path.absolute fs.herePath path

/-- One step of a path. -/
def step (fs : Files) (place : Place) (name : String) : Except FileCause Place :=
  match fs.at? place with
  | some (.directory items) =>
    if name = "" ∨ name = "." then .ok place
    else if name = ".." then .ok place.dropLast
    else if (items.get? name).isSome then .ok (place ++ [name])
    else .error .missing
  | _ => .error .notDirectory

/-- The place that a path starts from. -/
def startOf (fs : Files) (path : String) : Place :=
  if Path.isAbsolute path then [] else fs.here

/-- The place of what a path leads to. -/
def locate (fs : Files) (path : String) : Except FileCause Place :=
  if path.isEmpty then .error .missing
  else (Path.components path).foldlM fs.step (fs.startOf path)

/-- What a path leads to. -/
def find (fs : Files) (path : String) : Except FileCause Item := do
  match fs.at? (← fs.locate path) with
  | some item => return item
  | none => throw .missing

/-- Whether a path leads to something. -/
def holds (fs : Files) (path : String) : Bool :=
  fs.find path matches .ok _

/-- Whether a path leads to a directory. -/
def isDirectory (fs : Files) (path : String) : Bool :=
  match fs.find path with
  | .ok item => item.isDirectory
  | .error _ => false

/-- The contents of the directory that a path leads to. -/
def list (fs : Files) (path : String) : Except FileCause Items := do
  match ← fs.find path with
  | .directory items => return items
  | .file _ => throw .notDirectory

/-- The bytes of the file that a path leads to. -/
def readBytes (fs : Files) (path : String) : Except FileCause (List UInt8) := do
  match ← fs.find path with
  | .file bytes => return bytes
  | .directory _ => throw .isDirectory

/-- The place where a file with a path is, or would be. -/
def placeFor (fs : Files) (path : String) : Except FileCause Place :=
  match fs.find path with
  | .ok (.file _) => fs.locate path
  | .ok (.directory _) => .error .isDirectory
  | .error .notDirectory => .error .notDirectory
  | .error _ => do
    let names := Path.components path
    let above ← names.dropLast.foldlM fs.step (fs.startOf path)
    match names.getLastD "" with
    | "" => throw (if path.isEmpty then .missing else .isDirectory)
    | name => return above ++ [name]

/-- Writes a file. -/
def writeBytes (fs : Files) (path : String) (bytes : List UInt8) :
    Except FileCause Files := do
  return { fs with root := fs.root.put (← fs.placeFor path) (.file bytes) }

/-- Makes the directories along a path, each one that is not there. -/
def makeAlong (fs : Files) (place : Place) : List String → Except FileCause Files
  | [] => if (fs.at? place).any Item.isDirectory then .ok fs else .error .taken
  | name :: rest =>
    match fs.step place name with
    | .ok next => makeAlong fs next rest
    | .error .missing =>
      let place := place ++ [name]
      makeAlong { fs with root := fs.root.put place (.directory .nil) } place rest
    | .error e => .error e

/-- Makes a directory and those above it. -/
def makeDirectory (fs : Files) (path : String) : Except FileCause Files :=
  if path.isEmpty then .error .missing
    else fs.makeAlong (fs.startOf path) (Path.components path)

/-- Takes away what a path leads to. -/
def delete (fs : Files) (path : String) : Except FileCause Files := do
  return { fs with root := fs.root.remove (← fs.locate path) }

end Files

end RuleLint.Project
