/-
RuleLint/Path.lean

Paths as texts with slashes: joining, taking apart, and the shortest spelling of a path.
-/

namespace RuleLint.Path

/-- Joins two paths; a path that starts at the root stands by itself. -/
def join (a b : String) : String :=
  if b.startsWith "/" then b
  else if a.isEmpty || a.endsWith "/" then a ++ b
  else a ++ "/" ++ b

/-- The characters behind the last slash. -/
def baseChars (p : List Char) : List Char :=
  (p.reverse.takeWhile (· != '/')).reverse

/-- The part of a path in front of its last slash; slashes at the end of it are dropped
unless there is nothing else. -/
def dirname (p : String) : String :=
  let head := (p.toList.reverse.dropWhile (· != '/'))
  let rest := head.dropWhile (· == '/')
  String.ofList (if rest.isEmpty then head else rest).reverse

/-- The last dot of a name and what is behind it.  Dots at the front of a name do not
begin an extension. -/
def extension (p : String) : String :=
  let name := (baseChars p.toList).dropWhile (· == '.')
  let tail := name.reverse.takeWhile (· != '.')
  if tail.length < name.length then String.ofList ('.' :: tail.reverse) else ""

/-- What stands between the slashes of a path. -/
def components (p : String) : List String :=
  (p.toList.splitOn '/').map String.ofList

/-- Whether a path starts at the root. -/
def isAbsolute (p : String) : Bool := p.startsWith "/"

/-- Adds a component to a list of components (reversed): a dot changes nothing, and two
dots take the component before away if there is one to take. -/
def addComponent (rooted : Bool) (acc : List String) (c : String) : List String :=
  if c = "" ∨ c = "." then acc
  else if c ≠ ".." then c :: acc
  else match acc with
    | [] => if rooted then [] else [c]
    | d :: rest => if d = ".." then c :: acc else rest

/-- The slashes that a path keeps at its front: exactly two stay two. -/
def rootSlashes (p : String) : String :=
  match p.toList with
  | '/' :: '/' :: '/' :: _ => "/"
  | '/' :: '/' :: _ => "//"
  | '/' :: _ => "/"
  | _ => ""

/-- The shortest spelling of a path. -/
def normal (p : String) : String :=
  let root := rootSlashes p
  let kept := ((components p).foldl (addComponent (!root.isEmpty)) []).reverse
  let s := root ++ "/".intercalate kept
  if s.isEmpty then "." else s

/-- The path from the root, for a path in a directory. -/
def absolute (directory p : String) : String :=
  normal (if isAbsolute p then p else join directory p)

/-- What two lists begin with in common, dropped from both. -/
def dropCommon : List String → List String → List String × List String
  | a :: as, b :: bs => if a = b then dropCommon as bs else (a :: as, b :: bs)
  | as, bs => (as, bs)

/-- The way from one path to another, both from the root. -/
def relative (start p : String) : String :=
  let parts (q : String) : List String := (components q).filter (!·.isEmpty)
  let (up, down) := dropCommon (parts start) (parts p)
  match up.map (fun _ => "..") ++ down with
  | [] => "."
  | way => "/".intercalate way

end RuleLint.Path
