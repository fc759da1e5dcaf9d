/-
RuleLint/Yaml/Resolve.lean

Which tag a plain scalar has, and what a tag makes of a node.

A registry says both.  Tags are made known one after the other: the latest word on a tag
counts.  A cue is a look of plain scalars that gives them a tag; scalars that look like
a standard type have that type, and of the other ones the earliest cue that a scalar
fits gives its tag.  What fits no cue is a text.
-/
import RuleLint.Regex.Parse
import RuleLint.Regex.Search
import RuleLint.Yaml.Compose
import RuleLint.Yaml.Typed

namespace RuleLint.Yaml

/-- What a tag makes of a node. -/
inductive Maker where
  | null
  | bool
  | int
  | float
  | complex
  | bytes
  | timestamp
  | text
  | list
  | tuple
  | map
  | set
  | orderedMap
  | pairs
  /-- A path pattern below the directory of the configuration. -/
  | glob
  | xpath
  | regex
  /-- A sequence of steps, which have no meaning yet. -/
  | steps
  | settings
  /-- A list of a label and the text of the node. -/
  | labelled (label : String)
deriving Repr, BEq, DecidableEq

/-- A look of plain scalars. -/
inductive Cue where
  /-- A tilde, a plus sign and a slash of either kind, with more behind them on the same
  line. -/
  | glob
  /-- A slash with more behind it on the same line. -/
  | path
  /-- A pattern that fits at the start. -/
  | pattern (p : Regex.Pattern)

/-- Whether there is something before the end of the line. -/
def hasMore : List Char → Bool
  | [] => false
  | c :: _ => c != '\n'

/-- Whether a scalar fits a cue. -/
def Cue.fits (s : String) : Cue → Bool
  | .glob => match s.toList with
    | '~' :: '+' :: c :: rest => (c == '/' || c == '\\') && hasMore rest
    | _ => false
  | .path => match s.toList with
    | '/' :: rest => hasMore rest
    | _ => false
  | .pattern p => p.matchesStart s

/-- What is known about tags. -/
structure Registry where
  /-- Makers of tags, the latest first. -/
  makers : List (String × Maker)
  /-- Cues in order of arrival. -/
  cues : List (String × Cue)

/-- The maker of a tag. -/
def Registry.maker? (r : Registry) (tag : String) : Option Maker :=
  r.makers.lookup tag

/-- Makes a tag known, with a cue if there is one. -/
def Registry.register (r : Registry) (tag : String) (m : Maker) (cue : Option Cue) :
    Registry where
  makers := (tag, m) :: r.makers
  cues := r.cues ++ (cue.map (tag, ·)).toList

/-- A named function for a tag, possibly with a pattern for plain scalars. -/
structure Registration where
  name : String
  maker : Maker
  tag : Option String := none
  pattern : Option String := none
deriving Repr, DecidableEq

/-- The tag of a registration; without one it is the name behind an exclamation mark. -/
def Registration.tagName (g : Registration) : String :=
  g.tag.getD ("!" ++ g.name)

/-- The cue of a registration, if its pattern can be read. -/
def Registration.cue? (g : Registration) : Except Regex.Error (Option Cue) :=
  match g.pattern with
  | none => return none
  | some source => return some (.pattern (← Regex.Pattern.ofText {} source))

/-- Makes a function known for its tag. -/
def Registry.add (r : Registry) (g : Registration) : Except Regex.Error Registry :=
  return r.register g.tagName g.maker (← g.cue?)

/-- A tag of the standard. -/
def standardTag (name : String) : String := "tag:yaml.org,2002:" ++ name

/-- The tags of the standard. -/
def standardMakers : List (String × Maker) :=
  [("null", .null), ("bool", .bool), ("int", .int), ("float", .float), ("binary", .bytes),
    ("timestamp", .timestamp),
   ("omap", .orderedMap), ("pairs", .pairs), ("set", .set), ("str", .text),
     ("seq", .list), ("map", .map),
   ("python/none", .null), ("python/bool", .bool), ("python/str", .text),
     ("python/unicode", .text),
   ("python/bytes", .bytes), ("python/int", .int), ("python/long", .int),
     ("python/float", .float),
   ("python/complex", .complex), ("python/list", .list), ("python/tuple", .tuple),
     ("python/dict", .map)].map
    fun (name, m) => (standardTag name, m)

/-- The registry of configurations. -/
def Registry.configuration : Registry where
  makers := [("!settings", .settings), ("!chain", .steps), ("!verbal", .steps),
    ("!regex", .regex), ("!xpath", .xpath), ("!glob", .glob)]
    ++ standardMakers
  cues := [("!glob", .glob), ("!xpath", .path)]

/-! ### Plain scalars -/

/-- A text without a line break at its end. -/
def withoutBreak (cs : List Char) : List Char :=
  if cs.getLast? = some '\n' then cs.dropLast else cs

/-- The standard type that a plain scalar looks like, by its first character. -/
def standardType? (s : String) : Option String :=
  let cs := withoutBreak s.toList
  let t := String.ofList cs
  match s.toList with
  | [] => some "null"
  | c :: _ =>
    if "yYnNtTfFoO".contains c && boolWords.contains t then some "bool"
    else if isFloat cs then some "float"
    else if isInt cs then some "int"
    else if t = "<<" then some "merge"
    else if !cs.isEmpty && nullWords.contains t then some "null"
    else if isTimestamp cs then some "timestamp"
    else if t = "=" then some "value"
    else if t = "!" ∨ t = "&" ∨ t = "*" then some "yaml"
    else none

/-- The tag of a plain scalar. -/
def Registry.plainTag (r : Registry) (s : String) : String :=
  match standardType? s with
  | some t => standardTag t
  | none => ((r.cues.find? fun (_, cue) => cue.fits s).map (·.1)).getD textTag

end RuleLint.Yaml
