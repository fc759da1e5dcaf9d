/-
RuleLint/Selection.lean

Which files settings select: those that some included pattern matches and no
excluded one.  Both lists of patterns are looked at for every file, and each only
up to the first pattern that matches.
-/
import RuleLint.Glob
import RuleLint.Value.Use

namespace RuleLint

namespace Selection

/-- A pattern with halves of characters: in their place stands a character that no
path has. -/
def halvesPattern (codes : List Nat) : String :=
  String.ofList (codes.map fun n => if Text.isHalf n then '\x00' else Char.ofNat n)

/-- Whether a pattern in a configuration matches a path. -/
def patternMatches (path : String) : Value → Except Fault Bool
  | .text pattern => .ok ((Glob.Pattern.ofText pattern).matches path)
  | .halves codes => .ok ((Glob.Pattern.ofText (halvesPattern codes)).matches path)
  | .bytes _ => .error .bytesOnText
  | v => .error (.notPath v.shortTypeName)

/-- Whether some pattern of a list matches a path. -/
def anyMatches (path : String) : List Value → Except Fault Bool
  | [] => .ok false
  | v :: rest => do if ← patternMatches path v then return true else anyMatches path rest

end Selection

/-- Whether settings select a path. -/
def Settings.selects (s : Settings) (path : String) : Except Fault Bool := do
  let included ← Selection.anyMatches path (← s.included.parts)
  let excluded ← Selection.anyMatches path (← s.excluded.parts)
  return included && !excluded

end RuleLint
