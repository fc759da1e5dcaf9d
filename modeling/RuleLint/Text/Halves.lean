/-
RuleLint/Text/Halves.lean

Code points that are only halves of a character.  An escape may name a code point
that no character has, and such a text is kept as the list of its code points.
-/

namespace RuleLint.Text

/-- Whether a code point is only half of a character. -/
def isHalf (n : Nat) : Bool :=
  0xd800 ≤ n && n < 0xe000

/-- Code points as characters, if each is one. -/
def charsOf? : List Nat → Option (List Char)
  | [] => some []
  | n :: rest => if isHalf n then none else (charsOf? rest).map (Char.ofNat n :: ·)

/-- The character for what cannot be shown stands for a half. -/
def shownChar (n : Nat) : Char :=
  if isHalf n then '\ufffd' else Char.ofNat n

/-- Code points as they are shown: two halves that belong together are a character. -/
def joinHalves : List Nat → List Char
  | [] => []
  | [n] => [shownChar n]
  | n :: m :: rest =>
    if 0xd800 ≤ n && n < 0xdc00 && 0xdc00 ≤ m && m < 0xe000 then
      Char.ofNat (0x10000 + (n - 0xd800) * 0x400 + (m - 0xdc00)) :: joinHalves rest
    else shownChar n :: joinHalves (m :: rest)

/-- The first run of halves: the code of the first, and the places where it begins
and ends. -/
def firstHalves? (codes : List Nat) : Option (Nat × Nat × Nat) :=
  let before := (codes.takeWhile fun n => !isHalf n).length
  let run := (codes.drop before).takeWhile isHalf
  run.head?.map fun n => (n, before, before + run.length)

end RuleLint.Text
