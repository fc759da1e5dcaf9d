/-
RuleLint/Regex/Search.lean

Finding matches.  `Node.run` tries a node at a spot and hands every spot where it can
end to what follows, best choice first; the first spot that what follows accepts is the
answer.  A loop that has done its least number of rounds goes round again only if the
round before moved, which bounds it by the rest of the text.
-/
import RuleLint.Regex.Pattern

namespace RuleLint.Regex

open RuleLint.Text

/-- A place in a text, with what the groups have matched so far. -/
structure Spot where
  place : Nat
  groups : List (Nat × Nat × Nat)

/-- What a group has matched, as start and end. -/
def Spot.group? (s : Spot) (id : Nat) : Option (Nat × Nat) :=
  s.groups.lookup id

/-- The letters that count as equal to a small letter under a fold. -/
def Fold.letters (fold : Fold) (n : Nat) : List Nat :=
  match fold with
  | .exact => [n]
  | .ascii => if 97 ≤ n ∧ n ≤ 122 then [n, n - 32] else [n]
  | .full => (twinsOf n).flatMap fun m => m :: capitalsOf m

/-- Whether a member of a set takes a character, `n` being what the character counts
as. -/
def Member.takes (fold : Fold) (ascii : Bool) (n : Nat) : Member → Bool
  | .point m =>
    let k := fold.key m
    k == n || (fold == .full && (twinsOf k).contains n)
  | .range low high => (low ≤ n && n ≤ high)
      || (fold != .exact && (fold.letters n).any fun m => low ≤ m && m ≤ high)
  | .named cls negated => cls.contains ascii (Char.ofNat n) != negated

/-- Whether a leaf takes a character. -/
def Leaf.takes (c : Char) : Leaf → Bool
  | .point fold m => (Member.point m).takes fold false (fold.key c.toNat)
  | .oneOf fold ascii negated members =>
      (members.any (·.takes fold ascii (fold.key c.toNat))) != negated
  | .any newline => newline || c != '\n'

/-- Whether the character at a place is a word character; there is none outside of the
text. -/
def wordAt (text : Array Char) (ascii : Bool) (place : Nat) : Bool :=
  match text[place]? with
  | some c => CharClass.word.contains ascii c
  | none => false

/-- Whether a condition holds at a place; an empty text has no boundaries and no places
without one. -/
def Anchor.holds (text : Array Char) (place : Nat) : Anchor → Bool
  | .textStart => place == 0
  | .lineStart => place == 0 || text[place - 1]? == some '\n'
  | .textEnd => place == text.size
  | .lastLineEnd =>
      place == text.size || (place + 1 == text.size && text[place]? == some '\n')
  | .lineEnd => place == text.size || text[place]? == some '\n'
  | .boundary ascii wanted =>
    !text.isEmpty &&
      ((0 < place && wordAt text ascii (place - 1)) != wordAt text ascii place) == wanted

/-- The places behind `place` up to which a leaf takes every character, at most `limit`
of them. -/
def Leaf.runLength (text : Array Char) (l : Leaf) (place : Nat) : Nat → Nat
  | 0 => 0
  | limit + 1 =>
    match text[place]? with
    | some c => if l.takes c then l.runLength text (place + 1) limit + 1 else 0
    | none => 0

/-- What follows a node, and what a node does with it. -/
abbrev Then := Spot → Option Spot

/-- Tries `length + extra` characters first, then fewer, down to `length`. -/
def giveBack (s : Spot) (length : Nat) (k : Then) : Nat → Option Spot
  | 0 => k { s with place := s.place + length }
  | extra + 1 =>
    match k { s with place := s.place + length + (extra + 1) } with
    | some e => some e
    | none => giveBack s length k extra

/-- Tries `length` characters first, then more, up to `extra` more. -/
def takeMore (s : Spot) (length : Nat) (k : Then) : Nat → Option Spot
  | 0 => k { s with place := s.place + length }
  | extra + 1 =>
    match k { s with place := s.place + length } with
    | some e => some e
    | none => takeMore s (length + 1) k extra

/-- A leaf repeated. -/
def Leaf.runLoop (text : Array Char) (l : Leaf) (haste : Haste) (least : Nat)
    (most : Option Nat) (s : Spot) (k : Then) :
    Option Spot :=
  let room := text.size - s.place
  let length := l.runLength text s.place (match most with
    | some m => min m room
    | none => room)
  if length < least then none
  else match haste with
    | .greedy => giveBack s least k (length - least)
    | .reluctant => takeMore s least k (length - least)
    | .possessive => k { s with place := s.place + length }

/-- A loop that goes round as often as it can.  `left` bounds the rounds, `done` counts
them, and `last` is the place where the round before began, once the least number is
done. -/
def greedyLoop (body : Spot → Then → Option Spot) (least : Nat)
    (most : Option Nat) (k : Then) :
    Nat → Nat → Option Nat → Spot → Option Spot
  | 0, _, _, s => k s
  | left + 1, done, last, s =>
    if done < least then body s (greedyLoop body least most k left (done + 1) last)
    else if (match most with
        | some m => done < m
        | none => true) && last != some s.place then
      match body s (greedyLoop body least most k left (done + 1) (some s.place)) with
      | some e => some e
      | none => k s
    else k s

/-- A loop that goes round as seldom as it can. -/
def reluctantLoop (body : Spot → Then → Option Spot) (least : Nat)
    (most : Option Nat) (k : Then) :
    Nat → Nat → Option Nat → Spot → Option Spot
  | 0, _, _, s => k s
  | left + 1, done, last, s =>
    if done < least then body s (reluctantLoop body least most k left (done + 1) last)
    else match k s with
      | some e => some e
      | none =>
        if (match most with
            | some m => done < m
            | none => true) && last != some s.place then
          body s (reluctantLoop body least most k left (done + 1) (some s.place))
        else none

/-- A loop that goes round as often as it can and takes the first way of each round
only. -/
def possessiveLoop (body : Spot → Then → Option Spot) (least : Nat) (most : Option Nat) :
    Nat → Nat → Option Nat → Spot → Option Spot
  | 0, _, _, s => some s
  | left + 1, done, last, s =>
    if done < least
      then (body s some).bind (possessiveLoop body least most left (done + 1) last)
    else if (match most with
        | some m => done < m
        | none => true) && last != some s.place then
      match body s some with
      | some e => possessiveLoop body least most left (done + 1) (some s.place) e
      | none => some s
    else some s

/-- Whether the text at `a` and the text at `b` agree for `n` characters. -/
def sameText (text : Array Char) (fold : Fold) (a b : Nat) : Nat → Bool
  | 0 => true
  | n + 1 =>
    match text[a]?, text[b]? with
    | some c, some d =>
        fold.key c.toNat == fold.key d.toNat && sameText text fold (a + 1) (b + 1) n
    | _, _ => false

/-- Tries a node at a spot. -/
def Node.run (text : Array Char) : Node → Spot → Then → Option Spot
  | .empty, s, k => k s
  | .leaf l, s, k =>
    match text[s.place]? with
    | some c => if l.takes c then k { s with place := s.place + 1 } else none
    | none => none
  | .anchor a, s, k => if a.holds text s.place then k s else none
  | .cat a b, s, k => a.run text s fun e => b.run text e k
  | .alt a b, s, k =>
    match a.run text s k with
    | some e => some e
    | none => b.run text s k
  | .group id body, s, k =>
    body.run text s fun e =>
      k (if id = 0 then e else { e with groups := (id, s.place, e.place) :: e.groups })
  | .loop haste least most (.leaf l), s, k => l.runLoop text haste least most s k
  | .loop haste least most body, s, k =>
    let rounds := least + (text.size - s.place) + 2
    match haste with
    | .greedy => greedyLoop (body.run text) least most k rounds 0 none s
    | .reluctant => reluctantLoop (body.run text) least most k rounds 0 none s
    | .possessive => (possessiveLoop (body.run text) least most rounds 0 none s).bind k
  | .ahead wanted body, s, k =>
    match body.run text s some with
    | some e => if wanted then k { e with place := s.place } else none
    | none => if wanted then none else k s
  | .behind wanted width body, s, k =>
    match (if s.place < width then none
      else body.run text { s with place := s.place - width } some) with
    | some e => if wanted then k { e with place := s.place } else none
    | none => if wanted then none else k s
  | .ref fold id, s, k =>
    match s.group? id with
    | some (a, b) =>
      if sameText text fold a s.place (b - a) then k { s with place := s.place + (b - a) }
        else none
    | none => none
  | .cond id yes no, s, k =>
      if (s.group? id).isSome then yes.run text s k else no.run text s k
  | .atomic body, s, k => (body.run text s some).bind k

/-- Where a match from a place ends; with `moving` an empty match does not count. -/
def Pattern.matchAt? (p : Pattern) (text : Array Char) (moving : Bool) (place : Nat) :
    Option Nat :=
  (p.root.run text ⟨place, []⟩ fun e => if moving && e.place == place then none
    else some e).map (·.place)

/-- Whether the pattern matches at the start of a text. -/
def Pattern.matchesStart (p : Pattern) (text : String) : Bool :=
  (p.matchAt? text.toList.toArray false 0).isSome

/-- The first match from a place on, as start and end; `left` counts the places left.
Only at the first place is an empty match refused by `moving`. -/
def Pattern.find? (p : Pattern) (text : Array Char) (moving : Bool) (place : Nat) :
    Nat → Option (Nat × Nat)
  | 0 => none
  | left + 1 =>
    match p.matchAt? text moving place with
    | some e => some (place, e)
    | none => p.find? text false (place + 1) left

/-- The matches from a place on; `left` bounds their number.  Behind an empty match the
next one has to move. -/
def Pattern.findFrom (p : Pattern) (text : Array Char) (moving : Bool) (place : Nat) :
    Nat → List (Nat × Nat)
  | 0 => []
  | left + 1 =>
    match p.find? text moving place (text.size + 1 - place) with
    | some (a, b) => (a, b) :: p.findFrom text (a == b) b left
    | none => []

/-- All matches in a text, from left to right. -/
def Pattern.findAll (p : Pattern) (text : Array Char) : List (Nat × Nat) :=
  p.findFrom text false 0 (2 * text.size + 3)

end RuleLint.Regex
