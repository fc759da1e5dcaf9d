/-
RuleLint/Text/Utf8.lean

Reading and writing UTF-8.  A reader refuses what no text encodes to, and says where:
the bytes from `start` up to, not including, `stop` cannot begin a character, or do not
go on as they began.
-/

namespace RuleLint.Text

/-- Why bytes are no text. -/
inductive Utf8Cause where
  | badStart
  | badContinuation
  | unexpectedEnd
deriving Repr, BEq, DecidableEq

/-- Bytes that are no text, with their place. -/
structure Utf8Error where
  cause : Utf8Cause
  first : UInt8
  start : Nat
  stop : Nat
deriving Repr, BEq, DecidableEq

/-- The words for a cause. -/
def Utf8Cause.message : Utf8Cause → String
  | .badStart => "invalid start byte"
  | .badContinuation => "invalid continuation byte"
  | .unexpectedEnd => "unexpected end of data"

/-- Two hexadecimal digits of a byte. -/
def hexByte (b : UInt8) : String :=
  String.ofList [Nat.digitChar (b.toNat / 16), Nat.digitChar (b.toNat % 16)]

/-- The words for an error. -/
def Utf8Error.message (e : Utf8Error) : String :=
  let range :=
    if e.stop = e.start + 1 then "byte 0x" ++ hexByte e.first ++ " in position " ++
      toString e.start
    else "bytes in position " ++ toString e.start ++ "-" ++ toString (e.stop - 1)
  "'utf-8' codec can't decode " ++ range ++ ": " ++ e.cause.message

/-- What the first byte of a character says: the bits it holds, the number of bytes to
come, and the range of the next. -/
def leadOf? (b : UInt8) : Option (Nat × Nat × Nat × Nat) :=
  let n := b.toNat
  if n < 0x80 then some (n, 0, 0x80, 0xbf)
  else if 0xc2 ≤ n ∧ n ≤ 0xdf then some (n - 0xc0, 1, 0x80, 0xbf)
  else if n = 0xe0 then some (0, 2, 0xa0, 0xbf)
  else if n = 0xed then some (13, 2, 0x80, 0x9f)
  else if 0xe1 ≤ n ∧ n ≤ 0xef then some (n - 0xe0, 2, 0x80, 0xbf)
  else if n = 0xf0 then some (0, 3, 0x90, 0xbf)
  else if 0xf1 ≤ n ∧ n ≤ 0xf3 then some (n - 0xf0, 3, 0x80, 0xbf)
  else if n = 0xf4 then some (4, 3, 0x80, 0x8f)
  else none

/-- A character under way: its bits so far, the bytes to come, the range of the next
byte, and the first byte with its place. -/
structure Pending where
  bits : Nat
  owed : Nat
  low : Nat
  high : Nat
  first : UInt8
  start : Nat

/-- Decodes bytes from place `i` on; `now` is the character under way. -/
def decodeFrom : Option Pending → Nat → List UInt8 → Except Utf8Error (List Char)
  | none, _, [] => .ok []
  | some p, i, [] => .error ⟨.unexpectedEnd, p.first, p.start, i⟩
  | none, i, b :: rest =>
    match leadOf? b with
    | none => .error ⟨.badStart, b, i, i + 1⟩
    | some (bits, 0, _, _) => (decodeFrom none (i + 1) rest).map (Char.ofNat bits :: ·)
    | some (bits, owed, low, high) =>
        decodeFrom (some ⟨bits, owed, low, high, b, i⟩) (i + 1) rest
  | some p, i, b :: rest =>
    if p.low ≤ b.toNat ∧ b.toNat ≤ p.high then
      let bits := p.bits * 64 + (b.toNat - 0x80)
      if p.owed ≤ 1 then (decodeFrom none (i + 1) rest).map (Char.ofNat bits :: ·)
      else decodeFrom
        (some { p with bits, owed := p.owed - 1, low := 0x80, high := 0xbf }) (i + 1) rest
    else .error ⟨.badContinuation, p.first, p.start, i⟩

/-- The characters that bytes encode. -/
def decodeUtf8 (bs : List UInt8) : Except Utf8Error (List Char) :=
  decodeFrom none 0 bs

/-- The bytes of a text. -/
def encodeUtf8 (s : String) : List UInt8 :=
  s.toUTF8.toList

end RuleLint.Text
