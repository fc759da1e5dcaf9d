/-
RuleLint/Source/Reader.lean

Reading a list of tokens.  A reader takes tokens from a cursor on; it may not match, in
which case another reader may be tried from the same place, or it may find a fault that
no other reading can mend.  The cursor remembers the farthest token that was looked at:
if no reading matches, that token says what kind of fault the source has.
-/
import RuleLint.Source.Literal
import RuleLint.Text.Normal

namespace RuleLint.Source

/-- Where reading is, and the farthest token that was looked at. -/
structure Cursor where
  place : Nat
  far : Nat

/-- Why reading stops. -/
inductive Stop where
  | mismatch
  | fault (f : SyntaxFault)

abbrev Reader := ReaderT Tokens (ExceptT Stop (StateM Cursor))

namespace Reader

variable {α : Type}

/-- This reading does not match. -/
def mismatch : Reader α := throw .mismatch

/-- No reading will do. -/
def fault (f : SyntaxFault) : Reader α := throw (.fault f)

/-- The token some places ahead. -/
def ahead (k : Nat) : Reader Token := do
  let ts ← read
  let c ← get
  match ts.list[c.place + k]?, ts.fault with
  | some t, _ =>
    set { c with far := max c.far (c.place + k) }
    return t
  | none, some f => fault f.fault
  | none, none => mismatch

/-- The token in front. -/
def peek : Reader Token := ahead 0

/-- Goes on to the next token. -/
def advance : Reader Unit := modify fun c => { c with place := c.place + 1 }

/-- The place of the token in front. -/
def here : Reader Place := return (← peek).place

/-- Whether the token in front has a kind and a text. -/
def sees (k : TokenKind) (s : String) : Reader Bool := do
  let t ← peek
  return t.kind == k && t.text == s

/-- Whether a sign is in front. -/
def seesSign (s : String) : Reader Bool := sees .sign s

/-- Whether a reserved word is in front. -/
def seesWord (s : String) : Reader Bool := sees .word s

/-- Whether a token of a kind is in front. -/
def seesKind (k : TokenKind) : Reader Bool := return (← peek).kind == k

/-- Takes what is seen, if it is seen. -/
def accept (test : Reader Bool) : Reader Bool := do
  if ← test then
    advance
    return true
  else return false

/-- Takes a sign, if it is in front. -/
def acceptSign (s : String) : Reader Bool := accept (seesSign s)

/-- Takes a reserved word, if it is in front. -/
def acceptWord (s : String) : Reader Bool := accept (seesWord s)

/-- Takes a sign. -/
def expectSign (s : String) : Reader Unit := do
  unless ← acceptSign s do mismatch

/-- Takes a reserved word. -/
def expectWord (s : String) : Reader Unit := do
  unless ← acceptWord s do mismatch

/-- Takes a token of a kind. -/
def expectKind (k : TokenKind) : Reader Unit := do
  unless ← accept (seesKind k) do mismatch

/-- Whether a name is in front with a sign behind it. -/
def seesNameThen (s : String) : Reader Bool := do
  if ← seesKind .name then
    let t ← ahead 1
    return t.kind == .sign && t.text == s
  else return false

/-- A name in its normal form. -/
def nameOf (t : Token) : String :=
  if t.text.toList.all (·.toNat < 128) then t.text
    else String.ofList (Text.normal t.text.toList)

/-- Takes a name. -/
def name : Reader String := do
  let t ← peek
  if t.kind == .name then
    advance
    return nameOf t
  else mismatch

/-- Tries a reading; the cursor goes back if it does not match. -/
def attempt (p : Reader α) : Reader (Option α) := do
  let c ← get
  tryCatchThe Stop (some <$> p) fun
    | .mismatch => do
      modify fun d => { d with place := c.place }
      return none
    | e => throw e

/-- Reads as long as there is something to read; `n` bounds the rounds. -/
def repeatFor (step : α → Reader (Option α)) : Nat → α → Reader α
  | 0, a => return a
  | n + 1, a => do
    match ← step a with
    | some b => repeatFor step n b
    | none => return a

/-- Reads as long as there is something to read.  Every round takes a token, so there
are no more rounds than tokens. -/
def repeatWhile (step : α → Reader (Option α)) (a : α) : Reader α := do
  repeatFor step ((← read).list.size + 1) a

/-- Collects what a reader gives until it gives nothing. -/
def collect (step : Reader (Option α)) : Reader (List α) := do
  let found ← repeatWhile (fun (acc : List α) => do
    match ← step with
    | some a => return some (a :: acc)
    | none => return none) []
  return found.reverse

/-- Items with commas between them, of which the first is read; a comma at the end is
allowed in front of a token that starts no item.  The truth value says that there was a
comma. -/
def moreItems (item : Reader α) (starts : Reader Bool) : Reader (List α × Bool) := do
  let (acc, _, comma) ← repeatWhile (fun ((acc, more, _) : List α × Bool × Bool) => do
    if !more then return none
    if ← acceptSign "," then
      if ← starts then return some ((← item) :: acc, true, true)
        else return some (acc, false, true)
    else return none) ([], true, false)
  return (acc.reverse, comma)

/-- Items with commas between them. -/
def items (item : Reader α) (starts : Reader Bool) : Reader (List α × Bool) := do
  let first ← item
  let (more, comma) ← moreItems item starts
  return (first :: more, comma)

/-- Items with commas between them and no comma at the end. -/
def strictItems (item : Reader α) : Reader (List α) := do
  let first ← item
  let more ← collect do
    if ← acceptSign "," then return some (← item) else return none
  return first :: more

/-- Reads other tokens in between. -/
def within (ts : Tokens) (p : Reader α) : Reader α := do
  let c ← get
  set (⟨0, 0⟩ : Cursor)
  let r ← tryCatchThe Stop (withReader (fun _ => ts) p) fun _ => fault .invalid
  set c
  return r

end Reader

/-- Reads all tokens; where nothing matches, a change of indentation at the farthest
token is the fault. -/
def readAll {α : Type} (p : Reader α) (ts : Tokens) : Except SyntaxFault α :=
  match (p.run ts).run ⟨0, 0⟩ with
  | (.ok a, _) => .ok a
  | (.error (.fault f), _) => .error f
  | (.error .mismatch, c) =>
    match ts.list[c.far]? with
    | some t =>
        if t.kind = .indent ∨ t.kind = .dedent then .error .indentation
          else .error .invalid
    | none => .error .invalid

end RuleLint.Source
