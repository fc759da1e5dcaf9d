/-
RuleLint/Text/Lines.lean

Cutting a text into lines.  A line ends at a line feed, a carriage return, the two of
them together, a vertical tab, a form feed, one of the separators U+001C to U+001E,
U+0085, U+2028 or U+2029.  `cutLines` keeps the text of a line apart from its ending, so
that both readings (with and without endings) come from one function, and nothing is
lost: gluing the pieces gives the text back (`glue_cutLines`).
-/

namespace RuleLint.Text

/-- Characters that end a line. -/
def isLineBreak (c : Char) : Bool :=
  c == '\n' || c == '\r' || c == '\x0b' || c == '\x0c' || c == '\x1c' ||
    c == '\x1d' || c == '\x1e'
    || c == '\u0085' || c == '\u2028' || c == '\u2029'

/-- The lines of a text, each as its characters and its ending (empty only for an
unfinished last line). -/
def cutLines : List Char → List (List Char × List Char)
  | [] => []
  | '\r' :: '\n' :: rest => ([], ['\r', '\n']) :: cutLines rest
  | c :: rest =>
    if isLineBreak c then ([], [c]) :: cutLines rest
    else match cutLines rest with
      | [] => [([c], [])]
      | (text, ending) :: more => (c :: text, ending) :: more

/-- The lines of a text without their endings. -/
def lines (s : String) : List String :=
  (cutLines s.toList).map fun l => String.ofList l.1

/-- The lines of a text with their endings. -/
def fullLines (s : String) : List (List Char) :=
  (cutLines s.toList).map fun l => l.1 ++ l.2

/-- The text that a list of cut lines stands for. -/
def glue (ls : List (List Char × List Char)) : List Char :=
  ls.flatMap fun l => l.1 ++ l.2

theorem glue_cutLines (cs : List Char) : glue (cutLines cs) = cs := by
  fun_induction cutLines cs with
  | case1 => rfl
  | case2 rest ih => simpa [glue] using ih
  | case3 c rest _ _ ih => simpa [glue] using ih
  | case4 c rest _ _ h ih => rw [h] at ih; simpa [glue] using ih
  | case5 c rest _ _ text ending more h ih => rw [h] at ih; simpa [glue] using ih

/-- Reading a file as text turns every carriage return, alone or before a line feed,
into a line feed. -/
def unixNewlines : List Char → List Char
  | [] => []
  | '\r' :: '\n' :: rest => '\n' :: unixNewlines rest
  | c :: rest => (if c == '\r' then '\n' else c) :: unixNewlines rest

end RuleLint.Text
