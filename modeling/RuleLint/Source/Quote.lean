/-
RuleLint/Source/Quote.lean

How a string starts: up to two letters that say what kind of string it is, and a quote.
-/

namespace RuleLint.Source

/-- The letters that may stand in front of a string. -/
def isStringLetters (cs : List Char) : Bool :=
  ["", "b", "r", "u", "f", "br", "rb", "fr", "rf"].contains
    (String.ofList (cs.map Char.toLower))

/-- The number of letters in front of a quote, and the quote. -/
def stringStart? (cs : List Char) : Option (Nat × Char) :=
  let isQuote (c : Char) : Bool := c == '\'' || c == '"'
  match cs with
  | a :: rest =>
    if isQuote a then some (0, a) else match rest with
      | b :: rest =>
        if isQuote b then (if isStringLetters [a] then some (1, b) else none)
          else match rest with
          | c :: _ => if isQuote c && isStringLetters [a, b] then some (2, c) else none
          | [] => none
      | [] => none
  | [] => none

/-- Whether the quotes at the front are three. -/
def isLongQuote (quote : Char) : List Char → Bool
  | a :: b :: c :: _ => a == quote && b == quote && c == quote
  | _ => false

end RuleLint.Source
