/-
RuleLint/XPath/Function.lean

The functions of path expressions.  `Focus` is where an expression is looked at: a node
and, inside a condition, its position among the nodes that the condition is asked of.
`apply` finds a function by name; its arguments have been worked out before.
-/
import RuleLint.XPath.Result

namespace RuleLint.XPath

/-- Where an expression is evaluated. -/
structure Focus where
  node : Ref
  /-- Position and number of the nodes that a condition is asked of. -/
  place : Option (Nat × Nat)

namespace Function

/-! ### Texts -/

/-- The text behind the first occurrence of a text, and the one in front of it. -/
def cutAt? (needle : List Char) (front : List Char) :
    List Char → Option (List Char × List Char)
  | [] => if needle.isEmpty then some (front.reverse, []) else none
  | c :: rest =>
    if needle.isPrefixOf (c :: rest)
      then some (front.reverse, (c :: rest).drop needle.length)
    else cutAt? needle (c :: front) rest

/-- The text in front of an occurrence and the one behind it. -/
def split? (s needle : String) : Option (List Char × List Char) :=
  cutAt? needle.toList [] s.toList

/-- A text without blanks around it and with single blanks inside. -/
def normalSpace (s : String) : String :=
  let words := s.toList.splitOnP isSpace
  " ".intercalate ((words.filter (· ≠ [])).map String.ofList)

/-- Replaces each character that stands in `source` by the one at its place in `target`,
or drops it if there is none. -/
def exchange (source target : List Char) (s : String) : String :=
  String.ofList (s.toList.filterMap fun c => match source.idxOf? c with
    | some i => target[i]?
    | none => some c)

/-- The greatest position. -/
def farthest : Nat := 2147483647

/-- A number as a position, cut to the range from 1 up. -/
def toPosition (x : Float) : Nat :=
  if !(x < farthest.toFloat) then farthest
  else if 1.0 ≤ x then x.toUInt64.toNat + (if 0.5 ≤ x - x.floor then 1 else 0)
  else 1

/-- The characters from a position on, as many as `length` says. -/
def substring (s : String) (start : Float) (length : Option Float) : String :=
  let low := toPosition start
  let high := match length with
    | none => farthest
    | some n =>
      let wholeOf (x : Float) : Float := if 0.5 ≤ x - x.floor
        then x.floor + 1.0 else x.floor
      let stop := wholeOf start + wholeOf n
      if !(1.0 ≤ stop) then 1 else if stop < farthest.toFloat
        then stop.toUInt64.toNat else farthest
  String.ofList ((s.toList.drop (low - 1)).take (high - low))

/-! ### Calls -/

/-- Evaluates a function of no argument or one, which is the node looked at if it is
missing. -/
def onNode (focus : Focus) (args : List Result) (f : Result → Result) :
    Except Error Result :=
  match args with
  | [] => .ok (f (.nodes [focus.node]))
  | [a] => .ok (f a)
  | _ => .error .badArity

/-- Evaluates a function of one argument. -/
def one (args : List Result) (f : Result → Result) : Except Error Result :=
  match args with
  | [a] => .ok (f a)
  | _ => .error .badArity

/-- Evaluates a function of two texts. -/
def twoTexts (d : Document) (args : List Result) (f : String → String → Result) :
    Except Error Result :=
  match args with
  | [a, b] => .ok (f (a.toText d) (b.toText d))
  | _ => .error .badArity

/-- Evaluates a function of one number. -/
def oneNumber (d : Document) (args : List Result) (f : Float → Float) :
    Except Error Result :=
  one args fun a => .number (f (a.toNumber d))

/-- Evaluates a function of no arguments. -/
def noArgs (args : List Result) (r : Result) : Except Error Result :=
  if args.isEmpty then .ok r else .error .badArity

/-- Evaluates a function of the name of the first of some nodes. -/
def nameOf (focus : Focus) (args : List Result) (f : Ref → String) :
    Except Error Result := do
  let rs ← match args with
    | [] => .ok [focus.node]
    | [a] => a.toNodes
    | _ => .error .badArity
  return .text (match rs with
    | r :: _ => f r
    | [] => "")

/-- The value of a function at its arguments. -/
def apply (d : Document) (focus : Focus) (name : String) (args : List Result) :
    Except Error Result :=
  match name with
  | "boolean" => one args fun a => .bool a.toBool
  | "not" => one args fun a => .bool !a.toBool
  | "true" => noArgs args (.bool true)
  | "false" => noArgs args (.bool false)
  | "lang" => one args fun _ => .bool false
  | "id" => one args fun _ => .nodes []
  | "number" => onNode focus args fun a => .number (a.toNumber d)
  | "ceiling" => oneNumber d args Float.ceil
  | "floor" => oneNumber d args Float.floor
  | "round" => oneNumber d args rounded
  | "count" => match args with
    | [a] => do return .number (← a.toNodes).length.toFloat
    | _ => .error .badArity
  | "sum" => match args with
    | [a] =>
        do
          return .number ((← a.toNodes).foldl (fun x r =>
            x + numberOfText (d.refText r)) 0)
    | _ => .error .badArity
  | "last" => match args, focus.place with
    | [], some (_, size) => .ok (.number size.toFloat)
    | [], none => .error .noContextSize
    | _, _ => .error .badArity
  | "position" => match args, focus.place with
    | [], some (position, _) => .ok (.number position.toFloat)
    | [], none => .error .noContextPosition
    | _, _ => .error .badArity
  | "name" | "local-name" => nameOf focus args d.refName
  | "namespace-uri" => nameOf focus args fun _ => ""
  | "string" => onNode focus args fun a => .text (a.toText d)
  | "string-length" => onNode focus args fun a => .number (a.toText d).length.toFloat
  | "normalize-space" => onNode focus args fun a => .text (normalSpace (a.toText d))
  | "concat" =>
      if args.length < 2 then .error .badArity
        else .ok (.text (String.join (args.map (·.toText d))))
  | "contains" => twoTexts d args fun s t => .bool (split? s t).isSome
  | "starts-with" => twoTexts d args fun s t => .bool (t.toList.isPrefixOf s.toList)
  | "substring-before" => twoTexts d args fun s t => .text (match split? s t with
    | some (front, _) => String.ofList front
    | none => "")
  | "substring-after" => twoTexts d args fun s t => .text (match split? s t with
    | some (_, rest) => String.ofList rest
    | none => "")
  | "substring" => match args with
    | [a, b] => .ok (.text (substring (a.toText d) (b.toNumber d) none))
    | [a, b, c] =>
        .ok (.text (substring (a.toText d) (b.toNumber d) (some (c.toNumber d))))
    | _ => .error .badArity
  | "translate" => match args with
    | [a, b, c] =>
        .ok (.text (exchange (b.toText d).toList (c.toText d).toList (a.toText d)))
    | _ => .error .badArity
  | _ => .error .unknownFunction

end Function

end RuleLint.XPath
