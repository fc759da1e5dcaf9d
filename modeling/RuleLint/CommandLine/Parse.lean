/-
RuleLint/CommandLine/Parse.lean

Reading a command line.  First every word is marked: it is an argument, two dashes, or
an option, which may be called by the beginning of one of its names and may have its
argument behind an equals sign.  Words behind two dashes are arguments.  Then the words
are gone through in order: options act at once, and positional arguments take the words
that are left for them.  What nothing takes is given back.
-/
import RuleLint.CommandLine.Basic
import RuleLint.Number.Read

namespace RuleLint.CommandLine

/-- Why reading ends too early. -/
inductive Stop where
  /-- The help is asked for. -/
  | help
  | complaint (text : String)

/-! ### Marks -/

/-- What a word is. -/
inductive Mark where
  | arg
  | dashes
  /-- An option, if the parser has one, with the name that was meant and the argument
  behind it. -/
  | opt (o : Option Opt) (name : String) (given : Option String)

/-- A word with its mark. -/
structure Word where
  text : String
  mark : Mark

/-- Whether a word is an option. -/
def Word.isOption (w : Word) : Bool :=
  match w.mark with
  | .opt _ _ _ => true
  | _ => false

namespace Parser

/-- The names of all options. -/
def names (p : Parser) : List (String × Opt) :=
  p.options.flatMap fun o => o.names.map fun name => (name, o)

/-- The option with a name. -/
def named? (p : Parser) (name : String) : Option Opt :=
  p.names.lookup name

end Parser

/-- A word cut at its first equals sign. -/
def cutAtEquals? (cs : List Char) : Option (String × String) :=
  match cs.dropWhile (· != '=') with
  | _ :: rest => some (String.ofList (cs.takeWhile (· != '=')), String.ofList rest)
  | [] => none

/-- The options that a word with two dashes may mean by the beginning of a name. -/
def longMeanings (p : Parser) (cs : List Char) : List (Opt × String × Option String) :=
  let (front, given) := match cutAtEquals? cs with
    | some (front, given) => (front.toList, some given)
    | none => (cs, none)
  p.names.filterMap fun (name, o) => if front.isPrefixOf name.toList
    then some (o, name, given) else none

/-- The options that a word with one dash may mean: one with a letter and its argument,
or the beginning of a name. -/
def shortMeanings (p : Parser) (cs : List Char) : List (Opt × String × Option String) :=
  let letter := String.ofList (cs.take 2)
  p.names.filterMap fun (name, o) =>
    if name = letter then some (o, name, some (String.ofList (cs.drop 2)))
    else if cs.isPrefixOf name.toList then some (o, name, none)
    else none

/-- Whether a word looks like a negative number. -/
def isNegativeNumber (cs : List Char) : Bool :=
  match cs with
  | '-' :: rest =>
    let rest := match rest.reverse with
      | '\n' :: more => more.reverse
      | _ => rest
    let whole := rest.takeWhile Text.isDecimal
    match rest.drop whole.length with
    | [] => !whole.isEmpty
    | '.' :: fraction => !fraction.isEmpty && fraction.all Text.isDecimal
    | _ => false
  | _ => false

/-- The mark of a word that stands before any two dashes. -/
def markOf (p : Parser) (text : String) : Except Stop Mark :=
  match text.toList with
  | '-' :: second :: rest =>
    let cs := '-' :: second :: rest
    match p.named? text with
    | some o => .ok (.opt o text none)
    | none =>
      match (cutAtEquals? cs).bind fun (name, given) => (p.named? name).map fun o =>
        (o, name, given) with
      | some (o, name, given) => .ok (.opt o name (some given))
      | none =>
        match if second = '-' then longMeanings p cs else shortMeanings p cs with
        | [(o, name, given)] => .ok (.opt o name given)
        | [] =>
            if isNegativeNumber cs || cs.contains ' ' then .ok .arg
              else .ok (.opt none text none)
        | many => .error (.complaint ("ambiguous option: " ++ text ++ " could match "
            ++ ", ".intercalate (many.map fun (_, name, _) => name)))
  | _ => .ok .arg

/-- The words of a command line with their marks. -/
def mark (p : Parser) : List String → Except Stop (List Word)
  | [] => .ok []
  | text :: rest =>
    if text = "--" then .ok (⟨text, .dashes⟩ :: rest.map fun t => ⟨t, .arg⟩)
    else do
      let m ← markOf p text
      return ⟨text, m⟩ :: (← mark p rest)

/-! ### Values -/

/-- The most digits of an integer. -/
def mostDigits : Nat := 4300

/-- An argument as a value of the type of another. -/
def convert? (like : Value) (arg : String) : Option Value :=
  match like with
  | .text _ => some (.text arg)
  | .int _ =>
    if (arg.toList.filter Text.isDecimal).length ≤ mostDigits
      then (Number.readInt? 10 arg.toList).map .int else none
  | .float _ => (Number.readFloat? arg.toList).map .float
  | .list _ => some (.list (arg.toList.map fun c => .text (String.ofList [c])))
  | .map _ => if arg.isEmpty then some (.map []) else none
  | _ => none

/-- An argument as a value for an option. -/
def valueFor (o : Opt) (like : Option Value) (arg : String) : Except Stop Value :=
  match like with
  | none => .ok (.text arg)
  | some v => match convert? v arg with
    | some value => .ok value
    | none =>
        .error (.complaint (about o.title ("invalid " ++ v.typeName ++ " value: " ++
          Text.quoted arg)))

/-! ### Reading -/

/-- What has been read. -/
structure Reading where
  values : List (String × Value)
  /-- Positional arguments still to come. -/
  due : List Positional
  extras : List String
  command : Option (String × List String)

/-- Keeps a value under a key, in place of one that is there. -/
def store (key : String) (v : Value) : List (String × Value) → List (String × Value)
  | [] => [(key, v)]
  | (k, w) :: rest => if k = key then (k, v) :: rest else (k, w) :: store key v rest

namespace Reading

/-- What is known before anything is read. -/
def start (p : Parser) : Reading :=
  let positional := p.positionals.filterMap fun
    | .one name => some (name, Value.null)
    | .command _ => none
  let options := p.options.filterMap fun o => match o.effect with
    | .help => none
    | _ => some (o.key, o.default)
  let values := (options ++ positional).foldl (fun acc (k, v) => if (acc.lookup k).isSome
    then acc else acc ++ [(k, v)]) []
  { values, due := p.positionals, extras := [], command := none }

/-- An option acts, with an argument if it takes one. -/
def act (r : Reading) (o : Opt) (arg : Option String) : Except Stop Reading :=
  match o.effect, arg with
  | .help, _ => .error .help
  | .flag b, _ => .ok { r with values := store o.key (.bool b) r.values }
  | .takes like, some arg =>
      do return { r with values := store o.key (← valueFor o like arg) r.values }
  | .takes _, none => .error (.complaint (about o.title "expected one argument"))

/-- The options that letters in one word stand for: `given` is what stands behind the
letter of `o`.  An option without an argument lets the next letter be another one; the
last of them may still want the next word. -/
def letters (p : Parser) (o : Opt) (name : String) :
    Nat → List Char → Except Stop (List (Opt × Option String) × Option Opt)
  | 0, _ => .ok ([], none)
  | n + 1, given =>
    let ignored :=
      Stop.complaint (about o.title ("ignored explicit argument " ++
        Text.quoted (String.ofList given)))
    match o.effect, given with
    | .takes _, given => .ok ([(o, some (String.ofList given))], none)
    | _, [] => .error ignored
    | _, c :: rest =>
      if (name.toList.drop 1).head? = some '-' then .error ignored
      else match p.named? (String.ofList ['-', c]) with
        | none => .error ignored
        | some next =>
          if rest.isEmpty then .ok ([(o, none)], some next)
          else do
            let (more, last) ← letters p next (String.ofList ['-', c]) n rest
            return ((o, none) :: more, last)

/-- The argument for an option is the next word, if it takes one and the word is an
argument. -/
def actOnNext (r : Reading) (o : Opt) (rest : List Word) :
    Except Stop (Reading × List Word) :=
  match o.effect, rest with
  | .takes _, ⟨text, .arg⟩ :: more => do return (← r.act o text, more)
  | _, rest => do return (← r.act o none, rest)

/-- Reads an option and its argument. -/
def readOption (p : Parser) (r : Reading) (w : Word) (rest : List Word) :
    Except Stop (Reading × List Word) :=
  match w.mark with
  | .opt (some o) name (some given) => do
    let (opts, last) ← letters p o name (given.length + 1) given.toList
    let r ← opts.foldlM (fun r (o, arg) => r.act o arg) r
    match last with
    | none => return (r, rest)
    | some next => r.actOnNext next rest
  | .opt (some o) _ none => r.actOnNext o rest
  | _ => .ok ({ r with extras := r.extras ++ [w.text] }, rest)

/-- The words for one positional argument: an argument and any dashes around it. -/
def takeOne? (ws : List Word) : Option (List Word × List Word) :=
  let isDashes (w : Word) : Bool := w.mark matches .dashes
  let front := ws.takeWhile isDashes
  match ws.drop front.length with
  | w :: rest =>
    if w.mark matches .arg then
      let behind := rest.takeWhile isDashes
      some (front ++ w :: behind, rest.drop behind.length)
    else none
  | [] => none

/-- The value of a positional argument: two dashes are no part of it. -/
def positionalValue (ws : List Word) : Value :=
  match (ws.map (·.text)).erase "--" with
  | [text] => .text text
  | texts => .list (texts.map .text)

/-- Positional arguments take words; nothing is given if none can take any. -/
def readPositionals (r : Reading) :
    List Positional → List Word → Except Stop (Option (Reading × List Word))
  | [], _ => .ok none
  | .command choices :: due, ws =>
    match takeOne? ws with
    | none => .ok none
    | some _ =>
      match ws.map (·.text) with
      | [] => .ok none
      | name :: args =>
        if choices.contains name
          then .ok (some ({ r with due, command := some (name, args) }, []))
        else .error (.complaint (about (Positional.command choices).title
          ("invalid choice: " ++ Text.quoted name
          ++ " (choose from " ++ ", ".intercalate (choices.map Text.quoted) ++ ")")))
  | .one name :: due, ws =>
    match takeOne? ws with
    | none => .ok none
    | some (taken, rest) => do
      let r := { r with due, values := store name (positionalValue taken) r.values }
      match ← readPositionals r due rest with
      | some more => return some more
      | none => return some (r, rest)

/-- Reads words; `n` bounds the number of rounds. -/
def readWords (p : Parser) : Nat → Reading → List Word → Except Stop Reading
  | 0, r, _ => .ok r
  | _ + 1, r, [] => .ok r
  | n + 1, r, w :: rest =>
    if w.isOption then do
      let (r, rest) ← readOption p r w rest
      readWords p n r rest
    else do
      match ← readPositionals r r.due (w :: rest) with
      | some (r, rest) => readWords p n r rest
      | none =>
        let skipped := (w :: rest).takeWhile fun w => !w.isOption
        readWords p n { r with extras := r.extras ++ skipped.map (·.text) }
          ((w :: rest).drop skipped.length)

end Reading

/-- Reads a command line. -/
def Parser.read (p : Parser) (args : List String) : Except Stop Reading := do
  let ws ← mark p args
  let r ← Reading.readWords p (ws.length + 1) (.start p) ws
  let missing := r.due.filterMap fun
    | .one name => some name
    | .command _ => none
  if missing.isEmpty then return r
  throw (.complaint ("the following arguments are required: " ++
    ", ".intercalate missing))

end RuleLint.CommandLine
