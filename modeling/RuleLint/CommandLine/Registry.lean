/-
RuleLint/CommandLine/Registry.lean

Commands of a program.  A command is described by the names of its parameters and the
defaults of the last of them: a parameter without a default is a positional argument,
one with a truth value is a flag, and any other is an option that takes an argument of
the type of its default.

A program reads a command line with a parser that knows the names of its commands; the
command that is named reads the rest.
-/
import RuleLint.CommandLine.Parse
import RuleLint.CommandLine.Usage
import RuleLint.Fault

namespace RuleLint.CommandLine

/-! ### Signatures -/

/-- What a command takes: the names of its parameters, and the defaults of the last of
them, if there are any. -/
structure Signature where
  params : List String
  defaults : Option (List Value)

/-- A command. -/
structure Command where
  name : String
  doc : String
  signature : Signature

/-- Two lists side by side, the shorter one filled up. -/
def zipFilled {α β : Type} : List α → List β → List (Option α × Option β)
  | [], bs => bs.map fun b => (none, some b)
  | as, [] => as.map fun a => (some a, none)
  | a :: as, b :: bs => (some a, some b) :: zipFilled as bs

/-- Each parameter with its default; the last parameters have the defaults. -/
def paired (params : List String) (defaults : List Value) :
    List (Option String × Option Value) :=
  (zipFilled params.reverse defaults.reverse).reverse

/-! ### Registering -/

/-- Why a command cannot be registered. -/
inductive Refusal where
  /-- Nothing has a default. -/
  | noDefaults
  /-- There is a command with the name. -/
  | takenCommand (choices : List String) (name : String)
  /-- There are options with names of the option. -/
  | takenNames (title : String) (names : List String)
  /-- Nothing is left of the name of an option to keep its value under. -/
  | noKey (name : String)
deriving Repr, BEq

/-- The words for a refusal. -/
def Refusal.message : Refusal → String
  | .noDefaults => "'NoneType' object is not reversible"
  | .takenCommand choices name =>
      about (Positional.command choices).title ("conflicting subparser: " ++ name)
  | .takenNames title names =>
    about title ((if names.length = 1 then "conflicting option string: "
      else "conflicting option strings: ")
      ++ ", ".intercalate names)
  | .noKey name => "dest= is required for options like " ++ Text.quoted name

/-- A parameter as it is spelt on a command line. -/
def spelling (param : String) : String :=
  String.ofList (param.toList.map fun c => if c = '_' then '-' else c)

/-- What the value of an option is kept under: its name without the dashes in front, and
with underscores for the others. -/
def keyOf (name : String) : String :=
  String.ofList ((name.toList.dropWhile (· == '-')).map fun c => if c = '-'
    then '_' else c)

/-- Adds an option; its value is kept under the first of its names that has two dashes. -/
def Parser.addOption (p : Parser) (names : List String) (effect : Effect)
    (default : Value) : Except Refusal Parser := do
  let long := names.find? fun name => ['-', '-'].isPrefixOf name.toList
  let key := keyOf (long.getD (names.headD ""))
  if key.isEmpty then throw (.noKey (names.getLastD ""))
  let o : Opt := { names, key, effect, default }
  match names.filter fun name => (p.named? name).isSome with
  | [] => return { p with options := p.options ++ [o] }
  | taken => throw (.takenNames o.title taken)

/-- The function of a command, which is kept under `func`. -/
def ownFunction : Value :=
  let type := "function"
  .object
    { module := "", name := "func", type, shown := "<function func>",
      parts := .error (.notIterable type), get :=
        fun _ => .error (.noAttribute type "get"),
      items := .error (.noAttribute type "items") }

/-- Whether a value is the function of a command. -/
def isOwnFunction : Value → Bool
  | .object o => o.module == "" && o.name == "func"
  | _ => false

/-- What is kept under a key for an option that is not given and has no default. -/
def defaultUnder (key : String) : Value :=
  if key = "func" then ownFunction else .null

/-- Adds a parameter. -/
def Parser.addParam (p : Parser) (param : String) (default : Option Value) :
    Except Refusal Parser :=
  let name := spelling param
  match default with
  | none =>
    if name.toList.head? = some '-' then
      p.addOption [name] (.takes none) (defaultUnder (keyOf name))
    else .ok { p with positionals := p.positionals ++ [.one name] }
  | some (.bool b) =>
    p.addOption ["--" ++ name, "-" ++ String.ofList (name.toList.take 1)]
      (.flag !b) (.bool b)
  | some v => p.addOption ["--" ++ name] (.takes (some v)) v

/-- Adds parameters, as far as they can be added. -/
def Parser.addParams (p : Parser) : List (Option String × Option Value) →
    Parser × Option Refusal
  | [] => (p, none)
  | (param, default) :: rest =>
    match p.addParam (param.getD "") default with
    | .ok p => p.addParams rest
    | .error e => (p, some e)

/-- A registered command with its parser. -/
structure Entry where
  command : Command
  parser : Parser

/-- A program with its commands. -/
structure Program where
  name : String
  entries : List Entry := []

namespace Program

/-- The names of the commands. -/
def choices (g : Program) : List String :=
  g.entries.map (·.command.name)

/-- The parser of the program itself. -/
def parser (g : Program) : Parser :=
  { prog := g.name, description := "", options := [helpOption],
    positionals := [.command g.choices] }

/-- Registers a command.  A command that is refused half way stays with the arguments
added so far. -/
def register (g : Program) (c : Command) : Program × Option Refusal :=
  if g.choices.contains c.name then (g, some (.takenCommand g.choices c.name))
  else
    let p : Parser :=
      { prog := g.name ++ " " ++ c.name, description := c.doc, options := [helpOption],
        positionals := [] }
    let added : Parser × Option Refusal := match c.signature.defaults with
      | none => (p, some .noDefaults)
      | some defaults => p.addParams (paired c.signature.params defaults)
    ({ g with entries := g.entries ++ [⟨c, added.1⟩] }, added.2)

/-- The program with commands, and which of them were refused. -/
def registerAll (g : Program) : List Command → Program × List (Option Refusal)
  | [] => (g, [])
  | c :: rest =>
    let (g, refusal) := g.register c
    let (g, refusals) := g.registerAll rest
    (g, refusal :: refusals)

end Program

/-! ### Calls -/

/-- What a command line comes to. -/
inductive Request where
  /-- Text is shown, and nothing else is done. -/
  | shown (text : String)
  /-- The command line is refused. -/
  | refused (text : String)
  /-- A command is called with a value for each parameter. -/
  | call (command : Command) (args : List (String × Value))
  /-- A value that the call needs is missing. -/
  | lacks (name : String)
  /-- The place of the command is taken by a value of a type. -/
  | noCommand (type : String)

/-- The text for a command line that is refused by a parser. -/
def Parser.refusal (p : Parser) (complaint : String) : String :=
  p.usage ++ p.prog ++ ": error: " ++ complaint ++ "\n"

/-- What a parser stops with. -/
def Parser.stopped (p : Parser) : Stop → Request
  | .help => .shown p.help
  | .complaint text => .refused (p.refusal text)

/-- A value for each parameter, or the first one without. -/
def bind (values : List (String × Value)) :
    List String → Except String (List (String × Value))
  | [] => .ok []
  | param :: rest => match values.lookup param with
    | none => .error param
    | some v => do return (param, v) :: (← bind values rest)

/-- The call of a command with what was read for it.  A value under `func` takes the
place of the command, unless it is the function of the command itself. -/
def Command.request (c : Command) (values : List (String × Value)) : Request :=
  match values.lookup "func", bind values c.signature.params with
  | none, .ok args => .call c args
  | none, .error param => .lacks param
  | some v, .ok _ => .noCommand v.typeName
  | some v, .error param =>
      if isOwnFunction v then .lacks param else .noCommand v.typeName

/-- Reads the command line of a command; `extras` is what the program itself had no use
for. -/
def Program.readCommand (g : Program) (extras : List String) (name : String)
    (args : List String) : Request :=
  match g.entries.find? (·.command.name = name) with
  | none => .lacks "func"
  | some e => match e.parser.read args with
    | .error stop => e.parser.stopped stop
    | .ok r => match extras ++ r.extras with
      | [] => e.command.request r.values
      | unknown =>
          .refused (g.parser.refusal ("unrecognized arguments: " ++
            " ".intercalate unknown))

/-- Reads a command line. -/
def Program.read (g : Program) (args : List String) : Request :=
  match g.parser.read args with
  | .error stop => g.parser.stopped stop
  | .ok r => match r.command, r.extras with
    | some (name, args), extras => g.readCommand extras name args
    | none, [] => .lacks "func"
    | none, unknown =>
        .refused (g.parser.refusal ("unrecognized arguments: " ++
          " ".intercalate unknown))

/-! ### Runs -/

/-- How a program ends without a command: what it prints, what it complains about, and
the code that it ends with. -/
structure Ending where
  output : String := ""
  errors : String := ""
  result : Except Fault Nat

/-- Runs a program on a command line.  `call` is what commands do with their arguments:
what a call comes to, the run comes to. -/
def Program.run {σ : Type} (g : Program) (ended : Ending → σ)
    (call : Command → List (String × Value) → σ) (argv : List String) : σ :=
  match g.read argv with
  | .shown text => ended { output := text, result := .ok 0 }
  | .refused text => ended { errors := text, result := .ok 2 }
  | .call c args => call c args
  | .lacks name => ended { result := .error (.noAttribute "Namespace" name) }
  | .noCommand type => ended { result := .error (.noAttribute type "__code__") }

end RuleLint.CommandLine
