/-
RuleLint/Proofs/Options.lean

Options in any number and order.  Words that give an option a value are read in one
round, wherever they stand, and all that the round does is to keep the value (`Gives`).
A command line made of such words is read to its end in as many rounds, and what is kept
under a key is what was given for it last.

Both commands have switches and work on a directory.  So what reaches them is known for
every list of what may be given: which switches occur in it, and which directory comes
last.
-/
import RuleLint.Application
import RuleLint.Proofs.Reading

namespace RuleLint.CommandLine

variable {p : Parser} {o : Opt} {name : String}

/-! ### Words for options -/

/-- How the name of an option is made: it starts with a dash but is not only dashes, and
it has no equals sign. -/
def IsOptionName (name : String) : Prop :=
  name.toList.head? = some '-' ∧ 1 < name.toList.length ∧ name ≠ "--" ∧ '=' ∉ name.toList

instance (name : String) : Decidable (IsOptionName name) :=
  inferInstanceAs (Decidable (_ ∧ _ ∧ _ ∧ _))

theorem IsOptionName.exists_cons (h : IsOptionName name) :
    ∃ second rest, name.toList = '-' :: second :: rest := by
  obtain ⟨hhead, hlength, -⟩ := h
  rcases hcs : name.toList with - | ⟨first, - | ⟨second, rest⟩⟩
  · rw [hcs] at hhead
    cases hhead
  · rw [hcs] at hlength
    exact absurd hlength (by simp)
  · rw [hcs] at hhead
    cases hhead
    exact ⟨second, rest, rfl⟩

/-- Words are for one option: wherever they stand, one round reads them, and it keeps a
value. -/
def Parser.Gives (p : Parser) (words : List String) (key : String) (v : Value) : Prop :=
  ∃ front : List Word, front ≠ [] ∧ ∀ rest ws, mark p rest = .ok ws →
    mark p (words ++ rest) = .ok (front ++ ws) ∧
    ∀ n r, Reading.readWords p (n + 1) r (front ++ ws) =
      Reading.readWords p n { r with values := store key v r.values } ws

theorem cutAtEquals?_append {cs : List Char} (h : '=' ∉ cs) (rest : List Char) :
    cutAtEquals? (cs ++ '=' :: rest) = some (String.ofList cs, String.ofList rest) := by
  have hne : ∀ c ∈ cs, (c != '=') = true := by
    intro c hc
    rw [bne_iff_ne]
    rintro rfl
    exact h hc
  rw [cutAtEquals?, List.dropWhile_append_of_pos hne, List.takeWhile_append_of_pos hne]
  simp

theorem mark_option (hname : IsOptionName name) (h : p.named? name = some o)
    {rest : List String} {ws : List Word}
    (hws : mark p rest = .ok ws) :
    mark p (name :: rest) = .ok (⟨name, .opt o name none⟩ :: ws) := by
  obtain ⟨second, cs, hcs⟩ := hname.exists_cons
  have hmark : markOf p name = .ok (.opt o name none) := by
    rw [markOf, hcs, h]
    rfl
  rw [mark_cons, if_neg hname.2.2.1, hmark, hws]
  rfl

namespace Reading

theorem act_flag {b : Bool} (h : o.effect = .flag b) (r : Reading) (arg : Option String) :
    r.act o arg = .ok { r with values := store o.key (.bool b) r.values } := by
  unfold act
  rw [h]

theorem act_text {like : String} (h : o.effect = .takes (some (.text like))) (r : Reading)
    (arg : String) :
    r.act o (some arg) = .ok { r with values := store o.key (.text arg) r.values } := by
  unfold act
  rw [h]
  rfl

/-- One round for a word that is an option. -/
theorem readWords_option {r r' : Reading} {w : Word} {rest ws : List Word}
    (hw : w.isOption = true)
    (h : readOption p r w ws = .ok (r', rest)) (n : Nat) :
    readWords p (n + 1) r (w :: ws) = readWords p n r' rest := by
  rw [readWords, if_pos hw, h]
  rfl

end Reading

namespace Parser

theorem gives_flag {b : Bool} (hname : IsOptionName name) (h : p.named? name = some o)
    (heffect : o.effect = .flag b) :
    p.Gives [name] o.key (.bool b) := by
  refine ⟨[⟨name, .opt o name none⟩], List.cons_ne_nil _ _, ?_⟩
  intro rest ws hws
  refine ⟨mark_option hname h hws, ?_⟩
  intro n r
  have hact : r.actOnNext o ws =
      .ok ({ r with values := store o.key (.bool b) r.values }, ws) := by
    unfold Reading.actOnNext
    rw [heffect]
    exact bind_of_ok (Reading.act_flag heffect r none)
  refine Reading.readWords_option rfl ?_ n
  exact hact

/-- The argument of an option may be the next word. -/
theorem gives_apart {like d : String} (hname : IsOptionName name)
    (h : p.named? name = some o)
    (heffect : o.effect = .takes (some (.text like))) (hd : d.toList.head? ≠ some '-') :
    p.Gives [name, d] o.key (.text d) := by
  refine ⟨[⟨name, .opt o name none⟩, ⟨d, .arg⟩], List.cons_ne_nil _ _, ?_⟩
  intro rest ws hws
  have hdashes : d ≠ "--" := by
    rintro rfl
    exact hd rfl
  -- the word behind the option is its value, since it starts with no dash
  have hmark : mark p (d :: rest) = .ok (⟨d, .arg⟩ :: ws) := by
    rw [mark_cons, if_neg hdashes, markOf_of_ne_dash p hd, hws]
    rfl
  refine ⟨mark_option hname h hmark, ?_⟩
  intro n r
  have hact : r.actOnNext o (⟨d, .arg⟩ :: ws) =
      .ok ({ r with values := store o.key (.text d) r.values }, ws) := by
    unfold Reading.actOnNext
    rw [heffect]
    exact bind_of_ok (Reading.act_text heffect r d)
  refine Reading.readWords_option rfl ?_ n
  exact hact

/-- A word that is cut at an equals sign is not itself a name, since names have none. -/
theorem named?_joined (hnames : ∀ x ∈ p.names, IsOptionName x.1) (name d : String) :
    p.named? (name ++ "=" ++ d) = none := by
  rcases hnamed : p.named? (name ++ "=" ++ d) with - | o
  · rfl
  · have hplain : '=' ∉ (name ++ "=" ++ d).toList :=
      (hnames _ (mem_names_of_named? hnamed)).2.2.2
    simp at hplain

/-- The argument of an option may stand behind an equals sign, and then it may be any
text. -/
theorem gives_joined {like : String} (hnames : ∀ x ∈ p.names, IsOptionName x.1)
    (h : p.named? name = some o)
    (heffect : o.effect = .takes (some (.text like))) (d : String) :
    p.Gives [name ++ "=" ++ d] o.key (.text d) := by
  have hname : IsOptionName name := hnames _ (mem_names_of_named? h)
  obtain ⟨second, cs, hcs⟩ := hname.exists_cons
  have htext : (name ++ "=" ++ d).toList = name.toList ++ '=' :: d.toList := by
    simp
  have hlist : (name ++ "=" ++ d).toList = '-' :: second :: (cs ++ '=' :: d.toList) :=
    htext.trans (congrArg (· ++ '=' :: d.toList) hcs)
  have hdashes : name ++ "=" ++ d ≠ "--" := by
    intro heq
    have hequals : '=' ∈ "--".toList := by
      rw [← heq, htext]
      exact List.mem_append_right _ List.mem_cons_self
    exact absurd hequals (by decide)
  -- no name has an equals sign, so the word is cut at the first one
  have hmark : markOf p (name ++ "=" ++ d) = .ok (.opt o name (some d)) := by
    have hcut : cutAtEquals? ('-' :: second :: (cs ++ '=' :: d.toList)) =
        some (name, d) := by
      rw [← hlist, htext, cutAtEquals?_append hname.2.2.2, String.ofList_toList,
        String.ofList_toList]
    simp only [markOf, hlist, named?_joined hnames, hcut, Option.bind_some, h,
      Option.map_some]
  have hletters : Reading.letters p o name (d.length + 1) d.toList =
      .ok ([(o, some d)], none) := by
    unfold Reading.letters
    rw [heffect]
    show Except.ok ([(o, some (String.ofList d.toList))], none) = _
    rw [String.ofList_toList]
  refine ⟨[⟨name ++ "=" ++ d, .opt o name (some d)⟩], List.cons_ne_nil _ _, ?_⟩
  intro rest ws hws
  constructor
  · rw [List.singleton_append, mark_cons, if_neg hdashes, hmark, hws]
    rfl
  · intro n r
    refine Reading.readWords_option rfl ?_ n
    show (Reading.letters p o name (d.length + 1) d.toList >>= _) = _
    rw [hletters]
    exact bind_of_ok (bind_of_ok (Reading.act_text heffect r d))

section Run

variable {α : Type} {words : α → List String} {key : α → String} {value : α → Value}

/-- Words for options, one after the other, take a round each. -/
theorem exists_readWords (items : List α)
    (h : ∀ i ∈ items, p.Gives (words i) (key i) (value i)) :
    ∃ ws, mark p (items.flatMap words) = .ok ws ∧ items.length ≤ ws.length ∧ ∀ n r,
      items.length ≤ n →
      Reading.readWords p n r ws =
        .ok { r with values := items.foldl (fun values i =>
        store (key i) (value i) values) r.values } := by
  induction items with
  | nil =>
      refine ⟨[], rfl, Nat.le_refl _, ?_⟩
      intro n r _
      cases n <;> rfl
  | cons i items ih =>
      -- the words of the first item come in front of marked words, and one round turns
      -- them into a value
      obtain ⟨⟨front, hfront, hgives⟩, hitems⟩ := List.forall_mem_cons.mp h
      obtain ⟨ws, hws, hlength, hread⟩ := ih hitems
      obtain ⟨hmark, hround⟩ := hgives _ ws hws
      have hpos : 0 < front.length := List.length_pos_iff.mpr hfront
      refine ⟨front ++ ws, hmark, ?_, ?_⟩
      · rw [List.length_append, List.length_cons]
        omega
      · intro n r hn
        cases n with
        | zero => cases hn
        | succ n =>
            rw [hround, hread _ _ (Nat.le_of_succ_le_succ hn)]
            rfl

/-- A command line of words for options keeps their values in order. -/
theorem read_flatMap (hnone : p.positionals = []) (items : List α)
    (h : ∀ i ∈ items, p.Gives (words i) (key i) (value i)) :
    p.read (items.flatMap words) = .ok { Reading.start p with
      values := items.foldl (fun values i => store (key i) (value i) values)
        (Reading.start p).values } := by
  obtain ⟨ws, hws, hlength, hread⟩ := exists_readWords items h
  rw [read, hws]
  show Reading.readWords _ _ _ _ >>= _ = _
  rw [hread _ _ (by omega)]
  -- nothing is still to come
  refine if_pos ?_
  show (p.positionals.filterMap _).isEmpty = true
  rw [hnone]
  rfl

end Run

end Parser

/-! ### Switches and a directory -/

/-- A parameter that is true if one of two words is given. -/
structure Switch where
  param : String
  long : String
  short : String
deriving DecidableEq

/-- What may be given to a command that has switches and works on a directory. -/
inductive Given (switches : List Switch) where
  | long (s : Switch) (h : s ∈ switches)
  | short (s : Switch) (h : s ∈ switches)
  /-- The directory stands in one word with the name of its option. -/
  | joined (directory : String)
  /-- The directory is the next word. -/
  | apart (directory : String) (h : directory.toList.head? ≠ some '-')

namespace Given

variable {switches : List Switch}

/-- The words on the command line. -/
def words : Given switches → List String
  | long s _ => [s.long]
  | short s _ => [s.short]
  | joined d => ["--project-directory=" ++ d]
  | apart d _ => ["--project-directory", d]

/-- The switch that is given. -/
def switch? : Given switches → Option Switch
  | long s _ | short s _ => some s
  | joined _ | apart _ _ => none

/-- The directory that is given. -/
def directory? : Given switches → Option String
  | long _ _ | short _ _ => none
  | joined d | apart d _ => some d

/-- Whether a switch is given. -/
def has (items : List (Given switches)) (s : Switch) : Bool :=
  items.any fun i => i.switch? = some s

/-- The directory that is given last; without one it is the working directory. -/
def directory (items : List (Given switches)) : String :=
  (items.filterMap directory?).getLast?.getD "."

/-- The key and the value that are kept. -/
def entry : Given switches → String × Value
  | long s _ | short s _ => (s.param, .bool true)
  | joined d | apart d _ => ("project_directory", .text d)

/-- What is given is a switch or a directory. -/
theorem entry_cases (i : Given switches) :
    (∃ s ∈ switches, i.switch? = some s ∧ i.directory? = none ∧
      i.entry = (s.param, .bool true)) ∨
      ∃ d, i.switch? = none ∧ i.directory? = some d ∧
        i.entry = ("project_directory", .text d) := by
  cases i with
  | long s hs => exact .inl ⟨s, hs, rfl, rfl, rfl⟩
  | short s hs => exact .inl ⟨s, hs, rfl, rfl, rfl⟩
  | joined d => exact .inr ⟨d, rfl, rfl, rfl⟩
  | apart d _ => exact .inr ⟨d, rfl, rfl, rfl⟩

end Given

/-- A parser that takes switches and a directory, and nothing else.  Before anything is
given, the switches are off, the directory is the working directory, and the place of
the command is free. -/
structure Parser.Takes (p : Parser) (switches : List Switch) : Prop where
  switch : ∀ s ∈ switches, ∃ o, p.named? s.long = some o ∧ p.named? s.short = some o ∧
    o.effect = .flag true ∧ o.key = s.param
  directory : ∃ o like, p.named? "--project-directory" = some o ∧
    o.effect = .takes (some (.text like)) ∧ o.key = "project_directory"
  names : ∀ x ∈ p.names, IsOptionName x.1
  noPositional : p.positionals = []
  off : ∀ s ∈ switches, (Reading.start p).values.lookup s.param = some (.bool false)
  here : (Reading.start p).values.lookup "project_directory" = some (.text ".")
  free : (Reading.start p).values.lookup "func" = none
  /-- No two switches are for one parameter. -/
  apart : ∀ s ∈ switches, ∀ t ∈ switches, s.param = t.param → s = t

namespace Parser.Takes

variable {switches : List Switch} {s : Switch} {values : List (String × Value)}

theorem param_ne (hp : p.Takes switches) (hs : s ∈ switches) :
    s.param ≠ "project_directory" := by
  intro heq
  have hoff := hp.off s hs
  rw [heq, hp.here] at hoff
  cases hoff

theorem gives (hp : p.Takes switches) (i : Given switches) :
    p.Gives i.words i.entry.1 i.entry.2 := by
  have hname {name : String} {o : Opt} (h : p.named? name = some o) : IsOptionName name :=
    hp.names _ (mem_names_of_named? h)
  obtain ⟨o, like, hnamed, heffect, hkey⟩ := hp.directory
  -- by the way in which it is written
  cases i with
  | long s hs =>
      obtain ⟨o, hlong, -, heffect, hkey⟩ := hp.switch s hs
      show p.Gives [s.long] s.param (.bool true)
      rw [← hkey]
      exact gives_flag (hname hlong) hlong heffect
  | short s hs =>
      obtain ⟨o, -, hshort, heffect, hkey⟩ := hp.switch s hs
      show p.Gives [s.short] s.param (.bool true)
      rw [← hkey]
      exact gives_flag (hname hshort) hshort heffect
  | joined d =>
      show p.Gives ["--project-directory" ++ "=" ++ d] "project_directory" (.text d)
      rw [← hkey]
      exact gives_joined hp.names hnamed heffect d
  | apart d hd =>
      show p.Gives ["--project-directory", d] "project_directory" (.text d)
      rw [← hkey]
      exact gives_apart (hname hnamed) hnamed heffect hd

/-- A switch stays on once it is given. -/
theorem lookup_switch (hp : p.Takes switches) (hs : s ∈ switches)
    (items : List (Given switches)) {b : Bool}
    (h : values.lookup s.param = some (.bool b)) :
    (items.foldl (fun values i => store i.entry.1 i.entry.2 values) values).lookup
      s.param = some (.bool (b || Given.has items s)) := by
  induction items generalizing values b with
  | nil => simp [h, Given.has]
  | cons i items ih =>
      -- what one item stores under the switch: nothing else has its parameter
      have hstored : (store i.entry.1 i.entry.2 values).lookup s.param =
          some (.bool (b || i.switch? = some s)) := by
        rw [lookup_store]
        rcases i.entry_cases with ⟨t, ht, hswitch, -, hentry⟩ | ⟨d, hswitch, -, hentry⟩
        · by_cases hst : t = s
          · simp [hentry, hswitch, hst]
          · have hne : s.param ≠ t.param := fun heq => hst (hp.apart s hs t ht heq).symm
            simp [hentry, hswitch, hst, hne, h]
        · simp [hentry, hswitch, hp.param_ne hs, h]
      rw [List.foldl_cons, ih hstored, Bool.or_assoc]
      rfl

/-- A directory is kept until another one is given. -/
theorem lookup_directory (hp : p.Takes switches)
    (items : List (Given switches)) {d : String}
    (h : values.lookup "project_directory" = some (.text d)) :
    (items.foldl (fun values i => store i.entry.1 i.entry.2 values) values).lookup
      "project_directory"
      = some (.text ((items.filterMap Given.directory?).getLast?.getD d)) := by
  induction items generalizing values d with
  | nil => simp [h]
  | cons i items ih =>
      -- of several directories the last one is kept
      have hstored : (store i.entry.1 i.entry.2 values).lookup "project_directory" =
          some (.text (i.directory?.getD d)) := by
        rw [lookup_store]
        rcases i.entry_cases with ⟨s, hs, -, hdirectory, hentry⟩ | ⟨d', -,
          hdirectory, hentry⟩
        · simp [hentry, hdirectory, (hp.param_ne hs).symm, h]
        · simp [hentry, hdirectory]
      rw [List.foldl_cons, ih hstored, List.filterMap_cons]
      rcases i.directory? with - | d'
      · rfl
      · simp [List.getLast?_cons]

/-- A program whose command has such a parser asks for the command with what is given
behind its name: every switch that occurs is on, and the directory is the last one. -/
theorem exists_request {g : Program} {c : Command} (hp : p.Takes switches)
    (hfind : g.entries.find? (·.command.name = c.name) = some ⟨c, p⟩)
    (hname : c.name.toList.head? ≠ some '-')
    (items : List (Given switches)) :
    ∃ values, g.read (c.name :: items.flatMap Given.words) = c.request values ∧
      values.lookup "func" = none ∧
      (∀ s ∈ switches, values.lookup s.param = some (.bool (Given.has items s))) ∧
      values.lookup "project_directory" = some (.text (Given.directory items)) := by
  have hread := read_flatMap hp.noPositional items fun i _ => hp.gives i
  refine ⟨_, ?_, ?_, ?_, hp.lookup_directory items hp.here⟩
  · have hchoice : c.name ∈ g.choices :=
      List.mem_map.mpr ⟨_, List.mem_of_find?_eq_some hfind, rfl⟩
    rw [Program.read_of_mem_choices hname hchoice]
    simp only [Program.readCommand, hfind, hread]
    rfl
  · -- no word adds a key, so none takes the place of the command
    have hkeys := (read_isOf hread).keeps "func"
    rw [← (Reading.isOf_start p).keeps, hp.free] at hkeys
    exact Option.not_isSome_iff_eq_none.mp (mt hkeys.mp Bool.false_ne_true)
  · intro s hs
    rw [hp.lookup_switch hs items (hp.off s hs), Bool.false_or]

end Parser.Takes

end RuleLint.CommandLine

namespace RuleLint.Application

open RuleLint.CommandLine

/-! ### The two commands -/

/-- Whether only changed files are linted. -/
def modifiedOnly : Switch :=
  { param := "modified_only", long := "--modified-only", short := "-m" }

/-- Whether linting says more. -/
def verbose : Switch :=
  { param := "verbose", long := "--verbose", short := "-v" }

/-- Whether a configuration may be overwritten. -/
def force : Switch :=
  { param := "force", long := "--force", short := "-f" }

/-- The option for a switch. -/
def optionFor (s : Switch) : Opt :=
  { names := [s.long, s.short], key := s.param, effect := .flag true,
    default := .bool false }

/-- The option for the directory. -/
def directoryOption : Opt :=
  { names := ["--project-directory"], key := "project_directory",
    effect := .takes (some (.text ".")), default := .text "." }

/-- A parser of the program for a command with some options. -/
def parserFor (name : String) (c : Command) (options : List Opt) : Parser :=
  { prog := name ++ " " ++ c.name, description := c.doc, options := helpOption :: options,
    positionals := [] }

/-- The options that the parameters of the commands turn into. -/
theorem entries_program (name : String) : (program name).entries = [
    ⟨initCommand, parserFor name initCommand [directoryOption, optionFor force]⟩,
    ⟨lintCommand, parserFor name lintCommand [optionFor modifiedOnly, directoryOption,
      optionFor verbose]⟩] :=
  rfl

theorem takes_init (name : String) :
    (parserFor name initCommand [directoryOption, optionFor force]).Takes [force] where
  switch := List.forall_mem_singleton.mpr ⟨optionFor force, rfl, rfl, rfl, rfl⟩
  directory := ⟨directoryOption, ".", rfl, rfl, rfl⟩
  names := by
    show ∀ x ∈ (parserFor "" initCommand [directoryOption, optionFor force]).names, _
    decide
  noPositional := rfl
  off := List.forall_mem_singleton.mpr rfl
  here := rfl
  free := rfl
  apart := by decide

theorem takes_lint (name : String) :
    (parserFor name lintCommand [optionFor modifiedOnly, directoryOption,
      optionFor verbose]).Takes [modifiedOnly, verbose] where
  switch := by
    rw [List.forall_mem_cons, List.forall_mem_singleton]
    exact ⟨⟨optionFor modifiedOnly, rfl, rfl, rfl, rfl⟩,
      ⟨optionFor verbose, rfl, rfl, rfl, rfl⟩⟩
  directory := ⟨directoryOption, ".", rfl, rfl, rfl⟩
  -- the name of the program has no say in the names of options
  names := by
    show ∀ x ∈ (parserFor "" lintCommand [optionFor modifiedOnly, directoryOption,
      optionFor verbose]).names, _
    decide
  noPositional := rfl
  off := by
    rw [List.forall_mem_cons, List.forall_mem_singleton]
    exact ⟨rfl, rfl⟩
  here := rfl
  free := rfl
  apart := by decide

theorem read_init (name : String) (items : List (Given [force])) :
    (program name).read ("init" :: items.flatMap Given.words)
      = .call initCommand [("project_directory", .text (Given.directory items)),
        ("force", .bool (Given.has items force))] := by
  obtain ⟨values, hread, hfunc, hswitch, hdirectory⟩ :=
    (takes_init name).exists_request (g := program name) (c := initCommand)
      (by rw [entries_program]; rfl) (by decide) items
  have hforce : values.lookup "force" = _ := hswitch force (by simp)
  refine hread.trans ?_
  simp only [Command.request, hfunc, initCommand, CommandLine.bind, hdirectory, hforce]
  rfl

theorem read_lint (name : String) (items : List (Given [modifiedOnly, verbose])) :
    (program name).read ("lint" :: items.flatMap Given.words) =
      .call lintCommand [("modified_only", .bool (Given.has items modifiedOnly)),
      ("project_directory", .text (Given.directory items)),
        ("verbose", .bool (Given.has items verbose))] := by
  obtain ⟨values, hread, hfunc, hswitch, hdirectory⟩ :=
    (takes_lint name).exists_request (g := program name) (c := lintCommand)
      (by rw [entries_program]; rfl) (by decide) items
  have hmodified : values.lookup "modified_only" = _ := hswitch modifiedOnly (by simp)
  have hverbose : values.lookup "verbose" = _ := hswitch verbose (by simp)
  refine hread.trans ?_
  simp only [Command.request, hfunc, lintCommand, CommandLine.bind, hmodified,
    hdirectory, hverbose]
  rfl

/-- Whatever is given to a command, in any order and any number of times, the command is
called once, with the switches that are given and the directory that is given last.  What
the call comes to, the run comes to. -/
theorem run_given [Host] (fs : Project.Files) (answers : Project.Answers) (name : String)
    (items : List (Given [modifiedOnly, verbose])) (others : List (Given [force])) :
    (∀ (σ : Type) (ended : Ending → σ) (call : Command → List (String × Value) → σ),
      (program name).run ended call ("lint" :: items.flatMap Given.words)
          = call lintCommand [("modified_only", .bool (Given.has items modifiedOnly)),
              ("project_directory", .text (Given.directory items)),
                ("verbose", .bool (Given.has items verbose))] ∧
        (program name).run ended call ("init" :: others.flatMap Given.words)
          = call initCommand [("project_directory", .text (Given.directory others)),
            ("force", .bool (Given.has others force))]) ∧
    (let lint := Project.lint fs answers (Given.has items modifiedOnly)
      (Given.directory items) (Given.has items verbose)
     run fs answers name ("lint" :: items.flatMap Given.words)
        = { output := lint.1.output, commands := lint.1.commands, result := lint.1.result,
            files := lint.2 }) ∧
    (let init := Project.init fs (Given.directory others) (Given.has others force)
     run fs answers name ("init" :: others.flatMap Given.words)
        = { output := init.1.output, commands := init.1.commands, result := init.1.result,
            files := init.2 }) := by
  have hlint := read_lint name items
  have hinit := read_init name others
  -- what is read is the same for every way to go on with it
  refine ⟨?_, ?_, ?_⟩
  · intro σ ended call
    exact ⟨Program.run_of_read hlint ended call, Program.run_of_read hinit ended call⟩
  · exact (Program.run_of_read hlint _ (call fs answers)).trans
      (call_lint fs answers _ _ _)
  · exact (Program.run_of_read hinit _ (call fs answers)).trans (call_init fs answers _ _)

end RuleLint.Application
