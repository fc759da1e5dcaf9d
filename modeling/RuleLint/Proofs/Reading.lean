/-
RuleLint/Proofs/Reading.lean

Reading a command line, taken apart.  What a parser keeps is decided by its options and
positional arguments alone: there is a value under each of their keys before the first
word is read, and no word adds a key.  So after any command line that is accepted it is
known under which names values can be found, whatever the words were.

The parser of a program knows help and the names of commands.  No word is ambiguous to
it, and a command line that starts with the name of a command leaves all other words to
the command.
-/
import RuleLint.CommandLine.Registry
import RuleLint.Proofs.Steps

namespace RuleLint.CommandLine

variable {p : Parser} {g : Program} {r r' : Reading} {o : Opt} {w : Word}
    {ws rest : List Word} {key text name : String}
  {args : List String}

/-! ### Values under keys -/

/-- A value that is stored hides the one before. -/
theorem lookup_store (key key' : String) (v : Value) (values : List (String × Value)) :
    (store key v values).lookup key' = if key' = key then some v
      else values.lookup key' := by
  induction values with
  | nil =>
      by_cases h : key' = key
      · simp [store, h]
      · simp [store, h, List.lookup_cons, beq_false_of_ne h]
  | cons kept rest ih =>
      obtain ⟨k, w⟩ := kept
      rw [store, List.lookup_cons]
      -- the value takes the place of the one that is kept, or is stored further behind
      by_cases hk : k = key
      · subst hk
        by_cases h : key' = k
        · simp [h]
        · simp [h, List.lookup_cons, beq_false_of_ne h]
      · by_cases h : key' = k
        · subst h
          simp [hk]
        · simp [hk, ih, List.lookup_cons, beq_false_of_ne h]

/-- Defaults are kept in front of others under the same key. -/
theorem lookup_foldl_default (key : String) (defaults known : List (String × Value)) :
    (defaults.foldl (fun acc (k, v) => if (acc.lookup k).isSome then acc
      else acc ++ [(k, v)]) known).lookup key
      = (known.lookup key).or (defaults.lookup key) := by
  induction defaults generalizing known with
  | nil => simp
  | cons pair rest ih =>
      obtain ⟨k, v⟩ := pair
      rw [List.foldl_cons, ih, List.lookup_cons]
      -- a default counts only where nothing is known yet
      by_cases h : key = k
      · subst h
        rcases hknown : known.lookup key with - | u
        · simp [hknown, List.lookup_append]
        · simp [hknown]
      · have hne : (key == k) = false := beq_false_of_ne h
        rw [hne]
        dsimp only
        split
        · rfl
        · rw [List.lookup_append, List.lookup_cons, hne]
          simp

/-! ### Options of a parser -/

theorem Parser.mem_options_of_mem_names {x : String × Opt} (h : x ∈ p.names) :
    x.2 ∈ p.options := by
  obtain ⟨o, ho, hname⟩ := List.mem_flatMap.mp h
  obtain ⟨_, -, rfl⟩ := List.mem_map.mp hname
  exact ho

theorem Parser.mem_names_of_named? (h : p.named? name = some o) :
    (name, o) ∈ p.names := by
  obtain ⟨front, back, hnames, -⟩ := List.lookup_eq_some_iff.mp h
  rw [hnames]
  exact List.mem_append_right _ List.mem_cons_self

/-- What has a name is an option of the parser. -/
theorem Parser.mem_options_of_named? (h : p.named? name = some o) : o ∈ p.options :=
  mem_options_of_mem_names (mem_names_of_named? h)

/-- A long word means options of the parser only, whole or cut short. -/
theorem longMeanings_mem {cs : List Char} {x : Opt × String × Option String}
    (h : x ∈ longMeanings p cs) : x.1 ∈ p.options := by
  obtain ⟨y, hy, hx⟩ := List.mem_filterMap.mp h
  obtain ⟨-, hx⟩ := Option.ite_none_right_eq_some.mp hx
  cases hx
  exact Parser.mem_options_of_mem_names hy

/-- And so does a short one, with a value behind its letter or without. -/
theorem shortMeanings_mem {cs : List Char} {x : Opt × String × Option String}
    (h : x ∈ shortMeanings p cs) : x.1 ∈ p.options := by
  rw [shortMeanings] at h
  obtain ⟨y, hy, hx⟩ := List.mem_filterMap.mp h
  have ho := Parser.mem_options_of_mem_names hy
  dsimp only at hx
  split at hx
  · cases hx
    exact ho
  · split at hx
    · cases hx
      exact ho
    · cases hx

/-! ### Keys of a parser -/

/-- Whether a parser keeps a value under a key. -/
def Parser.Keeps (p : Parser) (key : String) : Prop :=
  (∃ o ∈ p.options, o.effect ≠ .help ∧ o.key = key) ∨ .one key ∈ p.positionals

/-- What has been read by a parser: there is a value under every key of the parser and
no other, and what is still to come is of the parser. -/
structure Reading.IsOf (p : Parser) (r : Reading) : Prop where
  keeps : ∀ key, (r.values.lookup key).isSome ↔ p.Keeps key
  due : r.due ⊆ p.positionals

/-- A word marked by a parser: the option that it stands for is of the parser. -/
def Word.IsOf (p : Parser) (w : Word) : Prop :=
  ∀ o name given, w.mark = .opt (some o) name given → o ∈ p.options

namespace Reading

/-- At the start every option has its default. -/
theorem isOf_start (p : Parser) : (start p).IsOf p where
  keeps key := by
    rw [start, lookup_foldl_default, List.lookup_nil, Option.none_or,
      List.lookup_isSome_iff]
    constructor
    · -- a default is that of an option other than help, or a positional null
      rintro ⟨⟨k, v⟩, hkv, hkey⟩
      obtain rfl : key = k := eq_of_beq hkey
      rcases List.mem_append.mp hkv with hkv | hkv
      · obtain ⟨o, ho, hdefault⟩ := List.mem_filterMap.mp hkv
        refine .inl ⟨o, ho, ?_⟩
        split at hdefault
        · cases hdefault
        · cases hdefault
          exact ⟨‹_›, rfl⟩
      · obtain ⟨d, hd, hnull⟩ := List.mem_filterMap.mp hkv
        refine .inr ?_
        split at hnull
        · cases hnull
          exact hd
        · cases hnull
    · rintro (⟨o, ho, heffect, rfl⟩ | hd)
      · refine ⟨(o.key, o.default),
          List.mem_append_left _ (List.mem_filterMap.mpr ⟨o, ho, ?_⟩), beq_self_eq_true _⟩
        split
        · exact absurd ‹_› heffect
        · rfl
      · exact ⟨(key, .null),
          List.mem_append_right _ (List.mem_filterMap.mpr ⟨_, hd, rfl⟩),
          beq_self_eq_true _⟩
  due := List.Subset.refl _

/-- Storing under a key of the parser does not add a key. -/
theorem IsOf.store (h : r.IsOf p) (hkey : p.Keeps key) (v : Value) :
    ({ r with values := CommandLine.store key v r.values } : Reading).IsOf p where
  keeps key' := by
    rw [lookup_store]
    split
    · rename_i heq
      rw [heq]
      exact ⟨fun _ => hkey, fun _ => rfl⟩
    · exact h.keeps key'
  due := h.due

/-- An option stores a value or adds one under its key, or stops with help. -/
theorem IsOf.act (h : r.IsOf p) (ho : o ∈ p.options) {arg : Option String}
    (hact : r.act o arg = .ok r') : r'.IsOf p := by
  unfold Reading.act at hact
  have hkeeps (heffect : o.effect ≠ .help) : p.Keeps o.key :=
    .inl ⟨o, ho, heffect, rfl⟩
  split at hact
  · cases hact
  · rename_i heffect
    cases hact
    exact h.store (hkeeps (by rw [heffect]; rintro ⟨⟩)) _
  · rename_i heffect
    obtain ⟨v, -, hv⟩ := bind_eq_ok.mp hact
    cases hv
    exact h.store (hkeeps (by rw [heffect]; rintro ⟨⟩)) _
  · cases hact

/-- Letters in one word stand for options of the parser. -/
theorem letters_mem {n : Nat} {given : List Char} {opts : List (Opt × Option String)}
    {last : Option Opt}
    (ho : o ∈ p.options) (h : letters p o name n given = .ok (opts, last)) :
    (∀ x ∈ opts, x.1 ∈ p.options) ∧ ∀ next ∈ last, next ∈ p.options := by
  induction n generalizing o name given opts last with
  | zero =>
      cases h
      exact ⟨List.forall_mem_nil _, by rintro _ ⟨⟩⟩
  | succ n ih =>
      unfold letters at h
      split at h
      · -- the option takes all that is behind its letter
        cases h
        exact ⟨List.forall_mem_singleton.mpr ho, by rintro _ ⟨⟩⟩
      · cases h
      · split at h
        · cases h
        · split at h
          · cases h
          · rename_i next hnext
            -- the next letter is an option too: the last of the word, or one more round
            split at h
            · cases h
              exact ⟨List.forall_mem_singleton.mpr ho, fun _ hlast =>
                Option.mem_some.mp hlast ▸ Parser.mem_options_of_named? hnext⟩
            · obtain ⟨⟨more, last'⟩, hmore, h⟩ := bind_eq_ok.mp h
              cases h
              obtain ⟨hopts, hlast⟩ := ih (Parser.mem_options_of_named? hnext) hmore
              exact ⟨List.forall_mem_cons.mpr ⟨ho, hopts⟩, hlast⟩

/-- An option takes the next word if it needs one. -/
theorem IsOf.actOnNext (h : r.IsOf p) (ho : o ∈ p.options)
    (hact : r.actOnNext o ws = .ok (r', rest)) : r'.IsOf p ∧ rest ⊆ ws := by
  unfold Reading.actOnNext at hact
  split at hact
  all_goals
    obtain ⟨_, hr, hact⟩ := bind_eq_ok.mp hact
    cases hact
  · exact ⟨h.act ho hr, List.subset_cons_self _ _⟩
  · exact ⟨h.act ho hr, List.Subset.refl _⟩

/-- Options in one word, by induction on them. -/
theorem IsOf.foldlM_act {opts : List (Opt × Option String)} (h : r.IsOf p)
    (hopts : ∀ x ∈ opts, x.1 ∈ p.options)
    (hacts : opts.foldlM (fun r (o, arg) => r.act o arg) r = .ok r') : r'.IsOf p := by
  induction opts generalizing r with
  | nil =>
      cases hacts
      exact h
  | cons x opts ih =>
      obtain ⟨hx, hopts⟩ := List.forall_mem_cons.mp hopts
      rw [List.foldlM_cons] at hacts
      obtain ⟨_, hact, hacts⟩ := bind_eq_ok.mp hacts
      exact ih (h.act hx hact) hopts hacts

/-- A word for an option, with what it takes. -/
theorem IsOf.readOption (h : r.IsOf p) (hw : w.IsOf p)
    (hread : readOption p r w ws = .ok (r', rest)) :
    r'.IsOf p ∧ rest ⊆ ws := by
  rw [Reading.readOption] at hread
  split at hread
  · -- something stands behind the name in the same word
    rename_i o name given hmark
    have ho := hw o name _ hmark
    obtain ⟨⟨opts, last⟩, hletters, hread⟩ := bind_eq_ok.mp hread
    obtain ⟨hopts, hlast⟩ := letters_mem ho hletters
    obtain ⟨_, hacts, hread⟩ := bind_eq_ok.mp hread
    have hafter := h.foldlM_act hopts hacts
    split at hread
    · cases hread
      exact ⟨hafter, List.Subset.refl _⟩
    · exact hafter.actOnNext (hlast _ rfl) hread
  · exact h.actOnNext (hw _ _ _ ‹_›) hread
  · -- an option that the parser does not have is put aside
    cases hread
    exact ⟨⟨h.keeps, h.due⟩, List.Subset.refl _⟩

theorem takeOne?_subset {taken : List Word} (h : takeOne? ws = some (taken, rest)) :
    rest ⊆ ws := by
  rw [takeOne?] at h
  dsimp only at h
  split at h
  · rename_i w more hdrop
    split at h
    · cases h
      have hmore : more ⊆ ws := by
        intro x hx
        exact List.mem_of_mem_drop (hdrop ▸ List.mem_cons_of_mem w hx)
      exact fun x hx => hmore (List.mem_of_mem_drop hx)
    · cases h
  · cases h

/-- Positional arguments take words as long as there are some for them. -/
theorem IsOf.readPositionals {due : List Positional} (h : r.IsOf p)
    (hdue : due ⊆ p.positionals)
    (hread : r.readPositionals due ws = .ok (some (r', rest))) :
    r'.IsOf p ∧ rest ⊆ ws := by
  induction due generalizing r ws with
  | nil => cases hread
  | cons d due ih =>
      obtain ⟨hd, hmore⟩ := List.cons_subset.mp hdue
      cases d with
      | command choices =>
          rw [Reading.readPositionals] at hread
          split at hread
          · cases hread
          · split at hread
            · cases hread
            · split at hread
              · cases hread
                exact ⟨⟨h.keeps, hmore⟩, List.nil_subset _⟩
              · cases hread
      | one name =>
          rw [Reading.readPositionals] at hread
          split at hread
          · cases hread
          · rename_i taken more htaken
            have hrest := takeOne?_subset htaken
            have hstored :
                ({ r with
                  due
                  values := CommandLine.store name (positionalValue taken) r.values }
                  : Reading).IsOf p :=
              ⟨(h.store (.inr hd) _).keeps, hmore⟩
            obtain ⟨found, hfound, hread⟩ := bind_eq_ok.mp hread
            -- others may take words behind it
            split at hread
            · cases hread
              obtain ⟨hr', hfound⟩ := ih hstored hmore hfound
              exact ⟨hr', List.Subset.trans hfound hrest⟩
            · cases hread
              exact ⟨hstored, hrest⟩

/-- Reading words keeps to the keys of the parser. -/
theorem IsOf.readWords {n : Nat} (h : r.IsOf p) (hws : ∀ w ∈ ws, w.IsOf p)
    (hread : readWords p n r ws = .ok r') : r'.IsOf p := by
  -- one round for each case of the loop; the words that it leaves are among those that
  -- it had, so they keep their marks
  induction n generalizing r ws with
  | zero =>
      cases hread
      exact h
  | succ n ih =>
      cases ws with
      | nil =>
          cases hread
          exact h
      | cons w rest =>
          rw [Reading.readWords] at hread
          split at hread
          · obtain ⟨⟨_, more⟩, hoption, hread⟩ := bind_eq_ok.mp hread
            obtain ⟨hafter, hmore⟩ := h.readOption (hws w List.mem_cons_self) hoption
            exact ih hafter (fun x hx => hws x (List.mem_cons_of_mem w (hmore hx))) hread
          · obtain ⟨found, hfound, hread⟩ := bind_eq_ok.mp hread
            split at hread
            · obtain ⟨hafter, hmore⟩ := h.readPositionals h.due hfound
              exact ih hafter (fun x hx => hws x (hmore hx)) hread
            · dsimp only at hread
              refine ih ?_ (fun x hx => hws x (List.mem_of_mem_drop hx)) hread
              exact ⟨h.keeps, h.due⟩

end Reading

/-! ### Marks of a parser -/

/-- A word is marked as an option of the parser, or as an argument. -/
theorem markOf_isOf {m : Mark} (h : markOf p text = .ok m) : Word.IsOf p ⟨text, m⟩ := by
  unfold markOf at h
  rintro o name given hmark
  dsimp only at hmark
  subst hmark
  split at h
  · -- a full name, a name before an equals sign, or the beginning of one name only
    dsimp only at h
    split at h
    · cases h
      exact Parser.mem_options_of_named? ‹_›
    · split at h
      · rename_i hcut
        obtain ⟨cut, -, hcut⟩ := Option.bind_eq_some_iff.mp hcut
        obtain ⟨o', ho', heq⟩ := Option.map_eq_some_iff.mp hcut
        cases heq
        cases h
        exact Parser.mem_options_of_named? ho'
      · split at h
        · rename_i hone
          cases h
          split at hone
          · exact longMeanings_mem (hone ▸ List.mem_singleton_self _)
          · exact shortMeanings_mem (hone ▸ List.mem_singleton_self _)
        · split at h <;> cases h
        · cases h
  · cases h

theorem mark_isOf (h : mark p args = .ok ws) : ∀ w ∈ ws, w.IsOf p := by
  induction args generalizing ws with
  | nil =>
      cases h
      exact List.forall_mem_nil _
  | cons text args ih =>
      rw [mark] at h
      -- behind two dashes everything is an argument
      split at h
      · cases h
        refine List.forall_mem_cons.mpr ⟨?_, ?_⟩
        · rintro o name given ⟨⟩
        · intro w hw
          obtain ⟨_, -, rfl⟩ := List.mem_map.mp hw
          rintro o name given ⟨⟩
      · obtain ⟨m, hm, h⟩ := bind_eq_ok.mp h
        obtain ⟨more, hmore, h⟩ := bind_eq_ok.mp h
        cases h
        exact List.forall_mem_cons.mpr ⟨markOf_isOf hm, ih hmore⟩

/-- After a command line has been read, there is a value under every key of the parser
and no other. -/
theorem Parser.read_isOf (h : p.read args = .ok r) : r.IsOf p := by
  obtain ⟨ws, hws, h⟩ := bind_eq_ok.mp h
  obtain ⟨r', hread, h⟩ := bind_eq_ok.mp h
  dsimp only at h
  split at h
  · cases h
    exact (Reading.isOf_start p).readWords (mark_isOf hws) hread
  · cases h

/-! ### Command lines of a program -/

/-- A word that starts with no dash is an argument. -/
theorem markOf_of_ne_dash (p : Parser) (h : text.toList.head? ≠ some '-') :
    markOf p text = .ok .arg := by
  rw [markOf]
  split
  · rename_i hcs
    rw [hcs] at h
    exact absurd rfl h
  · rfl

theorem names_program (g : Program) :
    g.parser.names = [("-h", helpOption), ("--help", helpOption)] :=
  rfl

/-- Of the two names for help, a word with two dashes can only mean the long one. -/
theorem length_longMeanings_le (g : Program) (rest : List Char) :
    (longMeanings g.parser ('-' :: '-' :: rest)).length ≤ 1 := by
  have hlong (cs : List Char) (given : Option String) : (g.parser.names.filterMap fun x =>
      if List.isPrefixOf ('-' :: '-' :: cs) x.1.toList then some (x.2, x.1, given)
        else none).length ≤ 1 := by
    rw [names_program, List.filterMap_cons_none rfl]
    exact List.length_filterMap_le _ _
  rw [longMeanings]
  rcases hcut : cutAtEquals? ('-' :: '-' :: rest) with - | ⟨front, given⟩
  · exact hlong rest none
  · rw [cutAtEquals?] at hcut
    split at hcut
    · cases hcut
      have hfront := hlong (rest.takeWhile (· != '=')) (some (String.ofList ‹_›))
      rwa [← String.toList_ofList (l := '-' :: '-' :: rest.takeWhile (· != '='))]
        at hfront
    · cases hcut

/-- A word with one dash can only mean the short one. -/
theorem length_shortMeanings_le (g : Program) {second : Char} (h : second ≠ '-')
    (rest : List Char) :
    (shortMeanings g.parser ('-' :: second :: rest)).length ≤ 1 := by
  -- of the two names for help, the long one means nothing else here
  have hlong : List.isPrefixOf ('-' :: second :: rest) "--help".toList = false := by
    simp [List.isPrefixOf, h]
  have hletter : "--help" ≠ String.ofList ['-', second] := by
    intro heq
    have hlength : "--help".length = 2 :=
      (congrArg String.length heq).trans String.length_ofList
    exact absurd hlength (by decide)
  have hnone : [("--help", helpOption)].filterMap (fun x =>
      if x.1 = String.ofList ['-', second] then some (x.2, x.1, some (String.ofList rest))
      else if List.isPrefixOf ('-' :: second :: rest) x.1.toList
        then some (x.2, x.1, none) else none) = [] := by
    simp only [List.filterMap_cons, List.filterMap_nil, if_neg hletter, hlong,
      Bool.false_eq_true, if_false]
  have hsplit : g.parser.names = [("-h", helpOption)] ++ [("--help", helpOption)] :=
    rfl
  rw [shortMeanings, hsplit, List.filterMap_append, List.length_append]
  exact Nat.add_le_add (List.length_filterMap_le _ _)
    (Nat.le_of_eq (congrArg List.length hnone))

/-- The parser of a program knows help alone, so no word is ambiguous to it. -/
theorem exists_markOf (g : Program) (text : String) :
    ∃ m, markOf g.parser text = .ok m := by
  rw [markOf]
  split
  · rename_i second rest hcs
    -- the program has the options for help only, so no word is ambiguous
    have hfew : (if second = '-' then longMeanings g.parser ('-' :: second :: rest)
        else shortMeanings g.parser ('-' :: second :: rest)).length ≤ 1 := by
      split
      · rename_i hsecond
        rw [hsecond]
        exact length_longMeanings_le g rest
      · exact length_shortMeanings_le g ‹_› rest
    dsimp only
    split
    · exact ⟨_, rfl⟩
    · split
      · exact ⟨_, rfl⟩
      · generalize (if second = '-' then longMeanings g.parser ('-' :: second :: rest)
          else shortMeanings g.parser ('-' :: second :: rest)) = meanings at hfew
        -- none, one, or more meanings, and more there are not
        rcases meanings with - | ⟨meant, - | ⟨other, more⟩⟩
        · dsimp only
          split <;> exact ⟨_, rfl⟩
        · exact ⟨_, rfl⟩
        · simp only [List.length_cons] at hfew
          omega
  · exact ⟨_, rfl⟩

/-- Words are marked one by one, up to two dashes. -/
theorem mark_cons (p : Parser) (text : String) (rest : List String) :
    mark p (text :: rest) = if text = "--"
      then .ok (⟨text, .dashes⟩ :: rest.map fun t => ⟨t, .arg⟩)
      else markOf p text >>= fun m => mark p rest >>= fun ws => .ok (⟨text, m⟩ :: ws) :=
  rfl

/-- The words of a program can all be marked. -/
theorem exists_mark (g : Program) (args : List String) :
    ∃ ws, mark g.parser args = .ok ws ∧ ws.map (·.text) = args := by
  induction args with
  | nil => exact ⟨[], rfl, rfl⟩
  | cons text rest ih =>
      rw [mark_cons]
      split
      · exact ⟨_, rfl, by simp [Function.comp_def]⟩
      · obtain ⟨m, hm⟩ := exists_markOf g text
        obtain ⟨ws, hws, htexts⟩ := ih
        rw [hm, hws]
        exact ⟨⟨text, m⟩ :: ws, rfl, congrArg (text :: ·) htexts⟩

/-- The first word of a command line for a program is the name of a command, and the
command gets all others. -/
theorem Program.read_of_mem_choices (hname : name.toList.head? ≠ some '-')
    (hmem : name ∈ g.choices) :
    g.read (name :: args) = g.readCommand [] name args := by
  obtain ⟨ws, hws, htexts⟩ := exists_mark g args
  have hdashes : name ≠ "--" := by
    rintro rfl
    exact hname rfl
  have hmark : mark g.parser (name :: args) = .ok (⟨name, .arg⟩ :: ws) := by
    rw [mark_cons, if_neg hdashes, markOf_of_ne_dash _ hname, hws]
    rfl
  -- the name is the command, and all words behind it are left to the command
  have hpositionals : Reading.readPositionals (.start g.parser) [.command g.choices]
    (⟨name, .arg⟩ :: ws)
      = .ok (some
        ({ Reading.start g.parser with
          due := []
          command := some (name, args) }, [])) := by
    rw [Reading.readPositionals]
    have htaken : Reading.takeOne? (⟨name, .arg⟩ :: ws) = some _ :=
      rfl
    rw [htaken, List.map_cons, htexts]
    exact if_pos (List.contains_iff_mem.mpr hmem)
  have hread : g.parser.read (name :: args) =
      .ok { Reading.start g.parser with due := [], command := some (name, args) } := by
    rw [Parser.read, hmark]
    show Reading.readWords _ _ _ _ >>= _ = _
    have hstart : (Reading.start g.parser).due = [.command g.choices] :=
      rfl
    rw [Reading.readWords, if_neg (by rintro ⟨⟩), hstart, hpositionals]
    rfl
  rw [Program.read, hread]
  rfl

/-- What a call comes to, a run that ends in the call comes to. -/
theorem Program.run_of_read {σ : Type} {c : Command} {bound : List (String × Value)}
    (h : g.read args = .call c bound) (ended : Ending → σ)
    (call : Command → List (String × Value) → σ) :
    g.run ended call args = call c bound := by
  rw [Program.run, h]

end RuleLint.CommandLine
