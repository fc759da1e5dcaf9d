/-
RuleLint/Proofs/Commands.lean

Commands that are registered can be called, if their values can be found again.  The
name of a parameter is spelt with dashes on a command line, and the value is kept under
a key that is made from the spelling: that of an option loses what dashes it starts with
and has underscores for the others, that of a positional argument is the spelling
itself.  The call looks under the name of the parameter.

So what decides is the signature alone.  After any command line that is accepted there
is a value for every parameter, or the call fails before the command is reached.
-/
import RuleLint.Proofs.Reading

namespace RuleLint.CommandLine

variable {p p' : Parser} {param key : String} {default : Option Value}
    {params : List String} {defaults : List Value}

/-! ### Parameters with their defaults -/

/-- Two lists side by side, the longer one going on by itself. -/
theorem zipFilled_append {α β : Type} {as : List α} {bs : List β}
    (h : as.length = bs.length) (more : List α) :
    zipFilled (as ++ more) bs = (as.zip bs).map (fun x => (some x.1, some x.2)) ++
      more.map fun a => (some a, none) := by
  induction as generalizing bs with
  | nil =>
      obtain rfl : bs = [] := List.eq_nil_of_length_eq_zero h.symm
      cases more <;> rfl
  | cons a as ih =>
      cases bs with
      | nil => cases h
      | cons b bs =>
          rw [List.cons_append, zipFilled, ih (Nat.succ.inj h)]
          rfl

/-- The first parameters have no default, and each of the others has its own. -/
theorem paired_append {required optional : List String}
    (h : optional.length = defaults.length) :
    paired (required ++ optional) defaults
      = required.map (fun a => (some a, none)) ++ (optional.zip defaults).map fun x =>
        (some x.1, some x.2) := by
  have hreverse : optional.reverse.zip defaults.reverse =
      (optional.zip defaults).reverse :=
    (List.reverse_zipWith h).symm
  rw [paired, List.reverse_append, zipFilled_append (by simpa using h), hreverse,
    List.reverse_append, ← List.map_reverse,
    ← List.map_reverse, List.reverse_reverse, List.reverse_reverse]

/-! ### Keys of parameters -/

/-- A parameter without the underscores in front of it. -/
def bare (param : String) : String :=
  String.ofList (param.toList.dropWhile (· == '_'))

/-- What the value for a parameter is kept under. -/
def keptUnder (param : String) : Option Value → String
  | none => if param.toList.head? = some '_' then bare param else spelling param
  | some _ => bare param

/-- Dashes in front of the spelling of a parameter are dropped, and the others are read
back as underscores. -/
theorem keyOf_spelling {name : String} {dashes : List Char}
    (hname : name.toList = dashes ++ (spelling param).toList)
    (hdashes : ∀ c ∈ dashes, c = '-') (h : '-' ∉ param.toList) :
    keyOf name = bare param := by
  have hfront : (dashes ++ (spelling param).toList).dropWhile (· == '-') =
      (spelling param).toList.dropWhile (· == '-') := by
    rw [List.dropWhile_append_of_pos]
    intro c hc
    rw [hdashes c hc]
    rfl
  have hback : ∀ cs : List Char, '-' ∉ cs →
      ((cs.map fun c => if c = '_' then '-' else c).dropWhile (· == '-')).map (fun c =>
        if c = '-' then '_' else c)
        = cs.dropWhile (· == '_') := by
    intro cs hcs
    induction cs with
    | nil => rfl
    | cons c cs ih =>
        obtain ⟨hc, hcs⟩ := List.ne_and_not_mem_of_not_mem_cons hcs
        -- underscores in front are spelt as dashes, which are dropped; behind the first
        -- other character nothing is
        by_cases hunder : c = '_'
        · simp [hunder, ih hcs]
        · have hrest : (cs.map fun c => if c = '_' then '-' else c).map (fun c =>
              if c = '-' then '_' else c) = cs := by
            rw [List.map_map]
            refine (List.map_congr_left ?_).trans (List.map_id cs)
            intro d hd
            have hdash : d ≠ '-' := fun heq => hcs (heq ▸ hd)
            by_cases hd' : d = '_' <;> simp [hd', hdash]
          simp only [List.map_cons, if_neg hunder]
          rw [List.dropWhile_cons_of_neg (by simpa using hc.symm),
            List.dropWhile_cons_of_neg (by simpa using hunder), List.map_cons,
            hrest, if_neg hc.symm]
  rw [keyOf, hname, hfront, spelling, String.toList_ofList, hback _ h]
  rfl

/-- A name without a low line in front is bare already. -/
theorem bare_of_head (h : param.toList.head? ≠ some '_') : bare param = param := by
  rw [bare]
  rcases hcs : param.toList with - | ⟨c, cs⟩
  · rw [List.dropWhile_nil, ← hcs, String.ofList_toList]
  · have hc : c ≠ '_' := by
      rintro rfl
      exact h (by rw [hcs]; rfl)
    rw [List.dropWhile_cons_of_neg (by simpa using hc), ← hcs, String.ofList_toList]

theorem head_bare (param : String) : (bare param).toList.head? ≠ some '_' := by
  intro h
  have hnot := List.head?_dropWhile_not (· == '_') param.toList
  rw [bare, String.toList_ofList] at h
  rw [h] at hnot
  exact absurd hnot (by decide)

/-- Low lines are spelt as dashes. -/
theorem not_mem_spelling (param : String) : '_' ∉ (spelling param).toList := by
  rw [spelling, String.toList_ofList]
  intro h
  obtain ⟨c, -, hc⟩ := List.mem_map.mp h
  split at hc
  · exact absurd hc (by decide)
  · exact ‹¬c = '_'› hc

theorem spelling_of_not_mem (h : '_' ∉ param.toList) : spelling param = param := by
  have hsame : param.toList.map (fun c => if c = '_' then '-' else c) =
      param.toList.map id := by
    refine List.map_congr_left ?_
    intro c hc
    have hne : c ≠ '_' := fun heq => h (heq ▸ hc)
    exact if_neg hne
  rw [spelling, hsame, List.map_id, String.ofList_toList]

/-- A name without dashes is spelt as itself only. -/
theorem eq_of_spelling (h : spelling param = key) (hkey : '-' ∉ key.toList) :
    param = key := by
  have hplain : '_' ∉ param.toList := by
    intro hmem
    apply hkey
    rw [← h, spelling, String.toList_ofList]
    exact List.mem_map.mpr ⟨'_', hmem, rfl⟩
  rwa [spelling_of_not_mem hplain] at h

/-! ### Adding parameters -/

/-- What an option with names keeps its value under. -/
def keyAmong (names : List String) : String :=
  keyOf ((names.find? fun name => ['-', '-'].isPrefixOf name.toList).getD
    (names.headD ""))

/-- An option that is not refused is put behind the others. -/
theorem addOption_eq_ok {names : List String} {effect : Effect} {value : Value}
    (h : p.addOption names effect value = .ok p') :
    p' = { p with options := p.options ++
      [{ names, key := keyAmong names, effect, default := value }] } := by
  unfold Parser.addOption at h
  dsimp only at h
  split at h
  · cases h
  · split at h
    · cases h
      rfl
    · cases h

/-- A parser keeps what it kept, and a value for the new option. -/
theorem keeps_addOption {names : List String} {effect : Effect} {value : Value}
    (heffect : effect ≠ .help)
    (h : p.addOption names effect value = .ok p') :
    p'.Keeps key ↔ p.Keeps key ∨ key = keyAmong names := by
  rw [addOption_eq_ok h]
  constructor
  · rintro (⟨o, ho, heffect, rfl⟩ | hone)
    · rcases List.mem_append.mp ho with ho | ho
      · exact .inl (.inl ⟨o, ho, heffect, rfl⟩)
      · rw [List.mem_singleton.mp ho]
        exact .inr rfl
    · exact .inl (.inr hone)
  · rintro ((⟨o, ho, hkey⟩ | hone) | rfl)
    · exact .inl ⟨o, List.mem_append_left _ ho, hkey⟩
    · exact .inr hone
    · exact .inl ⟨_, List.mem_append_right _ (List.mem_singleton_self _), heffect, rfl⟩

/-- A spelling starts with a dash if the name does with a low line. -/
theorem head_spelling (hplain : '-' ∉ param.toList) :
    (spelling param).toList.head? = some '-' ↔ param.toList.head? = some '_' := by
  rw [spelling, String.toList_ofList]
  rcases hcs : param.toList with - | ⟨c, cs⟩
  · simp
  · have hc : c ≠ '-' := by
      rintro rfl
      exact hplain (hcs ▸ List.mem_cons_self)
    by_cases hunder : c = '_' <;> simp [hunder, hc]

theorem keyAmong_singleton (name : String) : keyAmong [name] = keyOf name := by
  rw [keyAmong, List.find?_cons]
  cases List.isPrefixOf ['-', '-'] name.toList <;> rfl

/-- The first long name gives the key. -/
theorem keyAmong_long (name : String) (more : List String) :
    keyAmong (("--" ++ name) :: more) = keyOf ("--" ++ name) := by
  have hlong : List.isPrefixOf ['-', '-'] ("--" ++ name).toList = true := by
    rw [List.isPrefixOf_iff_prefix, String.toList_append]
    exact List.prefix_append _ _
  rw [keyAmong, List.find?_cons, hlong]
  rfl

/-- What the option for a parameter keeps its value under, be it written with two dashes
or as it is spelt. -/
theorem keyAmong_param (hplain : '-' ∉ param.toList) :
    (∀ more, keyAmong (("--" ++ spelling param) :: more) = bare param) ∧
      keyAmong [spelling param] = bare param := by
  constructor
  · intro more
    rw [keyAmong_long]
    exact keyOf_spelling String.toList_append
      (List.forall_mem_cons.mpr ⟨rfl, List.forall_mem_singleton.mpr rfl⟩) hplain
  · rw [keyAmong_singleton]
    exact keyOf_spelling (List.nil_append _).symm (List.forall_mem_nil _) hplain

/-- A parameter without a default is kept under its spelling, one with a default under
its bare name. -/
theorem keeps_addParam (hplain : '-' ∉ param.toList)
    (h : p.addParam param default = .ok p') :
    p'.Keeps key ↔ p.Keeps key ∨ key = keptUnder param default := by
  obtain ⟨hlong, hkey⟩ := keyAmong_param hplain
  have heffect (like : Option Value) : Effect.takes like ≠ .help := by
    rintro ⟨⟩
  unfold Parser.addParam at h
  dsimp only at h
  -- by the default: none, a truth value, or another value
  split at h
  · rw [keptUnder]
    split at h
    · -- a name with a low line in front is spelt as an option
      rename_i hdash
      rw [if_pos ((head_spelling hplain).mp hdash), ← hkey]
      exact keeps_addOption (heffect none) h
    · rename_i hdash
      cases h
      rw [if_neg (mt (head_spelling hplain).mpr hdash)]
      simp [Parser.Keeps, or_assoc]
  · rw [keptUnder, ← hlong]
    refine keeps_addOption ?_ h
    rintro ⟨⟩
  · rw [keptUnder, ← hlong]
    exact keeps_addOption (heffect _) h

/-- By induction on the parameters. -/
theorem keeps_addParams {pairs : List (Option String × Option Value)}
    (hplain : ∀ x ∈ pairs, '-' ∉ (x.1.getD "").toList)
    (h : p.addParams pairs = (p', none)) :
    p'.Keeps key ↔ p.Keeps key ∨ ∃ x ∈ pairs, key = keptUnder (x.1.getD "") x.2 := by
  induction pairs generalizing p with
  | nil =>
      cases h
      simp
  | cons x pairs ih =>
      obtain ⟨param, default⟩ := x
      obtain ⟨hx, hplain⟩ := List.forall_mem_cons.mp hplain
      rw [Parser.addParams] at h
      split at h
      · rename_i q hq
        rw [ih hplain h, keeps_addParam hx hq, or_assoc]
        simp
      · cases h

/-! ### Signatures -/

namespace Signature

/-- The number of parameters without a default. -/
def requiredCount (s : Signature) : Nat :=
  s.params.length - (s.defaults.getD []).length

/-- The parameters without a default. -/
def required (s : Signature) : List String :=
  s.params.take s.requiredCount

/-- The parameters with a default. -/
def optional (s : Signature) : List String :=
  s.params.drop s.requiredCount

/-- What holds of the parameters of any function: they have different names without
dashes, and there are no more defaults than parameters. -/
structure WellFormed (s : Signature) : Prop where
  apart : s.params.Nodup
  plain : ∀ param ∈ s.params, '-' ∉ param.toList
  few : (s.defaults.getD []).length ≤ s.params.length

/-- Whether values can be found again under the names of the parameters: none has the
name that the command itself is kept under, none starts with an underscore, and those
without a default have no underscore at all. -/
structure IsCallable (s : Signature) : Prop where
  free : "func" ∉ s.params
  bare : ∀ param ∈ s.params, param.toList.head? ≠ some '_'
  plain : ∀ param ∈ s.required, '_' ∉ param.toList

variable {s : Signature}

theorem required_append_optional (s : Signature) : s.required ++ s.optional = s.params :=
  List.take_append_drop _ _

theorem mem_params_of_mem_required (h : param ∈ s.required) : param ∈ s.params :=
  List.mem_of_mem_take h

theorem mem_params_of_mem_optional (h : param ∈ s.optional) : param ∈ s.params :=
  List.mem_of_mem_drop h

/-- There are as many optional parameters as defaults. -/
theorem length_optional (h : s.WellFormed) :
    s.optional.length = (s.defaults.getD []).length := by
  have hfew := h.few
  rw [optional, requiredCount, List.length_drop]
  omega

theorem map_fst_zip_optional (h : s.WellFormed) :
    (s.optional.zip (s.defaults.getD [])).map Prod.fst = s.optional :=
  List.map_fst_zip (Nat.le_of_eq (length_optional h))

/-- Parameters are paired with their defaults from the back, and none is left out. -/
theorem map_fst_paired (h : s.WellFormed) :
    (paired s.params (s.defaults.getD [])).map Prod.fst = s.params.map some := by
  have hoptional : (s.optional.zip (s.defaults.getD [])).map (fun x => some x.1) =
      s.optional.map some := by
    conv_rhs => rw [← map_fst_zip_optional h, List.map_map]
    rfl
  rw [← required_append_optional s, paired_append (length_optional h), List.map_append,
    List.map_append, List.map_map, List.map_map]
  exact congrArg (s.required.map some ++ ·) hoptional

theorem plain_paired (h : s.WellFormed) : ∀ x ∈ paired s.params (s.defaults.getD []),
    '-' ∉ (x.1.getD "").toList := by
  intro x hx
  have hmem := List.mem_map_of_mem (f := Prod.fst) hx
  rw [map_fst_paired h] at hmem
  obtain ⟨param, hparam, hx⟩ := List.mem_map.mp hmem
  rw [← hx]
  exact h.plain param hparam

/-- Whether a parser keeps a value for every parameter of a signature, and nothing
else. -/
def IsOf (p : Parser) (s : Signature) : Prop :=
  ∀ key, p.Keeps key ↔ (∃ param ∈ s.required, key = keptUnder param none) ∨
    ∃ param ∈ s.optional, key = CommandLine.bare param

/-- Only whether there is a default decides under what the value for a parameter is
kept. -/
theorem exists_mem_paired_iff (h : s.WellFormed) :
    (∃ x ∈ paired s.params (s.defaults.getD []), key = keptUnder (x.1.getD "") x.2) ↔
      (∃ param ∈ s.required, key = keptUnder param none) ∨ ∃ param ∈ s.optional, key =
        CommandLine.bare param := by
  have hnames := map_fst_zip_optional h
  rw [← required_append_optional s, paired_append (length_optional h)]
  constructor
  · rintro ⟨x, hx, hkey⟩
    rcases List.mem_append.mp hx with hx | hx
    · obtain ⟨param, hparam, rfl⟩ := List.mem_map.mp hx
      exact .inl ⟨param, hparam, hkey⟩
    · obtain ⟨y, hy, rfl⟩ := List.mem_map.mp hx
      exact .inr ⟨y.1, hnames ▸ List.mem_map_of_mem hy, hkey⟩
  · rintro (⟨param, hparam, hkey⟩ | ⟨param, hparam, hkey⟩)
    · exact ⟨_, List.mem_append_left _ (List.mem_map_of_mem hparam), hkey⟩
    · rw [← hnames] at hparam
      obtain ⟨y, hy, rfl⟩ := List.mem_map.mp hparam
      exact ⟨_, List.mem_append_right _ (List.mem_map_of_mem hy), hkey⟩

/-- No key starts with an underscore. -/
theorem IsOf.head_ne (h : IsOf p s) (hkey : p.Keeps key) :
    key.toList.head? ≠ some '_' := by
  rcases (h key).mp hkey with ⟨param, -, rfl⟩ | ⟨param, -, rfl⟩
  · rw [keptUnder]
    split
    · exact head_bare param
    · intro hhead
      exact not_mem_spelling param (List.mem_of_mem_head? hhead)
  · exact head_bare param

/-- A parameter has its name for a key, unless there is an underscore where it matters. -/
theorem IsOf.keeps (h : IsOf p s) (hparam : param ∈ s.params)
    (hhead : param.toList.head? ≠ some '_')
    (hplain : param ∈ s.required → '_' ∉ param.toList) : p.Keeps param := by
  rw [← required_append_optional s] at hparam
  refine (h param).mpr ((List.mem_append.mp hparam).imp ?_ ?_)
  · intro hrequired
    refine ⟨param, hrequired, ?_⟩
    rw [keptUnder, if_neg hhead, spelling_of_not_mem (hplain hrequired)]
  · intro hoptional
    exact ⟨param, hoptional, (bare_of_head hhead).symm⟩

/-- Only a parameter of that name, but for underscores in front, takes the place of the
command. -/
theorem IsOf.exists_of_keeps_func (h : IsOf p s) (hfunc : p.Keeps "func") :
    ∃ param ∈ s.params, CommandLine.bare param = "func" := by
  rcases (h "func").mp hfunc with ⟨param, hparam, heq⟩ | ⟨param, hparam, heq⟩
  · refine ⟨param, mem_params_of_mem_required hparam, ?_⟩
    rw [keptUnder] at heq
    split at heq
    · exact heq.symm
    · obtain rfl : param = "func" := eq_of_spelling heq.symm (by decide)
      rfl
  · exact ⟨param, mem_params_of_mem_optional hparam, heq.symm⟩

/-- There is a value under the name of every parameter, and none in the place of the
command, exactly for a signature that can be called. -/
theorem IsOf.isCallable_iff (h : IsOf p s) (hs : s.WellFormed) :
    (∀ param ∈ s.params, p.Keeps param) ∧ ¬p.Keeps "func" ↔ s.IsCallable := by
  constructor
  · rintro ⟨hall, hfunc⟩
    have hbare : ∀ param ∈ s.params, param.toList.head? ≠ some '_' :=
      fun param hparam => h.head_ne (hall param hparam)
    refine ⟨fun hmem => hfunc (hall _ hmem), hbare, ?_⟩
    intro param hparam
    rcases (h param).mp (hall param (mem_params_of_mem_required hparam))
      with ⟨other, hother, rfl⟩ | ⟨other, hother, heq⟩
    · rw [keptUnder, if_neg (hbare other (mem_params_of_mem_required hother))]
      exact not_mem_spelling other
    · -- then the value is that of a parameter with a default, but no two share a name
      rw [bare_of_head (hbare other (mem_params_of_mem_optional hother))] at heq
      subst heq
      have hapart := hs.apart
      rw [← required_append_optional s] at hapart
      exact absurd rfl ((List.nodup_append.mp hapart).2.2 param hparam param hother)
  · intro hcallable
    constructor
    · intro param hparam
      exact h.keeps hparam (hcallable.bare param hparam) (hcallable.plain param)
    · intro hfunc
      obtain ⟨param, hparam, heq⟩ := h.exists_of_keeps_func hfunc
      rw [bare_of_head (hcallable.bare param hparam)] at heq
      exact hcallable.free (heq ▸ hparam)

end Signature

/-! ### Registered commands -/

namespace Program

variable {g : Program} {c : Command} {e : Entry} {args : List String}

/-- The parser of a command before its parameters are added. -/
def newParser (g : Program) (c : Command) : Parser :=
  { prog := g.name ++ " " ++ c.name, description := c.doc, options := [helpOption],
    positionals := [] }

/-- A new parser has its help only, which keeps nothing. -/
theorem not_keeps_newParser (g : Program) (c : Command) (key : String) :
    ¬(g.newParser c).Keeps key := by
  rintro (⟨o, ho, heffect, -⟩ | hone)
  · rw [List.mem_singleton.mp ho] at heffect
    exact heffect rfl
  · cases hone

/-- A command that is not refused has an entry of its own, behind those that were
there. -/
theorem exists_entry (h : (g.register c).2 = none) :
    c.name ∉ g.choices ∧ ∃ e, (g.register c).1.entries = g.entries ++ [e] ∧
      e.command = c ∧
      (g.newParser c).addParams
        (paired c.signature.params (c.signature.defaults.getD [])) =
        (e.parser, none) := by
  rw [register] at h ⊢
  split at h
  · cases h
  · rename_i hnew
    refine ⟨mt List.contains_iff_mem.mpr hnew, ?_⟩
    rw [if_neg hnew]
    dsimp only at h ⊢
    rcases hdefaults : c.signature.defaults with - | defaults
    · rw [hdefaults] at h
      cases h
    · rw [hdefaults] at h
      exact ⟨_, rfl, rfl, Prod.ext rfl h⟩

/-- Registering a command takes none away. -/
theorem exists_entries_register (g : Program) (c : Command) :
    ∃ more, (g.register c).1.entries = g.entries ++ more := by
  rw [register]
  split
  · exact ⟨[], (List.append_nil _).symm⟩
  · exact ⟨_, rfl⟩

/-- A program offers a command that was registered without a refusal, whatever was tried
to be registered later. -/
inductive Offers (c : Command) : Program → Prop where
  | registered {g : Program} : (g.register c).2 = none → Offers c (g.register c).1
  | later {g : Program} (other : Command) : Offers c g → Offers c (g.register other).1

/-- The parser of a registered command keeps a value for each parameter. -/
theorem isOf_registered (hsig : c.signature.WellFormed)
    (hadded : (g.newParser c).addParams
      (paired c.signature.params (c.signature.defaults.getD [])) = (e.parser, none)) :
    Signature.IsOf e.parser c.signature := by
  intro key
  rw [keeps_addParams (Signature.plain_paired hsig) hadded,
    or_iff_right (not_keeps_newParser g c key)]
  exact Signature.exists_mem_paired_iff hsig

/-- What a program offers is found under its name. -/
theorem Offers.exists_find? (h : g.Offers c) (hsig : c.signature.WellFormed) :
    ∃ e, g.entries.find? (·.command.name = c.name) = some e ∧ e.command = c ∧
      Signature.IsOf e.parser c.signature := by
  induction h with
  | registered hregister =>
      obtain ⟨hnew, e, hentries, hcommand, hadded⟩ := exists_entry hregister
      refine ⟨e, ?_, hcommand, isOf_registered hsig hadded⟩
      rw [hentries, List.find?_append, Option.or_eq_right_of_none,
        List.find?_cons_of_pos (by simp [hcommand])]
      -- the entry is the first of its name, since the name was new
      rw [List.find?_eq_none]
      intro earlier hearlier
      simp only [decide_eq_true_eq]
      intro heq
      exact hnew (heq ▸ List.mem_map_of_mem hearlier)
  | later other _ ih =>
      obtain ⟨e, hfind, hentry⟩ := ih
      obtain ⟨more, hmore⟩ := exists_entries_register _ other
      refine ⟨e, ?_, hentry⟩
      rw [hmore, List.find?_append, hfind]
      rfl

/-- Whether a command line is read to its end: neither is text shown nor is anything
refused. -/
def Accepts (g : Program) (argv : List String) : Prop :=
  (∀ text, g.read argv ≠ .shown text) ∧ ∀ text, g.read argv ≠ .refused text

/-- A command line that is accepted is read by the parser of the command, and the
command is asked for with what was read. -/
theorem Offers.exists_reading (hoffers : g.Offers c)
    (hname : c.name.toList.head? ≠ some '-') (hsig : c.signature.WellFormed)
    (haccepts : g.Accepts (c.name :: args)) :
    ∃ e ∈ g.entries, e.command = c ∧ Signature.IsOf e.parser c.signature ∧
      ∃ r, e.parser.read args = .ok r ∧ g.read (c.name :: args) = c.request r.values := by
  obtain ⟨e, hfind, rfl, hkeys⟩ := hoffers.exists_find? hsig
  have he := List.mem_of_find?_eq_some hfind
  have hread : g.read (e.command.name :: args) = _ :=
    read_of_mem_choices hname (List.mem_map_of_mem he)
  rw [readCommand, hfind] at hread
  -- the parser of the command neither stops nor leaves words over, since either would
  -- be told
  obtain ⟨hshown, hrefused⟩ := haccepts
  refine ⟨e, he, rfl, hkeys, ?_⟩
  rcases hr : e.parser.read args with stop | r
  · simp only [hr] at hread
    cases stop with
    | help => exact absurd hread (hshown _)
    | complaint text => exact absurd hread (hrefused _)
  · simp only [hr, List.nil_append] at hread
    split at hread
    · exact ⟨r, rfl, hread⟩
    · exact absurd hread (hrefused _)

end Program

/-! ### Calls -/

section Calls

variable {values : List (String × Value)}

/-- Parameters that all have a value are bound in order. -/
theorem bind_of_forall (h : ∀ param ∈ params, (values.lookup param).isSome) :
    ∃ bound, bind values params = .ok bound ∧ bound.map Prod.fst = params ∧ ∀ x ∈ bound,
      values.lookup x.1 = some x.2 := by
  induction params with
  | nil => exact ⟨[], rfl, rfl, List.forall_mem_nil _⟩
  | cons param params ih =>
      obtain ⟨hparam, hparams⟩ := List.forall_mem_cons.mp h
      obtain ⟨v, hv⟩ := Option.isSome_iff_exists.mp hparam
      obtain ⟨bound, hbound, hnames, hvalues⟩ := ih hparams
      refine ⟨(param, v) :: bound, ?_, congrArg (param :: ·) hnames,
        List.forall_mem_cons.mpr ⟨hv, hvalues⟩⟩
      rw [bind, hv]
      exact bind_of_ok hbound

/-- Otherwise the first one without a value is named. -/
theorem exists_bind_eq_error (h : ¬∀ param ∈ params, (values.lookup param).isSome) :
    ∃ param ∈ params, values.lookup param = none ∧ bind values params = .error param := by
  induction params with
  | nil => exact absurd (List.forall_mem_nil _) h
  | cons param params ih =>
      rcases hparam : values.lookup param with - | v
      · refine ⟨param, List.mem_cons_self, hparam, ?_⟩
        rw [bind, hparam]
      · have hparams : ¬∀ param ∈ params, (values.lookup param).isSome := by
          intro hall
          exact h (List.forall_mem_cons.mpr ⟨hparam ▸ rfl, hall⟩)
        obtain ⟨first, hmem, hnone, hfirst⟩ := ih hparams
        refine ⟨first, List.mem_cons_of_mem _ hmem, hnone, ?_⟩
        rw [bind, hparam, hfirst]
        rfl

end Calls

namespace Program

variable {g : Program} {c : Command} {args : List String}

/-- The faults of calls for which the values cannot be found. -/
inductive CallFault (s : Signature) : Fault → Prop where
  /-- There is no value under the name of a parameter. -/
  | lacks {param : String} : param ∈ s.params →
      (param.toList.head? = some '_' ∨ param ∈ s.required ∧ '_' ∈ param.toList) →
      CallFault s (.noAttribute "Namespace" param)
  /-- The value of a parameter has taken the place of the command. -/
  | replaced {param : String} (type : String) : param ∈ s.params → bare param = "func" →
      CallFault s (.noAttribute type "__code__")

/-- A parameter that no value is kept for has an underscore where it matters. -/
theorem CallFault.of_not_keeps {s : Signature} (h : Signature.IsOf p s)
    (hparam : param ∈ s.params) (hnone : ¬p.Keeps param) :
    CallFault s (.noAttribute "Namespace" param) := by
  refine .lacks hparam ?_
  by_contra hfound
  rw [not_or, not_and] at hfound
  exact hnone (h.keeps hparam hfound.1 hfound.2)

/-- A value in the place of the command is that of a parameter. -/
theorem CallFault.of_keeps_func {s : Signature} (h : Signature.IsOf p s)
    (hfunc : p.Keeps "func") (type : String) :
    CallFault s (.noAttribute type "__code__") := by
  obtain ⟨param, hparam, heq⟩ := h.exists_of_keeps_func hfunc
  exact .replaced type hparam heq

/-- Every command line that a program accepts for a command it offers ends in exactly
one call, with a value for each parameter that was read under its name, if the signature
can be called; and if not, in a fault before the command is reached. -/
theorem run_offered (hoffers : g.Offers c) (hname : c.name.toList.head? ≠ some '-')
    (hsig : c.signature.WellFormed)
    (haccepts : g.Accepts (c.name :: args)) :
    (c.signature.IsCallable → ∃ e ∈ g.entries, ∃ r bound, e.command = c ∧
      e.parser.read args = .ok r ∧
      bound.map Prod.fst = c.signature.params ∧
        (∀ x ∈ bound, r.values.lookup x.1 = some x.2) ∧
      ∀ (σ : Type) (ended : Ending → σ) (call : Command → List (String × Value) → σ),
        g.run ended call (c.name :: args) = call c bound) ∧
    (¬c.signature.IsCallable → ∃ fault, CallFault c.signature fault ∧
      ∀ (σ : Type) (ended : Ending → σ) (call : Command → List (String × Value) → σ),
        g.run ended call (c.name :: args) = ended { result := .error fault }) := by
  obtain ⟨e, he, hcommand, hkeys, r, hr, hread⟩ :=
    hoffers.exists_reading hname hsig haccepts
  -- which names have values does not depend on the words
  have hvalues := (Parser.read_isOf hr).keeps
  have hcallable := hkeys.isCallable_iff hsig
  constructor
  · intro h
    obtain ⟨hall, hfree⟩ := hcallable.mpr h
    have hfunc : r.values.lookup "func" = none :=
      Option.not_isSome_iff_eq_none.mp (mt (hvalues "func").mp hfree)
    obtain ⟨bound, hbound, hnames, hfound⟩ := bind_of_forall fun param hparam =>
      (hvalues param).mpr (hall param hparam)
    refine ⟨e, he, r, bound, hcommand, hr, hnames, hfound, ?_⟩
    intro σ ended call
    simp only [run, hread, Command.request, hfunc, hbound]
  · intro h
    have hlacks : ∀ param ∈ c.signature.params, r.values.lookup param = none →
        CallFault c.signature (.noAttribute "Namespace" param) :=
      fun param hparam hnone => .of_not_keeps hkeys hparam
        (mt (hvalues param).mpr (Option.not_isSome_iff_eq_none.mpr hnone))
    have hreplaced : ∀ v, r.values.lookup "func" = some v →
        CallFault c.signature (.noAttribute v.typeName "__code__") := fun v hfunc =>
      .of_keeps_func hkeys ((hvalues "func").mp (hfunc ▸ rfl)) v.typeName
    by_cases hall : ∀ param ∈ c.signature.params, (r.values.lookup param).isSome
    · obtain ⟨bound, hbound, -⟩ := bind_of_forall hall
      rcases hfunc : r.values.lookup "func" with - | v
      · have hfree : ¬e.parser.Keeps "func" := by
          rw [← hvalues, hfunc]
          exact Bool.false_ne_true
        exact absurd (hcallable.mp ⟨fun param hparam =>
          (hvalues param).mp (hall param hparam),
          hfree⟩) h
      · refine ⟨_, hreplaced v hfunc, fun σ ended call => ?_⟩
        simp only [run, hread, Command.request, hfunc, hbound]
    · obtain ⟨param, hparam, hnone, hbound⟩ := exists_bind_eq_error hall
      rcases hfunc : r.values.lookup "func" with - | v
      · refine ⟨_, hlacks param hparam hnone, fun σ ended call => ?_⟩
        simp only [run, hread, Command.request, hfunc, hbound]
      · -- the function of the command is in its own place
        by_cases hown : isOwnFunction v = true
        · refine ⟨_, hlacks param hparam hnone, fun σ ended call => ?_⟩
          simp only [run, hread, Command.request, hfunc, hbound, if_pos hown]
        · refine ⟨_, hreplaced v hfunc, fun σ ended call => ?_⟩
          simp only [run, hread, Command.request, hfunc, hbound, if_neg hown]

/-- A command with a parameter of each kind. -/
def greet : Command :=
  { name := "greet"
    doc := ""
    signature :=
      { params := ["who", "loud", "log_level"], defaults := some [.bool false, .int 3] } }

/-- A program that offers it, and refuses another command of the name. -/
def greeter : Program :=
  ((({ name := "tool" } : Program).register greet).1.register greet).1

/-- Options may stand in front of arguments and behind them. -/
theorem read_greeter : greeter.read ["greet", "--log-level", "-5", "Bob", "-l"]
    = .call greet [("who", .text "Bob"), ("loud", .bool true),
      ("log_level", .int (-5))] :=
  rfl

theorem run_offered_greet :
    greeter.Offers greet ∧ greeter.Accepts ["greet", "--log-level", "-5", "Bob", "-l"] ∧
    greet.signature.IsCallable ∧ ∃ bound, bound.map Prod.fst =
      ["who", "loud", "log_level"] ∧
      ∀ (σ : Type) (ended : Ending → σ) (call : Command → List (String × Value) → σ),
        greeter.run ended call ["greet", "--log-level", "-5", "Bob", "-l"] =
          call greet bound := by
  have hoffers : greeter.Offers greet :=
    .later greet (.registered rfl)
  have hsig : greet.signature.WellFormed :=
    ⟨by decide, by decide, by decide⟩
  have hcallable : greet.signature.IsCallable :=
    ⟨by decide, by decide, by decide⟩
  have haccepts : greeter.Accepts ["greet", "--log-level", "-5", "Bob", "-l"] := by
    rw [Accepts, read_greeter]
    exact ⟨by rintro _ ⟨⟩, by rintro _ ⟨⟩⟩
  obtain ⟨_, -, _, bound, -, -, hnames, -, hrun⟩ :=
    (run_offered hoffers (by decide) hsig haccepts).1 hcallable
  exact ⟨hoffers, haccepts, hcallable, bound, hnames, hrun⟩

/-- A command with an underscore in the name of a parameter without a default. -/
def underscored : Command :=
  { name := "f"
    doc := ""
    signature := { params := ["a_b", "c"], defaults := some [.int 0] } }

/-- Registering it is not refused, and neither is a command line with an argument for
each parameter; the command is never called. -/
theorem run_underscored : (({ name := "tool" } : Program).register underscored).2 = none ∧
    underscored.signature.WellFormed ∧
    (({ name := "tool" } : Program).register underscored).1.Accepts ["f", "x"] ∧
    ∀ (σ : Type) (ended : Ending → σ) (call : Command → List (String × Value) → σ),
      (({ name := "tool" } : Program).register underscored).1.run ended call ["f", "x"]
        = ended { result := .error (.noAttribute "Namespace" "a_b") } := by
  have hread : (({ name := "tool" } : Program).register underscored).1.read ["f", "x"] =
      .lacks "a_b" :=
    rfl
  refine ⟨rfl, ⟨by decide, by decide, by decide⟩, ?_, ?_⟩
  · rw [Accepts, hread]
    exact ⟨by rintro _ ⟨⟩, by rintro _ ⟨⟩⟩
  · intro σ ended call
    rw [run, hread]

end Program

end RuleLint.CommandLine
