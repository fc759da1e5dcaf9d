/-
RuleLint/Proofs/Coverage.lean

Which files of a project a pattern for everything below its configuration covers.

The directory of a configuration becomes a part of such a pattern as it is.  A star or a
question mark in it matches itself, but brackets make a set and do not:
`everything_selects` says which files are covered, and that all are if the directory has
no set in its name.

Any other pattern below a configuration has the directory in front as well.  Where
nothing in the directory has a meaning in patterns, the pattern is the one that was
written, for what comes behind the directory (`below_selects`).
-/
import Mathlib.Data.List.TakeWhile
import RuleLint.Proofs.Matching
import RuleLint.Proofs.Meaning
import RuleLint.Proofs.Report

namespace RuleLint

/-! ### The directory of a configuration -/

namespace Path

theorem exists_lead {p : String} (h : isAbsolute p = true) :
    ∃ body, lead p = body ++ ['/'] := by
  have hne : p.isEmpty = false := by
    rw [Bool.eq_false_iff]
    intro hempty
    obtain ⟨t, ht⟩ := isAbsolute_iff.mp h
    rw [String.isEmpty_iff.mp hempty] at ht
    cases ht
  rw [lead, hne, Bool.false_or]
  split
  · rename_i hend
    obtain ⟨body, hbody⟩ := endsWith_iff.mp hend
    exact ⟨body, hbody.symm⟩
  · exact ⟨p.toList, rfl⟩

theorem lead_append_slash (body : List Char) :
    lead (String.ofList (body ++ ['/'])) = body ++ ['/'] := by
  have hend : (String.ofList (body ++ ['/'])).endsWith "/" = true :=
    endsWith_iff.mpr ⟨body, String.toList_ofList.symm⟩
  rw [lead, hend, Bool.or_true, if_pos rfl, String.toList_ofList]

/-- The directory of a file in a directory is that directory, up to slashes at its end. -/
theorem lead_dirname_join {directory name : String}
    (hdirectory : isAbsolute directory = true) (hname : IsName name) :
    ∃ k, lead directory = lead (dirname (join directory name)) ++
      List.replicate k '/' := by
  obtain ⟨body, hbody⟩ := exists_lead hdirectory
  have hall : ∀ c ∈ name.toList.reverse, (c != '/') = true :=
    fun c hc => bne_iff_ne.mpr fun hc' => hname.2 (hc' ▸ List.mem_reverse.mp hc)
  have hhead : (join directory name).toList.reverse.dropWhile (· != '/') =
      '/' :: body.reverse := by
    rw [toList_join hname, hbody, List.reverse_append, List.dropWhile_append_of_pos hall]
    simp
  have hdirname : dirname (join directory name)
      = String.ofList (if (body.reverse.dropWhile (· == '/')).isEmpty
        then '/' :: body.reverse
          else body.reverse.dropWhile (· == '/')).reverse := by
    rw [dirname, hhead]
    simp
  rw [hdirname, hbody]
  rcases hrest : body.reverse.dropWhile (· == '/') with - | ⟨c, rest⟩
  · -- nothing but slashes: they stay
    have hslashes : ('/' :: body.reverse).reverse = body ++ ['/'] := by simp
    refine ⟨0, ?_⟩
    show body ++ ['/'] = lead (String.ofList ('/' :: body.reverse).reverse) ++ []
    rw [hslashes, lead_append_slash, List.append_nil]
  · -- the slashes at the end go, and joining brings one back
    have hc : c ≠ '/' := by
      have hfirst := List.head?_dropWhile_not (· == '/') body.reverse
      rw [hrest] at hfirst
      simpa using hfirst
    have hsplit : body = (c :: rest).reverse ++
        (body.reverse.takeWhile (· == '/')).reverse := by
      rw [← List.reverse_append, ← hrest, List.takeWhile_append_dropWhile,
        List.reverse_reverse]
    have hslashes : ∀ d ∈ (body.reverse.takeWhile (· == '/')).reverse, d = '/' := by
      intro d hd
      have hd := List.mem_takeWhile_imp (List.mem_reverse.mp hd)
      simpa using hd
    have hdirectory : lead (String.ofList (c :: rest).reverse) =
        (c :: rest).reverse ++ ['/'] := by
      rw [lead_of_getLast? (by simp) (by simpa using hc), String.toList_ofList]
    rw [if_neg (by simp), hdirectory]
    generalize (body.reverse.takeWhile (· == '/')).reverse = slashes at hsplit hslashes
    refine ⟨slashes.length, ?_⟩
    rw [hsplit, List.append_assoc,
      List.eq_replicate_of_mem hslashes, ← List.replicate_succ', List.replicate_succ,
      List.length_replicate, List.append_assoc, List.singleton_append]

/-- The directory of a file is what its name was put behind. -/
theorem dirname_append {directory name : String} (hdirectory : directory ≠ "")
    (hend : directory.toList.getLast? ≠ some '/')
    (hname : '/' ∉ name.toList) : dirname (directory ++ "/" ++ name) = directory := by
  have hall : ∀ c ∈ name.toList.reverse, (c != '/') = true :=
    fun c hc => bne_iff_ne.mpr fun hc' => hname (hc' ▸ List.mem_reverse.mp hc)
  -- from behind, the first slash is the one between the directory and the name
  have hhead : (directory ++ "/" ++ name).toList.reverse.dropWhile (· != '/') =
      '/' :: directory.toList.reverse := by
    rw [String.toList_append, List.reverse_append, List.dropWhile_append_of_pos hall,
      String.toList_append]
    simp
  have hrest : directory.toList.reverse.dropWhile (· == '/') =
      directory.toList.reverse := by
    rcases hreverse : directory.toList.reverse with - | ⟨c, cs⟩
    · rfl
    · have hc : c ≠ '/' := by
        rintro rfl
        exact hend (by rw [← List.head?_reverse, hreverse, List.head?_cons])
      simp [hc]
  have hne : directory.toList.reverse.isEmpty = false := by simpa using hdirectory
  rw [dirname, hhead]
  simp [hrest, hne]

end Path

/-! ### Everything below a configuration -/

namespace Project

open Yaml

/-- The pattern for everything below a configuration is a scalar with a tag of its own. -/
theorem load_everything [Host] (name : String) :
    Yaml.load ⟨.configuration, name⟩ "~+/*" =
      .ok (.text (Path.join (Path.dirname name) "*")) := by
  have hscalar : IsScalar "~+/*" none "~+/*" true ⟨0, 0, 0⟩ :=
    .of_tokens (s := ⟨.streamStart, ⟨0, 0, 0⟩, ⟨0, 0, 0⟩⟩)
      (t := ⟨.scalar "~+/*" true, ⟨0, 0, 0⟩, ⟨4, 0, 4⟩⟩)
      (e := ⟨.streamEnd, ⟨4, 0, 4⟩, ⟨4, 0, 4⟩⟩) (by decide) (by decide +kernel) rfl rfl
  have htag : Registry.configuration.plainTag "~+/*" = "!glob" :=
    plainTag_tilde rfl (by decide) (by decide)
  rw [load_of_isScalar hscalar htag (show _ = some Maker.glob by decide),
    Maker.ofScalar_glob]
  rfl

/-- What the pattern for everything below a configuration has in front of its star: the
directory as it is written, with one slash behind it. -/
def frontOf (directory : String) : String :=
  String.ofList (Path.lead (Path.dirname (Path.join directory configName)))

theorem toList_frontOf (directory : String) :
    (frontOf directory).toList =
      Path.lead (Path.dirname (Path.join directory configName)) :=
  String.toList_ofList

theorem pattern_eq (directory : String) :
    Path.join (Path.dirname (Path.join directory configName)) "*" =
      frontOf directory ++ "*" := by
  rw [← String.toList_inj, Path.toList_join isName_star, String.toList_append,
    toList_frontOf]

/-- The sources below a directory go on behind it. -/
theorem lead_prefix_of_mem_sources {fs : Files} (hfs : fs.root.WellFormed)
    {directory path : String} (hpath : path ∈ fs.sources directory) :
    Path.lead directory <+: path.toList := by
  rw [Files.sources] at hpath
  split at hpath
  · exact Item.lead_prefix_of_mem (Files.find_wellFormed hfs ‹_›) hpath
  · cases hpath

/-- A directory without sets in its name is matched by itself. -/
theorem matches_frontOf {directory : String}
    (hdirectory : Path.isAbsolute directory = true)
    (hset : Glob.hasSet directory.toList = false) :
    (Glob.Pattern.ofText (frontOf directory)).matches (frontOf directory) = true := by
  obtain ⟨k, hlead⟩ := Path.lead_dirname_join hdirectory isName_config
  have hsetLead : Glob.hasSet (Path.lead directory) = false := by
    rw [Path.lead]
    split
    · exact hset
    · exact Glob.hasSet_append hset (by decide)
  have hsetFront : Glob.hasSet (frontOf directory).toList = false := by
    refine Glob.hasSet_front ?_ hsetLead
    rw [hlead, toList_frontOf]
    exact List.prefix_append _ _
  rw [Glob.matches_iff_fits]
  exact Glob.fits_pieces_self hsetFront (Nat.le_of_eq String.length_toList)

/-- **Everything below a configuration.** The pattern for it selects a path exactly if
the directory of the configuration, read as a pattern, matches a beginning of the path.
A directory without sets in its name matches itself, so that every source below it is
selected and the rule takes part in its run. -/
theorem everything_selects [Host] {fs : Files} (hfs : fs.root.WellFormed)
    {directory : String} (hdirectory : Path.isAbsolute directory = true)
    (allowIgnore : Value) :
    Yaml.load ⟨.configuration, Path.join directory configName⟩ "~+/*" =
      .ok (.text (frontOf directory ++ "*")) ∧
    (∃ k, Path.lead directory = (frontOf directory).toList ++ List.replicate k '/') ∧
    (∀ path, ∃ b, Settings.selects ⟨.list [.text (frontOf directory ++ "*")], .list [],
      allowIgnore⟩ path = .ok b ∧
      (b = true ↔ ∃ u v, path = u ++ v ∧
        (Glob.Pattern.ofText (frontOf directory)).matches u = true)) ∧
    (Glob.hasSet directory.toList = false → ∀ path ∈ fs.sources directory,
      ∀ rules chosen rule, rule ∈ rules →
      rule.settings = ⟨.list [.text (frontOf directory ++ "*")], .list [], allowIgnore⟩ →
        rule.settings.selects path = .ok true ∧
          (Lint.selected path rules = .ok chosen → rule ∈ chosen)) := by
  -- the front of the pattern leads to the directory, up to slashes at its end
  obtain ⟨k, hlead⟩ := Path.lead_dirname_join hdirectory isName_config
  have hfront : Path.lead directory = (frontOf directory).toList ++
      List.replicate k '/' := by
    rw [toList_frontOf]
    exact hlead
  refine ⟨?_, ⟨k, hfront⟩, fun path => ⟨_, Settings.selects_pattern _ path allowIgnore,
    Glob.matches_ofText_append_star⟩, ?_⟩
  · rw [load_everything, pattern_eq]
  · intro hset path hpath rules chosen rule hrule hsettings
    have hselects : rule.settings.selects path = .ok true := by
      rw [hsettings, Settings.selects_pattern]
      refine congrArg Except.ok (Glob.matches_ofText_append_star.mpr ?_)
      -- a source is below the directory, so the star takes what is left of its path
      obtain ⟨rest, hrest⟩ := lead_prefix_of_mem_sources hfs hpath
      refine ⟨frontOf directory, String.ofList (List.replicate k '/' ++ rest), ?_,
        matches_frontOf hdirectory hset⟩
      rw [← String.toList_inj, ← hrest, hfront, String.toList_append,
        String.toList_ofList, List.append_assoc]
    refine ⟨hselects, fun hchosen => ?_⟩
    rw [(Lint.selected_eq_ok.mp hchosen).1, List.mem_filter, Rule.isFor, hselects]
    exact ⟨hrule, rfl⟩

/-- A directory with a source in it. -/
def oneSource (name : String) : Files :=
  ⟨.directory (.cons name (.directory (.cons "m.py" (.file []) .nil)) .nil), []⟩

theorem oneSource_wellFormed {name : String} (h : IsName name) :
    (oneSource name).root.WellFormed :=
  ⟨h, rfl, ⟨isName_source, rfl, trivial, trivial⟩, trivial⟩

/-- A rule for everything below a configuration in a directory whose name has a star, an
opening bracket and a question mark. -/
def wholeRule : Rule :=
  { smallRule with settings := ⟨.list [.text (frontOf "/a*[?" ++ "*")],
    .list [], .bool true⟩ }

theorem mem_sources_of_find {name path : String}
    (hfind : (oneSource name).find path =
    .ok (.directory (.cons "m.py" (.file []) .nil))) :
    Path.join path "m.py" ∈ (oneSource name).sources path := by
  rw [Files.sources, hfind]
  show Path.join path "m.py" ∈ (if isSource "m.py" then [Path.join path "m.py"]
    else []) ++ []
  rw [isSource_source]
  simp

open scoped Standard

theorem everything_selects_wholeRule :
    Path.join "/a*[?" "m.py" ∈ (oneSource "a*[?").sources "/a*[?" ∧
      wholeRule.settings.selects (Path.join "/a*[?" "m.py") = .ok true := by
  have hname : IsName "a*[?" := by
    unfold IsName
    decide
  have habsolute : Path.isAbsolute "/a*[?" = true := Path.isAbsolute_iff.mpr (by decide)
  have hmem : Path.join "/a*[?" "m.py" ∈ (oneSource "a*[?").sources "/a*[?" :=
    mem_sources_of_find (Files.find_of_components habsolute rfl rfl)
  have hset : Glob.hasSet "/a*[?".toList = false := by decide
  have hsettings : wholeRule.settings = ⟨.list [.text (frontOf "/a*[?" ++ "*")], .list [],
    .bool true⟩ := rfl
  obtain ⟨-, -, -, hall⟩ :=
    everything_selects (oneSource_wellFormed hname) habsolute (.bool true)
  exact ⟨hmem,
    (hall hset _ hmem [wholeRule] [wholeRule] wholeRule List.mem_cons_self hsettings).1⟩

theorem everything_misses_set :
    "/a[b]/m.py" ∈ (oneSource "a[b]").sources "/a[b]" ∧
    Yaml.load ⟨.configuration, "/a[b]/.bellybutton.yml"⟩ "~+/*" = .ok (.text "/a[b]/*") ∧
    Settings.selects ⟨.list [.text "/a[b]/*"], .list [], .bool true⟩ "/a[b]/m.py" =
      .ok false := by
  have habsolute : Path.isAbsolute "/a[b]" = true := Path.isAbsolute_iff.mpr (by decide)
  have hmem : Path.join "/a[b]" "m.py" ∈ (oneSource "a[b]").sources "/a[b]" :=
    mem_sources_of_find (Files.find_of_components habsolute rfl rfl)
  have hdirname : Path.dirname "/a[b]/.bellybutton.yml" = "/a[b]" := by decide
  have hmatches : (Glob.Pattern.ofText "/a[b]/*").matches "/a[b]/m.py" = false := by
    decide
  refine ⟨?_, ?_, ?_⟩
  · rwa [Path.join_of_getLast? (by decide) (by decide) isName_source] at hmem
  · rw [load_everything, hdirname,
      Path.join_of_getLast? (by decide) (by decide) isName_star]
    rfl
  · rw [Settings.selects_pattern, hmatches]

/-! ### Patterns below a configuration -/

/-- **Patterns below a configuration are anchored to its directory.** What is written
behind the mark for that directory becomes a pattern with the directory in front, and
where nothing in the directory has a meaning in patterns, the pattern selects exactly
the paths that go on behind the directory with something that is selected by what was
written. -/
theorem below_selects [Host] {directory rest : String}
    (hdirectory : Path.isAbsolute directory = true)
    (hend : directory.toList.getLast? ≠ some '/')
    (hliteral : ∀ c ∈ directory.toList, Glob.IsLiteral c)
    (hrest : Path.isAbsolute rest = false) (allowIgnore : Value) :
    (Site.mk .configuration (directory ++ "/" ++ configName)).Makes "!glob" ("~+/" ++
      rest) (.text (directory ++ "/" ++ rest)) ∧
    (rest ≠ "" → rest.toList.head? ≠ some '\n' →
      Registry.configuration.plainTag ("~+/" ++ rest) = "!glob") ∧
    ∀ path, ∃ b, Settings.selects ⟨.list [.text (directory ++ "/" ++ rest)], .list [],
      allowIgnore⟩ path = .ok b ∧
      (b = true ↔ ∃ p, path = directory ++ "/" ++ p ∧
        Settings.selects ⟨.list [.text rest], .list [], allowIgnore⟩ p = .ok true) := by
  have hne : directory ≠ "" := by
    rintro rfl
    obtain ⟨t, ht⟩ := Path.isAbsolute_iff.mp hdirectory
    cases ht
  have htext : ("~+/" ++ rest).toList = '~' :: '+' :: '/' :: rest.toList := by
    rw [String.toList_append]
    rfl
  refine ⟨?_, fun hne' hbreak => plainTag_tilde htext (fun hnil =>
    hne' (String.toList_eq_nil_iff.mp hnil)) hbreak, fun path => ?_⟩
  · -- the text is taken from the directory of the configuration, without its sign
    have hmakes := Site.makes_glob (directory ++ "/" ++ configName) ("~+/" ++ rest)
    have hjoin : Path.join directory rest = directory ++ "/" ++ rest := by
      rw [← String.toList_inj, Path.toList_join_of_not_isAbsolute hrest,
        Path.lead_of_getLast? (fun hnil => hne (String.toList_eq_nil_iff.mp hnil)) hend]
      simp
    rwa [htext, Path.dirname_append hne hend isName_config.2, List.drop_succ_cons,
      List.drop_succ_cons, List.drop_succ_cons, List.drop_zero,
      String.ofList_toList, hjoin] at hmakes
  · -- the front holds no sign of a pattern, so it matches itself only
    have hfront : ∀ c ∈ (directory ++ "/").toList, Glob.IsLiteral c := by
      rw [String.toList_append]
      exact List.forall_mem_append.mpr ⟨hliteral,
        List.forall_mem_singleton.mpr ⟨by decide, by decide, by decide⟩⟩
    refine ⟨_, Settings.selects_pattern _ path allowIgnore,
      (Glob.matches_ofText_append hfront).trans ?_⟩
    refine exists_congr fun p => and_congr_right fun _ => ?_
    rw [Settings.selects_pattern, Except.ok.injEq]

/-- A set, a star and a lone bracket behind a directory whose name has a closing one. -/
theorem below_selects_brackets :
    Settings.selects ⟨.list [.text ("/a]!b" ++ "/" ++ "[!x-z]*.py[")], .list [],
      .bool true⟩ "/a]!b/lib/m.py[" = .ok true ∧
      Settings.selects ⟨.list [.text ("/a]!b" ++ "/" ++ "[!x-z]*.py[")], .list [],
        .bool true⟩ "/a]!b/x.py[" = .ok false := by
  have hdirectory : Path.isAbsolute "/a]!b" = true := Path.isAbsolute_iff.mpr (by decide)
  have hrest : Path.isAbsolute "[!x-z]*.py[" = false := by
    rw [Bool.eq_false_iff]
    exact fun h => absurd (Path.isAbsolute_iff.mp h) (by decide)
  have hliteral : ∀ c ∈ "/a]!b".toList, Glob.IsLiteral c := by
    simp [Glob.IsLiteral]
  have hfits : (Glob.Pattern.ofText "[!x-z]*.py[").matches "lib/m.py[" = true := by decide
  have hmisses : (Glob.Pattern.ofText "[!x-z]*.py[").matches "x.py[" = false := by decide
  obtain ⟨-, -, hselects⟩ :=
    below_selects hdirectory (by decide) hliteral hrest (.bool true)
  constructor
  · obtain ⟨b, hb, hiff⟩ := hselects "/a]!b/lib/m.py["
    have htrue : b = true :=
      hiff.mpr ⟨"lib/m.py[", rfl, by rw [Settings.selects_pattern, hfits]⟩
    rw [hb, htrue]
  · obtain ⟨b, hb, hiff⟩ := hselects "/a]!b/x.py["
    -- the only rest of this path is not matched
    have hfalse : b ≠ true := by
      intro htrue
      obtain ⟨p, hp, hselected⟩ := hiff.mp htrue
      obtain rfl : "x.py[" = p := by
        rw [← String.toList_inj] at hp ⊢
        simpa using hp
      rw [Settings.selects_pattern, hmisses] at hselected
      cases hselected
    rw [hb, Bool.eq_false_iff.mpr hfalse]

end Project

end RuleLint
