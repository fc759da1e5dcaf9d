/-
RuleLint/Proofs/Template.lean

The configuration of a new project is read as what it was made for.

Its lines are named settings, which ones hold by default, and a rule (`layout`).  So its
tokens are known (`tokenKinds_layoutOf`), and from them its value
(`valueOf_configuration`): the patterns are paths below the directory of the
configuration, and the name of the default settings stands for the settings that have
it.  The rule passes the checks of its clauses, whatever directories of tests there are.

Main result: `load_configuration`.
-/
import RuleLint.Proofs.Composing
import RuleLint.Proofs.Layout
import RuleLint.Proofs.Samples
import RuleLint.Proofs.Sources
import RuleLint.Template

namespace RuleLint.Template

open Yaml Cursor

/-! ### Lines -/

/-- Named settings of the configuration; `gap` counts the spaces behind the word for
what is left out. -/
structure Section where
  name : String
  included : List String
  excluded : List String
  gap : Nat

/-- A pattern in a list of settings. -/
def itemLine (pattern : String) : Line := ⟨6, .item pattern, 0⟩

def Section.layout (s : Section) : List Line :=
  ⟨2, .field s.name (.marked s.name "settings"), 0⟩ ::
  ⟨4, .field "included" (.nothing 0), 0⟩ :: (s.included.map itemLine ++
  ⟨4, .field "excluded" (.nothing s.gap), 0⟩ :: (s.excluded.map itemLine ++
  [⟨4, .field "allow_ignore" (.plain "yes"), 1⟩]))

/-- The settings that hold by default: the directories of tests are left out. -/
def chosen (dirs : List String) : Section where
  name := if dirs.isEmpty then "all_files" else "excluding_tests"
  included := [everything]
  excluded := dirs.map within ++ [testRuns]
  gap := 0

/-- The settings in front of them. -/
def others (dirs : List String) : List Section :=
  if dirs.isEmpty then []
  else [⟨"all_files", [everything], [testRuns], 0⟩,
    ⟨"tests_only", dirs.map within, [testRuns], 1⟩]

/-- The lines of the rule. -/
def ruleLayout : List Line :=
  [⟨0, .field "rules" (.nothing 0), 0⟩,
   ⟨2, .field "ExampleRule" (.nothing 0), 0⟩,
   ⟨4, .field "description" (.quoted "Empty module."), 0⟩,
   ⟨4, .field "expr" (.plain "/Module/body[not(./*)]"), 0⟩,
   ⟨4, .field "example" (.quoted ""), 0⟩,
   ⟨4, .field "instead" (.block 6 "\"\"\"This module has a docstring.\"\"\""), 0⟩]

/-- The lines of a configuration with settings, of which those with a name hold by
default. -/
def layoutOf (ss : List Section) (name : String) : List Line :=
  ⟨0, .field "settings" (.nothing 0), 0⟩ :: (ss.flatMap Section.layout ++
    ⟨0, .field "default_settings" (.reference name), 1⟩ :: ruleLayout)

def layout (dirs : List String) : List Line :=
  layoutOf (others dirs ++ [chosen dirs]) (chosen dirs).name

/-- The texts of the lines of named settings, with a blank line behind them. -/
def Section.texts (s : Section) : List String :=
  settingsLines s.name s.included s.excluded (String.ofList (spaces s.gap)) ++ [""]

/-- The lines of a template: the sections, the one that is the default last, and the
rules. -/
theorem lines_eq (dirs : List String) :
    lines dirs = "settings:" :: ((others dirs ++ [chosen dirs]).flatMap Section.texts ++
      ("default_settings: *" ++ (chosen dirs).name) :: "" :: ruleLines) := by
  have hnone : String.ofList (spaces 0) = "" := rfl
  have hone : String.ofList (spaces 1) = " " := rfl
  cases dirs with
  | nil => simp [lines, others, chosen, Section.texts, hnone]
  | cons d ds => simp [lines, testLines, others, chosen, Section.texts, hnone, hone]

/-- The characters of a text and the end of its line. -/
def withFeed (text : String) : List Char := text.toList ++ ['\n']

/-- The lines of a section are those of its layout. -/
theorem flatMap_texts (s : Section) :
    s.texts.flatMap withFeed = s.layout.flatMap Line.chars := by
  simp [Section.texts, settingsLines, Section.layout, withFeed, Line.chars, Entry.chars,
    Tail.chars, List.flatMap_map, item, itemLine, spaces,
    feeds]

/-- And so are the lines of the rules. -/
theorem flatMap_ruleLines :
    ruleLines.flatMap withFeed = ruleLayout.flatMap Line.chars := by
  simp [ruleLines, ruleLayout, withFeed, Line.chars, Entry.chars, Tail.chars,
    spaces, feeds]

/-- A template is its lines, each with a line feed. -/
theorem toList_lines (dirs : List String) :
    (configuration dirs).toList = (lines dirs).flatMap withFeed := by
  simp [configuration, List.flatMap_map]
  rfl

/-- The configuration is written as it is laid out. -/
theorem toList_configuration (dirs : List String) :
    (configuration dirs).toList = charsOf (layout dirs) := by
  have hfirst : withFeed "settings:" =
    Line.chars ⟨0, .field "settings" (.nothing 0), 0⟩ := rfl
  have hdefault : withFeed ("default_settings: *" ++ (chosen dirs).name) ++ withFeed "" =
      Line.chars ⟨0, .field "default_settings" (.reference (chosen dirs).name), 1⟩ := by
    simp [withFeed, Line.chars, Entry.chars, Tail.chars, spaces, feeds]
  rw [toList_lines, lines_eq, charsOf_eq_flatMap, layout, layoutOf]
  simp [List.flatMap_assoc, flatMap_texts, flatMap_ruleLines, ← hfirst, ← hdefault]

/-! ### Names of directories -/

/-- ASCII letters, digits, and what else is common in the names of directories. -/
def isDirectoryChar (c : Char) : Bool := c.isAlphanum || c == '_' || c == '-' || c == '.'

/-- What a directory of tests may be called. -/
structure IsDirectory (d : String) : Prop where
  nonempty : d ≠ ""
  chars : ∀ c ∈ d.toList, isDirectoryChar c = true

/-- The characters of a directory that is picked stand for themselves in a plain
scalar. -/
theorem isPlainChar_of_isDirectoryChar {c : Char} (h : isDirectoryChar c = true) :
    isPlainChar c = true := by
  have hinline : isInline c = true := isInline_of_class (by decide) h
  have hblank : isBlankOrEnd c = false := by
    rw [Bool.eq_false_iff]
    intro hblank
    simp only [isBlankOrEnd, isSpaceOrEnd, isEnd, isBreak, Bool.or_eq_true, beq_iff_eq]
      at hblank
    rcases hblank with rfl | rfl | rfl | ((((rfl | rfl) | rfl) | rfl) | rfl)
      <;> revert h <;> decide
  have hcolon : c ≠ ':' := by
    rintro rfl
    revert h
    decide
  simp [isPlainChar, hinline, hblank, hcolon]

/-- They are allowed in a document, too. -/
theorem isAllowed_of_isDirectoryChar {c : Char} (h : isDirectoryChar c = true) :
    isAllowed c = true := by
  have hrange : ' ' ≤ c ∧ c ≤ '~' := by
    simp only [isDirectoryChar, Char.isAlphanum, Char.isAlpha, Char.isUpper, Char.isLower,
      Char.isDigit, Bool.or_eq_true, Bool.and_eq_true,
      decide_eq_true_eq, beq_iff_eq] at h
    rcases h with ((((h | h) | h) | rfl) | rfl) | rfl
    · exact ⟨le_trans (show ' ' ≤ 'A' by decide) h.1,
        le_trans h.2 (show 'Z' ≤ '~' by decide)⟩
    · exact ⟨le_trans (show ' ' ≤ 'a' by decide) h.1,
        le_trans h.2 (show 'z' ≤ '~' by decide)⟩
    · exact ⟨le_trans (show ' ' ≤ '0' by decide) h.1,
        le_trans h.2 (show '9' ≤ '~' by decide)⟩
    all_goals decide
  simp [isAllowed, hrange]

/-- What is picked is the name of an entry of a directory. -/
theorem isName_of_isDirectory {d : String} (h : IsDirectory d) : RuleLint.IsName d := by
  refine ⟨h.nonempty, fun hslash => ?_⟩
  have := h.chars '/' hslash
  revert this
  decide

/-! ### Patterns -/

/-- How a pattern below the directory of the configuration is written. -/
def IsPattern (p : String) : Prop :=
  ∃ rest, p.toList = '~' :: '+' :: '/' :: rest ∧ rest ≠ [] ∧ ∀ c ∈ rest, isPlainChar c =
    true ∧ isAllowed c = true

variable {p : String}

/-- A pattern is a plain scalar. -/
theorem IsPattern.isPlain (h : IsPattern p) : IsPlain p.toList := by
  obtain ⟨rest, hp, -, hchars⟩ := h
  refine ⟨?_, '~', '+' :: '/' :: rest, hp, rfl, by decide⟩
  rw [hp]
  simpa using ⟨rfl, rfl, rfl, fun c hc => (hchars c hc).1⟩

theorem IsPattern.isAllowed (h : IsPattern p) : IsAllowed p := by
  obtain ⟨rest, hp, -, hchars⟩ := h
  rw [IsAllowed, hp]
  simpa using ⟨rfl, rfl, rfl, fun c hc => (hchars c hc).2⟩

/-- A pattern starts with `~+/`, so its tag is the one for patterns. -/
theorem IsPattern.plainTag (h : IsPattern p) :
    Registry.configuration.plainTag p = "!glob" := by
  obtain ⟨rest, hp, hne, hchars⟩ := h
  refine plainTag_tilde hp hne fun hbreak => ?_
  cases (hchars _ (List.mem_of_head? hbreak)).1

theorem isPattern_everything : IsPattern everything :=
  ⟨['*'], rfl, by decide, by simp; decide⟩

theorem isPattern_testRuns : IsPattern testRuns :=
  ⟨".tox/*".toList, rfl, by decide, by simp; decide⟩

/-- The pattern for a directory is one, whatever its name. -/
theorem isPattern_within {d : String} (h : IsDirectory d) : IsPattern (within d) := by
  refine ⟨d.toList ++ ['/', '*'], ?_, by simp, ?_⟩
  · rw [within, String.toList_append, Path.toList_join isName_star,
      Path.lead_of_isName (isName_of_isDirectory h)]
    simp
  · intro c hc
    rcases List.mem_append.mp hc with hc | hc
    · have hchar := h.chars c hc
      exact ⟨isPlainChar_of_isDirectoryChar hchar, isAllowed_of_isDirectoryChar hchar⟩
    · have hends : ∀ c ∈ ['/', '*'], isPlainChar c = true ∧ Yaml.isAllowed c = true := by
        simp; decide
      exact hends c hc

/-- The path that a pattern stands for in a configuration with a name. -/
def pathOf (name p : String) : String :=
  Path.join (Path.dirname name) (String.ofList (p.toList.drop 3))

/-- The pattern of a directory matches what is in it, seen from the configuration. -/
theorem pathOf_within (name : String) {d : String} (h : IsDirectory d) :
    pathOf name (within d) = Path.join (Path.join (Path.dirname name) d) "*" := by
  have hrest : (within d).toList.drop 3 = (Path.join d "*").toList := by
    rw [within, String.toList_append]
    rfl
  rw [pathOf, hrest, String.ofList_toList,
    Path.join_join (isName_of_isDirectory h) isName_star]

/-! ### Scalars -/

/-- The site of a configuration with a name. -/
def siteOf (name : String) : Site := ⟨.configuration, name⟩

/-- The words for the fields of the configuration. -/
def words : List String :=
  ["settings", "default_settings", "rules", "all_files", "tests_only", "excluding_tests",
    "included", "excluded", "allow_ignore", "ExampleRule",
   "description", "expr", "example", "instead"]

/-- No word of a template is taken for a pattern, a number or a truth value. -/
theorem plainTag_word {w : String} (h : w ∈ words) :
    Registry.configuration.plainTag w = textTag := by
  have hall : words.all (fun w => (standardType? w).isNone && !Cue.glob.fits w &&
      !Cue.path.fits w) = true := by
    unfold standardType?
    simp only [String.contains_char_eq]
    decide +kernel
  have hw := List.all_eq_true.mp hall w h
  simp only [Bool.and_eq_true, Option.isNone_iff_eq_none, Bool.not_eq_true'] at hw
  rw [Registry.plainTag, hw.1.1]
  simp [Registry.configuration, hw.1.2, hw.2]

/-- Every word of a template is a plain scalar that is short enough for a key. -/
theorem isPlain_word {w : String} (h : w ∈ words) :
    IsPlain w.toList ∧ w.toList.length ≤ 1024 := by
  have hall : words.all (fun w => decide (IsPlain w.toList) && w.toList.length ≤ 1024) =
    true := by decide
  simpa using List.all_eq_true.mp hall w h

variable (name : String) {p : String}

/-- Whether a text was read as the query of the rule. -/
def isEmptyQuery : Except XPath.Error XPath.Query → Bool
  | .ok ⟨"/Module/body[not(./*)]", .step (.step .top .child (.named "Module") .nil) .child
      (.named "body")
      (.cons (.call none "not" (.cons (.step .here .child .any .nil) .nil)) .nil)⟩ => true
  | _ => false

/-- A result that passes the check is the query of the example. -/
theorem eq_of_isEmptyQuery {r : Except XPath.Error XPath.Query}
    (h : isEmptyQuery r = true) : r = .ok Rule.emptyQuery := by
  unfold isEmptyQuery at h
  split at h
  · rfl
  · cases h

section Scalars

variable [Host]

/-- A pattern is made a path below the directory of the configuration. -/
theorem makes_pattern (h : IsPattern p) :
    (siteOf name).Makes (Compose.scalarTag (siteOf name).registry.plainTag none p true) p
      (.text (pathOf name p)) := by
  show (siteOf name).Makes (Registry.configuration.plainTag p) p (.text (pathOf name p))
  rw [h.plainTag]
  exact Site.makes_glob name p

/-- A quoted scalar is made the text it is. -/
theorem makes_quoted (text : String) :
    (siteOf name).Makes (Compose.scalarTag (siteOf name).registry.plainTag none text
      false) text (.text text) :=
  ⟨.text, show Registry.configuration.maker? textTag = some .text by decide, rfl,
    fun _ _ _ hcontent => Build.make_text_of_scalar hcontent⟩

theorem makes_yes :
    (siteOf name).Makes (Compose.scalarTag (siteOf name).registry.plainTag none "yes"
      true) "yes" (.bool true) := by
  have htag : standardType? "yes" = some "bool" := by
    unfold standardType?
    simp only [String.contains_char_eq]
    decide +kernel
  refine ⟨.bool, ?_, rfl, fun sub i w hcontent => ?_⟩
  · show Registry.configuration.maker? (Registry.configuration.plainTag "yes") =
      some .bool
    rw [Registry.plainTag, htag]
    decide
  · rw [Build.make, run_bind_of_ok (Build.text_of_scalar hcontent)]
    rfl

/-- The query of the example is read as one, since it starts with a slash. -/
theorem makes_query :
    (siteOf name).Makes (Compose.scalarTag (siteOf name).registry.plainTag none
      "/Module/body[not(./*)]" true) "/Module/body[not(./*)]"
      (.xpath Rule.emptyQuery) := by
  -- no standard type looks like it, so the cues are asked, and that for queries fits
  have htag : standardType? "/Module/body[not(./*)]" = none := by
    unfold standardType?
    simp only [String.contains_char_eq]
    decide +kernel
  have hquery : XPath.Query.ofText "/Module/body[not(./*)]" = .ok Rule.emptyQuery :=
    eq_of_isEmptyQuery (by decide +kernel)
  refine ⟨.xpath, ?_, rfl, fun sub i w hcontent => ?_⟩
  · show Registry.configuration.maker?
      (Registry.configuration.plainTag "/Module/body[not(./*)]") = some .xpath
    rw [Registry.plainTag, htag]
    decide
  · rw [Build.make, Build.toldAtLine, run_bind_of_ok (Build.text_of_scalar hcontent),
      hquery]
    rfl

end Scalars

/-! ### Fitting -/

/-- What named settings need to be read back: a name that is a word, and patterns for
both lists. -/
structure Section.WellFormed (s : Section) : Prop where
  name : s.name ∈ words
  included : s.included ≠ [] ∧ ∀ p ∈ s.included, IsPattern p
  excluded : s.excluded ≠ [] ∧ ∀ p ∈ s.excluded, IsPattern p

variable {s : Section} {ss : List Section} {ls : List Line} {blocks : List Nat}
    {dirs : List String}

theorem isName_word {w : String} (h : w ∈ words) : Yaml.IsName w.toList := by
  have hall : words.all (fun w => decide (Yaml.IsName w.toList)) = true := by decide
  simpa using List.all_eq_true.mp hall w h

/-- A field whose name is a word of the template fits as soon as its tail does. -/
theorem fits_field {w : String} (hw : w ∈ words) {column next : Nat} {tail : Tail}
    (htail : tail.Fits column next) :
    (Entry.field w tail).Fits column next :=
  ⟨(isPlain_word hw).1, (isPlain_word hw).2, htail⟩

/-- A section fits in front of lines that are no deeper than its fields. -/
theorem Section.WellFormed.fit (h : s.WellFormed) (hls : Fit ls)
    (hcolumn : columnOf ls ≤ 4) : Fit (s.layout ++ ls) := by
  have hincluded : ∀ p ∈ s.included, IsPlain p.toList :=
    fun p hp => (h.included.2 p hp).isPlain
  have hexcluded : ∀ p ∈ s.excluded, IsPlain p.toList :=
    fun p hp => (h.excluded.2 p hp).isPlain
  rw [Section.layout]
  simp only [List.cons_append, List.append_assoc, List.nil_append]
  refine ⟨fits_field h.name ⟨isName_word h.name, by decide⟩,
    fits_field (by decide) trivial, ?_⟩
  refine fit_items hincluded ⟨fits_field (by decide) trivial, ?_⟩ (show 4 ≤ 6 by decide)
  refine fit_items hexcluded ⟨fits_field (by decide) ⟨by decide, hcolumn⟩,
    hls⟩ (show 4 ≤ 6 by decide)

/-- So do several, by induction on them. -/
theorem fit_sections (hss : ∀ s ∈ ss, s.WellFormed) (hls : Fit ls)
    (hcolumn : columnOf ls ≤ 4) : Fit (ss.flatMap Section.layout ++ ls) := by
  induction ss with
  | nil => exact hls
  | cons s ss ih =>
      obtain ⟨hs, hss⟩ := List.forall_mem_cons.mp hss
      rw [List.flatMap_cons, List.append_assoc]
      refine hs.fit (ih hss) ?_
      cases ss with
      | nil => exact hcolumn
      | cons _ _ => exact (show 2 ≤ 4 by decide)

theorem fit_ruleLayout : Fit ruleLayout :=
  ⟨fits_field (by decide) trivial, fits_field (by decide) trivial,
    fits_field (by decide) (List.all_eq_true.mp (by decide)),
    fits_field (by decide) ⟨by decide, by decide⟩,
      fits_field (by decide) (List.all_eq_true.mp (by decide)),
    fits_field (by decide) ⟨by decide, by decide, by decide⟩, trivial⟩

/-- The lines of a template fit, whatever its sections are. -/
theorem fit_layoutOf {name : String} (hname : name ∈ words)
    (hss : ∀ s ∈ ss, s.WellFormed) : Fit (layoutOf ss name) :=
  ⟨fits_field (by decide) trivial,
    fit_sections hss ⟨fits_field (by decide) (isName_word hname), fit_ruleLayout⟩
    (Nat.zero_le 4)⟩

/-! ### Tokens -/

/-- The tokens of a field with a value, and what stands behind it. -/
def fieldKinds (w : String) (ks rest : List TokenKind) : List TokenKind :=
  .key :: .scalar w true :: .value :: (ks ++ rest)

/-- The tokens of a list of patterns. -/
def listKinds (patterns : List String) : List TokenKind :=
  .blockSequenceStart :: (itemKinds patterns ++ [.blockEnd])

/-- The tokens of named settings, behind their name. -/
def Section.kinds (s : Section) : List TokenKind :=
  .anchor s.name :: .tag (some "!") "settings" :: .blockMappingStart ::
    fieldKinds "included" (listKinds s.included)
      (fieldKinds "excluded" (listKinds s.excluded)
      (fieldKinds "allow_ignore" [.scalar "yes" true] [.blockEnd]))

/-- The tokens of all named settings. -/
def sectionKinds (ss : List Section) : List TokenKind :=
  .blockMappingStart :: ss.foldr (fun s rest =>
    fieldKinds s.name s.kinds rest) [.blockEnd]

/-- The tokens of the parts of the rule. -/
def partKinds : List TokenKind :=
  .blockMappingStart :: fieldKinds "description" [.scalar "Empty module." false]
    (fieldKinds "expr" [.scalar "/Module/body[not(./*)]" true]
      (fieldKinds "example" [.scalar "" false]
      (fieldKinds "instead" [.scalar "\"\"\"This module has a docstring.\"\"\"\n" false]
        [.blockEnd])))

/-- A field at the column of the innermost block goes on with it. -/
theorem tokenKinds_field (column : Nat) (w : String) (tail : Tail) (n : Nat) :
    tokenKinds (⟨column, .field w tail, n⟩ :: ls) (column :: blocks) =
      fieldKinds w tail.kinds (tokenKinds ls (column :: blocks)) :=
  tokenKinds_same

/-- A field at a deeper column opens a block. -/
theorem tokenKinds_deeperField {column : Nat} (h : opensBlock column blocks = true)
    (w : String) (tail : Tail) (n : Nat) :
    tokenKinds (⟨column, .field w tail, n⟩ :: ls) blocks
      = .blockMappingStart ::
        fieldKinds w tail.kinds (tokenKinds ls (column :: blocks)) := by
  rw [← tokenKinds_field column w tail n]
  exact tokenKinds_open h

/-- Patterns between two fields of settings. -/
theorem tokenKinds_list {patterns : List String} (h : patterns ≠ [])
    (entry : Entry) (n : Nat) :
    tokenKinds (patterns.map itemLine ++ ⟨4, entry, n⟩ :: ls) (4 :: blocks)
      = listKinds patterns ++ tokenKinds (⟨4, entry, n⟩ :: ls) (4 :: blocks) := by
  have hitems := @tokenKinds_items (⟨4, entry, n⟩ :: ls) (4 :: blocks) 6 patterns
    (show 4 < 6 by decide)
  cases patterns with
  | nil => exact absurd rfl h
  | cons p ps =>
      have hopen := @tokenKinds_open (itemLine p) (ps.map itemLine ++ ⟨4, entry, n⟩ :: ls)
        (4 :: blocks) (by simp [itemLine, opensBlock])
      rw [listKinds, List.cons_append, List.append_assoc, List.singleton_append, ← hitems]
      exact hopen

/-- The tokens of a section are its own, then those of the lines behind it. -/
theorem tokenKinds_section (h : s.WellFormed) (hls : columnOf ls ≤ 2) :
    tokenKinds (s.layout ++ ls) (2 :: blocks) =
      fieldKinds s.name s.kinds (tokenKinds ls (2 :: blocks)) := by
  have hclose : tokenKinds ls (4 :: 2 :: blocks) = .blockEnd ::
      tokenKinds ls (2 :: blocks) :=
    tokenKinds_close (Nat.lt_of_le_of_lt hls (by decide))
  rw [Section.layout]
  simp only [List.cons_append, List.append_assoc, List.nil_append]
  rw [tokenKinds_field, tokenKinds_deeperField (by simp [opensBlock]),
    tokenKinds_list h.included.1, tokenKinds_field,
    tokenKinds_list h.excluded.1, tokenKinds_field, hclose]
  simp [Section.kinds, Tail.kinds, fieldKinds]

/-- The tokens of all sections, with the block that they are in. -/
theorem tokenKinds_sections (hss : ∀ s ∈ ss, s.WellFormed) (hls : columnOf ls = 0) :
    .blockMappingStart :: tokenKinds (ss.flatMap Section.layout ++ ls) [2, 0] =
      sectionKinds ss ++ tokenKinds ls [0] := by
  rw [sectionKinds, List.cons_append]
  refine congrArg _ ?_
  induction ss with
  | nil => exact tokenKinds_close (show columnOf ls < 2 by omega)
  | cons s ss ih =>
      obtain ⟨hs, hss⟩ := List.forall_mem_cons.mp hss
      rw [List.flatMap_cons, List.append_assoc, tokenKinds_section hs, ih hss]
      · simp [fieldKinds]
      · cases ss with
        | nil => exact hls.trans_le (by decide)
        | cons _ _ => exact Nat.le_refl 2

/-- The tokens of a template: three fields in a block. -/
theorem tokenKinds_layoutOf (name : String) (hss : ∀ s ∈ ss, s.WellFormed)
    (hne : ss ≠ []) :
    tokenKinds (layoutOf ss name) [] = .blockMappingStart ::
      fieldKinds "settings" (sectionKinds ss)
      (fieldKinds "default_settings" [.alias name]
        (fieldKinds "rules" (.blockMappingStart :: fieldKinds "ExampleRule" partKinds
          [.blockEnd]) [.blockEnd])) := by
  -- the rules are the same in every template
  have hrule : tokenKinds ruleLayout [0]
      = fieldKinds "rules" (.blockMappingStart :: fieldKinds "ExampleRule" partKinds
        [.blockEnd]) [.blockEnd] := by decide
  have hsections := tokenKinds_sections hss
    (show columnOf (⟨0, .field "default_settings" (.reference name), 1⟩ :: ruleLayout) = 0
      from rfl)
  -- the first section opens the block that all of them are in
  obtain ⟨s, ss, rfl⟩ := List.exists_cons_of_ne_nil hne
  have hopen (ls : List Line) : tokenKinds (s.layout ++ ls) [0] = .blockMappingStart ::
      tokenKinds (s.layout ++ ls) [2, 0] :=
    tokenKinds_open rfl
  rw [List.flatMap_cons, List.append_assoc, ← hopen] at hsections
  rw [layoutOf, tokenKinds_deeperField rfl, List.flatMap_cons, List.append_assoc,
    hsections, tokenKinds_field, hrule]
  rfl

/-! ### Values -/

section Values

variable [Host] {known known₁ known₂ : Anchors} {ks rest : List TokenKind} {v : Value}
    {es : List (String × Value)} {w : String}

/-- A mapping with fields. -/
def mapOf (fields : List (String × Value)) : Value :=
  .map (fields.map fun f => (.text f.1, f.2))

/-- The paths that patterns stand for. -/
def pathsOf (name : String) (patterns : List String) : Value :=
  .list (patterns.map fun p => .text (pathOf name p))

/-- The settings that a section stands for. -/
def Section.value (name : String) (s : Section) : Value :=
  .settings (pathsOf name s.included) (pathsOf name s.excluded) (.bool true)

/-- The anchors that are known behind sections. -/
def anchorsOf (name : String) (ss : List Section) (known : Anchors) : Anchors :=
  ss.foldl (fun known s => (s.name, some (s.value name)) :: known) known

/-- A field denotes an entry in front of those behind it. -/
theorem denotesEntries_field (hw : w ∈ words)
    (h : Denotes (siteOf name) known ks v known₁)
    (h' : DenotesEntries (siteOf name) known₁ rest es known₂) :
    DenotesEntries (siteOf name) known (fieldKinds w ks rest) ((w, v) :: es) known₂ :=
  denotesEntries_cons (show Registry.configuration.maker? textTag = some .text by decide)
    (plainTag_word hw) h h'

/-- Fields of different names denote a mapping. -/
theorem denotes_fields (hnames : (es.map (·.1)).Nodup)
    (h : DenotesEntries (siteOf name) known ks es known₁) :
    Denotes (siteOf name) known (.blockMappingStart :: ks) (mapOf es) known₁ :=
  denotes_map (show Registry.configuration.maker? mappingTag =
    some .map by decide) hnames h

/-- A list of patterns denotes the paths. -/
theorem denotes_patterns {patterns : List String} (h : ∀ p ∈ patterns, IsPattern p) :
    Denotes (siteOf name) known (listKinds patterns) (pathsOf name patterns) known := by
  refine denotes_list (show Registry.configuration.maker? sequenceTag =
    some .list by decide) ?_
  induction patterns with
  | nil => exact denotesItems_nil
  | cons p ps ih =>
      obtain ⟨hp, hps⟩ := List.forall_mem_cons.mp h
      have hitems := denotesItems_cons (denotes_scalar (makes_pattern name hp)) (ih hps)
      exact hitems

/-- A section denotes its settings, and its anchor stands for them from then on. -/
theorem denotes_section (h : s.WellFormed) (hname : known.lookup s.name = none) :
    Denotes (siteOf name) known s.kinds (s.value name)
      ((s.name, some (s.value name)) :: known) :=
  denotes_settings (show Registry.configuration.maker? "!settings" =
    some .settings by decide) hname
    (denotesEntries_field name (by decide) (denotes_patterns name h.included.2)
      (denotesEntries_field name (by decide) (denotes_patterns name h.excluded.2)
        (denotesEntries_field name (by decide) (denotes_scalar (makes_yes name))
          denotesEntries_nil)))

/-- The sections denote the entries of `settings`, and every one has its anchor. -/
theorem denotesEntries_sections (hss : ∀ s ∈ ss, s.WellFormed)
    (hnames : (ss.map (·.name)).Nodup)
    (hknown : ∀ s ∈ ss, known.lookup s.name = none) :
    DenotesEntries (siteOf name) known
      (ss.foldr (fun s rest => fieldKinds s.name s.kinds rest) [.blockEnd])
      (ss.map fun s => (s.name, s.value name)) (anchorsOf name ss known) := by
  induction ss generalizing known with
  | nil => exact denotesEntries_nil
  | cons s ss ih =>
      obtain ⟨hs, hss⟩ := List.forall_mem_cons.mp hss
      obtain ⟨hfree, hknown⟩ := List.forall_mem_cons.mp hknown
      obtain ⟨hother, hnames⟩ := List.nodup_cons.mp hnames
      refine denotesEntries_field name hs.name (denotes_section name hs hfree)
        (ih hss hnames fun t ht => ?_)
      have hne : t.name ≠ s.name := fun heq => hother (List.mem_map.mpr ⟨t, ht, heq⟩)
      rw [List.lookup_cons, beq_false_of_ne hne]
      exact hknown t ht

/-- They do so from no anchors at all. -/
theorem denotes_sections (hss : ∀ s ∈ ss, s.WellFormed)
    (hnames : (ss.map (·.name)).Nodup) :
    Denotes (siteOf name) [] (sectionKinds ss)
      (mapOf (ss.map fun s => (s.name, s.value name))) (anchorsOf name ss []) :=
  denotes_fields name (by rwa [List.map_map]) (denotesEntries_sections name hss hnames
    fun _ _ => rfl)

/-- The fields of the rule. -/
def ruleFields : List (String × Value) :=
  [("description", .text "Empty module."), ("expr", .xpath Rule.emptyQuery),
    ("example", .text ""),
   ("instead", .text "\"\"\"This module has a docstring.\"\"\"\n")]

/-- The fields of the example denote what it is made of. -/
theorem denotes_parts : Denotes (siteOf name) known partKinds (mapOf ruleFields) known :=
  denotes_fields name (by decide)
    (denotesEntries_field name (by decide) (denotes_scalar (makes_quoted name _))
      (denotesEntries_field name (by decide) (denotes_scalar (makes_query name))
        (denotesEntries_field name (by decide) (denotes_scalar (makes_quoted name _))
          (denotesEntries_field name (by decide) (denotes_scalar (makes_quoted name _))
            denotesEntries_nil))))

/-- The fields of a configuration with settings, of which some hold by default. -/
def fieldsOf (ss : List Section) (byDefault : Value) : List (String × Value) :=
  [("settings", mapOf (ss.map fun s => (s.name, s.value name))),
    ("default_settings", byDefault),
   ("rules", mapOf [("ExampleRule", mapOf ruleFields)])]

/-- A template denotes its fields: the alias at `default_settings` stands for the
section that comes last. -/
theorem denotes_layoutOf {last : Section} (hss : ∀ s ∈ ss ++ [last], s.WellFormed)
    (hnames : ((ss ++ [last]).map (·.name)).Nodup) :
    Denotes (siteOf name) [] (tokenKinds (layoutOf (ss ++ [last]) last.name) [])
      (mapOf (fieldsOf name (ss ++ [last]) (last.value name)))
      (anchorsOf name (ss ++ [last]) []) := by
  -- anchors are looked up from the last one, and the last section is the one by default
  have hlast : (anchorsOf name (ss ++ [last]) []).lookup last.name =
      some (some (last.value name)) := by
    rw [anchorsOf, List.foldl_append]
    exact List.lookup_cons_self
  rw [tokenKinds_layoutOf _ hss (by simp)]
  have hfields : ((fieldsOf name (ss ++ [last]) (last.value name)).map (·.1)).Nodup :=
    show ["settings", "default_settings", "rules"].Nodup by decide
  exact denotes_fields name hfields
    (denotesEntries_field name (by decide) (denotes_sections name hss hnames)
      (denotesEntries_field name (by decide) (denotes_alias hlast)
        (denotesEntries_field name (by decide)
          (denotes_fields name (List.nodup_singleton _)
            (denotesEntries_field name (by decide) (denotes_parts name)
            denotesEntries_nil))
          denotesEntries_nil)))

end Values

/-! ### Characters -/

/-- What is allowed can be put together. -/
theorem isAllowed_append {a b : String} (ha : IsAllowed a) (hb : IsAllowed b) :
    IsAllowed (a ++ b) := by
  rw [IsAllowed, String.toList_append]
  exact List.forall_mem_append.mpr ⟨ha, hb⟩

theorem isAllowed_word {w : String} (h : w ∈ words) : IsAllowed w := by
  have hall : words.all (fun w => decide (IsAllowed w)) = true := by decide +kernel
  simpa using List.all_eq_true.mp hall w h

/-- The lines of a section are made of allowed characters. -/
theorem Section.WellFormed.isAllowed (h : s.WellFormed) : ∀ t ∈ s.texts, IsAllowed t := by
  have hname : IsAllowed s.name := isAllowed_word h.name
  have hgap : IsAllowed (String.ofList (spaces s.gap)) := by
    intro c hc
    rw [String.toList_ofList] at hc
    rw [List.eq_of_mem_replicate hc]
    rfl
  -- the items of both lists are patterns behind a dash
  have hitem : ∀ ps : List String, (∀ p ∈ ps, IsPattern p) → ∀ t ∈ ps.map item,
      IsAllowed t := by
    intro ps hps
    exact List.forall_mem_map.mpr fun p hp =>
      isAllowed_append (by decide) (hps p hp).isAllowed
  have hfirst : IsAllowed ("  " ++ s.name ++ ": &" ++ s.name ++ " !settings") :=
    isAllowed_append (isAllowed_append
      (isAllowed_append (isAllowed_append (by decide) hname) (by decide)) hname)
      (by decide)
  have hexcluded : IsAllowed ("    excluded:" ++ String.ofList (spaces s.gap)) :=
    isAllowed_append (by decide) hgap
  simp only [Section.texts, settingsLines, List.forall_mem_append, List.forall_mem_cons]
  exact ⟨⟨⟨⟨⟨⟨hfirst, by decide⟩, hitem _ h.included.2⟩, hexcluded,
    List.forall_mem_nil _⟩, hitem _ h.excluded.2⟩, by decide⟩, by decide⟩

/-- The sections of a template are well-formed if its directories are such as are
picked. -/
theorem wellFormed_sections (h : ∀ d ∈ dirs, IsDirectory d) :
    ∀ s ∈ others dirs ++ [chosen dirs], s.WellFormed := by
  have hruns : ∀ p ∈ [testRuns], IsPattern p :=
    List.forall_mem_singleton.mpr isPattern_testRuns
  have heverything : ∀ p ∈ [everything], IsPattern p :=
    List.forall_mem_singleton.mpr isPattern_everything
  have hdirs : ∀ p ∈ dirs.map within, IsPattern p := List.forall_mem_map.mpr fun d hd =>
    isPattern_within (h d hd)
  have hleft : ∀ p ∈ dirs.map within ++ [testRuns], IsPattern p :=
    List.forall_mem_append.mpr ⟨hdirs, hruns⟩
  -- without directories there is one section, otherwise there are three
  refine List.forall_mem_append.mpr ⟨?_, List.forall_mem_singleton.mpr ⟨?_,
    ⟨by simp [chosen], heverything⟩, ⟨by simp [chosen], hleft⟩⟩⟩
  · cases dirs with
    | nil => exact List.forall_mem_nil _
    | cons d ds =>
        refine List.forall_mem_cons.mpr
          ⟨⟨by decide, ⟨by simp, heverything⟩, ⟨by simp, hruns⟩⟩,
          List.forall_mem_singleton.mpr ?_⟩
        exact ⟨show "tests_only" ∈ words by decide, ⟨by simp, hdirs⟩, ⟨by simp, hruns⟩⟩
  · cases dirs with
    | nil => exact show "all_files" ∈ words by decide
    | cons d ds => exact show "excluding_tests" ∈ words by decide

/-- No two sections of a template have the same name. -/
theorem names_nodup (dirs : List String) :
    ((others dirs ++ [chosen dirs]).map (·.name)).Nodup := by
  cases dirs with
  | nil => exact List.nodup_singleton _
  | cons d ds => exact show ["all_files", "tests_only", "excluding_tests"].Nodup by decide

/-- A template can be read at all. -/
theorem isAllowed_configuration (h : ∀ d ∈ dirs, IsDirectory d) :
    IsAllowed (configuration dirs) := by
  have hsections := wellFormed_sections h
  have hdefault : IsAllowed ("default_settings: *" ++ (chosen dirs).name) :=
    isAllowed_append (by decide) (isAllowed_word (hsections _ (by simp)).name)
  -- line by line: sections, the default, and the rules
  have hlines : ∀ t ∈ lines dirs, IsAllowed t := by
    rw [lines_eq]
    refine List.forall_mem_cons.mpr ⟨by decide, List.forall_mem_append.mpr ⟨?_, ?_⟩⟩
    · intro t ht
      obtain ⟨s, hs, ht⟩ := List.mem_flatMap.mp ht
      exact (hsections s hs).isAllowed t ht
    · exact List.forall_mem_cons.mpr ⟨hdefault,
        List.forall_mem_cons.mpr ⟨by decide, by decide⟩⟩
  intro c hc
  rw [toList_lines] at hc
  obtain ⟨t, ht, hc⟩ := List.mem_flatMap.mp hc
  -- a character is one of a line, or the feed behind it
  rcases List.mem_append.mp hc with hc | hc
  · exact hlines t ht c hc
  · rw [List.mem_singleton.mp hc]
    rfl

/-- The value of the configuration. -/
theorem valueOf_configuration [Host] (h : ∀ d ∈ dirs, IsDirectory d) :
    Config.valueOf name (configuration dirs)
      = .ok (mapOf (fieldsOf name (others dirs ++ [chosen dirs])
        ((chosen dirs).value name))) := by
  have hsections := wellFormed_sections h
  have hfit : Fit (layout dirs) := fit_layoutOf (hsections _ (by simp)).name hsections
  obtain ⟨first, ts, last, htokens, hkinds, hlast⟩ := tokensOf_lines hfit
  rw [← toList_configuration] at htokens
  have hdenotes := denotes_layoutOf name hsections (names_nodup dirs)
  rw [← layout, ← hkinds] at hdenotes
  have hload : Yaml.load (siteOf name) (configuration dirs) = _ :=
    load_of_denotes (isAllowed_configuration h) htokens hlast hdenotes
  rw [Config.valueOf]
  rw [siteOf] at hload
  rw [hload]

/-! ### Rules -/

/-- Whether a value refers to no container around it. -/
def IsClosed (v : Value) : Prop :=
  ∀ outer depth, Value.fill outer depth v = v

/-- A mapping is closed if its values are. -/
theorem isClosed_mapOf {fields : List (String × Value)} (h : ∀ f ∈ fields, IsClosed f.2) :
    IsClosed (mapOf fields) := by
  intro outer depth
  rw [mapOf, Value.fill, Value.fillEntries_eq_map, List.map_map]
  refine congrArg Value.map (List.map_congr_left fun f hf => ?_)
  exact Prod.ext rfl (h f hf outer (depth + 1))

theorem isClosed_pathsOf (patterns : List String) : IsClosed (pathsOf name patterns) := by
  intro outer depth
  rw [pathsOf, Value.fill, Value.fillAll_eq_map, List.map_map]
  rfl

/-- The settings of a section refer to nothing outside them. -/
theorem Section.isClosed_value (s : Section) : IsClosed (s.value name) := by
  intro outer depth
  rw [Section.value, Value.fill, isClosed_pathsOf, isClosed_pathsOf]
  rfl

/-- The entries of a mapping of fields are the fields. -/
theorem entries?_mapOf {fields : List (String × Value)} (h : ∀ f ∈ fields, IsClosed f.2) :
    (mapOf fields).entries? = some (fields.map fun f => (.text f.1, f.2)) := by
  rw [mapOf, Value.entries?, List.map_map]
  refine congrArg some (List.map_congr_left fun f hf => ?_)
  exact Prod.ext rfl (h f hf _ 0)

theorem isClosed_ruleFields : ∀ f ∈ ruleFields, IsClosed f.2 := by
  have hclosed : ∀ f ∈ ruleFields, ∀ outer depth, Value.fill outer depth f.2 = f.2 := by
    simp only [ruleFields, List.forall_mem_cons]
    exact ⟨fun _ _ => rfl, fun _ _ => rfl, fun _ _ => rfl, fun _ _ => rfl,
      List.forall_mem_nil _⟩
  exact hclosed

/-- The value of a section is that of settings with its patterns. -/
theorem Section.isSettings_value (s : Section) :
    Rule.IsSettings (s.value name) ⟨pathsOf name s.included, pathsOf name s.excluded,
      .bool true⟩ := by
  refine ⟨pathsOf name s.included, pathsOf name s.excluded, .bool true, rfl, ?_⟩
  rw [Value.unrolled, Value.unrolled, isClosed_pathsOf, isClosed_pathsOf]
  rfl

section Rules

variable [Host]

/-- The rule with settings. -/
def exampleRule (settings : Settings) : Rule where
  name := .text "ExampleRule"
  description := .text "Empty module."
  expr := .xpath Rule.emptyQuery
  sample := .text ""
  remedy := .text "\"\"\"This module has a docstring.\"\"\"\n"
  settings := settings

/-- The fields of the example make a rule with the settings by default. -/
theorem ofValue_ruleFields {byDefault : Value} {settings : Settings}
    (h : Rule.IsSettings byDefault settings) :
    Rule.ofValue (.text "ExampleRule") (mapOf ruleFields) byDefault =
      .ok (exampleRule settings) := by
  have hsample : Clause.Shows (.xpath Rule.emptyQuery) true (.text "") :=
    Clause.shows_of_isShown (by decide +kernel)
  have hremedy : Clause.Shows (.xpath Rule.emptyQuery) false
      (.text "\"\"\"This module has a docstring.\"\"\"\n") :=
    Clause.shows_of_isShown (by decide +kernel)
  have hsound : Rule.IsSound (mapOf ruleFields) byDefault :=
    ⟨by rintro ⟨⟩, by rintro ⟨⟩, hsample, hremedy, _, h⟩
  have hasked : Rule.CanBeAsked (mapOf ruleFields) :=
    Rule.canBeAsked_of_entries? (entries?_mapOf isClosed_ruleFields)
  exact Rule.ofValue_eq_ok.mpr (Rule.ofFields_of_isSound hasked hsound h)

/-- A template is loaded as the example with the settings of the section chosen for
it. -/
theorem load_of_sections (h : ∀ d ∈ dirs, IsDirectory d) :
    Config.load name (configuration dirs)
      = .ok [exampleRule ⟨pathsOf name (chosen dirs).included,
        pathsOf name (chosen dirs).excluded, .bool true⟩] := by
  -- nothing in a template refers to what is around it
  have hrules : ∀ f ∈ [("ExampleRule", mapOf ruleFields)], IsClosed f.2 :=
    List.forall_mem_singleton.mpr (isClosed_mapOf isClosed_ruleFields)
  have hfields : ∀ f ∈ fieldsOf name (others dirs ++ [chosen dirs])
      ((chosen dirs).value name), IsClosed f.2 := by
    simp only [fieldsOf, List.forall_mem_cons]
    exact ⟨isClosed_mapOf (List.forall_mem_map.mpr fun s _ => s.isClosed_value name),
      Section.isClosed_value name _, isClosed_mapOf hrules,
      List.forall_mem_nil _⟩
  -- the default settings are those of the section that the alias names
  have hdefault : Rule.field (mapOf (fieldsOf name (others dirs ++ [chosen dirs])
      ((chosen dirs).value name))) "default_settings" = (chosen dirs).value name := by
    rw [Rule.field, Rule.held?_of_entries? (entries?_mapOf hfields)]
    rfl
  rw [Config.load_eq_mapM (valueOf_configuration name h) (entries?_mapOf hfields) rfl
    (entries?_mapOf hrules), hdefault]
  exact mapM_eq_ok.mpr
    (.cons (ofValue_ruleFields ((chosen dirs).isSettings_value name)) .nil)

/-- **The configuration of a new project is read as what it was made for**: one rule for
everything below its directory but the directories of tests and what test runs leave
behind. -/
theorem load_configuration (h : ∀ d ∈ dirs, IsDirectory d) :
    Config.load name (configuration dirs) = .ok [exampleRule {
      included := .list [.text (Path.join (Path.dirname name) "*")]
      excluded := .list
        ((dirs.map fun d => .text (Path.join (Path.join (Path.dirname name) d) "*"))
        ++ [.text (Path.join (Path.dirname name) ".tox/*")])
      allowIgnore := .bool true }] := by
  -- the patterns of the directories, seen from the configuration
  have htests : (dirs.map within).map (fun p => Value.text (pathOf name p))
      = dirs.map fun d => .text (Path.join (Path.join (Path.dirname name) d) "*") := by
    rw [List.map_map]
    exact List.map_congr_left fun d hd =>
      congrArg Value.text (pathOf_within name (h d hd))
  have hexcluded : pathsOf name (chosen dirs).excluded =
    .list ((dirs.map fun d => .text (Path.join (Path.join (Path.dirname name) d) "*"))
      ++ [.text (Path.join (Path.dirname name) ".tox/*")]) := by
    rw [← htests, pathsOf, chosen, List.map_append]
    rfl
  rw [load_of_sections name h, hexcluded]
  rfl

end Rules

open scoped Standard

/-- Two directories of tests. -/
theorem load_configuration_twoDirectories :
    (∀ d ∈ ["tests", "test-unit_2.d"], IsDirectory d) ∧
    Config.load "/p/.bellybutton.yml" (configuration ["tests", "test-unit_2.d"]) =
      .ok [exampleRule {
      included := .list [.text (Path.join "/p" "*")]
      excluded := .list [.text (Path.join (Path.join "/p" "tests") "*"),
        .text (Path.join (Path.join "/p" "test-unit_2.d") "*"),
        .text (Path.join "/p" ".tox/*")]
      allowIgnore := .bool true }] := by
  have hdirs : ∀ d ∈ ["tests", "test-unit_2.d"], IsDirectory d :=
    List.forall_mem_cons.mpr ⟨⟨by decide, List.all_eq_true.mp (by decide)⟩,
      List.forall_mem_singleton.mpr ⟨by decide, List.all_eq_true.mp (by decide)⟩⟩
  have hdirname : Path.dirname "/p/.bellybutton.yml" = "/p" := by decide
  refine ⟨hdirs, ?_⟩
  rw [load_configuration "/p/.bellybutton.yml" hdirs, hdirname]
  rfl

end RuleLint.Template
