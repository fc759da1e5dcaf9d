/-
RuleLint/Proofs/Report.lean

The report on a project.

`Lists` says that violations are exactly those of a collection, each once, in order of
path and rule.  It is put together along the run: the lines of one rule (`lists_rule`),
the rules of one file (`lists_runAll`, `lists_file`), the files of the project
(`lists_files`).  Each step appends, so the point is every time that what comes first
belongs first: rules are in order of names, files in order of paths.  Names and paths
are in strict order because none comes twice, which is what is known of the keys of a
document and of the walk through a directory.  The lines of one rule in one file are a
set, and come in whatever order the host goes through it: `lint_unordered` has a host
for which they do not ascend.

Main result: `lint_reports`.
-/
import RuleLint.Project.Commands
import RuleLint.Proofs.Building
import RuleLint.Proofs.Config
import RuleLint.Proofs.Sources
import RuleLint.Proofs.Violations

namespace RuleLint

/-! ### Rules of a configuration -/

namespace Config

section

variable [Host] {name text : String} {rules : List Rule}

/-- The value of a configuration is loadable. -/
theorem loadable_of_valueOf {v : Value} (h : valueOf name text = .ok v) : v.Loadable := by
  rw [valueOf] at h
  split at h
  · rename_i hload
    cases h
    exact Yaml.loadable_of_load (by rfl) hload
  · cases h

/-- The rules of a configuration carry entries that are apart. -/
theorem carries_of_load (h : load name text = .ok rules) :
    ∃ described : List (Value × Value), Value.KeysApart described ∧
      ∃ defaultSettings, List.Forall₂ (Rule.Carries defaultSettings) described rules := by
  obtain ⟨v, hv, h⟩ := bind_eq_ok.mp h
  have hloadable := loadable_of_valueOf hv
  obtain ⟨own, -, h⟩ := bind_eq_ok.mp h
  obtain ⟨found, hfound, h⟩ := bind_eq_ok.mp h
  obtain ⟨described, hdescribed, h⟩ := bind_eq_ok.mp h
  -- without rules the mapping is empty, and that is loadable too
  have hrules : (found.getD (.map [])).Loadable := by
    cases found with
    | none => exact .map .nil (List.forall_mem_nil _) (List.forall_mem_nil _)
    | some w => exact hloadable.get hfound
  exact ⟨described, hrules.items hdescribed, _,
    (mapM_eq_ok.mp h).imp fun e rule hrule => (Rule.ofValue_cases hrule).2⟩

/-- No two rules of a configuration have the same text for a name. -/
theorem names_apart (h : load name text = .ok rules) :
    rules.Pairwise fun a b => ¬ Value.SameText a.name b.name := by
  obtain ⟨described, hkeys, _, hcarries⟩ := carries_of_load h
  have hnames : described.map (·.1) = rules.map (·.name) := by
    clear h hkeys
    induction hcarries with
    | nil => rfl
    | cons hrule _ ih =>
        obtain ⟨_, -, rfl⟩ := hrule
        rw [List.map_cons, List.map_cons, ih, Rule.assembled]
  have hmap : (described.map (·.1)).Pairwise fun a b => ¬ Value.SameText a b :=
    List.pairwise_map.mpr hkeys
  rw [hnames] at hmap
  exact List.pairwise_map.mp hmap

end

end Config

/-! ### Violations in order -/

namespace Project

/-- Where a violation is: the file, the rule and the line. -/
def Violation.spot (v : Violation) : String × Rule × Value :=
  (v.path, v.rule, v.line)

/-- Whether a violation may come before another one: by path, then by name of the rule.
The lines of one rule in one file have no order. -/
def Violation.Before (a b : Violation) : Prop :=
  a.path < b.path ∨ a.path = b.path ∧
    (a.rule.nameText < b.rule.nameText ∨ a.rule = b.rule)

/-- Whether two violations are of one rule on one line of one file. -/
def Violation.SameSpot (a b : Violation) : Prop :=
  a.path = b.path ∧ a.rule = b.rule ∧ Value.same a.line b.line = true ∧
    Value.same b.line a.line = true

/-- `vs` are the violations at the spots of a collection, each once and in order; of
each one, `shows` holds. -/
structure Lists (broken : String → Rule → Value → Prop) (shows : Violation → Prop)
    (vs : List Violation) : Prop where
  mem : ∀ path rule line, (path, rule, line) ∈ vs.map Violation.spot ↔
    broken path rule line
  ordered : vs.Pairwise fun a b => a.Before b ∧ ¬ a.SameSpot b
  shown : ∀ v ∈ vs, shows v

namespace Lists

variable {broken broken' : String → Rule → Value → Prop} {shows shows' : Violation → Prop}
  {vs vs' : List Violation}

/-- Nothing is listed where nothing is broken. -/
theorem nil (h : ∀ path rule line, ¬ broken path rule line) : Lists broken shows [] :=
  ⟨fun path rule line => iff_of_false List.not_mem_nil (h path rule line), .nil,
    List.forall_mem_nil _⟩

/-- What is listed is broken. -/
theorem broken_of_mem (h : Lists broken shows vs) {v : Violation} (hv : v ∈ vs) :
    broken v.path v.rule v.line :=
  (h.mem _ _ _).mp (List.mem_map_of_mem hv)

/-- A list is one of all that amounts to the same, and may show less. -/
theorem imp (h : Lists broken shows vs)
    (hb : ∀ path rule line, broken path rule line ↔ broken' path rule line)
    (hs : ∀ v ∈ vs, shows v → shows' v) : Lists broken' shows' vs :=
  ⟨fun path rule line => (h.mem path rule line).trans (hb path rule line), h.ordered,
    fun v hv => hs v hv (h.shown v hv)⟩

/-- Two lists make one if everything of the first belongs in front of the second. -/
theorem append (h : Lists broken shows vs) (h' : Lists broken' shows vs')
    (hbefore : ∀ a ∈ vs, ∀ b ∈ vs', a.Before b ∧ ¬ a.SameSpot b) :
    Lists (fun path rule line => broken path rule line ∨ broken' path rule line) shows
      (vs ++ vs') where
  mem path rule line := by rw [List.map_append, List.mem_append, h.mem, h'.mem]
  ordered := List.pairwise_append.mpr ⟨h.ordered, h'.ordered, hbefore⟩
  shown := List.forall_mem_append.mpr ⟨h.shown, h'.shown⟩

end Lists

/-! ### One rule -/

section Shown

variable {path : String} {lines : List String}

/-- Findings without a fault are turned into violations part by part. -/
theorem violationsAt_append {front back : List Finding}
    (h : (violationsAt path lines (front ++ back)).fault = none) :
    (violationsAt path lines front).fault = none ∧
      (violationsAt path lines back).fault = none ∧
      (violationsAt path lines (front ++ back)).found =
        (violationsAt path lines front).found ++
          (violationsAt path lines back).found := by
  induction front with
  | nil => exact ⟨rfl, h, rfl⟩
  | cons finding front ih =>
      obtain ⟨rule, line⟩ := finding
      cases line with
      -- a finding without a line is no violation
      | none => exact ih h
      | some line =>
          rw [List.cons_append, violationsAt] at h ⊢
          rw [violationsAt]
          rcases htext : lineText lines line with f | text
          · -- a line that cannot be shown would be a fault
            rw [htext] at h
            cases h
          · rw [htext] at h
            obtain ⟨hfront, hback, hfound⟩ := ih h
            exact ⟨hfront, hback, congrArg (⟨path, line, text, rule⟩ :: ·) hfound⟩

/-- Without a fault, every line of a rule is shown. -/
theorem violationsAt_lines {rule : Rule} {ls : List Value}
    (h : (violationsAt path lines (ls.map fun line => ⟨rule, some line⟩)).fault = none) :
    (violationsAt path lines (ls.map fun line => ⟨rule, some line⟩)).found.map
      Violation.spot =
        ls.map (fun line => (path, rule, line)) ∧
      ∀ v ∈ (violationsAt path lines (ls.map fun line => ⟨rule, some line⟩)).found,
        lineText lines v.line = .ok v.text := by
  induction ls with
  | nil => exact ⟨rfl, List.forall_mem_nil _⟩
  | cons line ls ih =>
      rw [List.map_cons, violationsAt] at h ⊢
      rcases htext : lineText lines line with f | text
      · -- a line that cannot be shown would be a fault
        rw [htext] at h
        cases h
      · rw [htext] at h
        obtain ⟨hspots, hshown⟩ := ih h
        exact ⟨congrArg ((path, rule, line) :: ·) hspots,
          List.forall_mem_cons.mpr ⟨htext, hshown⟩⟩

/-- Lines in whatever order of the host are lines. -/
theorem violationsAt_findingsAt (rule : Rule) (ls : List Value) :
    violationsAt path lines (Lint.findingsAt rule ls) =
      violationsAt path lines (ls.map fun line => ⟨rule, some line⟩) := by
  cases ls <;> rfl

end Shown

/-- Whether a line is one that a rule finds in a text and that no comment silences. -/
def LeftTo (s : Lint.Subject) (rule : Rule) (line : Value) : Prop :=
  ∃ vs, Lint.Finds s.text s.document rule.expr vs ∧ line ∈ Lint.members vs ∧
    Lint.isLeft s.ignored rule line = true

section Files

variable [Host] {path : String}

/-- The lines that are left to a rule, each once. -/
theorem linesLeft_spec {s : Lint.Subject} {rule : Rule} {vs : List Value}
    (hfinds : Lint.Finds s.text s.document rule.expr vs) :
    (∀ line, line ∈ Lint.linesLeft s rule (Lint.members vs) ↔ LeftTo s rule line) ∧
      (Lint.linesLeft s rule (Lint.members vs)).Pairwise
        fun a b => ¬ (Value.same a b = true ∧ Value.same b a = true) := by
  have hperm := Lint.linesLeft_perm s rule (Lint.members vs)
  constructor
  · intro line
    rw [hperm.mem_iff, List.mem_filter]
    constructor
    · rintro ⟨hmem, hleft⟩
      exact ⟨vs, hfinds, hmem, hleft⟩
    · rintro ⟨vs', hfinds', hmem, hleft⟩
      rw [hfinds.unique hfinds']
      exact ⟨hmem, hleft⟩
  · -- members are told apart in order of arrival; symmetrically, the way is no matter
    have hdistinct : ((Lint.members vs).filter (Lint.isLeft s.ignored rule)).Pairwise
        fun a b => ¬ (Value.same a b = true ∧ Value.same b a = true) := by
      refine ((Lint.isSetOf_members vs).distinct.filter _).imp fun {a b} hab hsame => ?_
      rw [hab] at hsame
      exact Bool.false_ne_true hsame.1
    exact hperm.symm.pairwise hdistinct fun h hsame => h ⟨hsame.2, hsame.1⟩

/-- One rule in one file: each line that it leaves to be told, once. -/
theorem lists_rule {s : Lint.Subject} {rule : Rule} {block : List Finding}
    (hblock : Lint.runRule s rule = .ok block)
    (h : (violationsAt path (Text.lines s.text) block).fault = none) :
    Lists (fun p r line => p = path ∧ r = rule ∧ LeftTo s rule line)
      (fun v => lineText (Text.lines s.text) v.line = .ok v.text)
      (violationsAt path (Text.lines s.text) block).found := by
  rcases hlines : Lint.linesOf rule.expr s.text s.document with f | - | ls
  · rw [Lint.runRule, hlines] at hblock
    cases hblock
  · -- an expression that cannot be run finds nothing
    have hrun := Lint.linesOf_eq_none_iff.mp hlines
    rw [Lint.runRule_of_not_canRun hrun] at hblock
    cases hblock
    refine .nil ?_
    rintro _ _ line ⟨-, -, vs, hfinds, -⟩
    rw [hfinds.canRun] at hrun
    cases hrun
  · rw [Lint.runRule_of_lines hlines] at hblock
    cases hblock
    obtain ⟨vs, hfinds, rfl⟩ := Lint.finds_of_linesOf hlines
    obtain ⟨hmem, hdistinct⟩ := linesLeft_spec hfinds
    rw [violationsAt_findingsAt] at h ⊢
    obtain ⟨hspots, hshown⟩ := violationsAt_lines h
    refine ⟨fun p r line => ?_, ?_, hshown⟩
    · rw [hspots, List.mem_map]
      constructor
      · rintro ⟨_, hline, ⟨⟩⟩
        exact ⟨rfl, rfl, (hmem line).mp hline⟩
      · rintro ⟨rfl, rfl, hleft⟩
        exact ⟨line, (hmem line).mpr hleft, rfl⟩
    · have hall : ((Lint.linesLeft s rule (Lint.members vs)).map fun line =>
          (path, rule, line)).Pairwise fun a b => a.1 = b.1 ∧ a.2.1 = b.2.1 ∧
            ¬ (Value.same a.2.2 b.2.2 = true ∧ Value.same b.2.2 a.2.2 = true) :=
        List.pairwise_map.mpr (hdistinct.imp fun h => ⟨rfl, rfl, h⟩)
      rw [← hspots] at hall
      refine (List.pairwise_map.mp hall).imp fun {a b} hab => ?_
      obtain ⟨hpath, hrule, hline⟩ := hab
      exact ⟨.inr ⟨hpath, .inr hrule⟩, fun hspot => hline hspot.2.2⟩

/-! ### One file -/

/-- The rules of a file, by induction on them: the first has the least name. -/
theorem lists_runAll {s : Lint.Subject} {rules : List Rule}
    (hnames : rules.Pairwise fun a b => a.nameText < b.nameText)
    (hrun : (Lint.runAll s rules).fault = none)
    (h : (violationsAt path (Text.lines s.text) (Lint.runAll s rules).findings).fault =
      none) :
    Lists (fun p r line => p = path ∧ r ∈ rules ∧ LeftTo s r line)
      (fun v => lineText (Text.lines s.text) v.line = .ok v.text)
      (violationsAt path (Text.lines s.text) (Lint.runAll s rules).findings).found := by
  induction rules with
  | nil => exact .nil fun _ _ _ hb => nomatch hb.2.1
  | cons rule rest ih =>
      obtain ⟨hfirst, hnames⟩ := List.pairwise_cons.mp hnames
      rcases hblock : Lint.runRule s rule with f | block
      · rw [Lint.runAll, hblock] at hrun
        cases hrun
      rw [Lint.runAll_cons_of_ok hblock] at hrun h ⊢
      obtain ⟨hfront, hback, hfound⟩ := violationsAt_append h
      have hlists := lists_rule hblock hfront
      have hmore := ih hnames hrun hback
      rw [hfound]
      refine (hlists.append hmore fun a ha b hb => ?_).imp (fun p r line =>
        ?_) fun _ _ h => h
      · -- the names of the rules are in order
        obtain ⟨hpa, hra, -⟩ := hlists.broken_of_mem ha
        obtain ⟨hpb, hrb, -⟩ := hmore.broken_of_mem hb
        have hlt : a.rule.nameText < b.rule.nameText := hra ▸ hfirst _ hrb
        refine ⟨.inr ⟨hpa.trans hpb.symm, .inl hlt⟩, fun hspot => ?_⟩
        rw [hspot.2.1] at hlt
        exact lt_irrefl _ hlt
      · rw [List.mem_cons]
        constructor
        · rintro (⟨hp, rfl, hleft⟩ | ⟨hp, hr, hleft⟩)
          · exact ⟨hp, .inl rfl, hleft⟩
          · exact ⟨hp, .inr hr, hleft⟩
        · rintro ⟨hp, rfl | hr, hleft⟩
          · exact .inl ⟨hp, rfl, hleft⟩
          · exact .inr ⟨hp, hr, hleft⟩

end Files

end Project

namespace Lint

section

variable [Host] {path text : String} {rules : List Rule}

/-- What a run on a file without a fault has been through. -/
theorem file_cases (h : (file path text rules).fault = none) :
    ∃ chosen, selected path rules = .ok chosen ∧
      (chosen = [] ∧ (file path text rules).findings = [] ∨
        ∃ s ordered, Subject.ofText text = .ok s ∧ byName chosen = .ok ordered ∧
          file path text rules = runAll s ordered) := by
  -- what is prepared: the rules for the path, the text, and the order of the rules
  rcases hprepare : prepare path text rules with f | prepared
  · rw [file, hprepare] at h
    cases h
  obtain ⟨chosen, hchosen, hrest⟩ := bind_eq_ok.mp hprepare
  refine ⟨chosen, hchosen, ?_⟩
  split at hrest
  · -- without a rule for the path the text is not looked at
    rename_i hempty
    cases hrest
    exact .inl ⟨List.isEmpty_iff.mp hempty, by rw [file, hprepare]⟩
  · obtain ⟨s, hs, hrest⟩ := bind_eq_ok.mp hrest
    obtain ⟨ordered, hordered, hrest⟩ := bind_eq_ok.mp hrest
    cases hrest
    exact .inr ⟨s, ordered, hs, hordered, by rw [file, hprepare]⟩

theorem Subject.text_of_ofText {s : Subject} (h : Subject.ofText text = .ok s) :
    s.text = text := by
  obtain ⟨_, _, _, -, -, -, rfl⟩ := Subject.ofText_cases h
  rfl

end

end Lint

/-- Names that are not the same text are shown differently. -/
theorem Rule.nameText_ne {a b : Rule} (ha : ∃ t, a.name = .text t)
    (hb : ∃ t, b.name = .text t)
    (h : ¬ Value.SameText a.name b.name) : a.nameText ≠ b.nameText :=
  fun heq => h ⟨a.nameText, Rule.name_eq_nameText ha, heq ▸ Rule.name_eq_nameText hb⟩

/-- A rule is for a path if its settings select it. -/
theorem Rule.isFor_iff {path : String} {rule : Rule} :
    rule.isFor path = true ↔ rule.settings.selects path = .ok true := by
  unfold Rule.isFor
  rcases rule.settings.selects path with f | chosen
  · simp
  · simp

namespace Project

section

variable [Host] {rules : List Rule} {path text : String}

/-- Whether a rule for a file finds a line in its text that no comment silences. -/
def BrokenIn (rules : List Rule) (path text : String) (rule : Rule) (line : Value) :
    Prop :=
  rule ∈ rules ∧ rule.settings.selects path = .ok true ∧
    ∃ s, Lint.Subject.ofText text = .ok s ∧ LeftTo s rule line

/-- One file: the rules for it are put in order of their names first. -/
theorem lists_file (hnames : ∀ r ∈ rules, ∃ t, r.name = .text t)
    (hapart : rules.Pairwise fun a b => ¬ Value.SameText a.name b.name)
    (h : (violationsIn rules path text).fault = none) :
    Lists (fun p r line => p = path ∧ BrokenIn rules path text r line)
      (fun v => lineText (Text.lines text) v.line = .ok v.text)
      (violationsIn rules path text).found := by
  rcases hfile : Lint.file path text rules with ⟨findings, fault⟩
  cases fault with
  | some f =>
      rw [violationsIn, hfile] at h
      cases h
  | none =>
      obtain ⟨chosen, hchosen, hcases⟩ := Lint.file_cases (by rw [hfile])
      obtain ⟨rfl, -⟩ := Lint.selected_eq_ok.mp hchosen
      have hfor : ∀ r, r ∈ rules.filter (Rule.isFor path) ↔
          r ∈ rules ∧ r.settings.selects path = .ok true := by
        intro r
        rw [List.mem_filter, Rule.isFor_iff]
      rw [hfile] at hcases
      rw [violationsIn, hfile] at h ⊢
      obtain ⟨hnone, rfl⟩ | ⟨s, ordered, hs, hordered, hrun⟩ := hcases
      · -- no rule is for the path
        refine .nil ?_
        rintro _ r line ⟨-, hr, hselects, -⟩
        have hmem := (hfor r).mpr ⟨hr, hselects⟩
        rw [hnone] at hmem
        cases hmem
      · have hnamed : ∀ r ∈ rules.filter (Rule.isFor path), ∃ t, r.name = .text t :=
          fun r hr => hnames r (List.mem_of_mem_filter hr)
        obtain ⟨_, hordered', hst⟩ := Lint.byName_stable hnamed
        cases hordered.symm.trans hordered'
        have hkeys : (rules.filter (Rule.isFor path)).Pairwise
            fun a b => a.nameText ≠ b.nameText :=
          (hapart.filter _).imp_of_mem fun {a b} ha hb hab =>
            Rule.nameText_ne (hnamed a ha) (hnamed b hb) hab
        have hmem : ∀ r, r ∈ ordered ↔ r ∈ rules ∧ r.settings.selects path = .ok true :=
          fun r => hst.perm.mem_iff.trans (hfor r)
        obtain rfl := Lint.Subject.text_of_ofText hs
        have hfindings : findings = (Lint.runAll s ordered).findings :=
          congrArg Outcome.findings hrun
        rw [hfindings] at h ⊢
        refine (lists_runAll (hst.strictly hkeys)
          (congrArg Outcome.fault hrun).symm h).imp
          (fun p r line => ?_) fun _ _ h => h
        rw [hmem]
        constructor
        · rintro ⟨hp, ⟨hr, hselects⟩, hleft⟩
          exact ⟨hp, hr, hselects, s, hs, hleft⟩
        · rintro ⟨hp, hr, hselects, s', hs', hleft⟩
          cases hs.symm.trans hs'
          exact ⟨hp, ⟨hr, hselects⟩, hleft⟩

/-! ### All files -/

/-- Whether a rule for a file is broken on a line of it. -/
def BrokenAt (fs : Files) (rules : List Rule) (path : String) (rule : Rule)
    (line : Value) : Prop :=
  ∃ text, fs.readText path = .ok text ∧ BrokenIn rules path text rule line

/-- Whether a violation comes with the line that it is on. -/
def ShowsLine (fs : Files) (v : Violation) : Prop :=
  ∃ text, fs.readText v.path = .ok text ∧ lineText (Text.lines text) v.line = .ok v.text

/-- The files of a project, by induction on them: the first has the least path. -/
theorem lists_files {fs : Files} (hkeeps : ∀ r ∈ rules, r.KeepsFiles)
    (hnames : ∀ r ∈ rules, ∃ t, r.name = .text t)
    (hapart : rules.Pairwise fun a b => ¬ Value.SameText a.name b.name)
    {paths : List String} (hpaths : paths.Pairwise (· < ·))
    (hclean : ∀ path ∈ paths, ∃ text, fs.readText path = .ok text ∧
      (violationsIn rules path text).fault = none) :
    (violationsFrom fs rules paths).fault = none ∧
      Lists (fun path rule line => path ∈ paths ∧ BrokenAt fs rules path rule line)
        (ShowsLine fs)
        (violationsFrom fs rules paths).found := by
  induction paths with
  | nil => exact ⟨rfl, .nil fun _ _ _ hb => nomatch hb.1⟩
  | cons path rest ih =>
      obtain ⟨hfirst, hpaths⟩ := List.pairwise_cons.mp hpaths
      obtain ⟨⟨text, htext, hfault⟩, hrest⟩ := List.forall_mem_cons.mp hclean
      obtain ⟨hfault', hmore⟩ := ih hpaths hrest
      have hlists := lists_file hnames hapart hfault
      rcases hin : violationsIn rules path text with ⟨found, fault⟩
      rw [hin] at hfault hlists
      cases hfault
      rw [violationsFrom, htext]
      dsimp only
      rw [hin, Files.leftBy_eq hkeeps]
      have hfront : Lists (fun p r line => p = path ∧ BrokenAt fs rules p r line)
        (ShowsLine fs)
          found := by
        refine hlists.imp (fun p r line => and_congr_right ?_) fun v hv hshown => ?_
        · rintro rfl
          constructor
          · intro hb
            exact ⟨text, htext, hb⟩
          · rintro ⟨_, htext', hb⟩
            cases htext.symm.trans htext'
            exact hb
        · exact ⟨text, (hlists.broken_of_mem hv).1 ▸ htext, hshown⟩
      refine ⟨hfault', (hfront.append hmore fun a ha b hb => ?_).imp (fun p r line => ?_)
        fun _ _ h => h⟩
      · -- the paths are in order
        have hlt : a.path < b.path :=
          (hfront.broken_of_mem ha).1 ▸ hfirst _ (hmore.broken_of_mem hb).1
        refine ⟨.inl hlt, fun hspot => ?_⟩
        rw [hspot.1] at hlt
        exact lt_irrefl _ hlt
      · rw [List.mem_cons, or_and_right]

end

/-! ### The report -/

/-- How many rules, files and violations there are, in words. -/
def tally (rules files violations : Nat) : String :=
  Report.counted rules "rule" ++ ", " ++ Report.counted files "file" ++ ", " ++
    Report.counted violations "violation"

/-- The last line of a report: a success exactly if there are no violations. -/
theorem summary_eq (rules files violations : Nat) :
    Report.summary rules files violations =
      if violations = 0 then
        Report.success ("Linting succeeded (" ++ tally rules files violations ++ ").")
      else Report.error ("Linting failed (" ++ tally rules files violations ++ ").") := by
  unfold Report.summary tally
  split <;> simp [String.append_assoc]

/-- Whether a violation can be told of: no integer in its notice has too many digits. -/
def CanBeTold (top : String) (full : Bool) (v : Violation) : Prop :=
  ∀ value ∈ (noticeOf top v).values full, value.isHuge = false

/-- What is printed of violations. -/
def messages (top : String) (full : Bool) (vs : List Violation) : String :=
  String.join (vs.map fun v =>
    printed (if full then (noticeOf top v).full else (noticeOf top v).brief))

/-- A notice that can be told is told at the length that is asked for. -/
theorem told_of_canBeTold {top : String} {full : Bool} {v : Violation}
    (h : CanBeTold top full v) : (noticeOf top v).told full =
      .ok (if full then (noticeOf top v).full else (noticeOf top v).brief) := by
  have hnone : ((noticeOf top v).values full).any Value.isHuge = false :=
    List.any_eq_false.mpr fun value hvalue => by
      rw [h value hvalue]; exact Bool.false_ne_true
  rw [Report.Notice.told, hnone]
  rfl

/-- What keeps a notice from being told is an integer with too many digits. -/
theorem told_of_not_canBeTold {top : String} {full : Bool} {v : Violation}
    (h : ¬ CanBeTold top full v) : (noticeOf top v).told full = .error .hugeInteger := by
  have hsome : ((noticeOf top v).values full).any Value.isHuge = true := by
    by_contra hnone
    refine h fun value hvalue => ?_
    exact Bool.eq_false_iff.mpr
      (List.any_eq_false.mp (Bool.eq_false_iff.mpr hnone) value hvalue)
  rw [Report.Notice.told, hsome]
  rfl

/-- Violations that can all be told of are told of one after the other. -/
theorem tellAll_of_canBeTold {top : String} {full : Bool} {vs : List Violation}
    (h : ∀ v ∈ vs, CanBeTold top full v) :
    tellAll top full vs = (messages top full vs, none) := by
  induction vs with
  | nil => rfl
  | cons v vs ih =>
      obtain ⟨hv, hvs⟩ := List.forall_mem_cons.mp h
      rw [tellAll, told_of_canBeTold hv, ih hvs]
      simp [messages, String.join_cons]

/-- The first violation that cannot be told of ends the telling. -/
theorem tellAll_of_not_canBeTold {top : String} {full : Bool} {vs : List Violation}
    (h : ∃ v ∈ vs, ¬ CanBeTold top full v) :
    (tellAll top full vs).2 = some .hugeInteger := by
  induction vs with
  | nil =>
      obtain ⟨v, hv, -⟩ := h
      cases hv
  | cons v vs ih =>
      by_cases hv : CanBeTold top full v
      · obtain ⟨w, hw, hnot⟩ := h
        have hmem : w ∈ vs := (List.mem_cons.mp hw).resolve_left fun heq =>
          hnot (heq ▸ hv)
        rw [tellAll, told_of_canBeTold hv]
        exact ih ⟨w, hmem, hnot⟩
      · rw [tellAll, told_of_not_canBeTold hv]

section

variable [Host] {fs : Files} {rules : List Rule}

/-- Rules come from the text of a configuration. -/
theorem load_of_loadRules {config : String} (h : loadRules fs config = .ok (.ok rules)) :
    ∃ text, Config.load config text = .ok rules := by
  rw [loadRules] at h
  split at h
  · rename_i hrules
    cases h
    obtain ⟨text, -, hload⟩ := bind_eq_ok.mp hrules
    exact ⟨text, hload⟩
  · split at h
    · cases h
    · split at h <;> cases h

/-- The output is a message for each violation and a summary, if all can be told. -/
theorem lintFiles_eq {paths : List String} {found : List Violation}
    (hfound : violations fs paths rules = ⟨found, none⟩) {top : String} {full : Bool}
    (htold : ∀ v ∈ found, CanBeTold top full v) :
    lintFiles fs top full rules paths =
      (messages top full found ++
        printed (Report.summary rules.length paths.length found.length),
        .ok (if found.isEmpty then 0 else 1)) := by
  rw [lintFiles, hfound]
  dsimp only
  rw [tellAll_of_canBeTold htold]
  rfl

/-- The run ends with a failure if one cannot be told. -/
theorem lintFiles_untold {paths : List String} {found : List Violation}
    (hfound : violations fs paths rules = ⟨found, none⟩) {top : String} {full : Bool}
    (huntold : ∃ v ∈ found, ¬ CanBeTold top full v) :
    (lintFiles fs top full rules paths).2 = .error .hugeInteger := by
  rw [lintFiles, hfound]
  dsimp only
  rw [tellAll_of_not_canBeTold huntold]
  rfl

/-- Rules that keep files leave the tree as it is. -/
theorem leftByLint_eq (hkeeps : ∀ r ∈ rules, r.KeepsFiles) (top : String) (full : Bool)
    (paths : List String) : leftByLint fs top full rules paths = fs :=
  leftFrom_eq hkeeps _ fs _

/-- A run with rules that are loaded, once it is known which sources it is about. -/
theorem lint_of_sourcesOf {answers : Answers} {changedOnly : Bool} {directory : String}
    (hload : loadRules fs (fs.absolute (Path.join directory configName)) =
      .ok (.ok rules))
    {commands paths : List String} {left : Files}
    (hsources : sourcesOf fs answers changedOnly (fs.absolute directory) =
      ⟨commands, .ok paths, left⟩) (full : Bool) :
    lint fs answers changedOnly directory full =
      (⟨(lintFiles left (fs.absolute directory) full rules paths).1, commands,
        (lintFiles left (fs.absolute directory) full rules paths).2⟩,
        leftByLint left (fs.absolute directory) full rules paths) := by
  unfold lint
  simp only [hload]
  rw [hsources]

/-- **The report of a run that nothing ends too early.** There is one message for each
line on which a rule for a file is broken, in order of path and rule; the last line
counts rules, files and messages; and the run fails exactly if a rule is broken.  Both
kinds of messages tell of the same violations.  Only a notice with an integer that
cannot be written keeps the report from being made. -/
theorem lint_reports (answers : Answers) {directory : String} (hfs : fs.root.WellFormed)
    (hload : loadRules fs (fs.absolute (Path.join directory configName)) =
      .ok (.ok rules))
    (hnames : ∀ r ∈ rules, ∃ t, r.name = .text t) (hkeeps : ∀ r ∈ rules, r.KeepsFiles)
    (hclean : ∀ path ∈ fs.sources (fs.absolute directory), ∃ text,
      fs.readText path = .ok text ∧
      (violationsIn rules path text).fault = none) :
    ∃ reported : List Violation,
      (∀ path rule line, (path, rule, line) ∈ reported.map Violation.spot ↔
        path ∈ fs.sources (fs.absolute directory) ∧ BrokenAt fs rules path rule line) ∧
      (reported.Pairwise fun a b => a.Before b ∧ ¬ a.SameSpot b) ∧
      (∀ v ∈ reported, ShowsLine fs v) ∧
      ∀ full,
        ((∀ v ∈ reported, CanBeTold (fs.absolute directory) full v) →
          ((∃ path rule line, path ∈ fs.sources (fs.absolute directory) ∧
              BrokenAt fs rules path rule line) →
            lint fs answers false directory full =
              (⟨messages (fs.absolute directory) full reported ++
                printed (Report.error ("Linting failed (" ++ tally rules.length
                  (fs.sources (fs.absolute directory)).length reported.length ++ ").")),
                [], .ok 1⟩, fs)) ∧
          ((¬ ∃ path rule line, path ∈ fs.sources (fs.absolute directory) ∧
              BrokenAt fs rules path rule line) →
            lint fs answers false directory full =
              (⟨messages (fs.absolute directory) full reported ++
                printed (Report.success ("Linting succeeded (" ++ tally rules.length
                  (fs.sources (fs.absolute directory)).length reported.length ++ ").")),
                [], .ok 0⟩, fs))) ∧
        ((∃ v ∈ reported, ¬ CanBeTold (fs.absolute directory) full v) →
          (lint fs answers false directory full).1.result = .error .hugeInteger) := by
  obtain ⟨text, hconfig⟩ := load_of_loadRules hload
  have hperm := inPathOrder_perm (fs.sources (fs.absolute directory))
  -- no file comes twice, so the order of the paths is strict
  have hpaths : (inPathOrder (fs.sources (fs.absolute directory))).Pairwise (· < ·) := by
    have hnodup := hperm.nodup_iff.mpr (Files.sources_nodup hfs (fs.absolute directory))
    exact ((inPathOrder_pairwise _).and hnodup).imp fun h => lt_of_le_of_ne h.1 h.2
  obtain ⟨hfault, hlists⟩ := lists_files hkeeps hnames (Config.names_apart hconfig) hpaths
    fun path hpath => hclean path (hperm.mem_iff.mp hpath)
  rcases hfound : violations fs (fs.sources (fs.absolute directory)) rules
    with ⟨reported, fault⟩
  rw [violations] at hfound
  rw [hfound] at hfault hlists
  cases hfault
  have hspots := fun path rule line =>
    (hlists.mem path rule line).trans (and_congr_left' hperm.mem_iff)
  have hsources : sourcesOf fs answers false (fs.absolute directory) =
      ⟨[], .ok (fs.sources (fs.absolute directory)), fs⟩ := rfl
  have hlint := lint_of_sourcesOf hload hsources
  refine ⟨reported, hspots, hlists.ordered, hlists.shown, fun full =>
    ⟨fun htold => ?_, ?_⟩⟩
  · rw [hlint, lintFiles_eq hfound htold, leftByLint_eq hkeeps, summary_eq]
    cases reported with
    | nil =>
        refine ⟨?_, fun _ => rfl⟩
        rintro ⟨path, rule, line, hbroken⟩
        cases (hspots path rule line).mpr hbroken
    | cons v rest =>
        refine ⟨fun _ => rfl, fun hnone => ?_⟩
        exact absurd ⟨v.path, v.rule, v.line, (hspots _ _ _).mp List.mem_cons_self⟩ hnone
  · intro huntold
    rw [hlint]
    exact lintFiles_untold hfound huntold

end

/-! ### A project with a broken rule -/

/-- The bytes of a text in ASCII. -/
def bytesOf (s : String) : List UInt8 :=
  s.toList.map fun c => c.toNat.toUInt8

/-- A project in the root, with a configuration and a source. -/
def projectWith (source : String) : Files :=
  ⟨.directory (.cons configName (.file (bytesOf Config.oneRule))
    (.cons "m.py" (.file (bytesOf source)) .nil)), []⟩

/-- A project with two comments for a source. -/
def smallProject : Files :=
  projectWith Lint.twoComments

theorem isName_config : IsName configName := by
  unfold IsName
  decide

theorem isName_source : IsName "m.py" := by
  unfold IsName
  decide

theorem projectWith_wellFormed (source : String) : (projectWith source).root.WellFormed :=
  ⟨isName_config, rfl, trivial, isName_source, rfl, trivial, trivial⟩

theorem absolute_config (source : String) :
    (projectWith source).absolute (Path.join "/" configName) = "/.bellybutton.yml" := by
  rw [Path.join_root isName_config, Files.absolute, Path.absolute,
    if_pos (Path.isAbsolute_iff.mpr (by decide))]
  decide

theorem absolute_root (source : String) : (projectWith source).absolute "/" = "/" := by
  rw [Files.absolute, Path.absolute, if_pos (Path.isAbsolute_iff.mpr (by decide))]
  decide

theorem isSource_config : isSource configName = false :=
  decide_eq_false (by decide)

theorem isSource_source : isSource "m.py" = true :=
  decide_eq_true rfl

/-- The project has one source. -/
theorem sources_projectWith (source : String) :
    (projectWith source).sources "/" = ["/m.py"] := by
  have hfind : (projectWith source).find "/" = .ok (projectWith source).root :=
    Files.find_of_components (Path.isAbsolute_iff.mpr (by decide)) rfl rfl
  rw [Files.sources, hfind]
  show (if isSource configName then [Path.join "/" configName] else []) ++
    ((if isSource "m.py" then [Path.join "/" "m.py"] else []) ++ []) = _
  rw [isSource_config, isSource_source, Path.join_root isName_source]
  rfl

theorem find_source (source : String) :
    (projectWith source).find "/m.py" = .ok (.file (bytesOf source)) :=
  Files.find_of_components (Path.isAbsolute_iff.mpr (by decide)) rfl rfl

theorem find_config (source : String) :
    (projectWith source).find "/.bellybutton.yml" =
      .ok (.file (bytesOf Config.oneRule)) :=
  Files.find_of_components (Path.isAbsolute_iff.mpr (by decide)) rfl rfl

theorem readText_of_find {fs : Files} {path : String}
    (hfind : fs.find path = .ok (.file (bytesOf Lint.twoComments))) :
    fs.readText path = .ok Lint.twoComments := by
  rw [Files.readText, Files.readBytes, hfind]
  rfl

theorem absolute_smallProject : smallProject.absolute "/" = "/" :=
  absolute_root _

theorem sources_smallProject : smallProject.sources "/" = ["/m.py"] :=
  sources_projectWith _

theorem readText_smallProject : smallProject.readText "/m.py" = .ok Lint.twoComments :=
  readText_of_find (find_source _)

set_option maxRecDepth 4000 in
theorem readStream_of_find {fs : Files} {path : String}
    (hfind : fs.find path = .ok (.file (bytesOf Config.oneRule))) :
    fs.readStream path = .ok Config.oneRule := by
  rw [Files.readStream, Files.readBytes, hfind]
  rfl

/-- A rule like that of the configuration, with some description. -/
def ruleWith (description : Value) : Rule :=
  ⟨.text "A", description,
    .regex ⟨"=", { multiline := true, unicode := true }, .leaf (.point .exact 61)⟩, .null,
      .null,
    ⟨.text "*", .text "", .text "y"⟩⟩

/-- The rule of the configuration. -/
def smallRule : Rule :=
  ruleWith (.text "d")

theorem keepsFiles_ruleWith (description : Value) :
    ∀ r ∈ [ruleWith description], r.KeepsFiles :=
  List.forall_mem_singleton.mpr (Rule.keepsFiles_of_call? rfl)

theorem isHuge_int (n : Nat) :
    (Value.int n).isHuge = decide (Source.writtenLimit ≤ n) := by
  rw [Value.isHuge, Int.natAbs_natCast]

/-- The notices of the rule can be told. -/
theorem canBeTold_smallRule {top : String} {full : Bool} {v : Violation} {n : Nat}
    (hrule : v.rule = smallRule) (hline : v.line = .int n)
    (hn : n < Source.writtenLimit) :
    CanBeTold top full v := by
  have hint : (Value.int n).isHuge = false := by
    rw [isHuge_int]
    exact decide_eq_false (Nat.not_le.mpr hn)
  have hrest : ∀ value ∈ [smallRule.name, smallRule.description] ++
      if full then [smallRule.sample, smallRule.remedy] else [],
        value.isHuge = false := by
    cases full <;> decide
  rw [CanBeTold, noticeOf, hrule, hline]
  exact List.forall_mem_cons.mpr ⟨hint, hrest⟩

theorem load_oneRule [Host]
    (hvalue : Config.valueOf "/.bellybutton.yml" Config.oneRule =
      .ok Config.oneRuleValue) :
    Config.load "/.bellybutton.yml" Config.oneRule = .ok [smallRule] := by
  rw [Config.load_eq_mapM hvalue rfl rfl rfl]
  rfl

/-- The rules of the project come from the value of its configuration. -/
theorem loadRules_of_value [Host] {fs : Files}
    (hvalue : Config.valueOf "/.bellybutton.yml" Config.oneRule = .ok Config.oneRuleValue)
    (hfind : fs.find "/.bellybutton.yml" = .ok (.file (bytesOf Config.oneRule))) :
    loadRules fs "/.bellybutton.yml" = .ok (.ok [smallRule]) := by
  have hrules : rulesAt fs "/.bellybutton.yml" = .ok [smallRule] :=
    bind_eq_ok.mpr ⟨_, readStream_of_find hfind, load_oneRule hvalue⟩
  rw [loadRules, hrules]

open scoped Standard

theorem loadRules_of_find {fs : Files}
    (hfind : fs.find "/.bellybutton.yml" = .ok (.file (bytesOf Config.oneRule))) :
    loadRules fs "/.bellybutton.yml" = .ok (.ok [smallRule]) :=
  loadRules_of_value Config.valueOf_oneRule hfind

/-- The configuration of the project is read from its file. -/
theorem loadRules_smallProject :
    loadRules smallProject (smallProject.absolute (Path.join "/" configName)) =
      .ok (.ok [smallRule]) := by
  rw [smallProject, absolute_config]
  exact loadRules_of_find (find_config _)

/-- The rule is broken on the second line of the source, whatever it is described
with. -/
theorem violationsIn_ruleWith (description : Value) :
    violationsIn [ruleWith description] "/m.py" Lint.twoComments =
      ⟨[⟨"/m.py", .int 2, "# =", ruleWith description⟩], none⟩ := by
  have hselects : (ruleWith description).settings.selects "/m.py" = .ok true := by rfl
  have hsubject := Lint.Subject.ofText_eq_ok Lint.ignoredLines_twoComments
    Lint.ofSource_twoComments Lint.documentOf_moduleOf_nil
  -- both comments match, and the first one asks for silence
  have hlines : Lint.linesOf (ruleWith description).expr Lint.twoComments
    Lint.blankDocument =
      .ok (some [.int 1, .int 2]) := by
    have hpattern : Lint.patternLines
        ⟨"=", { multiline := true, unicode := true }, .leaf (.point .exact 61)⟩
        Lint.twoComments = [1, 2] := by
      decide +kernel
    rw [ruleWith, Lint.linesOf, hpattern]
    rfl
  have hleft : Lint.linesLeft ⟨Lint.twoComments, [1], Lint.blankDocument⟩
    (ruleWith description)
      [.int 1, .int 2] = [.int 2] := Lint.linesLeft_eq_singleton rfl
  rw [violationsIn, Lint.file_of_lines hselects hsubject hlines, hleft]
  rfl

/-- The violations of the only file are all there are in the project. -/
theorem brokenAt_smallProject (path : String) (rule : Rule) (line : Value) :
    path ∈ smallProject.sources "/" ∧ BrokenAt smallProject [smallRule] path rule line ↔
      path = "/m.py" ∧ rule = smallRule ∧ line = .int 2 := by
  have hin : violationsIn [smallRule] "/m.py" Lint.twoComments =
      ⟨[⟨"/m.py", .int 2, "# =", smallRule⟩], none⟩ := violationsIn_ruleWith _
  have hnames : ∀ r ∈ [smallRule], ∃ t, r.name = .text t :=
    List.forall_mem_singleton.mpr ⟨"A", rfl⟩
  have hlists := lists_file hnames (List.pairwise_singleton _ _)
    (congrArg Violations.fault hin)
  rw [hin] at hlists
  rw [sources_smallProject, List.mem_singleton, ← Prod.mk.injEq rule,
    ← Prod.mk.injEq path]
  refine Iff.trans (and_congr_right ?_)
    ((hlists.mem path rule line).symm.trans List.mem_singleton)
  rintro rfl
  constructor
  · rintro ⟨_, htext, hb⟩
    exact Except.ok.inj (htext.symm.trans readText_smallProject) ▸ hb
  · exact fun hb => ⟨_, readText_smallProject, hb⟩

/-- The rule is broken on the second line only: the comment on the first one silences it
there. -/
theorem lint_reports_smallProject :
    ∃ reported : List Violation,
      (∀ path rule line, (path, rule, line) ∈ reported.map Violation.spot ↔
        path = "/m.py" ∧ rule = smallRule ∧ line = .int 2) ∧
      ∀ full, lint smallProject {} false "/" full =
        (⟨messages "/" full reported ++
          printed (Report.error ("Linting failed (" ++
            tally 1 1 reported.length ++ ").")),
          [], .ok 1⟩, smallProject) := by
  have hnames : ∀ r ∈ [smallRule], ∃ t, r.name = .text t :=
    List.forall_mem_singleton.mpr ⟨"A", rfl⟩
  have hfault : (violationsIn [smallRule] "/m.py" Lint.twoComments).fault = none :=
    congrArg Violations.fault (violationsIn_ruleWith _)
  have hclean : ∀ path ∈ smallProject.sources (smallProject.absolute "/"),
      ∃ text, smallProject.readText path = .ok text ∧
        (violationsIn [smallRule] path text).fault = none := by
    rw [absolute_smallProject, sources_smallProject]
    exact List.forall_mem_singleton.mpr ⟨_, readText_smallProject, hfault⟩
  have hwell : smallProject.root.WellFormed := projectWith_wellFormed _
  obtain ⟨reported, hspots, -, -, hlint⟩ :=
    lint_reports {} hwell loadRules_smallProject hnames (keepsFiles_ruleWith _) hclean
  rw [absolute_smallProject] at hspots hlint
  have hall := fun path rule line =>
    (hspots path rule line).trans (brokenAt_smallProject path rule line)
  refine ⟨reported, hall, fun full => ?_⟩
  -- the lines are short numbers, so they can be told
  have htold : ∀ v ∈ reported, CanBeTold "/" full v := by
    intro v hv
    obtain ⟨-, hrule, hline⟩ := (hall _ _ _).mp (List.mem_map_of_mem hv)
    exact canBeTold_smallRule hrule hline (by decide +kernel)
  have hfails := ((hlint full).1 htold).1 ⟨"/m.py", smallRule, .int 2,
    (brokenAt_smallProject _ _ _).mpr ⟨rfl, rfl, rfl⟩⟩
  rw [sources_smallProject] at hfails
  exact hfails

/-! ### Lines that do not ascend -/

/-- A host that goes through a set from the last member on, as a table of eight places
does with 1 and 8. -/
@[reducible] def lastFirst : Host :=
  { Standard.host with
    order := fun arrived gone =>
      (arrived.filter fun v => !gone.any (Value.same · v)).reverse
    order_perm := fun _ _ => List.reverse_perm _ }

/-- A source with an equals sign on the first and on the eighth line. -/
def farComments : String := "# =\n\n\n\n\n\n\n# =\n"

/-- A host that goes through a set from its last member finds the later line first. -/
theorem violationsIn_farComments :
    @violationsIn lastFirst [smallRule] "/m.py" farComments =
      ⟨[⟨"/m.py", .int 8, "# =", smallRule⟩, ⟨"/m.py", .int 1, "# =", smallRule⟩],
        none⟩ := by
  let : Host := lastFirst
  have hselects : smallRule.settings.selects "/m.py" = .ok true := by rfl
  have hignored : Source.ignoredLines farComments = .ok [] := by rfl
  have hsource : Source.Tree.ofSource farComments = .ok (.moduleOf []) := by rfl
  have hsubject := Lint.Subject.ofText_eq_ok hignored hsource Lint.documentOf_moduleOf_nil
  -- both lines match, and the host goes through them from the last
  have hlines : Lint.linesOf smallRule.expr farComments Lint.blankDocument =
      .ok (some [.int 1, .int 8]) := by
    have hpattern : Lint.patternLines
        ⟨"=", { multiline := true, unicode := true }, .leaf (.point .exact 61)⟩
        farComments = [1, 8] := by
      decide +kernel
    rw [smallRule, ruleWith, Lint.linesOf, hpattern]
    rfl
  rw [violationsIn, Lint.file_of_lines hselects hsubject hlines]
  rfl

/-- And so does the report. -/
theorem lint_farComments :
    (@lint lastFirst (projectWith farComments) {} false "/" false).1.output =
      "m.py:8\tA: d\nm.py:1\tA: d\n" ++
        printed (Report.error "Linting failed (1 rule, 1 file, 2 violations).") := by
  let : Host := lastFirst
  have hread : (projectWith farComments).readText "/m.py" = .ok farComments := by
    rw [Files.readText, Files.readBytes, find_source]
    rfl
  have hload : loadRules (projectWith farComments)
      ((projectWith farComments).absolute (Path.join "/" configName)) =
        .ok (.ok [smallRule]) := by
    rw [absolute_config]
    exact loadRules_of_value (Config.valueOf_of_isOneRule (by decide +kernel))
      (find_config _)
  -- the project has one source, and no command is run for it
  have hsources : sourcesOf (projectWith farComments) {} false
      ((projectWith farComments).absolute "/") =
        ⟨[], .ok ["/m.py"], projectWith farComments⟩ := by
    rw [absolute_root, sourcesOf, sources_projectWith]
    rfl
  have hviolations : violations (projectWith farComments) ["/m.py"] [smallRule] =
      ⟨[⟨"/m.py", .int 8, "# =", smallRule⟩, ⟨"/m.py", .int 1, "# =", smallRule⟩],
        none⟩ := by
    rw [violations, inPathOrder, List.mergeSort_singleton, violationsFrom, hread]
    dsimp only
    rw [violationsIn_farComments]
    rfl
  have htold :
    ∀ v ∈ [⟨"/m.py", .int 8, "# =", smallRule⟩, ⟨"/m.py", .int 1, "# =", smallRule⟩],
      CanBeTold "/" false v :=
    List.forall_mem_cons.mpr ⟨canBeTold_smallRule rfl rfl (by decide +kernel),
      List.forall_mem_singleton.mpr (canBeTold_smallRule rfl rfl (by decide +kernel))⟩
  rw [lint_of_sourcesOf hload hsources, absolute_root, lintFiles_eq hviolations htold]
  rfl

/-- **Two ways in which a report is not what one expects.** The lines of a rule do not
ascend if the host goes through a set in another order; and a description that is an
integer with too many digits ends the run in place of the first message. -/
theorem lint_unordered :
    (@lint lastFirst (projectWith farComments) {} false "/" false).1.output =
      "m.py:8\tA: d\nm.py:1\tA: d\n" ++
        printed (Report.error "Linting failed (1 rule, 1 file, 2 violations).") ∧
    lintFiles smallProject "/" false [ruleWith (.int Source.writtenLimit)] ["/m.py"] =
      ("", .error .hugeInteger) := by
  refine ⟨lint_farComments, ?_⟩
  -- the second half: a rule whose description is too long a number to be written
  have hviolations :
    violations smallProject ["/m.py"] [ruleWith (.int Source.writtenLimit)] =
      ⟨[⟨"/m.py", .int 2, "# =", ruleWith (.int Source.writtenLimit)⟩], none⟩ := by
    rw [violations, inPathOrder, List.mergeSort_singleton, violationsFrom,
      readText_smallProject]
    dsimp only
    rw [violationsIn_ruleWith]
    rfl
  -- the description is one of the values that a message has to write
  have huntold : ¬ CanBeTold "/" false
      ⟨"/m.py", .int 2, "# =", ruleWith (.int Source.writtenLimit)⟩ := by
    intro h
    have hhuge := h (.int Source.writtenLimit)
      (List.mem_cons_of_mem _ (List.mem_cons_of_mem _ List.mem_cons_self))
    rw [isHuge_int] at hhuge
    exact of_decide_eq_false hhuge le_rfl
  rw [lintFiles, hviolations]
  dsimp only
  rw [tellAll, told_of_not_canBeTold huntold]
  rfl

end Project

end RuleLint
