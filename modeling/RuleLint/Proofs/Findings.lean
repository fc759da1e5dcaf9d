/-
RuleLint/Proofs/Findings.lean

What a run of rules on a file comes to.

`Verdict` says what one rule contributes: one finding that it is kept if no line is left
to it, else one finding for every line that is left.  A run without a fault is the
verdicts of its rules, one after the other (`verdicts_of_runAll`), and there is no fault
where every expression can be asked (`runAll_fault_eq_none`).  Which rules take part and
in which order is settled before: those that select the path (`selected_eq_ok`), in
stable order of their names (`byName_stable`).

Main result: `file_findings`, for every path, every text that can be read and every list
of rules.
-/
import RuleLint.Host.Standard
import RuleLint.Proofs.Lines

namespace RuleLint

/-! ### Which rules take part -/

/-- Whether a rule is for a file with a path. -/
def Rule.isFor (path : String) (rule : Rule) : Bool :=
  match rule.settings.selects path with
  | .ok chosen => chosen
  | .error _ => false

/-- The name of a rule as a text; names of other kinds have none. -/
def Rule.nameText (rule : Rule) : String :=
  match rule.name with
  | .text s => s
  | _ => ""

theorem Rule.name_eq_nameText {rule : Rule} (h : ∃ t, rule.name = .text t) :
    rule.name = .text rule.nameText := by
  obtain ⟨t, ht⟩ := h
  rw [Rule.nameText, ht]

/-- Both kinds of patterns are lists of texts. -/
def Settings.HasPatterns (s : Settings) : Prop :=
  (∃ ps : List String, s.included = .list (ps.map .text)) ∧
    (∃ ps : List String, s.excluded = .list (ps.map .text))

namespace Selection

theorem parts_texts (ps : List String) :
    (Value.list (ps.map .text)).parts = .ok (ps.map .text) := by
  simp [Value.parts, Value.unrolled, Value.fill, Function.comp_def]

/-- Of patterns that are texts, any may match. -/
theorem anyMatches_texts (path : String) (ps : List String) :
    anyMatches path (ps.map .text) =
      .ok (ps.any fun p => (Glob.Pattern.ofText p).matches path) := by
  induction ps with
  | nil => rfl
  | cons p ps ih =>
      show (if (Glob.Pattern.ofText p).matches path then Except.ok true
        else anyMatches path (ps.map .text)) = _
      rw [ih, List.any_cons]
      cases (Glob.Pattern.ofText p).matches path <;> rfl

end Selection

/-- Settings with lists of texts select what an included pattern matches and no excluded
one. -/
theorem Settings.selects_texts (ps qs : List String) (allowIgnore : Value)
    (path : String) :
    Settings.selects ⟨.list (ps.map .text), .list (qs.map .text), allowIgnore⟩ path =
      .ok ((ps.any fun p => (Glob.Pattern.ofText p).matches path) &&
        !(qs.any fun p => (Glob.Pattern.ofText p).matches path)) :=
  bind_eq_ok.mpr ⟨_, Selection.parts_texts ps,
    bind_eq_ok.mpr ⟨_, Selection.anyMatches_texts path ps,
    bind_eq_ok.mpr ⟨_, Selection.parts_texts qs,
      bind_eq_ok.mpr ⟨_, Selection.anyMatches_texts path qs, rfl⟩⟩⟩⟩

/-- Settings with patterns can be asked for every path. -/
theorem Settings.HasPatterns.selects_ok {s : Settings} (h : s.HasPatterns)
    (path : String) : ∃ b, s.selects path = .ok b := by
  obtain ⟨included, excluded, allowIgnore⟩ := s
  obtain ⟨⟨ps, rfl⟩, ⟨qs, rfl⟩⟩ := h
  exact ⟨_, Settings.selects_texts ps qs allowIgnore path⟩

/-- Settings with one pattern for what is included and none for what is not select what
the pattern matches. -/
theorem Settings.selects_pattern (pattern path : String) (allowIgnore : Value) :
    Settings.selects ⟨.list [.text pattern], .list [], allowIgnore⟩ path =
      .ok ((Glob.Pattern.ofText pattern).matches path) := by
  have hselects := Settings.selects_texts [pattern] [] allowIgnore path
  simpa only [List.map_cons, List.map_nil, List.any_cons, List.any_nil, Bool.or_false,
    Bool.not_false, Bool.and_true] using hselects

namespace Lint

variable {path text : String} {rules : List Rule}

/-- A selection without a fault has asked every rule, and holds those that are for the
path. -/
theorem selected_eq_ok {chosen : List Rule} :
    selected path rules = .ok chosen ↔
      chosen = rules.filter (Rule.isFor path) ∧ ∀ r ∈ rules, ∃ b,
        r.settings.selects path = .ok b := by
  induction rules generalizing chosen with
  | nil =>
      rw [selected]
      constructor
      · intro h
        cases h
        simp
      · rintro ⟨rfl, -⟩
        rfl
  | cons rule rules ih =>
      -- the settings of every rule are asked, also of those that are not for the path
      rw [selected, bind_eq_ok]
      constructor
      · rintro ⟨b, hb, h⟩
        obtain ⟨more, hmore, h⟩ := bind_eq_ok.mp h
        obtain ⟨rfl, hall⟩ := ih.mp hmore
        cases h
        refine ⟨?_, List.forall_mem_cons.mpr ⟨⟨b, hb⟩, hall⟩⟩
        rw [List.filter_cons, Rule.isFor, hb]
      · rintro ⟨rfl, hall⟩
        obtain ⟨⟨b, hb⟩, hall⟩ := List.forall_mem_cons.mp hall
        refine ⟨b, hb, bind_eq_ok.mpr ⟨_, ih.mpr ⟨rfl, hall⟩, ?_⟩⟩
        rw [List.filter_cons, Rule.isFor, hb]
        rfl

/-- Rules with texts for names can be put in order, and the order is stable. -/
theorem byName_stable (hnames : ∀ r ∈ rules, ∃ t, r.name = .text t) :
    ∃ ordered, byName rules = .ok ordered ∧ StablySorted Rule.nameText rules ordered := by
  have hlt : ∀ a b : Rule, (∃ t, a.name = .text t) → (∃ t, b.name = .text t) →
      Value.lt a.name b.name = .ok (decide (a.nameText < b.nameText)) := by
    intro a b ha hb
    rw [Rule.name_eq_nameText ha, Rule.name_eq_nameText hb]
    rfl
  obtain ⟨ordered, hsort, hst⟩ := sortOn_stable hlt hnames
  exact ⟨ordered, by rw [byName, hsort], hst⟩

section Runs

variable [Host]

/-- What is prepared, once it is known which rules take part and in which order. -/
theorem prepare_eq_of_order {chosen ordered : List Rule}
    (hchosen : selected path rules = .ok chosen)
    (hordered : byName chosen = .ok ordered) :
    prepare path text rules =
      if chosen.isEmpty then .ok none else (Subject.ofText text).map fun s =>
        some (s, ordered) := by
  -- an order is asked for only if there is a rule to run, and after the text has been
  -- read
  have hprepare : prepare path text rules =
      if chosen.isEmpty then .ok none
      else Subject.ofText text >>= fun s => byName chosen >>= fun ordered =>
        .ok (some (s, ordered)) := by
    rw [prepare, hchosen]
    rfl
  rw [hprepare, hordered]
  cases Subject.ofText text <;> rfl

/-- A run, once it is known which rules take part and in which order. -/
theorem file_eq_of_order {chosen ordered : List Rule}
    (hchosen : selected path rules = .ok chosen)
    (hordered : byName chosen = .ok ordered) :
    file path text rules =
      if chosen.isEmpty then ⟨[], none⟩
      else match Subject.ofText text with
        | .error f => ⟨[], some f⟩
        | .ok s => runAll s ordered := by
  rw [file, prepare_eq_of_order hchosen hordered]
  cases chosen.isEmpty
  · rcases Subject.ofText text with f | s <;> rfl
  · rfl

/-! ### What a rule contributes -/

/-- Whether a line is left to a rule: if the settings allow it, lines that comments
silence are not. -/
def isLeft (ignored : List Nat) (rule : Rule) (line : Value) : Bool :=
  !(rule.settings.allowIgnore.isTrue && ignored.any fun (n : Nat) =>
    Value.same (.int n) line)

/-- What a rule has to say about a text: that it is kept if no line is left to it, else
that it is broken, once for each line. -/
inductive Verdict (s : Subject) (rule : Rule) : List Finding → Prop
  | kept {vs ms : List Value} (hfinds : Finds s.text s.document rule.expr vs)
      (hset : IsSetOf vs ms)
      (hleft : ms.filter (isLeft s.ignored rule) = []) : Verdict s rule [⟨rule, none⟩]
  | broken {vs ms lines : List Value} (hfinds : Finds s.text s.document rule.expr vs)
      (hset : IsSetOf vs ms)
      (hleft : lines.Perm (ms.filter (isLeft s.ignored rule))) (hne : lines ≠ []) :
      Verdict s rule (lines.map fun line => ⟨rule, some line⟩)

/-- The way through what is left of lines. -/
def linesLeft (s : Subject) (rule : Rule) (lines : List Value) : List Value :=
  Host.order lines (silenced s rule)

/-- The lines that are left are those that are not ignored, in an order of the host. -/
theorem linesLeft_perm (s : Subject) (rule : Rule) (lines : List Value) :
    (linesLeft s rule lines).Perm (lines.filter (isLeft s.ignored rule)) := by
  have hleft : (fun line => !(silenced s rule).any (Value.same · line)) =
      isLeft s.ignored rule := by
    funext line
    unfold silenced isLeft
    cases rule.settings.allowIgnore.isTrue
    · rfl
    · simp [asLines, Function.comp_def]
  rw [← hleft]
  exact Host.order_perm lines (silenced s rule)

/-- A line that is left alone is the only one on the way. -/
theorem linesLeft_eq_singleton {s : Subject} {rule : Rule} {lines : List Value}
    {line : Value}
    (h : lines.filter (isLeft s.ignored rule) = [line]) :
    linesLeft s rule lines = [line] :=
  (h ▸ linesLeft_perm s rule lines).eq_singleton

/-- A rule that cannot be run finds nothing. -/
theorem runRule_of_not_canRun {s : Subject} {rule : Rule} (h : canRun rule.expr = false) :
    runRule s rule = .ok [] := by
  rw [runRule, linesOf_eq_none_iff.mpr h]
  rfl

/-- Otherwise it finds the lines of its expression that are left. -/
theorem runRule_of_lines {s : Subject} {rule : Rule} {lines : List Value}
    (h : linesOf rule.expr s.text s.document = .ok (some lines)) :
    runRule s rule = .ok (findingsAt rule (linesLeft s rule lines)) := by
  rw [runRule, h]
  rfl

/-- The finds of an expression that can be run, and what the rule makes of them. -/
theorem verdict_of_runRule {s : Subject} {rule : Rule} {block : List Finding}
    (hrun : canRun rule.expr = true) (h : runRule s rule = .ok block) :
    Verdict s rule block := by
  rcases hlines : linesOf rule.expr s.text s.document with f | - | lines
  · rw [runRule, hlines] at h
    cases h
  · rw [linesOf_eq_none_iff.mp hlines] at hrun
    cases hrun
  · rw [runRule_of_lines hlines] at h
    cases h
    obtain ⟨vs, hfinds, rfl⟩ := finds_of_linesOf hlines
    have hset := isSetOf_members vs
    have hleft := linesLeft_perm s rule (members vs)
    rcases hf : linesLeft s rule (members vs) with - | ⟨line, more⟩
    · rw [hf] at hleft
      exact .kept hfinds hset (List.nil_perm.mp hleft)
    · rw [hf] at hleft
      exact .broken hfinds hset hleft (List.cons_ne_nil line more)

/-! ### Runs -/

/-- A step of a run. -/
theorem runAll_cons_of_ok {s : Subject} {rule : Rule} {block : List Finding}
    (h : runRule s rule = .ok block) (rest : List Rule) :
    runAll s (rule :: rest) = ⟨block ++ (runAll s rest).findings,
      (runAll s rest).fault⟩ := by
  rw [runAll, h]

/-- A run without a fault is the verdicts of its rules, one after the other; rules that
cannot be run have none. -/
theorem verdicts_of_runAll {s : Subject} {rules : List Rule}
    (h : (runAll s rules).fault = none) :
    ∃ blocks, List.Forall₂ (Verdict s) (rules.filter fun r => canRun r.expr) blocks ∧
      (runAll s rules).findings = blocks.flatten := by
  -- by induction on the rules: one that cannot be run has no verdict and no findings
  induction rules with
  | nil => exact ⟨[], .nil, rfl⟩
  | cons rule rest ih =>
      rcases hrule : runRule s rule with f | block
      · rw [runAll, hrule] at h
        cases h
      · rw [runAll_cons_of_ok hrule] at h ⊢
        obtain ⟨blocks, hall, hflat⟩ := ih h
        by_cases hrun : canRun rule.expr = true
        · refine ⟨block :: blocks, ?_, by simp [hflat]⟩
          rw [List.filter_cons, if_pos hrun]
          exact .cons (verdict_of_runRule hrun hrule) hall
        · refine ⟨blocks, ?_, ?_⟩
          · rw [List.filter_cons, if_neg hrun]
            exact hall
          · rw [runRule_of_not_canRun (Bool.eq_false_iff.mpr hrun)] at hrule
            cases hrule
            exact hflat

/-- A run has no fault if every expression that can be run finds something or nothing. -/
theorem runAll_fault_eq_none {s : Subject} {rules : List Rule}
    (h : ∀ r ∈ rules, canRun r.expr = true → ∃ vs, Finds s.text s.document r.expr vs) :
    (runAll s rules).fault = none := by
  induction rules with
  | nil => rfl
  | cons rule rest ih =>
      have hok : ∃ block, runRule s rule = .ok block := by
        by_cases hrun : canRun rule.expr = true
        · obtain ⟨vs, hvs⟩ := h rule List.mem_cons_self hrun
          exact ⟨_, runRule_of_lines (linesOf_of_finds hvs)⟩
        · exact ⟨[], runRule_of_not_canRun (Bool.eq_false_iff.mpr hrun)⟩
      obtain ⟨block, hblock⟩ := hok
      rw [runAll_cons_of_ok hblock]
      exact ih fun r hr => h r (List.mem_cons_of_mem rule hr)

/-- A text is read for its comments, for its tree and for its document. -/
theorem Subject.ofText_eq_ok {ignored : List Nat} {tree : Source.Tree}
    {document : XPath.Document}
    (hignored : Source.ignoredLines text = .ok ignored)
    (htree : Source.Tree.ofSource text = .ok tree)
    (hdocument : Clause.documentOf tree = .ok document) :
    Subject.ofText text = .ok ⟨text, ignored, document⟩ := by
  rw [Subject.ofText, hignored, htree]
  show (Clause.documentOf tree >>= fun d => Except.ok (⟨text, ignored, d⟩ : Subject)) = _
  rw [hdocument]
  rfl

/-- What the preparation of a text has been through. -/
theorem Subject.ofText_cases {s : Subject} (h : Subject.ofText text = .ok s) :
    ∃ ignored tree document, Source.ignoredLines text = .ok ignored ∧
      Source.Tree.ofSource text = .ok tree ∧
      Clause.documentOf tree = .ok document ∧ s = ⟨text, ignored, document⟩ := by
  rw [Subject.ofText] at h
  rcases hignored : Source.ignoredLines text with f | ignored <;> rw [hignored] at h
  · cases h
  rcases htree : Source.Tree.ofSource text with f | tree <;> rw [htree] at h
  · cases h
  obtain ⟨_, hpure, h⟩ := bind_eq_ok.mp h
  cases hpure
  obtain ⟨_, hpure, h⟩ := bind_eq_ok.mp h
  cases hpure
  obtain ⟨document, hdoc, h⟩ := bind_eq_ok.mp h
  cases h
  exact ⟨ignored, tree, document, rfl, rfl, hdoc, rfl⟩

/-- A run of one rule that is for the path. -/
theorem file_one {rule : Rule} (hselects : rule.settings.selects path = .ok true) :
    file path text [rule] =
      match Subject.ofText text with
      | .error f => ⟨[], some f⟩
      | .ok s => runAll s [rule] := by
  have hselected : selected path [rule] = .ok [rule] := by
    rw [selected, hselects]
    rfl
  rw [file_eq_of_order hselected rfl]
  rfl

/-- A text that cannot be read ends the run before any rule. -/
theorem file_of_unread {rule : Rule} {f : Fault}
    (hselects : rule.settings.selects path = .ok true)
    (hs : Subject.ofText text = .error f) : file path text [rule] = ⟨[], some f⟩ := by
  rw [file_one hselects, hs]

/-- An expression that cannot be answered ends it, too. -/
theorem file_of_unanswered {rule : Rule} {s : Subject} {f : Fault}
    (hselects : rule.settings.selects path = .ok true)
    (hs : Subject.ofText text = .ok s)
    (hlines : linesOf rule.expr s.text s.document = .error f) :
    file path text [rule] = ⟨[], some f⟩ := by
  rw [file_one hselects, hs]
  dsimp only
  rw [runAll, runRule, hlines]
  rfl

/-- The findings of one rule, once it is known what its expression finds. -/
theorem file_of_lines {rule : Rule} {s : Subject} {lines : List Value}
    (hselects : rule.settings.selects path = .ok true)
    (hs : Subject.ofText text = .ok s)
    (hlines : linesOf rule.expr s.text s.document = .ok (some lines)) :
    file path text [rule] = ⟨findingsAt rule (linesLeft s rule lines), none⟩ := by
  rw [file_one hselects, hs]
  dsimp only
  rw [runAll_cons_of_ok (runRule_of_lines hlines), runAll, List.append_nil]

/-- **The findings of a file.** Whenever the text can be read, the rules are named by
texts and select paths by texts, and no expression that is to be run or called fails,
the run has no fault and its findings are the verdicts of exactly those rules that are
for the path and can be run, in stable order of their names. -/
theorem file_findings {ignored : List Nat} {tree : Source.Tree}
    {document : XPath.Document}
    (hignored : Source.ignoredLines text = .ok ignored)
    (htree : Source.Tree.ofSource text = .ok tree)
    (hdocument : Clause.documentOf tree = .ok document)
    (hnames : ∀ r ∈ rules, ∃ t, r.name = .text t)
    (hpatterns : ∀ r ∈ rules, r.settings.HasPatterns)
    (hruns : ∀ r ∈ rules, r.isFor path = true → canRun r.expr = true → ∃ vs,
      Finds text document r.expr vs) :
    ∃ (ordered : List Rule) (blocks : List (List Finding)),
      StablySorted Rule.nameText (rules.filter fun r => r.isFor path &&
        canRun r.expr) ordered ∧
        List.Forall₂ (Verdict ⟨text, ignored, document⟩) ordered blocks ∧
        file path text rules = ⟨blocks.flatten, none⟩ := by
  have hchosen : selected path rules = .ok (rules.filter (Rule.isFor path)) :=
    selected_eq_ok.mpr ⟨rfl, fun r hr => (hpatterns r hr).selects_ok path⟩
  have hnames' : ∀ r ∈ rules.filter (Rule.isFor path), ∃ t, r.name = .text t :=
    fun r hr => hnames r (List.mem_of_mem_filter hr)
  obtain ⟨ordered, hordered, hst⟩ := byName_stable hnames'
  have hquiet : (runAll ⟨text, ignored, document⟩ ordered).fault = none := by
    refine runAll_fault_eq_none fun r hr => ?_
    obtain ⟨hmem, hfor⟩ := List.mem_filter.mp (hst.perm.mem_iff.mp hr)
    exact hruns r hmem hfor
  obtain ⟨blocks, hall, hflat⟩ := verdicts_of_runAll hquiet
  refine ⟨ordered.filter fun r => canRun r.expr, blocks, ?_, hall, ?_⟩
  · have := hst.filter fun r => canRun r.expr
    rw [List.filter_filter] at this
    simpa only [Bool.and_comm] using this
  · rw [file_eq_of_order hchosen hordered, Subject.ofText_eq_ok hignored htree hdocument]
    have hrun : runAll ⟨text, ignored, document⟩ ordered = ⟨blocks.flatten, none⟩ := by
      rw [← hflat, ← hquiet]
    split
    · -- without a rule that is for the path the text is not looked at
      rename_i hempty
      have hnil : ordered = [] := by
        have := hst.perm
        rwa [List.isEmpty_iff.mp hempty, List.perm_nil] at this
      rw [hnil] at hrun
      exact hrun
    · exact hrun

end Runs

/-- Four rules: one whose lines comments may silence, two with one name of which one is
called, and one that cannot be run. -/
def mixedRules : List Rule :=
  let everywhere : Settings := ⟨.list [.text "*"], .list [], .bool true⟩
  [⟨.text "b", .null, .regex ⟨"=", { multiline := true, unicode := true },
    .leaf (.point .exact 61)⟩, .null, .null, everywhere⟩,
   ⟨.text "a", .null, .xpath ⟨"/b", .step .top .child (.named "b") .nil⟩, .null,
     .null, everywhere⟩,
   ⟨.text "a", .null, .object (Library.typeOf "builtins" "list"), .null,
     .null, everywhere⟩,
   ⟨.text "c", .null, .null, .null, .null, everywhere⟩]

theorem hasPatterns_mixedRules : ∀ r ∈ mixedRules, r.settings.HasPatterns := by
  intro r hr
  have hsettings : r.settings = ⟨.list (["*"].map .text), .list ([].map .text),
      .bool true⟩ := by
    simp only [mixedRules, List.mem_cons, List.not_mem_nil, or_false] at hr
    rcases hr with rfl | rfl | rfl | rfl <;> rfl
  rw [hsettings]
  exact ⟨⟨_, rfl⟩, ⟨_, rfl⟩⟩

/-- A text of two comments, of which the first silences its line. -/
def twoComments : String := "# = bb: ignore\n# =\n"

/-- The document of a source without statements. -/
def blankDocument : XPath.Document :=
  #[⟨.document, 0, 4⟩, ⟨.element "Module" [], 0, 4⟩, ⟨.element "body" [], 1, 3⟩,
    ⟨.element "type_ignores" [], 1, 4⟩]

theorem ignoredLines_twoComments : Source.ignoredLines twoComments = .ok [1] := by
  rfl

theorem ofSource_twoComments : Source.Tree.ofSource twoComments = .ok (.moduleOf []) := by
  rfl

theorem document?_moduleOf_nil :
    (Source.Tree.moduleOf []).document? = some blankDocument := by
  rfl

theorem query_blankDocument : Clause.query ⟨"/b", .step .top .child (.named "b") .nil⟩
    blankDocument = .ok (.nodes []) := by
  cbv

/-- Every character of a text is a line of what lists it. -/
theorem gaveParts_list (text : String) :
    GaveParts (Library.answer "builtins" "list" true text) (Library.charValues text) := by
  refine ⟨⟨.list (Library.charValues text), rfl, ?_⟩, ?_⟩
  · simp [Value.parts, Library.charValues, Value.unrolled, Value.fill, Function.comp_def]
  · intro v hv
    obtain ⟨c, -, rfl⟩ := List.mem_map.mp hv
    rfl

theorem documentOf_moduleOf_nil [Host] :
    Clause.documentOf (.moduleOf []) = .ok blankDocument :=
  Clause.documentOf_eq_ok.mpr ⟨le_trans (by decide) Host.depth_ge, document?_moduleOf_nil⟩

open scoped Standard

/-- Rules in another order than that of their names, one of which cannot be run. -/
theorem file_findings_mixedRules :
    ∃ (ordered : List Rule) (blocks : List (List Finding)),
      StablySorted Rule.nameText (mixedRules.filter fun r => r.isFor "m.py" &&
        canRun r.expr) ordered ∧
        List.Forall₂ (Verdict ⟨twoComments, [1], blankDocument⟩) ordered blocks ∧
        file "m.py" twoComments mixedRules = ⟨blocks.flatten, none⟩ := by
  refine file_findings ignoredLines_twoComments ofSource_twoComments
    documentOf_moduleOf_nil ?_ hasPatterns_mixedRules ?_
  · simp [mixedRules]
  · intro r hr _ hrun
    simp only [mixedRules, List.mem_cons, List.not_mem_nil, or_false] at hr
    rcases hr with rfl | rfl | rfl | rfl
    · exact ⟨_, .pattern _⟩
    · have hnone : queryLines blankDocument (.nodes []) = .ok [] := rfl
      exact ⟨_, .query query_blankDocument hnone⟩
    · exact ⟨_, .call rfl (gaveParts_list twoComments)⟩
    · cases hrun

end Lint

end RuleLint
