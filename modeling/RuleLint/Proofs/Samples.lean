/-
RuleLint/Proofs/Samples.lean

What the clauses of a rule say about its runs.

Clauses are checked when a rule is read, by what the result of its query counts as; a
run asks for the lines of the result.  The two agree on a sample if the result is made
of elements and one of them is in a statement (`broken_iff`), and on a remedy if the
result is no number and no truth value (`kept_iff`).  `clauses_foretell` says so for
every rule that is accepted; a sample for which the two disagree is in
`clause_without_line`.  A clause may also be given as bytes, and then the check goes
through and the run does not.

Only queries are asked about clauses.  A rule with a pattern has none or is refused
(`pattern_clauses`), even with clauses that are as they should be
(`pattern_clauses_unheard`).
-/
import RuleLint.Proofs.Places

namespace RuleLint

/-! ### Settings for every path -/

theorem Glob.any_isEmpty_tails (cs : List Char) : (tails cs).any List.isEmpty = true := by
  induction cs with
  | nil => rfl
  | cons c cs ih => rw [tails, List.any_cons, ih, Bool.or_true]

/-- A star matches every path. -/
theorem Glob.matches_star (path : String) : (Pattern.ofText "*").matches path = true :=
  any_isEmpty_tails path.toList

/-- Settings that select every path and let no comment silence a line. -/
def Settings.everywhere : Settings :=
  ⟨.list [.text "*"], .list [], .bool false⟩

theorem Settings.selects_everywhere (path : String) :
    Settings.everywhere.selects path = .ok true := by
  rw [everywhere, selects_pattern, Glob.matches_star]

/-- A rule that is for every path and that no comment silences. -/
def Rule.everywhere (r : Rule) : Rule :=
  { r with settings := .everywhere }

/-! ### Clauses that pass their check -/

/-- `IsRunAs clause source`: a clause is run as a text, since it is that text or has no
bytes at all. -/
inductive Clause.IsRunAs : Value → String → Prop
  | text (source : String) : IsRunAs (.text source) source
  | noBytes : IsRunAs (.bytes []) ""

/-- Without bytes there are no characters. -/
theorem Source.Tree.ofUtf8_nil : Tree.ofUtf8 [] = Tree.ofChars [] := by
  have htokens : ((tokensOf []).list.any fun t => t.text.toList.contains '\x00') =
      false := by
    decide +kernel
  rw [Tree.ofUtf8, show decodeLoose ([].length + 1) [] = [] from rfl, htokens]
  rfl

section

variable [Host]

theorem Clause.treeOf_of_isRunAs {clause : Value} {source : String} {t : Source.Tree}
    (h : IsRunAs clause source) :
    treeOf clause = .ok t ↔ Source.Tree.ofSource source = .ok t := by
  have hempty : Source.Tree.ofBytes [] = Source.Tree.ofSource "" := Source.Tree.ofUtf8_nil
  cases h with
  | text =>
      unfold treeOf
      dsimp only
      rcases Source.Tree.ofSource source with f | t' <;> simp
  | noBytes =>
      unfold treeOf
      dsimp only
      rw [hempty]
      rcases Source.Tree.ofSource "" with f | t' <;> simp

theorem Clause.treeOf_text {source : String} {t : Source.Tree} :
    treeOf (.text source) = .ok t ↔ Source.Tree.ofSource source = .ok t :=
  treeOf_of_isRunAs (.text source)

/-- What the query of a rule gives for a source. -/
structure Rule.Answers (r : Rule) (source : String) (d : XPath.Document)
    (res : XPath.Result) :
    Prop where
  query : ∃ q, r.expr = .xpath q ∧ q.eval d = .ok res
  document : ∃ tree, Source.Tree.ofSource source = .ok tree ∧
    Clause.documentOf tree = .ok d

theorem Rule.Answers.unique {r : Rule} {source : String} {d d' : XPath.Document}
    {res res' : XPath.Result} (h : r.Answers source d res)
    (h' : r.Answers source d' res') :
    d = d' ∧ res = res' := by
  obtain ⟨⟨q, hexpr, heval⟩, tree, htree, hd⟩ := h
  obtain ⟨⟨q', hexpr', heval'⟩, tree', htree', hd'⟩ := h'
  cases hexpr.symm.trans hexpr'
  cases htree.symm.trans htree'
  cases hd.symm.trans hd'
  cases heval.symm.trans heval'
  exact ⟨rfl, rfl⟩

theorem Clause.answers_of_shows {r : Rule} {find : Bool} {clause : Value}
    {source : String}
    (hrun : IsRunAs clause source) (h : Shows r.expr find clause) :
    ∃ d res, r.Answers source d res ∧ res.isFind = find := by
  obtain hnull | ⟨q, t, d, res, hexpr, htree, hdocument, heval, hfind⟩ := h
  · cases hnull ▸ hrun
  · exact ⟨d, res, ⟨⟨q, hexpr, heval⟩, t, (treeOf_of_isRunAs hrun).mp htree, hdocument⟩,
      hfind⟩

/-- A clause that is accepted is a text or bytes, if it is there. -/
theorem Clause.cases_of_shows {expr clause : Value} {find : Bool}
    (h : Shows expr find clause) :
    clause = .null ∨ (∃ source, IsRunAs clause source) ∨ ∃ bs, bs ≠ [] ∧
      clause = .bytes bs := by
  obtain hnull | ⟨_, t, _, _, -, htree, -⟩ := h
  · exact .inl hnull
  cases clause
  case text source => exact .inr (.inl ⟨source, .text source⟩)
  case bytes bs =>
    cases bs with
    | nil => exact .inr (.inl ⟨"", .noBytes⟩)
    | cons b bs => exact .inr (.inr ⟨_, List.cons_ne_nil b bs, rfl⟩)
  all_goals cases htree

theorem Rule.shows_of_ofValue {name values defaultSettings : Value} {r : Rule}
    (h : Rule.ofValue name values defaultSettings = .ok r) :
    Clause.Shows r.expr true r.sample ∧ Clause.Shows r.expr false r.remedy := by
  obtain ⟨⟨-, hsound⟩, s, -, rfl⟩ := ofValue_cases h
  exact ⟨hsound.sample, hsound.remedy⟩

end

/-! ### Runs on clauses -/

namespace Lint

/-- Nothing keeps a rule for every path from the lines that it finds. -/
theorem filter_isLeft_everywhere (ignored : List Nat) (r : Rule) (lines : List Value) :
    lines.filter (isLeft ignored r.everywhere) = lines :=
  List.filter_eq_self.mpr fun _ _ => rfl

/-- A set has no members exactly if it is made of nothing. -/
theorem members_eq_nil_iff {vs : List Value} : members vs = [] ↔ vs = [] := by
  constructor
  · intro h
    refine List.eq_nil_iff_forall_not_mem.mpr fun v hv => ?_
    obtain ⟨m, hm, -⟩ := (isSetOf_members vs).complete v hv
    rw [h] at hm
    cases hm
  · rintro rfl
    rfl

/-- A rule finds a line exactly if there is one. -/
theorem exists_isSome_findingsAt {rule : Rule} {lines : List Value} :
    (∃ f ∈ findingsAt rule lines, f.line.isSome = true) ↔ lines ≠ [] := by
  cases lines with
  | nil => simp [findingsAt]
  | cons line more => simp [findingsAt]

/-- Whether a node is in the body of the module that a document is of. -/
def InBody (d : XPath.Document) (r : XPath.Ref) : Prop :=
  2 < r.node ∧ r.node + 1 < d.size

/-- The lines of nodes that are all elements. -/
theorem exists_line_iff {source : String} {d : XPath.Document} {tree : Source.Tree}
    (htree : Source.Tree.ofSource source = .ok tree) (hd : tree.document? = some d)
    {rs : List XPath.Ref} {ns : List Nat} (h : queryLines d (.nodes rs) = .ok ns) :
    ns ≠ [] ↔ ∃ x ∈ rs, InBody d x := by
  rw [queryLines] at h
  split at h
  · cases h
    rw [ne_eq, List.filterMap_eq_nil_iff]
    push Not
    refine exists_congr fun x => and_congr_right fun _ => ?_
    rw [InBody, ← lineOf?_isSome_iff htree hd, Option.isSome_iff_ne_none]
  · cases h

section

variable [Host] {r : Rule} {path source : String} {d : XPath.Document}
    {res : XPath.Result}

theorem clause_of_isRunAs {clause : Value} (h : Clause.IsRunAs clause source)
    (path : String)
    (rules : List Rule) : Lint.clause path clause rules = file path source rules := by
  cases h <;> rfl

/-- The run on a clause of bytes ends at its first line. -/
theorem clause_of_bytes {bs : List UInt8} (h : bs ≠ []) (path : String) (r : Rule) :
    clause path (.bytes bs) [r.everywhere] = ⟨[], some .bytesForText⟩ := by
  have hselected : selected path [r.everywhere] = .ok [r.everywhere] := by
    rw [selected, show r.everywhere.settings.selects path = _ from
      Settings.selects_everywhere path]
    rfl
  cases bs with
  | nil => exact absurd rfl h
  | cons b bs =>
      unfold clause
      dsimp only
      rw [hselected]

theorem linesLeft_everywhere_eq_nil_iff {s : Subject} {ns : List Nat} :
    linesLeft s r.everywhere (members (asLines ns)) = [] ↔ ns = [] := by
  have hperm := linesLeft_perm s r.everywhere (members (asLines ns))
  rw [filter_isLeft_everywhere] at hperm
  have hnil : linesLeft s r.everywhere (members (asLines ns)) = [] ↔
      members (asLines ns) = [] :=
    ⟨fun h => List.nil_perm.mp (h ▸ hperm), fun h => List.perm_nil.mp (h ▸ hperm)⟩
  rw [hnil, members_eq_nil_iff, asLines, List.map_eq_nil_iff]

/-- A run on a source that the query of the rule has an answer for. -/
theorem file_everywhere (path : String) (h : r.Answers source d res) :
    (∃ f, Source.ignoredLines source = .error f ∧
        file path source [r.everywhere] = ⟨[], some (.comments f)⟩) ∨
      ∃ ignored, Source.ignoredLines source = .ok ignored ∧
        ((∃ f, queryLines d res = .error f ∧ file path source [r.everywhere] =
          ⟨[], some f⟩) ∨
          ∃ ns, queryLines d res = .ok ns ∧ file path source [r.everywhere] =
            ⟨findingsAt r.everywhere
              (linesLeft ⟨source, ignored, d⟩ r.everywhere (members (asLines ns))),
                none⟩) := by
  have hselects : r.everywhere.settings.selects path = .ok true :=
    Settings.selects_everywhere path
  obtain ⟨⟨q, hexpr, heval⟩, tree, htree, hdocument⟩ := h
  have hlines : linesOf r.everywhere.expr source d =
      (queryLines d res >>= fun ns => .ok (some (members (asLines ns)))) := by
    have hq : Clause.query q d = .ok res := query_eq_ok.mpr heval
    show linesOf r.expr source d = _
    rw [hexpr, linesOf, hq]
    rfl
  -- the comments are looked for before the query is asked, so they are the first that
  -- can fail
  rcases hignored : Source.ignoredLines source with f | ignored
  · refine .inl ⟨f, rfl, file_of_unread hselects ?_⟩
    rw [Subject.ofText, hignored]
    rfl
  · have hs := Subject.ofText_eq_ok hignored htree hdocument
    refine .inr ⟨ignored, rfl, ?_⟩
    rcases hns : queryLines d res with f | ns
    · rw [hns] at hlines
      exact .inl ⟨f, rfl, file_of_unanswered hselects hs hlines⟩
    · rw [hns] at hlines
      exact .inr ⟨ns, rfl, file_of_lines hselects hs hlines⟩

/-- **The sample of a rule.** Where its query finds something, the rule is broken
exactly if the comments can be found and the finds are elements, of which one is in the
body of the module. -/
theorem broken_iff (path : String) (h : r.Answers source d res)
    (hfind : res.isFind = true) :
    ((file path source [r.everywhere]).fault = none ∧
        ∃ f ∈ (file path source [r.everywhere]).findings, f.line.isSome = true) ↔
      (∃ ignored, Source.ignoredLines source = .ok ignored) ∧
        ∃ rs, res = .nodes rs ∧ (∀ x ∈ rs, x.part = 0 ∧ d.isElement x.node = true) ∧
          ∃ x ∈ rs, InBody d x := by
  obtain ⟨f, hf, hfile⟩ | ⟨ignored, hignored, ⟨f, hf, hfile⟩ | ⟨ns, hns, hfile⟩⟩ :=
    file_everywhere path h
  · rw [hfile, hf]
    simp
  · -- the lines of elements could be looked for
    rw [hfile]
    refine iff_of_false (by rintro ⟨⟨⟩, -⟩) ?_
    rintro ⟨-, rs, rfl, helements, -⟩
    obtain ⟨ns, hns⟩ := queryLines_ok_iff.mpr (show HasLines d (.nodes rs) from helements)
    cases hf.symm.trans hns
  · obtain ⟨tree, htree, hdocument⟩ := h.document
    rw [hfile, exists_isSome_findingsAt, ne_eq, linesLeft_everywhere_eq_nil_iff]
    have hlines := queryLines_ok_iff.mp ⟨ns, hns⟩
    cases res with
    | number | bool => cases hlines
    | text s =>
        -- only the empty text has lines, and it is no find
        cases hlines
        cases hfind
    | nodes rs =>
        have hbody := exists_line_iff htree (Clause.documentOf_eq_ok.mp hdocument).2 hns
        constructor
        · rintro ⟨-, hne⟩
          exact ⟨⟨ignored, hignored⟩, rs, rfl, hlines, hbody.mp hne⟩
        · rintro ⟨-, _, ⟨⟩, -, hin⟩
          exact ⟨rfl, hbody.mpr hin⟩

/-- **The remedy of a rule.** Where its query finds nothing, the rule is kept exactly if
the comments can be found and the answer is no number and no truth value. -/
theorem kept_iff (path : String) (h : r.Answers source d res)
    (hfind : res.isFind = false) :
    file path source [r.everywhere] = ⟨[⟨r.everywhere, none⟩], none⟩ ↔
      (∃ ignored, Source.ignoredLines source = .ok ignored) ∧
        (res = .nodes [] ∨ res = .text "") := by
  obtain ⟨f, hf, hfile⟩ | ⟨ignored, hignored, ⟨f, hf, hfile⟩ | ⟨ns, hns, hfile⟩⟩ :=
    file_everywhere path h
  · rw [hfile, hf]
    simp
  · -- nothing has no lines, and that is no fault
    rw [hfile]
    refine iff_of_false (by rintro ⟨⟩) ?_
    rintro ⟨-, rfl | rfl⟩ <;> cases hf
  · have hlines := queryLines_ok_iff.mp ⟨ns, hns⟩
    have hnothing : res = .nodes [] ∨ res = .text "" := by
      cases res with
      | number | bool => cases hlines
      | text s =>
          cases hlines
          exact .inr rfl
      | nodes rs =>
          cases rs with
          | nil => exact .inl rfl
          | cons => cases hfind
    have hnil : ns = [] := by
      rcases hnothing with rfl | rfl <;> cases hns <;> rfl
    rw [linesLeft_everywhere_eq_nil_iff.mpr hnil] at hfile
    exact iff_of_true hfile ⟨⟨ignored, hignored⟩, hnothing⟩

end

end Lint

namespace Rule

section

variable [Host]

/-- **What the checks of a rule foretell.** The clauses of a rule that is accepted have
answers to its query: the sample one that counts as a find, the remedy one that does
not.  But a run looks at lines.  On the sample the rule is broken only if the answer is
made of elements and one of them is in the body of the module; on the remedy it is kept
only if the answer is no number and no truth value; and on both, comments have to be
found.  No more clauses are accepted, but for those of bytes, which no run gets through.
-/
theorem clauses_foretell {name values defaultSettings : Value} {r : Rule}
    (h : ofValue name values defaultSettings = .ok r) (path : String) :
    (∀ source, Clause.IsRunAs r.sample source →
      ∃ d res, r.Answers source d res ∧ res.isFind = true ∧
        (((Lint.clause path r.sample [r.everywhere]).fault = none ∧
            ∃ f ∈ (Lint.clause path r.sample [r.everywhere]).findings,
              f.line.isSome = true) ↔
          (∃ ignored, Source.ignoredLines source = .ok ignored) ∧
            ∃ rs, res = .nodes rs ∧ (∀ x ∈ rs, x.part = 0 ∧ d.isElement x.node = true) ∧
              ∃ x ∈ rs, Lint.InBody d x)) ∧
    (∀ source, Clause.IsRunAs r.remedy source →
      ∃ d res, r.Answers source d res ∧ res.isFind = false ∧
        (Lint.clause path r.remedy [r.everywhere] = ⟨[⟨r.everywhere, none⟩], none⟩ ↔
          (∃ ignored, Source.ignoredLines source = .ok ignored) ∧
            (res = .nodes [] ∨ res = .text ""))) ∧
    ∀ clause ∈ [r.sample, r.remedy], clause = .null ∨
      (∃ source, Clause.IsRunAs clause source) ∨
      ∃ bs, clause = .bytes bs ∧
        Lint.clause path clause [r.everywhere] = ⟨[], some .bytesForText⟩ := by
  obtain ⟨hsample, hremedy⟩ := shows_of_ofValue h
  -- a clause that shows something is a text, bytes of one, or other bytes
  have hclause : ∀ clause find, Clause.Shows r.expr find clause → clause = .null ∨
      (∃ source, Clause.IsRunAs clause source) ∨ ∃ bs, clause = .bytes bs ∧
        Lint.clause path clause [r.everywhere] = ⟨[], some .bytesForText⟩ := by
    intro clause find hshows
    obtain hnull | hrun | ⟨bs, hne, rfl⟩ := Clause.cases_of_shows hshows
    · exact .inl hnull
    · exact .inr (.inl hrun)
    · exact .inr (.inr ⟨bs, rfl, Lint.clause_of_bytes hne path r⟩)
  refine ⟨fun source hrun => ?_, fun source hrun => ?_, ?_⟩
  · -- the clause is run as the source that it was shown with
    obtain ⟨d, res, hanswers, hfind⟩ := Clause.answers_of_shows hrun hsample
    rw [Lint.clause_of_isRunAs hrun]
    exact ⟨d, res, hanswers, hfind, Lint.broken_iff path hanswers hfind⟩
  · obtain ⟨d, res, hanswers, hfind⟩ := Clause.answers_of_shows hrun hremedy
    rw [Lint.clause_of_isRunAs hrun]
    exact ⟨d, res, hanswers, hfind, Lint.kept_iff path hanswers hfind⟩
  · exact List.forall_mem_cons.mpr ⟨hclause _ _ hsample,
      List.forall_mem_singleton.mpr (hclause _ _ hremedy)⟩

end

/-- The fields of a rule with a query and clauses, for no path. -/
def clauseFields (q : XPath.Query) (sample remedy : Value) : List (Value × Value) :=
  [(.text "description", .text "d"), (.text "expr", .xpath q), (.text "example", sample),
   (.text "instead", remedy),
     (.text "settings", .settings (.list []) (.list []) (.bool true))]

/-- The rule with these fields. -/
def clauseRule (q : XPath.Query) (sample remedy : Value) : Rule :=
  ⟨.text "R", .text "d", .xpath q, sample, remedy, ⟨.list [], .list [], .bool true⟩⟩

/-- With clauses that show what they should, these fields are accepted. -/
theorem ofValue_clauseFields [Host] {q : XPath.Query} {sample remedy : Value}
    (hentries : (Value.map (clauseFields q sample remedy)).entries? =
      some (clauseFields q sample remedy))
    (hsample : Clause.Shows (.xpath q) true sample)
    (hremedy : Clause.Shows (.xpath q) false remedy) :
    ofValue (.text "R") (.map (clauseFields q sample remedy)) .null =
      .ok (clauseRule q sample remedy) := by
  have hheld := held?_of_entries? hentries
  have hsettings : IsSettings (settingsFor (.map (clauseFields q sample remedy)) .null)
      ⟨.list [], .list [], .bool true⟩ := by
    rw [settingsFor, hheld]
    exact ⟨_, _, _, rfl, rfl⟩
  -- every field is the one that stands in the entries
  have hfield (key : String) : field (.map (clauseFields q sample remedy)) key =
      (Value.lookup key (clauseFields q sample remedy)).getD .null := by
    rw [field, hheld]
  -- field by field, in the order in which they are looked at
  have hsound : IsSound (.map (clauseFields q sample remedy)) .null := by
    constructor
    · rw [hfield]
      rintro ⟨⟩
    · rw [hfield]
      rintro ⟨⟩
    · rw [hfield, hfield]
      exact hsample
    · rw [hfield, hfield]
      exact hremedy
    · exact ⟨_, hsettings⟩
  have hrule : ofFields (.text "R") (Value.map (clauseFields q sample remedy)).get .null =
      .ok (assembled (.text "R") (.map (clauseFields q sample remedy)) _) :=
    ofFields_of_isSound (canBeAsked_of_entries? hentries) hsound hsettings
  simp only [assembled, hfield] at hrule
  exact ofValue_eq_ok.mpr hrule

open scoped Standard

theorem eval_passQuery_blank : Config.passQuery.eval Lint.blankDocument =
    .ok (.nodes []) := by
  cbv

/-- The rule against a statement that does nothing is broken on it, and kept on an empty
source, be it a text or no bytes; bytes end the run. -/
theorem clauses_foretell_passQuery :
    ((Lint.clause "m.py" (.text "pass\n")
          [(clauseRule Config.passQuery (.text "pass\n") (.bytes [])).everywhere]).fault =
            none ∧
      ∃ f ∈ (Lint.clause "m.py" (.text "pass\n")
          [(clauseRule Config.passQuery (.text "pass\n")
            (.bytes [])).everywhere]).findings,
        f.line.isSome = true) ∧
    Lint.clause "m.py" (.bytes [])
        [(clauseRule Config.passQuery (.text "pass\n") (.bytes [])).everywhere] =
      ⟨[⟨(clauseRule Config.passQuery (.text "pass\n") (.bytes [])).everywhere, none⟩],
        none⟩ := by
  have hremedy : Source.Tree.ofSource "" = .ok (.moduleOf []) := by rfl
  have hdocument : Clause.documentOf (.moduleOf [.at_ ⟨1, 0⟩ "Pass" []]) =
      .ok Lint.passDocument :=
        Clause.documentOf_eq_ok.mpr ⟨by decide, Lint.document?_pass⟩
  -- the rule is accepted with both clauses
  have hload : ofValue (.text "R")
      (.map (clauseFields Config.passQuery (.text "pass\n") (.bytes []))) .null =
        .ok (clauseRule Config.passQuery (.text "pass\n") (.bytes [])) :=
    ofValue_clauseFields rfl
      (.inr ⟨_, _, _, _, rfl, Clause.treeOf_text.mpr Lint.ofSource_pass, hdocument,
        Lint.eval_passQuery, rfl⟩)
      (.inr ⟨_, _, _, _, rfl, (Clause.treeOf_of_isRunAs .noBytes).mpr hremedy,
        Lint.documentOf_moduleOf_nil, eval_passQuery_blank, rfl⟩)
  obtain ⟨hbroken, hkept, -⟩ := clauses_foretell hload "m.py"
  constructor
  · -- the answer to the example is unique, so it is the node of the statement
    obtain ⟨d, res, hanswers, -, hiff⟩ := hbroken _ (.text "pass\n")
    obtain ⟨rfl, rfl⟩ := hanswers.unique
      ⟨⟨_, rfl, Lint.eval_passQuery⟩, _, Lint.ofSource_pass, hdocument⟩
    exact hiff.mpr ⟨⟨[], rfl⟩, _, rfl, List.forall_mem_singleton.mpr ⟨rfl, rfl⟩, _,
      List.mem_singleton_self _, by decide, by decide⟩
  · obtain ⟨d, res, hanswers, -, hiff⟩ := hkept _ .noBytes
    obtain ⟨rfl, rfl⟩ := hanswers.unique
      ⟨⟨_, rfl, eval_passQuery_blank⟩, _, hremedy, Lint.documentOf_moduleOf_nil⟩
    exact hiff.mpr ⟨⟨[], rfl⟩, .inl rfl⟩

/-- A query for a module without statements. -/
def emptyQuery : XPath.Query :=
  ⟨"/Module/body[not(./*)]",
    .step (.step .top .child (.named "Module") .nil) .child (.named "body")
      (.cons (.call none "not" (.cons (.step .here .child .any .nil) .nil)) .nil)⟩

theorem eval_emptyQuery : emptyQuery.eval Lint.blankDocument = .ok (.nodes [⟨2, 0⟩]) := by
  cbv

/-- **A sample that a rule is not broken on**: the body of an empty module is found, but
it has no line. -/
theorem clause_without_line :
    ofValue (.text "R") (.map (clauseFields emptyQuery (.text "") .null)) .null =
        .ok (clauseRule emptyQuery (.text "") .null) ∧
      Lint.file "m.py" "" [(clauseRule emptyQuery (.text "") .null).everywhere] =
        ⟨[⟨(clauseRule emptyQuery (.text "") .null).everywhere, none⟩], none⟩ := by
  have hsample : Source.Tree.ofSource "" = .ok (.moduleOf []) := by rfl
  -- the query finds the body of the module, which has no line
  have hanswers : (clauseRule emptyQuery (.text "") .null).Answers "" Lint.blankDocument
      (.nodes [⟨2, 0⟩]) :=
    ⟨⟨_, rfl, eval_emptyQuery⟩, _, hsample, Lint.documentOf_moduleOf_nil⟩
  constructor
  · exact ofValue_clauseFields rfl
      (.inr ⟨_, _, _, _, rfl, Clause.treeOf_text.mpr hsample,
        Lint.documentOf_moduleOf_nil,
        eval_emptyQuery, rfl⟩) (.inl rfl)
  · have hcomments : Source.ignoredLines "" = .ok [] := by rfl
    have hlines : Lint.queryLines Lint.blankDocument (.nodes [⟨2, 0⟩]) = .ok [] := by rfl
    -- neither comments nor lines are a fault here
    obtain ⟨f, hf, -⟩ | ⟨_, -, ⟨f, hf, -⟩ | ⟨ns, hns, hfile⟩⟩ :=
      Lint.file_everywhere "m.py" hanswers
    · cases hcomments.symm.trans hf
    · cases hlines.symm.trans hf
    · cases hlines.symm.trans hns
      rw [hfile, Lint.linesLeft_everywhere_eq_nil_iff.mpr rfl, Lint.findingsAt]

end Rule

/-! ### Clauses of a rule with a pattern -/

section

variable [Host]

/-- A pattern is never asked about a clause: the check looks for a way to match in the
text of the clause instead. -/
theorem Clause.check_pattern {label complaint source : String} {find : Bool}
    {t : Source.Tree}
    (h : Source.Tree.ofSource source = .ok t) (p : Regex.Pattern) :
    check label (.regex p) find complaint (.text source) =
      .error (.noAttribute "str" "match") := by
  have hvalidate : validate label (.text source) = .ok t := by
    rw [validate, treeOf_text.mpr h]
  rw [check_of_ne_null (by rintro ⟨⟩), hvalidate]
  rfl

theorem Clause.shows_pattern_iff {p : Regex.Pattern} {find : Bool} {clause : Value} :
    Shows (.regex p) find clause ↔ clause = .null := by
  constructor
  · rintro (hnull | ⟨q, _, _, _, hexpr, -⟩)
    · exact hnull
    · cases hexpr
  · exact .inl

end

namespace Rule

/-- What is said of a rule with a pattern that has a clause, if its name can be
written. -/
def clauseFault (name : Value) : Fault :=
  if name.isHuge then .hugeInteger
  else .refused ("rule \x60" ++ name.shown ++ "\x60: " ++
    "'str' object has no attribute 'match'")

section

variable [Host] {name values defaultSettings : Value} {p : Regex.Pattern}

theorem ofValue_of_noAttribute
    (h : ofFields name values.get defaultSettings = .error (.noAttribute "str" "match")) :
    ofValue name values defaultSettings = .error (clauseFault name) := by
  have hmessage : (Fault.noAttribute "str" "match").message =
      "'str' object has no attribute 'match'" := by
    decide +kernel
  rw [ofValue, h]
  dsimp only
  rw [faultIn, hmessage, Value.shown?, clauseFault]
  cases name.isHuge <;> rfl

theorem ofFields_pattern (hasked : CanBeAsked values)
    (hdescription : field values "description" ≠ .null)
    (hexpr : field values "expr" = .regex p)
    {source : String} {t : Source.Tree} (htree : Source.Tree.ofSource source = .ok t)
    (hclause : field values "example" = .text source ∨
      field values "example" = .null ∧ field values "instead" = .text source) :
    ofFields name values.get defaultSettings = .error (.noAttribute "str" "match") := by
  rw [ofFields_eq hasked, if_neg (mt isNull_iff.mp hdescription), hexpr,
    if_neg (show ¬ isNull (.regex p) = true from Bool.false_ne_true)]
  obtain hsample | ⟨hnone, hremedy⟩ := hclause
  · rw [hsample, Clause.check_pattern htree]
    rfl
  · rw [hnone, Clause.check_null, hremedy, Clause.check_pattern htree]
    rfl

/-- **Clauses of a rule with a pattern.** Such a rule is accepted exactly if it has no
clauses, and settings.  A clause that is a source makes it refused, whatever the pattern
finds in it. -/
theorem pattern_clauses (hasked : CanBeAsked values)
    (hdescription : field values "description" ≠ .null)
    (hexpr : field values "expr" = .regex p) :
    (∀ rule, ofValue name values defaultSettings = .ok rule ↔
      field values "example" = .null ∧ field values "instead" = .null ∧
        ∃ s, IsSettings (settingsFor values defaultSettings) s ∧
          rule = ⟨name, field values "description", .regex p, .null, .null, s⟩) ∧
    ∀ source t, Source.Tree.ofSource source = .ok t →
      field values "example" = .text source ∨
        field values "example" = .null ∧ field values "instead" = .text source →
      ofValue name values defaultSettings = .error (clauseFault name) := by
  refine ⟨fun rule => ⟨fun h => ?_, ?_⟩, fun source t htree hclause => ?_⟩
  · -- a clause shows nothing with a pattern, so there is none
    obtain ⟨⟨-, hsound⟩, s, hs, rfl⟩ := ofValue_cases h
    have hsample := hsound.sample
    have hremedy := hsound.remedy
    dsimp only at hsample hremedy
    rw [hexpr, Clause.shows_pattern_iff] at hsample hremedy
    exact ⟨hsample, hremedy, s, hs, by rw [assembled, hexpr, hsample, hremedy]⟩
  · rintro ⟨hsample, hremedy, s, hs, rfl⟩
    have hsound : IsSound values defaultSettings :=
      ⟨hdescription, by rw [hexpr]; rintro ⟨⟩, .inl hsample, .inl hremedy, s, hs⟩
    have hrule : ofFields name values.get defaultSettings =
        .ok (assembled name values s) :=
      ofFields_of_isSound hasked hsound hs
    rw [assembled, hexpr, hsample, hremedy] at hrule
    exact ofValue_eq_ok.mpr hrule
  · -- the first clause that is there is asked for what a pattern does not have
    exact ofValue_of_noAttribute (ofFields_pattern hasked hdescription hexpr
      htree hclause)

end

/-- A pattern for an equals sign. -/
def equalsPattern : Regex.Pattern :=
  ⟨"=", { multiline := true, unicode := true }, .leaf (.point .exact 61)⟩

/-- The fields of a rule with this pattern. -/
def patternFields (sample remedy : Value) : List (Value × Value) :=
  [(.text "description", .text "d"), (.text "expr", .regex equalsPattern),
   (.text "example", sample), (.text "instead", remedy),
   (.text "settings", .settings (.list []) (.list []) (.bool true))]

open scoped Standard

theorem ofSource_assigns : ∃ t, Source.Tree.ofSource "x = 1\n" = .ok t :=
  exists_of_toBool (by decide +kernel)

/-- Without clauses the rule is accepted, with one it is not. -/
theorem pattern_clauses_equals :
    ofValue (.text "R") (.map (patternFields .null .null)) .null =
      .ok ⟨.text "R", .text "d", .regex equalsPattern, .null, .null,
        ⟨.list [], .list [], .bool true⟩⟩ ∧
    ofValue (.text "R") (.map (patternFields .null (.text "x = 1\n"))) .null =
      .error (clauseFault (.text "R")) := by
  obtain ⟨t, ht⟩ := ofSource_assigns
  have hasked (remedy : Value)
    (hremedy : (Value.map (patternFields .null remedy)).entries? =
      some (patternFields .null remedy)) :
        CanBeAsked (.map (patternFields .null remedy)) :=
    canBeAsked_of_entries? hremedy
  constructor
  · -- without clauses the rule is accepted, with one it is not
    obtain ⟨haccepted, -⟩ := @pattern_clauses _ (.text "R") _ .null equalsPattern
      (hasked .null rfl) (by rintro ⟨⟩) rfl
    exact (haccepted _).mpr ⟨rfl, rfl, _, ⟨_, _, _, rfl, rfl⟩, rfl⟩
  · obtain ⟨-, hrefused⟩ := @pattern_clauses _ (.text "R") _ .null equalsPattern
      (hasked (.text "x = 1\n") rfl) (by rintro ⟨⟩) rfl
    exact hrefused _ t ht (.inr ⟨rfl, rfl⟩)

/-- **A rule whose clauses are as they should be is refused**: the pattern finds
something in the sample and nothing in the remedy. -/
theorem pattern_clauses_unheard :
    (∃ t, Source.Tree.ofSource "x = 1\n" = .ok t) ∧
      (∃ t, Source.Tree.ofSource "x\n" = .ok t) ∧
    equalsPattern.findAll "x = 1\n".toList.toArray ≠ [] ∧
    equalsPattern.findAll "x\n".toList.toArray = [] ∧
    ofValue (.text "R") (.map (patternFields (.text "x = 1\n") (.text "x\n"))) .null =
      .error (clauseFault (.text "R")) := by
  obtain ⟨t, ht⟩ := ofSource_assigns
  have hasked : CanBeAsked (.map (patternFields (.text "x = 1\n") (.text "x\n"))) :=
    canBeAsked_of_entries? rfl
  refine ⟨⟨t, ht⟩,
    exists_of_toBool (by decide +kernel), by decide +kernel, by decide +kernel, ?_⟩
  exact ofValue_of_noAttribute (ofFields_pattern hasked (by rintro ⟨⟩) rfl ht (.inl rfl))

end Rule

end RuleLint
