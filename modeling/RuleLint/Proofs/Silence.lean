/-
RuleLint/Proofs/Silence.lean

Comments that silence a line, and the findings of a run.

Whatever becomes of a run, a finding of it at a line is at one that is left to its rule
(`isLeft_of_mem_file`): what one rule contributes (`isLeft_of_mem_runRule`) carries over
to the rules of a run by induction on them.  With what is known of comments this gives
`file_silenced`: a comment in a text without strings keeps every rule that allows it
from finding the line.

Findings count line feeds, and comments count line breaks of every kind.  The two counts
agree as far as there is no break of another kind. Behind one they need not: a form feed
is a line of its own, and if it is all of its line, no comment behind it is found
(`file_form_feed`).
-/
import RuleLint.Proofs.Comments
import RuleLint.Proofs.Findings

namespace RuleLint.Lint

/-! ### Findings are at lines that are left -/

variable {path text : String} {rules : List Rule} {s : Subject} {f : Finding}
    {line : Value}

/-- A line that comments silence is not left to a rule that allows them to. -/
theorem not_isLeft {ignored : List Nat} {rule : Rule} {n : Nat} (hn : n ∈ ignored)
    (hallow : rule.settings.allowIgnore.isTrue = true) :
    isLeft ignored rule (.int n) = false := by
  have hany : (ignored.any fun m => Value.same (.int m) (.int n)) = true :=
    List.any_eq_true.mpr ⟨n, hn, by rw [same_int, beq_self_eq_true]⟩
  rw [isLeft, hallow, hany]
  rfl

theorem mem_findingsAt {rule : Rule} {lines : List Value}
    (hf : f ∈ findingsAt rule lines) :
    f.rule = rule ∧ ∀ line, f.line = some line → line ∈ lines := by
  cases lines with
  | nil =>
      cases List.mem_singleton.mp hf
      exact ⟨rfl, fun _ hnone => by cases hnone⟩
  | cons first more =>
      obtain ⟨line, hline, rfl⟩ := List.mem_map.mp hf
      refine ⟨rfl, fun _ heq => ?_⟩
      cases heq
      exact hline

section Findings

variable [Host]

theorem isLeft_of_mem_runRule {rule : Rule} {block : List Finding}
    (h : runRule s rule = .ok block) (hf : f ∈ block) :
    f.rule = rule ∧ ∀ line, f.line = some line → isLeft s.ignored rule line = true := by
  rcases hlines : linesOf rule.expr s.text s.document with _ | - | lines
  · rw [runRule, hlines] at h
    cases h
  · rw [runRule_of_not_canRun (linesOf_eq_none_iff.mp hlines)] at h
    cases h
    cases hf
  · rw [runRule_of_lines hlines] at h
    cases h
    obtain ⟨hrule, hmem⟩ := mem_findingsAt hf
    refine ⟨hrule, fun line hline => ?_⟩
    exact (List.mem_filter.mp ((linesLeft_perm s rule lines).mem_iff.mp
      (hmem line hline))).2

theorem isLeft_of_mem_runAll (hf : f ∈ (runAll s rules).findings)
    (hline : f.line = some line) :
    isLeft s.ignored f.rule line = true := by
  induction rules with
  | nil => cases hf
  | cons rule rest ih =>
      rcases hrule : runRule s rule with _ | block
      · -- a fault ends the run, with what the rules before found
        rw [runAll, hrule] at hf
        cases hf
      · rw [runAll_cons_of_ok hrule] at hf
        rcases List.mem_append.mp hf with hf | hf
        · obtain ⟨rfl, hleft⟩ := isLeft_of_mem_runRule hrule hf
          exact hleft line hline
        · exact ih hf

/-- A finding at a line, also of a run that ends too early, is at one that is left to
its rule. -/
theorem isLeft_of_mem_file (hf : f ∈ (file path text rules).findings)
    (hline : f.line = some line) :
    ∃ ignored, Source.ignoredLines text = .ok ignored ∧
      isLeft ignored f.rule line = true := by
  rcases hprepare : prepare path text rules with _ | - | ⟨s, ordered⟩
    <;> rw [file, hprepare] at hf
  · cases hf
  · cases hf
  obtain ⟨chosen, -, hrest⟩ := bind_eq_ok.mp hprepare
  split at hrest
  · cases hrest
  obtain ⟨s', hs, hrest⟩ := bind_eq_ok.mp hrest
  obtain ⟨_, -, hrest⟩ := bind_eq_ok.mp hrest
  cases hrest
  obtain ⟨ignored, _, _, hignored, -, -, rfl⟩ := Subject.ofText_cases hs
  exact ⟨ignored, hignored, isLeft_of_mem_runAll hf hline⟩

/-! ### Comments keep rules from findings -/

/-- **A comment silences its line.** In a text without quotes and backslashes, a rule
that allows it finds nothing on a line with a comment that asks for silence, if no line
break but line feeds stands in front of what the comment asks. -/
theorem file_silenced {front back : List (List Char)} {a b rest : List Char}
    (hunquoted : Source.Ignored.IsUnquoted text.toList)
    (hsplit : text.toList.splitOn '\n' = front ++ (a ++ '#' :: b ++ rest) :: back)
    (hasks : Source.Ignored.Says b)
    (hfront : ∀ l ∈ front, Text.IsOneLine l) (hbreak : Text.IsUnbroken (a ++ '#' :: b))
    (hf : f ∈ (file path text rules).findings)
    (hallow : f.rule.settings.allowIgnore.isTrue = true) :
    f.line ≠ some (.int ↑(front.length + 1)) := by
  intro hline
  obtain ⟨ignored, hignored, hleft⟩ := isLeft_of_mem_file hf hline
  have hmem := Source.mem_ignoredLines hunquoted hsplit hfront hbreak hasks hignored
  rw [not_isLeft hmem hallow] at hleft
  cases hleft

end Findings

/-- An equals sign. -/
def signs : Regex.Pattern :=
  ⟨"=", { multiline := true, unicode := true }, .leaf (.point .exact 61)⟩

/-- A rule that is for every path, is broken on every line with an equals sign, and
allows comments to silence lines. -/
def signRule : Rule :=
  ⟨.text "sign", .null, .regex signs, .null, .null,
    ⟨.list [.text "*"], .list [], .bool true⟩⟩

theorem selects_signRule : signRule.settings.selects "m.py" = .ok true := by
  rfl

section

variable [Host]

theorem exists_ofText {ignored : List Nat}
    (hignored : Source.ignoredLines text = .ok ignored)
    (hread : (Subject.ofText text).toBool = true) :
    ∃ document, Subject.ofText text = .ok ⟨text, ignored, document⟩ := by
  obtain ⟨s, hs⟩ := exists_of_toBool hread
  obtain ⟨_, _, document, hignored', -, -, rfl⟩ := Subject.ofText_cases hs
  cases hignored.symm.trans hignored'
  exact ⟨document, hs⟩

/-- What the rule finds, if one line is left to it. -/
theorem file_signRule {ignored ns : List Nat} {n : Nat} {document : XPath.Document}
    (hs : Subject.ofText text = .ok ⟨text, ignored, document⟩)
    (hns : patternLines signs text = ns)
    (hleft : (members (asLines ns)).filter (isLeft ignored signRule) = [.int n]) :
    file "m.py" text [signRule] = ⟨[⟨signRule, some (.int n)⟩], none⟩ := by
  have hlines : linesOf signRule.expr text document =
      .ok (some (members (asLines ns))) := by
    rw [signRule, linesOf, hns]
  rw [file_of_lines selects_signRule hs hlines, linesLeft_eq_singleton hleft]
  rfl

end

open scoped Standard

/-- A text whose second line has a comment with a form feed in it. -/
def silencedText : String :=
  "# a\r\nx = 1  # see # bb:\tignore\x0c=\nx = 2\n"

/-- The rule finds the third line, and not the second. -/
theorem file_silenced_second :
    file "m.py" silencedText [signRule] = ⟨[⟨signRule, some (.int 3)⟩], none⟩ ∧
      ∀ f ∈ (file "m.py" silencedText [signRule]).findings, f.line ≠ some (.int 2) := by
  have hfile : file "m.py" silencedText [signRule] =
      ⟨[⟨signRule, some (.int 3)⟩], none⟩ := by
    -- both signs of the second line are ignored with it
    have hignored : Source.ignoredLines silencedText = .ok [2] := by rfl
    have hpattern : patternLines signs silencedText = [2, 2, 3] := by decide +kernel
    obtain ⟨d, hs⟩ := exists_ofText hignored (by decide +kernel)
    exact file_signRule hs hpattern rfl
  have hrule : ∀ f ∈ (file "m.py" silencedText [signRule]).findings, f.rule =
      signRule := by
    rw [hfile]
    exact List.forall_mem_singleton.mpr rfl
  have hunquoted : Source.Ignored.IsUnquoted silencedText.toList := by decide +kernel
  -- a line break of another kind stands behind the comment
  have hsplit : silencedText.toList.splitOn '\n' =
      ["# a\r".toList] ++ ("x = 1  ".toList ++ '#' :: " see # bb:\tignore".toList ++
        "\x0c=".toList) :: ["x = 2".toList, []] := by
    decide +kernel
  have hasks : Source.Ignored.Says " see # bb:\tignore".toList :=
    ⟨"bb:\tignore".toList, .inr ⟨'\t', rfl, rfl⟩, by decide +kernel⟩
  have hfront : ∀ l ∈ ["# a\r".toList], Text.IsOneLine l :=
    List.forall_mem_singleton.mpr ⟨"# a".toList, by decide +kernel, .inr rfl⟩
  refine ⟨hfile, fun f hf => ?_⟩
  have hallow : f.rule.settings.allowIgnore.isTrue = true := by
    rw [hrule f hf]
    rfl
  exact file_silenced hunquoted hsplit hasks hfront (by decide +kernel) hf hallow

/-- A text with a form feed on its first line and a comment on its second one. -/
def formFeedText : String :=
  "\x0c\nx = 1  # bb: ignore\n"

/-- **A comment behind a form feed** silences nothing: the form feed is a line of its
own, and blank, which ends the scan. -/
theorem file_form_feed :
    Source.Ignored.IsUnquoted formFeedText.toList ∧
      formFeedText.toList.splitOn '\n' =
        ["\x0c".toList, "x = 1  ".toList ++ '#' :: " bb: ignore".toList, []] ∧
      Source.Ignored.Says " bb: ignore".toList ∧
        signRule.settings.allowIgnore.isTrue = true ∧
      file "m.py" formFeedText [signRule] = ⟨[⟨signRule, some (.int 2)⟩], none⟩ := by
  have hunquoted : Source.Ignored.IsUnquoted formFeedText.toList := by decide +kernel
  have hasks : Source.Ignored.Says " bb: ignore".toList :=
    ⟨"bb: ignore".toList, .inr ⟨' ', rfl, rfl⟩, by decide +kernel⟩
  have hignored : Source.ignoredLines formFeedText = .ok [] := by rfl
  have hpattern : patternLines signs formFeedText = [2] := by decide +kernel
  obtain ⟨d, hs⟩ := exists_ofText hignored (by decide +kernel)
  have hfile := file_signRule hs hpattern (n := 2) rfl
  exact ⟨hunquoted, by decide +kernel, hasks, rfl, hfile⟩

end RuleLint.Lint
