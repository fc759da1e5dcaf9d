/-
RuleLint/Proofs/Locating.lean

Where the matches of a pattern are, and what is shown of them.

The line of a match is counted in line feeds; the line that is shown is looked up among
the lines that the text is cut into.  The two agree because, where all line breaks are
line feeds, the parts between them are the cut lines, with one empty part more behind a
line feed that ends the text (`splitOn_eq_cutLines`).  Only that part is no line, and
the last line is shown in its place (`lineText_eq_ok`).

Main result: `violations_of_pattern`.
-/
import RuleLint.Proofs.Changes
import RuleLint.Proofs.Noted

namespace RuleLint

/-! ### Parts between line feeds -/

namespace Text

/-- The empty part behind the last line feed of a text, if nothing else is there. -/
def emptyRest (cs : List Char) : List (List Char) :=
  if cs.getLast?.all (· == '\n') then [[]] else []

theorem emptyRest_cons_cons (c d : Char) (cs : List Char) :
    emptyRest (c :: d :: cs) = emptyRest (d :: cs) := by
  rw [emptyRest, List.getLast?_cons_cons, emptyRest]

theorem HasFeedsOnly.of_cons {c : Char} {cs : List Char} (h : HasFeedsOnly (c :: cs)) :
    HasFeedsOnly cs :=
  fun d hd => h d (List.mem_cons_of_mem _ hd)

theorem splitOn_feed (cs : List Char) :
    List.splitOn '\n' ('\n' :: cs) = [] :: List.splitOn '\n' cs := by
  simp [List.splitOn, List.splitOnP_cons_eq_if_modifyHead]

theorem splitOn_of_ne {c : Char} (hc : c ≠ '\n') (cs : List Char) :
    List.splitOn '\n' (c :: cs) = (List.splitOn '\n' cs).modifyHead (c :: ·) := by
  simp [List.splitOn, List.splitOnP_cons_eq_if_modifyHead, hc]

/-- The parts of a text between line feeds are its lines. -/
theorem splitOn_eq_cutLines {cs : List Char} (h : HasFeedsOnly cs) :
    List.splitOn '\n' cs = (cutLines cs).map (·.1) ++ emptyRest cs := by
  fun_induction cutLines cs with
  | case1 => rfl
  | case2 rest _ =>
      -- a carriage return is no line feed
      exact absurd (h '\r' List.mem_cons_self rfl) (by decide)
  | case3 c rest _ hbreak ih =>
      obtain rfl := h c List.mem_cons_self hbreak
      rw [splitOn_feed, ih h.of_cons]
      cases rest with
      | nil => rfl
      | cons d rest => rw [emptyRest_cons_cons, List.map_cons, List.cons_append]
  | case4 c rest _ hbreak hcut _ =>
      -- nothing is cut from an empty text only
      obtain rfl : rest = [] := by
        rw [← glue_cutLines rest, hcut]
        rfl
      have hc : c ≠ '\n' := by
        rintro rfl
        exact hbreak rfl
      rw [splitOn_of_ne hc, emptyRest, List.getLast?_singleton, Option.all_some,
        if_neg (by simpa using hc)]
      rfl
  | case5 c rest _ hbreak text ending more hcut ih =>
      have hc : c ≠ '\n' := by
        rintro rfl
        exact hbreak rfl
      rw [splitOn_of_ne hc, ih h.of_cons, hcut]
      cases rest with
      | nil => cases hcut
      | cons d rest =>
          rw [emptyRest_cons_cons, List.map_cons, List.map_cons, List.cons_append,
            List.modifyHead_cons, List.cons_append]

/-- There is one part more than there are line feeds. -/
theorem length_splitOn (cs : List Char) :
    (List.splitOn '\n' cs).length = cs.count '\n' + 1 := by
  induction cs with
  | nil => rfl
  | cons c cs ih =>
      by_cases hc : c = '\n'
      · rw [hc, splitOn_feed, List.length_cons, ih, List.count_cons_self]
      · rw [splitOn_of_ne hc, List.length_modifyHead, ih, List.count_cons_of_ne hc]

theorem length_cutLines_pos {cs : List Char} (h : cs ≠ []) :
    0 < (cutLines cs).length := by
  refine List.length_pos_iff.mpr fun hcut => h ?_
  rw [← glue_cutLines cs, hcut]
  rfl

/-- The part of a text that is shown for a line: that with its number; but where nothing
is behind the last line feed, the part in front of it. -/
def shownPart? (cs : List Char) (n : Nat) : Option (List Char) :=
  let parts := List.splitOn '\n' cs
  if cs.getLast? = some '\n' ∧ n = parts.length then parts[n - 2]? else parts[n - 1]?

/-- The part that is shown is the line with the number, or the last line. -/
theorem shownPart?_eq_line {cs : List Char} (hfeeds : HasFeedsOnly cs) (hne : cs ≠ [])
    {n : Nat} (hn : 1 ≤ n) (hle : n ≤ cs.count '\n' + 1) :
    shownPart? cs n = ((cutLines cs).map (·.1))[min n (cutLines cs).length - 1]? := by
  have hparts := splitOn_eq_cutLines hfeeds
  have hlength := length_splitOn cs
  by_cases hlast : cs.getLast? = some '\n'
  · -- one part more than there are lines, so that the last number is that of no line
    have hrest : emptyRest cs = [[]] := by rw [emptyRest, hlast]; rfl
    rw [hrest] at hparts
    rw [hparts, List.length_append, List.length_map, List.length_singleton] at hlength
    have hpos := length_cutLines_pos hne
    have hinit : ((cutLines cs).map (·.1) ++ [[]])[min n (cutLines cs).length - 1]? =
        ((cutLines cs).map (·.1))[min n (cutLines cs).length - 1]? :=
      List.getElem?_append_left (by rw [List.length_map]; omega)
    rw [shownPart?, hparts, ← hinit, List.length_append, List.length_map,
      List.length_singleton]
    by_cases hend : n = (cutLines cs).length + 1
    · rw [if_pos ⟨hlast, hend⟩]
      congr 1
      omega
    · rw [if_neg fun h => hend h.2]
      congr 1
      omega
  · have hrest : emptyRest cs = [] := by
      obtain ⟨c, hc⟩ :=
        Option.ne_none_iff_exists'.mp (mt List.getLast?_eq_none_iff.mp hne)
      rw [hc, Option.some_inj] at hlast
      rw [emptyRest, hc, Option.all_some, if_neg (by simpa using hlast)]
    rw [hrest, List.append_nil] at hparts
    rw [hparts, List.length_map] at hlength
    rw [shownPart?, hparts, if_neg fun h => hlast h.1]
    congr 1
    omega

end Text

/-! ### The line that is shown -/

namespace Project

open Text

/-- Lines are counted from one, and all numbers behind the last line mean the last
line. -/
theorem lineText_of_pos {lines : List String} {n : Nat} (hlines : lines ≠ [])
    (hn : 1 ≤ n) {l : String}
    (hl : lines[min n lines.length - 1]? = some l) : lineText lines (.int n) = .ok l := by
  have hempty : lines.isEmpty = false := by simpa using hlines
  have hlen : 1 ≤ lines.length := List.length_pos_iff.mpr hlines
  have hplace : min (n : Int) (lines.length : Int) - 1 =
    ((min n lines.length - 1 : Nat) : Int) := by omega
  have hat : atPlace? lines (min (n : Int) lines.length - 1) = some l := by
    rw [hplace, atPlace?, if_pos (Int.natCast_nonneg _), Int.toNat_natCast, hl]
  unfold lineText
  simp only [hempty, Bool.false_eq_true, if_false, Value.asNumber, hat]

/-- For every line of a text a part of it is shown. -/
theorem lineText_eq_ok {text : String} (hfeeds : HasFeedsOnly text.toList)
    {n : Nat} (hn : 1 ≤ n)
    (hle : n ≤ text.toList.count '\n' + 1) :
    ∃ shown, lineText (lines text) (.int n) = .ok shown ∧ shownPart? text.toList n =
      some shown.toList := by
  by_cases hempty : text.toList = []
  · -- the only line of an empty text is empty
    obtain rfl : text = "" := String.toList_eq_nil_iff.mp hempty
    obtain rfl : n = 1 := Nat.le_antisymm hle hn
    exact ⟨"", rfl, rfl⟩
  · have hcut := length_cutLines_pos hempty
    obtain ⟨l, hl⟩ :
        ∃ l, (cutLines text.toList)[min n (cutLines text.toList).length - 1]? = some l :=
      ⟨_, List.getElem?_eq_getElem (by omega)⟩
    refine ⟨String.ofList l.1,
      lineText_of_pos (List.ne_nil_of_length_pos (by simpa [lines] using hcut)) hn ?_, ?_⟩
    · rw [lines, List.length_map, List.getElem?_map, hl, Option.map_some]
    · rw [shownPart?_eq_line hfeeds hempty hn hle, List.getElem?_map, hl, Option.map_some,
        String.toList_ofList]

/-! ### Violations of a pattern -/

variable {path : String} {rule : Rule}

/-- Where every line of a rule can be shown, there is a violation for each of them. -/
theorem violationsAt_of_shown {lines : List String} {ls : List Value}
    (h : ∀ v ∈ ls, ∃ t, lineText lines v = .ok t) :
    ∃ found, violationsAt path lines (Lint.findingsAt rule ls) = ⟨found, none⟩ ∧
      found.map (·.line) = ls ∧
      ∀ v ∈ found, v.path = path ∧ v.rule = rule ∧ lineText lines v.line =
        .ok v.text := by
  rw [violationsAt_findingsAt]
  induction ls with
  | nil => exact ⟨[], rfl, rfl, List.forall_mem_nil _⟩
  | cons line ls ih =>
      obtain ⟨⟨t, ht⟩, hrest⟩ := List.forall_mem_cons.mp h
      obtain ⟨found, hfound, hlines, hall⟩ := ih hrest
      refine ⟨⟨path, line, t, rule⟩ :: found, ?_, ?_, ?_⟩
      · -- a line that can be shown is one more violation, without a fault
        rw [List.map_cons, violationsAt, ht]
        dsimp only
        rw [hfound]
      · rw [List.map_cons, hlines]
      · exact List.forall_mem_cons.mpr ⟨⟨rfl, rfl, ht⟩, hall⟩

/-- A set of line numbers has each of them once. -/
theorem mem_members_asLines {ns : List Nat} {line : Value} :
    line ∈ Lint.members (Lint.asLines ns) ↔ ∃ n : Nat, n ∈ ns ∧ Value.int n = line := by
  have hset := Lint.isSetOf_members (Lint.asLines ns)
  rw [← List.mem_map]
  constructor
  · exact hset.sound line
  · intro h
    obtain ⟨m, hm, rfl | hsame⟩ := hset.complete line h
    · exact hm
    · obtain ⟨k, -, rfl⟩ := List.mem_map.mp (hset.sound m hm)
      obtain ⟨n, -, rfl⟩ := List.mem_map.mp h
      rw [Lint.same_int, beq_iff_eq] at hsame
      rwa [← hsame]

theorem nodup_members_asLines (ns : List Nat) :
    (Lint.members (Lint.asLines ns)).Nodup := by
  refine (Lint.isSetOf_members (Lint.asLines ns)).distinct.imp_of_mem fun ha hb
    hdistinct heq => ?_
  obtain ⟨n, -, rfl⟩ := mem_members_asLines.mp ha
  rw [← heq, Lint.same_int, beq_self_eq_true] at hdistinct
  cases hdistinct

theorem mem_matchLines {p : Regex.Pattern} {text : String} {n : Nat} :
    n ∈ Lint.matchLines p text ↔
      1 ≤ n ∧ ∃ m ∈ p.findAll text.toList.toArray,
        (text.toList.take m.1).count '\n' = n - 1 := by
  rw [Lint.matchLines, List.mem_map]
  constructor
  · rintro ⟨m, hm, rfl⟩
    exact ⟨Nat.le_add_right .., m, hm, by omega⟩
  · rintro ⟨hn, m, hm, hcount⟩
    exact ⟨m, hm, by omega⟩

theorem bounds_of_mem_matchLines {text : String} {p : Regex.Pattern} {n : Nat}
    (h : n ∈ Lint.matchLines p text) : 1 ≤ n ∧ n ≤ text.toList.count '\n' + 1 := by
  obtain ⟨hpos, m, -, hcount⟩ := mem_matchLines.mp h
  have := (List.take_sublist m.1 text.toList).count_le '\n'
  omega

section

variable [Host] {text : String} {p : Regex.Pattern}

/-- Where comments cannot silence a rule, all lines of its pattern are left to it, each
once. -/
theorem file_of_pattern (hexpr : rule.expr = .regex p)
    (hallow : rule.settings.allowIgnore.isTrue = false)
    (hselects : rule.settings.selects path = .ok true)
    (hrun : (Lint.file path text [rule]).fault = none) :
    ∃ ls, Lint.file path text [rule] = ⟨Lint.findingsAt rule ls, none⟩ ∧ ls.Nodup ∧
      ∀ line, line ∈ ls ↔ ∃ n : Nat, n ∈ Lint.matchLines p text ∧ Value.int n = line := by
  -- a text that cannot be read would have been a fault
  rcases hs : Lint.Subject.ofText text with f | s
  · rw [Lint.file_of_unread hselects hs] at hrun
    cases hrun
  obtain ⟨ignored, tree, document, -, -, -, rfl⟩ := Lint.Subject.ofText_cases hs
  have hlines : Lint.linesOf rule.expr text document =
      .ok (some (Lint.members (Lint.asLines (Lint.matchLines p text)))) := by
    rw [hexpr, Lint.linesOf, Lint.patternLines_eq_matchLines]
  -- nothing is ignored, so the lines that are left are all of them
  have hleft : ∀ line : Value, Lint.isLeft ignored rule line = true := by
    intro line
    rw [Lint.isLeft, hallow, Bool.false_and, Bool.not_false]
  have hperm := Lint.linesLeft_perm ⟨text, ignored, document⟩ rule
    (Lint.members (Lint.asLines (Lint.matchLines p text)))
  rw [List.filter_eq_self.mpr fun line _ => hleft line] at hperm
  refine ⟨_, Lint.file_of_lines hselects hs hlines, ?_, fun line => ?_⟩
  · exact hperm.nodup_iff.mpr (nodup_members_asLines _)
  · rw [hperm.mem_iff, mem_members_asLines]

/-- Every line of a match can be shown, so there is a violation for each. -/
theorem violationsIn_of_pattern (hfeeds : HasFeedsOnly text.toList)
    (hexpr : rule.expr = .regex p) (hallow : rule.settings.allowIgnore.isTrue = false)
    (hselects : rule.settings.selects path = .ok true)
    (hrun : (Lint.file path text [rule]).fault = none) :
    ∃ found, violationsIn [rule] path text = ⟨found, none⟩ ∧ (found.map (·.line)).Nodup ∧
      (∀ line, line ∈ found.map (·.line) ↔
        ∃ n : Nat, n ∈ Lint.matchLines p text ∧ Value.int n = line) ∧
      ∀ v ∈ found, v.path = path ∧ v.rule = rule ∧
        lineText (lines text) v.line = .ok v.text := by
  obtain ⟨ls, hfile, hnodup, hmem⟩ := file_of_pattern hexpr hallow hselects hrun
  -- lines of matches are lines of the text
  have hshown : ∀ line ∈ ls, ∃ t, lineText (lines text) line = .ok t := by
    intro line hline
    obtain ⟨n, hn, rfl⟩ := (hmem line).mp hline
    obtain ⟨hpos, hle⟩ := bounds_of_mem_matchLines hn
    obtain ⟨shown, hshown, -⟩ := lineText_eq_ok hfeeds hpos hle
    exact ⟨shown, hshown⟩
  obtain ⟨found, hfound, rfl, hall⟩ := violationsAt_of_shown hshown
  refine ⟨found, ?_, hnodup, hmem, hall⟩
  rw [violationsIn, hfile]
  exact hfound

/-- A rule with a pattern is broken on the lines on which matches start, and nowhere
else; each line is there once, and is shown. -/
theorem violations_of_pattern {fs : Files} (hread : fs.readText path = .ok text)
    (hfeeds : HasFeedsOnly text.toList) (hexpr : rule.expr = .regex p)
    (hallow : rule.settings.allowIgnore.isTrue = false)
    (hselects : rule.settings.selects path = .ok true)
    (hrun : (Lint.file path text [rule]).fault = none) :
    ∃ found, violations fs [path] [rule] = ⟨found, none⟩ ∧
      (∀ n : Nat, (∃ v ∈ found, v.line = .int n) ↔
        1 ≤ n ∧ ∃ m ∈ p.findAll text.toList.toArray,
          (text.toList.take m.1).count '\n' = n - 1) ∧
      (found.map (·.line)).Nodup ∧
      ∀ v ∈ found, v.path = path ∧ v.rule = rule ∧
        ∃ n : Nat, v.line = .int n ∧ 1 ≤ n ∧ n ≤ text.toList.count '\n' + 1 ∧
          shownPart? text.toList n = some v.text.toList ∧ (text = "" → v.text = "") := by
  obtain ⟨found, hin, hnodup, hmem, hall⟩ :=
    violationsIn_of_pattern hfeeds hexpr hallow hselects hrun
  -- a pattern calls nothing, so the files stay as they are
  have hkeeps : ∀ r ∈ [rule], r.KeepsFiles := by
    refine List.forall_mem_singleton.mpr (Rule.keepsFiles_of_call? ?_)
    rw [hexpr]
    rfl
  refine ⟨found, ?_, fun n => ?_, hnodup, fun v hv => ?_⟩
  · rw [violations, inPathOrder, List.mergeSort_singleton,
      violationsFrom_cons_of_ok hkeeps hread hin, violationsFrom, List.append_nil]
  · -- the numbers that are found are those of the matches
    have hline : (∃ v ∈ found, v.line = .int n) ↔ Value.int n ∈ found.map (·.line) :=
      List.mem_map.symm
    rw [hline, hmem, ← mem_matchLines]
    constructor
    · rintro ⟨k, hk, heq⟩
      have : k = n := by exact_mod_cast Value.int.inj heq
      rwa [← this]
    · intro hn
      exact ⟨n, hn, rfl⟩
  · -- the text that is shown is that of the line
    obtain ⟨hpath, hrule, htext⟩ := hall v hv
    obtain ⟨n, hn, hvn⟩ := (hmem v.line).mp (List.mem_map_of_mem hv)
    obtain ⟨hpos, hle⟩ := bounds_of_mem_matchLines hn
    obtain ⟨shown, hshown, hpart⟩ := lineText_eq_ok hfeeds hpos hle
    rw [← hvn] at htext
    obtain rfl : shown = v.text := Except.ok.inj (hshown.symm.trans htext)
    refine ⟨hpath, hrule, n, hvn.symm, hpos, hle, hpart, ?_⟩
    rintro rfl
    exact Except.ok.inj htext.symm

end

/-- A rule that is broken on every line, and at the end of a text even if nothing is
there; comments cannot silence it. -/
def endRule : Rule :=
  ⟨.text "end", .null, .regex ⟨"$", { multiline := true, unicode := true },
    .anchor .lineEnd⟩, .null, .null,
    ⟨.list [.text "*"], .list [], .bool false⟩⟩

open scoped Standard

/-- Behind the line feed that ends the text a third line begins, for which the second
one is shown. -/
theorem violations_of_pattern_end :
    ∃ found, violations smallProject ["/m.py"] [endRule] = ⟨found, none⟩ ∧
      (∃ v ∈ found, v.line = .int 3) ∧ (∀ v ∈ found, v.line = .int 3 → v.text = "# =") ∧
        ¬ ∃ v ∈ found, v.line = .int 4 := by
  have hfeeds : HasFeedsOnly Lint.twoComments.toList := by decide
  have hselects : endRule.settings.selects "/m.py" = .ok true := by rfl
  have hsubject := Lint.Subject.ofText_eq_ok Lint.ignoredLines_twoComments
    Lint.ofSource_twoComments Lint.documentOf_moduleOf_nil
  -- the expression matches at the end of the text only
  have hrun : (Lint.file "/m.py" Lint.twoComments [endRule]).fault = none := by
    rw [Lint.file_of_lines hselects hsubject rfl]
  obtain ⟨found, hfound, hlines, -, hall⟩ :=
    violations_of_pattern readText_smallProject hfeeds rfl rfl hselects hrun
  refine ⟨found, hfound, (hlines 3).mpr (by decide), fun v hv hline => ?_, fun h => ?_⟩
  · obtain ⟨-, -, n, hn, -, -, hpart, -⟩ := hall v hv
    obtain rfl : n = 3 := by exact_mod_cast Value.int.inj (hn.symm.trans hline)
    have hshown : shownPart? Lint.twoComments.toList 3 = some "# =".toList := by decide
    exact String.toList_injective (Option.some.inj (hpart.symm.trans hshown))
  · exact absurd ((hlines 4).mp h) (by decide)

end Project

end RuleLint
