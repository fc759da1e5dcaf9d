/-
RuleLint/Proofs/Noted.lean

Which lines are silenced, for every text whose comments can be found.

Whatever strings, brackets and blocks are open, a comment is a piece that begins with a
number sign (`eq_cons_of_piece`) and takes all that is left of its line.  So a line adds
itself to what is found, once, or it adds nothing, and in the first case it has a
comment that asks for silence (`Adds`).  This is shown for the pieces of a line by
induction on the bound of their number (`adds_scanLine`), then for a line among others
(`scanLines_step`), and by induction on the lines for a whole text (`exists_new`).

The scanner sees lines with their endings.  The words that ask for silence begin behind
the number sign and end in front of any ending (`hasAsking_of_append`), so the line
without its ending has them too.

In a text without strings the converse holds as well, as long as lines end in line
feeds: a blank line that ends in something else would end the scan.  Main result:
`ignoredLines_exact`.
-/
import RuleLint.Proofs.Comments

namespace RuleLint

namespace Source.Ignored

open Text

/-! ### Words in a line -/

/-- A line has a number sign with the words that ask for silence somewhere behind it. -/
def HasAsking (cs : List Char) : Prop :=
  ∃ a b, cs = a ++ '#' :: b ∧ Says b

theorem HasAsking.of_suffix {cs rest : List Char} (h : HasAsking rest)
    (hrest : rest <:+ cs) : HasAsking cs := by
  obtain ⟨front, rfl⟩ := hrest
  obtain ⟨a, b, rfl, hb⟩ := h
  exact ⟨front ++ a, b, (List.append_assoc ..).symm, hb⟩

theorem HasAsking.mem {cs : List Char} (h : HasAsking cs) : '#' ∈ cs := by
  obtain ⟨a, b, rfl, -⟩ := h
  simp

/-- The words do not begin with a number sign. -/
theorem says_of_cons {b : List Char} (h : Says ('#' :: b)) : Says b := by
  obtain ⟨words, hwords, hinfix⟩ := h
  refine ⟨words, hwords, ?_⟩
  rcases List.infix_cons_iff.mp hinfix with hfront | hinfix
  · rcases hwords with rfl | ⟨c, -, rfl⟩ <;> simp at hfront
  · exact hinfix

/-- The words end in a letter. -/
theorem IsAsking.exists_init {words : List Char} (h : IsAsking words) :
    ∃ init, words = init ++ ['e'] := by
  rcases h with rfl | ⟨c, -, rfl⟩
  · exact ⟨"bb:ignor".toList, rfl⟩
  · exact ⟨"bb:".toList ++ c :: "ignor".toList, rfl⟩

/-- A character that is not in the second half of a text is in the first. -/
theorem exists_of_append_eq {c : Char} {x y a b : List Char} (h : x ++ y = a ++ c :: b)
    (hc : c ∉ y) :
    ∃ b', x = a ++ c :: b' ∧ b = b' ++ y := by
  rcases List.append_eq_append_iff.mp h with ⟨more, -, rfl⟩ | ⟨more, rfl, hmore⟩
  · exact absurd (by simp) hc
  · rcases more with - | ⟨d, more⟩
    · rw [List.nil_append] at hmore
      exact absurd (by simp [← hmore]) hc
    · cases hmore
      exact ⟨more, rfl, rfl⟩

/-- What asks for silence in a line is not in its ending. -/
theorem hasAsking_of_append {body ending : List Char}
    (hending : ∀ c ∈ ending, isLineBreak c = true)
    (h : HasAsking (body ++ ending)) : HasAsking body := by
  have hnot : ∀ c, isLineBreak c = false → c ∉ ending := by
    intro c hc hmem
    rw [hending c hmem] at hc
    cases hc
  obtain ⟨a, b, hsplit, words, hwords, p, q, hb⟩ := h
  obtain ⟨b', rfl, rfl⟩ := exists_of_append_eq hsplit (hnot '#' rfl)
  refine ⟨a, b', rfl, words, hwords, ?_⟩
  obtain ⟨init, rfl⟩ := hwords.exists_init
  have hlast : b' ++ ending = (p ++ init) ++ 'e' :: q := by
    rw [← hb]
    simp
  obtain ⟨q', rfl, -⟩ := exists_of_append_eq hlast (hnot 'e' rfl)
  exact ⟨p, q', by simp⟩

/-! ### What a line adds -/

/-- What a line does to the lines that are found: it adds itself if it asks for silence,
or nothing. -/
def Adds (line : Nat) (cs : List Char) (s s' : Scanner) : Prop :=
  s'.found = s.found ∨ s'.found = line :: s.found ∧ HasAsking cs

theorem Adds.of_suffix {line : Nat} {cs rest : List Char} {s s' : Scanner}
    (h : Adds line rest s s') (hrest : rest <:+ cs) :
    Adds line cs s s' :=
  h.imp_right fun hadded => ⟨hadded.1, hadded.2.of_suffix hrest⟩

/-- A comment that is noted. -/
theorem adds_note (line : Nat) (rest : List Char) (s : Scanner) :
    Adds line ('#' :: rest) s (s.note line (('#' :: rest).takeWhile fun c => c != '\r' &&
      c != '\n')) := by
  rw [Adds, found_note]
  split
  · rename_i hasks
    refine .inr ⟨rfl, [], rest, rfl, says_of_cons ?_⟩
    exact (asks_iff.mp hasks).mono (List.takeWhile_prefix _).isInfix
  · exact .inl rfl

/-- A string is no comment. -/
theorem stringPiece?_ne_comment (cs text : List Char) :
    stringPiece? cs ≠ some (.comment text) := by
  intro h
  unfold stringPiece? at h
  obtain ⟨⟨letters, quote⟩, -, h⟩ := Option.bind_eq_some_iff.mp h
  dsimp only at h
  split at h
  · split at h <;> cases h
  · split at h <;> cases h

/-- A comment begins with a number sign and goes on to the end of its line. -/
theorem eq_cons_of_piece {cs text : List Char} (h : piece cs = .comment text) :
    ∃ rest, cs = '#' :: rest ∧ text = ('#' :: rest).takeWhile fun c => c != '\r' &&
      c != '\n' := by
  unfold piece at h
  split at h
  case h_4 rest =>
    cases h
    exact ⟨rest, rfl, rfl⟩
  case h_5 =>
    split at h
    · rename_i p hstring
      rw [h] at hstring
      exact absurd hstring (stringPiece?_ne_comment _ _)
    · split at h
      · cases h
      · split at h
        · cases h
        · split at h <;> cases h
  all_goals cases h

/-- **The pieces of a line** add the line once at most: behind a comment there is no
number sign. -/
theorem adds_scanLine (line : Nat) {n column : Nat} {cs : List Char} (s : Scanner)
    (hend : HasOneEnd cs) :
    Adds line cs s (scanLine line n column cs s) := by
  induction n generalizing column cs s with
  | zero => exact .inl rfl
  | succ n ih =>
      have hsuffix : cs.drop (cs.takeWhile isGap).length <:+ cs := List.drop_suffix _ _
      have hone : HasOneEnd (cs.drop (cs.takeWhile isGap).length) :=
        hend.sublist hsuffix.sublist
      rw [scanLine]
      generalize cs.drop (cs.takeWhile isGap).length = rest at hsuffix hone ⊢
      refine Adds.of_suffix ?_ hsuffix
      split
      · exact .inl rfl
      -- whatever is taken off, what is left is the end of the line
      have hstep : ∀ (k column : Nat) (t : Scanner), t.found = s.found →
          Adds line rest s (scanLine line n column (rest.drop k) t) := by
        intro k column t ht
        have hadds : Adds line (rest.drop k) t (scanLine line n column (rest.drop k) t) :=
          ih t (hone.sublist (List.drop_sublist k rest))
        rw [Adds, ht] at hadds
        exact Adds.of_suffix hadds (List.drop_suffix k rest)
      split
      · exact hstep _ _ _ rfl
      · exact hstep _ _ _ rfl
      · exact hstep _ _ _ rfl
      · rename_i text hpiece
        obtain ⟨behind, rfl, rfl⟩ := eq_cons_of_piece hpiece
        have hnone := not_mem_behind_comment hone
        rcases ih (s.note line _) (hone.sublist (List.drop_sublist _ _))
          with hsame | ⟨-, hasking⟩
        · rw [Adds, hsame]
          exact adds_note line behind s
        · exact absurd hasking.mem hnone
      · exact hstep _ _ _ rfl
      · exact .inl rfl

theorem adds_scanRest (line column : Nat) {cs : List Char} (s : Scanner)
    (hend : HasOneEnd cs) :
    Adds line cs s (scanRest line column cs s) :=
  adds_scanLine line s hend

theorem adds_stringLine {line : Nat} {o : OpenString} {cs : List Char} (s : Scanner)
    (hend : HasOneEnd cs) :
    Adds line cs s (stringLine line o cs s) := by
  rw [stringLine]
  split
  · rename_i k hclosing
    have hadds := adds_scanRest line k { s with string := none, strict := false }
      (hend.sublist (List.drop_sublist k cs))
    exact Adds.of_suffix hadds (List.drop_suffix k cs)
  · split <;> exact .inl rfl

theorem adds_statementLine {line : Nat} {cs : List Char} {s t : Scanner}
    (hend : HasOneEnd cs)
    (h : statementLine line cs s = .ok (some t)) : Adds line cs s t := by
  have hsuffix : cs.drop (cs.takeWhile isGap).length <:+ cs := List.drop_suffix _ _
  rw [statementLine] at h
  split at h
  · -- a line of blanks ends the text
    cases h
  · rename_i c rest hcons
    rw [hcons] at hsuffix
    refine Adds.of_suffix ?_ hsuffix
    split at h
    · -- a comment by itself, the end of a line, or a statement
      rename_i hc
      cases h
      obtain rfl := beq_iff_eq.mp hc
      exact adds_note line rest s
    · split at h
      · cases h
        exact .inl rfl
      · obtain ⟨blocks, -, h⟩ := bind_eq_ok.mp h
        cases h
        exact adds_scanRest line _ { s with blocks } (hend.sublist hsuffix.sublist)

/-! ### What a run adds -/

theorem scanLines_nil {s s' : Scanner} {line : Nat} (h : scanLines s line [] = .ok s') :
    s' = s := by
  rw [scanLines] at h
  split at h
  · cases h
  · split at h <;> cases h
    rfl

/-- **A line among others**: it ends the scan, or it adds what it may and the lines
behind it are gone through. -/
theorem scanLines_step {s s' : Scanner} {line : Nat} {cs : List Char}
    {rest : List (List Char)} (hend : HasOneEnd cs)
    (h : scanLines s line (cs :: rest) = .ok s') :
    s' = s ∨ ∃ t, Adds line cs s t ∧ scanLines t (line + 1) rest = .ok s' := by
  rw [scanLines] at h
  split at h
  · exact .inr ⟨_, adds_stringLine s hend, h⟩
  · split at h
    · rcases hline : statementLine line cs s with f | - | t
      · rw [hline] at h
        cases h
      · rw [hline] at h
        cases h
        exact .inl rfl
      · rw [hline] at h
        exact .inr ⟨t, adds_statementLine hend hline, h⟩
    · exact .inr ⟨_, adds_scanRest line 0 { s with joined := false } hend, h⟩

/-- **What is found in lines** is new, comes latest first, and each is a line that asks
for silence. -/
theorem exists_new {s s' : Scanner} {line : Nat} {ls : List (List Char)}
    (hends : ∀ l ∈ ls, HasOneEnd l)
    (h : scanLines s line ls = .ok s') :
    ∃ new, s'.found = new ++ s.found ∧ new.Pairwise (· > ·) ∧
      ∀ n ∈ new, ∃ k l, n = line + k ∧ ls[k]? = some l ∧ HasAsking l := by
  -- by induction on the lines: a later line has a greater number and is put in front of
  -- the earlier ones
  induction ls generalizing s line with
  | nil =>
      obtain rfl := scanLines_nil h
      exact ⟨[], rfl, .nil, List.forall_mem_nil _⟩
  | cons cs ls ih =>
      obtain ⟨hend, hends⟩ := List.forall_mem_cons.mp hends
      rcases scanLines_step hend h with rfl | ⟨t, hadds, h⟩
      · exact ⟨[], rfl, .nil, List.forall_mem_nil _⟩
      obtain ⟨new, hnew, hpairwise, hall⟩ := ih hends h
      have hlater : ∀ n ∈ new, line < n ∧ ∃ k l, n = line + k ∧ (cs :: ls)[k]? = some l ∧
          HasAsking l := by
        intro n hn
        obtain ⟨k, l, rfl, hl, hasking⟩ := hall n hn
        exact ⟨by omega, k + 1, l, by omega, hl, hasking⟩
      rcases hadds with hsame | ⟨hline, hasking⟩
      · exact ⟨new, by rw [hnew, hsame], hpairwise, fun n hn => (hlater n hn).2⟩
      · refine ⟨new ++ [line], by rw [hnew, hline, List.append_assoc]; rfl, ?_, ?_⟩
        · refine List.pairwise_append.mpr ⟨hpairwise, List.pairwise_singleton _ _,
            fun n hn m hm => ?_⟩
          obtain rfl := List.mem_singleton.mp hm
          exact (hlater n hn).1
        · intro n hn
          rcases List.mem_append.mp hn with hn | hn
          · exact (hlater n hn).2
          · obtain rfl := List.mem_singleton.mp hn
            exact ⟨0, cs, rfl, rfl, hasking⟩

end Source.Ignored

/-! ### Lines of a text -/

namespace Text

/-- Whether all line breaks of a text are line feeds. -/
def HasFeedsOnly (cs : List Char) : Prop :=
  ∀ c ∈ cs, isLineBreak c = true → c = '\n'

instance (cs : List Char) : Decidable (HasFeedsOnly cs) :=
  List.decidableBAll _ cs

/-- Only the last line of a text may be without an ending. -/
theorem pairwise_cutLines (cs : List Char) : (cutLines cs).Pairwise fun a _ =>
    a.2 ≠ [] := by
  fun_induction cutLines cs with
  | case1 => exact .nil
  | case2 rest ih => exact List.pairwise_cons.mpr ⟨fun _ _ => List.cons_ne_nil _ _, ih⟩
  | case3 c rest _ _ ih =>
      exact List.pairwise_cons.mpr ⟨fun _ _ => List.cons_ne_nil _ _, ih⟩
  | case4 => exact List.pairwise_singleton _ _
  | case5 c rest _ _ text ending more hmore ih =>
      rw [hmore] at ih
      exact List.pairwise_cons.mpr (List.pairwise_cons.mp ih)

/-- Where line breaks are line feeds, every line but the last one ends in one. -/
theorem HasFeedsOnly.feed_mem {cs : List Char} (h : HasFeedsOnly cs)
    {front back : List (List Char × List Char)}
    {e : List Char × List Char} (hcut : cutLines cs = front ++ e :: back) :
    ∀ l ∈ front, '\n' ∈ l.2 := by
  intro l hl
  have hmem : l ∈ cutLines cs := by
    rw [hcut]
    exact List.mem_append_left _ hl
  have hne : l.2 ≠ [] := by
    have hpairwise := pairwise_cutLines cs
    rw [hcut] at hpairwise
    exact (List.pairwise_append.mp hpairwise).2.2 l hl e List.mem_cons_self
  obtain ⟨c, hc⟩ := List.exists_mem_of_ne_nil _ hne
  have hfeed : c = '\n' := by
    apply h c (mem_of_mem_cutLines hmem (List.mem_append_right _ hc))
    exact (breaks_of_cutLines cs l hmem).2 c hc
  exact hfeed ▸ hc

end Text

namespace Source

open Text Ignored

variable {text : String} {s : Scanner}

/-- What is found in a text are the numbers of lines that ask for silence. -/
theorem exists_line_of_found (h : scanLines .start 1 (fullLines text) = .ok s) :
    s.found.Pairwise (· > ·) ∧ ∀ n ∈ s.found, 1 ≤ n ∧ n ≤ (lines text).length ∧
      ∃ l, (lines text)[n - 1]? = some l ∧ HasAsking l.toList := by
  have hends : ∀ l ∈ fullLines text, HasOneEnd l := fun l hl => hasOneEnd_of_mem hl
  obtain ⟨new, hnew, hpairwise, hall⟩ := exists_new hends h
  obtain rfl : s.found = new := hnew.trans (List.append_nil new)
  refine ⟨hpairwise, fun n hn => ?_⟩
  obtain ⟨k, full, rfl, hfull, hasking⟩ := hall n hn
  rw [fullLines, List.getElem?_map] at hfull
  obtain ⟨e, he, rfl⟩ := Option.map_eq_some_iff.mp hfull
  have hline : (lines text)[k]? = some (String.ofList e.1) := by
    rw [lines, List.getElem?_map, he]
    rfl
  have hk : k < (lines text).length := (List.getElem?_eq_some_iff.mp hline).1
  refine ⟨by omega, by omega, String.ofList e.1, ?_, ?_⟩
  · rw [Nat.add_sub_cancel_left, hline]
  · rw [String.toList_ofList]
    exact hasAsking_of_append (breaks_of_cutLines _ e (List.mem_of_getElem? he)).2 hasking

/-- A line of a text stands between the lines that are cut off before and behind it. -/
theorem exists_cut_of_line {k : Nat} {l : String} (h : (lines text)[k]? = some l) :
    ∃ front e back, cutLines text.toList = front ++ e :: back ∧ front.length = k ∧
      l = String.ofList e.1 := by
  rw [lines, List.getElem?_map] at h
  obtain ⟨e, he, rfl⟩ := Option.map_eq_some_iff.mp h
  obtain ⟨hk, rfl⟩ := List.getElem?_eq_some_iff.mp he
  refine ⟨(cutLines text.toList).take k, (cutLines text.toList)[k],
    (cutLines text.toList).drop (k + 1), ?_, ?_, rfl⟩
  · rw [List.getElem_cons_drop, List.take_append_drop]
  · rw [List.length_take]
    omega

theorem Ignored.Says.ne_nil {cs : List Char} (h : Says cs) : cs ≠ [] := by
  rintro rfl
  obtain ⟨words, hwords, hinfix⟩ := h
  obtain ⟨init, rfl⟩ := hwords.exists_init
  simp at hinfix

/-- A comment in a text without strings is found, as no line in front of it can end the
scan. -/
theorem mem_found_of_says (hfeeds : HasFeedsOnly text.toList)
    (hunquoted : IsUnquoted text.toList)
    (h : scanLines .start 1 (fullLines text) = .ok s) {k : Nat} {l : String}
    (hl : (lines text)[k]? = some l)
    (hwords : Says (l.toList.dropWhile (· != '#'))) : k + 1 ∈ s.found := by
  obtain ⟨front, e, back, hcut, rfl, rfl⟩ := exists_cut_of_line hl
  rw [String.toList_ofList] at hwords
  have hbody : IsUnbroken e.1 := (breaks_of_cutLines text.toList e (by simp [hcut])).1
  have hhash : '#' ∈ e.1 := by
    by_contra hnone
    apply hwords.ne_nil
    rw [List.dropWhile_eq_nil_iff]
    intro c hc
    rw [bne_iff_ne]
    rintro rfl
    exact hnone hc
  have hasks : asks (commentIn (e.1 ++ e.2)) = true :=
    asks_iff.mpr (hwords.mono (commentIn_append hbody hhash e.2).isInfix)
  -- the lines in front have a line feed, so none of them ends the search
  have hgaps : ∀ l ∈ front.map (fun l => l.1 ++ l.2), ∃ c ∈ l, isGap c = false :=
    List.forall_mem_map.mpr fun l hl =>
      ⟨'\n', List.mem_append_right _ (hfeeds.feed_mem hcut l hl), rfl⟩
  have hall : ∀ l ∈ fullLines text, IsUnquoted l ∧ HasOneEnd l :=
    fun l => isUnquoted_and_hasOneEnd hunquoted
  have hfull : fullLines text = front.map (fun l => l.1 ++ l.2) ++ (e.1 ++ e.2) ::
      back.map fun l => l.1 ++ l.2 := by
    rw [fullLines, hcut, List.map_append, List.map_cons]
  rw [hfull] at hall h
  have hmem := mem_found ⟨rfl, rfl⟩ hall hgaps hasks h
  rwa [List.length_map, Nat.add_comm] at hmem

/-- **Silenced lines are found exactly.** Whenever comments can be found, what is found
are numbers of lines, in order and each once, and such a line has a number sign with the
words that ask for silence behind it.  If the text has no line breaks but line feeds and
neither quotes nor backslashes, these are all the lines whose text from the first number
sign on has the words. -/
theorem ignoredLines_exact {found : List Nat} (h : ignoredLines text = .ok found) :
    found.Pairwise (· < ·) ∧
    (∀ n ∈ found, 1 ≤ n ∧ n ≤ (lines text).length ∧
      ∃ l, (lines text)[n - 1]? = some l ∧ ∃ a b, l.toList = a ++ '#' :: b ∧ Says b) ∧
    (HasFeedsOnly text.toList → IsUnquoted text.toList →
      ∀ n, n ∈ found ↔ 1 ≤ n ∧ ∃ l, (lines text)[n - 1]? = some l ∧
        Says (l.toList.dropWhile (· != '#'))) := by
  obtain ⟨s, hs, h⟩ := bind_eq_ok.mp h
  cases h
  obtain ⟨hpairwise, hsound⟩ := exists_line_of_found hs
  refine ⟨List.pairwise_reverse.mpr hpairwise, fun n hn =>
    hsound n (List.mem_reverse.mp hn), fun hfeeds hunquoted n => ?_⟩
  rw [List.mem_reverse]
  constructor
  · -- what is noted has a comment that asks
    intro hn
    obtain ⟨hpos, -, l, hl, a, b, hab, hb⟩ := hsound n hn
    refine ⟨hpos, l, hl, ?_⟩
    rw [hab]
    exact says_dropWhile hb
  · rintro ⟨hpos, l, hl, hwords⟩
    have hmem := mem_found_of_says hfeeds hunquoted hs hl hwords
    rwa [Nat.sub_add_cancel hpos] at hmem

/-- A text with brackets over several lines, characters that no program may hold, a
blank line, a block, and comments of which the last one has one blank too many. -/
def bracketText : String :=
  "def f(\n  # bb:ignore\n $ ?):\n\n\tx = 0x  # of (bb: # bb:\u2003ignore\n# bb:  ignore"

theorem ignoredLines_exact_brackets :
    ignoredLines bracketText = .ok [2, 5] ∧
      ∀ n, n ∈ [2, 5] ↔ 1 ≤ n ∧ ∃ l, (lines bracketText)[n - 1]? = some l ∧
        Says (l.toList.dropWhile (· != '#')) := by
  have hfound : ignoredLines bracketText = .ok [2, 5] := by rfl
  exact ⟨hfound, (ignoredLines_exact hfound).2.2 (by decide +kernel) (by decide +kernel)⟩

end Source

end RuleLint
