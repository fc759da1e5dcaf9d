/-
RuleLint/Proofs/Comments.lean

Comments in a text without strings.

Where a text holds no quote and no backslash, the scanner for comments has nothing to be
misled by: no piece that it takes off a line in front of the first number sign reaches
beyond that sign (`piece_cases`), so the comment of a line is what stands from its first
number sign on (`commentIn`).  `notes_scanLine` says so for the pieces of a line,
`scanLines_cons` for a line among others: the line is noted if its comment asks for
silence, and the next line starts with no string open.

Lines are numbered as they are cut, at every kind of line break.  A piece of text that
no other break than a line feed divides (`Text.IsOneLine`) is one such line, so up to
the first other break the numbers are those of the line feeds: `mem_ignoredLines`.
-/
import Mathlib.Data.List.Infix
import Mathlib.Data.List.TakeWhile
import RuleLint.Proofs.Steps
import RuleLint.Source.Ignored

namespace RuleLint

namespace Source.Ignored

open Text

/-! ### Words that ask for silence -/

/-- The words that ask for silence, with at most one blank between them. -/
def IsAsking (words : List Char) : Prop :=
  words = "bb:ignore".toList ∨ ∃ c, isBlank c = true ∧ words = "bb:".toList ++
    c :: "ignore".toList

/-- A text holds the words that ask for silence. -/
def Says (cs : List Char) : Prop :=
  ∃ words, IsAsking words ∧ words <:+: cs

/-- The words are looked for at the front of a text. -/
theorem asksHere_iff {cs : List Char} : asksHere cs = true ↔ ∃ words, IsAsking words ∧
    words <+: cs := by
  constructor
  · intro h
    unfold asksHere at h
    split at h
    · -- the words without a blank, or with one between them
      rcases (Bool.or_eq_true _ _).mp h with h | h
      · obtain ⟨back, rfl⟩ := List.isPrefixOf_iff_prefix.mp h
        exact ⟨_, .inl rfl, back, rfl⟩
      · split at h
        · rename_i c more _
          obtain ⟨hc, h⟩ := (Bool.and_eq_true _ _).mp h
          obtain ⟨back, rfl⟩ := List.isPrefixOf_iff_prefix.mp h
          exact ⟨_, .inr ⟨c, hc, rfl⟩, back, rfl⟩
        · cases h
    · cases h
  · rintro ⟨_, rfl | ⟨c, hc, rfl⟩, back, rfl⟩
    · rfl
    · simp [asksHere, hc]

/-- And at every place of it. -/
theorem asks_iff {cs : List Char} : asks cs = true ↔ Says cs := by
  induction cs with
  | nil =>
      have hnone : ¬ Says [] := by
        rintro ⟨_, rfl | ⟨c, -, rfl⟩, h⟩ <;> cases List.infix_nil.mp h
      exact iff_of_false Bool.false_ne_true hnone
  | cons c cs ih =>
      rw [asks, Bool.or_eq_true, ih, asksHere_iff]
      simp only [Says, List.infix_cons_iff, and_or_left, exists_or]

/-! ### Pieces of a line -/

/-- A text without anything that starts a string or goes on behind the end of a line. -/
def IsUnquoted (cs : List Char) : Prop :=
  ∀ c ∈ cs, c ≠ '\'' ∧ c ≠ '"' ∧ c ≠ '\\'

instance (cs : List Char) : Decidable (IsUnquoted cs) :=
  List.decidableBAll _ cs

theorem IsUnquoted.of_suffix {cs rest : List Char} (h : IsUnquoted cs)
    (hrest : rest <:+ cs) : IsUnquoted rest :=
  fun c hc => h c (hrest.subset hc)

theorem drop_length_takeWhile (p : Char → Bool) (cs : List Char) :
    cs.drop (cs.takeWhile p).length = cs.dropWhile p := by
  have h : (cs.takeWhile p ++ cs.dropWhile p).drop (cs.takeWhile p).length =
    cs.dropWhile p := List.drop_left
  rwa [List.takeWhile_append_dropWhile] at h

/-- What is left of a text behind characters of which none is a number sign. -/
def Passes (cs rest : List Char) : Prop :=
  ∃ front, cs = front ++ rest ∧ '#' ∉ front

namespace Passes

variable {cs rest more : List Char} {c : Char}

theorem refl (cs : List Char) : Passes cs cs :=
  ⟨[], rfl, List.not_mem_nil⟩

/-- What is passed in two parts is passed. -/
theorem trans (h : Passes cs rest) (h' : Passes rest more) : Passes cs more := by
  obtain ⟨front, rfl, hfront⟩ := h
  obtain ⟨front', rfl, hfront'⟩ := h'
  exact ⟨front ++ front', (List.append_assoc _ _ _).symm, by simp [hfront, hfront']⟩

theorem cons (hc : c ≠ '#') (h : Passes cs rest) : Passes (c :: cs) rest := by
  obtain ⟨front, rfl, hfront⟩ := h
  exact ⟨c :: front, rfl, by simp [hc.symm, hfront]⟩

theorem getD {cut : List Char → Option (List Char)}
    (h : ∀ rest, cut cs = some rest → Passes cs rest) :
    Passes cs ((cut cs).getD cs) := by
  rcases hcut : cut cs with - | rest
  · exact refl cs
  · exact h rest hcut

/-- A run of characters ends in front of a number sign, if that is none of them. -/
theorem takeWhile {p : Char → Bool} (hp : p '#' = false) (cs : List Char) :
    Passes cs (cs.drop (cs.takeWhile p).length) := by
  rw [drop_length_takeWhile]
  refine ⟨cs.takeWhile p, List.takeWhile_append_dropWhile.symm, fun h => ?_⟩
  rw [List.mem_takeWhile_imp h] at hp
  cases hp

end Passes

section Numbers

variable {cs rest : List Char} {isDigit : Char → Bool}

/-- Digits in groups, by strong induction on what is left. -/
theorem passes_more (hd : isDigit '#' = false) (cs : List Char) :
    Passes cs (cutDigits?.more isDigit cs) := by
  have hne : ∀ d, isDigit d = true → d ≠ '#' := by
    rintro d h rfl
    rw [hd] at h
    cases h
  fun_induction cutDigits?.more isDigit cs with
  | case1 d rest h ih => exact .cons (by decide) (.cons (hne d h) ih)
  | case2 d rest h => exact .refl _
  | case3 d rest _ h ih => exact .cons (hne d h) ih
  | case4 d rest _ h => exact .refl _
  | case5 => exact .refl _

/-- Digits, with low lines between them. -/
theorem passes_of_cutDigits? (hd : isDigit '#' = false)
    (h : cutDigits? isDigit cs = some rest) : Passes cs rest := by
  cases cs with
  | nil => cases h
  | cons d cs =>
      rw [cutDigits?] at h
      split at h
      · rename_i hdigit
        cases h
        refine .cons ?_ (passes_more hd cs)
        rintro rfl
        rw [hd] at hdigit
        cases hdigit
      · cases h

/-- An exponent has a sign or none, and digits. -/
theorem passes_of_cutExponent? (h : cutExponent? cs = some rest) : Passes cs rest := by
  unfold cutExponent? at h
  split at h
  · rename_i e rest
    -- neither the letter nor the sign is a number sign
    split at h
    · rename_i he
      have he : e ≠ '#' := by
        rintro rfl
        simp at he
      split at h
      · rename_i s more
        split at h
        · rename_i hs
          have hs : s ≠ '#' := by
            rintro rfl
            simp at hs
          exact .cons he (.cons hs (passes_of_cutDigits? (by decide) h))
        · exact .cons he (passes_of_cutDigits? (by decide) h)
      · cases h
    · cases h
  · cases h

/-- A number with a point has digits on one side of it at least. -/
theorem passes_of_cutFloat? (h : cutFloat? cs = some rest) : Passes cs rest := by
  unfold cutFloat? at h
  dsimp only at h
  -- what stands behind a point, and what may stand behind digits
  have hpoint : ∀ more, Passes ('.' :: more) ((cutDigits? Char.isDigit more).getD more) :=
      fun more =>
    .cons (by decide) (.getD fun _ => passes_of_cutDigits? (by decide))
  have hexponent : ∀ more, Passes more ((cutExponent? more).getD more) :=
    fun more => .getD fun _ => passes_of_cutExponent?
  split at h
  · rename_i pointed hpointed
    cases h
    refine .trans ?_ (hexponent pointed)
    -- digits and a point, or a point with digits behind it
    split at hpointed
    · rename_i more hdigits
      cases hpointed
      exact (passes_of_cutDigits? (by decide) hdigits).trans (hpoint more)
    · exact .cons (by decide) (passes_of_cutDigits? (by decide) hpointed)
    · cases hpointed
  · obtain ⟨more, hdigits, h⟩ := Option.bind_eq_some_iff.mp h
    exact (passes_of_cutDigits? (by decide) hdigits).trans (passes_of_cutExponent? h)

theorem passes_of_cutUnit? (h : cutUnit? cs = some rest) : Passes cs rest := by
  unfold cutUnit? at h
  split at h
  · rename_i c rest
    split at h
    · rename_i hc
      cases h
      refine .cons ?_ (.refl _)
      rintro rfl
      simp at hc
    · cases h
  · cases h

/-- A number in another base has a letter that says which. -/
theorem passes_of_cutBased? {letters : List Char} (hletters : '#' ∉ letters)
    (hd : isDigit '#' = false)
    (h : cutBased? letters isDigit cs = some rest) : Passes cs rest := by
  unfold cutBased? at h
  split at h
  · rename_i b more
    split at h
    · rename_i hb
      have hb : b ≠ '#' := by
        rintro rfl
        exact hletters (by simpa using hb)
      refine .cons (by decide) (.cons hb ?_)
      split at h
      · exact .cons (by decide) (passes_of_cutDigits? hd h)
      · exact passes_of_cutDigits? hd h
    · cases h
  · cases h

theorem passes_of_cutDecimal? (h : cutDecimal? cs = some rest) : Passes cs rest := by
  unfold cutDecimal? at h
  split at h
  · exact passes_of_cutDigits? (by decide) h
  · exact passes_of_cutDigits? (by decide) h

/-- No number reaches beyond a number sign. -/
theorem passes_of_cutNumber? (h : cutNumber? cs = some rest) : Passes cs rest := by
  simp only [cutNumber?, Option.or_eq_some_iff, Option.bind_eq_some_iff] at h
  rcases h with ⟨more, hdigits, h⟩ | ⟨-,
    ⟨more, hfloat, h⟩ | ⟨-, h | ⟨-, h | ⟨-, h | ⟨-, h | ⟨-, h⟩⟩⟩⟩⟩⟩
  · exact (passes_of_cutDigits? (by decide) hdigits).trans (passes_of_cutUnit? h)
  · exact (passes_of_cutFloat? hfloat).trans (passes_of_cutUnit? h)
  · exact passes_of_cutFloat? h
  · exact passes_of_cutBased? (by decide) (by decide) h
  · exact passes_of_cutBased? (by decide) (by decide) h
  · exact passes_of_cutBased? (by decide) (by decide) h
  · exact passes_of_cutDecimal? h

end Numbers

/-! ### The comment of a line -/

/-- The comment of a line without strings: all of it from the first number sign on,
without the end of the line. -/
def commentIn (cs : List Char) : List Char :=
  (cs.dropWhile (· != '#')).takeWhile fun c => c != '\r' && c != '\n'

/-- What is passed without a number sign has no part in the comment. -/
theorem commentIn_of_passes {cs rest : List Char} (h : Passes cs rest) :
    commentIn cs = commentIn rest := by
  obtain ⟨front, rfl, hfront⟩ := h
  have hall : ∀ c ∈ front, (c != '#') = true := by
    intro c hc
    rw [bne_iff_ne]
    rintro rfl
    exact hfront hc
  rw [commentIn, List.dropWhile_append_of_pos hall, commentIn]

theorem commentIn_of_not_mem {cs : List Char} (h : '#' ∉ cs) : commentIn cs = [] :=
  commentIn_of_passes ⟨cs, (List.append_nil cs).symm, h⟩

/-- Without quotes no string starts. -/
theorem stringStart?_of_isUnquoted {cs : List Char} (h : IsUnquoted cs) :
    stringStart? cs = none := by
  have hquote : ∀ c ∈ cs, (c == '\'' || c == '"') = false := by
    intro c hc
    simp [(h c hc).1, (h c hc).2.1]
  unfold stringStart?
  rcases cs with - | ⟨a, - | ⟨b, - | ⟨c, rest⟩⟩⟩ <;> simp_all

/-- A piece has one character at least. -/
theorem passes_drop_max {c : Char} {rest : List Char} (hc : c ≠ '#') {k : Nat}
    (h : Passes (c :: rest) ((c :: rest).drop k)) :
    Passes (c :: rest) ((c :: rest).drop (max 1 k)) := by
  rcases k with - | k
  · exact .cons hc (.refl rest)
  · rwa [Nat.max_eq_right (Nat.le_add_left 1 k)]

/-- In front of a number sign, a piece of a line without strings is a bracket or does
not reach beyond the sign. -/
theorem piece_cases {c : Char} {rest : List Char} (h : IsUnquoted (c :: rest))
    (hc : c ≠ '#') :
    (∃ k, piece (c :: rest) = .plain k ∧
      Passes (c :: rest) ((c :: rest).drop (max 1 k))) ∨
      piece (c :: rest) = .opening ∨ piece (c :: rest) = .closing := by
  have hback : c ≠ '\\' := (h c List.mem_cons_self).2.2
  have hstring : stringPiece? (c :: rest) = none := by
    rw [stringPiece?, stringStart?_of_isUnquoted h]
    rfl
  -- without quotes and backslashes there is no string and no joined line, so a number,
  -- a bracket or a word is left
  unfold piece
  split
  case h_1 heq => cases heq
  case h_2 heq | h_3 heq => exact absurd (List.cons.inj heq).1 hback
  case h_4 heq => exact absurd (List.cons.inj heq).1 hc
  case h_5 heq =>
    cases heq
    rw [hstring]
    dsimp only
    split
    · rename_i more hnumber
      refine .inl ⟨_, rfl, passes_drop_max hc ?_⟩
      obtain ⟨front, heq, hfront⟩ := passes_of_cutNumber? hnumber
      refine ⟨front, ?_, hfront⟩
      rw [heq, List.length_append, Nat.add_sub_cancel, List.drop_left]
    · split
      · exact .inr (.inl rfl)
      · split
        · exact .inr (.inr rfl)
        · exact .inl ⟨_, rfl,
            passes_drop_max hc (passes_drop_max hc (.takeWhile (by decide) _))⟩

/-! ### Lines -/

/-- A line with an end at most: behind a character that ends it there is no number
sign. -/
def HasOneEnd (cs : List Char) : Prop :=
  cs.Pairwise fun a b => a = '\r' ∨ a = '\n' → b ≠ '#'

/-- A comment is noted at its line if it asks for silence. -/
theorem found_note (s : Scanner) (line : Nat) (text : List Char) :
    (s.note line text).found = if asks text then line :: s.found else s.found := by
  rw [Scanner.note]
  split <;> rfl

/-- What a line with a comment does to the scanner, so far as it matters for other
lines. -/
structure Notes (line : Nat) (comment : List Char) (s s' : Scanner) : Prop where
  found : s'.found = if asks comment then line :: s.found else s.found
  string : s'.string = s.string
  joined : s'.joined = s.joined

theorem Notes.nothing {line : Nat} (s : Scanner) : Notes line [] s s :=
  ⟨rfl, rfl, rfl⟩

theorem Notes.note (line : Nat) (comment : List Char) (s : Scanner) :
    Notes line comment s (s.note line comment) := by
  refine ⟨found_note s line comment, ?_, ?_⟩
  all_goals
    rw [Scanner.note]
    split <;> rfl

/-- What is left of a line behind its comment holds no number sign. -/
theorem not_mem_behind_comment {cs : List Char} (h : HasOneEnd cs) :
    '#' ∉ cs.drop (cs.takeWhile fun c => c != '\r' && c != '\n').length := by
  rw [drop_length_takeWhile]
  rcases hrest : cs.dropWhile (fun c => c != '\r' && c != '\n') with - | ⟨c, rest⟩
  · exact List.not_mem_nil
  · have hc : (c != '\r' && c != '\n') = false := by
      have := List.head?_dropWhile_not (fun c => c != '\r' && c != '\n') cs
      rw [hrest] at this
      simpa using this
    have hsuffix : (c :: rest) <:+ cs := hrest ▸ List.dropWhile_suffix _
    have hpair := List.pairwise_cons.mp (h.sublist hsuffix.sublist)
    have hbreak : c = '\r' ∨ c = '\n' := by
      by_contra hne
      simp_all
    rw [List.mem_cons, not_or]
    refine ⟨?_, fun hmem => hpair.1 '#' hmem hbreak rfl⟩
    rcases hbreak with rfl | rfl <;> decide

/-- **The pieces of a line.** Taking them off notes the line if its comment asks for
silence, and opens no string. -/
theorem notes_scanLine (line : Nat) {n column : Nat} {cs : List Char} (s : Scanner)
    (hn : cs.length < n) (h : IsUnquoted cs)
    (hend : HasOneEnd cs) :
    Notes line (commentIn cs) s (scanLine line n column cs s) := by
  induction n generalizing column cs s with
  | zero => exact absurd hn (Nat.not_lt_zero _)
  | succ n ih =>
      have hgap : Passes cs (cs.drop (cs.takeWhile isGap).length) :=
        .takeWhile (by decide) cs
      have hrest := h.of_suffix (List.drop_suffix (cs.takeWhile isGap).length cs)
      have hone : HasOneEnd (cs.drop (cs.takeWhile isGap).length) :=
        hend.sublist (List.drop_sublist _ _)
      have hlength : (cs.drop (cs.takeWhile isGap).length).length ≤ n := by
        rw [List.length_drop]
        omega
      rw [scanLine, commentIn_of_passes hgap]
      generalize cs.drop (cs.takeWhile isGap).length = rest at hrest hone hlength ⊢
      rcases rest with - | ⟨c, rest⟩
      · exact .nothing s
      -- whatever is taken off, fewer characters are left, and they are as good
      have hstep : ∀ (k column : Nat) (t : Scanner), 0 < k →
          Notes line (commentIn ((c :: rest).drop k)) t
            (scanLine line n column ((c :: rest).drop k) t) := by
        intro k column t hk
        refine ih t ?_ (hrest.of_suffix (List.drop_suffix k _))
          (hone.sublist (List.drop_sublist k _))
        rw [List.length_drop]
        simp only [List.length_cons] at hlength ⊢
        omega
      rw [List.isEmpty_cons, if_neg Bool.false_ne_true]
      by_cases hc : c = '#'
      · subst hc
        have hpiece : piece ('#' :: rest) = .comment (commentIn ('#' :: rest)) := rfl
        rw [hpiece]
        dsimp only
        have hnone : '#' ∉ ('#' :: rest).drop (commentIn ('#' :: rest)).length :=
          not_mem_behind_comment hone
        have hlast :=
          hstep (commentIn ('#' :: rest)).length (column + (cs.takeWhile isGap).length +
            (commentIn ('#' :: rest)).length)
          (s.note line (commentIn ('#' :: rest))) (by simp [commentIn])
        rw [commentIn_of_not_mem hnone] at hlast
        have hnote := Notes.note line (commentIn ('#' :: rest)) s
        exact ⟨hlast.found.trans hnote.found, hlast.string.trans hnote.string,
          hlast.joined.trans hnote.joined⟩
      · obtain ⟨k, hk, hpass⟩ | hopen | hclose := piece_cases hrest hc
        · rw [hk, commentIn_of_passes hpass]
          exact hstep _ _ s (by omega)
        · rw [hopen, commentIn_of_passes (.cons hc (.refl rest))]
          have := hstep 1 (column + (cs.takeWhile isGap).length + 1)
            { s with depth := s.depth + 1 } (by omega)
          exact ⟨this.found, this.string, this.joined⟩
        · rw [hclose, commentIn_of_passes (.cons hc (.refl rest))]
          have := hstep 1 (column + (cs.takeWhile isGap).length + 1)
            { s with depth := s.depth - 1 } (by omega)
          exact ⟨this.found, this.string, this.joined⟩

/-- The rest of a line behind its indentation. -/
theorem notes_scanRest (line column : Nat) {cs : List Char} (s : Scanner)
    (h : IsUnquoted cs) (hend : HasOneEnd cs) :
    Notes line (commentIn cs) s (scanRest line column cs s) :=
  notes_scanLine line s (Nat.lt_succ_self _) h hend

/-- A line that begins a statement is noted like any other, unless it is blank and has
no end. -/
theorem statementLine_cases {line : Nat} {cs : List Char} {s : Scanner}
    {r : Option Scanner} (h : IsUnquoted cs) (hend : HasOneEnd cs)
    (hr : statementLine line cs s = .ok r) :
    (r = none ∧ ∀ c ∈ cs, isGap c = true) ∨ ∃ t, r = some t ∧
      Notes line (commentIn cs) s t := by
  have hgap : Passes cs (cs.drop (cs.takeWhile isGap).length) := .takeWhile (by decide) cs
  have hrest := h.of_suffix (List.drop_suffix (cs.takeWhile isGap).length cs)
  have hone : HasOneEnd (cs.drop (cs.takeWhile isGap).length) :=
    hend.sublist (List.drop_sublist _ _)
  rw [statementLine] at hr
  rw [commentIn_of_passes hgap]
  split at hr
  · rename_i hnil
    cases hr
    rw [drop_length_takeWhile] at hnil
    exact .inl ⟨rfl, List.dropWhile_eq_nil_iff.mp hnil⟩
  · rename_i c rest hcons
    rw [hcons] at hrest hone ⊢
    refine .inr ?_
    split at hr
    · rename_i hc
      cases hr
      obtain rfl : c = '#' := by simpa using hc
      exact ⟨_, rfl, .note line (commentIn ('#' :: rest)) s⟩
    · rename_i hc
      split at hr
      · -- the line is blank
        rename_i hbreak
        cases hr
        have hnone : '#' ∉ c :: rest := by
          rw [List.mem_cons, not_or]
          refine ⟨fun heq => hc (beq_iff_eq.mpr heq.symm), fun hmem => ?_⟩
          exact (List.pairwise_cons.mp hone).1 '#' hmem (by simpa using hbreak) rfl
        rw [commentIn_of_not_mem hnone]
        exact ⟨s, rfl, .nothing s⟩
      · obtain ⟨blocks, -, hr⟩ := bind_eq_ok.mp hr
        cases hr
        have hnotes :=
          notes_scanRest line (cs.takeWhile isGap).length { s with blocks } hrest hone
        exact ⟨_, rfl, hnotes.found, hnotes.string, hnotes.joined⟩

/-- Between two lines of a text without strings, no string is open and no line is to go
on. -/
structure Between (s : Scanner) : Prop where
  string : s.string = none
  joined : s.joined = false

/-- **A line among others.** It is noted if its comment asks for silence, and the lines
behind it are gone through; only a blank line without an end is the last one. -/
theorem scanLines_cons {s s' : Scanner} {line : Nat} {cs : List Char}
    {rest : List (List Char)} (hs : Between s) (h : IsUnquoted cs)
    (hend : HasOneEnd cs) (hs' : scanLines s line (cs :: rest) = .ok s') :
    (s' = s ∧ ∀ c ∈ cs, isGap c = true) ∨
      ∃ t, Between t ∧ Notes line (commentIn cs) s t ∧
        scanLines t (line + 1) rest = .ok s' := by
  -- no string is open between the lines
  rw [scanLines, hs.string] at hs'
  dsimp only at hs'
  split at hs'
  · -- the line starts a statement, or goes on with one
    rcases hline : statementLine line cs s with f | r
    · rw [hline] at hs'
      cases hs'
    · obtain ⟨rfl, hblank⟩ | ⟨t, rfl, hnotes⟩ := statementLine_cases h hend hline
      · rw [hline] at hs'
        cases hs'
        exact .inl ⟨rfl, hblank⟩
      · rw [hline] at hs'
        exact .inr ⟨t, ⟨hnotes.string.trans hs.string, hnotes.joined.trans hs.joined⟩,
          hnotes, hs'⟩
  · -- inside a statement the line has no indentation to look at
    have hnotes := notes_scanRest line 0 { s with joined := false, string := none } h hend
    exact .inr ⟨_, ⟨hnotes.string, hnotes.joined⟩,
      ⟨hnotes.found, hnotes.string.trans hs.string.symm,
        hnotes.joined.trans hs.joined.symm⟩, hs'⟩

/-- Lines that are noted stay so, by induction on the lines to come. -/
theorem found_subset {s s' : Scanner} {line : Nat} {ls : List (List Char)}
    (hs : Between s)
    (hls : ∀ cs ∈ ls, IsUnquoted cs ∧ HasOneEnd cs) (h : scanLines s line ls = .ok s') :
    s.found ⊆ s'.found := by
  induction ls generalizing s line with
  | nil =>
      rw [scanLines, hs.string] at h
      dsimp only at h
      split at h
      · cases h
        exact List.Subset.refl _
      · cases h
  | cons cs ls ih =>
      obtain ⟨⟨hcs, hend⟩, hls⟩ := List.forall_mem_cons.mp hls
      -- the text ends at a line of blanks, or the line is noted and others follow
      obtain ⟨rfl, -⟩ | ⟨t, ht, hnotes, h⟩ := scanLines_cons hs hcs hend h
      · exact List.Subset.refl _
      · refine List.Subset.trans ?_ (ih ht hls h)
        rw [hnotes.found]
        split
        · exact List.subset_cons_self _ _
        · exact List.Subset.refl _

/-- A line with a comment that asks for silence is found, if no line in front of it is
blank and without an end. -/
theorem mem_found {s s' : Scanner} {line : Nat} {front back : List (List Char)}
    {cs : List Char} (hs : Between s)
    (hls : ∀ l ∈ front ++ cs :: back, IsUnquoted l ∧ HasOneEnd l)
    (hfront : ∀ l ∈ front, ∃ c ∈ l, isGap c = false)
    (hasks : asks (commentIn cs) = true)
    (h : scanLines s line (front ++ cs :: back) = .ok s') :
    line + front.length ∈ s'.found := by
  induction front generalizing s line with
  | nil =>
      obtain ⟨⟨hcs, hend⟩, hls⟩ := List.forall_mem_cons.mp hls
      obtain ⟨-, hblank⟩ | ⟨t, ht, hnotes, h⟩ := scanLines_cons hs hcs hend h
      · -- a number sign is no blank
        have hnone : '#' ∉ cs := fun hmem => by cases hblank '#' hmem
        rw [commentIn_of_not_mem hnone] at hasks
        cases hasks
      · refine found_subset ht hls h ?_
        rw [hnotes.found, if_pos hasks]
        exact List.mem_cons_self
  | cons l front ih =>
      obtain ⟨⟨hl, hend⟩, hls⟩ := List.forall_mem_cons.mp hls
      obtain ⟨⟨c, hc, hgap⟩, hfront⟩ := List.forall_mem_cons.mp hfront
      obtain ⟨-, hblank⟩ | ⟨t, ht, -, h⟩ := scanLines_cons hs hl hend h
      · rw [hblank c hc] at hgap
        cases hgap
      · have := ih ht hls hfront h
        rwa [List.length_cons, ← Nat.add_assoc, Nat.add_right_comm]

end Source.Ignored

/-! ### Lines of a text -/

namespace Text

/-- A text without line breaks. -/
def IsUnbroken (cs : List Char) : Prop :=
  ∀ c ∈ cs, isLineBreak c = false

instance (cs : List Char) : Decidable (IsUnbroken cs) :=
  List.decidableBAll _ cs

/-- A text that no line break divides; there may be a carriage return at its end, which
is one with the line feed behind it. -/
def IsOneLine (l : List Char) : Prop :=
  ∃ body, IsUnbroken body ∧ (l = body ∨ l = body ++ ['\r'])

/-- Characters that are no line break stay together. -/
theorem cutLines_append {body rest : List Char} (hbody : IsUnbroken body)
    {e : List Char × List Char}
    {more : List (List Char × List Char)} (h : cutLines rest = e :: more) :
    cutLines (body ++ rest) = (body ++ e.1, e.2) :: more := by
  induction body with
  | nil => exact h
  | cons c body ih =>
      obtain ⟨hc, hbody⟩ := List.forall_mem_cons.mp hbody
      rw [List.cons_append, cutLines, if_neg (by simp [hc]), ih hbody]
      · rfl
      · rintro rest rfl
        cases hc

/-- Characters at the front that are no line break are in the first line. -/
theorem cutLines_front {body : List Char} (hbody : IsUnbroken body) (hne : body ≠ [])
    (rest : List Char) :
    ∃ shown ending more, cutLines (body ++ rest) = (body ++ shown, ending) :: more := by
  induction body with
  | nil => exact absurd rfl hne
  | cons c body ih =>
      obtain ⟨hc, hbody⟩ := List.forall_mem_cons.mp hbody
      have hfeed : ∀ more, c = '\r' → body ++ rest = '\n' :: more → False := by
        rintro more rfl
        cases hc
      rw [List.cons_append, cutLines.eq_3 _ _ hfeed, if_neg (by simp [hc])]
      rcases eq_or_ne body [] with rfl | hne
      · rcases hrest : cutLines rest with - | ⟨⟨shown, ending⟩, more⟩
        · exact ⟨[], [], [], by rw [List.nil_append, hrest]; rfl⟩
        · exact ⟨shown, ending, more, by rw [List.nil_append, hrest]; rfl⟩
      · obtain ⟨shown, ending, more, hmore⟩ := ih hbody hne
        exact ⟨shown, ending, more, by rw [hmore]; rfl⟩

/-- The lines of characters with their endings, as `fullLines` cuts a text. -/
def fullCuts (cs : List Char) : List (List Char) :=
  (cutLines cs).map fun l => l.1 ++ l.2

/-- A line feed ends a line, and the next one starts behind it. -/
theorem fullCuts_feed {l : List Char} (h : IsOneLine l) (rest : List Char) :
    fullCuts (l ++ '\n' :: rest) = (l ++ ['\n']) :: fullCuts rest := by
  obtain ⟨body, hbody, rfl | rfl⟩ := h
  · have hcut : cutLines ('\n' :: rest) = ([], ['\n']) :: cutLines rest := rfl
    rw [fullCuts, cutLines_append hbody hcut]
    simp [fullCuts]
  · have hcut : cutLines ('\r' :: '\n' :: rest) = ([], ['\r', '\n']) :: cutLines rest :=
      rfl
    rw [List.append_assoc, List.singleton_append, fullCuts, cutLines_append hbody hcut]
    simp [fullCuts]

/-- A text without breaks belongs to one line, whatever follows. -/
theorem fullCuts_front {body : List Char} (hbody : IsUnbroken body) (hne : body ≠ [])
    (rest : List Char) :
    ∃ tail more, fullCuts (body ++ rest) = (body ++ tail) :: more := by
  obtain ⟨shown, ending, more, hcuts⟩ := cutLines_front hbody hne rest
  refine ⟨shown ++ ending, more.map fun l => l.1 ++ l.2, ?_⟩
  rw [fullCuts, hcuts, List.map_cons, List.append_assoc]

/-- In a line that is cut off, exactly the end is made of line breaks. -/
theorem breaks_of_cutLines (cs : List Char) :
    ∀ e ∈ cutLines cs, IsUnbroken e.1 ∧ ∀ c ∈ e.2, isLineBreak c = true := by
  -- along the cases of the cut: the end, two kinds of breaks, and other characters
  fun_induction cutLines cs with
  | case1 => exact List.forall_mem_nil _
  | case2 rest ih =>
      exact List.forall_mem_cons.mpr
        ⟨⟨List.forall_mem_nil _,
        List.forall_mem_cons.mpr ⟨rfl, List.forall_mem_singleton.mpr rfl⟩⟩, ih⟩
  | case3 c rest _ hc ih =>
      exact List.forall_mem_cons.mpr
        ⟨⟨List.forall_mem_nil _, List.forall_mem_singleton.mpr hc⟩, ih⟩
  | case4 c rest _ hc hnil ih =>
      refine List.forall_mem_singleton.mpr ⟨List.forall_mem_singleton.mpr ?_,
        List.forall_mem_nil _⟩
      exact Bool.eq_false_iff.mpr hc
  | case5 c rest _ hc text ending more hmore ih =>
      rw [hmore] at ih
      obtain ⟨⟨hbody, hending⟩, hall⟩ := List.forall_mem_cons.mp ih
      exact List.forall_mem_cons.mpr
        ⟨⟨List.forall_mem_cons.mpr ⟨Bool.eq_false_iff.mpr hc, hbody⟩, hending⟩, hall⟩

/-- A line is made of characters of the text. -/
theorem mem_of_mem_cutLines {cs : List Char} {e : List Char × List Char}
    (he : e ∈ cutLines cs) {c : Char} (hc : c ∈ e.1 ++ e.2) :
    c ∈ cs := by
  rw [← glue_cutLines cs]
  exact List.mem_flatMap.mpr ⟨e, he, hc⟩

/-- Up to the first other break, the lines of a text are those between its line feeds. -/
theorem fullCuts_intercalate {front : List (List Char)} {body : List Char}
    (hfront : ∀ l ∈ front, IsOneLine l)
    (hbody : IsUnbroken body) (hne : body ≠ []) (rest : List Char)
    (back : List (List Char)) :
    ∃ tail more, fullCuts (['\n'].intercalate (front ++ (body ++ rest) :: back)) =
      front.map (· ++ ['\n']) ++ (body ++ tail) :: more := by
  -- by induction on the lines in front; each is cut off with its line feed
  induction front with
  | nil =>
      cases back with
      | nil =>
          obtain ⟨tail, more, hcuts⟩ := fullCuts_front hbody hne rest
          exact ⟨tail, more, by simpa [List.intercalate] using hcuts⟩
      | cons next back =>
          obtain ⟨tail, more, hcuts⟩ :=
            fullCuts_front hbody hne (rest ++ '\n' :: ['\n'].intercalate (next :: back))
          refine ⟨tail, more, ?_⟩
          rw [List.nil_append, List.intercalate_cons_cons, List.append_assoc,
            List.append_assoc]
          exact hcuts
  | cons l front ih =>
      obtain ⟨hl, hfront⟩ := List.forall_mem_cons.mp hfront
      obtain ⟨tail, more, hcuts⟩ := ih hfront
      refine ⟨tail, more, ?_⟩
      have hfeed : ['\n'].intercalate (l :: front ++ (body ++ rest) :: back) =
          l ++ '\n' :: ['\n'].intercalate (front ++ (body ++ rest) :: back) := by
        cases front <;> simp [List.intercalate_cons_cons]
      rw [hfeed, fullCuts_feed hl, hcuts]
      rfl

end Text

namespace Source

open Text Ignored

/-- A line that is cut off a text has one end. -/
theorem Ignored.hasOneEnd_of_mem {cs l : List Char} (hl : l ∈ fullCuts cs) :
    HasOneEnd l := by
  obtain ⟨e, he, rfl⟩ := List.mem_map.mp hl
  obtain ⟨hbody, hending⟩ := breaks_of_cutLines cs e he
  have hnone : ∀ b ∈ e.2, b ≠ '#' := by
    rintro b hb rfl
    cases hending '#' hb
  refine List.pairwise_append.mpr ⟨?_, ?_, fun a _ b hb _ => hnone b hb⟩
  · refine List.pairwise_of_forall_mem_list fun a ha b _ hbreak => ?_
    have := hbody a ha
    rcases hbreak with rfl | rfl <;> cases this
  · exact List.pairwise_of_forall_mem_list fun a _ b hb _ => hnone b hb

/-- A line that is cut off a text without strings. -/
theorem Ignored.isUnquoted_and_hasOneEnd {cs l : List Char} (h : IsUnquoted cs)
    (hl : l ∈ fullCuts cs) :
    IsUnquoted l ∧ HasOneEnd l := by
  refine ⟨fun c hc => h c ?_, hasOneEnd_of_mem hl⟩
  obtain ⟨e, he, rfl⟩ := List.mem_map.mp hl
  exact mem_of_mem_cutLines he hc

/-- A longer text still holds the words. -/
theorem Ignored.Says.mono {cs ds : List Char} (h : Says cs) (hds : cs <:+: ds) :
    Says ds := by
  obtain ⟨words, hwords, hcs⟩ := h
  exact ⟨words, hwords, hcs.trans hds⟩

/-- The comment of a line goes on to the end of the line. -/
theorem Ignored.commentIn_append {body : List Char} (hbody : IsUnbroken body)
    (hmem : '#' ∈ body)
    (tail : List Char) : body.dropWhile (· != '#') <+: commentIn (body ++ tail) := by
  have hne : (body.dropWhile (· != '#')).isEmpty = false := by
    rw [List.isEmpty_eq_false_iff, Ne, List.dropWhile_eq_nil_iff]
    intro hall
    cases hall '#' hmem
  rw [commentIn, List.dropWhile_append, hne, if_neg Bool.false_ne_true,
    List.takeWhile_append_of_pos]
  · exact List.prefix_append _ _
  · intro c hc
    have := hbody c ((List.dropWhile_suffix _).subset hc)
    rw [Bool.and_eq_true, bne_iff_ne, bne_iff_ne]
    constructor <;> rintro rfl <;> cases this

/-- The words in a comment are behind the first number sign of the line. -/
theorem Ignored.says_dropWhile {a b : List Char} (hb : Says b) :
    Says ((a ++ '#' :: b).dropWhile (· != '#')) := by
  have hmore := hb.mono (List.suffix_cons '#' b).isInfix
  rw [List.dropWhile_append]
  split
  · exact hmore
  · exact hmore.mono (List.suffix_append _ _).isInfix

/-- **A comment silences its line**, in a text without strings and up to the first line
break that is no line feed. -/
theorem mem_ignoredLines {text : String} {front back : List (List Char)}
    {a b rest : List Char} {found : List Nat}
    (hunquoted : IsUnquoted text.toList)
    (hsplit : text.toList.splitOn '\n' = front ++ (a ++ '#' :: b ++ rest) :: back)
    (hfront : ∀ l ∈ front, IsOneLine l) (hbreak : IsUnbroken (a ++ '#' :: b))
    (hasking : Says b)
    (h : ignoredLines text = .ok found) : front.length + 1 ∈ found := by
  obtain ⟨s, hs, h⟩ := bind_eq_ok.mp h
  cases h
  rw [List.mem_reverse]
  have htext :
      text.toList = ['\n'].intercalate (front ++ (a ++ '#' :: b ++ rest) :: back) := by
    rw [← hsplit, List.intercalate_splitOn]
  -- the line is a cut of the text, with as many in front of it as there are feeds
  obtain ⟨tail, more, hcuts⟩ := fullCuts_intercalate hfront hbreak (by simp) rest back
  rw [← htext] at hcuts
  have hall : ∀ l ∈ fullCuts text.toList, IsUnquoted l ∧ HasOneEnd l :=
    fun l => isUnquoted_and_hasOneEnd hunquoted
  have hlines : fullLines text = fullCuts text.toList := rfl
  rw [hcuts] at hall
  rw [hlines, hcuts] at hs
  -- every line in front has an end, and the comment asks for silence
  have hmem := mem_found ⟨rfl, rfl⟩ hall ?_ ?_ hs
  · rwa [List.length_map, Nat.add_comm] at hmem
  · exact List.forall_mem_map.mpr fun l _ => ⟨'\n', by simp, rfl⟩
  · exact asks_iff.mpr
      ((says_dropWhile hasking).mono (commentIn_append hbreak (by simp) tail).isInfix)

end Source

end RuleLint
