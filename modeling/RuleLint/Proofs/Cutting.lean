/-
RuleLint/Proofs/Cutting.lean

What is cut from the characters of a document.

Each function that cuts a scalar, a name or a tag is followed over the characters that
it is meant for: the lemmas say what it gives and where it stops, whatever stands
behind.  Characters that stay on a line move the cursor by one column (`skip_inline`);
what stands between two lines is a line feed, blank lines and the indentation of the
next line, and everything that skips such a gap ends at the same place (`Cursor.below`).
-/
import Mathlib.Data.List.TakeWhile
import RuleLint.Proofs.Steps
import RuleLint.Yaml.Scan

namespace RuleLint.Yaml

open RuleLint.Text Cursor

/-! ### Characters of a line -/

/-- Whether a character stays on its line and takes a column. -/
def isInline (ch : Char) : Bool :=
  !isBreak ch && ch != '\ufeff'

/-- Spaces behind each other. -/
def spaces (n : Nat) : List Char := List.replicate n ' '

/-- Line feeds behind each other. -/
def feeds (n : Nat) : List Char := List.replicate n '\n'

/-- Whether a token or the end of the document is in front. -/
def atToken : List Char → Bool
  | [] => true
  | ch :: _ => isInline ch && ch != ' ' && ch != '#'

/-- What passes a test up to the first that does not. -/
theorem takeWhile_append_of_head {α : Type} {p : α → Bool} {xs rest : List α}
    (hxs : ∀ x ∈ xs, p x = true)
    (hrest : ∀ y ∈ rest.head?, p y = false) : (xs ++ rest).takeWhile p = xs := by
  rw [List.takeWhile_append_of_pos hxs]
  cases rest with
  | nil => rw [List.takeWhile_nil, List.append_nil]
  | cons y rest =>
      rw [List.takeWhile_cons_of_neg (by simp [hrest y rfl]), List.append_nil]

theorem isInline_of_mem_spaces {n : Nat} {x : Char} (hx : x ∈ spaces n) :
    isInline x = true := by
  rw [List.eq_of_mem_replicate hx]
  decide

@[simp] theorem length_spaces (n : Nat) : (spaces n).length = n :=
  List.length_replicate

@[simp] theorem length_feeds (n : Nat) : (feeds n).length = n :=
  List.length_replicate

namespace Cursor

variable {c : Cursor} {ch : Char} {xs rest : List Char} {test : Char → Bool} {k n : Nat}

theorem peek_of_cons (h : c.rest = ch :: rest) : c.peek = ch := by
  rw [peek, h]
  rfl

theorem peek_of_nil (h : c.rest = []) : c.peek = '\x00' := by
  rw [peek, h]
  rfl

/-- A cursor some columns further on the same line. -/
def along (c : Cursor) (n : Nat) (rest : List Char) : Cursor :=
  ⟨rest, ⟨c.mark.index + n, c.mark.line, c.mark.column + n⟩⟩

/-- A cursor behind `m` characters of its line, `k` further lines and `n` columns. -/
def below (c : Cursor) (m k n : Nat) (rest : List Char) : Cursor :=
  ⟨rest, ⟨c.mark.index + m + k + n, c.mark.line + k, n⟩⟩

theorem along_zero (h : c.rest = rest) : c.along 0 rest = c := by
  subst h
  rfl

/-- Two moves on a line are one. -/
theorem along_along (m : Nat) (rest' : List Char) :
    (c.along m rest').along n rest = c.along (m + n) rest := by
  simp [along, Nat.add_assoc]

theorem below_along (l m : Nat) (rest' : List Char) :
    (c.along l rest').below m k n rest = c.below (l + m) k n rest := by
  simp [along, below, Nat.add_assoc]

theorem along_below (l m : Nat) (rest' : List Char) :
    (c.below l m k rest').along n rest = c.below l m (k + n) rest := by
  simp [along, below, Nat.add_assoc]

/-- Two gaps between lines are one, when the first ends where the second starts. -/
theorem below_below (l i j m : Nat) (rest' : List Char) :
    (c.below l i j rest').below m k n rest = c.below (l + j + m) (i + k) n rest := by
  simp only [below, Cursor.mk.injEq, Mark.mk.injEq, true_and, and_true]
  omega

/-- A character that stays on its line moves the cursor by a column. -/
theorem next_inline (h : c.rest = ch :: rest) (hch : isInline ch = true) :
    c.next = c.along 1 rest := by
  obtain ⟨hbreak, hmark⟩ : isBreak ch = false ∧ (ch == '\ufeff') = false := by
    simpa [isInline] using hch
  have hreturn : (ch == '\r') = false := by
    rw [beq_eq_false_iff_ne]
    rintro rfl
    cases hbreak
  rw [next, h]
  dsimp only
  rw [hbreak, hmark, hreturn]
  rfl

/-- A line feed moves it to the start of the next line. -/
theorem next_feed (h : c.rest = '\n' :: rest) : c.next = c.below 0 1 0 rest := by
  rw [next, h]
  rfl

/-- So do several, by induction on them. -/
theorem skip_inline (h : c.rest = xs ++ rest) (hxs : ∀ x ∈ xs, isInline x = true) :
    c.skip xs.length = c.along xs.length rest := by
  induction xs generalizing c with
  | nil => exact (along_zero h).symm
  | cons x xs ih =>
      obtain ⟨hx, hxs⟩ := List.forall_mem_cons.mp hxs
      rw [List.length_cons, skip, next_inline h hx, ih rfl hxs, along_along, Nat.add_comm]

/-- What is taken by a test ends where the test fails. -/
theorem taken_of_append (h : c.rest = xs ++ rest) (hxs : ∀ x ∈ xs, test x = true)
    (hrest : ∀ y ∈ rest.head?, test y = false) :
    c.taken test = xs := by
  rw [taken, h, takeWhile_append_of_head hxs hrest]

/-- Characters that pass a test and end where it fails are skipped. -/
theorem skipWhile_of_append (h : c.rest = xs ++ rest)
    (hinline : ∀ x ∈ xs, isInline x = true) (hxs : ∀ x ∈ xs, test x = true)
    (hrest : ∀ y ∈ rest.head?, test y = false) :
    c.skipWhile test = c.along xs.length rest := by
  rw [skipWhile, count, h, takeWhile_append_of_head hxs hrest, skip_inline h hinline]

theorem skipWhile_spaces (h : c.rest = spaces n ++ rest)
    (hrest : ∀ y ∈ rest.head?, (y == ' ') = false) :
    c.skipWhile (· == ' ') = c.along n rest := by
  rw [skipWhile_of_append h (fun x => isInline_of_mem_spaces) (fun x hx => ?_) hrest,
    length_spaces]
  rw [List.eq_of_mem_replicate hx]
  rfl

/-- A line feed is a line break by itself. -/
theorem lineBreak?_feed (h : c.rest = '\n' :: rest) :
    c.lineBreak? = some ('\n', c.below 0 1 0 rest) := by
  rw [lineBreak?, peek_of_cons h, next_feed h]
  rfl

theorem lineBreak?_of_not_isBreak (h : isBreak c.peek = false) : c.lineBreak? = none := by
  simp only [isBreak, Bool.or_eq_false_iff] at h
  simp [lineBreak?, h]

/-- A token does not start with a line break. -/
theorem isBreak_peek_of_atToken (h : atToken c.rest = true) : isBreak c.peek = false := by
  rcases hrest : c.rest with _ | ⟨ch, rest⟩
  · rw [peek_of_nil hrest]
    decide
  · rw [hrest] at h
    rw [peek_of_cons hrest]
    simp only [atToken, isInline, Bool.and_eq_true] at h
    simpa using h.1.1.1

end Cursor

theorem head_ne_space_of_atToken {rest : List Char} (h : atToken rest = true) :
    ∀ y ∈ rest.head?, (y == ' ') = false := by
  cases rest with
  | nil => exact fun y hy => by cases hy
  | cons ch rest =>
      rintro _ ⟨⟩
      simp only [atToken, Bool.and_eq_true] at h
      simpa using h.1.2

/-! ### Plain scalars -/

/-- Characters that continue a plain scalar wherever they stand. -/
def isPlainChar (ch : Char) : Bool :=
  isInline ch && !isBlankOrEnd ch && ch != ':'

/-- Whether a separator of documents may be in front. -/
def startsSeparator (cs : List Char) : Bool :=
  cs.take 3 == ['-', '-', '-'] || cs.take 3 == ['.', '.', '.']

variable {c : Cursor} {text rest : List Char} {k n : Nat} {indent : Int}

/-- A separator is three signs at the start of a line with a blank behind them. -/
theorem atSeparator_of_not_startsSeparator (h : startsSeparator c.rest = false) :
    c.atSeparator = false := by
  rw [startsSeparator] at h
  rw [atSeparator, h]
  rfl

/-- A plain scalar goes on over its characters up to a blank or a colon. -/
theorem plainRun_append (htext : ∀ x ∈ text, isPlainChar x = true)
    (hrest : endsPlain false rest = true) :
    plainRun false (text ++ rest) = text := by
  induction text with
  | nil =>
      cases rest with
      | nil => rfl
      | cons ch rest => rw [List.nil_append, plainRun, if_pos hrest]
  | cons x text ih =>
      obtain ⟨hx, htext⟩ := List.forall_mem_cons.mp htext
      have hx : isBlankOrEnd x = false ∧ x ≠ ':' := by
        simp only [isPlainChar, Bool.and_eq_true] at hx
        simpa using And.intro hx.1.2 hx.2
      have hgoes : endsPlain false (x :: (text ++ rest)) = false := by
        simp [endsPlain, hx]
      rw [List.cons_append, plainRun, hgoes, ih htext]
      rfl

theorem isInline_of_isPlainChar {x : Char} (h : isPlainChar x = true) :
    isInline x = true := by
  simp only [isPlainChar, Bool.and_eq_true] at h
  exact h.1.1

/-- The breaks in front of a token on the same line are none. -/
theorem plainBreaks_spaces (h : c.rest = spaces n ++ rest) (hrest : atToken rest = true)
    {m : Nat} (hm : n < m) :
    plainBreaks c m = ([], c.along n rest, true) := by
  induction n generalizing c m with
  | zero =>
      obtain ⟨m, rfl⟩ := Nat.exists_eq_add_of_lt hm
      have h : c.rest = rest := h
      -- a token starts with neither a space nor a break, so the breaks end here
      have hspace : (c.peek == ' ') = false := by
        rcases rest with _ | ⟨ch, rest⟩
        · rw [peek_of_nil h]
          decide
        · rw [peek_of_cons h]
          exact head_ne_space_of_atToken hrest ch rfl
      rw [plainBreaks, hspace,
        lineBreak?_of_not_isBreak (isBreak_peek_of_atToken (h ▸ hrest)), along_zero h]
      rfl
  | succ n ih =>
      obtain ⟨m, rfl⟩ : ∃ j, m = j + 1 := ⟨m - 1, by omega⟩
      have h : c.rest = ' ' :: (spaces n ++ rest) := h
      rw [plainBreaks, peek_of_cons h, next_inline h (by decide)]
      rw [if_pos (beq_self_eq_true ' '), ih rfl (by omega), along_along, Nat.add_comm]

/-- Blank lines and an indentation, from the start of a line on. -/
theorem plainBreaks_gap (h : c.rest = feeds k ++ (spaces n ++ rest))
    (hrest : atToken rest = true)
    (hseparator : startsSeparator (spaces n ++ rest) = false)
    (hcolumn : c.mark.column = 0) {m : Nat} (hm : k + n < m) :
    plainBreaks c m = (feeds k, c.below 0 k n rest, true) := by
  induction k generalizing c m with
  | zero =>
      rw [plainBreaks_spaces h hrest (by omega), along, below, hcolumn, Nat.zero_add]
      rfl
  | succ k ih =>
      obtain ⟨m, rfl⟩ : ∃ j, m = j + 1 := ⟨m - 1, by omega⟩
      have h : c.rest = '\n' :: (feeds k ++ (spaces n ++ rest)) := h
      -- a separator would have to stand at the start of the last line
      have hnext : startsSeparator (feeds k ++ (spaces n ++ rest)) = false := by
        cases k with
        | zero => exact hseparator
        | succ k => rfl
      rw [plainBreaks, peek_of_cons h, lineBreak?_feed h]
      dsimp only
      rw [atSeparator_of_not_startsSeparator
        (show startsSeparator (c.below 0 1 0 _).rest = false from hnext)]
      rw [ih (c := c.below 0 1 0 _) rfl rfl (by omega), below_below, Nat.add_comm 1]
      rfl

/-- The blanks behind a plain scalar at the end of a line reach the next token. -/
theorem plainSpaces_gap (h : c.rest = '\n' :: (feeds k ++ (spaces n ++ rest)))
    (hrest : atToken rest = true)
    (hseparator : startsSeparator (spaces n ++ rest) = false) :
    (plainSpaces c).cursor = c.below 0 (k + 1) n rest ∧
      (plainSpaces c).broken = true := by
  -- the scalar ends its line, so there are no spaces in front of the break
  have hblanks : c.taken (· == ' ') = [] := by
    rw [taken, h]
    rfl
  have hnext : startsSeparator (feeds k ++ (spaces n ++ rest)) = false := by
    cases k with
    | zero => exact hseparator
    | succ k => rfl
  rw [plainSpaces, hblanks]
  dsimp only [List.length_nil, skip]
  rw [lineBreak?_feed h]
  dsimp only
  rw [atSeparator_of_not_startsSeparator (show startsSeparator (c.below 0 1 0 _).rest =
    false from hnext)]
  rw [plainBreaks_gap (c := c.below 0 1 0 _) rfl hrest hseparator rfl
    (by simp only [below, List.length_append, length_feeds, length_spaces]; omega),
    below_below, Nat.add_comm 1]
  exact ⟨rfl, rfl⟩

/-- Whether characters are a plain scalar that begins wherever a token may. -/
structure IsPlain (text : List Char) : Prop where
  chars : ∀ x ∈ text, isPlainChar x = true
  first : ∃ ch tail, text = ch :: tail ∧ isIndicator ch = false ∧ ch ≠ '.'

/-- The condition on plain texts, in a form that can be decided. -/
theorem isPlain_iff :
    IsPlain text ↔ text.all isPlainChar = true ∧
      text.head?.any (fun ch => !isIndicator ch && ch != '.') = true := by
  rw [List.all_eq_true]
  constructor
  · rintro ⟨hchars, ch, tail, rfl, hindicator, hdot⟩
    exact ⟨hchars, by simp [hindicator, hdot]⟩
  · rintro ⟨hchars, hfirst⟩
    cases text with
    | nil => cases hfirst
    | cons ch tail => exact ⟨hchars, ch, tail, rfl, by simpa using hfirst⟩

instance (text : List Char) : Decidable (IsPlain text) :=
  decidable_of_iff _ isPlain_iff.symm

theorem IsPlain.inline (h : IsPlain text) : ∀ x ∈ text, isInline x = true :=
  fun x hx => isInline_of_isPlainChar (h.chars x hx)

/-- A plain scalar of one line, if what is behind it does not go on with it. -/
theorem plainScalar_eq (h : c.rest = text ++ rest) (htext : IsPlain text)
    (hrest : endsPlain false rest = true)
    (hstop : (plainSpaces (c.along text.length rest)).text = [] ∨
      ((plainSpaces (c.along text.length rest)).cursor.mark.column : Int) < indent) :
    plainScalar false indent c = ⟨text, (c.along text.length rest).mark,
      (plainSpaces (c.along text.length rest)).cursor,
      (plainSpaces (c.along text.length rest)).broken⟩ := by
  obtain ⟨ch, tail, hch, hindicator, -⟩ := htext.first
  have hrun : plainRun false c.rest = text := by rw [h, plainRun_append htext.chars hrest]
  -- a plain text is no comment
  have hhash : (c.peek == '#') = false := by
    rw [peek_of_cons (h.trans (by rw [hch]; rfl))]
    rw [beq_eq_false_iff_ne]
    rintro rfl
    exact absurd hindicator (by decide)
  have hne : text.isEmpty = false := by rw [hch]; rfl
  rw [plainScalar, plainRuns, hhash, hrun]
  dsimp only
  rw [hne, skip_inline h htext.inline]
  -- either there are no blanks, or the next line belongs to an outer block
  have hstop : ((plainSpaces (c.along text.length rest)).text.isEmpty ||
    (plainSpaces (c.along text.length rest)).cursor.peek == '#'
      || (!false &&
        decide (((plainSpaces (c.along text.length rest)).cursor.mark.column : Int) <
        indent))) = true := by
    rcases hstop with hstop | hstop
    · simp [hstop]
    · simp [hstop]
  simp only [Bool.false_eq_true, if_false]
  rw [if_pos hstop]
  rfl

/-- A plain scalar in front of a colon. -/
theorem plainScalar_key (h : c.rest = text ++ ':' :: rest) (htext : IsPlain text)
    (hrest : isBlankOrEnd (rest.head?.getD '\x00') = true) :
    plainScalar false indent c
      = ⟨text, (c.along text.length (':' :: rest)).mark,
        c.along text.length (':' :: rest), false⟩ := by
  have hends : endsPlain false (':' :: rest) = true := by simp [endsPlain, hrest]
  have hspaces : plainSpaces (c.along text.length (':' :: rest)) =
      ⟨[], c.along text.length (':' :: rest), false⟩ := by
    have hcolon : (c.along text.length (':' :: rest)).rest = ':' :: rest := rfl
    rw [plainSpaces, show (c.along text.length (':' :: rest)).taken (· == ' ') = []
      from rfl]
    dsimp only [List.length_nil, skip]
    rw [lineBreak?_of_not_isBreak (by rw [peek_of_cons hcolon]; decide)]
  rw [plainScalar_eq h htext hends (.inl (by rw [hspaces])), hspaces]

/-- A plain scalar at the end of a line, with a line behind it that is not indented
deeper. -/
theorem plainScalar_line (h : c.rest = text ++ '\n' :: (feeds k ++ (spaces n ++ rest)))
    (htext : IsPlain text) (hrest : atToken rest = true)
    (hseparator : startsSeparator (spaces n ++ rest) = false) (hn : (n : Int) < indent) :
    plainScalar false indent c =
      ⟨text, (c.along text.length ('\n' :: (feeds k ++ (spaces n ++ rest)))).mark,
      c.below text.length (k + 1) n rest, true⟩ := by
  obtain ⟨hcursor, hbroken⟩ :=
    plainSpaces_gap (c := c.along text.length ('\n' :: (feeds k ++ (spaces n ++ rest))))
      rfl hrest hseparator
  rw [below_along] at hcursor
  rw [plainScalar_eq h htext rfl (.inr (by rw [hcursor]; exact hn)), hcursor, hbroken]
  rfl

/-! ### Quoted scalars -/

/-- Characters that stand for themselves between double quotes. -/
def isQuotedChar (ch : Char) : Bool :=
  isInline ch && (ch == ' ' || !stopsQuoted ch)

variable {start : Mark} {ch : Char}

/-- A character of a quoted text other than a space belongs to a run. -/
theorem isInline_and_not_stopsQuoted {x : Char} (h : isQuotedChar x = true)
    (hx : x ≠ ' ') : isInline x = true ∧ stopsQuoted x = false := by
  simpa [isQuotedChar, hx] using h

/-- A text between quotes begins with spaces and a run of other characters; a space or
nothing follows. -/
theorem exists_quoted_run (htext : ∀ x ∈ text, isQuotedChar x = true) :
    ∃ n run text', text = spaces n ++ (run ++ text') ∧
      (∀ x ∈ run, isInline x = true ∧ stopsQuoted x = false) ∧
      (text' = [] ∨ run ≠ [] ∧ ∃ tail, text' = ' ' :: tail) ∧
      (text ≠ [] → text'.length < text.length) := by
  -- by induction on the text: a space goes to the spaces in front, another character
  -- lengthens the run behind it or is one by itself
  induction text with
  | nil => exact ⟨0, [], [], rfl, List.forall_mem_nil _, .inl rfl, fun h => absurd rfl h⟩
  | cons x text ih =>
      obtain ⟨hx, htext⟩ := List.forall_mem_cons.mp htext
      obtain ⟨n, run, text', rfl, hrun, hnext, -⟩ := ih htext
      have hlength : text'.length < (x :: (spaces n ++ (run ++ text'))).length := by
        simp only [List.length_cons, List.length_append]
        omega
      by_cases hspace : x = ' '
      · subst hspace
        exact ⟨n + 1, run, text', rfl, hrun, hnext, fun _ => hlength⟩
      have hx := isInline_and_not_stopsQuoted hx hspace
      cases n with
      | zero =>
          refine ⟨0, x :: run, text', rfl, List.forall_mem_cons.mpr ⟨hx, hrun⟩, ?_,
            fun _ => hlength⟩
          exact hnext.imp_right fun h => ⟨List.cons_ne_nil x run, h.2⟩
      | succ n =>
          refine ⟨0, [x], spaces (n + 1) ++ (run ++ text'), rfl, ?_,
            .inr ⟨List.cons_ne_nil x [], _, rfl⟩, fun _ => Nat.lt_succ_self _⟩
          exact List.forall_mem_singleton.mpr hx

/-- Spaces within a line stay in the text. -/
theorem quotedSpaces_eq (h : c.rest = spaces n ++ ch :: rest)
    (hch : isBlankOrEnd ch = false) :
    quotedSpaces start c = .ok (spaces n, c.along n (ch :: rest)) := by
  simp only [isBlankOrEnd, isSpaceOrEnd, isEnd, Bool.or_eq_false_iff] at hch
  have htaken : c.taken (fun ch => ch == ' ' || ch == '\t') = spaces n :=
    taken_of_append h (fun x hx => by rw [List.eq_of_mem_replicate hx]; rfl)
      (fun y hy => by cases hy; simp [hch])
  have hpeek : (c.along n (ch :: rest)).peek = ch := rfl
  have hskip : c.skip n = c.along n (ch :: rest) := by
    rw [← length_spaces n, skip_inline h fun x hx => isInline_of_mem_spaces hx]
  rw [quotedSpaces, htaken, length_spaces]
  dsimp only
  rw [hskip, hpeek, lineBreak?_of_not_isBreak (by rw [hpeek]; exact hch.2.2.2), hch.2.2.1]
  rfl

theorem codesOf_append (cs ds : List Char) :
    codesOf (cs ++ ds) = codesOf cs ++ codesOf ds :=
  List.map_append

/-- A run without escapes is taken as it is. -/
theorem quotedRun_eq {run : List Char} (h : c.rest = run ++ ch :: rest)
    (hrun : ∀ x ∈ run, isInline x = true ∧ stopsQuoted x = false)
    (hch : ch = '"' ∨ ch = ' ') {m : Nat} :
    quotedRun true start c (m + 1) =
      .ok (codesOf run, c.along run.length (ch :: rest)) := by
  have hstop : stopsQuoted ch = true := by rcases hch with rfl | rfl <;> decide
  have htaken : c.taken (fun ch => !stopsQuoted ch) = run :=
    taken_of_append h (fun x hx => by rw [(hrun x hx).2]; rfl)
      (fun y hy => by cases hy; rw [hstop]; rfl)
  have hpeek : (c.along run.length (ch :: rest)).peek = ch := rfl
  rw [quotedRun, htaken, skip_inline h fun x hx => (hrun x hx).1]
  dsimp only
  rw [hpeek]
  rcases hch with rfl | rfl <;> rfl

/-- Runs and spaces in turn, by strong induction on the length of the text. -/
theorem quotedParts_eq (h : c.rest = text ++ '"' :: rest)
    (htext : ∀ x ∈ text, isQuotedChar x = true) {m : Nat} (hm : text.length < m) :
    quotedParts '"' start c m =
      .ok (codesOf text, c.along text.length ('"' :: rest)) := by
  induction m generalizing c text with
  | zero => omega
  | succ m ih =>
      rcases htext' : text with _ | ⟨x, tail⟩
      · rw [htext'] at h
        have h : c.rest = '"' :: rest := h
        rw [quotedParts, peek_of_cons h]
        exact congrArg (fun c => Except.ok ([], c)) (along_zero h).symm
      have hx : (x == '"') = false := by
        rw [beq_eq_false_iff_ne]
        rintro rfl
        exact absurd (htext '"' (by rw [htext']; exact List.mem_cons_self)) (by decide)
      rw [quotedParts, peek_of_cons (h.trans (by rw [htext']; rfl)), hx, ← htext']
      obtain ⟨n, run, text', rfl, hrun, hnext, hlength⟩ := exists_quoted_run htext
      have hlength := hlength (by rw [htext']; exact List.cons_ne_nil x tail)
      clear htext'
      -- behind the spaces is a run or the quote, behind the run a space or the quote
      obtain ⟨y, ys, hy, hblank⟩ : ∃ y ys, run ++ (text' ++ '"' :: rest) = y :: ys ∧
          isBlankOrEnd y = false := by
        rcases run with _ | ⟨y, run⟩
        · obtain rfl := hnext.resolve_right fun h => h.1 rfl
          exact ⟨'"', rest, rfl, by decide⟩
        · refine ⟨y, run ++ (text' ++ '"' :: rest), rfl, ?_⟩
          have := (hrun y List.mem_cons_self).2
          simp only [stopsQuoted, Bool.or_eq_false_iff] at this
          exact this.2
      obtain ⟨z, zs, hz, hquote⟩ : ∃ z zs, text' ++ '"' :: rest = z :: zs ∧
          (z = '"' ∨ z = ' ') := by
        rcases hnext with rfl | ⟨-, tail, rfl⟩
        · exact ⟨'"', rest, rfl, .inl rfl⟩
        · exact ⟨' ', tail ++ '"' :: rest, rfl, .inr rfl⟩
      have hspaces : quotedSpaces start c = .ok (spaces n, c.along n (y :: ys)) := by
        apply quotedSpaces_eq _ hblank
        rw [h, ← hy]
        simp only [List.append_assoc]
      have hrun' :
        quotedRun true start (c.along n (y :: ys)) ((c.along n (y :: ys)).rest.length + 1)
          = .ok (codesOf run, c.along (n + run.length) (z :: zs)) := by
        rw [quotedRun_eq (show (c.along n (y :: ys)).rest = run ++
          z :: zs by rw [← hz, hy]; rfl) hrun hquote, along_along]
      have hparts := ih (c := c.along (n + run.length) (z :: zs)) hz.symm
        (fun x hx => htext x (List.mem_append_right _ (List.mem_append_right _ hx)))
          (by omega)
      rw [along_along] at hparts
      refine (bind_of_ok hspaces).trans
        ((bind_of_ok hrun').trans ((bind_of_ok hparts).trans ?_))
      show Except.ok (codesOf (spaces n) ++ codesOf run ++ codesOf text', _) = _
      simp only [codesOf_append, List.length_append, length_spaces, List.append_assoc,
        Nat.add_assoc]

/-- A text between double quotes. -/
theorem quotedScalar_eq (h : c.rest = '"' :: (text ++ '"' :: rest))
    (htext : ∀ x ∈ text, isQuotedChar x = true) :
    quotedScalar c = .ok (codesOf text, c.along (text.length + 2) rest) := by
  obtain ⟨run, text', rfl, hrun, hnext⟩ : ∃ run text', text = run ++ text' ∧
    (∀ x ∈ run, isInline x = true ∧ stopsQuoted x = false) ∧
      (text' = [] ∨ ∃ tail, text' = ' ' :: tail) := by
    obtain ⟨n, run, text', rfl, hrun, hnext, -⟩ := exists_quoted_run htext
    cases n with
    | zero => exact ⟨run, text', rfl, hrun, hnext.imp_right fun h => h.2⟩
    | succ n => exact ⟨[], _, rfl, List.forall_mem_nil _, .inr ⟨_, rfl⟩⟩
  -- behind the first run there is a space or the closing quote
  obtain ⟨z, zs, hz, hquote⟩ : ∃ z zs, text' ++ '"' :: rest = z :: zs ∧
      (z = '"' ∨ z = ' ') := by
    rcases hnext with rfl | ⟨tail, rfl⟩
    · exact ⟨'"', rest, rfl, .inl rfl⟩
    · exact ⟨' ', tail ++ '"' :: rest, rfl, .inr rfl⟩
  have hfirst : c.next = c.along 1 (run ++ z :: zs) := by
    rw [next_inline h (by decide), List.append_assoc, hz]
  have hrun' : quotedRun true c.mark (c.along 1 (run ++ z :: zs))
    ((c.along 1 (run ++ z :: zs)).rest.length + 1)
      = .ok (codesOf run, c.along (1 + run.length) (z :: zs)) := by
    rw [quotedRun_eq rfl hrun hquote, along_along]
  have hparts : quotedParts '"' c.mark (c.along (1 + run.length) (z :: zs))
    ((z :: zs).length + 1)
      = .ok (codesOf text', c.along (1 + run.length + text'.length) ('"' :: rest)) := by
    rw [quotedParts_eq hz.symm (fun x hx => htext x (List.mem_append_right _ hx))
      (by rw [← hz, List.length_append]; omega), along_along]
  rw [quotedScalar, peek_of_cons h]
  dsimp only
  rw [hfirst]
  refine (bind_of_ok hrun').trans ((bind_of_ok hparts).trans ?_)
  have hlast : (c.along (1 + run.length + text'.length) ('"' :: rest)).next =
      c.along ((run ++ text').length + 2) rest := by
    rw [next_inline rfl (by decide), along_along, List.length_append]
    congr 1
    omega
  rw [codesOf_append]
  exact congrArg (fun c => Except.ok (codesOf run ++ codesOf text', c)) hlast

/-! ### Blocks of text -/

/-- Whether characters are a line of a block that is indented by its own spaces. -/
structure IsBlockLine (text : List Char) : Prop where
  chars : ∀ x ∈ text, isInline x = true ∧ x ≠ '\x00'
  first : ∃ ch tail, text = ch :: tail ∧ ch ≠ ' '

/-- The condition on lines of a block, in a form that can be decided. -/
theorem isBlockLine_iff :
    IsBlockLine text ↔ text.all (fun x => isInline x && x != '\x00') = true ∧
      text.head?.any (· != ' ') = true := by
  rw [List.all_eq_true]
  constructor
  · rintro ⟨hchars, ch, tail, rfl, hspace⟩
    exact ⟨fun x hx => by simpa using hchars x hx, by simpa using hspace⟩
  · rintro ⟨hchars, hfirst⟩
    cases text with
    | nil => cases hfirst
    | cons ch tail =>
        exact ⟨fun x
          hx => by simpa using hchars x hx, ch, tail, rfl, by simpa using hfirst⟩

instance (text : List Char) : Decidable (IsBlockLine text) :=
  decidable_of_iff _ isBlockLine_iff.symm

/-- The first line of a block sets its indentation. -/
theorem leadingBreaks_spaces {stop : Mark} (h : c.rest = spaces n ++ ch :: rest)
    (hch : ch ≠ ' ') (hinline : isInline ch = true) {m : Nat} (hm : n < m) :
    leadingBreaks c c.mark.column stop m =
      ([], c.mark.column + n, stop, c.along n (ch :: rest)) := by
  induction n generalizing c m with
  | zero =>
      obtain ⟨m, rfl⟩ : ∃ j, m = j + 1 := ⟨m - 1, by omega⟩
      have h : c.rest = ch :: rest := h
      have hbreak : isBreak ch = false := by
        simp only [isInline, Bool.and_eq_true] at hinline
        simpa using hinline.1
      rw [leadingBreaks, peek_of_cons h, beq_false_of_ne hch,
        lineBreak?_of_not_isBreak (by rwa [peek_of_cons h]), along_zero h]
      rfl
  | succ n ih =>
      obtain ⟨m, rfl⟩ : ∃ j, m = j + 1 := ⟨m - 1, by omega⟩
      have h : c.rest = ' ' :: (spaces n ++ ch :: rest) := h
      -- every space makes the greatest column greater by one
      have hnext : max c.mark.column (c.along 1 (spaces n ++ ch :: rest)).mark.column =
          (c.along 1 (spaces n ++ ch :: rest)).mark.column :=
        Nat.max_eq_right (Nat.le_add_right _ _)
      rw [leadingBreaks, peek_of_cons h, next_inline h (by decide),
        if_pos (beq_self_eq_true ' '), hnext, ih rfl (by omega), along_along]
      simp only [along, Nat.add_assoc, Nat.add_comm 1]

/-- The indentation of a line is skipped, and no more of it. -/
theorem skipIndent_spaces {indent : Nat} (h : c.rest = spaces n ++ rest)
    (hrest : ∀ y ∈ rest.head?, (y == ' ') = false)
    (hn : c.mark.column + n ≤ indent) : skipIndent indent c = c.along n rest := by
  have hcount : c.count (· == ' ') = n := by
    rw [count, h,
      takeWhile_append_of_head (fun x hx => by rw [List.eq_of_mem_replicate hx]; rfl)
      hrest, length_spaces]
  have hskip := skip_inline h fun x hx => isInline_of_mem_spaces hx
  rw [length_spaces] at hskip
  rw [skipIndent, hcount, Nat.min_eq_right (by omega), hskip]

/-- Blank lines and an indentation that is not deep enough, from the start of a line
on. -/
theorem blockBreaks_gap {stop : Mark} {indent : Nat}
    (h : c.rest = feeds k ++ (spaces n ++ rest)) (hrest : atToken rest = true)
    (hn : n < indent)
    (hcolumn : c.mark.column = 0) {m : Nat} (hm : k < m) :
    ∃ bs stop', blockBreaks indent c stop m = (bs, stop', c.below 0 k n rest) := by
  -- by induction on the blank lines; the last step is the indentation of the line
  -- behind them
  induction k generalizing c stop m with
  | zero =>
      obtain ⟨m, rfl⟩ : ∃ j, m = j + 1 := ⟨m - 1, by omega⟩
      have h : c.rest = spaces n ++ rest := h
      have hbelow : c.along n rest = c.below 0 0 n rest := by simp [along, below, hcolumn]
      have hbreak : (c.along n rest).lineBreak? = none :=
        lineBreak?_of_not_isBreak (isBreak_peek_of_atToken hrest)
      refine ⟨[], stop, ?_⟩
      rw [blockBreaks, skipIndent_spaces h (head_ne_space_of_atToken hrest) (by omega)]
      dsimp only
      rw [hbreak, hbelow]
  | succ k ih =>
      obtain ⟨m, rfl⟩ : ∃ j, m = j + 1 := ⟨m - 1, by omega⟩
      have h : c.rest = '\n' :: (feeds k ++ (spaces n ++ rest)) := h
      have hskip : skipIndent indent c =
          c.along 0 ('\n' :: (feeds k ++ (spaces n ++ rest))) :=
        skipIndent_spaces h (fun y hy => by cases hy; decide) (by omega)
      let c' := c.below 0 1 0 (feeds k ++ (spaces n ++ rest))
      obtain ⟨bs, stop', hbreaks⟩ := @ih c' c'.mark rfl rfl m (by omega)
      refine ⟨'\n' :: bs, stop', ?_⟩
      rw [blockBreaks, hskip, along_zero h]
      dsimp only
      rw [lineBreak?_feed h]
      dsimp only
      rw [hbreaks, below_below, Nat.add_comm 1]

/-- A header with nothing behind its sign clips the text. -/
theorem blockIndicators_feed (h : c.rest = '\n' :: rest) :
    blockIndicators start c = .ok (.clip, none, c) := by
  have hpeek := peek_of_cons h
  have hdigit : indentDigit start c = .ok (none, c) := by
    rw [indentDigit, hpeek]
    rfl
  rw [blockIndicators, hpeek, hdigit]
  show (if (!isSpaceOrEnd c.peek) = true then _ else _) = _
  rw [hpeek]
  rfl

/-- What is left of the line of the header is its end. -/
theorem ignoredLine_feed {context : Context} (h : c.rest = '\n' :: rest) :
    ignoredLine context start c = .ok (c.below 0 1 0 rest) := by
  have hpeek := peek_of_cons h
  have hskip : c.skipWhile (· == ' ') = c := by
    rw [skipWhile_spaces (n := 0) h (fun y hy => by cases hy; decide), along_zero h]
  have hcomment : (if c.peek == '#' then c.skipWhile fun ch => !isEnd ch else c) = c := by
    rw [hpeek]
    rfl
  rw [ignoredLine, hskip]
  dsimp only
  rw [hcomment, hpeek, lineBreak?_feed h]
  rfl

/-- The only line of a block. -/
theorem blockLines_line {stop : Mark}
    (h : c.rest = text ++ '\n' :: (feeds k ++ (spaces n ++ rest)))
    (htext : IsBlockLine text)
    (hrest : atToken rest = true) (hn : n < c.mark.column) {m : Nat} :
    ∃ stop', blockLines false .clip c.mark.column c [] stop (m + 1) =
      ⟨text ++ ['\n'], stop', c.below text.length (k + 1) n rest⟩ := by
  obtain ⟨ch, tail, hfirst, -⟩ := htext.first
  have hpeek : c.peek ≠ '\x00' := by
    rw [peek_of_cons (h.trans (by rw [hfirst]; rfl))]
    exact (htext.chars ch (by rw [hfirst]; exact List.mem_cons_self)).2
  have htaken : c.taken (fun ch => !isEnd ch) = text := by
    refine taken_of_append h (fun x hx => ?_) (fun y hy => by cases hy; decide)
    obtain ⟨hinline, hzero⟩ := htext.chars x hx
    simp only [isInline, Bool.and_eq_true, Bool.not_eq_true'] at hinline
    simp [isEnd, hinline.1, hzero]
  let c₁ := c.along text.length ('\n' :: (feeds k ++ (spaces n ++ rest)))
  let c₂ := c₁.below 0 1 0 (feeds k ++ (spaces n ++ rest))
  have hskip : c.skip text.length = c₁ := skip_inline h fun x hx => (htext.chars x hx).1
  have hbreak : c₁.lineBreak? = some ('\n', c₂) := lineBreak?_feed rfl
  obtain ⟨bs, stop', hbreaks⟩ :=
    @blockBreaks_gap c₂ rest k n c₂.mark c.mark.column rfl hrest hn rfl
      (c₂.rest.length + 1)
    (by simp only [c₂, below, List.length_append, length_feeds]; omega)
  have hend : c₂.below 0 k n rest = c.below text.length (k + 1) n rest := by
    rw [below_below, below_along, Nat.add_comm 1]
    rfl
  rw [hend] at hbreaks
  -- the next line is less deep, so the block ends
  have hcolumn : ((c.below text.length (k + 1) n rest).mark.column == c.mark.column &&
    (c.below text.length (k + 1) n rest).peek != '\x00')
      = false := by
    have : (n == c.mark.column) = false := beq_false_of_ne hn.ne
    rw [show (c.below text.length (k + 1) n rest).mark.column = n from rfl, this]
    rfl
  refine ⟨stop', ?_⟩
  rw [blockLines, if_pos (by simpa using hpeek), htaken]
  dsimp only
  rw [hskip, hbreak]
  dsimp only
  rw [hbreaks]
  dsimp only
  rw [hcolumn]
  rfl

/-- A line of text in a block of its own, with lines behind it that are not indented as
deep. -/
theorem blockScalar_line {m : Nat}
    (h : c.rest = '|' :: '\n' ::
      (spaces m ++ (text ++ '\n' :: (feeds k ++ (spaces n ++ rest)))))
    (htext : IsBlockLine text)
    (hrest : atToken rest = true) (hm : indent + 1 ≤ m) (hn : n < m) :
    ∃ stop, blockScalar false indent c =
      .ok ⟨text ++ ['\n'], stop, c.below (m + text.length + 1) (k + 2) n rest⟩ := by
  obtain ⟨ch, tail, hfirst, hch⟩ := htext.first
  have hinline : isInline ch = true :=
    (htext.chars ch (by rw [hfirst]; exact List.mem_cons_self)).1
  -- the cursor behind the sign, behind its line, and behind the indentation of the text
  let c₁ := c.along 1
    ('\n' :: (spaces m ++ (text ++ '\n' :: (feeds k ++ (spaces n ++ rest)))))
  let c₂ := c₁.below 0 1 0 (spaces m ++ (text ++ '\n' :: (feeds k ++ (spaces n ++ rest))))
  let c₃ := c₂.along m (text ++ '\n' :: (feeds k ++ (spaces n ++ rest)))
  have hnext : c.next = c₁ := next_inline h (by decide)
  have hleading : leadingBreaks c₂ 0 c₂.mark (c₂.rest.length + 1) =
      ([], m, c₂.mark, c₃) := by
    have hrest₂ : c₂.rest = spaces m ++
        ch :: (tail ++ '\n' :: (feeds k ++ (spaces n ++ rest))) := by
      rw [← List.cons_append, ← hfirst]
      rfl
    have hfollow := @leadingBreaks_spaces c₂ _ m ch c₂.mark hrest₂ hch hinline
      (c₂.rest.length + 1) (by rw [hrest₂, List.length_append, length_spaces]; omega)
    rw [← List.cons_append, ← hfirst] at hfollow
    refine hfollow.trans ?_
    rw [show c₂.mark.column + m = m from Nat.zero_add m]
  have hcolumn : c₃.mark.column = m := Nat.zero_add m
  obtain ⟨stop, hlines⟩ := @blockLines_line c₃ text rest k n c₂.mark rfl htext hrest
    (hcolumn ▸ hn) c₂.rest.length
  have hend : c₃.below text.length (k + 1) n rest =
      c.below (m + text.length + 1) (k + 2) n rest := by
    simp only [c₃, c₂, c₁, below_along, below_below]
    congr 1 <;> omega
  -- the indentation is what the first line has, which is deeper than the block around it
  have hleast : max (max (indent + 1) 1).toNat m = m := by omega
  refine ⟨stop, ?_⟩
  rw [blockScalar, hnext]
  dsimp only
  refine (bind_of_ok (blockIndicators_feed rfl)).trans
    ((bind_of_ok (ignoredLine_feed rfl)).trans ?_)
  dsimp only
  rw [hleading, hleast, ← hend, ← hlines, hcolumn]
  rfl

/-! ### Names and tags -/

theorem peek_eq_head (c : Cursor) : c.peek = c.rest.head?.getD '\x00' := by
  rcases hrest : c.rest with _ | ⟨ch, rest⟩
  · exact peek_of_nil hrest
  · exact peek_of_cons hrest

/-- Characters of a class without line breaks stay on their line. -/
theorem isInline_of_class {p : Char → Bool}
    (hp : ['\n', '\r', '\u0085', '\u2028', '\u2029', '\ufeff'].all (!p ·) =
    true) {x : Char}
    (hx : p x = true) : isInline x = true := by
  by_contra hinline
  have hmem : x ∈ ['\n', '\r', '\u0085', '\u2028', '\u2029', '\ufeff'] := by
    simpa [isInline, isBreak, or_assoc, imp_iff_not_or] using hinline
  have hnot := List.all_eq_true.mp hp x hmem
  rw [hx] at hnot
  cases hnot

/-- Whether characters are a name. -/
structure IsName (text : List Char) : Prop where
  chars : ∀ x ∈ text, isHandleChar x = true
  nonempty : text ≠ []

/-- The condition on names, in a form that can be decided. -/
theorem isName_iff : IsName text ↔ text.all isHandleChar = true ∧ text ≠ [] := by
  rw [List.all_eq_true]
  exact ⟨fun h => ⟨h.chars, h.nonempty⟩, fun h => ⟨h.1, h.2⟩⟩

instance (text : List Char) : Decidable (IsName text) :=
  decidable_of_iff _ isName_iff.symm

theorem IsName.inline (h : IsName text) : ∀ x ∈ text, isInline x = true :=
  fun x hx => isInline_of_class (by decide) (h.chars x hx)

theorem isHandleChar_of_isSpaceOrEnd {x : Char} (h : isSpaceOrEnd x = true) :
    isHandleChar x = false := by
  simp only [isSpaceOrEnd, isEnd, isBreak, Bool.or_eq_true, beq_iff_eq] at h
  rcases h with rfl | rfl | ((((rfl | rfl) | rfl) | rfl) | rfl) <;> decide

/-- A name is taken up to a blank. -/
theorem handleName_eq {context : Context} {ends : Char → Bool} (h : c.rest = text ++ rest)
    (htext : IsName text)
    (hrest : isSpaceOrEnd (rest.head?.getD '\x00') = true)
    (hends : ends (rest.head?.getD '\x00') = true) :
    handleName context start ends c =
      .ok (String.ofList text, c.along text.length rest) := by
  have htaken : c.taken isHandleChar = text := by
    refine taken_of_append h htext.chars fun y hy => isHandleChar_of_isSpaceOrEnd ?_
    rw [Option.mem_def] at hy
    rwa [hy] at hrest
  have hempty : text.isEmpty = false := List.isEmpty_eq_false_iff.mpr htext.nonempty
  have hpeek : (c.along text.length rest).peek = rest.head?.getD '\x00' := peek_eq_head _
  rw [handleName, htaken, hempty]
  dsimp only
  rw [skip_inline h htext.inline, hpeek, hends]
  rfl

theorem endsAnchor_of_isSpaceOrEnd {x : Char} (h : isSpaceOrEnd x = true) :
    endsAnchor x = true := by
  simp [endsAnchor, isBlankOrEnd, h]

/-- An anchor is its sign and its name. -/
theorem anchorOrAlias_anchor (h : c.rest = '&' :: (text ++ rest)) (htext : IsName text)
    (hrest : isSpaceOrEnd (rest.head?.getD '\x00') = true) :
    anchorOrAlias c
      = .ok (⟨.anchor (String.ofList text), c.mark,
        (c.along (text.length + 1) rest).mark⟩, c.along (text.length + 1) rest) := by
  rw [anchorOrAlias, peek_of_cons h, next_inline h (by decide)]
  dsimp only
  rw [bind_of_ok (handleName_eq rfl htext hrest (endsAnchor_of_isSpaceOrEnd hrest)),
    along_along, Nat.add_comm]
  rfl

/-- An alias is written the same way with another sign. -/
theorem anchorOrAlias_alias (h : c.rest = '*' :: (text ++ rest)) (htext : IsName text)
    (hrest : isSpaceOrEnd (rest.head?.getD '\x00') = true) :
    anchorOrAlias c
      = .ok (⟨.alias (String.ofList text), c.mark, (c.along (text.length + 1) rest).mark⟩,
        c.along (text.length + 1) rest) := by
  rw [anchorOrAlias, peek_of_cons h, next_inline h (by decide)]
  dsimp only
  rw [bind_of_ok (handleName_eq rfl htext hrest (endsAnchor_of_isSpaceOrEnd hrest)),
    along_along, Nat.add_comm]
  rfl

/-- A character of a name needs no escape in an address, and does not end a handle. -/
theorem isUriChar_of_isHandleChar {x : Char} (h : isHandleChar x = true) :
    isUriChar x = true ∧ x ≠ '%' ∧ x ≠ '!' ∧ isSpaceOrEnd x = false := by
  refine ⟨?_, ?_, ?_, ?_⟩
  · rw [isHandleChar, Bool.or_eq_true, Bool.or_eq_true, beq_iff_eq, beq_iff_eq] at h
    rcases h with (h | rfl) | rfl
    · rw [isUriChar, h]
      rfl
    · decide
    · decide
  · rintro rfl
    exact absurd h (by decide)
  · rintro rfl
    exact absurd h (by decide)
  · rw [← Bool.not_eq_true]
    intro hspace
    rw [isHandleChar_of_isSpaceOrEnd hspace] at h
    cases h

theorem isUriChar_of_isSpaceOrEnd {x : Char} (h : isSpaceOrEnd x = true) :
    isUriChar x = false := by
  simp only [isSpaceOrEnd, isEnd, isBreak, Bool.or_eq_true, beq_iff_eq] at h
  rcases h with rfl | rfl | ((((rfl | rfl) | rfl) | rfl) | rfl) <;> decide

/-- A name is an address of one part. -/
theorem tagUri_eq {scanning parsing : Context} (h : c.rest = text ++ rest)
    (htext : IsName text)
    (hrest : isSpaceOrEnd (rest.head?.getD '\x00') = true) :
    tagUri scanning parsing start c =
      .ok (String.ofList text, c.along text.length rest) := by
  obtain ⟨ch, tail, hfirst⟩ := List.exists_cons_of_ne_nil htext.nonempty
  have hpeek : isUriChar c.peek = true := by
    rw [peek_of_cons (h.trans (by rw [hfirst]; rfl))]
    exact (isUriChar_of_isHandleChar
      (htext.chars ch (by rw [hfirst]; exact List.mem_cons_self))).1
  have htaken : c.taken (fun ch => isUriChar ch && ch != '%') = text := by
    refine taken_of_append h (fun x hx => ?_) fun y hy => ?_
    · obtain ⟨huri, hpercent, -⟩ := isUriChar_of_isHandleChar (htext.chars x hx)
      simp [huri, hpercent]
    · rw [Option.mem_def] at hy
      rw [hy] at hrest
      rw [isUriChar_of_isSpaceOrEnd (show isSpaceOrEnd y = true from hrest)]
      rfl
  have hpercent : ((c.along text.length rest).peek == '%') = false := by
    rw [peek_eq_head, beq_eq_false_iff_ne]
    intro heq
    rw [show rest.head?.getD '\x00' = '%' from heq] at hrest
    exact absurd hrest (by decide)
  -- without an escape there is one part
  have hparts : uriParts (scanning, start) c (c.rest.length + 1) =
      .ok (text, c.along text.length rest) := by
    rw [uriParts, htaken]
    dsimp only
    rw [skip_inline h htext.inline, hpercent]
    rfl
  rw [tagUri, hpeek]
  exact bind_of_ok hparts

/-- A tag of one word with one mark in front. -/
theorem tag_eq (h : c.rest = '!' :: (text ++ rest)) (htext : IsName text)
    (hrest : isSpaceOrEnd (rest.head?.getD '\x00') = true) :
    tag c = .ok (⟨.tag (some "!") (String.ofList text), c.mark,
      (c.along (text.length + 1) rest).mark⟩, c.along (text.length + 1) rest) := by
  obtain ⟨ch, tail, hfirst⟩ := List.exists_cons_of_ne_nil htext.nonempty
  obtain ⟨huri, -, -, hspace⟩ :=
    isUriChar_of_isHandleChar (htext.chars ch (by rw [hfirst]; exact List.mem_cons_self))
  have hpeek : c.peek 1 = ch := by
    rw [peek, h, hfirst]
    rfl
  -- the name is no verbatim tag, and not empty
  have hopen : (ch == '<') = false := by
    rw [beq_eq_false_iff_ne]
    rintro rfl
    exact absurd huri (by decide)
  have htab : isBlankOrEnd ch = false := by
    rw [isBlankOrEnd, hspace, Bool.or_false, beq_eq_false_iff_ne]
    rintro rfl
    exact absurd huri (by decide)
  have hnext : c.next = c.along 1 (text ++ rest) := next_inline h (by decide)
  -- nor does it have a second mark, which would make it a handle
  have hword : wordHasMark (c.along 1 (text ++ rest)) = false := by
    have htaken : (c.along 1 (text ++ rest)).taken (fun ch => !isSpaceOrEnd ch) =
        text := by
      refine taken_of_append rfl (fun x hx => ?_) fun y hy => ?_
      · rw [(isUriChar_of_isHandleChar (htext.chars x hx)).2.2.2]
        rfl
      · rw [Option.mem_def] at hy
        rw [hy] at hrest
        rw [show isSpaceOrEnd y = true from hrest]
        rfl
    rw [wordHasMark, htaken, ← Bool.not_eq_true, List.contains_iff_mem]
    intro hmem
    exact (isUriChar_of_isHandleChar (htext.chars '!' hmem)).2.2.1 rfl
  have hend : isSpaceOrEnd (c.along (text.length + 1) rest).peek = true := by
    rw [peek_eq_head]
    exact hrest
  have huri' := @tagUri_eq (c.along 1 (text ++ rest)) text rest c.mark .tag .tagUri
    rfl htext hrest
  rw [along_along, Nat.add_comm] at huri'
  rw [tag, hpeek, hopen, htab, hnext, hword]
  refine (bind_of_ok huri').trans ((bind_of_ok rfl).trans ?_)
  dsimp only
  rw [hend]
  rfl

end RuleLint.Yaml
