/-
RuleLint/Proofs/Scanning.lean

The steps of the scanner.

Of a scanner between two tokens it matters only what is in front of it, in which column
it is, which blocks are open, whether a key may begin and which tokens there are
(`View`).  `Leads` says that the scanner comes from one view to another; there is one
such lemma for each kind of token outside of flow collections, and they follow each
other along a line.

A plain scalar is noted as a possible key when it is cut, so a key takes two rounds of
the scanner (`leads_key`).  A possible key that is not followed by a colon is forgotten
on the next line (`leads_plain`).
-/
import RuleLint.Proofs.Cutting

namespace RuleLint.Yaml

open Cursor

/-! ### Runs of the scanner -/

/-- Whether the scanner comes from one state to another, with a character for every
round that it takes. -/
def Runs (s s' : Scanner) : Prop :=
  ∃ k, k + s'.cursor.rest.length ≤ s.cursor.rest.length ∧
    ∀ n, fetchAll s (n + k) = fetchAll s' n

/-- A run may stop on the way, since it goes by steps. -/
theorem Runs.trans {s₁ s₂ s₃ : Scanner} (h : Runs s₁ s₂) (h' : Runs s₂ s₃) :
    Runs s₁ s₃ := by
  obtain ⟨k, hk, hrun⟩ := h
  obtain ⟨l, hl, hrun'⟩ := h'
  refine ⟨l + k, by omega, fun n => ?_⟩
  rw [← Nat.add_assoc, hrun, hrun']

/-- Fetches the token at the cursor. -/
def fetchHere : Scan Unit := do
  dropStaleKeys
  unwind (← get).cursor.mark.column
  let s ← get
  fetchAt s.cursor s.inFlow

variable {s s' t t' : Scanner}

/-- A token is fetched behind what is skipped in front of it. -/
theorem fetch_of_skipToToken (hmark : s.cursor.peek ≠ '\ufeff')
    (h : skipToToken (s.cursor.rest.length + 1) s = .ok ((), t)) :
    fetch s = fetchHere t := by
  rw [fetch, run_bind_of_ok run_get, beq_false_of_ne hmark, Bool.and_false]
  exact run_bind_of_ok h

/-! ### Views -/

/-- What matters of a scanner between two tokens. -/
structure View where
  rest : List Char
  column : Nat
  /-- The columns of the open blocks, the innermost first. -/
  blocks : List Nat
  allowKey : Bool
  kinds : List TokenKind

/-- Whether a scanner outside of flow collections is at a view. -/
structure Scanner.Shows (s : Scanner) (v : View) : Prop where
  rest : s.cursor.rest = v.rest
  column : s.cursor.mark.column = v.column
  blocks : s.indent :: s.indents = v.blocks.map Int.ofNat ++ [-1]
  allowKey : s.allowKey = v.allowKey
  kinds : s.tokens.toList.map (·.kind) = v.kinds
  flow : s.flow = 0
  keys : s.keys = []
  done : s.done = false

/-- Whether the scanner comes from one view to another. -/
def Leads (v v' : View) : Prop :=
  ∀ s, s.Shows v → ∃ s', Runs s s' ∧ s'.Shows v'

variable {v v' : View} {rest : List Char} {column : Nat} {blocks : List Nat}
    {allowKey : Bool} {ks : List TokenKind}

/-- From view to view. -/
theorem Leads.trans {v₁ v₂ v₃ : View} (h : Leads v₁ v₂) (h' : Leads v₂ v₃) :
    Leads v₁ v₃ := by
  intro s hs
  obtain ⟨s₁, hrun₁, hs₁⟩ := h s hs
  obtain ⟨s₂, hrun₂, hs₂⟩ := h' s₁ hs₁
  exact ⟨s₂, hrun₁.trans hrun₂, hs₂⟩

/-- Without keys there are none to give up. -/
theorem dropStaleKeys_of_nil (h : s.keys = []) : dropStaleKeys s = .ok ((), s) := by
  obtain ⟨cursor, tokens, flow, indents, indent, allowKey, keys, done⟩ := s
  obtain rfl : keys = [] := h
  rfl

theorem dropKey_of_nil (h : s.keys = []) : dropKey s = .ok ((), s) := by
  obtain ⟨cursor, tokens, flow, indents, indent, allowKey, keys, done⟩ := s
  obtain rfl : keys = [] := h
  rfl

namespace Scanner.Shows

/-- Views are of blocks: nothing in brackets is shown. -/
theorem inFlow (h : s.Shows v) : s.inFlow = false := by
  rw [Scanner.inFlow, h.flow]
  rfl

/-- A token behind which the cursor is further on. -/
theorem push (h : s.Shows v) (c : Cursor) (t : Token) (allowKey : Bool) :
    Shows { s with cursor := c, tokens := s.tokens.push t, allowKey } ⟨c.rest,
      c.mark.column, v.blocks, allowKey, v.kinds ++ [t.kind]⟩ where
  rest := rfl
  column := rfl
  blocks := h.blocks
  allowKey := rfl
  kinds := by rw [Array.toList_push, List.map_append, h.kinds]; rfl
  flow := h.flow
  keys := h.keys
  done := h.done

end Scanner.Shows

/-! ### Between tokens -/

theorem hash_ne_peek_of_atToken {c : Cursor} (h : atToken c.rest = true) :
    (c.peek == '#') = false := by
  rcases hrest : c.rest with _ | ⟨ch, rest⟩
  · rw [peek_of_nil hrest]
    decide
  · rw [hrest] at h
    rw [peek_of_cons hrest]
    simp only [atToken, Bool.and_eq_true] at h
    simpa using h.2

theorem mark_ne_peek_of_atToken {c : Cursor} (h : atToken c.rest = true) :
    c.peek ≠ '\ufeff' := by
  rcases hrest : c.rest with _ | ⟨ch, rest⟩
  · rw [peek_of_nil hrest]
    decide
  · rw [hrest] at h
    rw [peek_of_cons hrest]
    rintro rfl
    cases h

/-- Spaces in front of a token are skipped. -/
theorem skipToToken_spaces {n m : Nat} (h : s.cursor.rest = spaces n ++ rest)
    (hrest : atToken rest = true) :
    skipToToken (m + 1) s = .ok ((), { s with cursor := s.cursor.along n rest }) := by
  have hskip : s.cursor.skipWhile (· == ' ') = s.cursor.along n rest :=
    skipWhile_spaces h (head_ne_space_of_atToken hrest)
  have hhash : ((s.cursor.along n rest).peek == '#') = false :=
    hash_ne_peek_of_atToken hrest
  have hbreak : (s.cursor.along n rest).lineBreak? = none :=
    lineBreak?_of_not_isBreak (isBreak_peek_of_atToken hrest)
  rw [skipToToken, run_bind_of_ok run_get, hskip]
  rw [hhash, if_neg Bool.false_ne_true, hbreak]
  rfl

theorem skipToToken_of_atToken {m : Nat} (h : atToken s.cursor.rest = true) :
    skipToToken (m + 1) s = .ok ((), s) := by
  have hskip := @skipToToken_spaces s s.cursor.rest 0 m rfl h
  rwa [along_zero rfl] at hskip

/-- A line feed outside of flow collections allows a key. -/
theorem skipToToken_feed {n m : Nat} (h : s.cursor.rest = spaces n ++ '\n' :: rest)
    (hflow : s.flow = 0) :
    skipToToken (m + 1) s =
      skipToToken m { s with cursor := s.cursor.below n 1 0 rest, allowKey := true } := by
  have hskip : s.cursor.skipWhile (· == ' ') = s.cursor.along n ('\n' :: rest) :=
    skipWhile_spaces h fun y hy => by cases hy; decide
  have hhash : ((s.cursor.along n ('\n' :: rest)).peek == '#') = false := rfl
  have hbreak : (s.cursor.along n ('\n' :: rest)).lineBreak? =
      some ('\n', s.cursor.below n 1 0 rest) := by
    rw [lineBreak?_feed rfl, below_along]
    rfl
  -- outside of brackets, a new line always allows a key
  have hallow : (s.allowKey || !s.inFlow) = true := by
    rw [Scanner.inFlow, hflow]
    exact Bool.or_true _
  rw [skipToToken, run_bind_of_ok run_get, hskip]
  rw [hhash, if_neg Bool.false_ne_true, hbreak]
  show skipToToken m
    { s with cursor := s.cursor.below n 1 0 rest, allowKey := s.allowKey || !s.inFlow } =
    _
  rw [hallow]

/-- The end of a line, blank lines and the indentation of the next line. -/
theorem skipToToken_gap {l k n m : Nat}
    (h : s.cursor.rest = spaces l ++ '\n' :: (feeds k ++ (spaces n ++ rest)))
    (hflow : s.flow = 0)
    (hrest : atToken rest = true) (hm : k + 1 < m) :
    skipToToken m s =
      .ok ((),
        { s with cursor := s.cursor.below l (k + 1) n rest, allowKey := true }) := by
  -- by induction on the blank lines: each is a line feed with nothing in front of it
  induction k generalizing s l m with
  | zero =>
      obtain ⟨m, rfl⟩ : ∃ j, m = j + 2 := ⟨m - 2, by omega⟩
      rw [skipToToken_feed h hflow]
      refine (skipToToken_spaces (n := n) rfl hrest).trans ?_
      rw [along_below, Nat.zero_add]
  | succ k ih =>
      obtain ⟨m, rfl⟩ : ∃ j, m = j + 1 := ⟨m - 1, by omega⟩
      rw [skipToToken_feed h hflow]
      have hnext :=
        @ih { s with
            cursor := s.cursor.below l 1 0 (feeds (k + 1) ++ (spaces n ++ rest))
            allowKey := true } 0 m rfl hflow (by omega)
      rw [below_below, Nat.add_comm 1] at hnext
      exact hnext

theorem fetch_of_atToken (h : atToken s.cursor.rest = true) : fetch s = fetchHere s :=
  fetch_of_skipToToken (mark_ne_peek_of_atToken h) (skipToToken_of_atToken h)

/-- Skipping what is between tokens changes nothing for the rest. -/
theorem Runs.of_skipToToken (hs : s.cursor.peek ≠ '\ufeff')
    (h : skipToToken (s.cursor.rest.length + 1) s = .ok ((), t))
    (ht : atToken t.cursor.rest = true) (htokens : t.tokens = s.tokens)
    (hkeys : t.keys = s.keys)
    (hlength : t.cursor.rest.length ≤ s.cursor.rest.length) : Runs s t := by
  refine ⟨0, by omega, fun n => ?_⟩
  have hfetch : fetch.run s = fetch.run t :=
    (fetch_of_skipToToken hs h).trans (fetch_of_atToken ht).symm
  have hsettled : s.settled = t.settled := by
    rw [Scanner.settled, Scanner.settled, htokens, hkeys]
  cases n with
  | zero => rw [fetchAll, fetchAll, htokens]
  | succ n => rw [fetchAll, fetchAll, htokens, hfetch, hsettled]

/-- One round. -/
theorem Runs.of_fetchHere (hs : atToken s.cursor.rest = true)
    (hfetch : fetchHere s = .ok ((), t)) (hdone : t.done = false)
    (hdrop : dropStaleKeys t = .ok ((), t'))
    (hlength : t'.cursor.rest.length < s.cursor.rest.length) : Runs s t' := by
  refine ⟨1, by omega, fun n => ?_⟩
  rw [fetchAll, show fetch.run s = .ok ((), t) from (fetch_of_atToken hs).trans hfetch]
  dsimp only
  rw [hdone, show dropStaleKeys.run t = .ok ((), t') from hdrop]
  rfl

/-- Spaces in front of a token are skipped when it is fetched. -/
theorem leads_spaces (n : Nat) (hrest : atToken rest = true) :
    Leads ⟨spaces n ++ rest, column, blocks, allowKey, ks⟩ ⟨rest, column + n, blocks,
      allowKey, ks⟩ := by
  intro s hs
  have hskip := @skipToToken_spaces s rest n s.cursor.rest.length hs.rest hrest
  have hpeek : s.cursor.peek ≠ '\ufeff' := by
    cases n with
    | zero => exact mark_ne_peek_of_atToken (hs.rest ▸ hrest)
    | succ n =>
        rw [peek_of_cons hs.rest]
        decide
  refine ⟨_, .of_skipToToken hpeek hskip hrest rfl rfl ?_, ?_⟩
  · rw [hs.rest, List.length_append]
    exact Nat.le_add_left _ _
  · refine ⟨rfl, ?_, hs.blocks, hs.allowKey, hs.kinds, hs.flow, hs.keys, hs.done⟩
    exact congrArg (· + n) hs.column

/-- The end of a line, blank lines and the indentation of the next line are skipped, and
a key may begin. -/
theorem leads_gap (l k n : Nat) (hrest : atToken rest = true) :
    Leads ⟨spaces l ++ '\n' :: (feeds k ++ (spaces n ++ rest)), column, blocks, allowKey,
      ks⟩ ⟨rest, n, blocks, true, ks⟩ := by
  intro s hs
  have hskip := @skipToToken_gap s rest l k n (s.cursor.rest.length + 1) hs.rest
      hs.flow hrest (by
    rw [hs.rest]
    simp only [List.length_append, List.length_cons, length_spaces, length_feeds]
    omega)
  -- the first character is a space or the line feed
  have hpeek : s.cursor.peek ≠ '\ufeff' := by
    cases l with
    | zero =>
        rw [peek_of_cons hs.rest]
        decide
    | succ l =>
        rw [peek_of_cons hs.rest]
        decide
  refine ⟨_, .of_skipToToken hpeek hskip hrest rfl rfl ?_, ?_⟩
  · -- the gap is never empty, so something is skipped
    rw [hs.rest]
    simp only [below, List.length_append, List.length_cons]
    omega
  · exact ⟨rfl, rfl, hs.blocks, rfl, hs.kinds, hs.flow, hs.keys, hs.done⟩

/-! ### Blocks -/

/-- A view after some blocks have been closed. -/
def View.closed (v : View) (closes : Nat → Bool) : View :=
  { v with
    blocks := v.blocks.dropWhile closes
    kinds := v.kinds ++ List.replicate (v.blocks.takeWhile closes).length .blockEnd }

theorem View.closed_of_nil {closes : Nat → Bool} (h : v.blocks = []) :
    v.closed closes = v := by
  obtain ⟨rest, column, blocks, allowKey, ks⟩ := v
  obtain rfl : blocks = [] := h
  simp [View.closed]

theorem View.closed_cons_of_not {closes : Nat → Bool} {b : Nat} (h : closes b = false) :
    View.closed ⟨rest, column, b :: blocks, allowKey, ks⟩ closes =
      ⟨rest, column, b :: blocks, allowKey, ks⟩ := by
  simp [View.closed, h]

/-- A block that ends adds the token for its end, and those around it are asked next. -/
theorem View.closed_cons {closes : Nat → Bool} {b : Nat} (h : closes b = true) :
    View.closed ⟨rest, column, b :: blocks, allowKey, ks⟩ closes =
      View.closed ⟨rest, column, blocks, allowKey, ks ++ [.blockEnd]⟩ closes := by
  simp [View.closed, h, List.replicate_succ]

/-- A scanner with its innermost block closed. -/
def Scanner.closeBlock (s : Scanner) : Scanner :=
  { s with
    indent := s.indents.head?.getD (-1)
    indents := s.indents.tail
    tokens := s.tokens.push ⟨.blockEnd, s.cursor.mark, s.cursor.mark⟩ }

/-- The scanner that ends its innermost block shows the view without it. -/
theorem Scanner.Shows.closeBlock {b : Nat}
    (hs : s.Shows ⟨rest, column, b :: blocks, allowKey, ks⟩) :
    s.closeBlock.Shows ⟨rest, column, blocks, allowKey, ks ++ [.blockEnd]⟩ := by
  have hindents : s.indents = blocks.map Int.ofNat ++ [-1] := (List.cons.inj hs.blocks).2
  refine ⟨hs.rest, hs.column, ?_, hs.allowKey, ?_, hs.flow, hs.keys, hs.done⟩
  · show s.indents.head?.getD (-1) :: s.indents.tail = _
    rw [hindents]
    cases blocks <;> rfl
  · show (s.tokens.push _).toList.map (·.kind) = _
    rw [Array.toList_push, List.map_append, hs.kinds]
    rfl

theorem closeBlocks_of_le {column : Int} {n : Nat} (h : s.indent ≤ column) :
    closeBlocks column n s = .ok ((), s) := by
  cases n with
  | zero => rfl
  | succ n =>
      rw [closeBlocks, run_bind_of_ok run_get, if_neg (by omega)]
      rfl

theorem closeBlocks_of_lt {column : Int} {n : Nat} (h : column < s.indent) :
    closeBlocks column (n + 1) s = closeBlocks column n s.closeBlock := by
  rw [closeBlocks, run_bind_of_ok run_get, if_pos h]
  rfl

/-- By induction on the blocks: those that are deeper than the column end, from
within. -/
theorem closeBlocks_eq {column : Int} (hcolumn : -1 ≤ column) {n : Nat}
    (hn : v.blocks.length ≤ n) (hs : s.Shows v) :
    ∃ s', closeBlocks column n s = .ok ((), s') ∧ s'.cursor = s.cursor ∧
      s'.Shows (v.closed fun b => column < (b : Int)) := by
  -- by induction on the open blocks, from the innermost one: the first that is not
  -- deeper than the column ends it
  obtain ⟨rest, col, blocks, allowKey, ks⟩ := v
  induction blocks generalizing s n ks with
  | nil =>
      have hindent : s.indent = -1 := (List.cons.inj hs.blocks).1
      refine ⟨s, closeBlocks_of_le (by omega), rfl, ?_⟩
      rwa [View.closed_of_nil rfl]
  | cons b blocks ih =>
      have hindent : s.indent = b := (List.cons.inj hs.blocks).1
      by_cases hcloses : column < (b : Int)
      · obtain ⟨n, rfl⟩ : ∃ j, n = j + 1 :=
          Nat.exists_eq_add_of_le' (Nat.le_of_add_left_le hn)
        obtain ⟨s', hclose, hcursor, hs'⟩ :=
          ih (ks ++ [.blockEnd]) (Nat.le_of_succ_le_succ hn) hs.closeBlock
        refine ⟨s', ?_, hcursor, ?_⟩
        · rw [closeBlocks_of_lt (by omega), hclose]
        · rwa [View.closed_cons (by simpa using hcloses)]
      · refine ⟨s, closeBlocks_of_le (by omega), rfl, ?_⟩
        rwa [View.closed_cons_of_not (by simpa using hcloses)]

/-- The same with the bound that the scanner takes, which is the number of its
blocks. -/
theorem unwind_eq {column : Int} (hcolumn : -1 ≤ column) (hs : s.Shows v) :
    ∃ s', unwind column s = .ok ((), s') ∧ s'.cursor = s.cursor ∧
      s'.Shows (v.closed fun b => column < (b : Int)) := by
  have hlength : v.blocks.length ≤ s.indents.length + 1 := by
    have := congrArg List.length hs.blocks
    simp only [List.length_cons, List.length_append, List.length_map, List.length_nil]
      at this
    omega
  obtain ⟨s', hclose, hs'⟩ := closeBlocks_eq hcolumn hlength hs
  refine ⟨s', ?_, hs'⟩
  rw [unwind, run_bind_of_ok run_get, hs.inFlow]
  exact hclose

/-- The token at the cursor is fetched after the blocks that are deeper than it have
been closed. -/
theorem fetchHere_eq (hs : s.Shows v) :
    ∃ s', fetchHere s = fetchAt s.cursor false s' ∧ s'.cursor = s.cursor ∧
      s'.Shows (v.closed (v.column < ·)) := by
  obtain ⟨s', hunwind, hcursor, hs'⟩ := @unwind_eq s v s.cursor.mark.column (by omega) hs
  refine ⟨s', ?_, hcursor, ?_⟩
  · rw [fetchHere, run_bind_of_ok (dropStaleKeys_of_nil hs.keys), run_bind_of_ok run_get,
      run_bind_of_ok hunwind,
      run_bind_of_ok run_get, hcursor, hs'.inFlow]
  · rw [hs.column] at hs'
    simpa only [Int.ofNat_lt] using hs'

/-- A round in which a possible key may be noted and dropped again. -/
theorem Leads.of_fetchAt_of_dropStaleKeys (htoken : atToken rest = true)
    (hlength : v'.rest.length < rest.length)
    (h : ∀ s, s.Shows ⟨rest, column, blocks.dropWhile (column < ·), allowKey,
        ks ++ List.replicate (blocks.takeWhile (column < ·)).length .blockEnd⟩ →
      ∃ t t', fetchAt s.cursor false s = .ok ((), t) ∧ t.done = false ∧ dropStaleKeys t =
        .ok ((), t') ∧ t'.Shows v') :
    Leads ⟨rest, column, blocks, allowKey, ks⟩ v' := by
  intro s hs
  have htoken : atToken s.cursor.rest = true := hs.rest.symm ▸ htoken
  obtain ⟨s₁, hfetch, hcursor, hs₁⟩ := fetchHere_eq hs
  rw [← hcursor] at hfetch
  obtain ⟨t, t', hat, hdone, hdrop, ht'⟩ := h s₁ hs₁
  refine ⟨t', .of_fetchHere htoken (hfetch.trans hat) hdone hdrop ?_, ht'⟩
  rw [ht'.rest, hs.rest]
  exact hlength

/-- A round that leaves no possible key. -/
theorem Leads.of_fetchAt (htoken : atToken rest = true)
    (hlength : v'.rest.length < rest.length)
    (h : ∀ s, s.Shows ⟨rest, column, blocks.dropWhile (column < ·), allowKey,
        ks ++ List.replicate (blocks.takeWhile (column < ·)).length .blockEnd⟩ →
      ∃ t, fetchAt s.cursor false s = .ok ((), t) ∧ t.Shows v') :
    Leads ⟨rest, column, blocks, allowKey, ks⟩ v' := by
  refine .of_fetchAt_of_dropStaleKeys htoken hlength fun s hs => ?_
  obtain ⟨t, hat, ht⟩ := h s hs
  exact ⟨t, t, hat, ht.done, dropStaleKeys_of_nil ht.keys, ht⟩

/-- Whether a block begins at a column. -/
def opensBlock (column : Nat) (blocks : List Nat) : Bool :=
  blocks.head?.all (· < column)

/-- The blocks that are open behind a token in a column. -/
def blocksFrom (column : Nat) (blocks : List Nat) : List Nat :=
  if opensBlock column blocks then column :: blocks else blocks

/-- A block is opened where the column is deeper than that of the innermost one. -/
theorem deepen_eq (h : s.indent :: s.indents = blocks.map Int.ofNat ++ [-1]) :
    ∃ indent indents, deepen column s =
      .ok (opensBlock column blocks, { s with indent, indents }) ∧
      indent :: indents = (blocksFrom column blocks).map Int.ofNat ++ [-1] := by
  rw [deepen, run_bind_of_ok run_get]
  -- outside of all blocks the indentation is -1, which is less than any column
  have hiff : opensBlock column blocks = true ↔ s.indent < column := by
    cases blocks with
    | nil =>
        have : s.indent = -1 := (List.cons.inj h).1
        simp [opensBlock, this]
        omega
    | cons b blocks =>
        have : s.indent = b := (List.cons.inj h).1
        simp [opensBlock, this]
  by_cases hopens : opensBlock column blocks = true
  · rw [if_pos (hiff.mp hopens), blocksFrom, hopens]
    exact ⟨_, _, rfl, congrArg (_ :: ·) h⟩
  · rw [if_neg fun h => hopens (hiff.mpr h), blocksFrom, if_neg hopens,
      (Bool.not_eq_true _).mp hopens]
    exact ⟨_, _, rfl, h⟩

/-- The blocks that are open behind the first token of a line. -/
def blocksAt (column : Nat) (blocks : List Nat) : List Nat :=
  blocksFrom column (blocks.dropWhile (column < ·))

/-- The tokens for the blocks that a line closes and opens. -/
def kindsAt (column : Nat) (blocks : List Nat) (opener : TokenKind) : List TokenKind :=
  List.replicate (blocks.takeWhile (column < ·)).length .blockEnd
    ++ if opensBlock column (blocks.dropWhile (column < ·)) then [opener] else []

/-! ### Items -/

theorem run_pushChars {kind : TokenKind} {n : Nat} :
    pushChars kind n s = .ok ((), { s with
      cursor := s.cursor.skip n
      tokens := s.tokens.push ⟨kind, s.cursor.mark, (s.cursor.skip n).mark⟩ }) :=
  rfl

/-- The token for a block stands in front of that for its first entry. -/
theorem openBlock_eq {kind : TokenKind} {problem : Problem} (hs : s.Shows v)
    (hallow : v.allowKey = true) :
    ∃ s', openBlock kind problem s = .ok ((), s') ∧ s'.cursor = s.cursor ∧
      s'.Shows { v with
      blocks := blocksFrom v.column v.blocks
      kinds := v.kinds ++ if opensBlock v.column v.blocks then [kind] else [] } := by
  obtain ⟨indent, indents, hdeepen, hblocks⟩ := @deepen_eq s v.column v.blocks hs.blocks
  rw [openBlock, run_bind_of_ok run_get, hs.inFlow, hs.allowKey.trans hallow, hs.column]
  rw [Bool.not_false, if_pos rfl, Bool.not_true, if_neg Bool.false_ne_true]
  dsimp only
  rw [run_bind_of_ok hdeepen]
  -- a block is opened for the first entry only
  cases opensBlock v.column v.blocks with
  | false =>
      refine ⟨_, rfl, rfl, hs.rest, hs.column, hblocks, hs.allowKey, ?_, hs.flow,
        hs.keys, hs.done⟩
      exact hs.kinds.trans (List.append_nil _).symm
  | true =>
      refine ⟨_, rfl, rfl, hs.rest, hs.column, hblocks, hs.allowKey, ?_, hs.flow,
        hs.keys, hs.done⟩
      rw [Array.toList_push, List.map_append, hs.kinds]
      rfl

/-- A dash with a blank behind it starts an item. -/
theorem fetchAt_dash {c : Cursor} (h : c.rest = '-' :: ' ' :: rest) :
    fetchAt c false = fetchBlockEntry := by
  have hpeek : c.peek = '-' := peek_of_cons h
  have hnext : c.peek 1 = ' ' := by rw [peek, h]; rfl
  have hseparator : c.atSeparator = false :=
    atSeparator_of_not_startsSeparator (by rw [h]; rfl)
  rw [fetchAt, hpeek, hnext, hseparator, Bool.and_false]
  rfl

/-- A dash in front of an item. -/
theorem leads_dash :
    Leads ⟨'-' :: ' ' :: rest, column, blocks, true, ks⟩
      ⟨' ' :: rest, column + 1, blocksAt column blocks, true,
        ks ++ kindsAt column blocks .blockSequenceStart ++ [.blockEntry]⟩ := by
  refine .of_fetchAt rfl (Nat.lt_succ_self _) fun s hs => ?_
  obtain ⟨s₁, hopen, -, hs₁⟩ :=
    @openBlock_eq s _ .blockSequenceStart .entryNotAllowed hs rfl
  have hdrop : dropKey { s₁ with allowKey := true } =
    .ok ((), { s₁ with allowKey := true }) := dropKey_of_nil hs₁.keys
  -- the dash is passed, and the blank behind it stays
  have hskip : s₁.cursor.skip 1 = s₁.cursor.along 1 (' ' :: rest) :=
    next_inline hs₁.rest (by decide)
  have hs₂ := hs₁.push (s₁.cursor.along 1 (' ' :: rest)) ⟨.blockEntry, s₁.cursor.mark,
    (s₁.cursor.along 1 (' ' :: rest)).mark⟩ true
  refine ⟨_, ?_, rfl, ?_, hs₂.blocks, rfl, ?_, hs₂.flow, hs₂.keys, hs₂.done⟩
  · rw [fetchAt_dash hs.rest, fetchBlockEntry, run_bind_of_ok hopen]
    refine (run_bind_of_ok rfl).trans
      ((run_bind_of_ok hdrop).trans (run_pushChars.trans ?_))
    rw [hskip]
  · exact congrArg (· + 1) hs₁.column
  · rw [hs₂.kinds, kindsAt]
    simp only [List.append_assoc]

/-! ### Plain scalars -/

/-- A plain text starts with no sign that means something else. -/
theorem fetchAt_plain {c : Cursor} {text : List Char} (h : c.rest = text ++ rest)
    (htext : IsPlain text) : fetchAt c false = fetchPlain := by
  obtain ⟨ch, tail, hfirst, hindicator, hdot⟩ := htext.first
  have hpeek : c.peek = ch := peek_of_cons (h.trans (by rw [hfirst]; rfl))
  have hblank : isBlankOrEnd ch = false := by
    have := htext.chars ch (by rw [hfirst]; exact List.mem_cons_self)
    simp only [isPlainChar, Bool.and_eq_true] at this
    simpa using this.1.2
  -- the first character is none of the signs that `fetchAt` asks for
  have hne (x : Char) (hx : isIndicator x = true) : (ch == x) = false := by
    rw [beq_eq_false_iff_ne]
    rintro rfl
    rw [hindicator] at hx
    cases hx
  have hzero : (ch == '\x00') = false := by
    rw [beq_eq_false_iff_ne]
    rintro rfl
    cases hblank
  have hstarts : startsPlain false c = true := by
    rw [startsPlain, hpeek, hblank, hindicator]
    rfl
  rw [fetchAt, hpeek, hzero, hne '%' (by decide), hne '-' (by decide),
    beq_false_of_ne hdot, hne '[' (by decide), hne '\x7b' (by decide),
    hne ']' (by decide), hne '\x7d' (by decide), hne ',' (by decide), hne '?' (by decide),
      hne ':' (by decide), hne '*' (by decide),
    hne '&' (by decide), hne '!' (by decide), hne '|' (by decide), hne '>' (by decide),
      hne '\'' (by decide), hne '"' (by decide), hstarts]
  rfl

/-- A plain text is a token. -/
theorem atToken_of_isPlain {text : List Char} (htext : IsPlain text) (rest : List Char) :
    atToken (text ++ rest) = true := by
  obtain ⟨ch, tail, rfl, hindicator, -⟩ := htext.first
  have hplain := htext.chars ch List.mem_cons_self
  have hspace : ch ≠ ' ' := by
    rintro rfl
    cases hplain
  have hhash : ch ≠ '#' := by
    rintro rfl
    cases hindicator
  simp [atToken, isInline_of_isPlainChar hplain, hspace, hhash]

/-- What is not deeper than a column stays open. -/
theorem dropWhile_blocks {b : Nat} (h : b ≤ column) :
    (b :: blocks).dropWhile (column < ·) = b :: blocks := by
  rw [List.dropWhile_cons_of_neg (by simpa using h)]

theorem takeWhile_blocks {b : Nat} (h : b ≤ column) :
    (b :: blocks).takeWhile (column < ·) = [] := by
  rw [List.takeWhile_cons_of_neg (by simpa using h)]

/-- The key that begins at the cursor if this turns out to be one. -/
def Scanner.keyHere (s : Scanner) : PossibleKey :=
  ⟨s.tokens.size, !s.inFlow && s.indent == (s.cursor.mark.column : Int), s.cursor.mark⟩

/-- A place where a key may stand is noted, with the number of its token. -/
theorem notePossibleKey_eq (hkeys : s.keys = []) :
    notePossibleKey s = .ok ((), { s with keys := if s.allowKey then [(s.flow, s.keyHere)]
      else [] }) := by
  obtain ⟨cursor, tokens, flow, indents, indent, allowKey, keys, done⟩ := s
  obtain rfl : keys = [] := hkeys
  cases allowKey with
  | false => rfl
  | true => rfl

theorem notePossibleKey_of_not_allowKey (h : s.allowKey = false) :
    notePossibleKey s = .ok ((), s) := by
  rw [notePossibleKey, run_bind_of_ok run_get, h]
  rfl

/-- Keys of an earlier line are forgotten. -/
theorem dropStaleKeys_of_line (h : ∀ e ∈ s.keys, e.2.mark.line ≠ s.cursor.mark.line ∧
    e.2.required = false) :
    dropStaleKeys s = .ok ((), { s with keys := [] }) := by
  rw [dropStaleKeys, run_bind_of_ok run_get]
  dsimp only
  rw [List.find?_eq_none.mpr, List.filter_eq_nil_iff.mpr]
  · rfl
  · intro e he
    simp [(h e he).1]
  · intro e he
    simp [(h e he).2]

/-- A plain scalar is noted as a possible key, and cut. -/
theorem fetchPlain_eq (hkeys : s.keys = []) :
    fetchPlain s = .ok ((), { s with
      keys := if s.allowKey then [(s.flow, s.keyHere)] else []
      cursor := (plainScalar s.inFlow (s.indent + 1) s.cursor).cursor
      allowKey := (plainScalar s.inFlow (s.indent + 1) s.cursor).broken
      tokens := s.tokens.push
        ⟨.scalar (String.ofList (plainScalar s.inFlow (s.indent + 1) s.cursor).text) true,
        s.cursor.mark,
        (plainScalar s.inFlow (s.indent + 1) s.cursor).stop⟩ }) := by
  rw [fetchPlain, run_bind_of_ok (notePossibleKey_eq hkeys)]
  rfl

/-- A plain scalar at the end of a line, with a line behind it that is not indented
deeper than the block around it. -/
theorem leads_plain {text : List Char} {b k n : Nat} (htext : IsPlain text)
    (hb : b < column) (hn : n ≤ b) (hrest : atToken rest = true)
    (hseparator : startsSeparator (spaces n ++ rest) = false) :
    Leads ⟨text ++ '\n' :: (feeds k ++ (spaces n ++ rest)), column,
      b :: blocks, allowKey, ks⟩
      ⟨rest, n, b :: blocks, true, ks ++ [.scalar (String.ofList text) true]⟩ := by
  refine .of_fetchAt_of_dropStaleKeys (atToken_of_isPlain htext _) ?_ fun s hs => ?_
  · simp only [List.length_append, List.length_cons]
    omega
  rw [dropWhile_blocks hb.le, takeWhile_blocks hb.le, List.length_nil,
    List.replicate_zero, List.append_nil] at hs
  have hindent : s.indent = b := (List.cons.inj hs.blocks).1
  have hrun := fetchPlain_eq hs.keys
  -- the scalar ends with its line because the next one is not deeper than the block
  rw [hs.inFlow, plainScalar_line hs.rest htext hrest hseparator (by omega)] at hrun
  have hs' := hs.push (s.cursor.below text.length (k + 1) n rest)
    ⟨.scalar (String.ofList text) true, s.cursor.mark,
      (s.cursor.along text.length ('\n' :: (feeds k ++ (spaces n ++ rest)))).mark⟩ true
  refine ⟨_, _, (congrFun (fetchAt_plain hs.rest htext) s).trans hrun, hs.done,
    dropStaleKeys_of_line ?_, ?_⟩
  · -- if a key was noted, it is on the line before and was not required
    intro e he
    have hkey : e = (s.flow, s.keyHere) := by
      dsimp only at he
      split at he
      · exact List.mem_singleton.mp he
      · cases he
    subst hkey
    have hcolumn : s.cursor.mark.column = column := hs.column
    have hrequired : (s.indent == (s.cursor.mark.column : Int)) = false := by
      rw [beq_eq_false_iff_ne]
      omega
    refine ⟨Nat.ne_of_lt (Nat.lt_add_of_pos_right (Nat.succ_pos k)), ?_⟩
    simp only [Scanner.keyHere, hrequired, Bool.and_false]
  · exact ⟨rfl, rfl, hs'.blocks, rfl, hs'.kinds, hs'.flow, rfl, hs'.done⟩

/-! ### Keys -/

/-- Keys of the same line stay if they are not too long. -/
theorem dropStaleKeys_of_short (h : ∀ e ∈ s.keys, e.2.mark.line = s.cursor.mark.line ∧
    s.cursor.mark.index - e.2.mark.index ≤ 1024) :
    dropStaleKeys s = .ok ((), s) := by
  rw [dropStaleKeys, run_bind_of_ok run_get]
  dsimp only
  rw [List.find?_eq_none.mpr, List.filter_eq_self.mpr]
  · rfl
  · intro e he
    simp [h e he]
  · intro e he
    simp [h e he, Nat.not_lt.mpr (h e he).2]

theorem unwind_of_le {column : Int} (hflow : s.flow = 0) (h : s.indent ≤ column) :
    unwind column s = .ok ((), s) := by
  have hinFlow : s.inFlow = false := by
    rw [Scanner.inFlow, hflow]
    rfl
  rw [unwind, run_bind_of_ok run_get, hinFlow]
  exact closeBlocks_of_le h

/-- Behind the blocks that are closed the innermost one is not deeper. -/
theorem Scanner.Shows.indent_le
    (hs : s.Shows ⟨rest, column, blocks.dropWhile (column < ·), allowKey, ks⟩) :
    s.indent ≤ column := by
  rcases hkept : blocks.dropWhile (column < ·) with _ | ⟨b, kept⟩
  · rw [hkept] at hs
    have : s.indent = -1 := (List.cons.inj hs.blocks).1
    omega
  · have hb : (decide (column < b)) = false := by
      have := List.head?_dropWhile_not (column < ·) blocks
      rw [hkept] at this
      simpa using this
    rw [hkept] at hs
    have : s.indent = b := (List.cons.inj hs.blocks).1
    simp only [decide_eq_false_iff_not] at hb
    omega

/-- A colon with a blank behind it makes a key of what is noted. -/
theorem fetchAt_colon {c : Cursor} (h : c.rest = ':' :: rest)
    (hrest : isBlankOrEnd (rest.head?.getD '\x00') = true) :
    fetchAt c false = fetchValue := by
  have hpeek : c.peek = ':' := peek_of_cons h
  have hnext : c.peek 1 = rest.head?.getD '\x00' := by
    rw [peek, h]
    cases rest <;> rfl
  rw [fetchAt, hpeek, hnext, hrest]
  rfl

/-- The token for a key is put in front of the scalar that has been cut. -/
theorem insertTokens_size (ts : Array Token) (t : Token) (new : List Token) :
    (insertTokens (ts.push t) ts.size new).toList = ts.toList ++ new ++ [t] := by
  simp [insertTokens]

/-- A colon turns what the possible key is about into a key. -/
theorem fetchValue_eq {k : PossibleKey} {opens : Bool} (hflow : s.flow = 0)
    (hkeys : s.keys = [(s.flow, k)])
    (hdeepen : deepen k.mark.column { s with keys := [] } = .ok (opens, s')) :
    fetchValue s = .ok ((), { s' with
      cursor := s'.cursor.skip 1
      tokens := (insertTokens s'.tokens k.token
        (if opens then [⟨.blockMappingStart, k.mark, k.mark⟩, ⟨.key, k.mark, k.mark⟩]
          else [⟨.key, k.mark, k.mark⟩])).push
          ⟨.value, s'.cursor.mark, (s'.cursor.skip 1).mark⟩
      allowKey := false }) := by
  have hinFlow : s.inFlow = false := by
    rw [Scanner.inFlow, hflow]
    rfl
  have hlookup : s.keys.lookup s.flow = some k := by rw [hkeys, List.lookup_cons_self]
  rw [fetchValue, run_bind_of_ok run_get]
  dsimp only
  rw [hlookup]
  dsimp only
  -- the only key that is noted is the one that the value belongs to
  rw [List.filter_eq_nil_iff.mpr (fun e he => ?_), hinFlow]
  · exact (run_bind_of_ok rfl).trans (run_bind_of_ok hdeepen)
  · rw [hkeys] at he
    obtain rfl := List.mem_singleton.mp he
    simp

/-- A scanner behind a plain scalar that it has noted as a possible key, in front of a
colon. -/
def Scanner.behindName (s : Scanner) (name rest : List Char) : Scanner :=
  { s with
    keys := [(s.flow, s.keyHere)]
    cursor := s.cursor.along name.length (':' :: rest)
    allowKey := false
    tokens := s.tokens.push ⟨.scalar (String.ofList name) true, s.cursor.mark,
      (s.cursor.along name.length (':' :: rest)).mark⟩ }

variable {name : List Char}

/-- A name is noted for as long as it is short and on its line. -/
theorem dropStaleKeys_behindName (hlength : name.length ≤ 1024) :
    dropStaleKeys (s.behindName name rest) = .ok ((), s.behindName name rest) := by
  refine dropStaleKeys_of_short fun e he => ?_
  obtain rfl := List.mem_singleton.mp he
  refine ⟨rfl, ?_⟩
  show s.cursor.mark.index + name.length - s.cursor.mark.index ≤ 1024
  omega

/-- The first round of a key: the scalar is noted as a possible one. -/
theorem runs_behindName (hname : IsPlain name) (hlength : name.length ≤ 1024)
    (hrest : isBlankOrEnd (rest.head?.getD '\x00') = true)
    (hs : s.Shows ⟨name ++ ':' :: rest, column, blocks, true, ks⟩) :
    ∃ s₁ : Scanner, Runs s (s₁.behindName name rest) ∧
      s₁.Shows ⟨name ++ ':' :: rest, column, blocks.dropWhile (column < ·), true,
      ks ++ List.replicate (blocks.takeWhile (column < ·)).length .blockEnd⟩ := by
  have htoken : atToken s.cursor.rest = true := by
    rw [hs.rest]
    exact atToken_of_isPlain hname _
  obtain ⟨s₁, hfetch, -, hs₁⟩ := fetchHere_eq hs
  -- the name is noted as a key before it is cut
  have hrun : fetchHere s = .ok ((), s₁.behindName name rest) := by
    have hplain := fetchPlain_eq hs₁.keys
    rw [hs₁.allowKey, hs₁.inFlow, plainScalar_key hs₁.rest hname hrest] at hplain
    rw [hfetch, fetchAt_plain hs.rest hname]
    exact hplain
  refine ⟨s₁, .of_fetchHere htoken hrun hs₁.done (dropStaleKeys_behindName hlength) ?_,
    hs₁⟩
  -- a name has a character at least, so the cursor moves
  obtain ⟨ch, tail, hfirst, -⟩ := hname.first
  show (':' :: rest).length < s.cursor.rest.length
  rw [hs.rest, hfirst]
  simp only [List.length_append, List.length_cons]
  omega

/-- The second round of a key: the colon makes it one. -/
theorem runs_colon (hlength : name.length ≤ 1024)
    (hrest : isBlankOrEnd (rest.head?.getD '\x00') = true)
    (hs : s.Shows ⟨name ++ ':' :: rest, column, blocks, true, ks⟩)
    (hindent : s.indent ≤ column) :
    ∃ s', Runs (s.behindName name rest) s' ∧
      s'.Shows ⟨rest, column + (name.length + 1), blocksFrom column blocks, false,
      ks ++ (if opensBlock column blocks then [.blockMappingStart] else []) ++
        [.key, .scalar (String.ofList name) true, .value]⟩ := by
  have hcolumn : s.keyHere.mark.column = column := hs.column
  -- the colon is at a deeper column than the name, so no block ends at it
  have hunwind : unwind (s.behindName name rest).cursor.mark.column
      (s.behindName name rest) = .ok ((), s.behindName name rest) := by
    refine unwind_of_le hs.flow ?_
    show s.indent ≤ ((s.keyHere.mark.column + name.length : Nat) : Int)
    rw [hcolumn]
    omega
  have hinFlow : (s.behindName name rest).inFlow = false := hs.inFlow
  have hhere : fetchHere (s.behindName name rest) =
      fetchValue (s.behindName name rest) := by
    rw [fetchHere, run_bind_of_ok (dropStaleKeys_behindName hlength),
      run_bind_of_ok run_get, run_bind_of_ok hunwind,
      run_bind_of_ok run_get, hinFlow, fetchAt_colon rfl hrest]
  -- the block is opened at the column of the name, which comes before it among the tokens
  obtain ⟨indent, indents, hdeepen, hblocks⟩ :=
    @deepen_eq { s.behindName name rest with keys := [] } column blocks hs.blocks
  have hvalue := @fetchValue_eq (s.behindName name rest) _ s.keyHere _ hs.flow rfl
    (by rw [hcolumn]; exact hdeepen)
  have hnext : (s.behindName name rest).cursor.skip 1 =
      s.cursor.along (name.length + 1) rest := by
    rw [skip, skip, next_inline rfl (by decide)]
    exact along_along _ _
  dsimp only at hvalue
  rw [hnext] at hvalue
  refine ⟨_, .of_fetchHere rfl (hhere.trans hvalue) hs.done (dropStaleKeys_of_nil rfl)
    (Nat.lt_succ_self _), ?_⟩
  refine ⟨rfl, ?_, hblocks, rfl, ?_, hs.flow, rfl, hs.done⟩
  · exact congrArg (· + _) hs.column
  · -- the tokens for the key are put in front of the name
    rw [Array.toList_push]
    show ((insertTokens (s.tokens.push _) s.tokens.size _).toList ++ _).map (·.kind) = _
    rw [insertTokens_size, List.map_append, List.map_append, List.map_append, hs.kinds]
    cases opensBlock column blocks <;> simp

/-- A plain scalar with a colon behind it. -/
theorem leads_key (hname : IsPlain name) (hlength : name.length ≤ 1024)
    (hrest : isBlankOrEnd (rest.head?.getD '\x00') = true) :
    Leads ⟨name ++ ':' :: rest, column, blocks, true, ks⟩ ⟨rest,
      column + (name.length + 1), blocksAt column blocks, false,
      ks ++ kindsAt column blocks .blockMappingStart ++
        [.key, .scalar (String.ofList name) true, .value]⟩ := by
  intro s hs
  obtain ⟨s₁, hruns₁, hs₁⟩ := runs_behindName hname hlength hrest hs
  obtain ⟨s', hruns', hs'⟩ := runs_colon hlength hrest hs₁ hs₁.indent_le
  refine ⟨s', hruns₁.trans hruns', ?_⟩
  rw [List.append_assoc ks] at hs'
  exact hs'

/-! ### Other values -/

theorem cut_eq {f : Cursor → Except Failure (Token × Cursor)} {c : Cursor} {t : Token}
    (h : f s.cursor = .ok (t, c)) :
    cut f s = .ok ((), { s with cursor := c, tokens := s.tokens.push t }) := by
  rw [cut, run_bind_of_ok run_get, h]
  rfl

/-- A token that is cut behind a key. -/
theorem leads_property {f : Cursor → Except Failure (Token × Cursor)} {xs : List Char}
    {kind : TokenKind} {b : Nat} (hxs : xs ≠ [])
    (htoken : atToken (xs ++ rest) = true) (hb : b ≤ column)
    (hat : ∀ c : Cursor, c.rest = xs ++ rest → fetchAt c false = fetchProperty f)
    (hf : ∀ c : Cursor, c.rest = xs ++ rest → ∃ stop, f c =
      .ok (⟨kind, c.mark, stop⟩, c.along xs.length rest)) :
    Leads ⟨xs ++ rest, column, b :: blocks, false, ks⟩ ⟨rest, column + xs.length,
      b :: blocks, false, ks ++ [kind]⟩ := by
  refine .of_fetchAt htoken ?_ fun s hs => ?_
  · have := List.length_pos_iff.mpr hxs
    simp only [List.length_append]
    omega
  -- a property stands behind a key, so its block stays open
  rw [dropWhile_blocks hb, takeWhile_blocks hb, List.length_nil, List.replicate_zero,
    List.append_nil] at hs
  -- the cut gives the token, and nothing else in the view changes
  obtain ⟨stop, hcut⟩ := hf s.cursor hs.rest
  have hs' := hs.push (s.cursor.along xs.length rest) ⟨kind, s.cursor.mark, stop⟩ false
  refine ⟨_, ?_, rfl, ?_, hs'.blocks, rfl, hs'.kinds, hs'.flow, hs'.keys, hs'.done⟩
  · rw [hat s.cursor hs.rest, fetchProperty,
      run_bind_of_ok (notePossibleKey_of_not_allowKey hs.allowKey)]
    exact (run_bind_of_ok rfl).trans (cut_eq (s := { s with allowKey := false }) hcut)
  · exact congrArg (· + xs.length) hs.column

variable {text : List Char} {b : Nat}

/-- An alias behind a key. -/
theorem leads_alias (htext : IsName text) (hb : b ≤ column)
    (hrest : isSpaceOrEnd (rest.head?.getD '\x00') = true) :
    Leads ⟨'*' :: text ++ rest, column, b :: blocks, false, ks⟩
      ⟨rest, column + (text.length + 1), b :: blocks, false,
        ks ++ [.alias (String.ofList text)]⟩ := by
  refine leads_property (List.cons_ne_nil _ _) rfl hb (fun c hc => ?_) fun c hc =>
    ⟨_, anchorOrAlias_alias hc htext hrest⟩
  rw [fetchAt, peek_of_cons hc]
  rfl

theorem leads_anchor (htext : IsName text) (hb : b ≤ column)
    (hrest : isSpaceOrEnd (rest.head?.getD '\x00') = true) :
    Leads ⟨'&' :: text ++ rest, column, b :: blocks, false, ks⟩
      ⟨rest, column + (text.length + 1), b :: blocks, false,
        ks ++ [.anchor (String.ofList text)]⟩ := by
  refine leads_property (List.cons_ne_nil _ _) rfl hb (fun c hc => ?_) fun c hc =>
    ⟨_, anchorOrAlias_anchor hc htext hrest⟩
  rw [fetchAt, peek_of_cons hc]
  rfl

/-- A tag in front of a value. -/
theorem leads_tag (htext : IsName text) (hb : b ≤ column)
    (hrest : isSpaceOrEnd (rest.head?.getD '\x00') = true) :
    Leads ⟨'!' :: text ++ rest, column, b :: blocks, false, ks⟩
      ⟨rest, column + (text.length + 1), b :: blocks, false,
        ks ++ [.tag (some "!") (String.ofList text)]⟩ := by
  refine leads_property (List.cons_ne_nil _ _) rfl hb (fun c hc => ?_) fun c hc =>
    ⟨_, tag_eq hc htext hrest⟩
  rw [fetchAt, peek_of_cons hc]
  rfl

/-- A character is no half of one. -/
theorem charsOf?_codesOf (cs : List Char) : Text.charsOf? (codesOf cs) = some cs := by
  induction cs with
  | nil => rfl
  | cons ch cs ih =>
      have hhalf : Text.isHalf ch.toNat = false := by
        have hvalid : ch.toNat < 0xd800 ∨ 0xdfff < ch.toNat ∧
          ch.toNat < 0x110000 := ch.valid
        simp only [Text.isHalf, Bool.and_eq_false_iff, decide_eq_false_iff_not]
        omega
      show Text.charsOf? (ch.toNat :: codesOf cs) = _
      rw [Text.charsOf?, hhalf, ih, Char.ofNat_toNat]
      rfl

/-- A quoted scalar behind a key. -/
theorem leads_quoted (htext : ∀ x ∈ text, isQuotedChar x = true) (hb : b ≤ column) :
    Leads ⟨('"' :: (text ++ ['"'])) ++ rest, column, b :: blocks, false, ks⟩
      ⟨rest, column + (text.length + 2), b :: blocks, false,
        ks ++ [.scalar (String.ofList text) false]⟩ := by
  have hlength : ('"' :: (text ++ ['"'])).length = text.length + 2 := by simp
  rw [← hlength]
  have hat : ∀ c : Cursor, c.rest = ('"' :: (text ++ ['"'])) ++ rest → fetchAt c false =
      fetchQuoted := by
    intro c hc
    rw [fetchAt, peek_of_cons hc]
    rfl
  refine leads_property (List.cons_ne_nil _ _) rfl hb hat fun c hc => ?_
  have hquoted := @quotedScalar_eq c text rest (by rw [hc]; simp) htext
  have hkind : quotedKind (codesOf text) = .scalar (String.ofList text) false := by
    rw [quotedKind, charsOf?_codesOf]
  rw [hlength, ← hkind]
  exact ⟨_, bind_of_ok hquoted⟩

/-- A line of text in a block of its own. -/
theorem leads_block {k m n : Nat} (htext : IsBlockLine text) (hb : b ≤ column)
    (hm : b < m) (hn : n < m) (hrest : atToken rest = true) :
    Leads ⟨'|' :: '\n' :: (spaces m ++ (text ++ '\n' :: (feeds k ++ (spaces n ++ rest)))),
      column, b :: blocks, false, ks⟩
      ⟨rest, n, b :: blocks, true,
        ks ++ [.scalar (String.ofList (text ++ ['\n'])) false]⟩ := by
  refine .of_fetchAt rfl ?_ fun s hs => ?_
  · simp only [List.length_append, List.length_cons]
    omega
  rw [dropWhile_blocks hb, takeWhile_blocks hb, List.length_nil, List.replicate_zero,
    List.append_nil] at hs
  -- the block of text is deeper than the innermost block
  have hindent : s.indent = b := (List.cons.inj hs.blocks).1
  obtain ⟨stop, hblock⟩ :=
    @blockScalar_line s.cursor text rest k n s.indent m hs.rest htext hrest (by omega) hn
  have hdrop : dropKey { s with allowKey := true } =
    .ok ((), { s with allowKey := true }) := dropKey_of_nil hs.keys
  -- it ends below its line, behind the blank lines and the indentation of the next
  have hs' := hs.push (s.cursor.below (m + text.length + 1) (k + 2) n rest)
    ⟨.scalar (String.ofList (text ++ ['\n'])) false, s.cursor.mark, stop⟩ true
  refine ⟨_, ?_, rfl, rfl, hs'.blocks, rfl, hs'.kinds, hs'.flow, hs'.keys, hs'.done⟩
  rw [fetchAt, peek_of_cons hs.rest]
  show fetchBlockScalar false s = _
  rw [fetchBlockScalar]
  refine (run_bind_of_ok rfl).trans
    ((run_bind_of_ok hdrop).trans ((run_bind_of_ok rfl).trans (cut_eq ?_)))
  exact bind_of_ok hblock

/-- At the end all blocks are closed. -/
theorem fetchAll_end {n : Nat} (hs : s.Shows ⟨[], column, blocks, allowKey, ks⟩) :
    ∃ ts, fetchAll s (n + 1) = ⟨ts, none⟩ ∧ ts.map (·.kind) = ks ++
      List.replicate blocks.length .blockEnd ++ [.streamEnd] := by
  have hpeek : s.cursor.peek = '\x00' := peek_of_nil hs.rest
  have hfetch : fetch s = fetchHere s := fetch_of_atToken (by rw [hs.rest]; rfl)
  obtain ⟨s₁, hhere, -, hs₁⟩ := fetchHere_eq hs
  -- at the end, every block that is still open ends
  obtain ⟨s₂, hunwind, -, hs₂⟩ := @unwind_eq s₁ _ (-1) (Int.le_refl _) hs₁
  have hend : fetchAt s.cursor false s₁ = .ok ((), { s₂ with
      allowKey := false
      keys := []
      done := true
      tokens := s₂.tokens.push ⟨.streamEnd, s₂.cursor.mark, s₂.cursor.mark⟩ }) := by
    rw [fetchAt, hpeek]
    show fetchEnd s₁ = _
    rw [fetchEnd, run_bind_of_ok hunwind, run_bind_of_ok (dropKey_of_nil hs₂.keys)]
    rfl
  refine ⟨(s₂.tokens.push ⟨.streamEnd, s₂.cursor.mark, s₂.cursor.mark⟩).toList, ?_, ?_⟩
  · rw [fetchAll, show fetch.run s = _ from hfetch.trans (hhere.trans hend)]
    rfl
  · have hall : (blocks.dropWhile (column < ·)).takeWhile (fun b : Nat =>
        decide ((-1 : Int) < (b : Int))) = blocks.dropWhile (column < ·) :=
      List.takeWhile_eq_self_iff.mpr fun b _ => by simp; omega
    -- blocks that end on the way and at the end are all of them
    have hlength :=
      congrArg List.length (List.takeWhile_append_dropWhile (p := (column < ·))
        (l := blocks))
    rw [Array.toList_push, List.map_append, hs₂.kinds]
    simp only [View.closed, hall]
    rw [← hlength, List.length_append, List.replicate_add, List.append_assoc,
      List.append_assoc, List.append_assoc, List.append_assoc]
    rfl

end RuleLint.Yaml
