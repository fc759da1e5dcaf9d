/-
RuleLint/Proofs/Layout.lean

The tokens of a document that is laid out in lines.

A document is a list of lines, each an item of a list or a field.  What tokens it has is
a matter of the columns of its lines (`tokenKinds`): a line closes the blocks that are
deeper than itself and opens one if it is deeper than the last.  The scanner goes from
line to line (`leads_line`), so by induction over the lines it finds these tokens and no
others.

Main result: `tokensOf_lines`.
-/
import RuleLint.Proofs.Scanning

namespace RuleLint.Yaml

open Cursor

/-! ### Lines -/

/-- What stands behind the colon of a field. -/
inductive Tail where
  /-- Nothing but spaces. -/
  | nothing (gap : Nat)
  /-- An anchor and a tag. -/
  | marked (anchor tag : String)
  | plain (text : String)
  | quoted (text : String)
  | reference (name : String)
  /-- A line of text in a block of its own, at a column. -/
  | block (column : Nat) (text : String)

/-- What a line holds. -/
inductive Entry where
  | item (text : String)
  | field (name : String) (tail : Tail)

/-- A line of a document, with blank lines behind it. -/
structure Line where
  column : Nat
  entry : Entry
  blanks : Nat := 0

def Tail.chars : Tail → List Char
  | .nothing gap => spaces gap
  | .marked anchor tag => ' ' :: '&' :: (anchor.toList ++ ' ' :: '!' :: tag.toList)
  | .plain text => ' ' :: text.toList
  | .quoted text => ' ' :: '"' :: (text.toList ++ ['"'])
  | .reference name => ' ' :: '*' :: name.toList
  | .block column text => ' ' :: '|' :: '\n' :: (spaces column ++ text.toList)

def Entry.chars : Entry → List Char
  | .item text => '-' :: ' ' :: text.toList
  | .field name tail => name.toList ++ ':' :: tail.chars

/-- The column of the first line. -/
def columnOf : List Line → Nat
  | [] => 0
  | l :: _ => l.column

/-- The characters of lines, without the indentation of the first. -/
def bodyOf : List Line → List Char
  | [] => []
  | l :: ls =>
      l.entry.chars ++ '\n' :: (feeds l.blanks ++ (spaces (columnOf ls) ++ bodyOf ls))

/-- The characters of lines. -/
def charsOf (ls : List Line) : List Char :=
  spaces (columnOf ls) ++ bodyOf ls

/-- Whether a value can stand behind a colon in a line with a column, where `next` is
the column of the line behind it. -/
def Tail.Fits (column next : Nat) : Tail → Prop
  | .nothing _ => True
  | .marked anchor tag => IsName anchor.toList ∧ IsName tag.toList
  | .plain text => IsPlain text.toList ∧ next ≤ column
  | .quoted text => ∀ x ∈ text.toList, isQuotedChar x = true
  | .reference name => IsName name.toList
  | .block col text => IsBlockLine text.toList ∧ column < col ∧ next < col

def Entry.Fits (column next : Nat) : Entry → Prop
  | .item text => IsPlain text.toList ∧ next ≤ column
  | .field name tail =>
      IsPlain name.toList ∧ name.toList.length ≤ 1024 ∧ tail.Fits column next

/-- Whether lines can follow each other. -/
def Fit : List Line → Prop
  | [] => True
  | l :: ls => l.entry.Fits l.column (columnOf ls) ∧ Fit ls

def Tail.kinds : Tail → List TokenKind
  | .nothing _ => []
  | .marked anchor tag => [.anchor anchor, .tag (some "!") tag]
  | .plain text => [.scalar text true]
  | .quoted text => [.scalar text false]
  | .reference name => [.alias name]
  | .block _ text => [.scalar (text ++ "\n") false]

def Entry.kinds : Entry → List TokenKind
  | .item text => [.blockEntry, .scalar text true]
  | .field name tail => [.key, .scalar name true, .value] ++ tail.kinds

/-- The token that opens a block of such entries. -/
def Entry.opener : Entry → TokenKind
  | .item _ => .blockSequenceStart
  | .field _ _ => .blockMappingStart

/-- The tokens of lines, in blocks that are open before them. -/
def tokenKinds : List Line → List Nat → List TokenKind
  | [], blocks => List.replicate blocks.length .blockEnd
  | l :: ls, blocks =>
      kindsAt l.column blocks l.entry.opener ++ l.entry.kinds ++
        tokenKinds ls (blocksAt l.column blocks)

/-- The characters of a line and of the blank lines behind it. -/
def Line.chars (l : Line) : List Char :=
  spaces l.column ++ (l.entry.chars ++ '\n' :: feeds l.blanks)

variable {l : Line} {ls : List Line} {blocks : List Nat} {ks : List TokenKind}

/-- Lines are written one after the other. -/
theorem charsOf_eq_flatMap (ls : List Line) : charsOf ls = ls.flatMap Line.chars := by
  induction ls with
  | nil => rfl
  | cons l ls ih =>
      rw [charsOf, bodyOf, columnOf, ← charsOf, ih]
      simp [Line.chars]

theorem fit_items {column : Nat} {texts : List String}
    (htexts : ∀ text ∈ texts, IsPlain text.toList) (hls : Fit ls)
    (hcolumn : columnOf ls ≤ column) : Fit (texts.map (⟨column, .item ·, 0⟩) ++ ls) := by
  induction texts with
  | nil => exact hls
  | cons text texts ih =>
      obtain ⟨htext, htexts⟩ := List.forall_mem_cons.mp htexts
      refine ⟨⟨htext, ?_⟩, ih htexts⟩
      cases texts with
      | nil => exact hcolumn
      | cons _ _ => exact Nat.le_refl column

/-- A line is in a block at its column. -/
theorem exists_blocksAt (column : Nat) (blocks : List Nat) :
    ∃ outer, blocksAt column blocks = column :: outer := by
  rw [blocksAt, blocksFrom]
  split
  · exact ⟨_, rfl⟩
  · rename_i hopens
    rcases hkept : blocks.dropWhile (column < ·) with _ | ⟨b, kept⟩
    · rw [hkept] at hopens
      exact absurd rfl hopens
    · have hb := List.head?_dropWhile_not (column < ·) blocks
      rw [hkept] at hb hopens
      simp only [List.head?_cons, decide_eq_true_eq, opensBlock, Option.all_some]
        at hb hopens
      obtain rfl : b = column := by
        simp at hb
        omega
      exact ⟨kept, rfl⟩

theorem atToken_bodyOf (h : Fit ls) : atToken (bodyOf ls) = true := by
  cases ls with
  | nil => rfl
  | cons l ls =>
      obtain ⟨hentry, -⟩ := h
      rw [bodyOf]
      cases hl : l.entry with
      | item text => rfl
      | field name tail =>
          rw [hl] at hentry
          rw [Entry.chars, List.append_assoc]
          exact atToken_of_isPlain hentry.1 _

theorem startsSeparator_charsOf (h : Fit ls) : startsSeparator (charsOf ls) = false := by
  cases ls with
  | nil => rfl
  | cons l ls =>
      obtain ⟨hentry, -⟩ := h
      obtain ⟨column, entry, blanks⟩ := l
      cases column with
      | succ column => rfl
      | zero =>
          cases entry with
          | item text => rfl
          | field name tail =>
              obtain ⟨ch, cs, hfirst, hindicator, hdot⟩ := hentry.1.first
              have hdash : ch ≠ '-' := by
                rintro rfl
                cases hindicator
              show startsSeparator ((name.toList ++ ':' :: tail.chars) ++ _) = false
              rw [hfirst]
              simp [startsSeparator, hdash, hdot]

/-! ### Blocks -/

/-- A line in the innermost block. -/
theorem tokenKinds_same : tokenKinds (l :: ls) (l.column :: blocks) = l.entry.kinds ++
    tokenKinds ls (l.column :: blocks) := by
  simp [tokenKinds, kindsAt, blocksAt, blocksFrom, opensBlock]

/-- A line that is deeper than the innermost block opens one. -/
theorem tokenKinds_open (h : opensBlock l.column blocks = true) :
    tokenKinds (l :: ls) blocks = l.entry.opener ::
      tokenKinds (l :: ls) (l.column :: blocks) := by
  have htake : blocks.takeWhile (l.column < ·) = [] ∧
      blocks.dropWhile (l.column < ·) = blocks := by
    cases blocks with
    | nil => exact ⟨rfl, rfl⟩
    | cons b blocks =>
        have hb : b < l.column := by simpa [opensBlock] using h
        simp [Nat.le_of_lt hb]
  rw [tokenKinds_same, tokenKinds, kindsAt, blocksAt, blocksFrom, htake.1, htake.2, h]
  rfl

/-- Lines that are less deep close the innermost block. -/
theorem tokenKinds_close {b : Nat} (h : columnOf ls < b) :
    tokenKinds ls (b :: blocks) = .blockEnd :: tokenKinds ls blocks := by
  cases ls with
  | nil => rfl
  | cons l ls =>
      have hb : l.column < b := h
      simp [tokenKinds, kindsAt, blocksAt, hb, List.replicate_succ]

/-- The tokens of items. -/
def itemKinds (texts : List String) : List TokenKind :=
  texts.flatMap fun text => [.blockEntry, .scalar text true]

theorem tokenKinds_items {column : Nat} (texts : List String) (h : columnOf ls < column) :
    tokenKinds (texts.map (⟨column, .item ·, 0⟩) ++ ls) (column :: blocks) =
      itemKinds texts ++ .blockEnd :: tokenKinds ls blocks := by
  induction texts with
  | nil => exact tokenKinds_close h
  | cons text texts ih =>
      have hfirst :=
        @tokenKinds_same ⟨column, .item text, 0⟩ (texts.map (⟨column, .item ·, 0⟩) ++ ls)
          blocks
      rw [ih] at hfirst
      exact hfirst

/-- What stands behind a colon begins with a space or ends the line. -/
theorem isSpaceOrEnd_head_tail (tail : Tail) (rest : List Char) :
    isSpaceOrEnd ((tail.chars ++ '\n' :: rest).head?.getD '\x00') = true := by
  cases tail with
  | nothing gap =>
      cases gap with
      | zero => rfl
      | succ gap => rfl
  | _ => rfl

theorem leads_space {rest : List Char} {column : Nat} {allowKey : Bool}
    (hrest : atToken rest = true) :
    Leads ⟨' ' :: rest, column, blocks, allowKey, ks⟩ ⟨rest, column + 1, blocks,
      allowKey, ks⟩ :=
  leads_spaces 1 hrest

/-- The value of a field, from the colon to the next line. -/
theorem leads_tail {tail : Tail} {column position blanks : Nat} {outer : List Nat}
    (hposition : column < position)
    (htail : tail.Fits column (columnOf ls)) (hls : Fit ls) :
    Leads ⟨tail.chars ++ '\n' :: (feeds blanks ++ charsOf ls), position,
      column :: outer, false, ks⟩
      ⟨bodyOf ls, columnOf ls, column :: outer, true, ks ++ tail.kinds⟩ := by
  have htoken := atToken_bodyOf hls
  have hend := isSpaceOrEnd_head_tail (.nothing 0) (feeds blanks ++ charsOf ls)
  -- behind what stands on the line there is always the same gap; a plain scalar and a
  -- block take it with them
  cases tail with
  | nothing gap =>
      rw [Tail.kinds, List.append_nil]
      exact leads_gap gap blanks (columnOf ls) htoken
  | plain text =>
      obtain ⟨htext, hnext⟩ := htail
      refine (leads_space (atToken_of_isPlain htext _)).trans ?_
      have hplain := @leads_plain (bodyOf ls) (position + 1) outer false ks text.toList
        column blanks (columnOf ls) htext (by omega) hnext htoken
        (startsSeparator_charsOf hls)
      rwa [String.ofList_toList] at hplain
  | quoted text =>
      refine (leads_space rfl).trans ?_
      have hquoted := @leads_quoted ('\n' :: (feeds blanks ++ charsOf ls)) (position + 1)
        outer ks text.toList column htail (by omega)
      rw [String.ofList_toList] at hquoted
      exact hquoted.trans (leads_gap 0 blanks (columnOf ls) htoken)
  | reference name =>
      refine (leads_space rfl).trans ?_
      have halias := @leads_alias ('\n' :: (feeds blanks ++ charsOf ls)) (position + 1)
        outer ks name.toList column htail (by omega) hend
      rw [String.ofList_toList] at halias
      exact halias.trans (leads_gap 0 blanks (columnOf ls) htoken)
  | marked anchor tag =>
      obtain ⟨hanchor, htag⟩ := htail
      refine (leads_space rfl).trans ?_
      have hfirst :=
        @leads_anchor (' ' :: '!' :: tag.toList ++ '\n' :: (feeds blanks ++ charsOf ls))
          (position + 1) outer ks anchor.toList column
        hanchor (by omega) rfl
      have hsecond :=
        @leads_tag ('\n' :: (feeds blanks ++ charsOf ls)) (position + 1 +
          (anchor.toList.length + 1) + 1) outer
        (ks ++ [.anchor anchor]) tag.toList column htag (by omega) hend
      rw [String.ofList_toList] at hfirst hsecond
      rw [List.append_assoc] at hsecond
      rw [← List.cons_append, ← List.append_assoc] at hfirst
      exact hfirst.trans
        ((leads_space rfl).trans
        (hsecond.trans (leads_gap 0 blanks (columnOf ls) htoken)))
  | block col text =>
      obtain ⟨htext, hcolumn, hnext⟩ := htail
      refine (leads_space rfl).trans ?_
      have hblock := @leads_block (bodyOf ls) (position + 1) outer ks text.toList column
        blanks col (columnOf ls) htext (by omega) hcolumn hnext htoken
      rw [String.ofList_append, String.ofList_toList, ← List.append_assoc (spaces col)]
        at hblock
      exact hblock

theorem leads_line (hentry : l.entry.Fits l.column (columnOf ls)) (hls : Fit ls) :
    Leads ⟨bodyOf (l :: ls), l.column, blocks, true, ks⟩
      ⟨bodyOf ls, columnOf ls, blocksAt l.column blocks, true,
        ks ++ kindsAt l.column blocks l.entry.opener ++ l.entry.kinds⟩ := by
  obtain ⟨column, entry, blanks⟩ := l
  obtain ⟨outer, houter⟩ := exists_blocksAt column blocks
  cases entry with
  | item text =>
      obtain ⟨htext, hnext⟩ := hentry
      refine leads_dash.trans ?_
      rw [houter]
      refine (leads_space (atToken_of_isPlain htext _)).trans ?_
      have hplain :=
        @leads_plain (bodyOf ls) (column + 1 + 1) outer true (ks ++
          kindsAt column blocks .blockSequenceStart ++ [.blockEntry])
        text.toList column blanks (columnOf ls) htext (by omega) hnext
          (atToken_bodyOf hls) (startsSeparator_charsOf hls)
      rw [String.ofList_toList, List.append_assoc _ [_]] at hplain
      exact hplain
  | field name tail =>
      -- up to the colon, and then the value behind it
      obtain ⟨hname, hlength, htail⟩ := hentry
      have hblank :
          isBlankOrEnd ((tail.chars ++ '\n' :: (feeds blanks ++ charsOf ls)).head?.getD
            '\x00') = true := by
        rw [isBlankOrEnd, isSpaceOrEnd_head_tail, Bool.or_true]
      have hkey := @leads_key _ column blocks ks name.toList hname hlength hblank
      have hvalue := @leads_tail ls (ks ++ kindsAt column blocks .blockMappingStart ++
        [.key, .scalar name true, .value]) tail column
        (column + (name.toList.length + 1)) blanks outer (by omega) htail hls
      rw [houter, String.ofList_toList, ← List.cons_append, ← List.append_assoc] at hkey
      rw [List.append_assoc _ [_, _, _]] at hvalue
      rw [houter]
      exact hkey.trans hvalue

/-- The scanner comes through all lines. -/
theorem leads_lines (h : Fit ls) (blocks : List Nat) (ks : List TokenKind) :
    ∃ blocks' ks', Leads ⟨bodyOf ls, columnOf ls, blocks, true, ks⟩ ⟨[], 0,
      blocks', true, ks'⟩ ∧
      ks' ++ List.replicate blocks'.length .blockEnd = ks ++ tokenKinds ls blocks := by
  -- by induction on the lines; the open blocks and the tokens so far are what one line
  -- hands to the next
  induction ls generalizing blocks ks with
  | nil =>
      exact ⟨blocks, ks, fun s hs =>
        ⟨s, ⟨0, Nat.le_of_eq (Nat.zero_add _), fun n => rfl⟩, hs⟩, rfl⟩
  | cons l ls ih =>
      obtain ⟨hentry, hls⟩ := h
      obtain ⟨blocks', ks', hleads, hkinds⟩ :=
        ih hls (blocksAt l.column blocks) (ks ++ kindsAt l.column blocks l.entry.opener ++
          l.entry.kinds)
      refine ⟨blocks', ks', (leads_line hentry hls).trans hleads, ?_⟩
      rw [hkinds, tokenKinds, List.append_assoc, List.append_assoc, List.append_assoc]

theorem shows_start (cs : List Char) :
    (Scanner.start cs).Shows ⟨cs, 0, [], true, [.streamStart]⟩ :=
  ⟨rfl, rfl, rfl, rfl, rfl, rfl, rfl, rfl⟩

/-- The tokens of a document are those of its lines, between the two ends of the
stream. -/
theorem tokensOf_lines (h : Fit ls) :
    ∃ s ts e, tokensOf (charsOf ls) = ⟨s :: ts ++ [e], none⟩ ∧ ts.map (·.kind) =
      tokenKinds ls [] ∧ e.kind = .streamEnd := by
  obtain ⟨blocks, ks, hleads, hkinds⟩ := leads_lines h [] [.streamStart]
  have hspaces :=
    @leads_spaces _ 0 [] true [.streamStart] (columnOf ls) (atToken_bodyOf h)
  rw [Nat.zero_add] at hspaces
  obtain ⟨s, ⟨k, hk, hrun⟩, hs⟩ := hspaces.trans hleads _ (shows_start (charsOf ls))
  -- a round takes at least one character, so there are enough rounds for the end as well
  obtain ⟨n, hn⟩ : ∃ n, (charsOf ls).length + 2 = n + 1 + k :=
      ⟨(charsOf ls).length + 1 - k, by
    have : k + s.cursor.rest.length ≤ (charsOf ls).length := hk
    omega⟩
  obtain ⟨all, hall, hkinds'⟩ := @fetchAll_end s 0 blocks true ks n hs
  rw [hkinds] at hkinds'
  obtain ⟨front, back, rfl, hfront, hback⟩ := List.map_eq_append_iff.mp hkinds'
  obtain ⟨first, ts, rfl, -, hts⟩ := List.map_eq_cons_iff.mp hfront
  obtain ⟨last, ends, rfl, hlast, hends⟩ := List.map_eq_cons_iff.mp hback
  obtain rfl := List.map_eq_nil_iff.mp hends
  exact ⟨first, ts, last, by rw [tokensOf, hn, hrun, hall], hts, hlast⟩

end RuleLint.Yaml
