/-
RuleLint/Proofs/Matching.lean

What patterns for paths mean.

`Fits` says it piece by piece, and `matches_iff_fits` that matching decides it: the
texts that are kept on the way are tails of each other, so the longest stands for all of
them where a star comes.

Reading a pattern goes from left to right except for brackets, which look ahead for the
closing one.  Nothing that stands behind them changes them (`cutBrackets?_append`), so a
star can be put behind a pattern (`matches_ofText_append_star`), and a text without sets
fits itself (`fits_pieces_self`).  A text that stands for itself can be put in front of
any pattern (`matches_ofText_append`).
-/
import Mathlib.Data.List.Basic
import RuleLint.Glob

namespace RuleLint

namespace Glob

/-! ### What patterns mean -/

/-- Whether a pattern fits a whole text. -/
inductive Fits : Pattern → List Char → Prop
  | nil : Fits [] []
  | star {p : Pattern} {front rest : List Char} (h : Fits p rest) :
      Fits (.star :: p) (front ++ rest)
  | take {q : Piece} {p : Pattern} {c : Char} {rest : List Char} (hc : q.takes c = true)
      (h : Fits p rest) : Fits (q :: p) (c :: rest)

theorem mem_tails {s t : List Char} : t ∈ tails s ↔ t <:+ s := by
  induction s with
  | nil => simp [tails]
  | cons c s ih => rw [tails, List.mem_cons, ih, List.suffix_cons_iff]

/-- Tails of one text, the longest first. -/
def AreTails (left : List (List Char)) : Prop :=
  left.Pairwise fun a b => b <:+ a

theorem areTails_tails (s : List Char) : AreTails (tails s) := by
  induction s with
  | nil => exact List.pairwise_singleton _ _
  | cons c s ih =>
      exact List.pairwise_cons.mpr ⟨fun t ht =>
        (mem_tails.mp ht).trans (List.suffix_cons c s), ih⟩

/-- What is left of one text behind a piece that takes one character. -/
def Piece.behind? (q : Piece) : List Char → Option (List Char)
  | [] => none
  | c :: rest => if q.takes c then some rest else none

theorem Piece.behind?_eq_some {q : Piece} {s rest : List Char} :
    q.behind? s = some rest ↔ ∃ c, q.takes c = true ∧ s = c :: rest := by
  cases s with
  | nil => simp [behind?]
  | cons c s => by_cases hc : q.takes c = true <;> simp [behind?, hc]

theorem Piece.step_of_ne_star {q : Piece} (hq : q ≠ .star) (left : List (List Char)) :
    q.step left = left.filterMap q.behind? := by
  cases q with
  | star => exact absurd rfl hq
  | one | oneOf | char => rfl

theorem AreTails.step {left : List (List Char)} (h : AreTails left) (q : Piece) :
    AreTails (q.step left) := by
  by_cases hq : q = .star
  · subst hq
    cases left with
    | nil => exact List.Pairwise.nil
    | cons s left => exact areTails_tails s
  · rw [Piece.step_of_ne_star hq]
    refine List.Pairwise.filterMap _ (fun a b hab a' ha' b' hb' => ?_) h
    obtain ⟨c, -, rfl⟩ := Piece.behind?_eq_some.mp ha'
    obtain ⟨d, -, rfl⟩ := Piece.behind?_eq_some.mp hb'
    -- both have lost their first character
    rcases List.suffix_cons_iff.mp hab with heq | hsuffix
    · cases heq
      exact List.suffix_refl _
    · exact (List.suffix_cons d b').trans hsuffix

/-- A text that is left fits a pattern if what is left behind the first piece fits the
others. -/
theorem exists_fits_step {left : List (List Char)} (h : AreTails left) (q : Piece)
    (p : Pattern) :
    (∃ s ∈ q.step left, Fits p s) ↔ ∃ s ∈ left, Fits (q :: p) s := by
  by_cases hq : q = .star
  · subst hq
    cases left with
    | nil => simp [Piece.step]
    | cons longest left =>
        constructor
        · rintro ⟨s, hs, hfits⟩
          -- a star takes any front of the longest text that is left
          obtain ⟨front, rfl⟩ := mem_tails.mp hs
          exact ⟨_, List.mem_cons_self, .star hfits⟩
        · rintro ⟨s, hs, hfits⟩
          -- the texts that are left are ends of the longest one
          have hlongest : s <:+ longest := by
            rcases List.mem_cons.mp hs with rfl | hs
            · exact List.suffix_refl _
            · exact (List.pairwise_cons.mp h).1 s hs
          cases hfits with
          | star hfits =>
              exact ⟨_, mem_tails.mpr ((List.suffix_append _ _).trans hlongest), hfits⟩
          | take hc => cases hc
  · -- any other piece takes one character of each text
    rw [Piece.step_of_ne_star hq]
    constructor
    · rintro ⟨s, hs, hfits⟩
      obtain ⟨t, ht, hbehind⟩ := List.mem_filterMap.mp hs
      obtain ⟨c, hc, rfl⟩ := Piece.behind?_eq_some.mp hbehind
      exact ⟨_, ht, .take hc hfits⟩
    · rintro ⟨s, hs, hfits⟩
      cases hfits with
      | star => exact absurd rfl hq
      | take hc hfits =>
          exact ⟨_, List.mem_filterMap.mpr ⟨_, hs,
            Piece.behind?_eq_some.mpr ⟨_, hc, rfl⟩⟩, hfits⟩

/-- Going through a pattern looks for a text among those left that the pattern fits. -/
theorem any_foldl_iff {left : List (List Char)} (h : AreTails left) (p : Pattern) :
    (p.foldl (fun left piece => piece.step left) left).any List.isEmpty = true ↔
      ∃ s ∈ left, Fits p s := by
  induction p generalizing left with
  | nil =>
      rw [List.foldl_nil, List.any_eq_true]
      refine exists_congr fun s => and_congr_right fun _ => ?_
      rw [List.isEmpty_iff]
      constructor
      · rintro rfl
        exact .nil
      · rintro ⟨⟩
        rfl
  | cons q p ih =>
      rw [List.foldl_cons, ih (h.step q)]
      exact exists_fits_step h q p

/-- Matching decides what patterns mean. -/
theorem matches_iff_fits (p : Pattern) (s : String) :
    p.matches s = true ↔ Fits p s.toList := by
  rw [Pattern.matches, any_foldl_iff (List.pairwise_singleton _ _)]
  simp

/-- A star at the end leaves any text behind what the rest of the pattern fits. -/
theorem fits_append_star {p : Pattern} {s : List Char} :
    Fits (p ++ [.star]) s ↔ ∃ u v, s = u ++ v ∧ Fits p u := by
  induction p generalizing s with
  | nil =>
      -- a star at the end takes all that is left
      constructor
      · intro h
        exact ⟨[], s, rfl, .nil⟩
      · rintro ⟨u, v, rfl, h⟩
        cases h
        have hstar : Fits [.star] (v ++ []) := .star .nil
        rwa [List.append_nil] at hstar
  | cons q p ih =>
      constructor
      · intro h
        -- the last star stays the last, whatever the first piece takes
        cases h with
        | @star _ front _ h =>
            obtain ⟨u, v, rfl, hu⟩ := ih.mp h
            exact ⟨front ++ u, v, (List.append_assoc ..).symm, .star hu⟩
        | @take _ _ c _ hc h =>
            obtain ⟨u, v, rfl, hu⟩ := ih.mp h
            exact ⟨c :: u, v, rfl, .take hc hu⟩
      · rintro ⟨u, v, rfl, hu⟩
        cases hu with
        | @star _ front rest h =>
            rw [List.append_assoc]
            exact .star (ih.mpr ⟨rest, v, rfl, h⟩)
        | @take _ _ c rest hc h => exact .take hc (ih.mpr ⟨rest, v, rfl, h⟩)

/-! ### Brackets -/

theorem closed?_append_cons {front : List Char} (h : ']' ∉ front)
    (lead after : List Char) :
    closed? lead (front ++ ']' :: after) = some (lead ++ front, after) := by
  have hall : ∀ c ∈ front, (c != ']') = true :=
    fun c hc => bne_iff_ne.mpr fun hc' => h (hc' ▸ hc)
  rw [closed?, List.dropWhile_append_of_pos hall, List.takeWhile_append_of_pos hall]
  simp

theorem closed?_eq_none {rest : List Char} (h : ']' ∉ rest) (lead : List Char) :
    closed? lead rest = none := by
  have hall : ∀ c ∈ rest, (c != ']') = true :=
    fun c hc => bne_iff_ne.mpr fun hc' => h (hc' ▸ hc)
  rw [closed?, ← List.append_nil rest, List.dropWhile_append_of_pos hall]
  rfl

/-- Brackets are closed by the first closing one. -/
theorem closed?_cases (lead rest : List Char) :
    (']' ∉ rest ∧ closed? lead rest = none) ∨
      ∃ front after, ']' ∉ front ∧ rest = front ++ ']' :: after ∧ closed? lead rest =
        some (lead ++ front, after) := by
  by_cases h : ']' ∈ rest
  · obtain ⟨front, after, rfl, hfront⟩ := List.eq_append_cons_of_mem h
    exact .inr ⟨front, after, hfront, rfl, closed?_append_cons hfront lead after⟩
  · exact .inl ⟨h, closed?_eq_none h lead⟩

/-- What stands first in brackets is settled by their first characters. -/
theorem cutBrackets?_cases (cs : List Char) : cs = [] ∨ cs = ['!'] ∨
    ∃ lead rest, cs = lead ++ rest ∧ ∀ more, cutBrackets? (cs ++ more) =
      closed? lead (rest ++ more) := by
  rcases cs with - | ⟨c, cs⟩
  · exact .inl rfl
  · by_cases hbang : c = '!'
    · subst hbang
      rcases cs with - | ⟨d, cs⟩
      · exact .inr (.inl rfl)
      · by_cases hclose : d = ']'
        · subst hclose
          exact .inr (.inr ⟨['!', ']'], cs, rfl, fun _ => rfl⟩)
        · refine .inr (.inr ⟨['!'], d :: cs, rfl, fun more => ?_⟩)
          simp [cutBrackets?, hclose]
    · by_cases hclose : c = ']'
      · subst hclose
        exact .inr (.inr ⟨[']'], cs, rfl, fun _ => rfl⟩)
      · refine .inr (.inr ⟨[], c :: cs, rfl, fun more => ?_⟩)
        simp [cutBrackets?, hbang, hclose]

theorem cutBrackets?_of_not_mem {cs : List Char} (h : ']' ∉ cs) :
    cutBrackets? cs = none := by
  rcases cutBrackets?_cases cs with rfl | rfl | ⟨lead, rest, rfl, hcut⟩
  · rfl
  · rfl
  · have hcs := hcut []
    rw [List.append_nil, List.append_nil] at hcs
    rw [hcs]
    exact closed?_eq_none (fun hmem => h (List.mem_append_right lead hmem)) lead

/-- Text behind brackets does not change them. -/
theorem cutBrackets?_append {cs inside after : List Char}
    (h : cutBrackets? cs = some (inside, after)) (more : List Char) :
    cutBrackets? (cs ++ more) = some (inside, after ++ more) ∧
      after.length < cs.length := by
  rcases cutBrackets?_cases cs with rfl | rfl | ⟨lead, rest, rfl, hcut⟩
  · cases h
  · cases h
  · have hcs := hcut []
    rw [List.append_nil, List.append_nil, h] at hcs
    rcases closed?_cases lead rest with ⟨-, hnone⟩ | ⟨front, behind, hfront, rfl, hsome⟩
    · rw [hnone] at hcs
      cases hcs
    · rw [hsome] at hcs
      cases hcs
      refine ⟨?_, ?_⟩
      · rw [hcut, List.append_assoc, List.cons_append, closed?_append_cons hfront]
      · simp only [List.length_append, List.length_cons]
        omega

theorem cutBrackets?_append_of_none {cs more : List Char} (h : cutBrackets? cs = none)
    (hmore : ']' ∉ more) :
    cutBrackets? (cs ++ more) = none := by
  rcases cutBrackets?_cases cs with rfl | rfl | ⟨lead, rest, rfl, hcut⟩
  · exact cutBrackets?_of_not_mem hmore
  · exact cutBrackets?_of_not_mem (by simpa using hmore)
  · have hcs := hcut []
    rw [List.append_nil, List.append_nil, h] at hcs
    rcases closed?_cases lead rest with ⟨hrest, -⟩ | ⟨front, behind, -, rfl, hsome⟩
    · rw [hcut]
      exact closed?_eq_none (fun hmem => (List.mem_append.mp hmem).elim hrest hmore) lead
    · rw [hsome] at hcs
      cases hcs

/-! ### Pieces -/

theorem pieces_nil (n : Nat) : pieces n [] = [] := by
  cases n <;> rfl

theorem pieces_open (n : Nat) (rest : List Char) :
    pieces (n + 1) ('[' :: rest) = (cutBrackets? rest).elim (.char '[' :: pieces n rest)
      fun p => .oneOf (charSet p.1) :: pieces n p.2 := by
  rw [pieces]
  cases cutBrackets? rest <;> rfl

theorem pieces_char {c : Char} (hstar : c ≠ '*') (hone : c ≠ '?') (hopen : c ≠ '[')
    (n : Nat) (rest : List Char) :
    pieces (n + 1) (c :: rest) = .char c :: pieces n rest := by
  simp [pieces]

/-- The pieces of a pattern with a star behind it. -/
theorem pieces_append_star {cs : List Char} {m n : Nat} (hm : cs.length ≤ m)
    (hn : cs.length ≤ n) :
    pieces (n + 1) (cs ++ ['*']) = pieces m cs ++ [.star] := by
  -- brackets take more than one character, so the induction is on the length
  induction hk : cs.length using Nat.strongRecOn generalizing cs m n with
  | _ k ih =>
      rcases cs with - | ⟨c, cs⟩
      · rw [pieces_nil]
        show .star :: pieces n [] = _
        rw [pieces_nil]
        rfl
      · obtain ⟨m, rfl⟩ :=
          Nat.exists_eq_succ_of_ne_zero
            (Nat.ne_of_gt (Nat.lt_of_lt_of_le (Nat.succ_pos _) hm))
        obtain ⟨n, rfl⟩ :=
          Nat.exists_eq_succ_of_ne_zero
            (Nat.ne_of_gt (Nat.lt_of_lt_of_le (Nat.succ_pos _) hn))
        rw [List.length_cons] at hm hn hk
        have hrest : pieces (n + 1) (cs ++ ['*']) = pieces m cs ++ [.star] :=
          ih cs.length (by omega) (by omega) (by omega) rfl
        by_cases hstar : c = '*'
        · subst hstar
          exact congrArg (Piece.star :: ·) hrest
        by_cases hone : c = '?'
        · subst hone
          exact congrArg (Piece.one :: ·) hrest
        by_cases hopen : c = '['
        · subst hopen
          rw [List.cons_append, pieces_open, pieces_open]
          rcases hcut : cutBrackets? cs with - | ⟨inside, after⟩
          · rw [cutBrackets?_append_of_none hcut (by decide)]
            exact congrArg (Piece.char '[' :: ·) hrest
          · obtain ⟨hmore, hlength⟩ := cutBrackets?_append hcut ['*']
            rw [hmore]
            exact congrArg (Piece.oneOf (charSet inside) :: ·)
              (ih after.length (by omega) (by omega) (by omega) rfl)
        · rw [List.cons_append, pieces_char hstar hone hopen,
            pieces_char hstar hone hopen, hrest]
          rfl

/-- A pattern with a star behind it matches what begins with something that the pattern
matches. -/
theorem matches_ofText_append_star {q s : String} :
    (Pattern.ofText (q ++ "*")).matches s = true ↔ ∃ u v, s = u ++ v ∧
      (Pattern.ofText q).matches u = true := by
  have hpieces : Pattern.ofText (q ++ "*") = Pattern.ofText q ++ [.star] := by
    rw [Pattern.ofText, Pattern.ofText, String.toList_append, String.length_append]
    exact pieces_append_star (Nat.le_of_eq String.length_toList)
      (Nat.le_of_eq String.length_toList)
  rw [matches_iff_fits, hpieces, fits_append_star]
  constructor
  · rintro ⟨u, v, hs, hu⟩
    refine ⟨String.ofList u, String.ofList v, ?_, ?_⟩
    · rw [← String.toList_inj, hs]
      simp
    · rwa [matches_iff_fits, String.toList_ofList]
  · rintro ⟨u, v, rfl, hu⟩
    exact ⟨u.toList, v.toList, String.toList_append, (matches_iff_fits _ _).mp hu⟩

/-- Whether a character stands for itself in a pattern. -/
def IsLiteral (c : Char) : Prop :=
  c ≠ '*' ∧ c ≠ '?' ∧ c ≠ '['

/-- Characters that stand for themselves are pieces, and reading goes on behind them. -/
theorem pieces_append_of_isLiteral {cs : List Char} (h : ∀ c ∈ cs, IsLiteral c) (n : Nat)
    (ds : List Char) :
    pieces (cs.length + n) (cs ++ ds) = cs.map .char ++ pieces n ds := by
  induction cs with
  | nil =>
      rw [List.length_nil, Nat.zero_add, List.nil_append, List.map_nil, List.nil_append]
  | cons c cs ih =>
      obtain ⟨⟨hstar, hone, hopen⟩, hcs⟩ := List.forall_mem_cons.mp h
      rw [List.length_cons, Nat.add_right_comm, List.cons_append,
        pieces_char hstar hone hopen, ih hcs]
      rfl

/-- A pattern behind characters fits a text that has them at its front. -/
theorem fits_map_char_append {cs : List Char} {p : Pattern} {s : List Char} :
    Fits (cs.map .char ++ p) s ↔ ∃ t, s = cs ++ t ∧ Fits p t := by
  induction cs generalizing s with
  | nil => simp
  | cons c cs ih =>
      rw [List.map_cons, List.cons_append]
      constructor
      · intro h
        cases h with
        | @take _ _ d rest hd h =>
            obtain ⟨t, rfl, ht⟩ := ih.mp h
            have hdc : d = c := by simpa [Piece.takes] using hd
            exact ⟨t, by rw [hdc, List.cons_append], ht⟩
      · rintro ⟨t, rfl, ht⟩
        exact .take (beq_self_eq_true c) (ih.mpr ⟨t, rfl, ht⟩)

/-- A pattern behind a text that stands for itself matches what the pattern matches,
behind that text. -/
theorem matches_ofText_append {front q s : String} (h : ∀ c ∈ front.toList, IsLiteral c) :
    (Pattern.ofText (front ++ q)).matches s = true ↔ ∃ t, s = front ++ t ∧
      (Pattern.ofText q).matches t = true := by
  have hpieces : Pattern.ofText (front ++ q) = front.toList.map .char ++
      Pattern.ofText q := by
    rw [Pattern.ofText, String.toList_append,
      String.length_append, ← String.length_toList]
    exact pieces_append_of_isLiteral h q.length q.toList
  rw [matches_iff_fits, hpieces, fits_map_char_append]
  constructor
  · rintro ⟨t, hs, ht⟩
    refine ⟨String.ofList t, ?_, ?_⟩
    · rw [← String.toList_inj, hs, String.toList_append, String.toList_ofList]
    · rwa [matches_iff_fits, String.toList_ofList]
  · rintro ⟨t, rfl, ht⟩
    exact ⟨t.toList, String.toList_append, (matches_iff_fits _ _).mp ht⟩

/-- Whether a text read as a pattern has a set in it. -/
def hasSet : List Char → Bool
  | [] => false
  | c :: rest => (c == '[' && (cutBrackets? rest).isSome) || hasSet rest

theorem hasSet_cons {c : Char} {rest : List Char} (h : hasSet (c :: rest) = false) :
    (c = '[' → cutBrackets? rest = none) ∧ hasSet rest = false := by
  obtain ⟨hc, hrest⟩ := Bool.or_eq_false_iff.mp h
  refine ⟨?_, hrest⟩
  rintro rfl
  simpa using hc

/-- A text without sets fits itself. -/
theorem fits_pieces_self {cs : List Char} (h : hasSet cs = false) {n : Nat}
    (hn : cs.length ≤ n) : Fits (pieces n cs) cs := by
  induction cs generalizing n with
  | nil =>
      rw [pieces_nil]
      exact .nil
  | cons c cs ih =>
      obtain ⟨n, rfl⟩ :=
        Nat.exists_eq_succ_of_ne_zero
          (Nat.ne_of_gt (Nat.lt_of_lt_of_le (Nat.succ_pos _) hn))
      obtain ⟨hnone, hrest⟩ := hasSet_cons h
      have hfits : Fits (pieces n cs) cs := ih hrest (Nat.le_of_succ_le_succ hn)
      -- each sign takes itself: a star any text, a question mark any character
      by_cases hstar : c = '*'
      · subst hstar
        have hself : Fits (.star :: pieces n cs) (['*'] ++ cs) := .star hfits
        exact hself
      by_cases hone : c = '?'
      · subst hone
        exact .take rfl hfits
      by_cases hopen : c = '['
      · subst hopen
        rw [pieces_open, hnone rfl]
        exact .take (beq_self_eq_true _) hfits
      · rw [pieces_char hstar hone hopen]
        exact .take (beq_self_eq_true _) hfits

/-- A text that goes on has the sets of its beginning. -/
theorem hasSet_front {cs ds : List Char} (hfront : cs <+: ds) (h : hasSet ds = false) :
    hasSet cs = false := by
  obtain ⟨more, rfl⟩ := hfront
  induction cs with
  | nil => rfl
  | cons c cs ih =>
      rw [List.cons_append] at h
      obtain ⟨hnone, hrest⟩ := hasSet_cons h
      rw [hasSet, ih hrest, Bool.or_false, Bool.and_eq_false_iff]
      by_cases hc : c = '['
      · right
        rcases hcut : cutBrackets? cs with - | ⟨inside, after⟩
        · rfl
        · rw [(cutBrackets?_append hcut more).1] at hnone
          cases hnone hc
      · left
        simpa using hc

theorem hasSet_of_not_mem {cs : List Char} (h : ']' ∉ cs) : hasSet cs = false := by
  induction cs with
  | nil => rfl
  | cons c cs ih =>
      have hcs : ']' ∉ cs := fun hmem => h (List.mem_cons_of_mem c hmem)
      rw [hasSet, cutBrackets?_of_not_mem hcs, ih hcs]
      simp

/-- Nothing is closed by text without a closing bracket. -/
theorem hasSet_append {cs more : List Char} (h : hasSet cs = false) (hmore : ']' ∉ more) :
    hasSet (cs ++ more) = false := by
  induction cs with
  | nil => exact hasSet_of_not_mem hmore
  | cons c cs ih =>
      obtain ⟨hnone, hrest⟩ := hasSet_cons h
      rw [List.cons_append, hasSet, ih hrest, Bool.or_false, Bool.and_eq_false_iff]
      by_cases hc : c = '['
      · right
        rw [cutBrackets?_append_of_none (hnone hc) hmore]
        rfl
      · left
        simpa using hc

end Glob

end RuleLint
