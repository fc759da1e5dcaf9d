/-
RuleLint/Proofs/Wildcards.lean

What settings select, said without the matcher.

`Denotes` is the meaning of a pattern as one would explain it: the text can be cut into
parts that stand one after the other, one for each character of the pattern.  Only where
no bracket opens is a pattern read character by character; there every piece is the
reading of one character (`pieces_eq_map`), and a cut of the text is a way to fit the
pieces (`fits_map_iff`).

A star behind a star changes nothing (`cutAs_collapse`).  Together with the fact that it
only matters which patterns are there, this says how far lists of patterns may differ
without any difference in what they select: `selects_iff_denotes`.
-/
import Mathlib.Data.List.Forall2
import RuleLint.Proofs.Findings
import RuleLint.Proofs.Matching

namespace RuleLint

namespace Glob

/-! ### Parts of a text -/

/-- Which parts of a text a character of a pattern stands for. -/
inductive Stands : Char → List Char → Prop
  | star (part : List Char) : Stands '*' part
  | one (d : Char) : Stands '?' [d]
  | self {c : Char} (hstar : c ≠ '*') (hone : c ≠ '?') : Stands c [c]

/-- Whether a text can be cut into parts, one for each character of a pattern in turn. -/
def CutAs (pattern text : List Char) : Prop :=
  ∃ parts : List (List Char), List.Forall₂ Stands pattern parts ∧ parts.flatten = text

/-- Whether a pattern without brackets denotes a text. -/
def Denotes (pattern text : String) : Prop :=
  CutAs pattern.toList text.toList

theorem cutAs_nil {text : List Char} : CutAs [] text ↔ text = [] := by
  constructor
  · rintro ⟨parts, hparts, rfl⟩
    cases hparts
    rfl
  · rintro rfl
    exact ⟨[], .nil, rfl⟩

/-- A pattern cuts a text at its front, and the rest by its own rest. -/
theorem cutAs_cons {c : Char} {pattern text : List Char} :
    CutAs (c :: pattern) text ↔ ∃ part rest, Stands c part ∧ CutAs pattern rest ∧
      text = part ++ rest := by
  constructor
  · rintro ⟨parts, hparts, rfl⟩
    cases hparts with
    | @cons _ part _ parts hpart hparts =>
        exact ⟨part, parts.flatten, hpart, ⟨parts, hparts, rfl⟩, rfl⟩
  · rintro ⟨part, rest, hpart, ⟨parts, hparts, rfl⟩, rfl⟩
    exact ⟨part :: parts, .cons hpart hparts, rfl⟩

/-! ### Pieces and parts -/

/-- The piece that a character is by itself. -/
def pieceOf (c : Char) : Piece :=
  if c = '*' then .star else if c = '?' then .one else .char c

/-- Where no bracket opens, every character is a piece. -/
theorem pieces_eq_map {cs : List Char} (h : '[' ∉ cs) {n : Nat} (hn : cs.length ≤ n) :
    pieces n cs = cs.map pieceOf := by
  -- by induction on the characters; `n` only has to be large enough for them
  induction cs generalizing n with
  | nil =>
      rw [pieces_nil]
      rfl
  | cons c cs ih =>
      obtain ⟨n, rfl⟩ :=
        Nat.exists_eq_succ_of_ne_zero
          (Nat.ne_of_gt (Nat.lt_of_lt_of_le (Nat.succ_pos _) hn))
      rw [List.mem_cons, not_or] at h
      obtain ⟨hopen, hcs⟩ := h
      have hrest : pieces n cs = cs.map pieceOf := ih hcs (Nat.le_of_succ_le_succ hn)
      by_cases hstar : c = '*'
      · subst hstar
        simp [pieces, hrest, pieceOf]
      by_cases hone : c = '?'
      · subst hone
        simp [pieces, hrest, pieceOf]
      rw [pieces_char hstar hone (Ne.symm hopen), hrest]
      simp [pieceOf, hstar, hone]

/-- The first piece takes a part for which its character stands. -/
theorem fits_pieceOf_cons {c : Char} {p : Pattern} {text : List Char} :
    Fits (pieceOf c :: p) text ↔ ∃ part rest, Stands c part ∧ Fits p rest ∧
      text = part ++ rest := by
  by_cases hstar : c = '*'
  · subst hstar
    show Fits (.star :: p) text ↔ _
    constructor
    · intro h
      cases h with
      | star h => exact ⟨_, _, .star _, h, rfl⟩
      | take hc => cases hc
    · rintro ⟨part, rest, -, h, rfl⟩
      exact .star h
  by_cases hone : c = '?'
  · subst hone
    show Fits (.one :: p) text ↔ _
    constructor
    · intro h
      cases h with
      | take hc h => exact ⟨_, _, .one _, h, rfl⟩
    · rintro ⟨part, rest, hpart, h, rfl⟩
      cases hpart with
      | one d => exact .take rfl h
      | self _ hne => exact absurd rfl hne
  -- any other character is a piece of its own
  have hpiece : pieceOf c = .char c := by simp [pieceOf, hstar, hone]
  rw [hpiece]
  constructor
  · intro h
    cases h with
    | take hc h =>
        obtain rfl := beq_iff_eq.mp hc
        exact ⟨_, _, .self hstar hone, h, rfl⟩
  · rintro ⟨part, rest, hpart, h, rfl⟩
    cases hpart with
    | star => exact absurd rfl hstar
    | one => exact absurd rfl hone
    | self => exact .take (beq_self_eq_true c) h

/-- Characters that stand for pieces, one by one. -/
theorem fits_map_iff {cs text : List Char} :
    Fits (cs.map pieceOf) text ↔ CutAs cs text := by
  induction cs generalizing text with
  | nil =>
      rw [cutAs_nil]
      constructor
      · rintro ⟨⟩
        rfl
      · rintro rfl
        exact .nil
  | cons c cs ih =>
      rw [List.map_cons, fits_pieceOf_cons, cutAs_cons]
      simp only [ih]

/-- **Matching finds a cut of the text if there is one**, wherever the stars of the
pattern have to be put. -/
theorem matches_iff_denotes {pattern : String} (h : '[' ∉ pattern.toList)
    (text : String) :
    (Pattern.ofText pattern).matches text = true ↔ Denotes pattern text := by
  rw [matches_iff_fits, Pattern.ofText,
    pieces_eq_map h (Nat.le_of_eq String.length_toList), fits_map_iff]
  rfl

/-! ### Stars in a row -/

/-- A pattern with one star for every run of stars. -/
def collapse : List Char → List Char
  | '*' :: '*' :: rest => collapse ('*' :: rest)
  | c :: rest => c :: collapse rest
  | [] => []

/-- Two stars stand for what one of them stands for. -/
theorem cutAs_star_star {cs text : List Char} : CutAs ('*' :: '*' :: cs) text ↔
    CutAs ('*' :: cs) text := by
  constructor
  · intro h
    obtain ⟨a, behind, -, hbehind, rfl⟩ := cutAs_cons.mp h
    obtain ⟨b, rest, -, hrest, rfl⟩ := cutAs_cons.mp hbehind
    -- one star stands for both parts together
    exact cutAs_cons.mpr ⟨a ++ b, rest, .star _, hrest, (List.append_assoc a b rest).symm⟩
  · intro h
    -- the first of two stars stands for nothing
    exact cutAs_cons.mpr ⟨[], text, .star _, h, rfl⟩

/-- Stars next to each other cut as one does. -/
theorem cutAs_collapse (cs text : List Char) :
    CutAs (collapse cs) text ↔ CutAs cs text := by
  fun_induction collapse cs generalizing text with
  | case1 rest ih => rw [ih, cutAs_star_star]
  | case2 c rest _ ih => simp only [cutAs_cons, ih]
  | case3 => exact Iff.rfl

theorem mem_collapse {c : Char} {cs : List Char} : c ∈ collapse cs ↔ c ∈ cs := by
  fun_induction collapse cs with
  | case1 rest ih => simp [ih]
  | case2 d rest _ ih => simp [ih]
  | case3 => exact Iff.rfl

/-- A pattern with one star for every run of stars, as a text. -/
def collapsed (pattern : String) : String :=
  String.ofList (collapse pattern.toList)

/-- Hence a pattern without such stars denotes the same paths. -/
theorem denotes_collapsed (pattern text : String) : Denotes (collapsed pattern) text ↔
    Denotes pattern text := by
  rw [Denotes, collapsed, String.toList_ofList, cutAs_collapse]
  rfl

/-- Whether two lists hold the same patterns, in any order and as often as you like,
when runs of stars are taken for one star. -/
def SamePatterns (ps qs : List String) : Prop :=
  ∀ p, p ∈ ps.map collapsed ↔ p ∈ qs.map collapsed

/-- A path that one of the patterns denotes is denoted by one of the others. -/
theorem SamePatterns.exists_denotes {ps qs : List String} (h : SamePatterns ps qs)
    {text : String} (hp : ∃ p ∈ ps, Denotes p text) :
    ∃ q ∈ qs, Denotes q text := by
  obtain ⟨p, hp, hdenotes⟩ := hp
  obtain ⟨q, hq, heq⟩ := List.mem_map.mp ((h _).mp (List.mem_map_of_mem hp))
  refine ⟨q, hq, ?_⟩
  rw [← denotes_collapsed, heq, denotes_collapsed]
  exact hdenotes

theorem SamePatterns.symm {ps qs : List String} (h : SamePatterns ps qs) :
    SamePatterns qs ps :=
  fun p => (h p).symm

/-- No bracket opens in patterns that are the same but for their stars. -/
theorem SamePatterns.not_mem {ps qs : List String} (h : SamePatterns ps qs)
    (hps : ∀ p ∈ ps, '[' ∉ p.toList) :
    ∀ q ∈ qs, '[' ∉ q.toList := by
  intro q hq hopen
  obtain ⟨p, hp, heq⟩ := List.mem_map.mp ((h _).mpr (List.mem_map_of_mem hq))
  apply hps p hp
  have htexts : collapse p.toList = collapse q.toList := String.ofList_injective heq
  rw [← mem_collapse, htexts, mem_collapse]
  exact hopen

end Glob

/-! ### Settings -/

open Glob

/-- Settings with patterns that are texts. -/
def Settings.ofPatterns (included excluded : List String) (allowIgnore : Value) :
    Settings :=
  ⟨.list (included.map .text), .list (excluded.map .text), allowIgnore⟩

/-- Settings select what one included pattern denotes and no excluded one does. -/
theorem Settings.selects_eq_ok_iff {included excluded : List String}
    (hincluded : ∀ p ∈ included, '[' ∉ p.toList)
    (hexcluded : ∀ p ∈ excluded, '[' ∉ p.toList) (allowIgnore : Value) (path : String) :
    ∃ chosen, (ofPatterns included excluded allowIgnore).selects path = .ok chosen ∧
      (chosen = true ↔ (∃ p ∈ included, Denotes p path) ∧ ¬ ∃ p ∈ excluded,
        Denotes p path) := by
  have hany : ∀ ps : List String, (∀ p ∈ ps, '[' ∉ p.toList) →
      ((ps.any fun p => (Pattern.ofText p).matches path) = true ↔ ∃ p ∈ ps,
        Denotes p path) := by
    intro ps hps
    rw [List.any_eq_true]
    exact exists_congr fun p => and_congr_right fun hp =>
      matches_iff_denotes (hps p hp) path
  refine ⟨_, selects_texts included excluded allowIgnore path, ?_⟩
  rw [Bool.and_eq_true, Bool.not_eq_true', ← Bool.not_eq_true, hany included hincluded,
    hany excluded hexcluded]

/-- **What settings select.** If no bracket opens in any pattern, a path is selected if
some included pattern denotes it and no excluded one does.  So it does not matter in
which order or how often patterns are given, or how many stars there are in a row. -/
theorem Settings.selects_iff_denotes {included excluded : List String}
    (hincluded : ∀ p ∈ included, '[' ∉ p.toList)
    (hexcluded : ∀ p ∈ excluded, '[' ∉ p.toList) (allowIgnore : Value) (path : String) :
    (∃ chosen, (ofPatterns included excluded allowIgnore).selects path = .ok chosen ∧
      (chosen = true ↔ (∃ p ∈ included, Denotes p path) ∧ ¬ ∃ p ∈ excluded,
        Denotes p path)) ∧
    ∀ included' excluded' : List String, SamePatterns included included' →
      SamePatterns excluded excluded' →
      (ofPatterns included' excluded' allowIgnore).selects path =
        (ofPatterns included excluded allowIgnore).selects path := by
  refine ⟨selects_eq_ok_iff hincluded hexcluded allowIgnore path,
    fun included' excluded' hin hex => ?_⟩
  obtain ⟨chosen, hchosen, hiff⟩ := selects_eq_ok_iff hincluded hexcluded allowIgnore path
  obtain ⟨chosen', hchosen', hiff'⟩ :=
    selects_eq_ok_iff (hin.not_mem hincluded) (hex.not_mem hexcluded) allowIgnore path
  -- the other patterns denote the same paths, so the answer is the same
  have hsame : chosen' = chosen := by
    rw [Bool.eq_iff_iff, hiff, hiff']
    apply and_congr
    · exact ⟨hin.symm.exists_denotes, hin.exists_denotes⟩
    · exact not_congr ⟨hex.symm.exists_denotes, hex.exists_denotes⟩
  rw [hchosen, hchosen', hsame]

/-- A path with a line break is selected, and still is when patterns change their
places, come again or lose stars. -/
theorem Settings.selects_iff_denotes_stars :
    (ofPatterns ["x", "src/**?.py"] ["**.p", "SRC*"] .null).selects "src/a\n/b.py" =
      .ok true ∧
      (ofPatterns ["src/*?.py", "x", "src/***?.py"] ["SRC**", "*.p"] .null).selects
        "src/a\n/b.py" = .ok true := by
  have hincluded : ∀ p ∈ ["x", "src/**?.py"], '[' ∉ p.toList := by decide +kernel
  have hexcluded : ∀ p ∈ ["**.p", "SRC*"], '[' ∉ p.toList := by decide +kernel
  -- the lists differ in order, in repetitions and in the number of stars
  have hin : SamePatterns ["x", "src/**?.py"] ["src/*?.py", "x", "src/***?.py"] := by
    have hleft : ["x", "src/**?.py"].map collapsed = ["x", "src/*?.py"] := by
      decide +kernel
    have hright : ["src/*?.py", "x", "src/***?.py"].map collapsed =
      ["src/*?.py", "x", "src/*?.py"] := by decide +kernel
    intro p
    rw [hleft, hright]
    simp only [List.mem_cons, List.not_mem_nil]
    tauto
  have hex : SamePatterns ["**.p", "SRC*"] ["SRC**", "*.p"] := by
    have hleft : ["**.p", "SRC*"].map collapsed = ["*.p", "SRC*"] := by decide +kernel
    have hright : ["SRC**", "*.p"].map collapsed = ["SRC*", "*.p"] := by decide +kernel
    intro p
    rw [hleft, hright]
    simp only [List.mem_cons, List.not_mem_nil]
    tauto
  obtain ⟨⟨chosen, hchosen, hiff⟩, hsame⟩ :=
    selects_iff_denotes hincluded hexcluded .null "src/a\n/b.py"
  have hdenotes : Denotes "src/**?.py" "src/a\n/b.py" :=
    (matches_iff_denotes (by decide +kernel) _).mp (by decide +kernel)
  -- of the excluded patterns, one ends too early and one has the wrong letters
  have hnone : ¬ ∃ p ∈ ["**.p", "SRC*"], Denotes p "src/a\n/b.py" := by
    rintro ⟨p, hp, hdenotes⟩
    have hmatches := (matches_iff_denotes (hexcluded p hp) _).mpr hdenotes
    have hall : ∀ p ∈ ["**.p", "SRC*"], (Pattern.ofText p).matches "src/a\n/b.py" =
      false := by decide +kernel
    rw [hall p hp] at hmatches
    cases hmatches
  rw [hsame _ _ hin hex, hchosen, hiff.mpr ⟨⟨_, by simp, hdenotes⟩, hnone⟩]
  exact ⟨rfl, rfl⟩

end RuleLint
