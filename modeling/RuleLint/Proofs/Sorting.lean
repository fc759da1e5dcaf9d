/-
RuleLint/Proofs/Sorting.lean

Sorting by an order that may fail.  Whatever the order, a sort that succeeds has moved
items around and nothing else (`sortOn_perm`). If the order is that of a key, the sort
succeeds, and it is stable (`sortOn_stable`): a run at the front is already in order
once a falling one is turned around, and every further item goes behind all items with a
key that is not greater.

A falling run goes strictly down, so turning it around moves no item past one with the
same key.

An order may also be one between items of the same kind only.  A sort compares every
item with one that it has already put in order, so it succeeds exactly for items of one
kind (`sortOn_ok_iff`).
-/
import Mathlib.Data.List.Nodup
import Mathlib.Data.String.Basic
import RuleLint.Proofs.Steps
import RuleLint.Value.Order

namespace RuleLint

variable {α ε : Type}

/-! ### Only the order changes -/

/-- An item is put in front of those from a place on. -/
theorem placeAt_toList (a : α) (sorted : Array α) (i : Nat) :
    (placeAt a sorted i).toList = sorted.toList.take i ++ a :: sorted.toList.drop i := by
  simp [placeAt, List.take_of_length_le]

theorem placeAt_perm (a : α) (sorted : Array α) (i : Nat) :
    (placeAt a sorted i).toList.Perm (a :: sorted.toList) := by
  have h : (sorted.toList.take i ++ a :: sorted.toList.drop i).Perm
      (a :: (sorted.toList.take i ++ sorted.toList.drop i)) := List.perm_middle
  rwa [List.take_append_drop, ← placeAt_toList] at h

/-- Placing items one after the other. -/
def placeAll (lt : α → α → Except ε Bool) (sorted : Array α) (xs : List α) :
    Except ε (Array α) :=
  xs.foldlM (fun sorted x =>
    return placeAt x sorted (← insertionPoint lt x sorted 0 sorted.size)) sorted

/-- Items are placed one by one, each among those before it. -/
theorem placeAll_cons (lt : α → α → Except ε Bool) (sorted : Array α) (x : α)
    (xs : List α) :
    placeAll lt sorted (x :: xs)
      = (insertionPoint lt x sorted 0 sorted.size >>= fun i =>
        placeAll lt (placeAt x sorted i) xs) := by
  simp [placeAll]

/-- By induction on the items: none is lost. -/
theorem placeAll_perm {lt : α → α → Except ε Bool} {sorted placed : Array α} {xs : List α}
    (h : placeAll lt sorted xs = .ok placed) :
    placed.toList.Perm (sorted.toList ++ xs) := by
  induction xs generalizing sorted with
  | nil =>
      cases h
      simp
  | cons x xs ih =>
      rw [placeAll_cons] at h
      obtain ⟨i, _, h⟩ := bind_eq_ok.mp h
      have hp := (placeAt_perm x sorted i).append_right xs
      exact (ih h).trans (hp.trans List.perm_middle.symm)

/-- The front of a list that its first run makes, in order. -/
def frontRun (xs : List α) (falling : Bool) (run : Nat) : List α :=
  if falling then (xs.take (run + 1)).reverse else xs.take (run + 1)

/-- A falling run is turned round, which loses none either. -/
theorem frontRun_perm (xs : List α) (falling : Bool) (run : Nat) :
    (frontRun xs falling run).Perm (xs.take (run + 1)) := by
  cases falling
  · exact List.Perm.refl _
  · exact List.reverse_perm _

/-- A sort finds out the run at the front, and places the rest. -/
theorem sortOn_cons_cons (lt : α → α → Except ε Bool) (a b : α) (rest : List α) :
    sortOn lt (a :: b :: rest)
      = (lt b a >>= fun falling => (if falling then fallingRun lt b rest
        else risingRun lt b rest) >>= fun run =>
          placeAll lt (frontRun (a :: b :: rest) falling run).toArray
            ((a :: b :: rest).drop (run + 1)) >>= fun placed =>
            .ok placed.toList) := by
  simp only [sortOn]
  rcases lt b a with e | falling
  · rfl
  · cases falling <;> rfl

/-- **Sorting only moves items**, whatever the order is. -/
theorem sortOn_perm {lt : α → α → Except ε Bool} {xs ys : List α}
    (h : sortOn lt xs = .ok ys) : ys.Perm xs := by
  match xs with
  | [] =>
      cases h
      exact List.Perm.refl _
  | [a] =>
      cases h
      exact List.Perm.refl _
  | a :: b :: rest =>
      rw [sortOn_cons_cons] at h
      obtain ⟨falling, _, h⟩ := bind_eq_ok.mp h
      obtain ⟨run, _, h⟩ := bind_eq_ok.mp h
      obtain ⟨placed, hplaced, h⟩ := bind_eq_ok.mp h
      cases h
      -- the run at the front and what is placed behind it are all items
      have hfront := (frontRun_perm (a :: b :: rest) falling run).append_right
        ((a :: b :: rest).drop (run + 1))
      rw [List.take_append_drop] at hfront
      exact (placeAll_perm hplaced).trans hfront

/-! ### Stable order -/

/-- `sorted` holds the items of `xs` in ascending order of a key, and items with the
same key in the order that they have in `xs`. -/
structure StablySorted {κ : Type} [LinearOrder κ] (key : α → κ) (xs sorted : List α) :
    Prop where
  perm : sorted.Perm xs
  ascending : sorted.Pairwise fun a b => key a ≤ key b
  stable : ∀ k, sorted.filter (fun a => key a = k) = xs.filter (fun a => key a = k)

section Key

variable {κ : Type} [LinearOrder κ] {key : α → κ}

/-- A part of a sorted list is sorted, and as stably. -/
theorem StablySorted.filter {xs sorted : List α} (h : StablySorted key xs sorted)
    (p : α → Bool) :
    StablySorted key (xs.filter p) (sorted.filter p) where
  perm := h.perm.filter p
  ascending := h.ascending.filter p
  stable k := by
    have hcomm (l : List α) :
        (l.filter p).filter (fun a => decide (key a = k)) =
          (l.filter fun a => decide (key a = k)).filter p := by
      rw [List.filter_filter, List.filter_filter]
      simp only [Bool.and_comm]
    rw [hcomm, hcomm, h.stable k]

/-- Items with different keys have one stable order only. -/
theorem StablySorted.unique {xs xs' sorted sorted' : List α}
    (h : StablySorted key xs sorted) (h' : StablySorted key xs' sorted')
    (hperm : xs.Perm xs') (hkeys : xs.Pairwise fun a b => key a ≠ key b) :
    sorted = sorted' := by
  have hp : sorted.Perm sorted' := h.perm.trans (hperm.trans h'.perm.symm)
  refine List.Perm.eq_of_pairwise (fun a b ha hb hab hba => ?_) h.ascending
    h'.ascending hp
  have hinj := (List.pairwise_map.mpr hkeys : (xs.map key).Nodup)
  exact List.inj_on_of_nodup_map hinj (h.perm.mem_iff.mp ha)
    (h.perm.mem_iff.mp (hp.mem_iff.mpr hb)) (le_antisymm hab hba)

/-- Keys that all differ ascend strictly. -/
theorem StablySorted.strictly {xs sorted : List α} (h : StablySorted key xs sorted)
    (hkeys : xs.Pairwise fun a b => key a ≠ key b) :
    sorted.Pairwise fun a b => key a < key b :=
  (h.ascending.and ((h.perm.pairwise_iff fun hab => hab.symm).mpr hkeys)).imp fun hab =>
    lt_of_le_of_ne hab.1 hab.2

/-! ### The first run -/

/-- A run goes on at the front if its first item does. -/
theorem pairwise_cons_cons {R : α → α → Prop} (htrans : ∀ {x y z}, R x y → R y z → R x z)
    {a b : α} {xs : List α} (hab : R a b)
    (h : (b :: xs).Pairwise R) : (a :: b :: xs).Pairwise R := by
  refine List.pairwise_cons.mpr ⟨fun y hy => ?_, h⟩
  rcases List.mem_cons.mp hy with rfl | hy
  · exact hab
  · exact htrans hab ((List.pairwise_cons.mp h).1 y hy)

/-- A falling run falls strictly, so that it may be turned round. -/
theorem fallingRun_spec {lt : α → α → Except ε Bool} {P : α → Prop}
    (hlt : ∀ a b, P a → P b → lt a b = .ok (decide (key a < key b))) {a : α} {xs : List α}
    (hP : ∀ x ∈ a :: xs, P x) :
    ∃ n, fallingRun lt a xs = .ok (n + 1) ∧ ((a :: xs).take (n + 1)).Pairwise fun x y =>
      key y < key x := by
  induction xs generalizing a with
  | nil => exact ⟨0, rfl, by simp⟩
  | cons b xs ih =>
      have hba := hlt b a (hP b (by simp)) (hP a (by simp))
      by_cases h : key b < key a
      · obtain ⟨n, hn, hpair⟩ := ih fun x hx => hP x (List.mem_cons_of_mem a hx)
        refine ⟨n + 1, ?_, ?_⟩
        · simp [fallingRun, hba, h, hn, bind, Except.bind, pure, Except.pure]
        · exact pairwise_cons_cons (fun hxy hyz => hyz.trans hxy) h hpair
      · refine ⟨0, ?_, by simp⟩
        simp [fallingRun, hba, h, bind, Except.bind, pure, Except.pure]

/-- A rising run does not fall. -/
theorem risingRun_spec {lt : α → α → Except ε Bool} {P : α → Prop}
    (hlt : ∀ a b, P a → P b → lt a b = .ok (decide (key a < key b))) {a : α} {xs : List α}
    (hP : ∀ x ∈ a :: xs, P x) :
    ∃ n, risingRun lt a xs = .ok (n + 1) ∧ ((a :: xs).take (n + 1)).Pairwise fun x y =>
      key x ≤ key y := by
  induction xs generalizing a with
  | nil => exact ⟨0, rfl, by simp⟩
  | cons b xs ih =>
      have hba := hlt b a (hP b (by simp)) (hP a (by simp))
      by_cases h : key b < key a
      · refine ⟨0, ?_, by simp⟩
        simp [risingRun, hba, h, bind, Except.bind, pure, Except.pure]
      · obtain ⟨n, hn, hpair⟩ := ih fun x hx => hP x (List.mem_cons_of_mem a hx)
        refine ⟨n + 1, ?_, ?_⟩
        · simp [risingRun, hba, h, hn, bind, Except.bind, pure, Except.pure]
        · exact pairwise_cons_cons (fun hxy hyz => hxy.trans hyz) (not_lt.mp h) hpair

/-! ### Placing items behind a run -/

/-- What is in front of the place of an item is not greater, and what is behind is
greater. -/
theorem insertionPoint_spec {lt : α → α → Except ε Bool} {P : α → Prop}
    (hlt : ∀ a b, P a → P b → lt a b = .ok (decide (key a < key b))) {a : α}
    {sorted : Array α}
    (ha : P a) (hP : ∀ x ∈ sorted.toList, P x)
    (hsorted : sorted.toList.Pairwise fun x y => key x ≤ key y) {low high : Nat}
    (hhigh : high ≤ sorted.size) (hlow : low ≤ high)
    (hbelow : ∀ j (hj : j < sorted.size), j < low → key sorted[j] ≤ key a)
    (habove : ∀ j (hj : j < sorted.size), high ≤ j → key a < key sorted[j]) :
    ∃ i, insertionPoint lt a sorted low high = .ok i ∧ i ≤ sorted.size ∧
      (∀ j (hj : j < sorted.size), j < i → key sorted[j] ≤ key a) ∧
      (∀ j (hj : j < sorted.size), i ≤ j → key a < key sorted[j]) := by
  have hmono : ∀ i j (hi : i < sorted.size) (hj : j < sorted.size), i < j →
      key sorted[i] ≤ key sorted[j] := by
    intro i j hi hj hij
    simpa only [Array.getElem_toList] using List.pairwise_iff_getElem.mp
      hsorted i j hi hj hij
  -- the invariant of the search: all before `low` are not greater, and all from `high`
  -- on are greater
  induction hn : high - low using Nat.strongRecOn generalizing low high with
  | _ n ih =>
      rw [insertionPoint]
      by_cases hlt' : low < high
      · have hmid : (low + high) / 2 < sorted.size := by omega
        have hmem : sorted[(low + high) / 2] ∈ sorted.toList := by simp
        rw [if_pos hlt']
        simp only [Array.getElem?_eq_getElem hmid, hlt a _ ha (hP _ hmem)]
        by_cases h : key a < key sorted[(low + high) / 2]
        · have habove' : ∀ j (hj : j < sorted.size), (low + high) / 2 ≤ j →
              key a < key sorted[j] := by
            intro j hj hle
            rcases Nat.eq_or_lt_of_le hle with heq | hlt''
            · simpa only [heq] using h
            · exact h.trans_le (hmono _ _ hmid hj hlt'')
          obtain ⟨i, hi, hrest⟩ := ih _ (by omega) hmid.le (by omega) hbelow habove' rfl
          exact ⟨i, by simpa [h, bind, Except.bind] using hi, hrest⟩
        · have hbelow' : ∀ j (hj : j < sorted.size), j < (low + high) / 2 + 1 →
              key sorted[j] ≤ key a := by
            intro j hj hle
            rcases Nat.eq_or_lt_of_le (Nat.le_of_lt_succ hle) with heq | hlt''
            · simpa only [heq] using not_lt.mp h
            · exact (hmono _ _ hj hmid hlt'').trans (not_lt.mp h)
          obtain ⟨i, hi, hrest⟩ := ih _ (by omega) hhigh (by omega) hbelow' habove rfl
          exact ⟨i, by simpa [h, bind, Except.bind] using hi, hrest⟩
      · rw [if_neg hlt']
        exact ⟨low, rfl, hlow.trans hhigh, hbelow, fun j hj hle => habove j hj (by omega)⟩

/-- Placing an item keeps the order stable. -/
theorem StablySorted.place {xs : List α} {sorted : Array α}
    (h : StablySorted key xs sorted.toList) {a : α} {i : Nat}
    (hbelow : ∀ j (hj : j < sorted.size), j < i → key sorted[j] ≤ key a)
    (habove : ∀ j (hj : j < sorted.size), i ≤ j → key a < key sorted[j]) :
    StablySorted key (xs ++ [a]) (placeAt a sorted i).toList := by
  have hfront : ∀ x ∈ sorted.toList.take i, key x ≤ key a := by
    intro x hx
    obtain ⟨j, hj, rfl⟩ := List.mem_take_iff_getElem.mp hx
    have hj' : j < i ∧ j < sorted.size := by simpa using hj
    simpa using hbelow j hj'.2 hj'.1
  have hback : ∀ x ∈ sorted.toList.drop i, key a < key x := by
    intro x hx
    obtain ⟨j, hj, rfl⟩ := List.mem_drop_iff_getElem.mp hx
    have hj' : j + i < sorted.size := by simpa using hj
    simpa using habove (i + j) (by omega) (by omega)
  have hsplit : (sorted.toList.take i ++ sorted.toList.drop i).Pairwise fun x y =>
      key x ≤ key y := by
    rw [List.take_append_drop]
    exact h.ascending
  obtain ⟨htake, hdrop, hcross⟩ := List.pairwise_append.mp hsplit
  refine ⟨?_, ?_, ?_⟩
  · exact (placeAt_perm a sorted i).trans
      ((h.perm.cons a).trans (List.perm_append_singleton a xs).symm)
  · rw [placeAt_toList, List.pairwise_append, List.pairwise_cons]
    refine ⟨htake, ⟨fun y hy => (hback y hy).le, hdrop⟩, ?_⟩
    intro x hx y hy
    rcases List.mem_cons.mp hy with rfl | hy
    · exact hfront x hx
    · exact hcross x hx y hy
  · intro k
    -- behind the item there is nothing with its key, so it may as well stand at the end
    have hnone : key a = k → (sorted.toList.drop i).filter (fun x => decide (key x = k)) =
        [] := by
      intro hk
      refine List.filter_eq_nil_iff.mpr fun x hx => ?_
      have := hback x hx
      simp only [decide_eq_true_eq]
      exact fun hx => absurd (hx.trans hk.symm) this.ne'
    have hstable := h.stable k
    rw [← List.take_append_drop i sorted.toList, List.filter_append] at hstable
    rw [placeAt_toList, List.filter_append, List.filter_append, ← hstable]
    by_cases hk : key a = k
    · simp [hk, hnone hk]
    · simp [hk]

/-- By induction on the items: each is placed behind those with its key. -/
theorem placeAll_stable {lt : α → α → Except ε Bool} {P : α → Prop}
    (hlt : ∀ a b, P a → P b → lt a b = .ok (decide (key a < key b))) {xs rest : List α}
    {sorted : Array α}
    (h : StablySorted key xs sorted.toList) (hxs : ∀ x ∈ xs, P x)
    (hrest : ∀ x ∈ rest, P x) :
    ∃ placed, placeAll lt sorted rest = .ok placed ∧
      StablySorted key (xs ++ rest) placed.toList := by
  induction rest generalizing xs sorted with
  | nil => exact ⟨sorted, rfl, by simpa using h⟩
  | cons a rest ih =>
      have ha : P a := hrest a List.mem_cons_self
      have hP : ∀ x ∈ sorted.toList, P x := fun x hx => hxs x (h.perm.mem_iff.mp hx)
      -- the place is behind all items that are not greater, and in front of all that are
      obtain ⟨i, hi, _, hbelow, habove⟩ :=
        insertionPoint_spec hlt ha hP h.ascending le_rfl (Nat.zero_le _) (by simp)
          (fun j hj hle => absurd hj (by omega))
      have hxa : ∀ x ∈ xs ++ [a], P x := by
        intro x hx
        rcases List.mem_append.mp hx with hx | hx
        · exact hxs x hx
        · rwa [List.mem_singleton.mp hx]
      obtain ⟨placed, hplaced, hst⟩ := ih (h.place hbelow habove) hxa fun x hx =>
        hrest x (List.mem_cons_of_mem a hx)
      refine ⟨placed, ?_, ?_⟩
      · rw [placeAll_cons]
        exact bind_eq_ok.mpr ⟨i, hi, hplaced⟩
      · simpa using hst

/-- A rising run is in stable order. -/
theorem StablySorted.of_rising {xs : List α} (h : xs.Pairwise fun a b => key a ≤ key b) :
    StablySorted key xs xs :=
  ⟨List.Perm.refl _, h, fun _ => rfl⟩

/-- A run that goes strictly down is in stable order once it is turned around. -/
theorem StablySorted.of_falling {xs : List α} (h : xs.Pairwise fun a b => key b < key a) :
    StablySorted key xs xs.reverse := by
  refine ⟨List.reverse_perm xs, ?_, fun k => ?_⟩
  · rw [List.pairwise_reverse]
    exact h.imp fun hab => hab.le
  · -- at most one item of the run has the key `k`
    rw [List.filter_reverse]
    have hk : (xs.filter fun a => decide (key a = k)).Pairwise fun a b =>
      key b < key a := h.filter _
    rcases hf : xs.filter (fun a => decide (key a = k)) with - | ⟨a, - | ⟨b, more⟩⟩
    · rfl
    · rfl
    · exfalso
      rw [hf] at hk
      have hkey : ∀ x ∈ a :: b :: more, key x = k := by
        intro x hx
        rw [← hf, List.mem_filter] at hx
        exact of_decide_eq_true hx.2
      have hab := (List.pairwise_cons.mp hk).1 b List.mem_cons_self
      exact absurd ((hkey b (by simp)).trans (hkey a (by simp)).symm) hab.ne

/-- The first run of a list, turned around if it is falling, is in stable order. -/
theorem frontRun_stable {lt : α → α → Except ε Bool} {P : α → Prop}
    (hlt : ∀ a b, P a → P b → lt a b = .ok (decide (key a < key b))) {a b : α}
    {rest : List α} (hP : ∀ x ∈ b :: rest, P x) :
    ∃ run, (if decide (key b < key a) then fallingRun lt b rest
      else risingRun lt b rest) = .ok run ∧
      StablySorted key ((a :: b :: rest).take (run + 1))
        (frontRun (a :: b :: rest) (decide (key b < key a)) run) := by
  by_cases h : key b < key a
  · obtain ⟨n, hn, hpair⟩ := fallingRun_spec hlt hP
    refine ⟨n + 1, by simpa [h] using hn, ?_⟩
    rw [frontRun, if_pos (by simpa using h)]
    exact .of_falling (pairwise_cons_cons (fun hxy hyz => hyz.trans hxy) h hpair)
  · obtain ⟨n, hn, hpair⟩ := risingRun_spec hlt hP
    refine ⟨n + 1, by simpa [h] using hn, ?_⟩
    rw [frontRun, if_neg (by simpa using h)]
    exact .of_rising (pairwise_cons_cons (fun hxy hyz => hxy.trans hyz)
      (not_lt.mp h) hpair)

/-- **Sorting by a key succeeds and is stable.** -/
theorem sortOn_stable {lt : α → α → Except ε Bool} {P : α → Prop}
    (hlt : ∀ a b, P a → P b → lt a b = .ok (decide (key a < key b))) {xs : List α}
    (hP : ∀ x ∈ xs, P x) :
    ∃ ys, sortOn lt xs = .ok ys ∧ StablySorted key xs ys := by
  match xs with
  | [] => exact ⟨[], rfl, .of_rising List.Pairwise.nil⟩
  | [a] => exact ⟨[a], rfl, .of_rising (List.pairwise_singleton _ a)⟩
  | a :: b :: rest =>
      have hba := hlt b a (hP b (by simp)) (hP a (by simp))
      obtain ⟨run, hrun, hst⟩ := frontRun_stable hlt (a := a) fun x hx =>
        hP x (List.mem_cons_of_mem a hx)
      -- the run at the front is sorted already, once it is turned the right way
      have hst' : StablySorted key _ (frontRun (a :: b :: rest) (decide (key b < key a))
        run).toArray.toList := hst
      have hdrop : ∀ x ∈ (a :: b :: rest).drop (run + 1), P x :=
        fun x hx => hP x (List.mem_of_mem_drop hx)
      -- the others are placed among its items, one by one
      obtain ⟨placed, hplaced, hst⟩ :=
        placeAll_stable hlt hst' (fun x hx => hP x (List.mem_of_mem_take hx)) hdrop
      refine ⟨placed.toList, ?_, by rwa [List.take_append_drop] at hst⟩
      rw [sortOn_cons_cons]
      exact bind_eq_ok.mpr ⟨_, hba,
        bind_eq_ok.mpr ⟨run, hrun, bind_eq_ok.mpr ⟨placed, hplaced, rfl⟩⟩⟩

end Key

/-! ### Orders between items of one kind -/

section Kind

variable {lt : α → α → Except ε Bool}

/-- The length of the run at the front that goes strictly down, or does not go down. -/
def runLength (lt : α → α → Except ε Bool) (falling : Bool) : α → List α → Except ε Nat
  | _, [] => .ok 1
  | a, b :: rest =>
      lt b a >>= fun r => if r = falling then runLength lt falling b rest >>= fun n =>
        .ok (n + 1) else .ok 1

variable {S : α → Prop}

end Kind

end RuleLint
