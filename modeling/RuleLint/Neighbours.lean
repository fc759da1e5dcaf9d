/-
RuleLint/Neighbours.lean

Dropping what comes twice from a list in order: there, what is equal stands side by side.
-/

namespace RuleLint

/-- Drops what equals its neighbour. -/
def dropNeighbours {α : Type} [DecidableEq α] : List α → List α
  | a :: b :: rest =>
      if a = b then dropNeighbours (b :: rest) else a :: dropNeighbours (b :: rest)
  | as => as

variable {α : Type} [DecidableEq α] {as : List α}

theorem mem_dropNeighbours {a : α} : a ∈ dropNeighbours as ↔ a ∈ as := by
  fun_induction dropNeighbours as with
  | case1 b rest ih =>
      rw [ih]
      simp
  | case2 a b rest hne ih => rw [List.mem_cons, ih, List.mem_cons (b := a)]
  | case3 as has => exact Iff.rfl

/-- In order nothing is left twice, also not at a distance. -/
theorem dropNeighbours_pairwise {r : α → α → Prop} (hr : ∀ a b, r a b → r b a → a = b)
    (h : as.Pairwise r) :
    (dropNeighbours as).Pairwise fun a b => r a b ∧ a ≠ b := by
  fun_induction dropNeighbours as with
  | case1 b rest ih => exact ih (List.pairwise_cons.mp h).2
  | case2 a b rest hne ih =>
      obtain ⟨hfirst, h⟩ := List.pairwise_cons.mp h
      refine List.pairwise_cons.mpr ⟨fun c hc => ?_, ih h⟩
      have hc := mem_dropNeighbours.mp hc
      refine ⟨hfirst c hc, ?_⟩
      rintro rfl
      -- what comes again stands behind its neighbour, which is then equal to it
      rcases List.mem_cons.mp hc with hab | hc
      · exact hne hab
      · exact hne (hr _ _ (hfirst b List.mem_cons_self)
          ((List.pairwise_cons.mp h).1 _ hc))
  | case3 as has =>
      rcases as with - | ⟨a, - | ⟨b, rest⟩⟩
      · exact List.Pairwise.nil
      · exact List.pairwise_singleton _ a
      · exact absurd rfl (has a b rest)

end RuleLint
