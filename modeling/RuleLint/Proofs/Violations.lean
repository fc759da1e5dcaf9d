/-
RuleLint/Proofs/Violations.lean

The violations in the files of a project.

Files are taken in order of their paths and rules in order of their names, so the way in
which either are listed cannot show: `violations_eq_of_perm`, faults included.  The
argument is that a list of paths has one ascending order, and that rules with different
names have one stable order, so both runs take the same steps from the start.
-/
import RuleLint.Project.Violations
import RuleLint.Proofs.Findings

namespace RuleLint

/-! ### Files in order -/

namespace Project

theorem inPathOrder_perm (paths : List String) : (inPathOrder paths).Perm paths :=
  List.mergeSort_perm paths _

theorem inPathOrder_pairwise (paths : List String) :
    (inPathOrder paths).Pairwise (· ≤ ·) := by
  have htrans : ∀ a b c : String, decide (a ≤ b) = true → decide (b ≤ c) = true →
      decide (a ≤ c) = true := by
    intro a b c hab hbc
    exact decide_eq_true ((of_decide_eq_true hab).trans (of_decide_eq_true hbc))
  have htotal : ∀ a b : String, (decide (a ≤ b) || decide (b ≤ a)) = true := by
    intro a b
    rcases le_total a b with h | h
    · simp only [decide_eq_true h, Bool.true_or]
    · simp only [decide_eq_true h, Bool.or_true]
  exact (List.pairwise_mergeSort htrans htotal paths).imp fun h => of_decide_eq_true h

/-- A collection of paths has one ascending order. -/
theorem inPathOrder_eq_of_perm {paths paths' : List String} (h : paths.Perm paths') :
    inPathOrder paths = inPathOrder paths' := by
  have hperm := (inPathOrder_perm paths).trans (h.trans (inPathOrder_perm paths').symm)
  exact List.Perm.eq_of_pairwise (fun a b _ _ hab hba => le_antisymm hab hba)
    (inPathOrder_pairwise paths)
    (inPathOrder_pairwise paths') hperm

end Project

/-! ### Rules in order -/

section Rules

variable [Host]

/-- What is prepared does not depend on the order of rules that have different names. -/
theorem Lint.prepare_eq_of_perm {rules rules' : List Rule} (h : rules.Perm rules')
    (hnames : ∀ r ∈ rules, ∃ t, r.name = .text t)
    (hdifferent : rules.Pairwise fun a b => a.name ≠ b.name)
    (hpatterns : ∀ r ∈ rules, r.settings.HasPatterns) (path text : String) :
    prepare path text rules = prepare path text rules' := by
  have hchosen : selected path rules = .ok (rules.filter (Rule.isFor path)) :=
    selected_eq_ok.mpr ⟨rfl, fun r hr => (hpatterns r hr).selects_ok path⟩
  have hchosen' : selected path rules' = .ok (rules'.filter (Rule.isFor path)) :=
    selected_eq_ok.mpr ⟨rfl, fun r hr => (hpatterns r (h.mem_iff.mpr hr)).selects_ok path⟩
  have hperm : (rules.filter (Rule.isFor path)).Perm (rules'.filter (Rule.isFor path)) :=
    h.filter _
  have hnamed : ∀ r ∈ rules.filter (Rule.isFor path), ∃ t, r.name = .text t :=
    fun r hr => hnames r (List.mem_of_mem_filter hr)
  obtain ⟨ordered, hordered, hst⟩ := byName_stable hnamed
  obtain ⟨ordered', hordered', hst'⟩ := byName_stable fun r hr =>
    hnamed r (hperm.mem_iff.mpr hr)
  -- texts that are different names are different keys
  have hkeys : (rules.filter (Rule.isFor path)).Pairwise fun a b =>
      a.nameText ≠ b.nameText := by
    refine (hdifferent.filter _).imp_of_mem fun {a b} ha hb hne heq => hne ?_
    rw [Rule.name_eq_nameText (hnamed a ha), Rule.name_eq_nameText (hnamed b hb), heq]
  have hsame : ordered = ordered' := hst.unique hst' hperm hkeys
  have hempty : (rules.filter (Rule.isFor path)).isEmpty =
      (rules'.filter (Rule.isFor path)).isEmpty := by
    rw [Bool.eq_iff_iff, List.isEmpty_iff, List.isEmpty_iff]
    exact ⟨fun hnil => (hnil ▸ hperm).nil_eq.symm, fun hnil => (hnil ▸ hperm).eq_nil⟩
  rw [prepare_eq_of_order hchosen hordered, prepare_eq_of_order hchosen' hordered',
    hempty, hsame]

namespace Project

/-- A search for which every file is prepared in the same way takes the same steps in all,
and functions leave the same to later files. -/
theorem violationsFrom_congr {rules rules' : List Rule}
    (h : ∀ path text, Lint.prepare path text rules = Lint.prepare path text rules')
    (fs : Files)
    (paths : List String) :
    violationsFrom fs rules paths = violationsFrom fs rules' paths := by
  have hin : ∀ path text, violationsIn rules path text =
      violationsIn rules' path text := by
    intro path text
    rw [violationsIn, violationsIn, Lint.file, Lint.file, h]
  have hleft : ∀ fs path text, Files.leftBy fs rules path text =
      fs.leftBy rules' path text := by
    intro fs path text
    rw [Files.leftBy, Files.leftBy, Lint.leftBy, Lint.leftBy, h]
  induction paths generalizing fs with
  | nil => rfl
  | cons path rest ih => simp only [violationsFrom, hin, hleft, ih]

/-- **Violations do not depend on how files and rules are listed.** The same violations
come in the same order, and if something ends the search, the same thing ends it behind
the same violations. -/
theorem violations_eq_of_perm {fs : Files} {paths paths' : List String}
    {rules rules' : List Rule} (hpaths : paths.Perm paths')
    (hrules : rules.Perm rules') (hnames : ∀ r ∈ rules, ∃ t, r.name = .text t)
    (hdifferent : rules.Pairwise fun a b => a.name ≠ b.name)
    (hpatterns : ∀ r ∈ rules, r.settings.HasPatterns) :
    violations fs paths rules = violations fs paths' rules' := by
  rw [violations, violations, inPathOrder_eq_of_perm hpaths]
  exact violationsFrom_congr (Lint.prepare_eq_of_perm hrules hnames hdifferent hpatterns)
    fs _

end Project

end Rules

/-! ### What is left of the files -/

/-- Whether a rule calls nothing that changes files. -/
def Rule.KeepsFiles (rule : Rule) : Prop :=
  ∀ c, rule.expr.call? = some c → ∀ text tree, c.leave text tree = tree

/-- Only a call can change files. -/
theorem Rule.keepsFiles_of_call? {rule : Rule} (h : rule.expr.call? = none) :
    rule.KeepsFiles := by
  intro c hc
  cases h.symm.trans hc

theorem Lint.leftByRule_eq {rule : Rule} (h : rule.KeepsFiles) (text : String)
    (tree : Project.Item) : leftByRule text rule tree = tree := by
  rw [leftByRule]
  rcases hcall : rule.expr.call? with - | c
  · rfl
  · exact h c hcall text tree

section Left

variable [Host]

theorem Lint.leftByAll_eq (s : Subject) {rules : List Rule}
    (h : ∀ r ∈ rules, r.KeepsFiles)
    (tree : Project.Item) : leftByAll s rules tree = tree := by
  induction rules with
  | nil => rfl
  | cons rule rest ih =>
      obtain ⟨hrule, hrest⟩ := List.forall_mem_cons.mp h
      rw [leftByAll, leftByRule_eq hrule, ih hrest]
      split <;> rfl

/-- The rules that are run are some of those that are given. -/
theorem Lint.mem_of_prepare {path text : String} {rules ordered : List Rule} {s : Subject}
    (h : prepare path text rules = .ok (some (s, ordered))) {r : Rule}
    (hr : r ∈ ordered) :
    r ∈ rules := by
  obtain ⟨chosen, hchosen, h⟩ := bind_eq_ok.mp h
  obtain ⟨rfl, -⟩ := selected_eq_ok.mp hchosen
  split at h
  · cases h
  obtain ⟨_, -, h⟩ := bind_eq_ok.mp h
  obtain ⟨sorted, hsorted, h⟩ := bind_eq_ok.mp h
  cases h
  rw [byName] at hsorted
  split at hsorted
  · rename_i hsort
    cases hsorted
    exact List.mem_of_mem_filter ((sortOn_perm hsort).mem_iff.mp hr)
  · cases hsorted

theorem Lint.leftBy_eq {rules : List Rule} (h : ∀ r ∈ rules, r.KeepsFiles)
    (path text : String)
    (tree : Project.Item) : leftBy path text rules tree = tree := by
  unfold leftBy
  split
  · rename_i hprepare
    exact leftByAll_eq _ (fun r hr => h r (mem_of_prepare hprepare hr)) tree
  · rfl

namespace Project

theorem Files.leftBy_eq {rules : List Rule} (h : ∀ r ∈ rules, r.KeepsFiles) (fs : Files)
    (path text : String) : fs.leftBy rules path text = fs := by
  rw [Files.leftBy, Lint.leftBy_eq h]

/-- A search with rules that keep the files leaves them as they are. -/
theorem leftFrom_eq {rules : List Rule} (h : ∀ r ∈ rules, r.KeepsFiles)
    (isLast : Violation → Bool) (fs : Files) (paths : List String) :
    leftFrom fs rules isLast paths = fs := by
  induction paths with
  | nil => rfl
  | cons path rest ih =>
      rw [leftFrom]
      split
      · rfl
      · dsimp only
        rw [Files.leftBy_eq h, ih, ite_self]

end Project

end Left

namespace Project

/-- A project in which one of two files is missing. -/
def halfProject : Files :=
  ⟨.directory (.cons "a.py" (.file (Lint.twoComments.toList.map fun c => c.toNat.toUInt8))
    .nil), []⟩

open scoped Standard

theorem violations_eq_of_perm_reverse :
    violations halfProject ["/b.py", "/a.py"] (Lint.mixedRules.eraseIdx 2) =
      violations halfProject ["/a.py", "/b.py"] (Lint.mixedRules.eraseIdx 2).reverse := by
  refine violations_eq_of_perm (List.Perm.swap _ _ _) (List.reverse_perm _).symm ?_ ?_ ?_
  · simp [Lint.mixedRules]
  · simp [Lint.mixedRules]
  · exact fun r hr => Lint.hasPatterns_mixedRules r (List.mem_of_mem_eraseIdx hr)

end Project

end RuleLint
