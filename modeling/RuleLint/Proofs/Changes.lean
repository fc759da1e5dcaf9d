/-
RuleLint/Proofs/Changes.lean

Linting what has been changed.

The files that are linted come from answers with a name in each line.  An answer is
trimmed before it is cut into lines; where no line is empty or has blanks around it,
that takes only the last line break away (`lines_trim`).  A name may come twice, in one
answer or in both, and is taken once (`mem_eachOnce`, `eachOnce_nodup`).

A run on some of the files takes the same steps in each of them as a run on all
(`violationsFrom_filter`), so it finds what the run on all finds in them, in the same
order. The version control system and the functions that rules call may write to the
tree too; what is asked of them is that sources stay as they are (`Answers.KeepSources`,
`Rule.KeepsFiles`).  The point is where the files are: names are looked for from the
directory that one is in, and not from the directory of the project.
`lint_changed_restricts` is about names that lead to sources of the project from there;
`lint_changed_elsewhere` is a run from another directory, which ends at the first name.
-/
import Mathlib.Data.List.TakeWhile
import RuleLint.Proofs.Comments
import RuleLint.Proofs.Report

namespace RuleLint

/-! ### Texts with one field -/

namespace Text

/-- A text without braces. -/
def IsUnbraced (cs : List Char) : Prop :=
  ∀ c ∈ cs, c ≠ '\x7b' ∧ c ≠ '\x7d'

instance (cs : List Char) : Decidable (IsUnbraced cs) :=
  List.decidableBAll _ cs

variable {cs : List Char}

/-- A text without braces is passed whole in the search for one. -/
theorem IsUnbraced.takeWhile_append (h : IsUnbraced cs) (rest : List Char) :
    (cs ++ rest).takeWhile (fun c => c != '\x7b' && c != '\x7d') = cs ++
      rest.takeWhile (fun c => c != '\x7b' && c != '\x7d') := by
  apply List.takeWhile_append_of_pos
  intro c hc
  simp [h c hc]

/-- A text without braces has no fields. -/
theorem putFrom_of_isUnbraced (h : IsUnbraced cs) (arg : List Char) (n depth : Nat)
    (numbering : Numbering) :
    putFrom arg (n + 1) (depth + 1) numbering cs = .ok (cs, numbering) := by
  have hplain : cs.takeWhile (fun c => c != '\x7b' && c != '\x7d') = cs := by
    simpa using h.takeWhile_append []
  rw [putFrom, if_neg (Nat.succ_ne_zero depth)]
  dsimp only
  rw [hplain, List.drop_length]

/-- A field with nothing in it stands for the text as it is. -/
theorem putInFields_of_isUnbraced {front back : String} (hfront : IsUnbraced front.toList)
    (hback : IsUnbraced back.toList)
    (arg : String) : putInFields (front ++ "\x7b\x7d" ++ back) arg =
    .ok (front ++ arg ++ back) := by
  have htext : (front ++ "\x7b\x7d" ++ back).toList = front.toList ++ '\x7b' :: '\x7d' ::
      back.toList := by
    simp
  obtain ⟨n, hn⟩ : ∃ n, (front ++ "\x7b\x7d" ++ back).length = n + 1 := by
    refine ⟨front.toList.length + (back.toList.length + 1), ?_⟩
    rw [← String.length_toList, htext, List.length_append]
    rfl
  have hplain : (front.toList ++ '\x7b' :: '\x7d' :: back.toList).takeWhile (fun c =>
      c != '\x7b' && c != '\x7d') = front.toList := by
    rw [hfront.takeWhile_append]
    simp
  have hput : putFrom arg.toList (n + 2) 2 .undecided (front.toList ++ '\x7b' :: '\x7d' ::
    back.toList) =
      .ok (front.toList ++ arg.toList ++ back.toList, .byOrder 1) := by
    have hfield : cutField ('\x7d' :: back.toList) = .ok (⟨[], none, []⟩, back.toList) :=
      rfl
    have hnamed : namedText .undecided [] arg.toList = .ok (arg.toList, .byOrder 1) := rfl
    have hstyled : styled [] arg.toList = .ok arg.toList := by
      show Except.ok (arg.toList ++ List.replicate (0 - arg.toList.length) ' ') = _
      simp
    have hmore := putFrom_of_isUnbraced hback arg.toList n 1 (.byOrder 1)
    rw [putFrom, if_neg (by decide)]
    dsimp only
    rw [hplain, List.drop_left]
    split
    case h_5 rest _ hrest =>
      cases hrest
      simp only [hfield, hnamed, hstyled, hmore, converted, bind, Except.bind,
        pure, Except.pure]
      rfl
    -- one brace that another kind of brace follows is no other piece
    all_goals simp_all
  rw [putInFields, hn, htext, hput]
  show Except.ok (String.ofList (front.toList ++ arg.toList ++ back.toList)) = _
  rw [← String.toList_append, ← String.toList_append, String.ofList_toList]

/-! ### Lines of a trimmed text -/

/-- A text that is not empty and has no blanks around it. -/
def IsTight (cs : List Char) : Prop :=
  cs ≠ [] ∧ trim cs = cs

instance (cs : List Char) : Decidable (IsTight cs) :=
  inferInstanceAs (Decidable (_ ∧ _))

theorem length_trimStart_le (cs : List Char) : (trimStart cs).length ≤ cs.length :=
  (List.dropWhile_suffix _).length_le

/-- A text that starts with no blank loses nothing in front. -/
theorem IsTight.trimStart_eq (h : IsTight cs) : trimStart cs = cs := by
  refine (List.dropWhile_suffix _).eq_of_length ?_
  have hlength := congrArg List.length h.2
  rw [trim, List.length_reverse] at hlength
  have hinner := length_trimStart_le (trimStart cs).reverse
  rw [List.length_reverse] at hinner
  exact Nat.le_antisymm (length_trimStart_le cs) (hlength ▸ hinner)

theorem IsTight.trimStart_reverse (h : IsTight cs) :
    trimStart cs.reverse = cs.reverse := by
  have htrim := h.2
  rw [trim, h.trimStart_eq] at htrim
  exact List.reverse_eq_iff.mp htrim

/-- Trimming stops at the first character that is no blank. -/
theorem trimStart_append (hne : cs ≠ []) (h : trimStart cs = cs) (rest : List Char) :
    trimStart (cs ++ rest) = cs ++ rest := by
  cases cs with
  | nil => exact absurd rfl hne
  | cons c cs =>
      have hc : isBlank c = false := by
        rw [Bool.eq_false_iff]
        intro hc
        have hlength := length_trimStart_le cs
        rw [trimStart, List.dropWhile_cons_of_pos hc] at h
        rw [trimStart, h] at hlength
        exact Nat.not_succ_le_self _ hlength
      rw [List.cons_append, trimStart, List.dropWhile_cons_of_neg (by simp [hc])]

/-- Line breaks are blanks, so trimming takes them away. -/
theorem isBlank_of_isLineBreak {c : Char} (h : isLineBreak c = true) :
    isBlank c = true := by
  simp only [isLineBreak, Bool.or_eq_true, beq_iff_eq] at h
  rcases h with ((((((((rfl | rfl) | rfl) | rfl) | rfl) | rfl) | rfl) | rfl) | rfl) | rfl
  all_goals rfl

/-- A text is its lines with their ends. -/
theorem eq_of_cutLines {front : List (List Char × List Char)} {text ending : List Char}
    (h : cutLines cs = front ++ [(text, ending)]) :
    cs = glue front ++ text ++ ending := by
  rw [← glue_cutLines cs, h]
  simp [glue]

/-- A text without breaks is one line. -/
theorem cutLines_of_isUnbroken (h : IsUnbroken cs) (hne : cs ≠ []) :
    cutLines cs = [(cs, [])] := by
  induction cs with
  | nil => exact absurd rfl hne
  | cons c cs ih =>
      obtain ⟨hc, hcs⟩ := List.forall_mem_cons.mp h
      rcases eq_or_ne cs [] with rfl | hrest
      · rw [cutLines.eq_3 _ _ (by simp), if_neg (by simp [hc])]
        rfl
      · have hfirst : IsUnbroken [c] := List.forall_mem_singleton.mpr hc
        exact cutLines_append hfirst (ih hcs hrest)

/-- Without the break at its end, the last line is still a line, and those before it are
the same. -/
theorem cutLines_unfinished {front : List (List Char × List Char)}
    {text ending : List Char} (hne : text ≠ [])
    (h : cutLines cs = front ++ [(text, ending)]) :
    cutLines (glue front ++ text) = front ++ [(text, [])] := by
  fun_induction cutLines cs generalizing front text with
  | case1 =>
      simp at h
  | case2 rest ih =>
      -- the last line is not empty, so this break is not the last line
      rcases front with - | ⟨l, front⟩
      · simp [hne.symm] at h
      · obtain ⟨rfl, hrest⟩ := List.cons.inj h
        show cutLines ('\r' :: '\n' :: (glue front ++ text)) = _
        rw [cutLines, ih hne hrest]
        rfl
  | case3 c rest hfeed hc ih =>
      rcases front with - | ⟨l, front⟩
      · simp [hne.symm] at h
      · obtain ⟨rfl, hrest⟩ := List.cons.inj h
        show cutLines (c :: (glue front ++ text)) = _
        rw [cutLines, if_pos hc, ih hne hrest]
        · rfl
        · intro more hr hmore
          apply hfeed (more ++ ending) hr
          rw [eq_of_cutLines hrest, hmore]
          rfl
  | case4 c rest hfeed hc hnil ih =>
      rcases front with - | ⟨l, front⟩
      · cases h
        apply cutLines_of_isUnbroken _ hne
        simpa [IsUnbroken] using hc
      · simp at h
  | case5 c rest hfeed hc shown stop more hmore ih =>
      rcases front with - | ⟨l, front⟩
      · obtain ⟨hl, rfl⟩ := List.cons.inj h
        cases hl
        have hshown : IsUnbroken shown :=
          (breaks_of_cutLines rest _ (hmore ▸ List.mem_cons_self)).1
        apply cutLines_of_isUnbroken _ hne
        exact List.forall_mem_cons.mpr ⟨Bool.eq_false_iff.mpr hc, hshown⟩
      · obtain ⟨rfl, hrest⟩ := List.cons.inj h
        have hcut : cutLines (glue ((shown, stop) :: front) ++ text) = (shown, stop) ::
            front ++ [(text, [])] :=
          ih hne (hmore.trans (congrArg _ hrest))
        have hfirst : IsUnbroken [c] :=
          List.forall_mem_singleton.mpr (Bool.eq_false_iff.mpr hc)
        exact cutLines_append hfirst hcut

/-- Trimming a text whose lines are tight takes the end of its last line away. -/
theorem trim_of_cutLines {front : List (List Char × List Char)} {text ending : List Char}
    (h : cutLines cs = front ++ [(text, ending)])
    (htight : ∀ l ∈ cutLines cs, IsTight l.1) : trim cs = glue front ++ text := by
  have hcs := eq_of_cutLines h
  have htext : IsTight text := htight (text, ending) (by simp [h])
  -- at the front stands the first line
  have hstart : trimStart cs = cs := by
    rcases front with - | ⟨l, front⟩
    · rw [hcs]
      exact trimStart_append htext.1 htext.trimStart_eq ending
    · have hl := htight l (by simp [h])
      rw [hcs]
      simp only [glue, List.flatMap_cons, List.append_assoc]
      exact trimStart_append hl.1 hl.trimStart_eq _
  -- at the end, the last line is in front of its break
  have hend : trimStart cs.reverse = (glue front ++ text).reverse := by
    have hending : ∀ c ∈ ending.reverse, isBlank c = true := by
      intro c hc
      have hbreaks := (breaks_of_cutLines cs (text, ending) (by simp [h])).2
      exact isBlank_of_isLineBreak (hbreaks c (List.mem_reverse.mp hc))
    rw [hcs, List.reverse_append, trimStart, List.dropWhile_append_of_pos hending,
      List.reverse_append]
    exact trimStart_append (by simpa using htext.1) htext.trimStart_reverse _
  rw [trim, hstart, hend, List.reverse_reverse]

/-- Trimming leaves lines as they are that are tight themselves. -/
theorem lines_trim {s : String} (h : ∀ l ∈ lines s, IsTight l.toList) :
    lines (String.ofList (trim s.toList)) = lines s := by
  have htight : ∀ l ∈ cutLines s.toList, IsTight l.1 := by
    intro l hl
    have hline := h (String.ofList l.1) (List.mem_map_of_mem hl)
    rwa [String.toList_ofList] at hline
  rw [lines, lines, String.toList_ofList]
  -- only the end of the last line can be lost, and its text is tight
  rcases List.eq_nil_or_concat (cutLines s.toList)
    with hnil | ⟨front, ⟨text, ending⟩, hcut⟩
  · have hs : s.toList = [] := by
      rw [← glue_cutLines s.toList, hnil]
      rfl
    rw [hs]
    rfl
  · rw [List.concat_eq_append] at hcut
    have htext : IsTight text := htight (text, ending) (by simp [hcut])
    rw [trim_of_cutLines hcut htight, cutLines_unfinished htext.1 hcut, hcut]
    simp

end Text

/-! ### Paths from the root -/

namespace Path

theorem mem_of_mem_intercalate {c : Char} {sep : List Char} {xs : List (List Char)}
    (h : c ∈ sep.intercalate xs) :
    c ∈ sep ∨ ∃ x ∈ xs, c ∈ x := by
  induction xs with
  | nil => simp [List.intercalate] at h
  | cons x xs ih =>
      cases xs with
      | nil => exact .inr ⟨x, List.mem_cons_self, by simpa [List.intercalate] using h⟩
      | cons y xs =>
          rw [List.intercalate_cons_cons, List.mem_append, List.mem_append] at h
          grind

theorem mem_intercalate_of_mem {c : Char} {sep x : List Char} {xs : List (List Char)}
    (hx : x ∈ xs) (hc : c ∈ x) :
    c ∈ sep.intercalate xs := by
  induction xs with
  | nil => cases hx
  | cons y xs ih =>
      cases xs with
      | nil =>
          obtain rfl := List.mem_singleton.mp hx
          simpa [List.intercalate] using hc
      | cons z xs =>
          rw [List.intercalate_cons_cons, List.mem_append, List.mem_append]
          rcases List.mem_cons.mp hx with rfl | hx
          · exact .inl (.inl hc)
          · exact .inr (ih hx)

/-- A path in normal form has the components it had before. -/
theorem mem_addComponent {rooted : Bool} {acc : List String} {c d : String}
    (h : d ∈ addComponent rooted acc c) : d ∈ acc ∨ d = c := by
  unfold addComponent at h
  grind

/-- By induction on the components. -/
theorem mem_foldl_addComponent {rooted : Bool} {cs acc : List String} {d : String}
    (h : d ∈ cs.foldl (addComponent rooted) acc) : d ∈ acc ∨ d ∈ cs := by
  induction cs generalizing acc with
  | nil => exact .inl h
  | cons c cs ih =>
      rcases ih h with h | h
      · rcases mem_addComponent h with h | rfl
        · exact .inl h
        · exact .inr List.mem_cons_self
      · exact .inr (List.mem_cons_of_mem c h)

theorem mem_rootSlashes {p : String} {c : Char} (h : c ∈ (rootSlashes p).toList) :
    c = '/' := by
  unfold rootSlashes at h
  split at h
  · simpa using h
  · simpa using h
  · simpa using h
  · simp at h

/-- A component is made of characters of the path. -/
theorem mem_of_mem_components {p d : String} {c : Char} (hd : d ∈ components p)
    (hc : c ∈ d.toList) : c ∈ p.toList := by
  obtain ⟨part, hpart, rfl⟩ := List.mem_map.mp hd
  rw [String.toList_ofList] at hc
  have hmem : c ∈ ['/'].intercalate (p.toList.splitOn '/') :=
    mem_intercalate_of_mem hpart hc
  rwa [List.intercalate_splitOn] at hmem

/-- The shortest spelling of a path has no characters but those of the path, slashes and
dots. -/
theorem mem_normal {p : String} {c : Char} (h : c ∈ (normal p).toList) :
    c ∈ p.toList ∨ c = '/' ∨ c = '.' := by
  unfold normal at h
  dsimp only at h
  split at h
  · exact .inr (.inr (by simpa using h))
  · rw [String.toList_append, String.toList_intercalate, List.mem_append] at h
    rcases h with h | h
    · exact .inr (.inl (mem_rootSlashes h))
    · rcases mem_of_mem_intercalate h with h | ⟨part, hpart, h⟩
      · exact .inr (.inl (by simpa using h))
      · obtain ⟨d, hd, rfl⟩ := List.mem_map.mp hpart
        rcases mem_foldl_addComponent (List.mem_reverse.mp hd) with hd | hd
        · cases hd
        · exact .inl (mem_of_mem_components hd h)

end Path

namespace Project

/-- A path from the root, taken from the root again, has no new braces. -/
theorem Files.isUnbraced_absolute {fs : Files} {p : String}
    (hp : Path.isAbsolute p = true) (h : Text.IsUnbraced p.toList) :
    Text.IsUnbraced (fs.absolute p).toList := by
  intro c hc
  rw [absolute, Path.absolute, if_pos hp] at hc
  rcases Path.mem_normal hc with hc | rfl | rfl
  · exact h c hc
  · decide
  · decide

/-! ### Changed sources -/

theorem mem_eachOnce {paths : List String} {path : String} :
    path ∈ eachOnce paths ↔ path ∈ paths := by
  rw [eachOnce, mem_dropNeighbours, (inPathOrder_perm paths).mem_iff]

/-- No path is named twice in the end. -/
theorem eachOnce_nodup (paths : List String) : (eachOnce paths).Nodup := by
  have hpairwise :=
    dropNeighbours_pairwise (fun a b => le_antisymm) (inPathOrder_pairwise paths)
  exact hpairwise.imp fun h => h.2

/-- The files that the commands leave. -/
def Answers.left (answers : Answers) (fs : Files) : Files :=
  { fs with
    root := answers.branchLeaves (answers.stagedLeaves (answers.fetchLeaves fs.root)) }

/-- The commands leave the sources below a directory as they are. -/
def Answers.KeepSources (answers : Answers) (fs : Files) (directory : String) : Prop :=
  ∀ path ∈ fs.sources directory, (answers.left fs).readText path = fs.readText path

/-- No command fails. -/
structure Answers.Succeed (answers : Answers) : Prop where
  fetch : answers.fetchFails = none
  staged : answers.stagedFails = none
  branch : answers.branchFails = none

/-- The names in answers. -/
def Answers.names (answers : Answers) : List String :=
  Text.lines answers.staged ++ Text.lines answers.branch

/-- Whether answers name a source at a path, seen from the directory that one is in. -/
def Answers.Name (answers : Answers) (fs : Files) (path : String) : Prop :=
  ∃ name ∈ answers.names, isSource name = true ∧ fs.absolute name = path

/-- The sources that an answer names are its lines that name one, from the project. -/
theorem mem_namedSources {fs : Files} {answer path : String}
    (h : ∀ name ∈ Text.lines answer, Text.IsTight name.toList) :
    path ∈ namedSources fs answer ↔ ∃ name ∈ Text.lines answer, isSource name = true ∧
      fs.absolute name = path := by
  rw [namedSources, Text.lines_trim h, List.mem_map]
  simp only [List.mem_filter, and_assoc]

/-- A directory without braces stands in the command as it is. -/
theorem askChanges_eq {directory : String} (h : Text.IsUnbraced directory.toList)
    (base answer : String) (leaves : Item → Item) (fs : Files) :
    askChanges directory base none answer leaves fs =
      ⟨["git -C \"" ++ directory ++ "\" diff " ++ base ++ " --name-only"], .ok answer,
        { fs with root := leaves fs.root }⟩ := by
  have hfront : Text.IsUnbraced ("git -C \"" ++ directory ++ "\" diff ").toList := by
    rw [String.toList_append, String.toList_append]
    have hgit : Text.IsUnbraced "git -C \"".toList := by decide
    have hdiff : Text.IsUnbraced "\" diff ".toList := by decide
    exact List.forall_mem_append.mpr ⟨List.forall_mem_append.mpr ⟨hgit, h⟩, hdiff⟩
  have hcommand : changesCommand directory =
      "git -C \"" ++ directory ++ "\" diff " ++ "\x7b\x7d" ++ " --name-only" := by
    simp only [changesCommand, String.append_assoc]
    rfl
  rw [askChanges, hcommand, Text.putInFields_of_isUnbraced hfront (by decide)]
  rfl

/-- The changed sources are those that the answers name, each once. -/
theorem changedSources_eq (fs : Files) {answers : Answers} (hsucceed : answers.Succeed)
    (htight : ∀ name ∈ answers.names, Text.IsTight name.toList) {directory : String}
    (habsolute : Path.isAbsolute directory = true)
    (hbraces : Text.IsUnbraced directory.toList) :
    ∃ commands paths, changedSources fs answers directory =
        ⟨commands, .ok paths, answers.left fs⟩ ∧
      paths.Nodup ∧ ∀ path, path ∈ paths ↔ answers.Name fs path := by
  have hunbraced : Text.IsUnbraced (fs.absolute directory).toList :=
    Files.isUnbraced_absolute habsolute hbraces
  obtain ⟨hstaged, hbranch⟩ := List.forall_mem_append.mp htight
  -- the three commands and what they answer
  have hchanged : changedSources fs answers directory =
      ⟨["git -C \"" ++ directory ++ "\" fetch origin",
        "git -C \"" ++ fs.absolute directory ++ "\" diff " ++ "--staged" ++
          " --name-only",
        "git -C \"" ++ fs.absolute directory ++ "\" diff " ++ "origin/master..." ++
          " --name-only"],
        .ok (eachOnce (namedSources fs answers.staged ++ namedSources fs answers.branch)),
        answers.left fs⟩ := by
    rw [changedSources, hsucceed.fetch, hsucceed.staged, hsucceed.branch]
    dsimp only [Asked.andThen, Asked.command]
    rw [askChanges_eq hunbraced]
    dsimp only
    rw [askChanges_eq hunbraced]
    rfl
  refine ⟨_, _, hchanged, eachOnce_nodup _, fun path => ?_⟩
  -- a path is named by either answer
  rw [mem_eachOnce, List.mem_append, mem_namedSources hstaged, mem_namedSources hbranch,
    Answers.Name, Answers.names]
  simp only [List.mem_append, or_and_right, exists_or]

/-! ### What commands leave of the tree -/

/-- The commands leave a tree as it is. -/
structure Answers.LeaveTree (answers : Answers) (tree : Item) : Prop where
  fetch : answers.fetchLeaves tree = tree
  staged : answers.stagedLeaves tree = tree
  branch : answers.branchLeaves tree = tree

/-- A command that leaves the tree as it is leaves the files so. -/
theorem Asked.files_command {α : Type} {leaves : Item → Item} {fs : Files}
    (h : leaves fs.root = fs.root) (line : String) (fails : Option Int) (answer : α) :
    (command line fails answer leaves fs).files = fs := by
  show { fs with root := leaves fs.root } = fs
  rw [h]

/-- And so do two, one after the other. -/
theorem Asked.files_andThen {α β : Type} {a : Asked α}
    {f : α → Files → Asked β} {fs : Files}
    (ha : a.files = fs) (hf : ∀ x, (f x fs).files = fs) : (a.andThen f).files = fs := by
  rw [andThen]
  rcases a.result with e | x
  · exact ha
  · rw [ha]
    exact hf x

theorem files_askChanges {leaves : Item → Item} {fs : Files}
    (h : leaves fs.root = fs.root)
    (directory base : String) (fails : Option Int) (answer : String) :
    (askChanges directory base fails answer leaves fs).files = fs := by
  rw [askChanges]
  rcases Text.putInFields (changesCommand directory) base with e | line
  · rfl
  · exact Asked.files_command h _ _ _

/-- Asking for the changed sources writes nothing that the commands do not write. -/
theorem files_changedSources {fs : Files} {answers : Answers}
    (h : answers.LeaveTree fs.root)
    (directory : String) : (changedSources fs answers directory).files = fs := by
  unfold changedSources
  refine Asked.files_andThen (Asked.files_command h.fetch _ _ _) fun _ => ?_
  refine Asked.files_andThen (files_askChanges h.staged _ _ _ _) fun staged => ?_
  exact Asked.files_andThen (files_askChanges h.branch _ _ _ _) fun branch => rfl

/-! ### Some of the files -/

/-- Violations are at the path that was looked at. -/
theorem violationsAt_path {path : String} {lines : List String}
    {findings : List Finding} :
    ∀ v ∈ (violationsAt path lines findings).found, v.path = path := by
  fun_induction violationsAt path lines findings with
  | case1 => exact List.forall_mem_nil _
  | case2 rule rest ih => exact ih
  | case3 rule line rest f hf => exact List.forall_mem_nil _
  | case4 rule line rest text htext more ih => exact List.forall_mem_cons.mpr ⟨rfl, ih⟩

/-- Some of the paths in order are those that are left of all paths in order. -/
theorem inPathOrder_eq_filter {all paths : List String} (hall : all.Nodup)
    (hpaths : paths.Nodup) (hsubset : paths ⊆ all) :
    inPathOrder paths = (inPathOrder all).filter (· ∈ paths) := by
  have hsame : paths.Perm (all.filter (· ∈ paths)) := by
    rw [List.perm_ext_iff_of_nodup hpaths (hall.filter _)]
    intro path
    simpa using fun hpath => hsubset hpath
  have hperm : (inPathOrder paths).Perm ((inPathOrder all).filter (· ∈ paths)) :=
    (inPathOrder_perm paths).trans (hsame.trans ((inPathOrder_perm all).filter _).symm)
  exact List.Perm.eq_of_pairwise (fun a b _ _ hab hba => le_antisymm hab hba)
    (inPathOrder_pairwise paths)
    ((inPathOrder_pairwise all).filter _) hperm

section

variable [Host] {fs : Files} {rules : List Rule}

theorem violationsIn_path {path text : String} :
    ∀ v ∈ (violationsIn rules path text).found, v.path = path := by
  rw [violationsIn]
  split
  · exact List.forall_mem_nil _
  · exact violationsAt_path

/-- A file without a fault puts its violations in front of the others. -/
theorem violationsFrom_cons_of_ok (hkeeps : ∀ r ∈ rules, r.KeepsFiles)
    {path text : String}
    {rest : List String} {found : List Violation} (htext : fs.readText path = .ok text)
    (hin : violationsIn rules path text = ⟨found, none⟩) :
    violationsFrom fs rules (path :: rest) =
      ⟨found ++ (violationsFrom fs rules rest).found,
        (violationsFrom fs rules rest).fault⟩ := by
  rw [violationsFrom, htext]
  dsimp only
  rw [hin, Files.leftBy_eq hkeeps]

/-- What a search without a fault has been through at its first file. -/
theorem violationsFrom_cons_cases (hkeeps : ∀ r ∈ rules, r.KeepsFiles) {path : String}
    {rest : List String} (h : (violationsFrom fs rules (path :: rest)).fault = none) :
    ∃ text found, fs.readText path = .ok text ∧ violationsIn rules path text =
      ⟨found, none⟩ ∧
      (violationsFrom fs rules rest).fault = none := by
  rcases htext : fs.readText path with f | text
  · rw [violationsFrom, htext] at h
    cases h
  · rcases hin : violationsIn rules path text with ⟨found, - | f⟩
    · rw [violationsFrom_cons_of_ok hkeeps htext hin] at h
      exact ⟨text, found, rfl, hin, h⟩
    · rw [violationsFrom, htext] at h
      dsimp only at h
      rw [hin] at h
      cases h

/-- A search finds the same where the files are the same. -/
theorem violationsFrom_of_sameTexts (hkeeps : ∀ r ∈ rules, r.KeepsFiles) {fs' : Files}
    {paths : List String} (h : ∀ path ∈ paths, fs'.readText path = fs.readText path) :
    violationsFrom fs' rules paths = violationsFrom fs rules paths := by
  induction paths with
  | nil => rfl
  | cons path rest ih =>
      obtain ⟨hpath, hrest⟩ := List.forall_mem_cons.mp h
      rw [violationsFrom, violationsFrom, hpath]
      rcases fs.readText path with f | text
      · rfl
      · simp only [Files.leftBy_eq hkeeps, ih hrest]

/-- A search in some of the files finds what a search in all of them finds there. -/
theorem violationsFrom_filter (hkeeps : ∀ r ∈ rules, r.KeepsFiles) {paths : List String}
    (h : (violationsFrom fs rules paths).fault = none) (keep : String → Bool) :
    violationsFrom fs rules (paths.filter keep) =
      ⟨(violationsFrom fs rules paths).found.filter fun v => keep v.path, none⟩ := by
  induction paths with
  | nil => rfl
  | cons path rest ih =>
      obtain ⟨text, found, htext, hin, hrest⟩ := violationsFrom_cons_cases hkeeps h
      -- violations of a file have its path, so they are kept or left out together
      have hpath : ∀ v ∈ found, v.path = path := by
        have hall : ∀ v ∈ (violationsIn rules path text).found, v.path = path :=
          violationsIn_path
        rwa [hin] at hall
      rw [violationsFrom_cons_of_ok hkeeps htext hin, List.filter_append]
      cases hkeep : keep path with
      | true =>
          have hfound : (found.filter fun v => keep v.path) = found := by
            rw [List.filter_eq_self]
            intro v hv
            rw [hpath v hv, hkeep]
          rw [List.filter_cons_of_pos hkeep, violationsFrom_cons_of_ok hkeeps htext hin,
            ih hrest,
            hfound]
      | false =>
          have hfound : (found.filter fun v => keep v.path) = [] := by
            rw [List.filter_eq_nil_iff]
            intro v hv
            simp [hpath v hv, hkeep]
          rw [List.filter_cons_of_neg (by simp [hkeep]), ih hrest, hfound,
            List.nil_append]

/-- A part of the files gives the violations of that part. -/
theorem violations_of_subset (hkeeps : ∀ r ∈ rules, r.KeepsFiles)
    {all paths : List String}
    (hall : all.Nodup) (hpaths : paths.Nodup) (hsubset : paths ⊆ all)
    {found : List Violation}
    (h : violations fs all rules = ⟨found, none⟩) :
    violations fs paths rules = ⟨found.filter (·.path ∈ paths), none⟩ := by
  rw [violations] at h
  rw [violations, inPathOrder_eq_filter hall hpaths hsubset,
    violationsFrom_filter hkeeps (by rw [h]), h]

/-! ### The run -/

/-- A run that nothing ends too early has found violations, and told of all of them. -/
theorem lintFiles_eq_ok {paths : List String} {top : String} {full : Bool} {code : Nat}
    (h : (lintFiles fs top full rules paths).2 = .ok code) :
    ∃ found, violations fs paths rules = ⟨found, none⟩ ∧ ∀ v ∈ found,
      CanBeTold top full v := by
  rcases hfound : violations fs paths rules with ⟨found, fault⟩
  rw [lintFiles, hfound] at h
  dsimp only at h
  by_cases htold : ∀ v ∈ found, CanBeTold top full v
  · rw [tellAll_of_canBeTold htold] at h
    cases fault with
    | none => exact ⟨found, rfl, htold⟩
    | some f => cases h
  · simp only [not_forall] at htold
    obtain ⟨v, hv, hnot⟩ := htold
    rw [tellAll_of_not_canBeTold ⟨v, hv, hnot⟩] at h
    cases h

/-- What a run on all files has been through that nothing ends too early. -/
theorem lint_cases {answers : Answers} {directory : String} {full : Bool} {code : Nat}
    (h : (lint fs answers false directory full).1.result = .ok code) :
    (∃ message,
      loadRules fs (fs.absolute (Path.join directory configName)) =
        .ok (.error message)) ∨
    ∃ rules found, loadRules fs (fs.absolute (Path.join directory configName)) =
      .ok (.ok rules) ∧
      violations fs (fs.sources (fs.absolute directory)) rules = ⟨found, none⟩ ∧
      ∀ v ∈ found, CanBeTold (fs.absolute directory) full v := by
  obtain ⟨loaded, hload⟩ : ∃ loaded,
    loadRules fs (fs.absolute (Path.join directory configName)) = loaded := ⟨_, rfl⟩
  -- a fault would have no code, a message has one, and rules have found all
  rcases loaded with f | message | rules
  · unfold lint at h
    simp only [hload] at h
    cases h
  · exact .inl ⟨message, hload⟩
  · rw [lint_of_sourcesOf hload rfl] at h
    obtain ⟨found, hfound, htold⟩ := lintFiles_eq_ok h
    exact .inr ⟨rules, found, hload, hfound, htold⟩

/-- A run leaves the tree as it is if neither the version control system nor a function
that its rules call writes to it. -/
theorem files_lint {answers : Answers} {changedOnly : Bool} {directory : String}
    (hanswers : changedOnly = true → answers.LeaveTree fs.root)
    (hkeeps : ∀ rules, loadRules fs (fs.absolute (Path.join directory configName)) =
      .ok (.ok rules) → ∀ r ∈ rules, r.KeepsFiles) (full : Bool) :
    (lint fs answers changedOnly directory full).2 = fs := by
  -- only a run on changes asks for anything
  have hasked (top : String) : (sourcesOf fs answers changedOnly top).files = fs := by
    cases changedOnly with
    | false => rfl
    | true => exact files_changedSources (hanswers rfl) top
  unfold lint
  -- without rules nothing is run, and with rules nothing is called that writes
  rcases hload : loadRules fs (fs.absolute (Path.join directory configName)) with
    f | message | rules
  · rfl
  · rfl
  · dsimp only
    split
    · exact hasked _
    · exact (leftByLint_eq (hkeeps rules hload) _ _ _).trans (hasked _)

/-- **What has been changed, linted alone.** If the names in the answers lead to sources
of the project, a run on these is the run on all sources without the other files: it
tells of the violations in them, each once and in the same order, and counts these. -/
theorem lint_changed_restricts (hfs : fs.root.WellFormed) {answers : Answers}
    (hsucceed : answers.Succeed)
    (htight : ∀ name ∈ answers.names, Text.IsTight name.toList)
    {directory : String} (hbraces : Text.IsUnbraced (fs.absolute directory).toList)
    (hthere : ∀ path, answers.Name fs path → path ∈ fs.sources (fs.absolute directory))
    (hsame : answers.KeepSources fs (fs.absolute directory))
    (hkeeps : ∀ rules, loadRules fs (fs.absolute (Path.join directory configName)) =
      .ok (.ok rules) → ∀ r ∈ rules, r.KeepsFiles) {full : Bool} {code : Nat}
    (hrun : (lint fs answers false directory full).1.result = .ok code) :
    (∃ message, loadRules fs (fs.absolute (Path.join directory configName)) =
        .ok (.error message) ∧
      ∀ changedOnly, lint fs answers changedOnly directory full =
        (⟨printed message, [], .ok 1⟩, fs)) ∨
    ∃ (rules : List Rule) (found : List Violation) (commands paths : List String),
      loadRules fs (fs.absolute (Path.join directory configName)) = .ok (.ok rules) ∧
      violations fs (fs.sources (fs.absolute directory)) rules = ⟨found, none⟩ ∧
      lint fs answers false directory full =
        (⟨messages (fs.absolute directory) full found ++
            printed (Report.summary rules.length
              (fs.sources (fs.absolute directory)).length
              found.length),
          [], .ok (if found.isEmpty then 0 else 1)⟩, fs) ∧
      paths.Nodup ∧ (∀ path, path ∈ paths ↔ answers.Name fs path) ∧
      lint fs answers true directory full =
        (⟨messages (fs.absolute directory) full (found.filter (·.path ∈ paths)) ++
            printed (Report.summary rules.length paths.length
              (found.filter (·.path ∈ paths)).length),
          commands, .ok (if (found.filter (·.path ∈ paths)).isEmpty then 0 else 1)⟩,
          answers.left fs) := by
  rcases lint_cases hrun with ⟨message, hload⟩ | ⟨rules, found, hload, hfound, htold⟩
  · refine .inl ⟨message, hload, fun changedOnly => ?_⟩
    unfold lint
    simp only [hload]
  · have hkeeps := hkeeps rules hload
    obtain ⟨commands, paths, hchanged, hnodup, hmem⟩ :=
      changedSources_eq fs hsucceed htight (fs.isAbsolute_absolute directory) hbraces
    have hsources : sourcesOf fs answers true (fs.absolute directory) =
        ⟨commands, .ok paths, answers.left fs⟩ := hchanged
    have hsubset : paths ⊆ fs.sources (fs.absolute directory) := by
      intro path hpath
      exact hthere path ((hmem path).mp hpath)
    have hrestricted :=
      violations_of_subset hkeeps (Files.sources_nodup hfs _) hnodup hsubset hfound
    -- the files are read from what the commands left
    have hleft : violations (answers.left fs) paths rules =
        ⟨found.filter (·.path ∈ paths), none⟩ := by
      rw [← hrestricted]
      refine violationsFrom_of_sameTexts hkeeps fun path hpath => ?_
      exact hsame path (hsubset ((inPathOrder_perm paths).mem_iff.mp hpath))
    have hfiltered : ∀ v ∈ found.filter (·.path ∈ paths),
        CanBeTold (fs.absolute directory) full v :=
      fun v hv => htold v (List.mem_filter.mp hv).1
    refine .inr ⟨rules, found, commands, paths, hload, hfound, ?_, hnodup, hmem, ?_⟩
    · rw [lint_of_sourcesOf hload rfl, lintFiles_eq hfound htold, leftByLint_eq hkeeps]
    · rw [lint_of_sourcesOf hload hsources, lintFiles_eq hleft hfiltered,
        leftByLint_eq hkeeps]

end

/-! ### Runs in a project and beside it -/

theorem eq_singleton_of_mem_iff {paths : List String} (hnodup : paths.Nodup)
    {path : String} (h : ∀ p, p ∈ paths ↔ p = path) :
    paths = [path] := by
  apply List.perm_singleton.mp
  rw [List.perm_ext_iff_of_nodup hnodup (List.nodup_singleton path)]
  intro p
  rw [h, List.mem_singleton]

theorem absolute_source (fs : Files) :
    fs.absolute "m.py" = Path.normal (Path.join fs.herePath "m.py") := by
  have hrelative : Path.isAbsolute "m.py" ≠ true :=
    fun h => absurd (Path.isAbsolute_iff.mp h) (by decide)
  rw [Files.absolute, Path.absolute, if_neg hrelative]

/-- A tree with what a fetch writes below it. -/
def fetched : Item → Item
  | .file bytes => .file bytes
  | .directory items =>
    .directory (.cons ".git" (.directory (.cons "FETCH_HEAD" (.file []) .nil)) items)

/-- A source that is named twice, in both answers, beside something else. -/
def namedTwice : Answers :=
  { staged := "m.py\n", branch := "notes.txt\nm.py", fetchLeaves := fetched }

/-- The source of the project is all that the answers name. -/
theorem namedTwice_name {path : String} :
    namedTwice.Name smallProject path ↔ path = "/m.py" := by
  have hlines : namedTwice.names = ["m.py", "notes.txt", "m.py"] := by decide
  have hnotes : isSource "notes.txt" = false := decide_eq_false (by decide)
  have habsolute : smallProject.absolute "m.py" = "/m.py" := by
    have hhere : smallProject.herePath = "/" := by decide
    rw [absolute_source, hhere, Path.join_root isName_source]
    decide
  rw [Answers.Name, hlines]
  constructor
  · rintro ⟨name, hname, hsource, rfl⟩
    simp only [List.mem_cons, List.not_mem_nil, or_false] at hname
    rcases hname with rfl | rfl | rfl
    · exact habsolute
    · rw [hnotes] at hsource
      cases hsource
    · exact habsolute
  · rintro rfl
    exact ⟨"m.py", List.mem_cons_self, isSource_source, habsolute⟩

/-- A source that is named once. -/
def namedOnce : Answers := { staged := "m.py\n" }

/-- A project in the root, and a directory beside its files that one is in. -/
def besideProject : Files :=
  ⟨.directory (.cons configName (.file (bytesOf Config.oneRule))
    (.cons "m.py" (.file (bytesOf Lint.twoComments))
    (.cons "sub" (.directory .nil) .nil))), ["sub"]⟩

theorem absolute_besideProject {p : String} (hp : Path.isAbsolute p = true) :
    besideProject.absolute p = smallProject.absolute p := by
  rw [Files.absolute, Files.absolute, Path.absolute, Path.absolute, if_pos hp, if_pos hp]

theorem find_besideProject :
    besideProject.find "/" = .ok besideProject.root ∧
    besideProject.find "/.bellybutton.yml" = .ok (.file (bytesOf Config.oneRule)) ∧
    besideProject.find "/m.py" = .ok (.file (bytesOf Lint.twoComments)) ∧
    besideProject.find "/sub/m.py" = .error .missing := by
  refine ⟨?_, ?_, ?_, ?_⟩
  · exact Files.find_of_components (Path.isAbsolute_iff.mpr (by decide)) rfl rfl
  · exact Files.find_of_components (Path.isAbsolute_iff.mpr (by decide)) rfl rfl
  · exact Files.find_of_components (Path.isAbsolute_iff.mpr (by decide)) rfl rfl
  · rw [Files.find, Files.locate, if_neg (by decide), Files.startOf,
      if_pos (Path.isAbsolute_iff.mpr (by decide))]
    rfl

theorem sources_besideProject : besideProject.sources "/" = ["/m.py"] := by
  rw [Files.sources, find_besideProject.1]
  show (if isSource configName then [Path.join "/" configName] else []) ++
    ((if isSource "m.py" then [Path.join "/" "m.py"] else []) ++ []) = _
  rw [isSource_config, isSource_source, Path.join_root isName_source]
  rfl

/-- Names are taken from the directory one is in, where there is no such source. -/
theorem namedOnce_name {path : String} : namedOnce.Name besideProject path ↔
    path = "/sub/m.py" := by
  have hlines : namedOnce.names = ["m.py"] := by decide
  have habsolute : besideProject.absolute "m.py" = "/sub/m.py" := by
    have hhere : besideProject.herePath = "/sub" := by decide
    rw [absolute_source, hhere, Path.join_of_getLast? (by decide) (by decide)
      isName_source]
    decide
  rw [Answers.Name, hlines]
  constructor
  · rintro ⟨name, hname, -, rfl⟩
    obtain rfl := List.mem_singleton.mp hname
    exact habsolute
  · rintro rfl
    exact ⟨"m.py", List.mem_cons_self, isSource_source, habsolute⟩

/-- A file that is not there ends the run with the cause and its path. -/
theorem violations_of_error [Host] {fs : Files} {path : String} {cause : FileCause}
    (h : fs.find path = .error cause) {rules : List Rule} :
    violations fs [path] rules = ⟨[], some (.file cause path)⟩ := by
  rw [violations, inPathOrder, List.mergeSort_singleton, violationsFrom, Files.readText,
    Files.readBytes, h]
  rfl

open scoped Standard

theorem violations_source {fs : Files}
    (htext : fs.readText "/m.py" = .ok Lint.twoComments) :
    violations fs ["/m.py"] [smallRule] =
      ⟨[⟨"/m.py", .int 2, "# =", smallRule⟩], none⟩ := by
  have hkeeps : ∀ r ∈ [smallRule], r.KeepsFiles := keepsFiles_ruleWith _
  rw [violations, inPathOrder, List.mergeSort_singleton,
    violationsFrom_cons_of_ok hkeeps htext (violationsIn_ruleWith _)]
  rfl

/-- A run on the only source of a project. -/
theorem lint_source {fs : Files} (htop : fs.absolute "/" = "/")
    (hload : loadRules fs (fs.absolute (Path.join "/" configName)) =
      .ok (.ok [smallRule]))
    (hsources : fs.sources "/" = ["/m.py"])
    (htext : fs.readText "/m.py" = .ok Lint.twoComments)
    (answers : Answers) : (lint fs answers false "/" false).1.result = .ok 1 := by
  have hfound := violations_source htext
  have htold : ∀ v ∈ [⟨"/m.py", .int 2, "# =", smallRule⟩], CanBeTold "/" false v :=
    List.forall_mem_singleton.mpr (canBeTold_smallRule rfl rfl (by decide +kernel))
  have hasked : sourcesOf fs answers false (fs.absolute "/") =
      ⟨[], .ok ["/m.py"], fs⟩ := by
    rw [htop, sourcesOf, hsources]
    rfl
  rw [lint_of_sourcesOf hload hasked, htop, lintFiles_eq hfound htold]
  rfl

/-- The source is linted once, in the tree that the fetch leaves. -/
theorem lint_changed_restricts_namedTwice :
    ∃ commands, lint smallProject namedTwice true "/" false =
      (⟨messages "/" false [⟨"/m.py", .int 2, "# =", smallRule⟩] ++
        printed (Report.summary 1 1 1), commands, .ok 1⟩,
          namedTwice.left smallProject) := by
  have htop := absolute_smallProject
  have hsources := sources_smallProject
  have htext := readText_smallProject
  have hload := loadRules_smallProject
  have hthere : ∀ path, namedTwice.Name smallProject path →
      path ∈ smallProject.sources (smallProject.absolute "/") := by
    intro path hpath
    rw [htop, hsources, namedTwice_name.mp hpath]
    exact List.mem_cons_self
  have hsame : namedTwice.KeepSources smallProject (smallProject.absolute "/") := by
    rw [htop, Answers.KeepSources, hsources, List.forall_mem_singleton, htext]
    exact readText_of_find
      (Files.find_of_components (Path.isAbsolute_iff.mpr (by decide)) rfl rfl)
  have hkeeps : ∀ rules, loadRules smallProject
      (smallProject.absolute (Path.join "/" configName)) = .ok (.ok rules) →
      ∀ r ∈ rules, r.KeepsFiles := by
    intro rules hrules
    cases hload.symm.trans hrules
    exact keepsFiles_ruleWith _
  have hbraces : Text.IsUnbraced (smallProject.absolute "/").toList := by
    rw [htop]
    decide
  have hwell : smallProject.root.WellFormed := projectWith_wellFormed _
  rcases lint_changed_restricts hwell ⟨rfl, rfl, rfl⟩ (by decide) hbraces
      hthere hsame hkeeps (lint_source htop hload hsources htext namedTwice) with
    ⟨message, hload', -⟩ | ⟨rules, found, commands, paths, hload', hfound', -,
      hnodup, hmem, hlint⟩
  · rw [hload] at hload'
    cases hload'
  · cases hload.symm.trans hload'
    have hfound := violations_source htext
    rw [← hsources, ← htop] at hfound
    cases hfound.symm.trans hfound'
    obtain rfl := eq_singleton_of_mem_iff hnodup fun p => (hmem p).trans namedTwice_name
    refine ⟨commands, hlint.trans ?_⟩
    rw [htop]
    rfl

/-- A run on all files goes well; the name of a file of the project does not lead to it
from another directory. -/
theorem lint_changed_elsewhere :
    "/m.py" ∈ besideProject.sources "/" ∧
    (lint besideProject namedOnce false "/" false).1.result = .ok 1 ∧
    (lint besideProject namedOnce true "/" false).1.result =
      .error (.file .missing "/sub/m.py") := by
  obtain ⟨-, hconfig, hsource, hmissing⟩ := find_besideProject
  have hroot : Path.isAbsolute "/" = true := Path.isAbsolute_iff.mpr (by decide)
  have habsolute : besideProject.absolute "/" = "/" :=
    (absolute_besideProject hroot).trans (absolute_root _)
  have hload :
    loadRules besideProject (besideProject.absolute (Path.join "/" configName)) =
      .ok (.ok [smallRule]) := by
    have hpath : Path.isAbsolute (Path.join "/" configName) = true := by
      rw [Path.join_root isName_config]
      exact Path.isAbsolute_iff.mpr (by decide)
    rw [absolute_besideProject hpath, smallProject, absolute_config]
    exact loadRules_of_find hconfig
  refine ⟨?_, ?_, ?_⟩
  · rw [sources_besideProject]
    exact List.mem_cons_self
  · exact lint_source habsolute hload sources_besideProject
      (readText_of_find hsource) namedOnce
  · obtain ⟨commands, paths, hchanged, hnodup, hmem⟩ :=
      changedSources_eq besideProject (show namedOnce.Succeed
        from ⟨rfl, rfl, rfl⟩) (by decide)
        hroot (by decide)
    obtain rfl := eq_singleton_of_mem_iff hnodup fun p => (hmem p).trans namedOnce_name
    have hsources : sourcesOf besideProject namedOnce true (besideProject.absolute "/") =
        ⟨commands, .ok ["/sub/m.py"], besideProject⟩ := by
      rw [habsolute]
      exact hchanged
    rw [lint_of_sourcesOf hload hsources, lintFiles, violations_of_error hmissing]
    rfl

end Project

end RuleLint
