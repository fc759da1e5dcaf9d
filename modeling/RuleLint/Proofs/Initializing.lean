/-
RuleLint/Proofs/Initializing.lean

Commands on a project, one after the other.

What an `init` may come to is said once (`Inits`): it is refused, it fails, or it writes
the configuration, and only in the last case is the tree another one.  The configuration
is a file whose name is not that of a directory of tests, so writing it moves no path
(`Files.locate_of_grows`) and changes nothing in the list of directories that the next
`init` goes by (`Files.HoldsTests.of_writes`).  That list is the invariant of a sequence
of commands.

A `lint` writes nothing itself, but it has the version control system and the functions
that rules call do as they like.  Sequences in which these leave the tree as it is are
those with no other writer (`NobodyElseWrites`).

Main result: `actions_whole_or_nothing`.
-/
import RuleLint.Application
import RuleLint.Proofs.Changes
import RuleLint.Proofs.Trees

namespace RuleLint

namespace Project

/-! ### Directories of tests -/

/-- In order, every entry is found by its name. -/
theorem Items.mem_toList_iff {items : Items} (h : items.InOrder) {name : String}
    {item : Item} :
    (name, item) ∈ items.toList ↔ items.get? name = some item := by
  match items, h with
  | .nil, _ => simp [Items.toList, Items.get?]
  | .cons other first rest, h =>
      rw [Items.InOrder] at h
      have ih : (name, item) ∈ rest.toList ↔ rest.get? name = some item :=
        Items.mem_toList_iff h.2.2
      rw [Items.toList, Items.get?, List.mem_cons, ih]
      by_cases heq : other = name
      · subst heq
        -- no entry behind the first one has its name
        have hnone : rest.get? other ≠ some item := by
          intro hsome
          exact String.lt_irrefl other (h.1 other (by rw [hsome]; rfl))
        simp [hnone, eq_comm]
      · simp [heq, Ne.symm heq]

/-- Names ascend, so none comes twice. -/
theorem Items.toList_pairwise {items : Items} (h : items.InOrder) :
    items.toList.Pairwise fun a b => a.1 < b.1 := by
  match items, h with
  | .nil, _ => exact List.Pairwise.nil
  | .cons name first rest, h =>
      rw [Items.InOrder] at h
      rw [Items.toList]
      refine List.pairwise_cons.mpr ⟨?_, Items.toList_pairwise h.2.2⟩
      rintro ⟨other, item⟩ hmem
      exact h.1 other (by rw [(Items.mem_toList_iff h.2.2).mp hmem]; rfl)

/-- Whether a list holds the names of the directories of tests in the directory at a
place, in order. -/
structure Files.HoldsTests (fs : Files) (place : Place) (tests : List String) : Prop where
  ascending : tests.Pairwise (· < ·)
  mem_iff : ∀ name, name ∈ tests ↔ "test".toList <+: name.toList ∧ ∃ items,
    fs.at? (place ++ [name]) = some (.directory items)

namespace Files

variable {fs fs' : Files} {place : Place} {items : Items} {tests tests' : List String}
    {directory : String}

/-- The directories that are picked are the tests of the directory, in order. -/
theorem holdsTests_testDirectories (hat : fs.at? place = some (.directory items))
    (h : items.InOrder) :
    fs.HoldsTests place (testDirectories items) where
  ascending := by
    -- names in a directory ascend, and so do those that are picked
    rw [testDirectories, List.pairwise_filterMap]
    refine (Items.toList_pairwise h).imp ?_
    intro a b hlt name hname other hother
    dsimp only at hname hother
    split at hname
    · split at hother
      · cases hname
        cases hother
        exact hlt
      · cases hother
    · cases hname
  mem_iff := by
    intro name
    have hentry : fs.at? (place ++ [name]) = items.get? name := Item.at?_concat hat name
    rw [testDirectories, List.mem_filterMap, hentry]
    constructor
    · -- what is picked is a directory whose name starts so, and no file
      rintro ⟨⟨other, item⟩, hmem, hname⟩
      dsimp only at hname
      split at hname
      · rename_i htest
        cases hname
        rw [Bool.and_eq_true, String.startsWith_string_iff] at htest
        cases item with
        | file bytes => cases htest.1
        | directory sub => exact ⟨htest.2, sub, (Items.mem_toList_iff h).mp hmem⟩
      · cases hname
    · rintro ⟨htest, sub, hsub⟩
      refine ⟨(name, .directory sub), (Items.mem_toList_iff h).mpr hsub, ?_⟩
      simp [Item.isDirectory, String.startsWith_string_iff.mpr htest]

/-- A directory has one list of tests. -/
theorem HoldsTests.unique (h : fs.HoldsTests place tests)
    (h' : fs.HoldsTests place tests') : tests = tests' := by
  have hnodup : ∀ {names : List String}, names.Pairwise (· < ·) → names.Nodup := by
    intro names hnames
    refine hnames.imp ?_
    intro a b hlt heq
    exact String.lt_irrefl b (heq ▸ hlt)
  refine List.Perm.eq_of_pairwise ?_ h.ascending h'.ascending ?_
  · intro a b _ _ hab hba
    exact absurd (String.lt_trans hab hba) (String.lt_irrefl a)
  · rw [List.perm_ext_iff_of_nodup (hnodup h.ascending) (hnodup h'.ascending)]
    intro name
    rw [h.mem_iff, h'.mem_iff]

theorem isEntryName_config : IsEntryName configName := by
  decide

/-- Writing a configuration leaves the directories of tests as they are. -/
theorem HoldsTests.of_writes {bytes : List UInt8} (h : fs.HoldsTests place tests)
    (hwrites : fs.Writes fs' (place ++ [configName]) bytes) :
    fs'.HoldsTests place tests where
  ascending := h.ascending
  mem_iff := by
    intro name
    rw [h.mem_iff]
    refine and_congr_right ?_
    intro htest
    -- the configuration is no directory of tests by its name
    have hname : name ≠ configName := by
      rintro rfl
      exact absurd htest (by decide)
    have hkept := hwrites.kept (place ++ [name]) (by simpa using hname)
    show (∃ items, fs.root.at? (place ++ [name]) = _) ↔ ∃ items,
      fs'.root.at? (place ++ [name]) = _
    rw [← Item.own?_eq_directory, ← Item.own?_eq_directory, hkept]

/-! ### What an `init` comes to -/

theorem find_of_list (h : fs.list directory = .ok items) :
    fs.find directory = .ok (.directory items) := by
  obtain ⟨item, hitem, h⟩ := bind_eq_ok.mp h
  cases item with
  | file bytes => cases h
  | directory sub =>
      cases h
      exact hitem

/-- What cannot be listed is no directory. -/
theorem isDirectory_of_list_error {cause : FileCause}
    (h : fs.list directory = .error cause) : fs.isDirectory directory = false := by
  rw [Bool.eq_false_iff]
  intro hdirectory
  obtain ⟨items, hitems⟩ := isDirectory_eq_true_iff.mp hdirectory
  rw [list, bind_of_ok hitems] at h
  cases h

end Files

/-- The configuration that is written for the directories of tests, as the file has it. -/
def configBytes (tests : List String) : List UInt8 :=
  Text.encodeUtf8 (Template.configuration tests)

/-- What can become of an `init`. -/
inductive Inits (fs : Files) (directory : String) (force : Bool) : Run × Files → Prop
  /-- There is a configuration, and nothing forces another one. -/
  | refused (output : String) : fs.holds (Path.join directory configName) = true ∧
      force = false →
      Inits fs directory force ({ output, result := .ok 1 }, fs)
  /-- The directory is none, or the configuration is one. -/
  | failed (fault : Fault) :
      ¬(fs.holds (Path.join directory configName) = true ∧ force = false) →
      (fs.isDirectory directory = false ∨
        fs.isDirectory (Path.join directory configName) = true) →
      Inits fs directory force ({ result := .error fault }, fs)
  | written {place : Place} {items : Items} :
      ¬(fs.holds (Path.join directory configName) = true ∧ force = false) →
      fs.locate directory = .ok place → fs.at? place = some (.directory items) →
      (∀ sub, items.get? configName ≠ some (.directory sub)) →
      Inits fs directory force ({ result := .ok 0 },
        { fs with
          root := fs.root.put (place ++ [configName])
            (.file (configBytes (testDirectories items))) })

/-- Initializing ends in one of the ways that there are. -/
theorem init_inits (fs : Files) (directory : String) (force : Bool) :
    Inits fs directory force (init fs directory force) := by
  rw [init]
  dsimp only
  split
  · -- a configuration is there, and is not to be replaced
    rename_i hthere
    rw [Bool.and_eq_true, Bool.not_eq_true'] at hthere
    exact .refused _ hthere
  · rename_i hgo
    rw [Bool.and_eq_true, Bool.not_eq_true'] at hgo
    rcases hlist : fs.list directory with cause | items
    · exact .failed _ hgo (.inl (Files.isDirectory_of_list_error hlist))
    · obtain ⟨place, hplace, hat⟩ := Files.exists_of_find (Files.find_of_list hlist)
      -- a directory may have the name of the configuration
      by_cases hfree : ∃ sub, items.get? configName = some (.directory sub)
      · obtain ⟨sub, hsub⟩ := hfree
        have hfind : fs.find (Path.join directory configName) = .ok (.directory sub) := by
          rw [Files.find_join hplace hat Files.isEntryName_config, hsub]
          rfl
        simp only [Files.writeBytes, Files.placeFor_of_directory hfind, bind, Except.bind]
        exact .failed _ hgo (.inr (Files.isDirectory_eq_true_iff.mpr ⟨sub, hfind⟩))
      · have hfree : ∀ sub, items.get? configName ≠ some (.directory sub) := by
          intro sub hsub
          exact hfree ⟨sub, hsub⟩
        simp only [Files.writeBytes,
          Files.placeFor_join hplace hat Files.isEntryName_config hfree, bind,
          Except.bind, pure, Except.pure]
        exact .written hgo hplace hat hfree

/-- A configuration is written in a directory, and is not one itself. -/
theorem Inits.isDirectory_of_written {fs : Files} {directory : String} {place : Place}
    {items : Items}
    (hplace : fs.locate directory = .ok place)
    (hat : fs.at? place = some (.directory items))
    (hfree : ∀ sub, items.get? configName ≠ some (.directory sub)) :
    fs.isDirectory directory = true ∧
      fs.isDirectory (Path.join directory configName) = false := by
  constructor
  · rw [Files.isDirectory_eq_true_iff]
    exact ⟨items, bind_eq_ok.mpr ⟨place, hplace, by rw [hat]; rfl⟩⟩
  · -- what is found at the configuration is no directory
    rw [Bool.eq_false_iff]
    intro hdirectory
    obtain ⟨sub, hsub⟩ := Files.isDirectory_eq_true_iff.mp hdirectory
    rw [Files.find_join hplace hat Files.isEntryName_config] at hsub
    rcases hget : items.get? configName with - | item
    · rw [hget] at hsub
      cases hsub
    · rw [hget] at hsub
      cases hsub
      exact hfree sub hget

end Project

namespace Application

open Project

/-! ### Commands on a project -/

/-- A command on the project in a directory. -/
inductive Action where
  | init (force : Bool)
  | lint (answers : Answers) (changedOnly full : Bool)

section

variable [Host]

/-- Calls a command on the project in a directory. -/
def Action.perform (fs : Files) (directory : String) : Action → Session
  | .init force =>
    call fs {} initCommand [("project_directory", .text directory),
      ("force", .bool force)]
  | .lint answers changedOnly full =>
    call fs answers lintCommand
      [("modified_only", .bool changedOnly), ("project_directory", .text directory),
        ("verbose", .bool full)]

/-- The tree after commands, one after the other. -/
def after (fs : Files) (directory : String) : List Action → Files
  | [] => fs
  | action :: rest => after (action.perform fs directory).files directory rest

theorem perform_init (fs : Files) (directory : String) (force : Bool) :
    (Action.init force).perform fs directory =
      sessionOf (Project.init fs directory force) :=
  call_init fs {} directory force

theorem perform_lint (fs : Files) (directory : String) (answers : Answers)
    (changedOnly full : Bool) :
    (Action.lint answers changedOnly full).perform fs directory =
      sessionOf (Project.lint fs answers changedOnly directory full) :=
  call_lint fs answers directory changedOnly full

/-- Whether nobody else writes when a command is called: the version control system
leaves the tree as it is if it is asked, and so do all functions that the rules call. -/
def Action.IsOnlyWriter (fs : Files) (directory : String) : Action → Prop
  | .init _ => True
  | .lint answers changedOnly _ =>
    (changedOnly = true → answers.LeaveTree fs.root) ∧
      ∀ rules, loadRules fs (fs.absolute (Path.join directory configName)) =
        .ok (.ok rules) →
        ∀ r ∈ rules, r.KeepsFiles

/-- Whether nobody else writes while commands are called, one after the other. -/
def NobodyElseWrites (fs : Files) (directory : String) : List Action → Prop
  | [] => True
  | action :: rest => action.IsOnlyWriter fs directory ∧
      NobodyElseWrites (action.perform fs directory).files directory rest

/-- Effects are looked at action by action, each on the tree that the ones before it
left. -/
theorem nobodyElseWrites_append {fs : Files} {directory : String}
    {front rest : List Action} :
    NobodyElseWrites fs directory (front ++ rest) ↔
      NobodyElseWrites fs directory front ∧
        NobodyElseWrites (after fs directory front) directory rest := by
  induction front generalizing fs with
  | nil => simp [NobodyElseWrites, after]
  | cons action front ih =>
      rw [List.cons_append, NobodyElseWrites, ih, NobodyElseWrites, after, and_assoc]

end

/-- What a command does in a project with directories of tests. -/
structure Does (fs : Files) (directory : String) (tests : List String) (action : Action)
    (s : Session) : Prop where
  /-- Only an `init` that ends with 0 changes anything. -/
  kept : ¬((∃ force, action = .init force) ∧ s.result = .ok 0) → s.files = fs
  /-- Such an `init` writes the configuration for the directories of tests, and nothing
  else. -/
  written : (∃ force, action = .init force) → s.result = .ok 0 → ∃ place,
    fs.locate directory = .ok place ∧
    fs.HoldsTests place tests ∧
      fs.Writes s.files (place ++ [configName]) (configBytes tests) ∧
    s.files.find (Path.join directory configName) = .ok (.file (configBytes tests))
  /-- An `init` is refused if there is a configuration and nothing forces another one. -/
  refused : ∀ force, action = .init force →
    (s.result = .ok 1 ↔ fs.holds (Path.join directory configName) = true ∧ force = false)
  /-- An `init` fails if the directory is none, or if there is one in the place of the
  configuration. -/
  failed : ∀ force, action = .init force →
    ((∃ fault, s.result = .error fault) ↔
      ¬(fs.holds (Path.join directory configName) = true ∧ force = false) ∧
      (fs.isDirectory directory = false ∨
        fs.isDirectory (Path.join directory configName) = true))
  /-- In all other cases it ends with 0. -/
  succeeded : ∀ force, action = .init force →
    (s.result = .ok 0 ↔ ¬(fs.holds (Path.join directory configName) = true ∧
      force = false) ∧
      fs.isDirectory directory = true ∧
        fs.isDirectory (Path.join directory configName) = false)

/-- What holds of a tree between two commands: entries are in order, and the directories
of tests are known. -/
structure Stands (fs : Files) (directory : String) (tests : List String) : Prop where
  inOrder : fs.root.InOrder
  tests : ∀ place items, fs.locate directory = .ok place → fs.at? place =
    some (.directory items) → fs.HoldsTests place tests

/-- Every tree stands in some way to what its directory holds. -/
theorem exists_stands {fs : Files} (h : fs.root.InOrder) (directory : String) :
    ∃ tests, Stands fs directory tests := by
  by_cases hdirectory : ∃ place items, fs.locate directory = .ok place ∧ fs.at? place =
    some (.directory items)
  · obtain ⟨place, items, hplace, hat⟩ := hdirectory
    refine ⟨testDirectories items, h, ?_⟩
    intro place' items' hplace' hat'
    cases hplace.symm.trans hplace'
    exact Files.holdsTests_testDirectories hat (h.at? hat)
  · refine ⟨[], h, ?_⟩
    intro place items hplace hat
    exact absurd ⟨place, items, hplace, hat⟩ hdirectory

variable {fs : Files} {directory : String} {tests : List String}

/-- The directory and its list of tests are found as before when a configuration has
been written. -/
theorem Stands.of_writes (h : Stands fs directory tests) {fs' : Files} {place : Place}
    {items : Items} {bytes : List UInt8}
    (hplace : fs.locate directory = .ok place)
    (hat : fs.at? place = some (.directory items))
    (hwrites : fs.Writes fs' (place ++ [configName]) bytes) (hfs' : fs'.root.InOrder) :
    Stands fs' directory tests where
  inOrder := hfs'
  tests := by
    intro other items' hother _
    cases (Files.locate_of_grows hwrites.grows hplace).symm.trans hother
    exact (h.tests place items hplace hat).of_writes hwrites

/-- An `init` that writes a configuration leaves a tree that stands as it stood before. -/
theorem Stands.of_written (h : Stands fs directory tests) {force : Bool} {place : Place}
    {items : Items}
    (hgo : ¬(fs.holds (Path.join directory configName) = true ∧ force = false))
    (hplace : fs.locate directory = .ok place)
    (hat : fs.at? place = some (.directory items))
    (hfree : ∀ sub, items.get? configName ≠ some (.directory sub))
    {s : Session} (hresult : s.result = .ok 0)
    (hfiles : s.files = { fs with
      root := fs.root.put (place ++ [configName])
        (.file (configBytes (testDirectories items))) }) :
    Does fs directory tests (.init force) s ∧ Stands s.files directory tests := by
  obtain ⟨hdirectory, hconfig⟩ := Inits.isDirectory_of_written hplace hat hfree
  -- the list that the configuration is made from is the one that is known
  have htests := h.tests place items hplace hat
  have heq : testDirectories items = tests :=
    (Files.holdsTests_testDirectories hat (h.inOrder.at? hat)).unique htests
  rw [heq] at hfiles
  have hwrites : fs.Writes s.files (place ++ [configName]) (configBytes tests) :=
    hfiles ▸ Files.writes_put hat hfree _
  have hplace' := Files.locate_of_grows hwrites.grows hplace
  have hat' : s.files.at? place =
      some (.directory (items.insert configName (.file (configBytes tests)))) := by
    rw [hfiles]
    exact Item.at?_put_above hat _ _
  refine ⟨⟨?_, ?_, ?_, ?_, ?_⟩, h.of_writes hplace hat hwrites ?_⟩
  · intro hnot
    exact absurd ⟨⟨force, rfl⟩, hresult⟩ hnot
  · intro _ _
    refine ⟨place, hplace, htests, hwrites, ?_⟩
    rw [Files.find_join hplace' hat' Files.isEntryName_config,
      Items.get?_insert, if_pos rfl]
    rfl
  · rintro _ ⟨⟩
    simp [hresult, hgo]
  · rintro _ ⟨⟩
    simp [hresult, hdirectory, hconfig]
  · rintro _ ⟨⟩
    simp [hresult, hgo, hdirectory, hconfig]
  · rw [hfiles]
    exact h.inOrder.put (show Item.InOrder (.file _) from trivial) _

/-- An `init` does one of three things, and the tree stands afterwards as it stood
before. -/
theorem Stands.of_inits (h : Stands fs directory tests) {force : Bool}
    {outcome : Run × Files} (hinits : Inits fs directory force outcome)
    {s : Session} (hresult : s.result = outcome.1.result) (hfiles : s.files = outcome.2) :
    Does fs directory tests (.init force) s ∧ Stands s.files directory tests := by
  cases hinits with
  | refused output hthere =>
      refine ⟨⟨fun _ => hfiles, ?_, ?_, ?_, ?_⟩, hfiles ▸ h⟩
      · intro _ hzero
        cases hresult.symm.trans hzero
      all_goals
        rintro _ ⟨⟩
        simp [hresult, hthere]
  | failed fault hgo hbad =>
      refine ⟨⟨fun _ => hfiles, ?_, ?_, ?_, ?_⟩, hfiles ▸ h⟩
      · intro _ hzero
        cases hresult.symm.trans hzero
      · rintro _ ⟨⟩
        simp only [hresult, reduceCtorEq, false_iff]
        exact hgo
      · rintro _ ⟨⟩
        exact ⟨fun _ => ⟨hgo, hbad⟩, fun _ => ⟨fault, hresult⟩⟩
      · rintro _ ⟨⟩
        simp only [hresult, reduceCtorEq, false_iff]
        rintro ⟨-, hdirectory, hconfig⟩
        rcases hbad with hbad | hbad
        · exact Bool.noConfusion (hbad.symm.trans hdirectory)
        · exact Bool.noConfusion (hconfig.symm.trans hbad)
  | written hgo hplace hat hfree =>
      exact h.of_written hgo hplace hat hfree hresult hfiles

section

variable [Host]

/-- One command. -/
theorem Stands.perform (h : Stands fs directory tests) {action : Action}
    (honly : action.IsOnlyWriter fs directory) :
    Does fs directory tests action (action.perform fs directory) ∧
      Stands (action.perform fs directory).files directory tests := by
  cases action with
  | lint answers changedOnly full =>
      -- nothing that the run asks or calls leaves another tree
      have hfiles : (Project.lint fs answers changedOnly directory full).2 = fs :=
        files_lint honly.1 honly.2 full
      rw [perform_lint]
      -- the run itself does not matter any more
      generalize Project.lint fs answers changedOnly directory full = ran at hfiles ⊢
      refine ⟨⟨fun _ => hfiles, ?_, ?_, ?_, ?_⟩, ?_⟩
      · rintro ⟨force, ⟨⟩⟩
      · rintro force ⟨⟩
      · rintro force ⟨⟩
      · rintro force ⟨⟩
      · rw [sessionOf, hfiles]
        exact h
  | init force =>
      rw [perform_init]
      exact h.of_inits (init_inits fs directory force) rfl rfl

/-- Commands, one after the other. -/
theorem Stands.after (h : Stands fs directory tests) {actions : List Action}
    (honly : NobodyElseWrites fs directory actions) :
    Stands (after fs directory actions) directory tests := by
  induction actions generalizing fs with
  | nil => exact h
  | cons action rest ih => exact ih (h.perform honly.1).2 honly.2

/-- **A project is initialized as a whole or not at all.** Whatever commands came
before, a command leaves all of the tree as it is, except an `init` that ends with 0: it
writes the configuration for the directories of tests and nothing else, and it writes
the same one whenever it comes. -/
theorem actions_whole_or_nothing {fs : Files} (hfs : fs.root.InOrder)
    (directory : String) :
    ∃ tests, ∀ (past : List Action) (action : Action),
      NobodyElseWrites fs directory (past ++ [action]) →
      Does (after fs directory past) directory tests action
        (action.perform (after fs directory past) directory) := by
  obtain ⟨tests, h⟩ := exists_stands hfs directory
  refine ⟨tests, fun past action honly => ?_⟩
  obtain ⟨hpast, haction, -⟩ := nobodyElseWrites_append.mp honly
  exact ((h.after hpast).perform haction).1

end

/-- The entries of a project with a configuration and two directories of tests. -/
def testedItems : Items :=
  (((Items.nil.insert "tests" (.directory .nil)).insert "m.py" (.file [])).insert
    "test_more"
    (.directory .nil)).insert configName (.file (bytesOf Config.oneRule))

/-- The project in the root. -/
def testedProject : Files :=
  ⟨.directory testedItems, []⟩

theorem testedItems_inOrder : testedItems.InOrder := by
  have hnil : Items.InOrder .nil := trivial
  have hempty : Item.InOrder (.directory .nil) := trivial
  have hfile (bytes : List UInt8) : Item.InOrder (.file bytes) := trivial
  exact (((hnil.insert hempty "tests").insert (hfile _) "m.py").insert hempty
    "test_more").insert
    (hfile _) configName

theorem toList_testedItems : testedItems.toList =
    [(configName, .file (bytesOf Config.oneRule)), ("m.py", .file []),
      ("test_more", .directory .nil), ("tests", .directory .nil)] := by
  rfl

theorem testDirectories_testedItems :
    testDirectories testedItems = ["test_more", "tests"] := by
  rw [testDirectories, toList_testedItems]
  simp [Item.isDirectory]

theorem find_testedProject : testedProject.locate "/" = .ok [] ∧
    testedProject.find "/" = .ok testedProject.root ∧
    testedProject.find (Path.join "/" configName) =
      .ok (.file (bytesOf Config.oneRule)) := by
  have hlocate : testedProject.locate "/" = .ok [] := by
    rw [Files.locate_eq (by decide), Files.startOf,
      if_pos (Path.isAbsolute_iff.mpr (by decide))]
    rfl
  refine ⟨hlocate, bind_eq_ok.mpr ⟨[], hlocate, rfl⟩, ?_⟩
  rw [Files.find_join hlocate rfl Files.isEntryName_config]
  rfl

open scoped Standard

/-- The rules of the configuration call nothing, and the version control system writes
nothing. -/
theorem nobodyElseWrites_testedProject : NobodyElseWrites testedProject "/"
    [.lint { staged := "m.py\n" } true false, .init true, .init false] := by
  simp only [NobodyElseWrites, Action.IsOnlyWriter, and_true]
  refine ⟨fun _ => ⟨rfl, rfl, rfl⟩, ?_⟩
  have hconfig := find_testedProject.2.2
  have hpath : testedProject.absolute (Path.join "/" configName) =
      "/.bellybutton.yml" := by
    rw [Path.join_root isName_config, Files.absolute, Path.absolute,
      if_pos (Path.isAbsolute_iff.mpr (by decide))]
    decide
  rw [Path.join_root isName_config] at hconfig
  have hload := loadRules_of_find hconfig
  intro rules hrules
  rw [hpath, hload] at hrules
  cases hrules
  exact keepsFiles_ruleWith _

/-- A `lint` leaves the tree as it is, a forced `init` writes a configuration, and the
next one is refused. -/
theorem actions_whole_or_nothing_testedProject : testedProject.root.InOrder ∧
    after testedProject "/" [.lint { staged := "m.py\n" } true false] = testedProject ∧
    ((Action.init true).perform testedProject "/").result = .ok 0 ∧
    (after testedProject "/" [.lint { staged := "m.py\n" } true false, .init true]).find
      (Path.join "/" configName) = .ok (.file (configBytes ["test_more", "tests"])) ∧
    ((Action.init false).perform (after testedProject "/"
      [.lint { staged := "m.py\n" } true false, .init true]) "/").result = .ok 1 := by
  have hfs : testedProject.root.InOrder := testedItems_inOrder
  obtain ⟨tests, h⟩ := actions_whole_or_nothing hfs "/"
  obtain ⟨hlocate, hroot, hconfig⟩ := find_testedProject
  obtain ⟨hlint, -⟩ := nobodyElseWrites_testedProject
  -- the first command
  have hkept : after testedProject "/" [.lint { staged := "m.py\n" } true false] =
      testedProject := by
    have hfirst := h [] (.lint { staged := "m.py\n" } true false) ⟨hlint, trivial⟩
    rw [after] at hfirst
    rw [after, after]
    refine hfirst.kept ?_
    rintro ⟨⟨force, ⟨⟩⟩, -⟩
  -- the second one
  have hsecond := h [.lint { staged := "m.py\n" } true false] (.init true) ⟨hlint,
    trivial, trivial⟩
  rw [hkept] at hsecond
  have hzero : ((Action.init true).perform testedProject "/").result = .ok 0 := by
    refine (hsecond.succeeded true rfl).mpr ⟨?_, ?_, ?_⟩
    · rintro ⟨-, ⟨⟩⟩
    · exact Files.isDirectory_eq_true_iff.mpr ⟨_, hroot⟩
    · rw [Files.isDirectory, hconfig]
      rfl
  obtain ⟨place, hplace, htests, -, hfind⟩ := hsecond.written ⟨true, rfl⟩ hzero
  cases hlocate.symm.trans hplace
  have hsame : tests = ["test_more", "tests"] := by
    rw [← testDirectories_testedItems]
    exact htests.unique (Files.holdsTests_testDirectories rfl testedItems_inOrder)
  subst hsame
  have hafter :
    after testedProject "/" [.lint { staged := "m.py\n" } true false, .init true] =
      ((Action.init true).perform testedProject "/").files := by
    rw [after, after] at hkept
    rw [after, after, after, hkept]
  rw [← hafter] at hfind
  refine ⟨hfs, hkept, hzero, hfind, ?_⟩
  -- the last one
  refine ((h _ (.init false) nobodyElseWrites_testedProject).refused false rfl).mpr ⟨?_,
    rfl⟩
  rw [Files.holds, hfind]

end Application

end RuleLint
