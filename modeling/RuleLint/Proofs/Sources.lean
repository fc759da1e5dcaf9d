/-
RuleLint/Proofs/Sources.lean

The sources of a project.  In a tree as a file system has it, entries of a directory
have different names, and no name is empty or holds a slash.  Then a path tells the
names on the way to it, so the walk through a directory comes to no path twice
(`Files.sources_nodup`).

The argument follows the walk: every path of it goes on behind the path of the directory
with the name of an entry and then ends or has a slash (`Items.mem_sources`), so paths
below different entries differ where the names do.
-/
import Mathlib.Data.List.Nodup
import RuleLint.Project.Read
import RuleLint.Proofs.Steps

namespace RuleLint

/-! ### Paths in a directory -/

/-- What can be the name of an entry of a directory. -/
def IsName (name : String) : Prop :=
  name ≠ "" ∧ '/' ∉ name.toList

theorem isName_star : IsName "*" := by
  unfold IsName
  decide

namespace Path

theorem endsWith_iff {s t : String} : s.endsWith t = true ↔ t.toList <:+ s.toList := by
  rw [← String.endsWith_toSlice, String.Slice.endsWith_string_iff, String.copy_toSlice]

/-- What stands in front of the names of entries in the paths of a directory. -/
def lead (p : String) : List Char :=
  if p.isEmpty || p.endsWith "/" then p.toList else p.toList ++ ['/']

theorem isAbsolute_iff {p : String} : isAbsolute p = true ↔ ['/'] <+: p.toList := by
  rw [isAbsolute, String.startsWith_string_iff]
  rfl

/-- A path that is not absolute is put behind a slash. -/
theorem toList_join_of_not_isAbsolute {b : String} (h : isAbsolute b = false)
    (a : String) : (join a b).toList = lead a ++ b.toList := by
  rw [isAbsolute] at h
  rw [join, h, lead]
  cases a.isEmpty || a.endsWith "/" <;> simp

theorem toList_join {name : String} (h : IsName name) (p : String) :
    (join p name).toList = lead p ++ name.toList := by
  refine toList_join_of_not_isAbsolute ?_ p
  rw [Bool.eq_false_iff]
  intro habsolute
  obtain ⟨t, ht⟩ := isAbsolute_iff.mp habsolute
  exact h.2 (by rw [← ht]; simp)

/-- What leads to an entry of a directory leads to the directory first. -/
theorem lead_join {name : String} (h : IsName name) (p : String) :
    lead (join p name) = lead p ++ (name.toList ++ ['/']) := by
  have hne : name.toList ≠ [] := fun hnil => h.1 (String.toList_eq_nil_iff.mp hnil)
  have hempty : (join p name).isEmpty = false := by
    rw [Bool.eq_false_iff]
    intro hempty
    have hnil : (join p name).toList = [] := by simpa using hempty
    rw [toList_join h] at hnil
    exact hne (List.append_eq_nil_iff.mp hnil).2
  have hend : (join p name).endsWith "/" = false := by
    rw [Bool.eq_false_iff]
    intro hend
    obtain ⟨t, ht⟩ := endsWith_iff.mp hend
    rw [toList_join h] at ht
    -- the last character of the path is one of the name
    have hlast := congrArg List.getLast? ht
    rw [List.getLast?_append_of_ne_nil _ hne] at hlast
    have hmem : '/' ∈ name.toList := List.mem_of_getLast? (hlast.symm.trans (by simp))
    exact h.2 hmem
  rw [lead, hempty, hend, toList_join h]
  simp

theorem join_root {name : String} (h : IsName name) :
    join "/" name = String.ofList ('/' :: name.toList) := by
  have hlead : lead "/" = ['/'] := by
    rw [lead, endsWith_iff.mpr (List.suffix_refl _)]
    simp
  rw [← String.toList_inj, toList_join h, hlead, String.toList_ofList,
    List.singleton_append]

theorem lead_of_getLast? {p : String} (hne : p.toList ≠ [])
    (hlast : p.toList.getLast? ≠ some '/') : lead p = p.toList ++ ['/'] := by
  have hend : p.endsWith "/" = false := by
    rw [Bool.eq_false_iff]
    intro hend
    obtain ⟨body, hbody⟩ := endsWith_iff.mp hend
    exact hlast (by rw [← hbody]; exact List.getLast?_concat)
  have hempty : p.isEmpty = false := by
    rw [Bool.eq_false_iff]
    intro hempty
    exact hne (by simpa using hempty)
  rw [lead, hempty, hend]
  simp

/-- A slash is put between a path and a name, unless there is one. -/
theorem join_of_getLast? {p name : String} (hne : p.toList ≠ [])
    (hlast : p.toList.getLast? ≠ some '/') (hname : IsName name) :
    join p name = p ++ "/" ++ name := by
  rw [← String.toList_inj, toList_join hname, lead_of_getLast? hne hlast]
  simp

theorem lead_of_isName {name : String} (h : IsName name) :
    lead name = name.toList ++ ['/'] :=
  lead_of_getLast? (fun hnil => h.1 (String.toList_eq_nil_iff.mp hnil)) fun hlast =>
    h.2 (List.mem_of_getLast? hlast)

/-- Names are joined to a path one after the other. -/
theorem join_join {directory name : String} (hdirectory : IsName directory)
    (hname : IsName name) (p : String) :
    join p (join directory name) = join (join p directory) name := by
  have hinner : (join directory name).toList = directory.toList ++ ['/'] ++
      name.toList := by
    rw [toList_join hname, lead_of_isName hdirectory]
  have hrelative : isAbsolute (join directory name) = false := by
    rw [Bool.eq_false_iff]
    intro habsolute
    obtain ⟨t, ht⟩ := isAbsolute_iff.mp habsolute
    rw [hinner] at ht
    -- the first character is one of the directory
    cases hchars : directory.toList with
    | nil => exact hdirectory.1 (String.toList_eq_nil_iff.mp hchars)
    | cons c cs =>
        rw [hchars] at ht
        obtain rfl : '/' = c := (List.cons.inj ht).1
        exact hdirectory.2 (by rw [hchars]; exact List.mem_cons_self)
  rw [← String.toList_inj, toList_join_of_not_isAbsolute hrelative, hinner,
    toList_join hname, lead_join hdirectory]
  simp

/-- The shortest spelling of a path from the root is from the root. -/
theorem isAbsolute_normal {p : String} (h : isAbsolute p = true) :
    isAbsolute (normal p) = true := by
  obtain ⟨rest, hp⟩ := isAbsolute_iff.mp h
  -- an absolute path has a slash in front in every form
  have hroot : ['/'] <+: (rootSlashes p).toList := by
    rw [List.singleton_append] at hp
    unfold rootSlashes
    split
    · simp
    · simp
    · simp
    · rename_i hother
      exact absurd hp.symm (hother rest)
  have hstart : ∀ s, ['/'] <+: (rootSlashes p ++ s).toList := by
    intro s
    rw [String.toList_append]
    exact hroot.trans (List.prefix_append _ _)
  rw [isAbsolute_iff, normal]
  split
  · -- only a path with nothing in it is the current directory
    rename_i hempty
    have hstart := hstart ("/".intercalate
      ((components p).foldl (addComponent (!(rootSlashes p).isEmpty)) []).reverse)
    rw [String.isEmpty_iff.mp hempty] at hstart
    simp at hstart
  · exact hstart _

end Path

namespace Project

/-- Paths are made absolute from the current directory. -/
theorem Files.isAbsolute_absolute (fs : Files) (p : String) :
    Path.isAbsolute (fs.absolute p) = true := by
  rw [absolute, Path.absolute]
  apply Path.isAbsolute_normal
  split
  · assumption
  · rw [Path.join, if_neg (by assumption), Path.isAbsolute_iff, herePath]
    split
    all_goals simp [String.toList_append]

/-- What a path from the root leads to. -/
theorem Files.find_of_components {fs : Files} {path : String}
    (hpath : Path.isAbsolute path = true) {place : Place} {item : Item}
    (hplace : (Path.components path).foldlM fs.step [] = .ok place)
    (hitem : fs.at? place = some item) : fs.find path = .ok item := by
  have hne : path.isEmpty = false := by
    rw [Bool.eq_false_iff]
    intro hempty
    obtain ⟨t, ht⟩ := Path.isAbsolute_iff.mp hpath
    rw [String.isEmpty_iff.mp hempty] at ht
    cases ht
  have hlocate : fs.locate path = .ok place := by
    rw [Files.locate, hne, Files.startOf, hpath]
    exact hplace
  exact bind_eq_ok.mpr ⟨place, hlocate, by rw [hitem]; rfl⟩

/-! ### Trees as a file system has them -/

mutual

/-- The entries of every directory have different names that can be names. -/
def Item.WellFormed : Item → Prop
  | .file _ => True
  | .directory items => items.WellFormed

/-- Entries of a directory with different names that can be names. -/
def Items.WellFormed : Items → Prop
  | .nil => True
  | .cons name item rest =>
      IsName name ∧ rest.get? name = none ∧ item.WellFormed ∧ rest.WellFormed

end

/-- What is well-formed is so throughout, for the entries of a directory. -/
theorem Items.WellFormed.get? {items : Items} (h : items.WellFormed) {name : String}
    {item : Item} (hget : items.get? name = some item) :
    item.WellFormed := by
  match items, h with
  | .cons other first rest, h =>
      rw [Items.WellFormed] at h
      rw [Items.get?] at hget
      split at hget
      · cases hget
        exact h.2.2.1
      · exact Items.WellFormed.get? h.2.2.2 hget

theorem Item.WellFormed.at? {item : Item} (h : item.WellFormed) {place : Place}
    {found : Item} (hat : item.at? place = some found) :
    found.WellFormed := by
  induction place generalizing item with
  | nil =>
      cases hat
      exact h
  | cons name place ih =>
      rw [Item.at?] at hat
      obtain ⟨child, hchild, hfound⟩ := Option.bind_eq_some_iff.mp hat
      cases item with
      | file bytes => cases hchild
      | directory items => exact ih (Items.WellFormed.get? h hchild) hfound

/-- And what is found by a path is a part of the tree. -/
theorem Files.find_wellFormed {fs : Files} (h : fs.root.WellFormed) {path : String}
    {item : Item} (hfind : fs.find path = .ok item) :
    item.WellFormed := by
  obtain ⟨place, -, hfind⟩ := bind_eq_ok.mp hfind
  split at hfind
  · cases hfind
    exact h.at? ‹_›
  · cases hfind

/-! ### The walk -/

/-- The sources of an entry of a directory with a path: the entry itself, or what is
below it. -/
def entrySources (path name : String) (item : Item) : List String :=
  (if !item.isDirectory && isSource name then [Path.join path name] else []) ++
    item.sources (Path.join path name)

/-- The sources of a directory are those of its entries, in order. -/
theorem Items.sources_cons (path name : String) (item : Item) (rest : Items) :
    (Items.cons name item rest).sources path = entrySources path name item ++
      rest.sources path := by
  rw [Items.sources, entrySources]

mutual

/-- A source is below the directory that is walked. -/
theorem Item.lead_prefix_of_mem {item : Item} (h : item.WellFormed) {path p : String}
    (hp : p ∈ item.sources path) :
    Path.lead path <+: p.toList := by
  match item, h with
  | .file _, _ =>
      rw [Item.sources] at hp
      cases hp
  | .directory items, h =>
      rw [Item.sources] at hp
      exact Items.lead_prefix_of_mem h hp

theorem Items.lead_prefix_of_mem {items : Items} (h : items.WellFormed) {path p : String}
    (hp : p ∈ items.sources path) :
    Path.lead path <+: p.toList := by
  match items, h with
  | .nil, _ =>
      rw [Items.sources] at hp
      cases hp
  | .cons name item rest, h =>
      rw [Items.WellFormed] at h
      obtain ⟨hname, -, hitem, hrest⟩ := h
      rw [Items.sources_cons, entrySources, List.mem_append, List.mem_append] at hp
      -- an entry is a source itself, holds one, or is followed by others
      rcases hp with (hp | hp) | hp
      · split at hp
        · rw [List.mem_singleton.mp hp, Path.toList_join hname]
          exact List.prefix_append _ _
        · cases hp
      · have hlead := Item.lead_prefix_of_mem hitem hp
        rw [Path.lead_join hname] at hlead
        exact (List.prefix_append _ _).trans hlead
      · exact Items.lead_prefix_of_mem hrest hp

end

/-- What may follow a name in a path: nothing, or a slash and more. -/
def EndsName (tail : List Char) : Prop :=
  tail = [] ∨ ∃ more, tail = '/' :: more

/-- Behind the path of the directory comes the name of the entry, and then it ends. -/
theorem mem_entrySources {path name p : String} {item : Item} (hname : IsName name)
    (hitem : item.WellFormed)
    (hp : p ∈ entrySources path name item) :
    ∃ tail, p.toList = Path.lead path ++ (name.toList ++ tail) ∧ EndsName tail := by
  rcases List.mem_append.mp hp with hp | hp
  · split at hp
    · refine ⟨[], ?_, Or.inl rfl⟩
      rw [List.mem_singleton.mp hp, Path.toList_join hname, List.append_nil]
    · cases hp
  · obtain ⟨more, hmore⟩ := item.lead_prefix_of_mem hitem hp
    refine ⟨'/' :: more, ?_, Or.inr ⟨more, rfl⟩⟩
    rw [← hmore, Path.lead_join hname]
    simp

/-- A path of the walk belongs to an entry. -/
theorem Items.mem_sources {items : Items} (h : items.WellFormed) {path p : String}
    (hp : p ∈ items.sources path) :
    ∃ name tail, (items.get? name).isSome ∧ IsName name ∧ p.toList = Path.lead path ++
      (name.toList ++ tail) ∧ EndsName tail := by
  match items, h with
  | .nil, _ =>
      rw [Items.sources] at hp
      cases hp
  | .cons name item rest, h =>
      rw [Items.WellFormed] at h
      obtain ⟨hname, -, hitem, hrest⟩ := h
      rw [Items.sources_cons] at hp
      -- the source is in the first entry or in one behind it
      rcases List.mem_append.mp hp with hp | hp
      · obtain ⟨tail, hp, htail⟩ := mem_entrySources hname hitem hp
        exact ⟨name, tail, by simp [Items.get?], hname, hp, htail⟩
      · obtain ⟨other, tail, hsome, hother, hp, htail⟩ := Items.mem_sources hrest hp
        refine ⟨other, tail, ?_, hother, hp, htail⟩
        rw [Items.get?]
        split
        · rfl
        · exact hsome

/-- Names without a slash can be told from what they begin. -/
theorem name_eq_of_append_eq {a b s t : List Char} (ha : '/' ∉ a) (hb : '/' ∉ b)
    (hs : EndsName s) (ht : EndsName t)
    (h : a ++ s = b ++ t) : a = b := by
  -- a name is what comes before the first slash
  have hcut : ∀ {c u : List Char}, '/' ∉ c → EndsName u →
      (c ++ u).takeWhile (· != '/') = c := by
    intro c u hc hu
    have hall : ∀ x ∈ c, (x != '/') = true :=
      fun x hx => bne_iff_ne.mpr fun hx' => hc (hx' ▸ hx)
    rw [List.takeWhile_append_of_pos hall]
    rcases hu with rfl | ⟨more, rfl⟩ <;> simp
  rw [← hcut ha hs, h, hcut hb ht]

/-- What is below an entry is not the entry itself. -/
theorem entrySources_nodup {path name : String} {item : Item} (hname : IsName name)
    (hitem : item.WellFormed)
    (hbelow : (item.sources (Path.join path name)).Nodup) :
    (entrySources path name item).Nodup := by
  refine List.nodup_append.mpr ⟨?_, hbelow, ?_⟩
  · split
    · exact List.nodup_singleton _
    · exact List.nodup_nil
  · rintro p hown q hp rfl
    split at hown
    · obtain ⟨more, hmore⟩ := item.lead_prefix_of_mem hitem hp
      rw [List.mem_singleton.mp hown, Path.toList_join hname, Path.lead_join hname]
        at hmore
      have hlength := congrArg List.length hmore
      simp at hlength
    · cases hown

mutual

/-- No source is walked twice: names in a directory differ, and paths through different
entries do, too. -/
theorem Item.sources_nodup {item : Item} (h : item.WellFormed) (path : String) :
    (item.sources path).Nodup := by
  match item, h with
  | .file _, _ =>
      rw [Item.sources]
      exact List.nodup_nil
  | .directory items, h =>
      rw [Item.sources]
      exact Items.sources_nodup h path

/-- The walk through entries with different names comes to no path twice. -/
theorem Items.sources_nodup {items : Items} (h : items.WellFormed) (path : String) :
    (items.sources path).Nodup := by
  match items, h with
  | .nil, _ =>
      rw [Items.sources]
      exact List.nodup_nil
  | .cons name item rest, h =>
      rw [Items.WellFormed] at h
      obtain ⟨hname, hnone, hitem, hrest⟩ := h
      rw [Items.sources_cons]
      refine List.nodup_append.mpr ⟨?_, Items.sources_nodup hrest path, ?_⟩
      · exact entrySources_nodup hname hitem (Item.sources_nodup hitem _)
      · rintro p hp q hq rfl
        obtain ⟨tail, hp, htail⟩ := mem_entrySources hname hitem hp
        obtain ⟨other, tail', hsome, hother, hq, htail'⟩ := Items.mem_sources hrest hq
        have heq := name_eq_of_append_eq hname.2 hother.2 htail htail'
          (List.append_cancel_left (hp.symm.trans hq))
        rw [← String.toList_injective heq, hnone] at hsome
        cases hsome

end

/-- **The walk through a project comes to no source twice.** -/
theorem Files.sources_nodup {fs : Files} (h : fs.root.WellFormed) (path : String) :
    (fs.sources path).Nodup := by
  rw [Files.sources]
  split
  · exact Item.sources_nodup (Files.find_wellFormed h ‹_›) path
  · exact List.nodup_nil

end Project

end RuleLint
