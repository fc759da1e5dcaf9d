/-
RuleLint/Proofs/Visiting.lean

Every source of a project is visited, and nothing else.

The walk through a directory and the places in its tree are two ways to say the same: a
path of the walk is the path of the directory with the names that lead to a source
joined to it, one after the other (`Item.mem_sources_iff`).  In one direction this
follows the walk, in the other the names.  Names joined one by one are names with
slashes between them (`Path.foldl_join`), and from the directory such a path leads where
the names lead (`Files.find_foldl_join`), so each path of the walk is that of the file
it was found for.

What counts as a source is a matter of its last name alone (`isSource_iff`).  Main
result: `sources_visited`.
-/
import Mathlib.Data.List.TakeWhile
import RuleLint.Proofs.Encoding
import RuleLint.Proofs.Trees
import RuleLint.Proofs.Violations

namespace RuleLint

/-! ### Names of sources -/

/-- Whether a name is that of a source: in front of the extension something stands that
is not all dots. -/
def IsSourceName (name : String) : Prop :=
  ∃ front, name = front ++ ".py" ∧ ∃ c ∈ front.toList, c ≠ '.'

namespace Path

theorem baseChars_of_not_mem {cs : List Char} (h : '/' ∉ cs) : baseChars cs = cs := by
  have hall : ∀ c ∈ cs.reverse, (c != '/') = true := by
    intro c hc
    rw [bne_iff_ne]
    rintro rfl
    exact h (List.mem_reverse.mp hc)
  rw [baseChars, List.takeWhile_eq_self_iff.mpr hall, List.reverse_reverse]

/-- What is behind the last dot of a name is `py`, and there is a last dot. -/
theorem behindDot_iff {cs : List Char} :
    (if (cs.reverse.takeWhile (· != '.')).length < cs.length
      then String.ofList ('.' :: (cs.reverse.takeWhile (· != '.')).reverse) else "")
      = ".py" ↔ ∃ front, cs = front ++ ['.', 'p', 'y'] := by
  constructor
  · intro hpy
    split at hpy
    · rename_i hlength
      have htail : (cs.reverse.takeWhile (· != '.')).reverse = ['p', 'y'] := by
        have hlist := congrArg String.toList hpy
        rw [String.toList_ofList] at hlist
        exact (List.cons.inj hlist).2
      have hcut := List.takeWhile_append_dropWhile (p := (· != '.')) (l := cs.reverse)
      -- the reversed name goes on with a dot, since it does not end there
      rcases hdrop : cs.reverse.dropWhile (· != '.') with - | ⟨c, rest⟩
      · rw [hdrop, List.append_nil] at hcut
        rw [hcut, List.length_reverse] at hlength
        exact absurd hlength (Nat.lt_irrefl _)
      · have hdot := List.head?_dropWhile_not (· != '.') cs.reverse
        rw [hdrop] at hdot
        obtain rfl : c = '.' := by simpa using hdot
        refine ⟨rest.reverse, ?_⟩
        rw [hdrop] at hcut
        rw [← List.reverse_reverse cs, ← hcut, List.reverse_append, htail]
        simp
    · exact absurd hpy (by decide)
  · rintro ⟨front, rfl⟩
    simp

/-- A name without the dots in front of it is not empty in front of an extension if
there is something else than dots. -/
theorem exists_dropWhile_iff {cs tail : List Char} (htail : ∃ more, tail = '.' :: more) :
    (∃ front, cs.dropWhile (· == '.') = front ++ tail) ↔ ∃ front, cs = front ++ tail ∧
      ∃ c ∈ front, c ≠ '.' := by
  constructor
  · rintro ⟨front, hfront⟩
    have hdot := List.head?_dropWhile_not (· == '.') cs
    rw [hfront] at hdot
    rcases front with - | ⟨c, front⟩
    · obtain ⟨more, rfl⟩ := htail
      cases hdot
    · refine ⟨cs.takeWhile (· == '.') ++ c :: front, ?_, c, by simp, by simpa using hdot⟩
      rw [List.append_assoc, ← hfront, List.takeWhile_append_dropWhile]
  · rintro ⟨front, rfl, c, hc, hne⟩
    refine ⟨front.dropWhile (· == '.'), ?_⟩
    have hleft : front.dropWhile (· == '.') ≠ [] := by
      intro hnil
      rw [List.dropWhile_eq_nil_iff] at hnil
      exact hne (by simpa using hnil c hc)
    rw [List.dropWhile_append, if_neg (by simpa using hleft)]

end Path

/-- **What counts as a source.** A name has the extension of sources if it has it behind
something that is not all dots. -/
theorem Project.isSource_iff {name : String} (h : '/' ∉ name.toList) :
    isSource name = true ↔ IsSourceName name := by
  rw [isSource, decide_eq_true_iff, Path.extension, Path.baseChars_of_not_mem h,
    Path.behindDot_iff, Path.exists_dropWhile_iff ⟨_, rfl⟩]
  constructor
  · rintro ⟨front, hfront, hdots⟩
    refine ⟨String.ofList front, ?_, by rwa [String.toList_ofList]⟩
    rw [← String.toList_inj, String.toList_append, String.toList_ofList, hfront]
    rfl
  · rintro ⟨front, rfl, hdots⟩
    exact ⟨front.toList, String.toList_append, hdots⟩

/-! ### Paths of names -/

namespace Path

variable {names : List String}

theorem toList_foldl_join (hne : names ≠ []) (hnames : ∀ name ∈ names, IsName name)
    (p : String) :
    (names.foldl join p).toList = lead p ++
      ['/'].intercalate (names.map String.toList) := by
  induction names generalizing p with
  | nil => exact absurd rfl hne
  | cons name rest ih =>
      obtain ⟨hname, hrest⟩ := List.forall_mem_cons.mp hnames
      cases rest with
      | nil =>
          show (join p name).toList = _
          rw [toList_join hname]
          simp
      | cons next rest =>
          rw [List.foldl_cons, ih (by simp) hrest, lead_join hname, List.map_cons,
            List.map_cons, List.map_cons,
            List.intercalate_cons_cons]
          simp

theorem toList_intercalate_slash (names : List String) :
    ("/".intercalate names).toList = ['/'].intercalate (names.map String.toList) :=
  String.toList_intercalate

/-- Names with slashes between them start as the first name does, which is not with a
slash. -/
theorem isAbsolute_intercalate (hne : names ≠ []) (hnames : ∀ name ∈ names, IsName name) :
    isAbsolute ("/".intercalate names) = false := by
  rw [Bool.eq_false_iff]
  intro habsolute
  obtain ⟨more, hmore⟩ := isAbsolute_iff.mp habsolute
  rw [toList_intercalate_slash] at hmore
  rcases names with - | ⟨name, rest⟩
  · exact hne rfl
  · have hname := hnames name List.mem_cons_self
    -- the first character is that of a name, and names hold no slash
    rcases hchars : name.toList with - | ⟨c, cs⟩
    · exact hname.1 (String.toList_eq_nil_iff.mp hchars)
    · have hfirst : ∃ tail, ['/'].intercalate ((name :: rest).map String.toList) =
          c :: tail := by
        cases rest with
        | nil => exact ⟨cs, by simp [hchars]⟩
        | cons next rest =>
            refine ⟨cs ++ '/' :: ['/'].intercalate ((next :: rest).map String.toList), ?_⟩
            rw [List.map_cons, List.map_cons, List.intercalate_cons_cons, hchars]
            simp
      obtain ⟨tail, htail⟩ := hfirst
      rw [htail] at hmore
      obtain rfl : '/' = c := (List.cons.inj hmore).1
      exact hname.2 (by rw [hchars]; exact List.mem_cons_self)

/-- Names that are joined to a path one after the other come with slashes between them. -/
theorem foldl_join (hne : names ≠ []) (hnames : ∀ name ∈ names, IsName name)
    (p : String) :
    names.foldl join p = join p ("/".intercalate names) := by
  rw [← String.toList_inj, toList_foldl_join hne hnames,
    toList_join_of_not_isAbsolute (isAbsolute_intercalate hne hnames),
    toList_intercalate_slash]

end Path

namespace Project

/-! ### The walk and the places -/

/-- Whether a tree has a source at a place, with its bytes. -/
structure Item.HasSource (root : Item) (names : Place) (bytes : List UInt8) : Prop where
  file : root.at? names = some (.file bytes)
  named : ∃ name, names.getLast? = some name ∧ IsSourceName name

theorem Items.WellFormed.isName {items : Items} (h : items.WellFormed)
    {name : String} {item : Item}
    (hget : items.get? name = some item) : IsName name := by
  match items, h with
  | .cons other first rest, h =>
      rw [Items.WellFormed] at h
      rw [Items.get?] at hget
      split at hget
      · rename_i heq
        exact heq ▸ h.1
      · exact Items.WellFormed.isName h.2.2.2 hget

namespace Item.HasSource

variable {items : Items} {name : String} {names : Place} {bytes : List UInt8}

theorem ne_nil {root : Item} (h : root.HasSource names bytes) : names ≠ [] := by
  rintro rfl
  obtain ⟨name, hname, -⟩ := h.named
  cases hname

/-- A source below an entry. -/
theorem cons {child : Item} (hget : items.get? name = some child)
    (h : child.HasSource names bytes) :
    (directory items).HasSource (name :: names) bytes where
  file := by
    show (items.get? name).bind (at? names) = _
    rw [hget]
    exact h.file
  named := by
    obtain ⟨last, hlast, hsource⟩ := h.named
    rcases names with - | ⟨next, names⟩
    · exact absurd rfl h.ne_nil
    · exact ⟨last, List.getLast?_cons_cons.trans hlast, hsource⟩

/-- A source that is an entry itself, or one below an entry. -/
theorem exists_child {root : Item} (h : root.HasSource names bytes) :
    ∃ items name rest child, root = .directory items ∧ names = name :: rest ∧
      items.get? name = some child ∧
      (rest = [] ∧ child = .file bytes ∧ IsSourceName name ∨
        child.HasSource rest bytes) := by
  rcases names with - | ⟨name, rest⟩
  · exact absurd rfl h.ne_nil
  · obtain ⟨items, child, rfl, hchild, hfile⟩ := at?_cons_eq_some h.file
    refine ⟨items, name, rest, child, rfl, rfl, hchild, ?_⟩
    obtain ⟨last, hlast, hsource⟩ := h.named
    rcases rest with - | ⟨next, rest⟩
    · cases hlast
      exact .inl ⟨rfl, Option.some.inj hfile, hsource⟩
    · exact .inr ⟨hfile, last, List.getLast?_cons_cons.symm.trans hlast, hsource⟩

end Item.HasSource

theorem Items.mem_sources_of_get? {items : Items} {name : String} {item : Item}
    (hget : items.get? name = some item) {path p : String}
    (hp : p ∈ entrySources path name item) : p ∈ items.sources path := by
  match items with
  | .cons other first rest =>
      rw [Items.sources_cons, List.mem_append]
      rw [Items.get?] at hget
      split at hget
      · rename_i heq
        cases hget
        exact .inl (heq ▸ hp)
      · exact .inr (Items.mem_sources_of_get? hget hp)

theorem mem_entrySources_iff {path name p : String} {item : Item} :
    p ∈ entrySources path name item ↔
    (item.isDirectory = false ∧ isSource name = true ∧ p = Path.join path name) ∨
      p ∈ item.sources (Path.join path name) := by
  rw [entrySources, List.mem_append]
  refine or_congr ?_ Iff.rfl
  cases item.isDirectory <;> cases isSource name <;> simp

mutual

theorem Item.exists_of_mem_sources {item : Item} (h : item.WellFormed) {path p : String}
    (hp : p ∈ item.sources path) :
    ∃ names bytes, item.HasSource names bytes ∧ p = names.foldl Path.join path := by
  match item, h with
  | .file _, _ =>
      rw [Item.sources] at hp
      cases hp
  | .directory items, h =>
      rw [Item.sources] at hp
      exact Items.exists_of_mem_sources h hp

/-- A path of the walk is that of a source. -/
theorem Items.exists_of_mem_sources {items : Items} (h : items.WellFormed)
    {path p : String} (hp : p ∈ items.sources path) :
    ∃ names bytes, (Item.directory items).HasSource names bytes ∧
      p = names.foldl Path.join path := by
  match items, h with
  | .nil, _ =>
      rw [Items.sources] at hp
      cases hp
  | .cons name item rest, h =>
      rw [Items.WellFormed] at h
      obtain ⟨hname, hnone, hitem, hrest⟩ := h
      have hget : (Items.cons name item rest).get? name = some item := by
        simp [Items.get?]
      rw [Items.sources_cons, List.mem_append, mem_entrySources_iff] at hp
      rcases hp with (⟨hfile, hsource, rfl⟩ | hp) | hp
      · cases item with
        | directory items => cases hfile
        | file bytes =>
            refine ⟨[name], bytes, ⟨?_, name, rfl, (isSource_iff hname.2).mp hsource⟩,
              rfl⟩
            show ((Items.cons name (.file bytes) rest).get? name).bind some = _
            rw [hget]
            rfl
      · obtain ⟨names, bytes, hhas, rfl⟩ := Item.exists_of_mem_sources hitem hp
        exact ⟨name :: names, bytes, hhas.cons hget, rfl⟩
      · -- an entry behind the first one has another name
        obtain ⟨names, bytes, hhas, rfl⟩ := Items.exists_of_mem_sources hrest hp
        refine ⟨names, bytes, ⟨?_, hhas.named⟩, rfl⟩
        obtain ⟨_, other, below, child, ⟨⟩, rfl, hother, -⟩ := hhas.exists_child
        have hne : name ≠ other := by
          rintro rfl
          rw [hnone] at hother
          cases hother
        have hskip : (Items.cons name item rest).get? other = rest.get? other := by
          simp [Items.get?, hne]
        show ((Items.cons name item rest).get? other).bind (Item.at? below) = _
        rw [hskip]
        exact hhas.file

end

/-- A source is on the walk, under the path that its names make. -/
theorem Item.HasSource.mem_sources {item : Item} (h : item.WellFormed) {names : Place}
    {bytes : List UInt8} (hhas : item.HasSource names bytes)
    (path : String) : names.foldl Path.join path ∈ item.sources path := by
  induction names generalizing item path with
  | nil => exact absurd rfl hhas.ne_nil
  | cons name names ih =>
      obtain ⟨items, _, _, child, rfl, ⟨⟩, hchild, hcases⟩ := hhas.exists_child
      rw [Item.sources]
      refine Items.mem_sources_of_get? hchild (mem_entrySources_iff.mpr ?_)
      rcases hcases with ⟨rfl, rfl, hsource⟩ | hbelow
      · have hname := Items.WellFormed.isName h hchild
        exact .inl ⟨rfl, (isSource_iff hname.2).mpr hsource, rfl⟩
      · exact .inr (ih (Items.WellFormed.get? h hchild) hbelow _)

/-- **The walk comes to the sources of a tree and to nothing else.** -/
theorem Item.mem_sources_iff {item : Item} (h : item.WellFormed) {path p : String} :
    p ∈ item.sources path ↔ ∃ names bytes, item.HasSource names bytes ∧
      p = names.foldl Path.join path := by
  constructor
  · exact Item.exists_of_mem_sources h
  · rintro ⟨names, bytes, hhas, rfl⟩
    exact hhas.mem_sources h path

/-! ### Where the paths of the walk lead -/

/-- Whether no entry of a tree has a name that is a step of a path by itself. -/
def Item.HasNoDots (root : Item) : Prop :=
  ∀ place name, (root.at? (place ++ [name])).isSome → name ≠ "." ∧ name ≠ ".."

theorem Item.WellFormed.isName {root : Item} (h : root.WellFormed) {place : Place}
    {found : Item} (hat : root.at? place = some found) :
    ∀ name ∈ place, IsName name := by
  induction place generalizing root with
  | nil => exact List.forall_mem_nil _
  | cons name place ih =>
      obtain ⟨items, child, rfl, hchild, hbelow⟩ := Item.at?_cons_eq_some hat
      exact List.forall_mem_cons.mpr ⟨Items.WellFormed.isName h hchild,
        ih (Items.WellFormed.get? h hchild) hbelow⟩

namespace Files

variable {fs : Files} {root : String} {item : Item}

/-- Names that are joined to a path lead where they lead from the place of the path. -/
theorem find_foldl_join (hfs : fs.root.WellFormed) (hdots : fs.root.HasNoDots)
    {names : Place} {found : Item}
    (hroot : fs.find root = .ok item) (hfound : item.at? names = some found) :
    fs.find (names.foldl Path.join root) = .ok found := by
  induction names generalizing root item with
  | nil =>
      cases hfound
      exact hroot
  | cons name names ih =>
      obtain ⟨items, child, rfl, hchild, hbelow⟩ := Item.at?_cons_eq_some hfound
      obtain ⟨place, hplace, hat⟩ := exists_of_find hroot
      have hentry : fs.root.at? (place ++ [name]) = some child :=
        (Item.at?_concat hat name).trans hchild
      have hname : IsEntryName name :=
        ⟨hfs.isName hentry name (by simp), hdots place name (by rw [hentry]; rfl)⟩
      refine ih ?_ hbelow
      rw [find_join hplace hat hname, hchild]
      rfl

theorem readText_of_find {path text : String}
    (h : fs.find path = .ok (.file (Text.encodeUtf8 text))) :
    fs.readText path = .ok (String.ofList (Text.unixNewlines text.toList)) := by
  have hbytes : fs.readBytes path = .ok (Text.encodeUtf8 text) :=
    bind_eq_ok.mpr ⟨_, h, rfl⟩
  rw [readText, hbytes]
  dsimp only
  rw [Text.decodeUtf8_encodeUtf8]

/-- What is read are the paths in order, each with the text of its file. -/
theorem readAll_eq_ok {paths : List String} {files : List (String × String)}
    (h : fs.readAll paths = .ok files) :
    files.map Prod.fst = inPathOrder paths ∧ ∀ file ∈ files, fs.readText file.1 =
      .ok file.2 := by
  rw [readAll, mapM_eq_ok] at h
  generalize inPathOrder paths = ordered at h ⊢
  induction h with
  | nil => exact ⟨rfl, List.forall_mem_nil _⟩
  | cons hread _ ih =>
      obtain ⟨text, htext, hread⟩ := bind_eq_ok.mp hread
      cases hread
      exact ⟨congrArg (_ :: ·) ih.1, List.forall_mem_cons.mpr ⟨htext, ih.2⟩⟩

/-- Files that can be read are read in order of their paths, each once and with its
text. -/
theorem exists_readAll {paths : List String} (hnodup : paths.Nodup)
    (h : ∀ path ∈ paths, ∃ text, fs.readText path = .ok text) :
    ∃ files, fs.readAll paths = .ok files ∧ files.Pairwise (fun a b => a.1 < b.1) ∧
      ∀ path text, (path, text) ∈ files ↔ path ∈ paths ∧ fs.readText path = .ok text := by
  have hperm := inPathOrder_perm paths
  obtain ⟨files, hfiles⟩ : ∃ files, fs.readAll paths = .ok files := by
    apply mapM_of_forall_ok
    intro path hpath
    obtain ⟨text, htext⟩ := h path (hperm.mem_iff.mp hpath)
    exact ⟨(path, text), bind_of_ok htext⟩
  obtain ⟨hpaths, htexts⟩ := readAll_eq_ok hfiles
  refine ⟨files, hfiles, ?_, ?_⟩
  · -- ascending and without repetition is strictly ascending
    have hascend : (files.map Prod.fst).Pairwise (· < ·) := by
      rw [hpaths]
      refine (inPathOrder_pairwise paths).imp₂ ?_ (hperm.nodup_iff.mpr hnodup)
      intro a b hle hne
      exact Std.lt_of_le_of_ne hle hne
    exact List.pairwise_map.mp hascend
  · intro path text
    have hmem : path ∈ paths ↔ ∃ file ∈ files, file.1 = path := by
      rw [← hperm.mem_iff, ← hpaths, List.mem_map]
    constructor
    · intro hfile
      exact ⟨hmem.mpr ⟨_, hfile, rfl⟩, htexts _ hfile⟩
    · rintro ⟨hpath, htext⟩
      obtain ⟨file, hfile, rfl⟩ := hmem.mp hpath
      cases (htexts file hfile).symm.trans htext
      exact hfile

end Files

/-- A text without carriage returns is read as it is. -/
theorem unixNewlines_of_not_mem {cs : List Char} (h : '\r' ∉ cs) :
    Text.unixNewlines cs = cs := by
  fun_induction Text.unixNewlines cs with
  | case1 => rfl
  | case2 rest ih => simp at h
  | case3 c rest hne ih =>
      obtain ⟨hc, hrest⟩ := List.ne_and_not_mem_of_not_mem_cons h
      simp [ih hrest, hc.symm]

namespace Files

variable {fs : Files} {root : String} {items : Items} {names : Place}

/-- The walk joins the names that lead to something below a directory as they stand in a
path. -/
theorem foldl_join_of_at? (hfs : fs.root.WellFormed)
    (hroot : fs.find root = .ok (.directory items)) {found : Item} (hne : names ≠ [])
    (hfound : (Item.directory items).at? names = some found) :
    names.foldl Path.join root = Path.join root ("/".intercalate names) :=
  Path.foldl_join hne ((find_wellFormed hfs hroot).isName hfound) root

theorem find_join_intercalate (hfs : fs.root.WellFormed) (hdots : fs.root.HasNoDots)
    (hroot : fs.find root = .ok (.directory items))
    {found : Item} (hne : names ≠ [])
    (hfound : (Item.directory items).at? names = some found) :
    fs.find (Path.join root ("/".intercalate names)) = .ok found := by
  rw [← foldl_join_of_at? hfs hroot hne hfound]
  exact find_foldl_join hfs hdots hroot hfound

theorem mem_sources_iff (hfs : fs.root.WellFormed)
    (hroot : fs.find root = .ok (.directory items)) (path : String) :
    path ∈ fs.sources root ↔
      ∃ names bytes, (Item.directory items).HasSource names bytes ∧
        path = Path.join root ("/".intercalate names) := by
  rw [sources, hroot]
  refine (Item.mem_sources_iff (find_wellFormed hfs hroot)).trans (exists₂_congr ?_)
  intro names bytes
  refine and_congr_right ?_
  intro hhas
  rw [foldl_join_of_at? hfs hroot hhas.ne_nil hhas.file]

/-- The walk goes into every directory. -/
theorem sources_below_subset (hfs : fs.root.WellFormed) (hdots : fs.root.HasNoDots)
    (hroot : fs.find root = .ok (.directory items))
    {sub : Items} (hne : names ≠ [])
    (hsub : (Item.directory items).at? names = some (.directory sub)) :
    fs.sources (Path.join root ("/".intercalate names)) ⊆ fs.sources root := by
  intro path hvisited
  have hitems := find_wellFormed hfs hroot
  rw [sources, find_join_intercalate hfs hdots hroot hne hsub] at hvisited
  obtain ⟨below, bytes, hhas, rfl⟩ := (Item.mem_sources_iff (hitems.at? hsub)).mp hvisited
  -- what is below the directory is below the root, behind the names of the directory
  rw [← foldl_join_of_at? hfs hroot hne hsub, ← List.foldl_append, sources, hroot]
  refine (Item.mem_sources_iff hitems).mpr ⟨names ++ below, bytes, ⟨?_, ?_⟩, rfl⟩
  · rw [Item.at?_append, hsub]
    exact hhas.file
  · obtain ⟨last, hlast, hsource⟩ := hhas.named
    exact ⟨last, by rw [List.getLast?_append, hlast]; rfl, hsource⟩

/-- Sources that are texts are read in order of their paths, each once and with its
text. -/
theorem exists_readAll_sources (hfs : fs.root.WellFormed) (hdots : fs.root.HasNoDots)
    (hroot : fs.find root = .ok (.directory items))
    (htexts : ∀ names bytes, (Item.directory items).HasSource names bytes → ∃ text,
      bytes = Text.encodeUtf8 text) :
    ∃ files, fs.readAll (fs.sources root) = .ok files ∧
      files.Pairwise (fun a b => a.1 < b.1) ∧
      ∀ path text, (path, text) ∈ files ↔ ∃ names written,
        (Item.directory items).HasSource names (Text.encodeUtf8 written) ∧
        path = Path.join root ("/".intercalate names) ∧
          text = String.ofList (Text.unixNewlines written.toList) := by
  -- a source is found where the walk says that it is
  have hread : ∀ {names : Place} {written : String},
    (Item.directory items).HasSource names (Text.encodeUtf8 written) →
      fs.readText (Path.join root ("/".intercalate names)) =
        .ok (String.ofList (Text.unixNewlines written.toList)) :=
    fun hhas => readText_of_find (find_join_intercalate hfs hdots hroot
      hhas.ne_nil hhas.file)
  have hreadable : ∀ path ∈ fs.sources root, ∃ text, fs.readText path = .ok text := by
    intro path hvisited
    obtain ⟨names, bytes, hhas, rfl⟩ := (mem_sources_iff hfs hroot path).mp hvisited
    obtain ⟨written, rfl⟩ := htexts names bytes hhas
    exact ⟨_, hread hhas⟩
  obtain ⟨files, hfiles, hascend, hfile⟩ :=
    exists_readAll (sources_nodup hfs root) hreadable
  refine ⟨files, hfiles, hascend, ?_⟩
  intro path text
  rw [hfile, mem_sources_iff hfs hroot]
  constructor
  · rintro ⟨⟨names, bytes, hhas, rfl⟩, htext⟩
    obtain ⟨written, rfl⟩ := htexts names bytes hhas
    exact ⟨names, written, hhas, rfl, Except.ok.inj (htext.symm.trans (hread hhas))⟩
  · rintro ⟨names, written, hhas, rfl, rfl⟩
    exact ⟨⟨names, _, hhas, rfl⟩, hread hhas⟩

end Files

/-- **Every source of a project is visited once.** The walk from a directory comes to
the sources below it, at any depth and through directories of any name, under the paths
that lead to them, and to no directory.  If all of them are texts, they are read in
strict order of their paths, each once and with its text, in which lines end with line
feeds. -/
theorem sources_visited {fs : Files} (hfs : fs.root.WellFormed)
    (hdots : fs.root.HasNoDots) {root : String} {items : Items}
    (hroot : fs.find root = .ok (.directory items)) :
    (fs.sources root).Nodup ∧
    (∀ path, path ∈ fs.sources root ↔
      ∃ names bytes, (Item.directory items).HasSource names bytes ∧
        path = Path.join root ("/".intercalate names)) ∧
    (∀ path ∈ fs.sources root, fs.isDirectory path = false) ∧
    (∀ names sub, names ≠ [] → (Item.directory items).at? names = some (.directory sub) →
      fs.sources (Path.join root ("/".intercalate names)) ⊆ fs.sources root) ∧
    ((∀ names bytes, (Item.directory items).HasSource names bytes → ∃ text, bytes =
      Text.encodeUtf8 text) →
      ∃ files, fs.readAll (fs.sources root) = .ok files ∧
        files.Pairwise (fun a b => a.1 < b.1) ∧
        (∀ path text, (path, text) ∈ files ↔ ∃ names written,
          (Item.directory items).HasSource names (Text.encodeUtf8 written) ∧
          path = Path.join root ("/".intercalate names) ∧
            text = String.ofList (Text.unixNewlines written.toList)) ∧
        ∀ names text, (Item.directory items).HasSource names (Text.encodeUtf8 text) →
          '\r' ∉ text.toList →
          (Path.join root ("/".intercalate names), text) ∈ files) := by
  have hmem := Files.mem_sources_iff hfs hroot
  refine ⟨Files.sources_nodup hfs root, hmem, ?_, ?_, ?_⟩
  · -- a source is a file, so it is found as one
    intro path hvisited
    obtain ⟨names, bytes, hhas, rfl⟩ := (hmem path).mp hvisited
    rw [Files.isDirectory, Files.find_join_intercalate hfs hdots hroot
      hhas.ne_nil hhas.file]
    rfl
  · intro names sub hne hsub
    exact Files.sources_below_subset hfs hdots hroot hne hsub
  · intro htexts
    obtain ⟨files, hfiles, hascend, hall⟩ :=
      Files.exists_readAll_sources hfs hdots hroot htexts
    refine ⟨files, hfiles, hascend, hall, ?_⟩
    -- a text without carriage returns is read as it was written
    intro names text hhas hfeeds
    refine (hall _ _).mpr ⟨names, text, hhas, rfl, ?_⟩
    rw [unixNewlines_of_not_mem hfeeds, String.ofList_toList]

/-! ### A project with a directory that is named like a source -/

/-- The names of the entries decide, with what is below them. -/
theorem Item.hasNoDots_directory {items : Items}
    (h : ∀ name item, items.get? name = some item → (name ≠ "." ∧ name ≠ "..") ∧
      item.HasNoDots) : (Item.directory items).HasNoDots := by
  intro place name hsome
  obtain ⟨found, hfound⟩ := Option.isSome_iff_exists.mp hsome
  rcases place with - | ⟨first, place⟩
  · obtain ⟨_, child, ⟨⟩, hchild, -⟩ := Item.at?_cons_eq_some hfound
    exact (h name child hchild).1
  · obtain ⟨_, child, ⟨⟩, hchild, hbelow⟩ := Item.at?_cons_eq_some hfound
    exact (h first child hchild).2 place name
      (Option.isSome_iff_exists.mpr ⟨found, hbelow⟩)

/-- The entries of the project: a name that is an extension only, and a directory with a
source in it. -/
def nestedItems : Items :=
  .cons ".py" (.file (Text.encodeUtf8 ""))
    (.cons "d.py" (.directory (.cons "m.py" (.file (Text.encodeUtf8 "x")) .nil)) .nil)

/-- The project in the root. -/
def nestedProject : Files :=
  ⟨.directory nestedItems, []⟩

theorem nestedItems_wellFormed : nestedItems.WellFormed := by
  have hnames : IsName ".py" ∧ IsName "d.py" ∧ IsName "m.py" := by
    unfold IsName
    decide
  exact ⟨hnames.1, rfl, trivial, hnames.2.1, rfl,
    ⟨hnames.2.2, rfl, trivial, trivial⟩, trivial⟩

theorem get?_nestedItems {name : String} {item : Item}
    (h : nestedItems.get? name = some item) :
    name = ".py" ∧ item = .file (Text.encodeUtf8 "") ∨
      name = "d.py" ∧
        item = .directory (.cons "m.py" (.file (Text.encodeUtf8 "x")) .nil) := by
  simp only [nestedItems, Items.get?] at h
  split at h
  · exact .inl ⟨Eq.symm ‹_›, (Option.some.inj h).symm⟩
  · split at h
    · exact .inr ⟨Eq.symm ‹_›, (Option.some.inj h).symm⟩
    · cases h

theorem nestedProject_hasNoDots : nestedProject.root.HasNoDots := by
  have hfile : ∀ bytes, (Item.file bytes).HasNoDots := by
    intro bytes place name hsome
    cases place <;> cases hsome
  apply Item.hasNoDots_directory
  intro name item hget
  rcases get?_nestedItems hget with ⟨rfl, rfl⟩ | ⟨rfl, rfl⟩
  · exact ⟨by decide, hfile _⟩
  · refine ⟨by decide, Item.hasNoDots_directory ?_⟩
    intro name item hget
    simp only [Items.get?] at hget
    split at hget
    · rename_i heq
      cases hget
      exact ⟨heq ▸ by decide, hfile _⟩
    · cases hget

theorem nestedProject_texts {names : Place} {bytes : List UInt8}
    (h : (Item.directory nestedItems).HasSource names bytes) :
    ∃ text, bytes = Text.encodeUtf8 text := by
  obtain ⟨_, name, rest, child, ⟨⟩, rfl, hchild, hcases⟩ := h.exists_child
  rcases get?_nestedItems hchild with ⟨rfl, rfl⟩ | ⟨rfl, rfl⟩
  · rcases hcases with ⟨-, ⟨⟩, -⟩ | hbelow
    · exact ⟨"", rfl⟩
    · obtain ⟨_, _, _, _, ⟨⟩, -⟩ := hbelow.exists_child
  · rcases hcases with ⟨-, ⟨⟩, -⟩ | hbelow
    obtain ⟨_, name, rest, child, ⟨⟩, rfl, hchild, hcases⟩ := hbelow.exists_child
    simp only [Items.get?] at hchild
    split at hchild
    · cases hchild
      rcases hcases with ⟨-, ⟨⟩, -⟩ | hbelow
      · exact ⟨"x", rfl⟩
      · obtain ⟨_, _, _, _, ⟨⟩, -⟩ := hbelow.exists_child
    · cases hchild

/-- The source in the directory is visited and read, and the directory is not. -/
theorem sources_visited_nested : nestedProject.root.WellFormed ∧
    nestedProject.root.HasNoDots ∧
    nestedProject.find "/" = .ok (.directory nestedItems) ∧
    Path.join "/" "d.py" ∉ nestedProject.sources "/" ∧
    ∃ files, nestedProject.readAll (nestedProject.sources "/") = .ok files ∧
      (Path.join "/" "d.py/m.py", "x") ∈ files := by
  have hlocate : nestedProject.locate "/" = .ok [] := by
    rw [Files.locate_eq (by decide), Files.startOf,
      if_pos (Path.isAbsolute_iff.mpr (by decide))]
    rfl
  have hroot : nestedProject.find "/" = .ok (.directory nestedItems) :=
    bind_eq_ok.mpr ⟨[], hlocate, rfl⟩
  have hfs : nestedProject.root.WellFormed := nestedItems_wellFormed
  obtain ⟨-, -, hfiles, -, hread⟩ := sources_visited hfs nestedProject_hasNoDots hroot
  obtain ⟨files, hall, -, -, hmem⟩ := hread fun _ _ => nestedProject_texts
  refine ⟨hfs, nestedProject_hasNoDots, hroot, ?_, files, hall, ?_⟩
  · -- the directory ends as a source does, but is none
    intro hvisited
    have hdirectory : nestedProject.isDirectory (Path.join "/" "d.py") = true := by
      rw [Files.isDirectory_eq_true_iff]
      exact ⟨_, Files.find_join hlocate rfl (by decide)⟩
    rw [hfiles _ hvisited] at hdirectory
    cases hdirectory
  · refine hmem ["d.py", "m.py"] "x" ⟨rfl, "m.py", rfl, "m", rfl, 'm', ?_, ?_⟩ ?_
    all_goals decide

end Project

end RuleLint
