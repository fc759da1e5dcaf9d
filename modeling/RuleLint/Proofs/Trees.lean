/-
RuleLint/Proofs/Trees.lean

Trees of files, seen from a place and along a path.

A tree is known by what is at each place, leaving aside what is below it: nothing, a
directory, or a file with its bytes (`Item.own?`). Writing a file into a directory
changes what is at one place and nothing else (`Item.own?_put_of_ne`), and the entries
of every directory stay in order (`Item.InOrder.put`).

A path that ends in a name leads to the entry with that name in the directory that the
rest of it leads to (`Files.find_join`), whether or not the directory is written with a
slash at its end.  A path that leads to a place still leads there in a tree that has
grown (`Files.locate_of_grows`).
-/
import RuleLint.Proofs.Sources

namespace RuleLint

/-! ### Components of paths -/

/-- What can be the name of an entry and is no step of a path by itself. -/
def IsEntryName (name : String) : Prop :=
  IsName name ∧ name ≠ "." ∧ name ≠ ".."

instance (name : String) : Decidable (IsEntryName name) :=
  inferInstanceAs (Decidable ((_ ∧ _) ∧ _ ∧ _))

namespace Path

variable {p name : String}

/-- The path of a directory and those of its entries have the same components in front;
a slash at the end of the directory gives it an empty one. -/
theorem exists_components (hne : p ≠ "") : ∃ front : List String,
    (components p = front ∨ components p = front ++ [""]) ∧
      ∀ name, IsName name → components (join p name) = front ++ [name] := by
  -- in both cases a slash stands between what is in front and the name
  have hjoin : ∀ body : List Char, lead p = body ++ ['/'] →
      ∀ name, IsName name → components (join p name) =
        (body.splitOn '/').map String.ofList ++ [name] := by
    intro body hlead name hname
    rw [components, toList_join hname, hlead, List.append_assoc]
    show ((body ++ '/' :: name.toList).splitOn '/').map String.ofList = _
    rw [List.splitOn_append_cons_self, List.splitOn_eq_singleton hname.2]
    simp
  by_cases hend : p.toList.getLast? = some '/'
  · obtain ⟨body, hbody⟩ := List.getLast?_eq_some_iff.mp hend
    have hlead : lead p = body ++ ['/'] := by
      have hends : p.endsWith "/" = true := endsWith_iff.mpr ⟨body, hbody.symm⟩
      simp [lead, hends, hbody]
    refine ⟨(body.splitOn '/').map String.ofList, .inr ?_, hjoin body hlead⟩
    rw [components, hbody, List.splitOn_append_cons_self]
    simp
  · have hlead :=
      lead_of_getLast? (fun hnil => hne (String.toList_eq_nil_iff.mp hnil)) hend
    exact ⟨components p, .inl rfl, hjoin _ hlead⟩

/-- A path below another is absolute if that is. -/
theorem isAbsolute_join (hne : p ≠ "") (hname : IsName name) :
    isAbsolute (join p name) = isAbsolute p := by
  rw [Bool.eq_iff_iff, isAbsolute_iff, isAbsolute_iff, toList_join hname]
  rcases hp : p.toList with - | ⟨c, cs⟩
  · exact absurd (String.toList_eq_nil_iff.mp hp) hne
  · have hlead : ∃ more, lead p = c :: more := by
      rw [lead, hp]
      split
      · exact ⟨cs, rfl⟩
      · exact ⟨cs ++ ['/'], rfl⟩
    obtain ⟨more, hmore⟩ := hlead
    rw [hmore]
    simp

end Path

namespace Project

/-! ### Entries in order -/

/-- An entry that is put takes the place of one with its name, and no other. -/
theorem Items.get?_insert (name : String) (item : Item) (items : Items) (other : String) :
    (items.insert name item).get? other = if other = name then some item
      else items.get? other := by
  fun_induction insert name item items with
  | case1 => simp [get?, eq_comm]
  | case2 old rest =>
      by_cases hname : name = other
      · simp [get?, hname]
      · simp [get?, hname, Ne.symm hname]
  | case3 first old rest hne hlt => simp [get?, eq_comm]
  | case4 first old rest hne hlt ih =>
      rw [get?, get?, ih]
      by_cases hfirst : first = other
      · subst hfirst
        simp [hne]
      · simp [hfirst]

/-- A place below a directory is a place in one of its entries. -/
theorem Item.at?_cons_eq_some {root found : Item} {name : String} {rest : Place}
    (h : root.at? (name :: rest) = some found) :
    ∃ items child, root = .directory items ∧ items.get? name = some child ∧
      child.at? rest = some found := by
  obtain ⟨child, hchild, hfound⟩ := Option.bind_eq_some_iff.mp h
  cases root with
  | file bytes => cases hchild
  | directory items => exact ⟨items, child, rfl, hchild, hfound⟩

mutual

/-- The entries of every directory are in order of their names. -/
def Item.InOrder : Item → Prop
  | .file _ => True
  | .directory items => items.InOrder

/-- Entries of a directory whose names ascend, with what is below them. -/
def Items.InOrder : Items → Prop
  | .nil => True
  | .cons name item rest =>
      (∀ other, (rest.get? other).isSome → name < other) ∧ item.InOrder ∧ rest.InOrder

end

/-- What is in order is so throughout, for the entries of a directory. -/
theorem Items.InOrder.get? {items : Items} (h : items.InOrder) {name : String}
    {item : Item} (hget : items.get? name = some item) :
    item.InOrder := by
  match items, h with
  | .cons other first rest, h =>
      rw [Items.InOrder] at h
      rw [Items.get?] at hget
      split at hget
      · cases hget
        exact h.2.1
      · exact Items.InOrder.get? h.2.2 hget

/-- And by induction on the place, for everything below. -/
theorem Item.InOrder.at? {item : Item} (h : item.InOrder) {place : Place} {found : Item}
    (hat : item.at? place = some found) :
    found.InOrder := by
  induction place generalizing item with
  | nil =>
      cases hat
      exact h
  | cons name place ih =>
      obtain ⟨items, child, rfl, hchild, hfound⟩ := Item.at?_cons_eq_some hat
      exact ih (Items.InOrder.get? h hchild) hfound

/-- An entry is put where its name belongs. -/
theorem Items.InOrder.insert {items : Items} (h : items.InOrder) {item : Item}
    (hitem : item.InOrder) (name : String) :
    (items.insert name item).InOrder := by
  fun_induction Items.insert name item items with
  | case1 =>
      refine ⟨?_, hitem, trivial⟩
      intro other hother
      cases hother
  | case2 old rest =>
      rw [Items.InOrder] at h ⊢
      exact ⟨h.1, hitem, h.2.2⟩
  | case3 first old rest hne hlt =>
      rw [Items.InOrder]
      refine ⟨?_, hitem, h⟩
      intro other hother
      rw [Items.InOrder] at h
      rw [Items.get?] at hother
      split at hother
      · rename_i heq
        exact heq ▸ hlt
      · exact String.lt_trans hlt (h.1 other hother)
  | case4 first old rest hne hlt ih =>
      rw [Items.InOrder] at h ⊢
      refine ⟨?_, h.2.1, ih h.2.2⟩
      intro other hother
      rw [get?_insert] at hother
      split at hother
      · -- the new name is not before the first one, and differs from it
        rename_i heq
        subst heq
        exact Std.lt_of_le_of_ne (Std.not_lt.mp hlt) hne
      · exact h.1 other hother

/-- Putting an item in order at a place keeps all directories in order. -/
theorem Item.InOrder.put {root new : Item} (h : root.InOrder) (hnew : new.InOrder)
    (place : Place) : (root.put place new).InOrder := by
  rw [Item.put]
  fun_induction Item.change (fun _ => some new) place root with
  | case1 item => exact hnew
  | case2 name items found hfound =>
      cases hfound
      exact Items.InOrder.insert h hnew name
  | case3 name items hnone => cases hnone
  | case4 name rest items hrest item hitem ih =>
      exact Items.InOrder.insert h (ih (Items.InOrder.get? h hitem)) name
  | case5 name rest items hrest hnone => exact h
  | case6 name rest bytes => exact h

/-! ### What is at a place -/

namespace Item

variable {root item : Item} {above place : Place} {items : Items} {name : String}

/-- The bytes of a file; a directory has none of its own. -/
def bytes? : Item → Option (List UInt8)
  | .file bytes => some bytes
  | .directory _ => none

/-- What is at a place of its own, leaving aside what is below it. -/
def own? (root : Item) (place : Place) : Option (Option (List UInt8)) :=
  (root.at? place).map bytes?

theorem own?_eq_directory : root.own? place = some none ↔ ∃ items, root.at? place =
    some (.directory items) := by
  rw [own?]
  rcases root.at? place with - | - | items
  · simp
  · simp [bytes?]
  · simp [bytes?]

/-- A place is looked up in two parts. -/
theorem at?_append (above place : Place) (root : Item) :
    root.at? (above ++ place) = (root.at? above).bind (at? place) := by
  induction above generalizing root with
  | nil => rfl
  | cons name above ih =>
      rw [List.cons_append, at?, at?, Option.bind_assoc]
      exact congrArg _ (funext ih)

theorem at?_concat (hat : root.at? above = some (.directory items)) (name : String) :
    root.at? (above ++ [name]) = items.get? name := by
  rw [at?_append, hat]
  show (items.get? name).bind some = _
  simp

/-- To put something below an entry changes that entry only. -/
theorem put_cons {child : Item} (hchild : items.get? name = some child) {rest : Place}
    (hrest : rest ≠ []) (new : Item) :
    (directory items).put (name :: rest) new =
      .directory (items.insert name (child.put rest new)) := by
  rcases rest with - | ⟨next, rest⟩
  · exact absurd rfl hrest
  · rw [put, change, hchild]
    · rfl
    · exact hrest

/-- Where something is put, the directory has it under its name. -/
theorem at?_put_above (hat : root.at? above = some (.directory items)) (name : String)
    (new : Item) :
    (root.put (above ++ [name]) new).at? above =
      some (.directory (items.insert name new)) := by
  induction above generalizing root with
  | nil =>
      cases hat
      rfl
  | cons first above ih =>
      obtain ⟨entries, child, rfl, hchild, hbelow⟩ := at?_cons_eq_some hat
      rw [List.cons_append, put_cons hchild (by simp), at?]
      show ((entries.insert first _).get? first).bind (at? above) = _
      rw [Items.get?_insert, if_pos rfl]
      exact ih hbelow

/-- **A file that is written into a directory changes nothing at any other place.** -/
theorem own?_put_of_ne (hat : root.at? above = some (.directory items))
    (hfree : ∀ sub, items.get? name ≠ some (.directory sub))
    (bytes : List UInt8) {other : Place} (hne : other ≠ above ++ [name]) :
    (root.put (above ++ [name]) (.file bytes)).own? other = root.own? other := by
  induction above generalizing root other with
  | nil =>
      cases hat
      rcases other with - | ⟨first, rest⟩
      · rfl
      · show (((items.insert name (.file bytes)).get? first).bind (at? rest)).map bytes? =
          ((items.get? first).bind (at? rest)).map bytes?
        rw [Items.get?_insert]
        split
        · -- below a file there is nothing, and there was nothing
          rename_i heq
          subst heq
          rcases rest with - | ⟨next, rest⟩
          · exact absurd rfl hne
          · rcases hget : items.get? first with - | - | sub
            · rfl
            · rfl
            · exact absurd hget (hfree sub)
        · rfl
  | cons first above ih =>
      obtain ⟨entries, child, rfl, hchild, hbelow⟩ := at?_cons_eq_some hat
      rw [List.cons_append, put_cons hchild (by simp)]
      rcases other with - | ⟨next, rest⟩
      · rfl
      · show (((entries.insert first _).get? next).bind (at? rest)).map bytes? =
          ((entries.get? next).bind (at? rest)).map bytes?
        rw [Items.get?_insert]
        split
        · -- the other place is below the same entry
          rename_i heq
          subst heq
          rw [hchild]
          apply ih hbelow
          intro heq
          exact hne (congrArg (next :: ·) heq)
        · rfl

end Item

/-! ### Where paths lead -/

namespace Files

variable {fs fs' : Files} {p name : String} {place : Place} {items : Items}

theorem ne_empty_of_locate (h : fs.locate p = .ok place) : p ≠ "" := by
  rintro rfl
  cases h

/-- A path is located component by component, from the root or the current directory. -/
theorem locate_eq (hne : p ≠ "") :
    fs.locate p = (Path.components p).foldlM fs.step (fs.startOf p) := by
  rw [locate, if_neg (mt String.isEmpty_iff.mp hne)]

/-- A component is a step into a directory that has it. -/
theorem step_of_directory (hat : fs.at? place = some (.directory items))
    (hname : IsEntryName name) :
    fs.step place name = if (items.get? name).isSome then .ok (place ++ [name])
      else .error .missing := by
  obtain ⟨⟨hne, -⟩, hdot, hdots⟩ := hname
  rw [step, hat]
  simp [hne, hdot, hdots]

/-- A step with an empty name stays where it is. -/
theorem eq_of_step_empty {start : Place} (h : fs.step start "" = .ok place) :
    start = place := by
  rw [step] at h
  split at h
  · simpa using h
  · cases h

/-- The components in front of a name lead to the directory that the path without it
leads to. -/
theorem exists_front (hplace : fs.locate p = .ok place) :
    ∃ front : List String, front.foldlM fs.step (fs.startOf p) = .ok place ∧
    ∀ name, IsName name → Path.components (Path.join p name) = front ++ [name] := by
  have hne := ne_empty_of_locate hplace
  obtain ⟨front, hfront, hjoin⟩ := Path.exists_components hne
  refine ⟨front, ?_, hjoin⟩
  rw [locate_eq hne] at hplace
  rcases hfront with hfront | hfront
  · rwa [hfront] at hplace
  · rw [hfront, List.foldlM_append] at hplace
    obtain ⟨start, hstart, hplace⟩ := bind_eq_ok.mp hplace
    rw [List.foldlM_cons] at hplace
    obtain ⟨next, hnext, hplace⟩ := bind_eq_ok.mp hplace
    cases hplace
    rw [hstart, eq_of_step_empty hnext]

/-- A longer path starts where the shorter one does. -/
theorem startOf_join (hne : p ≠ "") (hname : IsName name) :
    fs.startOf (Path.join p name) = fs.startOf p := by
  rw [startOf, startOf, Path.isAbsolute_join hne hname]

/-- The path of an entry leads to its place. -/
theorem locate_join (hplace : fs.locate p = .ok place)
    (hat : fs.at? place = some (.directory items)) (hname : IsEntryName name) :
    fs.locate (Path.join p name) = if (items.get? name).isSome then .ok (place ++ [name])
      else .error .missing := by
  have hne := ne_empty_of_locate hplace
  obtain ⟨front, hfront, hjoin⟩ := exists_front hplace
  have hne' : Path.join p name ≠ "" := by
    intro hempty
    have hnil := Path.toList_join hname.1 p
    rw [hempty] at hnil
    exact hname.1.1 (String.toList_eq_nil_iff.mp (List.append_eq_nil_iff.mp hnil.symm).2)
  rw [locate_eq hne', startOf_join hne hname.1, hjoin name hname.1, List.foldlM_append,
    bind_of_ok hfront, List.foldlM_cons,
    step_of_directory hat hname]
  split <;> rfl

/-- **The path of an entry leads to the entry.** -/
theorem find_join (hplace : fs.locate p = .ok place)
    (hat : fs.at? place = some (.directory items)) (hname : IsEntryName name) :
    fs.find (Path.join p name) = (items.get? name).elim (.error .missing) .ok := by
  have hlocate := locate_join hplace hat hname
  have hentry : fs.at? (place ++ [name]) = items.get? name := Item.at?_concat hat name
  rcases hget : items.get? name with - | item
  · rw [hget] at hlocate
    rw [find, hlocate]
    rfl
  · rw [hget] at hlocate hentry
    exact bind_eq_ok.mpr ⟨place ++ [name], hlocate, by rw [hentry]; rfl⟩

theorem exists_of_find {item : Item} (h : fs.find p = .ok item) :
    ∃ place, fs.locate p = .ok place ∧ fs.at? place = some item := by
  obtain ⟨place, hplace, h⟩ := bind_eq_ok.mp h
  refine ⟨place, hplace, ?_⟩
  split at h
  · cases h
    assumption
  · cases h

/-- A path is a directory if one is found there. -/
theorem isDirectory_eq_true_iff : fs.isDirectory p = true ↔ ∃ items, fs.find p =
    .ok (.directory items) := by
  rw [isDirectory]
  rcases fs.find p with cause | - | items
  · simp
  · simp [Item.isDirectory]
  · simp [Item.isDirectory]

/-- A file is written to the place of the entry with its name, unless that is a
directory. -/
theorem placeFor_join (hplace : fs.locate p = .ok place)
    (hat : fs.at? place = some (.directory items)) (hname : IsEntryName name)
    (hfree : ∀ sub, items.get? name ≠ some (.directory sub)) :
    fs.placeFor (Path.join p name) = .ok (place ++ [name]) := by
  have hfind := find_join hplace hat hname
  rcases hget : items.get? name with - | bytes | sub
  · -- the file is new: its directory is the one in front of the name
    rw [hget] at hfind
    obtain ⟨front, hfront, hjoin⟩ := exists_front hplace
    rw [placeFor, hfind]
    dsimp only [Option.elim]
    rw [hjoin name hname.1, List.dropLast_concat,
      startOf_join (ne_empty_of_locate hplace) hname.1, bind_of_ok hfront,
      List.getLastD_concat]
    split
    · exact absurd rfl hname.1.1
    · rfl
  · -- the file is there, and is written over
    rw [hget] at hfind
    rw [placeFor, hfind]
    dsimp only [Option.elim]
    rw [locate_join hplace hat hname, hget]
    rfl
  · exact absurd hget (hfree sub)

/-- Nothing is written where there is a directory. -/
theorem placeFor_of_directory {sub : Items} (hfind : fs.find p = .ok (.directory sub)) :
    fs.placeFor p = .error .isDirectory := by
  rw [placeFor, hfind]

/-! ### Trees that grow -/

/-- Whether a tree has grown into another one: every directory is a directory still, and
nothing is gone. -/
structure Grows (fs fs' : Files) : Prop where
  here : fs'.here = fs.here
  directory : ∀ place, fs.root.own? place = some none → fs'.root.own? place = some none
  present : ∀ place, (fs.root.own? place).isSome → (fs'.root.own? place).isSome

/-- A step that there is stays when files are written. -/
theorem step_of_grows (h : fs.Grows fs') {next : Place}
    (hstep : fs.step place name = .ok next) : fs'.step place name = .ok next := by
  rw [step] at hstep
  split at hstep
  · rename_i items hat
    obtain ⟨items', hat'⟩ :=
      Item.own?_eq_directory.mp
        (h.directory place (Item.own?_eq_directory.mpr ⟨items, hat⟩))
    have hentry : (items.get? name).isSome → (items'.get? name).isSome := by
      have hpresent := h.present (place ++ [name])
      rwa [Item.own?, Item.own?, Option.isSome_map, Option.isSome_map,
        Item.at?_concat hat, Item.at?_concat hat'] at hpresent
    have hat' : fs'.at? place = some (.directory items') := hat'
    rw [step, hat']
    dsimp only
    -- the tests on the name are the same, and an entry that was there still is
    split at hstep
    · rwa [if_pos ‹_›]
    · rw [if_neg ‹_›]
      split at hstep
      · rwa [if_pos ‹_›]
      · rw [if_neg ‹_›]
        split at hstep
        · rwa [if_pos (hentry ‹_›)]
        · cases hstep
  · cases hstep

/-- **A path still leads to its place when the tree has grown.** -/
theorem locate_of_grows (h : fs.Grows fs') (hplace : fs.locate p = .ok place) :
    fs'.locate p = .ok place := by
  have hne := ne_empty_of_locate hplace
  have hfold : ∀ (names : List String) (start : Place), names.foldlM fs.step start =
      .ok place → names.foldlM fs'.step start = .ok place := by
    intro names
    induction names with
    | nil => exact fun start hstart => hstart
    | cons name names ih =>
        intro start hstart
        rw [List.foldlM_cons] at hstart ⊢
        obtain ⟨next, hnext, hrest⟩ := bind_eq_ok.mp hstart
        rw [bind_of_ok (step_of_grows h hnext)]
        exact ih next hrest
  rw [locate_eq hne] at hplace ⊢
  have hstart : fs'.startOf p = fs.startOf p := by rw [startOf, startOf, h.here]
  rw [hstart]
  exact hfold _ _ hplace

/-- Whether a tree is another one in which a file has been written at a place, new or in
place of a file; all else is as it was. -/
structure Writes (fs fs' : Files) (place : Place) (bytes : List UInt8) : Prop where
  here : fs'.here = fs.here
  free : fs.root.own? place ≠ some none
  written : fs'.root.own? place = some (some bytes)
  kept : ∀ other, other ≠ place → fs'.root.own? other = fs.root.own? other

/-- Writing takes no directory away. -/
theorem Writes.grows {bytes : List UInt8} (h : fs.Writes fs' place bytes) :
    fs.Grows fs' where
  here := h.here
  directory := by
    intro other hother
    by_cases heq : other = place
    · exact absurd (heq ▸ hother) h.free
    · rwa [h.kept other heq]
  present := by
    intro other hother
    by_cases heq : other = place
    · rw [heq, h.written]
      rfl
    · rwa [h.kept other heq]

/-- A file in a directory is written there, and nothing else changes. -/
theorem writes_put (hat : fs.at? place = some (.directory items))
    (hfree : ∀ sub, items.get? name ≠ some (.directory sub))
    (bytes : List UInt8) :
    fs.Writes { fs with root := fs.root.put (place ++ [name]) (.file bytes) } (place ++
      [name]) bytes where
  here := rfl
  free := by
    intro hdirectory
    obtain ⟨sub, hsub⟩ := Item.own?_eq_directory.mp hdirectory
    rw [Item.at?_concat hat] at hsub
    exact hfree sub hsub
  written := by
    rw [Item.own?, Item.at?_concat (Item.at?_put_above hat name _),
      Items.get?_insert, if_pos rfl]
    rfl
  kept := fun other hne => Item.own?_put_of_ne hat hfree bytes hne

end Files

end Project

end RuleLint
