/-
RuleLint/Proofs/Keyed.lean

Mappings by their keys, and the settings that are made of them.  The entries of a
mapping, those that it merges and its own ones, are built one after the other, and
entries with the same key fall together.  `Work.Made` is what holds on the way: a name
stands for the node of the last entry with it, and among the keys is one that is no text
if there was one.  Values of keys may still change while other entries are built, but
texts stay texts, and no other value becomes one.

Settings are made of a mapping whose keys are the three fields.
`Build.settings_iff_complete` says what becomes of any other one.
-/
import RuleLint.Host.Standard
import RuleLint.Proofs.Merging

namespace RuleLint

/-! ### Texts among values -/

namespace Value

/-- Whether a value is a text. -/
def isText : Value → Bool
  | .text _ => true
  | _ => false

/-- Whether a value is the text of a name. -/
def isNamed (name : String) : Value → Bool
  | .text t => t == name
  | _ => false

variable {u v : Value} {name t : String}

theorem isText_iff : v.isText = true ↔ ∃ t, v = .text t := by
  cases v <;> simp [isText]

theorem isNamed_iff : v.isNamed name = true ↔ v = .text name := by
  cases v <;> simp [isNamed]

/-- Nothing but a text is the same as it. -/
theorem same_text_iff : same (.text t) v = true ↔ v = .text t := by
  cases v
  case text s =>
    show (t == s) = true ↔ _
    rw [beq_iff_eq, Value.text.injEq, eq_comm]
  all_goals simp [same, sameLeaf, asNumber]

theorem same_iff_of_text : same v (.text t) = true ↔ v = .text t := by
  cases v <;> simp [same, sameLeaf, asNumber]

/-- Of two values that are the same, both are a text or none is. -/
theorem eq_text_iff_of_same (h : same u v = true) (t : String) :
    u = .text t ↔ v = .text t := by
  constructor
  · rintro rfl
    exact same_text_iff.mp h
  · rintro rfl
    exact same_iff_of_text.mp h

/-- What is the same text as another value is named and is a text as that is. -/
theorem isNamed_eq (h : ∀ t, u = .text t ↔ v = .text t) (name : String) :
    u.isNamed name = v.isNamed name := by
  rw [Bool.eq_iff_iff, isNamed_iff, isNamed_iff]
  exact h name

theorem isText_eq (h : ∀ t, u = .text t ↔ v = .text t) : u.isText = v.isText := by
  rw [Bool.eq_iff_iff, isText_iff, isText_iff]
  exact exists_congr h

end Value

namespace Yaml

/-! ### Gathered entries -/

namespace Build

variable {acc : List (NodeId × Value × NodeId)} {kvs : List (Value × NodeId)}
    {keys keys' : List Value} {k v : NodeId} {key : Value}
  {name : String}

/-- The node of the first entry with a name. -/
def nodeFor? (name : String) (kvs : List (Value × NodeId)) : Option NodeId :=
  (kvs.find? fun e => e.1.isNamed name).map (·.2)

/-- The node for a name is that of the first entry with it. -/
theorem nodeFor?_cons (e : Value × NodeId) : nodeFor? name (e :: kvs) =
    if e.1.isNamed name then some e.2 else nodeFor? name kvs := by
  rw [nodeFor?, List.find?_cons]
  cases e.1.isNamed name <;> rfl

/-- There is no node for a name that is not among the keys. -/
theorem nodeFor?_eq_none_iff :
    nodeFor? name kvs = none ↔ Value.text name ∉ kvs.map (·.1) := by
  simp only [nodeFor?, Option.map_eq_none_iff, List.find?_eq_none, Value.isNamed_iff,
    List.mem_map, not_exists, not_and]

theorem nodeFor?_ne_none_iff :
    nodeFor? name kvs ≠ none ↔ Value.text name ∈ kvs.map (·.1) := by
  rw [Ne, nodeFor?_eq_none_iff, not_not]

/-- A key under which an entry is found says the same as the one that is looked for, if
it says anything; a node is never two keys. -/
theorem eq_text_iff_of_found {l : NodeId} {other : Value}
    (hl : l = k → ∀ t, other = .text t ↔ key = .text t)
    (h : (decide (l = k) || Value.same other key) = true) (t : String) :
    other = .text t ↔ key = .text t := by
  rcases Bool.or_eq_true_iff.mp h with h | h
  · exact hl (of_decide_eq_true h) t
  · exact Value.eq_text_iff_of_same h t

/-- An entry that is added gives its name to its node, and no other name changes. -/
theorem nodeFor?_addEntry (hk : ∀ a ∈ acc, a.1 = k → ∀ t, a.2.1 = .text t ↔
    key = .text t) :
    nodeFor? name ((addEntry k key v acc).map (·.2)) = if key.isNamed name then some v
      else nodeFor? name (acc.map (·.2)) := by
  induction acc with
  | nil => rw [addEntry, List.map_cons, nodeFor?_cons]
  | cons a acc ih =>
      obtain ⟨l, other, u⟩ := a
      obtain ⟨hl, hk⟩ := List.forall_mem_cons.mp hk
      rw [addEntry]
      split
      · rename_i hfound
        have hother : other.isNamed name = key.isNamed name :=
          Value.isNamed_eq (eq_text_iff_of_found hl hfound) name
        rw [List.map_cons, List.map_cons, nodeFor?_cons, nodeFor?_cons, hother]
        split <;> rfl
      · rename_i hnew
        rw [List.map_cons, List.map_cons, nodeFor?_cons, nodeFor?_cons, ih hk]
        by_cases hother : other.isNamed name = true
        · -- the key is a different one, so it has another name
          have hkey : ¬ key.isNamed name = true := by
            intro hkey
            rw [Value.isNamed_iff.mp hother, Value.isNamed_iff.mp hkey, same_text,
              Bool.or_true] at hnew
            exact hnew rfl
          rw [if_pos hother, if_neg hkey, if_pos hother]
        · rw [if_neg hother, if_neg hother]

/-- A key that is no text is there afterwards, as it is or as another one that is no
text. -/
theorem any_isText_addEntry (hk : ∀ a ∈ acc, a.1 = k → ∀ t, a.2.1 = .text t ↔
    key = .text t) :
    ((addEntry k key v acc).any fun a => !a.2.1.isText) =
      ((acc.any fun a => !a.2.1.isText) || !key.isText) := by
  induction acc with
  | nil => rw [addEntry, List.any_cons, List.any_nil, Bool.or_false, Bool.false_or]
  | cons a acc ih =>
      obtain ⟨l, other, u⟩ := a
      obtain ⟨hl, hk⟩ := List.forall_mem_cons.mp hk
      rw [addEntry]
      split
      · rename_i hfound
        have hother : other.isText = key.isText :=
          Value.isText_eq (eq_text_iff_of_found hl hfound)
        rw [List.any_cons, List.any_cons, hother]
        cases key.isText <;> simp
      · rw [List.any_cons, List.any_cons, ih hk, Bool.or_assoc]

/-! ### Settings from entries -/

/-- The failure for a field that is missing. -/
def missing (field : String) : Failure :=
  .invalid ("!settings node missing required field \x60" ++ field ++ "\x60.")

/-- Whether keys lack a field, and have all fields in front of it. -/
def LacksFirst (keys : List Value) (field : String) : Prop :=
  ∃ front back, settingsFields = front ++ field :: back ∧
    (∀ f ∈ front, Value.text f ∈ keys) ∧ Value.text field ∉ keys

/-- Whether keys have all fields. -/
def HasFields (keys : List Value) : Prop :=
  ∀ field ∈ settingsFields, Value.text field ∈ keys

/-- Whether a key is no field. -/
def isOther : Value → Bool
  | .text t => !settingsFields.contains t
  | _ => true

/-- A key is another one if it is none of the fields. -/
theorem isOther_iff {v : Value} : isOther v = true ↔ ∀ field ∈ settingsFields,
    v ≠ .text field := by
  cases v
  case text t =>
    simp only [isOther, Bool.not_eq_true', List.contains_eq_mem, decide_eq_false_iff_not,
      ne_eq, Value.text.injEq]
    exact ⟨fun h field hfield heq => h (heq ▸ hfield), fun h ht => h t ht rfl⟩
  all_goals simp [isOther]

/-- Whether a failure says that a key is no field. -/
def saysOther : Failure → Bool
  | .unexpectedField _ | .fieldNameNotText => true
  | _ => false

/-- All fields are there if none is found missing. -/
theorem hasFields_iff : HasFields (kvs.map (·.1)) ↔
    settingsFields.find? (fun field => (nodeFor? field kvs).isNone) = none := by
  simp only [HasFields, List.find?_eq_none,
    Option.isNone_iff_eq_none, ← nodeFor?_ne_none_iff, ne_eq]

/-- If all keys are texts, then the first one that is no field is a text too. -/
theorem exists_text_of_isOther (htexts : ¬ (kvs.any fun e => !e.1.isText) = true)
    (hother : ∃ v ∈ kvs.map (·.1), isOther v = true) :
    ∃ t node, kvs.find? (fun e => isOther e.1) = some (.text t, node) := by
  obtain ⟨v, hv, hother⟩ := hother
  obtain ⟨e, he, rfl⟩ := List.mem_map.mp hv
  have hsome : (kvs.find? fun e => isOther e.1).isSome = true :=
    List.find?_isSome.mpr ⟨e, he, hother⟩
  obtain ⟨⟨key, node⟩, hfound⟩ := Option.isSome_iff_exists.mp hsome
  have htext : key.isText = true := by
    by_contra hkey
    refine htexts (List.any_eq_true.mpr ⟨(key, node),
      List.mem_of_find?_eq_some hfound, ?_⟩)
    show (!key.isText) = true
    rw [Bool.eq_false_iff.mpr hkey, Bool.not_false]
  obtain ⟨t, rfl⟩ := Value.isText_iff.mp htext
  exact ⟨t, node, hfound⟩

/-- **What becomes of settings**: a field is missing, a key is no field, or the keys are
the fields. -/
theorem settingsOf_cases (kvs : List (Value × NodeId)) :
    (∃ field, LacksFirst (kvs.map (·.1)) field ∧ settingsOf kvs =
      .error (missing field)) ∨
      (HasFields (kvs.map (·.1)) ∧ (∃ v ∈ kvs.map (·.1), isOther v = true) ∧
        ∃ e, settingsOf kvs = .error e ∧ saysOther e = true) ∨
      (HasFields (kvs.map (·.1)) ∧ ¬ (∃ v ∈ kvs.map (·.1), isOther v = true) ∧ ∃ a b c,
        nodeFor? "included" kvs = some a ∧
        nodeFor? "excluded" kvs = some b ∧ nodeFor? "allow_ignore" kvs = some c ∧
          settingsOf kvs = .ok (.settings a b c)) := by
  unfold settingsOf
  dsimp only
  split
  · -- the first field that is missing is named
    left
    rename_i field hfind
    obtain ⟨hnone, front, back, hfields, hfront⟩ := List.find?_eq_some_iff_append.mp hfind
    refine ⟨field, ⟨front, back, hfields, fun f hf => ?_, ?_⟩, rfl⟩
    · rw [← nodeFor?_ne_none_iff]
      intro hnode
      have hsome : (!(nodeFor? f kvs).isNone) = true := hfront f hf
      rw [hnode] at hsome
      cases hsome
    · exact nodeFor?_eq_none_iff.mp (Option.isNone_iff_eq_none.mp hnone)
  · right
    rename_i hfind
    have hfields : HasFields (kvs.map (·.1)) := hasFields_iff.mpr hfind
    split
    · -- a key that is no text
      left
      rename_i hany
      obtain ⟨e, he, htext⟩ := List.any_eq_true.mp hany
      refine ⟨hfields, ⟨e.1, List.mem_map_of_mem he, isOther_iff.mpr fun field _ h => ?_⟩,
        _, rfl, rfl⟩
      rw [h] at htext
      cases htext
    · rename_i htexts
      split
      · -- a text that is no field
        left
        rename_i name node hfind
        have hother := List.find?_some hfind
        exact ⟨hfields,
          ⟨.text name, List.mem_map_of_mem (List.mem_of_find?_eq_some hfind), hother⟩, _,
          rfl, rfl⟩
      · right
        rename_i a b c ha hb hc hno
        refine ⟨hfields, fun hother => ?_, a, b, c, ha, hb, hc, rfl⟩
        obtain ⟨t, node, hfound⟩ := exists_text_of_isOther htexts hother
        exact hno t node hfound
      · -- no field is missing, so this cannot be
        rename_i hno
        have hnode : ∀ field ∈ settingsFields, ∃ j, nodeFor? field kvs = some j :=
          fun field hfield =>
            Option.ne_none_iff_exists'.mp
            (nodeFor?_ne_none_iff.mpr (hfields field hfield))
        obtain ⟨a, ha⟩ := hnode "included" (by decide)
        obtain ⟨b, hb⟩ := hnode "excluded" (by decide)
        obtain ⟨c, hc⟩ := hnode "allow_ignore" (by decide)
        exact (hno a b c ha hb hc).elim

/-- What is said about a missing field names it. -/
theorem missing_inj {field field' : String} (h : missing field = missing field') :
    field = field' := by
  rw [missing, missing, Failure.invalid.injEq, String.append_left_inj,
    String.append_right_inj] at h
  exact h

open Classical in
/-- The first field that is missing, in the order in which they are looked for. -/
theorem lacksFirst_iff {field : String} : LacksFirst keys field ↔
    settingsFields.find? (fun f => decide (Value.text f ∉ keys)) = some field := by
  rw [List.find?_eq_some_iff_append]
  constructor
  · rintro ⟨front, back, hfields, hfront, hnot⟩
    exact ⟨decide_eq_true hnot, front, back, hfields,
      fun f hf => by simpa using hfront f hf⟩
  · rintro ⟨hnot, front, back, hfields, hfront⟩
    exact ⟨front, back, hfields,
      fun f hf => by simpa using hfront f hf, of_decide_eq_true hnot⟩

/-- There is one first field that is missing at most. -/
theorem LacksFirst.eq {field field' : String} (h : LacksFirst keys field)
    (h' : LacksFirst keys field') : field = field' :=
  Option.some.inj ((lacksFirst_iff.mp h).symm.trans (lacksFirst_iff.mp h'))

theorem LacksFirst.not_hasFields {field : String} (h : LacksFirst keys field) :
    ¬ HasFields keys := by
  obtain ⟨front, back, hfields, -, hnot⟩ := h
  intro hall
  exact hnot (hall field (by simp [hfields]))

/-- A missing field is told, and told only, if it is the first one missing. -/
theorem settingsOf_eq_missing_iff {field : String} :
    settingsOf kvs = .error (missing field) ↔ LacksFirst (kvs.map (·.1)) field := by
  rcases settingsOf_cases kvs with ⟨first, hlacks, h⟩ | ⟨hfields, -, e, h,
    hword⟩ | ⟨hfields, -, a, b, c, -, -, -, h⟩
  · rw [h, Except.error.injEq]
    exact ⟨fun heq => missing_inj heq ▸ hlacks, fun h' => congrArg missing (hlacks.eq h')⟩
  · rw [h, Except.error.injEq]
    refine ⟨?_, fun h' => (h'.not_hasFields hfields).elim⟩
    rintro rfl
    cases hword
  · rw [h]
    refine ⟨fun h' => ?_, fun h' => (h'.not_hasFields hfields).elim⟩
    cases h'

/-- Another key is told if no field is missing. -/
theorem settingsOf_saysOther_iff : (∃ e, settingsOf kvs = .error e ∧ saysOther e = true) ↔
    HasFields (kvs.map (·.1)) ∧ ∃ v ∈ kvs.map (·.1), isOther v = true := by
  rcases settingsOf_cases kvs with ⟨first, hlacks, h⟩ | ⟨hfields, hother, hword⟩ | ⟨-,
    hnone, a, b, c, -, -, -, h⟩
  · refine ⟨?_, fun h' => (hlacks.not_hasFields h'.1).elim⟩
    rintro ⟨e, he, hword⟩
    cases h.symm.trans he
    cases hword
  · exact ⟨fun _ => ⟨hfields, hother⟩, fun _ => hword⟩
  · refine ⟨?_, fun h' => (hnone h'.2).elim⟩
    rintro ⟨e, he, -⟩
    cases h.symm.trans he

/-- Settings are made exactly of keys that are the fields and no others. -/
theorem exists_settingsOf_iff : (∃ s, settingsOf kvs = .ok s) ↔
    HasFields (kvs.map (·.1)) ∧ ¬ ∃ v ∈ kvs.map (·.1), isOther v = true := by
  rcases settingsOf_cases kvs with ⟨first, hlacks, h⟩ | ⟨-, hother, e, h, -⟩ | ⟨hfields,
    hnone, a, b, c, -, -, -, h⟩
  · refine ⟨?_, fun h' => (hlacks.not_hasFields h'.1).elim⟩
    rintro ⟨s, hs⟩
    cases h.symm.trans hs
  · refine ⟨?_, fun h' => (h'.2 hother).elim⟩
    rintro ⟨s, hs⟩
    cases h.symm.trans hs
  · exact ⟨fun _ => ⟨hfields, hnone⟩, fun _ => ⟨_, h⟩⟩

/-- Settings hold the nodes of their fields. -/
theorem nodes_of_settingsOf {s : Shape} (h : settingsOf kvs = .ok s) :
    ∃ a b c, s = .settings a b c ∧ [a, b, c].map some =
      settingsFields.map (nodeFor? · kvs) := by
  rcases settingsOf_cases kvs with ⟨first, -, h'⟩ | ⟨-, -, e, h', -⟩ | ⟨-, -, a, b, c,
    ha, hb, hc, h'⟩
  · cases h'.symm.trans h
  · cases h'.symm.trans h
  · cases h'.symm.trans h
    exact ⟨a, b, c,
      rfl, by simp only [settingsFields, List.map_cons, List.map_nil, ha, hb, hc]⟩

/-- Keys are just the fields if they have all fields and no other is among them. -/
theorem forall_mem_iff_field :
    (∀ v, v ∈ keys ↔ ∃ field ∈ settingsFields, v = .text field) ↔
    HasFields keys ∧ ¬ ∃ v ∈ keys, isOther v = true := by
  constructor
  · intro h
    refine ⟨fun field hfield => (h _).mpr ⟨field, hfield, rfl⟩, ?_⟩
    rintro ⟨v, hv, hother⟩
    obtain ⟨field, hfield, heq⟩ := (h v).mp hv
    exact isOther_iff.mp hother field hfield heq
  · rintro ⟨hfields, hnone⟩ v
    refine ⟨fun hv => ?_, ?_⟩
    · by_contra hno
      exact hnone ⟨v, hv, isOther_iff.mpr fun field hfield heq =>
        hno ⟨field, hfield, heq⟩⟩
    · rintro ⟨field, hfield, rfl⟩
      exact hfields field hfield

/-- Values of keys may change, as long as texts stay what they are. -/
theorem nodeFor?_map {f : NodeId × Value × NodeId → Value} {name : String}
    (h : ∀ a ∈ acc, ∀ t, f a = .text t ↔ a.2.1 = .text t) :
    nodeFor? name (acc.map fun a => (f a, a.2.2)) = nodeFor? name (acc.map (·.2)) := by
  induction acc with
  | nil => rfl
  | cons a acc ih =>
      obtain ⟨ha, h⟩ := List.forall_mem_cons.mp h
      rw [List.map_cons, List.map_cons, nodeFor?_cons, nodeFor?_cons, ih h,
        Value.isNamed_eq ha]

/-- Keys with the same texts among them, and beside them others in both or in none. -/
structure SameTexts (keys keys' : List Value) : Prop where
  mem : ∀ t, Value.text t ∈ keys ↔ Value.text t ∈ keys'
  other : (∃ v ∈ keys, v.isText = false) ↔ ∃ v ∈ keys', v.isText = false

namespace SameTexts

/-- Keys with the same texts lack the same field first. -/
theorem lacksFirst_iff (h : SameTexts keys keys') {field : String} :
    LacksFirst keys field ↔ LacksFirst keys' field := by
  simp only [LacksFirst, h.mem]

theorem hasFields_iff (h : SameTexts keys keys') : HasFields keys ↔ HasFields keys' := by
  simp only [HasFields, h.mem]

/-- Keys with the same texts have another one among them or not, since one that is no
text is another one, too. -/
theorem exists_isOther (h : SameTexts keys keys')
    (hother : ∃ v ∈ keys, isOther v = true) : ∃ v ∈ keys', isOther v = true := by
  obtain ⟨v, hv, hother⟩ := hother
  rcases htext : v.isText with _ | _
  · obtain ⟨u, hu, hutext⟩ := h.other.mp ⟨v, hv, htext⟩
    refine ⟨u, hu, isOther_iff.mpr ?_⟩
    rintro field - rfl
    cases hutext
  · obtain ⟨t, rfl⟩ := Value.isText_iff.mp htext
    exact ⟨_, (h.mem t).mp hv, hother⟩

theorem exists_isOther_iff (h : SameTexts keys keys') : (∃ v ∈ keys, isOther v = true) ↔
    ∃ v ∈ keys', isOther v = true :=
  ⟨h.exists_isOther, SameTexts.exists_isOther ⟨fun t => (h.mem t).symm, h.other.symm⟩⟩

end SameTexts

end Build

section Settings

variable [Host]

/-! ### Keys that are built -/

namespace Work

variable {w w' : Work} {k v : NodeId} {key : Value} {name t : String}
    {es fs done : List (NodeId × NodeId)}
  {acc : List (NodeId × Value × NodeId)}

/-- The value of a node as it is now. -/
def valueAt (w : Work) (k : NodeId) : Value :=
  Build.assemble w.shapes (w.graph.size + 1) [] k

/-- A node has a text for its value if it has become that text. -/
theorem valueAt_eq_text_iff : w.valueAt k = .text t ↔ w.textAt? k = some t :=
  ⟨textAt?_of_assemble, fun h => assemble_of_textAt? h _⟩

/-- The texts among keys stay what they are. -/
theorem Keeps.valueAt_eq_text_iff (h : w.Keeps w') (hk : w.Built k) (t : String) :
    w'.valueAt k = .text t ↔ w.valueAt k = .text t := by
  rw [Work.valueAt_eq_text_iff, Work.valueAt_eq_text_iff, (h k hk).2]

/-- The node of the last entry with a name. -/
def lastNamed? (w : Work) (name : String) (es : List (NodeId × NodeId)) : Option NodeId :=
  ((es.filter fun e => (w.valueAt e.1).isNamed name).getLast?).map (·.2)

/-- The last entry of a name is looked for from behind. -/
theorem lastNamed?_append :
    w.lastNamed? name (es ++ fs) = (w.lastNamed? name fs).or (w.lastNamed? name es) := by
  rw [lastNamed?, List.filter_append, List.getLast?_append, Option.map_or]
  rfl

theorem lastNamed?_append_singleton (e : NodeId × NodeId) :
    w.lastNamed? name (es ++ [e]) = if (w.valueAt e.1).isNamed name then some e.2
      else w.lastNamed? name es := by
  rw [lastNamed?_append]
  cases h : (w.valueAt e.1).isNamed name <;> simp [lastNamed?, h]

/-- No entry has a name that no key has. -/
theorem lastNamed?_eq_none_iff : w.lastNamed? name es = none ↔
    Value.text name ∉ es.map fun e => w.valueAt e.1 := by
  simp only [lastNamed?, Option.map_eq_none_iff, List.getLast?_eq_none_iff,
    List.filter_eq_nil_iff, Value.isNamed_iff, List.mem_map,
    not_exists, not_and]

theorem exists_of_lastNamed? (h : w.lastNamed? name es = some v) : ∃ e ∈ es, e.2 = v := by
  obtain ⟨e, he, rfl⟩ := Option.map_eq_some_iff.mp h
  exact ⟨e, (List.mem_filter.mp (List.mem_of_getLast? he)).1, rfl⟩

/-- The last entry of a name stays the last while the builder goes on. -/
theorem Keeps.lastNamed?_eq (h : w.Keeps w') (hes : ∀ e ∈ es, w.Built e.1) :
    w'.lastNamed? name es = w.lastNamed? name es := by
  have hfilter : (es.filter fun e => (w'.valueAt e.1).isNamed name) = es.filter fun e =>
      (w.valueAt e.1).isNamed name :=
    List.filter_congr fun e he => Value.isNamed_eq (h.valueAt_eq_text_iff (hes e he)) name
  rw [lastNamed?, hfilter, lastNamed?]

/-- Whether a node is built, and is the text that a key is, if one of the two is a
text. -/
structure Names (w : Work) (k : NodeId) (key : Value) : Prop where
  built : w.Built k
  text : ∀ t, w.valueAt k = .text t ↔ key = .text t

theorem Names.stable (k : NodeId) (key : Value) : Stable fun w => w.Names k key :=
  fun _ _ hw h =>
    ⟨(hw k h.built).1, fun t => (hw.valueAt_eq_text_iff h.built t).trans (h.text t)⟩

/-- Whether entries that are built have been gathered, each name with the last node that
it was given. -/
structure Made (w : Work) (done : List (NodeId × NodeId))
    (acc : List (NodeId × Value × NodeId)) : Prop where
  names : ∀ e ∈ keysOf acc, w.Names e.1 e.2
  built : ∀ e ∈ done, w.Built e.1 ∧ w.Built e.2
  last : ∀ name, Build.nodeFor? name (acc.map (·.2)) = w.lastNamed? name done
  other : (acc.any fun a => !a.2.1.isText) = done.any fun e => !(w.valueAt e.1).isText

theorem made_nil (w : Work) : w.Made [] [] :=
  ⟨List.forall_mem_nil _, List.forall_mem_nil _, fun _ => rfl, rfl⟩

/-- What holds of the entries so far is kept while other nodes are built. -/
theorem Made.stable (done : List (NodeId × NodeId))
    (acc : List (NodeId × Value × NodeId)) : Stable fun w => w.Made done acc := by
  intro w w' hw h
  refine ⟨fun e he => Names.stable e.1 e.2 w w' hw (h.names e he), fun e he => ?_,
    fun name => ?_, ?_⟩
  · exact ⟨(hw e.1 (h.built e he).1).1, (hw e.2 (h.built e he).2).1⟩
  · rw [h.last, hw.lastNamed?_eq fun e he => (h.built e he).1]
  · rw [h.other, Bool.eq_iff_iff, List.any_eq_true, List.any_eq_true]
    refine exists_congr fun e => and_congr_right fun he => ?_
    rw [Value.isText_eq (hw.valueAt_eq_text_iff (h.built e he).1)]

/-- An entry more. -/
theorem Made.addEntry (h : w.Made done acc) (hk : w.Names k key) (hv : w.Built v) :
    w.Made (done ++ [(k, v)]) (Build.addEntry k key v acc) := by
  have hnode : ∀ a ∈ acc, a.1 = k → ∀ t, a.2.1 = .text t ↔ key = .text t := by
    rintro a ha rfl t
    exact ((h.names _ (List.mem_map_of_mem ha)).text t).symm.trans (hk.text t)
  refine ⟨?_, List.forall_mem_append.mpr ⟨h.built,
    List.forall_mem_singleton.mpr ⟨hk.built, hv⟩⟩, fun name => ?_, ?_⟩
  · rcases keysOf_addEntry k key v acc with heq | ⟨heq, -⟩ <;> rw [heq]
    · exact h.names
    · exact List.forall_mem_append.mpr ⟨h.names, List.forall_mem_singleton.mpr hk⟩
  · rw [Build.nodeFor?_addEntry hnode, lastNamed?_append_singleton, h.last,
      Value.isNamed_eq hk.text]
  · rw [Build.any_isText_addEntry hnode, List.any_append, h.other, List.any_cons,
      List.any_nil, Bool.or_false, Value.isText_eq hk.text]

end Work

/-! ### Entries that are built -/

variable {n : Nat} {sub : NodeId → Build Unit} {site : Site} {i : NodeId} {w w₂ : Work}
    {es : List (NodeId × NodeId)}

/-- Builds an entry behind those that are done. -/
theorem Builds.enter (hsub : Builds n sub) (start : Mark) (done : List (NodeId × NodeId))
    (acc : List (NodeId × Value × NodeId))
    (e : NodeId × NodeId) :
    Works n (fun w => w.Made done acc) (Build.enter sub start acc e) fun acc' w =>
      w.Made (done ++ [e]) acc' := by
  obtain ⟨k, v⟩ := e
  refine (hsub.frame (.stable _ _) k).bind fun _ => ?_
  refine Works.bind (Q := fun key w => w.Names k key ∧ w.Made done acc) ?_ fun key => ?_
  · rintro w _ _ hw - ⟨hbuilt, hmade⟩ ⟨⟩
    exact ⟨.refl w, hw, ⟨hbuilt, fun _ => Iff.rfl⟩, hmade⟩
  dsimp only
  split
  · exact .node_refuse_bind
  · refine (hsub.frame ((Work.Names.stable k key).and (.stable _ _)) v).bind fun _ => ?_
    split
    · exact .throw
    · exact .pure fun w h => h.2.2.addEntry h.2.1 h.1

/-- All entries, by induction on them: each keeps what holds of those before it. -/
theorem Builds.foldlM_enter (hsub : Builds n sub) (start : Mark)
    (done es : List (NodeId × NodeId))
    (acc : List (NodeId × Value × NodeId)) :
    Works n (fun w => w.Made done acc) (es.foldlM (Build.enter sub start) acc) fun made
      w => w.Made (done ++ es) made := by
  induction es generalizing done acc with
  | nil =>
      rw [List.append_nil]
      exact .pure fun _ h => h
  | cons e es ih =>
      rw [List.foldlM_cons]
      refine (hsub.enter start done acc e).bind fun acc' => ?_
      have := ih (done ++ [e]) acc'
      rwa [List.append_assoc, List.singleton_append] at this

/-- **The entries of a mapping**, with what it merges, are built one after the other. -/
theorem made_of_entries (hsub : Builds n sub) (hw : w.Sound)
    (hn : w.graph.size < n + w.active.length)
    (h : Build.entries sub i w = .ok (es, w₂)) :
    w.graph.isMapping i = true ∧ ∃ w₁ made, Build.flatten (w.graph.mergeCount + 1) i w =
      .ok ((), w₁) ∧
      es = made.map (fun a => (a.1, a.2.2)) ∧ w.Advances w₂ ∧ w₂.Sound ∧
        w₂.Made (w₁.graph.entries i) made := by
  rw [Build.entries, run_bind_of_ok Build.run_node] at h
  -- only a mapping has entries
  rcases hcontent : (w.graph.node i).content with text | codes | items | all
  · rw [hcontent] at h
    cases h
  · rw [hcontent] at h
    cases h
  · rw [hcontent] at h
    cases h
  · rw [hcontent] at h
    dsimp only at h
    rw [run_bind_of_ok run_get] at h
    obtain ⟨_, w₁, hflatten, h⟩ := run_bind.mp h
    rw [run_bind_of_ok Build.run_entriesOf] at h
    obtain ⟨made, _, hfold, h⟩ := run_bind.mp h
    cases h
    -- merging changes the graph, then every entry is built in turn
    obtain ⟨hadv₁, hw₁, -⟩ :=
      (Regraphs.flatten _ i).works (n := n) .true w _ w₁ hw hn trivial hflatten
    have hn₁ : w₁.graph.size < n + w₁.active.length := by rwa [hadv₁.size, hadv₁.active]
    obtain ⟨hadv₂, hw₂, hmade⟩ :=
      hsub.foldlM_enter _ [] _ [] w₁ made w₂ hw₁ hn₁ (Work.made_nil w₁) hfold
    exact ⟨Graph.isMapping_of_content hcontent, w₁, made, hflatten, rfl,
      hadv₁.trans hadv₂, hw₂, hmade⟩

/-! ### Settings of a mapping -/

namespace Build

/-- The values of the keys are read at the end, and reading changes nothing. -/
theorem run_keys (w : Work) (es : List (NodeId × NodeId)) :
    (es.mapM fun e => do return (← valueOf e.1, e.2) : Build (List (Value × NodeId))) w =
      .ok (es.map fun e => (w.valueAt e.1, e.2), w) := by
  induction es with
  | nil => rfl
  | cons e es ih =>
      have hvalue : valueOf e.1 w = .ok (w.valueAt e.1, w) := rfl
      rw [List.mapM_cons, bind_assoc, run_bind_of_ok hvalue, pure_bind, run_bind_of_ok ih]
      rfl

/-- A node with the entries of settings becomes what they make. -/
theorem build_settings (hbuilt : ¬ w.Built i) (hactive : i ∉ w.active)
    (hmaker : site.registry.maker? (w.graph.node i).tag = some .settings)
    (h : entries (build site n) i { w with active := i :: w.active } = .ok (es, w₂)) :
    build site (n + 1) i w =
      (settingsOf (es.map fun e => (w₂.valueAt e.1, e.2))).map fun s =>
      ((), { w₂.withShape i s with active := w₂.active.erase i }) := by
  rw [build_eq_complete hbuilt hactive hmaker]
  have hmake : make site (build site n) i .settings { w with active := i :: w.active } =
      (settingsOf (es.map fun e => (w₂.valueAt e.1, e.2))).map fun s => (s, w₂) := by
    rw [make, run_bind_of_ok h, run_bind_of_ok (run_keys w₂ es)]
    cases settingsOf (es.map fun e => (w₂.valueAt e.1, e.2)) <;> rfl
  rcases hs : settingsOf (es.map fun e => (w₂.valueAt e.1, e.2)) with e | s
  · rw [hs] at hmake ⊢
    exact run_bind_of_error hmake
  · rw [hs] at hmake ⊢
    exact run_bind_of_ok hmake

end Build

namespace Work.Made

variable {done : List (NodeId × NodeId)} {acc : List (NodeId × Value × NodeId)}

/-- A name stands for the node of the last entry with it. -/
theorem nodeFor?_eq (h : w.Made done acc) (name : String) :
    Build.nodeFor? name (acc.map fun a => (w.valueAt a.1, a.2.2)) =
      w.lastNamed? name done := by
  rw [Build.nodeFor?_map fun a ha => (h.names _ (List.mem_map_of_mem ha)).text, h.last]

/-- Entries with the same key have fallen together, but no key is lost. -/
theorem sameTexts (h : w.Made done acc) :
    Build.SameTexts ((acc.map fun a => (w.valueAt a.1, a.2.2)).map (·.1))
      (done.map fun e => w.valueAt e.1) := by
  constructor
  · intro t
    rw [← not_iff_not, ← Build.nodeFor?_eq_none_iff, ← lastNamed?_eq_none_iff,
      h.nodeFor?_eq]
  · have hany : (acc.any fun a => !(w.valueAt a.1).isText) = done.any fun e =>
        !(w.valueAt e.1).isText := by
      rw [← h.other, Bool.eq_iff_iff, List.any_eq_true, List.any_eq_true]
      refine exists_congr fun a => and_congr_right fun ha => ?_
      rw [Value.isText_eq (h.names _ (List.mem_map_of_mem ha)).text]
    rw [Bool.eq_iff_iff, List.any_eq_true, List.any_eq_true] at hany
    simpa using hany

/-- And that node is built. -/
theorem built_of_lastNamed? (h : w.Made done acc) {name : String} {j : NodeId}
    (hj : w.lastNamed? name done = some j) : w.Built j := by
  obtain ⟨e, he, rfl⟩ := exists_of_lastNamed? hj
  exact (h.built e he).2

end Work.Made

namespace Build

/-- **Settings are made of complete mappings, and of no others.** The keys of the
mapping are those that it merges and its own ones. They are the fields if and only if
the mapping becomes settings, and each field is then what the last of its own entries
gives it, or else the last of the merged ones; a field that is missing is named, the
first one of them; and a key that is no field is refused where none is missing. -/
theorem settings_iff_complete (hregistry : site.registry = .configuration)
    (htag : (w.graph.node i).tag = "!settings") (hw : w.Sound)
    (hbuilt : ¬ w.Built i) (hactive : i ∉ w.active)
    (hn : w.graph.size < n + 1 + w.active.length)
    (hentries : entries (build site n) i { w with active := i :: w.active } =
      .ok (es, w₂)) :
    ∃ merged keys,
      (∃ w₁, flatten (w.graph.mergeCount + 1) i { w with active := i :: w.active } =
        .ok ((), w₁) ∧
        w₁.graph.entries i = merged ++ w.graph.explicit i) ∧
      (∀ m ms, w.graph.merged? m i = some ms → merged = ms) ∧
      keys = (merged ++ w.graph.explicit i).map (fun e => w₂.valueAt e.1) ∧
      ((∃ w₃ a b c, build site (n + 1) i w = .ok ((), w₃) ∧ w₃.shapeAt? i =
        some (.settings a b c) ∧
          (∀ j ∈ [a, b, c], w₃.Built j) ∧ [a, b, c].map some =
            settingsFields.map (fun field =>
            (w₂.lastNamed? field (w.graph.explicit i)).or (w₂.lastNamed? field merged))) ↔
        ∀ v, v ∈ keys ↔ ∃ field ∈ settingsFields, v = .text field) ∧
      (∀ field, build site (n + 1) i w = .error (missing field) ↔ LacksFirst keys field) ∧
      ((∃ e, build site (n + 1) i w = .error e ∧ saysOther e = true) ↔ HasFields keys ∧
        ∃ v ∈ keys, isOther v = true) := by
  have hmaker : site.registry.maker? (w.graph.node i).tag = some .settings := by
    rw [hregistry, htag]
    rfl
  have hsite : site.registry.maker? "" = none := by
    rw [hregistry]
    rfl
  have hi : i < w.graph.size := lt_size_of_known hsite (.inl (by rw [hmaker]; rfl))
  have hn' : w.graph.size < n + (i :: w.active).length := by
    rw [List.length_cons]
    omega
  obtain ⟨hmapping, w₁, made, hflatten, rfl, hadv, hw₂, hmade⟩ :=
    made_of_entries (builds_build hsite n) (hw.begin hi hactive) hn' hentries
  obtain ⟨merged, hall, hmerged⟩ :=
    entries_of_flatten (w := { w with active := i :: w.active }) hi hflatten
  rw [hall] at hmade
  have hbuild := build_settings hbuilt hactive hmaker hentries
  rw [List.map_map] at hbuild
  have hsame := hmade.sameTexts
  refine ⟨merged, _, ⟨w₁, hflatten, hall⟩, fun m ms => hmerged m ms hmapping, rfl, ?_,
    fun field => ?_, ?_⟩
  · -- the keys are the fields: settings are made of what the entries hold
    rw [forall_mem_iff_field, ← hsame.hasFields_iff, ← hsame.exists_isOther_iff, ←
      exists_settingsOf_iff]
    constructor
    · rintro ⟨w₃, a, b, c, h, -⟩
      obtain ⟨s, hs, -⟩ := map_eq_ok.mp (hbuild.symm.trans h)
      exact ⟨s, hs⟩
    · rintro ⟨s, hs⟩
      obtain ⟨a, b, c, rfl, hnodes⟩ := nodes_of_settingsOf hs
      rw [List.map_congr_left fun field _ => hmade.nodeFor?_eq field] at hnodes
      have hsize : i < w₂.shapes.size := by rwa [hw₂.size, hadv.size]
      refine ⟨_, a, b, c, hbuild.trans (map_eq_ok.mpr ⟨_, hs, rfl⟩),
        Work.shapeAt?_withShape_self hsize _, fun j hj => ?_, ?_⟩
      · obtain ⟨field, -, hfield⟩ := List.mem_map.mp (hnodes ▸ List.mem_map_of_mem hj)
        exact (Work.built_withShape hsize).mpr (.inr (hmade.built_of_lastNamed? hfield))
      · rw [hnodes]
        exact List.map_congr_left fun _ _ => Work.lastNamed?_append
  · -- a field is missing
    rw [hbuild, map_eq_error, ← hsame.lacksFirst_iff]
    exact settingsOf_eq_missing_iff
  · -- a key is no field
    simp only [hbuild, map_eq_error]
    rw [← hsame.hasFields_iff, ← hsame.exists_isOther_iff]
    exact settingsOf_saysOther_iff

end Build

end Settings

namespace Build

/-- Settings with a field given twice, around a mapping that they merge and that gives
all fields. -/
def overriding : Graph :=
  let text (s : String) : Node := ⟨textTag, .scalar s, ⟨0, 0, 0⟩⟩
  #[⟨"!settings", .mapping [(1, 2), (3, 4), (5, 6)], ⟨0, 0, 0⟩⟩, text "included",
    text "a", ⟨standardTag "merge", .scalar "<<", ⟨0, 0, 0⟩⟩,
    ⟨standardTag "map", .mapping [(7, 8), (9, 10), (11, 12)], ⟨0, 0, 0⟩⟩, text "included",
      text "b", text "included", text "c",
    text "excluded", text "d", text "allow_ignore", text "e"]

open scoped Standard

/-- Fields that are merged and given again: the ones given last count. -/
theorem settings_iff_complete_overriding :
    ∃ w₃, build ⟨.configuration, "rules"⟩ 14 0 ⟨overriding,
      Array.replicate overriding.size none, [], []⟩ = .ok ((), w₃) ∧
      w₃.shapeAt? 0 = some (.settings 6 10 12) := by
  -- the keys that are built, by their numbers
  have htexts :
    (entries (build ⟨.configuration, "rules"⟩ 13) 0 ⟨overriding,
      Array.replicate overriding.size none, [0], []⟩).toOption.map
      (fun r => [7, 9, 11, 1, 5].map r.2.textAt?) =
        some (["included", "excluded", "allow_ignore", "included",
          "included"].map some) := by
    decide +kernel
  obtain ⟨⟨es, w₂⟩, hentries⟩ := exists_of_toBool
    (x := entries (build ⟨.configuration, "rules"⟩ 13) 0 ⟨overriding,
      Array.replicate overriding.size none, [0], []⟩) (by decide +kernel)
  rw [hentries] at htexts
  simp only [Except.toOption, Option.map_some, Option.some.injEq, List.map_cons,
    List.map_nil, List.cons.injEq, and_true,
    ← Work.valueAt_eq_text_iff] at htexts
  obtain ⟨h₇, h₉, h₁₁, h₁, h₅⟩ := htexts
  -- the entries of the mapping itself give one field twice
  have hexplicit : overriding.explicit 0 = [(1, 2), (5, 6)] := by decide +kernel
  obtain ⟨merged, keys, -, hmerged, hkeys, hcomplete, -⟩ := settings_iff_complete
    (w := ⟨overriding, Array.replicate overriding.size none, [], []⟩) rfl rfl
      (Work.sound_start _) (by decide +kernel) List.not_mem_nil
    (by decide) hentries
  cases hmerged 2 [(7, 8), (9, 10), (11, 12)] (by decide +kernel)
  dsimp only at hkeys hcomplete
  rw [hexplicit] at hkeys hcomplete
  -- the field given last counts, and the others are merged
  have hlast : settingsFields.map (fun field => (w₂.lastNamed? field [(1, 2), (5, 6)]).or
      (w₂.lastNamed? field [(7, 8), (9, 10), (11, 12)])) = [6, 10, 12].map some := by
    simp [settingsFields, Work.lastNamed?, Value.isNamed, h₇, h₉, h₁₁, h₁, h₅]
  simp only [List.cons_append, List.nil_append, List.map_cons, List.map_nil, h₇, h₉, h₁₁,
    h₁, h₅] at hkeys
  subst hkeys
  obtain ⟨w₃, a, b, c, h, hshape, -, hnodes⟩ :=
    hcomplete.mpr
      (forall_mem_iff_field.mpr ⟨by simp [HasFields, settingsFields], by decide⟩)
  cases hnodes.trans hlast
  exact ⟨w₃, h, hshape⟩

end Build

end Yaml

end RuleLint
