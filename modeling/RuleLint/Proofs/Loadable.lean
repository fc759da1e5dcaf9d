/-
RuleLint/Proofs/Loadable.lean

The parts of loadable values.  A part that is taken out of a container has the
container put back in the places that refer to it.  This brings in nothing new, and
the container is no text, so the parts of a loadable value are loadable again.
-/
import RuleLint.Value.Loadable
import RuleLint.Value.Use

namespace RuleLint.Value

/-! ### Parts of containers -/

theorem fillAll_eq_map (outer : Value) (depth : Nat) (vs : List Value) :
    fillAll outer depth vs = vs.map (fill outer depth) := by
  induction vs with
  | nil => rfl
  | cons v vs ih => rw [fillAll, ih, List.map_cons]

theorem fillEntries_eq_map (outer : Value) (depth : Nat) (es : List (Value × Value)) :
    fillEntries outer depth es = es.map fun e =>
      (fill outer depth e.1, fill outer depth e.2) := by
  induction es with
  | nil => rfl
  | cons e es ih => rw [fillEntries, ih, List.map_cons, fillEntry]

/-- Only a text becomes a text, and it stays what it is. -/
theorem eq_text_of_fill {outer : Value} (houter : ∀ s, outer ≠ .text s) {depth : Nat}
    {v : Value} {s : String}
    (h : fill outer depth v = .text s) : v = .text s := by
  cases v <;> simp only [fill, reduceCtorEq] at h ⊢
  case text => exact h
  case loop n =>
    split at h
    · exact absurd h (houter s)
    · cases h

/-- Keys stay apart, since what is filled in is no text. -/
theorem KeysApart.fill {outer : Value} (houter : ∀ s, outer ≠ .text s)
    {es : List (Value × Value)} (h : KeysApart es)
    (depth : Nat) :
    KeysApart (es.map fun e =>
      (Value.fill outer depth e.1, Value.fill outer depth e.2)) := by
  refine List.pairwise_map.mpr (h.imp ?_)
  rintro a b hab ⟨s, ha, hb⟩
  exact hab ⟨s, eq_text_of_fill houter ha, eq_text_of_fill houter hb⟩

/-- A loadable value with a loadable one filled in, by induction on it. -/
theorem Loadable.fill {outer : Value} (houter : ∀ s, outer ≠ .text s)
    (ho : outer.Loadable) {v : Value} (h : v.Loadable)
    (depth : Nat) : (Value.fill outer depth v).Loadable := by
  -- a loop that leads to this container becomes the container; all others stay where
  -- they are
  induction h generalizing depth with
  | @plain v h =>
      cases v with
      | loop n =>
          rw [Value.fill]
          split
          · exact ho
          · exact .plain rfl
      | list | tuple | set | map | settings | object => cases h
      | null | bool | int | float | complex | text | halves | bytes | day | moment
      | xpath | regex =>
          exact .plain h
  | list h ih =>
      rw [Value.fill, fillAll_eq_map]
      exact .list (List.forall_mem_map.mpr fun v hv => ih v hv _)
  | tuple h ih =>
      rw [Value.fill, fillAll_eq_map]
      exact .tuple (List.forall_mem_map.mpr fun v hv => ih v hv _)
  | set h ih =>
      rw [Value.fill, fillAll_eq_map]
      exact .set (List.forall_mem_map.mpr fun v hv => ih v hv _)
  | map hkeys hk hv ihk ihv =>
      rw [Value.fill, fillEntries_eq_map]
      exact .map (hkeys.fill houter _) (List.forall_mem_map.mpr fun e he => ihk e he _)
        (List.forall_mem_map.mpr fun e he => ihv e he _)
  | settings ha hb hc iha ihb ihc =>
      rw [Value.fill]
      exact .settings (iha _) (ihb _) (ihc _)
  | object hkeys hv hget => exact .object hkeys hv hget

/-- The entries of a loadable mapping, taken out of it. -/
theorem Loadable.entries? {v : Value} (h : v.Loadable) {es : List (Value × Value)}
    (hes : v.entries? = some es) :
    KeysApart es ∧ ∀ e ∈ es, e.2.Loadable := by
  cases h with
  | @map entries hkeys hk hv =>
      have houter : ∀ s, Value.map entries ≠ .text s := fun _ => nofun
      have hes : entries.map (fun e =>
          (Value.fill (.map entries) 0 e.1, Value.fill (.map entries) 0 e.2)) = es :=
        Option.some.inj hes
      subst hes
      exact ⟨hkeys.fill houter 0,
        List.forall_mem_map.mpr fun e he =>
          Loadable.fill houter (.map hkeys hk hv) (hv e he) 0⟩
  | @plain v h => cases v <;> cases h <;> cases hes
  | list | tuple | set | settings | object => cases hes

/-- What is looked up is one of the values. -/
theorem Loadable.lookup {es : List (Value × Value)} (h : ∀ e ∈ es, e.2.Loadable)
    {key : String} {v : Value}
    (hv : Value.lookup key es = some v) : v.Loadable := by
  fun_induction Value.lookup key es with
  | case1 => cases hv
  | case2 =>
      cases hv
      exact h _ List.mem_cons_self
  | case3 _ _ _ _ ih => exact ih (fun e he => h e (List.mem_cons_of_mem _ he)) hv
  | case4 _ _ _ ih => exact ih (fun e he => h e (List.mem_cons_of_mem _ he)) hv

/-- What a loadable value holds under a key. -/
theorem Loadable.get {v : Value} (h : v.Loadable) {key : String} {w : Value}
    (hget : v.get key = .ok (some w)) : w.Loadable := by
  cases h with
  | object hkeys hv hobject => exact hobject key w hget
  | @map entries hkeys hk hv =>
      have hmap : (Value.map entries).Loadable := .map hkeys hk hv
      exact Loadable.lookup (hmap.entries? rfl).2 (Except.ok.inj hget)
  | @plain v h => cases v <;> cases h <;> cases hget
  | list | tuple | set | settings => cases hget

/-- The entries of a loadable value. -/
theorem Loadable.items {v : Value} (h : v.Loadable) {es : List (Value × Value)}
    (hitems : v.items = .ok es) : KeysApart es := by
  cases h with
  | object hkeys => exact hkeys es hitems
  | @map entries hkeys hk hv =>
      have hmap : (Value.map entries).Loadable := .map hkeys hk hv
      exact (hmap.entries? (congrArg some (Except.ok.inj hitems))).1
  | @plain v h => cases v <;> cases h <;> cases hitems
  | list | tuple | set | settings => cases hitems

end RuleLint.Value
