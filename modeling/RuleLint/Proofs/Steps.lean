/-
RuleLint/Proofs/Steps.lean

Computations that may fail, taken apart.  A sequence of steps succeeds if every step
does, and it fails at the first step that does. The lemmas here say so once for two
steps and for a step that is taken for every item of a list.

`FailsAs` and `Safe` say what a computation can fail with, without a state and with one
that keeps an invariant.  There is one rule for each way to put steps together, so that
what is said about a function follows its text.
-/
import Mathlib.Data.List.Forall2

namespace RuleLint

variable {ε σ α β : Type}

/-! ### One step -/

/-- Success can be decided without a look at what it gives. -/
theorem exists_of_toBool {x : Except ε α} (h : x.toBool = true) : ∃ a, x = .ok a := by
  cases x with
  | error e => cases h
  | ok a => exact ⟨a, rfl⟩

theorem map_eq_error {x : Except ε α} {f : α → β} {e : ε} :
    x.map f = .error e ↔ x = .error e := by
  cases x <;> simp [Except.map]

theorem map_eq_ok {x : Except ε α} {f : α → β} {b : β} :
    x.map f = .ok b ↔ ∃ a, x = .ok a ∧ f a = b := by
  cases x <;> simp [Except.map]

/-! ### Two steps -/

/-- Two steps succeed if both do. -/
theorem bind_eq_ok {x : Except ε α} {f : α → Except ε β} {b : β} :
    (x >>= f) = .ok b ↔ ∃ a, x = .ok a ∧ f a = .ok b := by
  rcases x with e | a
  · constructor
    · intro h
      cases h
    · rintro ⟨_, h, _⟩
      cases h
  · constructor
    · intro h
      exact ⟨a, rfl, h⟩
    · rintro ⟨_, h, hf⟩
      cases h
      exact hf

theorem bind_of_ok {x : Except ε α} {f : α → Except ε β} {a : α} (h : x = .ok a) :
    (x >>= f) = f a := by
  rw [h]
  rfl

/-- What follows a step with a state that succeeds starts from what it leaves. -/
theorem run_bind_of_ok {x : StateT σ (Except ε) α} {f : α → StateT σ (Except ε) β}
    {s s' : σ} {a : α} (h : x s = .ok (a, s')) :
    (x >>= f) s = f a s' := by
  show (x s >>= fun p => f p.1 p.2) = f a s'
  rw [h]
  rfl

theorem run_get {s : σ} : (get : StateT σ (Except ε) σ) s = .ok (s, s) :=
  rfl

/-- What follows a step that fails is not run. -/
theorem run_bind_of_error {x : StateT σ (Except ε) α} {f : α → StateT σ (Except ε) β}
    {s : σ} {e : ε} (h : x s = .error e) :
    (x >>= f) s = .error e := by
  show (x s >>= fun p => f p.1 p.2) = .error e
  rw [h]
  rfl

/-- Steps that end alike may stand for each other. -/
theorem run_bind_congr {x y : StateT σ (Except ε) α} {f : α → StateT σ (Except ε) β}
    {s : σ} (h : x s = y s) :
    (x >>= f) s = (y >>= f) s := by
  show (x s >>= fun p => f p.1 p.2) = (y s >>= fun p => f p.1 p.2)
  rw [h]

/-! ### One step for every item -/

/-- A step for every item succeeds if it does so for each. -/
theorem mapM_eq_ok {f : α → Except ε β} {xs : List α} {ys : List β} :
    xs.mapM f = .ok ys ↔ List.Forall₂ (fun x y => f x = .ok y) xs ys := by
  induction xs generalizing ys with
  | nil =>
      rw [List.mapM_nil, List.forall₂_nil_left_iff]
      exact ⟨fun h => (Except.ok.inj h).symm, fun h => h ▸ rfl⟩
  | cons x xs ih =>
      rw [List.mapM_cons, bind_eq_ok, List.forall₂_cons_left_iff]
      constructor
      · rintro ⟨y, hy, h⟩
        obtain ⟨zs, hzs, h⟩ := bind_eq_ok.mp h
        exact ⟨y, zs, hy, ih.mp hzs, (Except.ok.inj h).symm⟩
      · rintro ⟨y, zs, hy, hzs, rfl⟩
        exact ⟨y, hy, bind_eq_ok.mpr ⟨zs, ih.mpr hzs, rfl⟩⟩

theorem forall_mem_of_forall₂ {R : α → β → Prop} {P : β → Prop} {xs : List α}
    {ys : List β} (h : List.Forall₂ R xs ys)
    (hP : ∀ x y, R x y → P y) : ∀ y ∈ ys, P y := by
  induction h with
  | nil => exact List.forall_mem_nil _
  | cons hxy _ ih => exact List.forall_mem_cons.mpr ⟨hP _ _ hxy, ih⟩

/-- The same without a reason for the failure. -/
theorem mapM_eq_some {f : α → Option β} {xs : List α} {ys : List β} :
    xs.mapM f = some ys ↔ List.Forall₂ (fun x y => f x = some y) xs ys := by
  induction xs generalizing ys with
  | nil =>
      rw [List.mapM_nil, List.forall₂_nil_left_iff]
      exact ⟨fun h => (Option.some.inj h).symm, fun h => h ▸ rfl⟩
  | cons x xs ih =>
      rw [List.mapM_cons, List.forall₂_cons_left_iff]
      constructor
      · intro h
        obtain ⟨y, hy, h⟩ := Option.bind_eq_some_iff.mp h
        obtain ⟨zs, hzs, h⟩ := Option.bind_eq_some_iff.mp h
        exact ⟨y, zs, hy, ih.mp hzs, (Option.some.inj h).symm⟩
      · rintro ⟨y, zs, hy, hzs, rfl⟩
        exact Option.bind_eq_some_iff.mpr ⟨y, hy,
          Option.bind_eq_some_iff.mpr ⟨zs, ih.mpr hzs, rfl⟩⟩

/-- Items that all succeed have their list of results. -/
theorem mapM_of_forall_ok {f : α → Except ε β} {xs : List α}
    (h : ∀ a ∈ xs, ∃ b, f a = .ok b) : ∃ ys, xs.mapM f = .ok ys := by
  induction xs with
  | nil => exact ⟨[], rfl⟩
  | cons x xs ih =>
      obtain ⟨⟨y, hy⟩, hxs⟩ := List.forall_mem_cons.mp h
      obtain ⟨ys, hys⟩ := ih hxs
      exact ⟨y :: ys, mapM_eq_ok.mpr (.cons hy (mapM_eq_ok.mp hys))⟩

/-- The first item that fails decides how a sequence fails. -/
theorem mapM_append_of_error {f : α → Except ε β} {front : List α} {x : α}
    {back : List α} {e : ε}
    (hfront : ∀ a ∈ front, ∃ b, f a = .ok b) (hx : f x = .error e) :
    (front ++ x :: back).mapM f = .error e := by
  induction front with
  | nil =>
      rw [List.nil_append, List.mapM_cons, hx]
      rfl
  | cons a front ih =>
      -- `a` succeeds, so what fails is still ahead
      obtain ⟨b, hb⟩ := hfront a List.mem_cons_self
      rw [List.cons_append, List.mapM_cons, hb]
      show ((front ++ x :: back).mapM f >>= fun bs => pure (b :: bs)) = Except.error e
      rw [ih fun c hc => hfront c (List.mem_cons_of_mem a hc)]
      rfl

/-- How a computation ends: one thing holds of what it gives, another of what it fails
with. -/
inductive Ends (P : α → Prop) (R : ε → Prop) : Except ε α → Prop
  | ok {a : α} (h : P a) : Ends P R (.ok a)
  | error {e : ε} (h : R e) : Ends P R (.error e)

/-- What the second step ends with, from all that the first may give. -/
theorem Ends.bind {P : α → Prop} {Q : β → Prop} {R : ε → Prop} {x : Except ε α}
    {f : α → Except ε β} (hx : Ends P R x)
    (hf : ∀ a, P a → Ends Q R (f a)) : Ends Q R (x >>= f) := by
  cases hx with
  | ok h => exact hf _ h
  | error h => exact .error h

theorem Ends.imp {P P' : α → Prop} {R R' : ε → Prop} {x : Except ε α} (hx : Ends P R x)
    (hP : ∀ a, P a → P' a)
    (hR : ∀ e, R e → R' e) : Ends P' R' x := by
  cases hx with
  | ok h => exact .ok (hP _ h)
  | error h => exact .error (hR _ h)

/-- A failure is one of those that the step may end with. -/
theorem Ends.of_eq_error {P : α → Prop} {R : ε → Prop} {x : Except ε α} {e : ε}
    (hx : Ends P R x) (h : x = .error e) : R e := by
  cases hx with
  | ok => cases h
  | error he =>
      cases h
      exact he

/-- Whether a computation fails in known ways only. -/
def FailsAs (R : ε → Prop) (x : Except ε α) : Prop :=
  Ends (fun _ => True) R x

namespace FailsAs

variable {R : ε → Prop} {x y : Except ε α}

theorem pure (a : α) : FailsAs R (Pure.pure a : Except ε α) :=
  .ok trivial

/-- Two steps fail with what either of them does. -/
theorem bind {f : α → Except ε β} (hx : FailsAs R x) (hf : ∀ a, FailsAs R (f a)) :
    FailsAs R (x >>= f) :=
  Ends.bind hx fun a _ => hf a

/-- A step on a condition, either way. -/
theorem ite {c : Prop} [Decidable c] (hx : FailsAs R x) (hy : FailsAs R y) :
    FailsAs R (if c then x else y) := by
  split
  · exact hx
  · exact hy

/-- By induction on the list. -/
theorem mapM {f : α → Except ε β} (hf : ∀ a, FailsAs R (f a)) (xs : List α) :
    FailsAs R (xs.mapM f) := by
  induction xs with
  | nil => exact .pure []
  | cons a xs ih =>
      rw [List.mapM_cons]
      exact (hf a).bind fun _ => ih.bind fun _ => .pure _

end FailsAs

/-- Whether a step with a state keeps an invariant of it and fails in known ways only. -/
def Safe (I : σ → Prop) (R : ε → Prop) (x : StateT σ (Except ε) α) : Prop :=
  ∀ s, I s → Ends (fun p => I p.2) R (x s)

namespace Safe

variable {I : σ → Prop} {R : ε → Prop} {x y : StateT σ (Except ε) α}

theorem pure (a : α) : Safe I R (Pure.pure a : StateT σ (Except ε) α) :=
  fun _ hs => .ok hs

/-- A failure that is allowed. -/
theorem throw {e : ε} (h : R e) : Safe I R (throw e : StateT σ (Except ε) α) :=
  fun _ _ => .error h

/-- The first step keeps the invariant, so the second one starts with it. -/
theorem bind {f : α → StateT σ (Except ε) β} (hx : Safe I R x)
    (hf : ∀ a, Safe I R (f a)) : Safe I R (x >>= f) :=
  fun s hs => (hx s hs).bind fun p hp => hf p.1 p.2 hp

theorem set {s : σ} (h : I s) : Safe I R (set s : StateT σ (Except ε) PUnit) :=
  fun _ _ => .ok h

/-- A change that keeps the invariant. -/
theorem modify {f : σ → σ} (h : ∀ s, I s → I (f s)) :
    Safe I R (modify f : StateT σ (Except ε) PUnit) :=
  fun s hs => .ok (h s hs)

/-- A step without a state leaves the state alone. -/
theorem lift {z : Except ε α} (hz : FailsAs R z) :
    Safe I R (liftM z : StateT σ (Except ε) α) := by
  intro s hs
  cases hz with
  | ok => exact .ok hs
  | error h => exact .error h

theorem ite {c : Prop} [Decidable c] (hx : Safe I R x) (hy : Safe I R y) :
    Safe I R (if c then x else y) := by
  split
  · exact hx
  · exact hy

theorem discard (hx : Safe I R x) : Safe I R (Functor.discard x) :=
  hx.bind fun _ => .pure _

theorem forM {f : α → StateT σ (Except ε) PUnit} (hf : ∀ a, Safe I R (f a))
    (xs : List α) : Safe I R (xs.forM f) := by
  induction xs with
  | nil => exact .pure _
  | cons a xs ih => exact (hf a).bind fun _ => ih

/-- By induction on the list, as for `forM`. -/
theorem mapM {f : α → StateT σ (Except ε) β} (hf : ∀ a, Safe I R (f a)) (xs : List α) :
    Safe I R (xs.mapM f) := by
  induction xs with
  | nil => exact .pure _
  | cons a xs ih =>
      rw [List.mapM_cons]
      exact (hf a).bind fun _ => ih.bind fun _ => .pure _

/-- By induction on the list, from every value so far. -/
theorem foldlM {f : β → α → StateT σ (Except ε) β} (hf : ∀ b a, Safe I R (f b a))
    (xs : List α) (b : β) :
    Safe I R (xs.foldlM f b) := by
  induction xs generalizing b with
  | nil => exact .pure _
  | cons a xs ih =>
      rw [List.foldlM_cons]
      exact (hf b a).bind ih

/-- A step that fails in known ways fails. -/
theorem any (hx : Safe I R x) : Safe I (fun _ => True) x :=
  fun s hs => (hx s hs).imp (fun _ h => h) fun _ _ => trivial

end Safe

end RuleLint
