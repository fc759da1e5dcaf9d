/-
RuleLint/Proofs/Statements.lean

Statements have places.

`Returns` says what a reader gives, if it gives something.  There is one rule for each
way to put readers together, so the proof about a reader of the grammar follows its
text: whatever is read on the way, the statement that is put together at the end has the
place where it began.  The tree of a source is then a module of statements with places
(`Tree.eq_moduleOf`).
-/
import RuleLint.Source.Statement

namespace RuleLint.Source

namespace Reader

variable {α β : Type} {x : Reader α} {P Q : α → Prop}

/-- What a reader gives, if it gives something. -/
def Returns (x : Reader α) (Q : α → Prop) : Prop :=
  ∀ ts c a c', x ts c = (.ok a, c') → Q a

namespace Returns

/-- What is given without reading. -/
theorem pure {a : α} (h : Q a) : Returns (Pure.pure a) Q := by
  rintro ts c _ _ ⟨⟩
  exact h

/-- A reader that does not fit gives nothing. -/
theorem mismatch : Returns (Reader.mismatch : Reader α) Q := by
  rintro ts c _ _ ⟨⟩

theorem fault {f : SyntaxFault} : Returns (Reader.fault f : Reader α) Q := by
  rintro ts c _ _ ⟨⟩

/-- A reader and what is read behind it. -/
theorem bind {f : α → Reader β} {R : β → Prop} (hx : Returns x Q)
    (hf : ∀ a, Q a → Returns (f a) R) : Returns (x >>= f) R := by
  intro ts c b c' h
  rcases hx' : x ts c with ⟨e | a, c₁⟩
  · have hrun : (x >>= f) ts c = (.error e, c₁) := by
      simp only [Bind.bind, ReaderT.bind, ExceptT.bind, ExceptT.mk, StateT.bind, hx']
      rfl
    cases hrun.symm.trans h
  · have hrun : (x >>= f) ts c = f a ts c₁ := by
      simp only [Bind.bind, ReaderT.bind, ExceptT.bind, ExceptT.mk, StateT.bind, hx']
      rfl
    exact hf a (hx ts c a c₁ hx') ts c₁ b c' (hrun.symm.trans h)

theorem any : Returns x fun _ => True :=
  fun _ _ _ _ _ => trivial

/-- Whatever a reader gives, it is what comes behind that counts. -/
theorem after {f : α → Reader β} {R : β → Prop} (hf : ∀ a, Returns (f a) R) :
    Returns (x >>= f) R :=
  any.bind fun a _ => hf a

theorem ite {c : Prop} [Decidable c] {y : Reader α} (hx : Returns x Q)
    (hy : Returns y Q) : Returns (if c then x else y) Q := by
  split
  · exact hx
  · exact hy

theorem map {f : α → β} {R : β → Prop} (hx : Returns x Q) (hf : ∀ a, Q a → R (f a)) :
    Returns (f <$> x) R :=
  hx.bind fun a ha => pure (hf a ha)

/-- A reader with another in place of what stops it. -/
theorem tryCatch {handler : Stop → Reader α} (hx : Returns x Q)
    (hh : ∀ e, Returns (handler e) Q) :
    Returns (tryCatchThe Stop x handler) Q := by
  intro ts c a c' h
  rcases hx' : x ts c with ⟨e | b, c₁⟩
  · have hrun : (tryCatchThe Stop x handler : Reader α) ts c = handler e ts c₁ := by
      simp only [tryCatchThe, MonadExceptOf.tryCatch, ExceptT.tryCatch, ExceptT.mk,
        Bind.bind, StateT.bind, hx']
    exact hh e ts c₁ a c' (hrun.symm.trans h)
  · have hrun : (tryCatchThe Stop x handler : Reader α) ts c = (.ok b, c₁) := by
      simp only [tryCatchThe, MonadExceptOf.tryCatch, ExceptT.tryCatch, ExceptT.mk,
        Bind.bind, StateT.bind, hx']
      rfl
    cases hrun.symm.trans h
    exact hx ts c a c' hx'

/-- A reader that may not fit, tried. -/
theorem attempt (hx : Returns x Q) : Returns (Reader.attempt x) fun r => ∀ a,
    r = some a → Q a := by
  refine .after fun c => .tryCatch ?_ fun e => ?_
  · refine hx.map fun a ha b hb => ?_
    cases hb
    exact ha
  · cases e with
    | mismatch => exact .after fun _ => .pure fun a ha => by cases ha
    | fault f => exact .fault

/-- By induction on the number of steps: what holds of the start is kept by each. -/
theorem repeatFor {step : α → Reader (Option α)}
    (hstep : ∀ a, Q a → Returns (step a) fun r => ∀ b, r = some b → Q b) (n : Nat)
    {a : α} (ha : Q a) : Returns (Reader.repeatFor step n a) Q := by
  induction n generalizing a with
  | zero => exact .pure ha
  | succ n ih =>
      refine (hstep a ha).bind fun r hr => ?_
      cases r with
      | none => exact .pure ha
      | some b => exact ih (hr b rfl)

/-- What is collected is what the steps give. -/
theorem collect {step : Reader (Option α)}
    (hstep : Returns step fun r => ∀ a, r = some a → Q a) :
    Returns (Reader.collect step) fun as => ∀ a ∈ as, Q a := by
  refine Returns.bind (Q := fun found => ∀ a ∈ found, Q a) (.after fun ts =>
    ?_) fun found hfound => ?_
  · refine Returns.repeatFor (fun acc hacc => hstep.bind fun r hr =>
      ?_) (ts.list.size + 1) (List.forall_mem_nil _)
    cases r with
    | none => exact .pure fun _ h => by cases h
    | some a =>
        refine .pure fun _ h => ?_
        cases h
        exact List.forall_mem_cons.mpr ⟨hr a rfl, hacc⟩
  · exact .pure fun a ha => hfound a (List.mem_reverse.mp ha)

end Returns

end Reader

/-- Whether a tree has a place. -/
inductive Tree.HasPlace : Tree → Prop
  | at_ (kind : String) (p : Place) (fields : Fields) :
      HasPlace (.branch kind (some p) fields)

namespace Grammar

open Reader

variable {sub : Sub} {inner : SubStatement} {p : Place}

/-- A target with an annotation, and a value or none. -/
theorem returns_annotated {bare : Bool} {target : Tree} :
    Returns (annotated sub p bare target) Tree.HasPlace :=
  have hrest : Returns (do
    expectSign ":"
    let t ← asTarget .store target
    let a ← sub .expression
    let value ← if ← acceptSign "=" then pure (some (← rightSide sub)) else pure none
    return Tree.annAssign p t a value (bare && target.kind == "Name")) Tree.HasPlace :=
    .after fun _ => .after fun _ => .after fun _ => .after fun _ =>
      .ite (.after fun _ => .after fun _ => .pure (.at_ ..)) (.after fun _ =>
        .pure (.at_ ..))
  .ite hrest (.after fun _ => hrest)

/-- Targets and a value, in a chain. -/
theorem returns_assigned {first : Tree} : Returns (assigned sub p first) Tree.HasPlace :=
  .after fun _ => .pure (.at_ ..)

/-- An expression by itself, an assignment in one of its forms, or an annotation. -/
theorem returns_expressionStatement :
    Returns (expressionStatement sub) Tree.HasPlace := by
  refine .after fun p => .after fun bare => .after fun _ =>
    .ite (.after fun _ => .pure (.at_ ..)) (.after fun e => .after fun t => ?_)
  refine .ite (.pure (.at_ ..)) (.ite returns_annotated (.ite returns_assigned ?_))
  split
  · rename_i op _
    have hrest : Returns (do
        advance
        return Tree.augAssign p (← asTarget .store e) op (← rightSide sub))
          Tree.HasPlace :=
      .after fun _ => .after fun _ => .after fun _ => .pure (.at_ ..)
    exact .ite hrest (.after fun _ => hrest)
  · exact .pure (.at_ ..)

/-- Names from a module, in parentheses or not. -/
theorem returns_importFrom : Returns (importFrom p) Tree.HasPlace :=
  have hrest : ∀ level module, Returns (do
      expectWord "import"
      return Tree.importFrom p module (← importedNames) level) Tree.HasPlace :=
    fun _ _ => .after fun _ => .after fun _ => .pure (.at_ ..)
  .after fun level => .after fun _ =>
    .ite (.after fun _ => hrest level _) (.after fun _ => .after fun _ => hrest level _)

/-- The statements of one line that start with a word of the language. -/
theorem returns_wordStatement (word : String) :
    Returns (wordStatement sub p word) Tree.HasPlace := by
  unfold wordStatement
  -- in every case the statement that is given has the place `p`
  split
  · exact .pure (.at_ ..)
  · exact .pure (.at_ ..)
  · exact .pure (.at_ ..)
  · exact .after fun _ => .ite (.after fun _ => .pure (.at_ ..)) (.pure (.at_ ..))
  · exact .after fun _ => .ite
      (.after fun _ => .after fun _ => .ite (.after fun _ => .after fun _ =>
        .pure (.at_ ..)) (.after fun _ => .pure (.at_ ..)))
      (.pure (.at_ ..))
  · exact .after fun _ => .pure (.at_ ..)
  · exact .after fun _ => .pure (.at_ ..)
  · exact .after fun _ => .pure (.at_ ..)
  · exact .after fun _ => .after fun _ => .ite (.after fun _ => .after fun _ =>
      .pure (.at_ ..)) (.after fun _ => .pure (.at_ ..))
  · exact .after fun _ => .pure (.at_ ..)
  · exact returns_importFrom
  · exact .mismatch

theorem returns_simpleStatement : Returns (simpleStatement sub) Tree.HasPlace :=
  .after fun _ =>
    .ite (.after fun _ => returns_wordStatement _) returns_expressionStatement

/-- Statements on one line, with semicolons between them. -/
theorem returns_simpleStatements : Returns (simpleStatements sub) fun ts => ∀ t ∈ ts,
    t.HasPlace := by
  refine returns_simpleStatement.bind fun first hfirst =>
      (Returns.collect ?_).bind fun rest hrest => .after fun _ =>
    .pure (List.forall_mem_cons.mpr ⟨hfirst, hrest⟩)
  have hnone : Returns (pure none) fun r => ∀ t : Tree, r = some t → t.HasPlace :=
    .pure fun _ h => by cases h
  refine .after fun _ =>
    .ite (.after fun _ => .ite hnone (returns_simpleStatement.bind fun t ht =>
    .pure fun _ h => ?_)) hnone
  cases h
  exact ht

theorem returns_forStatement {kind : String} :
    Returns (forStatement sub inner p kind) Tree.HasPlace :=
  .after fun _ => .after fun _ => .after fun _ => .after fun _ => .after fun _ =>
    .pure (.at_ ..)

theorem returns_ifStatement : Returns (ifStatement sub inner p) Tree.HasPlace :=
  .after fun _ => .after fun _ => .after fun _ => .after fun _ => .pure (.at_ ..)

theorem returns_whileStatement : Returns (whileStatement sub inner p) Tree.HasPlace :=
  .after fun _ => .after fun _ => .after fun _ => .pure (.at_ ..)

/-- Items in parentheses are tried first. -/
theorem returns_withStatement {kind : String} :
    Returns (withStatement sub inner p kind) Tree.HasPlace := by
  have hbody : ∀ ts, Returns (do return Tree.with_ p kind ts (← block sub inner))
      Tree.HasPlace :=
    fun _ => .after fun _ => .pure (.at_ ..)
  refine .after fun _ =>
    .ite (.after fun parenthesised => ?_) (.after fun parenthesised => ?_)
  all_goals
    cases parenthesised with
    | none => exact .after hbody
    | some ts => exact .after hbody

/-- Handlers of either kind, or none with a part that is always run. -/
theorem returns_tryStatement : Returns (tryStatement sub inner p) Tree.HasPlace := by
  have hrest : ∀ body star, Returns (do
      let handlers ← collect (exceptHandler sub inner star)
      if handlers.isEmpty then mismatch
      let orelse ← blockAfter sub inner "else"
      let final ← blockAfter sub inner "finally"
      return Tree.try_ p (if star then "TryStar" else "Try") body handlers orelse final)
        Tree.HasPlace :=
    fun _ _ => .after fun _ => .ite (.after fun _ => .after fun _ => .after fun _ =>
      .pure (.at_ ..))
      (.after fun _ => .after fun _ => .pure (.at_ ..))
  exact .after fun body => .after fun _ => .ite (.after fun _ => .pure (.at_ ..))
    (.after fun _ => .ite (.after fun _ => .after (hrest body)) (.after (hrest body)))

/-- A function has the place where its own line began, whatever its decorators are. -/
theorem returns_functionStatement {kind : String} {ds : List Tree} :
    Returns (functionStatement sub inner p kind ds) Tree.HasPlace :=
  .after fun _ => .after fun _ => .after fun _ => .after fun _ => .after fun _ =>
    .after fun _ =>
    .ite (.after fun _ => .after fun _ => .after fun _ => .pure (.at_ ..))
      (.after fun _ => .after fun _ => .pure (.at_ ..))

theorem returns_classStatement {ds : List Tree} :
    Returns (classStatement sub inner p ds) Tree.HasPlace :=
  .after fun _ => .after fun _ => .ite (.after fun _ => .after fun _ => .pure (.at_ ..))
    (.after fun _ => .after fun _ => .pure (.at_ ..))

theorem returns_decorated : Returns (decorated sub inner) Tree.HasPlace :=
  .after fun _ => .after fun _ => .after fun _ => .ite returns_classStatement
    (.after fun _ => .ite returns_functionStatement returns_functionStatement)

theorem returns_asyncStatement : Returns (asyncStatement sub inner p) Tree.HasPlace :=
  .after fun _ => .ite returns_forStatement (.after fun _ =>
    .ite returns_withStatement returns_functionStatement)

/-- The word may be a name, so the cases are tried. -/
theorem returns_matchStatement : Returns (matchStatement sub inner) Tree.HasPlace := by
  -- a check leaves two ways into what follows, so what follows is stated by itself
  have hcases : ∀ p subject, Returns (do
      let cases ← collect (caseBlock sub inner)
      if cases.isEmpty then mismatch
      expectKind .dedent
      return Tree.match_ p subject cases) Tree.HasPlace :=
    fun _ _ => .after fun _ => .ite (.after fun _ => .after fun _ => .pure (.at_ ..))
      (.after fun _ => .pure (.at_ ..))
  have hrest : ∀ p, Returns (do
      let subject ← matchSubject sub
      expectSign ":"
      expectKind .newline
      unless ← accept (seesKind .indent) do missingBlock
      let cases ← collect (caseBlock sub inner)
      if cases.isEmpty then mismatch
      expectKind .dedent
      return Tree.match_ p subject cases) Tree.HasPlace :=
    fun p => .after fun subject => .after fun _ => .after fun _ => .after fun _ =>
      .ite (hcases p subject)
      (.after fun _ => hcases p subject)
  exact .after fun p => .after fun _ => .ite (hrest p) (.after fun _ => hrest p)

/-- **Every statement has a place.** -/
theorem returns_statement : Returns (statement sub inner) fun ts => ∀ t ∈ ts,
    t.HasPlace := by
  have hone : ∀ {x : Reader Tree}, Returns x Tree.HasPlace →
      Returns (do return [← x]) fun ts => ∀ t ∈ ts, t.HasPlace :=
    fun hx => hx.bind fun _ ht => .pure (List.forall_mem_singleton.mpr ht)
  refine .after fun t => ?_
  dsimp only
  split
  · exact hone returns_decorated
  · exact hone returns_functionStatement
  · exact .after fun _ => hone returns_classStatement
  · exact .after fun _ => hone returns_ifStatement
  · exact .after fun _ => hone returns_whileStatement
  · exact .after fun _ => hone returns_forStatement
  · exact .after fun _ => hone returns_withStatement
  · exact .after fun _ => hone returns_tryStatement
  · exact .after fun _ => hone returns_asyncStatement
  · -- a statement that only begins like a match is read again as a simple one
    refine returns_matchStatement.attempt.bind fun r hr => ?_
    cases r with
    | none => exact returns_simpleStatements
    | some t => exact .pure (List.forall_mem_singleton.mpr (hr t rfl))
  · exact returns_simpleStatements

/-- Statements within statements, by induction on the depth. -/
theorem returns_statementAt (n : Nat) : Returns (statementAt sub n ()) fun ts => ∀ t ∈ ts,
    t.HasPlace := by
  cases n with
  | zero => exact .fault
  | succ n => exact returns_statement

/-- A source is a module of statements up to its end. -/
theorem returns_wholeSource (n : Nat) :
    Returns (wholeSource n) fun t => ∃ body, t = .moduleOf body ∧ ∀ s ∈ body,
      s.HasPlace := by
  have hgroups : Returns (collect (do
      if ← seesKind .finish then return none
        else return some (← statementAt (grammar n) (blockLimit + 1) ())))
      fun groups => ∀ ts ∈ groups, ∀ t ∈ ts, t.HasPlace := by
    refine .collect (.after fun _ => .ite (.pure fun _ h => by cases h) ?_)
    refine (returns_statementAt _).bind fun ts hts => .pure fun _ h => ?_
    cases h
    exact hts
  refine hgroups.bind fun groups hgroups => .pure ⟨_, rfl, fun t ht => ?_⟩
  obtain ⟨ts, hts, ht⟩ := List.mem_flatten.mp ht
  exact hgroups ts hts t ht

end Grammar

/-- The tree of characters is a module of statements with places. -/
theorem Tree.eq_moduleOf_of_ofChars {cs : List Char} {t : Tree}
    (h : Tree.ofChars cs = .ok t) :
    ∃ body, t = .moduleOf body ∧ ∀ s ∈ body, s.HasPlace := by
  rw [Tree.ofChars] at h
  split at h
  · rename_i hread
    cases h
    rw [readAll] at hread
    split at hread
    · rename_i a c hrun
      cases hread
      exact Grammar.returns_wholeSource _ _ _ _ _ hrun
    · cases hread
    · split at hread
      · split at hread <;> cases hread
      · cases hread
  · cases h

/-- The tree of a source is a module of statements with places. -/
theorem Tree.eq_moduleOf {source : String} {t : Tree} (h : Tree.ofSource source = .ok t) :
    ∃ body, t = .moduleOf body ∧ ∀ s ∈ body, s.HasPlace := by
  rw [Tree.ofSource] at h
  split at h
  · cases h
  · exact Tree.eq_moduleOf_of_ofChars h

end RuleLint.Source
