/-
RuleLint/Proofs/Config.lean

Which configurations are accepted, and what is said about the others.

`IsSound` says what the description of a rule has to hold, `Flaw` what is wrong with one
that does not hold it: the first check that fails, with the words for it.  A description
that can be asked for its fields is one or the other (`ofFields_of_isSound`,
`flaw_of_not_isSound`), and a configuration is accepted exactly if all of its rules are
sound; else the first rule that is not decides what is said (`load_decides`).

Clauses are only judged for queries: the hypothesis on clauses in `load_decides` leaves
the other expressions to rules without clauses.  What is said names the rule, so it
takes a name that can be written: `rulesOf_unnamed` has one that cannot.
-/
import RuleLint.Host.Standard
import RuleLint.Proofs.Steps
import RuleLint.Rule.Config

namespace RuleLint

/-! ### Clauses -/

namespace Clause

/-- A query that can be evaluated is one that can be asked. -/
theorem query_eq {q : XPath.Query} {d : XPath.Document} {r : XPath.Result}
    (h : q.eval d = .ok r) : query q d = .ok r := by
  rw [query, h]

section

variable [Host]

/-- A clause is there only if it is a source on whose document the query of the rule finds
something, or finds nothing. -/
def Shows (expr : Value) (find : Bool) (clause : Value) : Prop :=
  clause = .null ∨ ∃ q t d r, expr = .xpath q ∧ treeOf clause = .ok t ∧
    documentOf t = .ok d ∧
    q.eval d = .ok r ∧ r.isFind = find

/-- What is wrong with a clause of a rule with a query; `label` is the name of the
clause. -/
inductive Flaw (label : String) (q : XPath.Query) (find : Bool) (complaint : String)
    (clause : Value) : String → Prop
  | syntaxFault {e : Source.SourceFault} (htree : treeOf clause = .error (.source e)) :
      Flaw label q find complaint clause ("Invalid syntax in \x60" ++ label ++
        "\x60 clause.")
  | unreadable {f : Fault} (hnull : clause ≠ .null) (htree : treeOf clause = .error f)
      (hother : ∀ e, f ≠ .source e) :
      Flaw label q find complaint clause f.message
  | noDocument {t : Source.Tree} {f : Fault} (htree : treeOf clause = .ok t)
      (hdocument : documentOf t = .error f) : Flaw label q find complaint clause f.message
  | unanswered {t : Source.Tree} {d : XPath.Document} {e : XPath.Error}
      (htree : treeOf clause = .ok t) (hdocument : documentOf t = .ok d)
      (heval : q.eval d = .error e) : Flaw label q find complaint clause e.message
  | contrary {t : Source.Tree} {d : XPath.Document} {r : XPath.Result}
      (htree : treeOf clause = .ok t) (hdocument : documentOf t = .ok d)
      (heval : q.eval d = .ok r) (hfind : r.isFind ≠ find) :
      Flaw label q find complaint clause complaint

variable {label complaint : String} {expr clause : Value} {find : Bool} {q : XPath.Query}

theorem check_null : check label expr find complaint .null = .ok () := rfl

/-- A clause that is there is read and looked at with the expression. -/
theorem check_of_ne_null (h : clause ≠ .null) :
    check label expr find complaint clause =
      (validate label clause >>= fun t => isFound expr clause t >>= fun found =>
        if found != find then .error (.refused complaint) else .ok ()) := by
  cases clause
  case null => exact absurd rfl h
  all_goals rfl

theorem isFound_xpath (t : Source.Tree) :
    isFound (.xpath q) clause t =
      (documentOf t >>= fun d => query q d >>= fun r => .ok r.isFind) := rfl

/-- A clause that shows what it should passes. -/
theorem check_of_shows (h : Shows expr find clause) :
    check label expr find complaint clause = .ok () := by
  obtain rfl | ⟨q, t, d, r, rfl, htree, hdocument, heval, hfind⟩ := h
  · exact check_null
  · by_cases hnull : clause = .null
    · rw [hnull]
      exact check_null
    have hvalidate : validate label clause = .ok t := by rw [validate, htree]
    have hfound : isFound (.xpath q) clause t = .ok find := by
      rw [isFound_xpath, bind_of_ok hdocument, bind_of_ok (query_eq heval), hfind]
    rw [check_of_ne_null hnull, bind_of_ok hvalidate, bind_of_ok hfound,
      bne_self_eq_false]
    rfl

/-- A clause that does not show what it should fails its check, with what is wrong with
it. -/
theorem flaw_of_not_shows (h : ¬ Shows (.xpath q) find clause) :
    ∃ f, check label (.xpath q) find complaint clause = .error f ∧
      Flaw label q find complaint clause f.message := by
  rw [Shows, not_or, not_exists] at h
  obtain ⟨hnull, h⟩ := h
  rw [check_of_ne_null hnull]
  rcases htree : treeOf clause with f | t
  · -- only faults of the source get words of their own
    by_cases hsource : ∃ e, f = .source e
    · obtain ⟨e, rfl⟩ := hsource
      refine ⟨.refused ("Invalid syntax in \x60" ++ label ++ "\x60 clause."), ?_,
        .syntaxFault htree⟩
      rw [validate, htree]
      rfl
    · have hother : ∀ e, f ≠ .source e := fun e he => hsource ⟨e, he⟩
      refine ⟨f, ?_, .unreadable hnull htree hother⟩
      rw [validate, htree]
      split
      case h_1 e he => exact absurd (Except.error.inj he) (hother _)
      case h_2 => rfl
  · have hvalidate : validate label clause = .ok t := by rw [validate, htree]
    rw [bind_of_ok hvalidate, isFound_xpath]
    rcases hdocument : documentOf t with f | d
    · exact ⟨f, rfl, .noDocument htree hdocument⟩
    · rcases heval : q.eval d with e | r
      · refine ⟨.path e, ?_, .unanswered htree hdocument heval⟩
        rw [bind_of_ok rfl, query, heval]
        rfl
      · have hfind : r.isFind ≠ find :=
          fun hfind => h q ⟨t, d, r, rfl, htree, hdocument, heval, hfind⟩
        refine ⟨.refused complaint, ?_, .contrary htree hdocument heval hfind⟩
        rw [bind_of_ok rfl, bind_of_ok (query_eq heval)]
        exact if_pos (bne_iff_ne.mpr hfind)

/-- Whether a query finds something, or nothing, in a source with a tree of a few
levels. -/
def isShown (q : XPath.Query) (find : Bool) (source : String) : Bool :=
  match Source.Tree.ofSource source with
  | .ok t => t.levels ≤ 16 && match t.document? with
    | some d => match q.eval d with
      | .ok r => r.isFind == find
      | .error _ => false
    | none => false
  | .error _ => false

/-- Clauses of a few levels show what they should with every host. -/
theorem shows_of_isShown {source : String} (h : isShown q find source = true) :
    Shows (.xpath q) find (.text source) := by
  unfold isShown at h
  split at h
  · rename_i t htree
    obtain ⟨hlevels, h⟩ := Bool.and_eq_true_iff.mp h
    split at h
    · rename_i d hdocument
      split at h
      · rename_i r heval
        have htold : treeOf (.text source) = .ok t := by simp [treeOf, htree]
        exact .inr ⟨q, t, d, r, rfl, htold, documentOf_eq_ok.mpr
          ⟨Nat.le_trans (of_decide_eq_true hlevels) Host.depth_ge, hdocument⟩,
            heval, eq_of_beq h⟩
      · cases h
    · cases h
  · cases h

/-- A check that is passed tells what the clause shows. -/
theorem shows_of_check (h : check label expr find complaint clause = .ok ()) :
    Shows expr find clause := by
  by_contra hshows
  cases expr with
  | xpath q =>
      obtain ⟨f, hf, -⟩ := flaw_of_not_shows hshows
      cases hf.symm.trans h
  | _ =>
      -- clauses are only for queries
      have hnull : clause ≠ .null := fun hnull => hshows (.inl hnull)
      rw [check_of_ne_null hnull] at h
      obtain ⟨t, -, h⟩ := bind_eq_ok.mp h
      obtain ⟨found, hfound, -⟩ := bind_eq_ok.mp h
      cases hfound

/-- Of a clause that shows the contrary there is nothing else to say. -/
theorem Flaw.eq_of_shows {said : String} (h : Flaw label q find complaint clause said)
    (hnull : clause ≠ .null) (hshows : Shows (.xpath q) (!find) clause) :
    said = complaint := by
  obtain hclause | ⟨q', t', d', r', hq, htree', hdocument', heval', -⟩ := hshows
  · exact absurd hclause hnull
  cases hq
  cases h with
  | syntaxFault htree => cases htree.symm.trans htree'
  | unreadable _ htree => cases htree.symm.trans htree'
  | noDocument htree hdocument =>
      cases htree.symm.trans htree'
      cases hdocument.symm.trans hdocument'
  | unanswered htree hdocument heval =>
      cases htree.symm.trans htree'
      cases hdocument.symm.trans hdocument'
      cases heval.symm.trans heval'
  | contrary => rfl

/-- No clause shows both. -/
theorem Shows.not_shows (hnull : clause ≠ .null) (h : Shows (.xpath q) (!find) clause) :
    ¬ Shows (.xpath q) find clause := by
  rintro (hclause | ⟨_, t, d, r, hq, htree, hdocument, heval, hfind⟩)
  · exact hnull hclause
  obtain hclause | ⟨_, t', d', r', hq', htree', hdocument', heval', hfind'⟩ := h
  · exact hnull hclause
  cases hq
  cases hq'
  cases htree.symm.trans htree'
  cases hdocument.symm.trans hdocument'
  cases heval.symm.trans heval'
  rw [hfind] at hfind'
  cases find <;> cases hfind'

end

end Clause

/-! ### Rules -/

namespace Rule

/-- The fields of the description of a rule. -/
def fieldNames : List String :=
  ["description", "expr", "example", "instead", "settings"]

/-- What a value holds under a key, if it can be asked. -/
def held? (values : Value) (key : String) : Option Value :=
  match values.get key with
  | .ok held => held
  | .error _ => none

/-- What a value holds under a key, or nothing. -/
def field (values : Value) (key : String) : Value :=
  (held? values key).getD .null

/-- Whether a value can be asked for the fields of a rule. -/
def CanBeAsked (values : Value) : Prop :=
  ∀ key ∈ fieldNames, ∃ held, values.get key = .ok held

/-- The settings that hold for a rule: its own entry if there is one, whatever it holds,
else the default. -/
def settingsFor (values defaultSettings : Value) : Value :=
  match held? values "settings" with
  | some own => own
  | none => defaultSettings

/-- `s` are the settings in a value. -/
def IsSettings (v : Value) (s : Settings) : Prop :=
  ∃ a b c, v = .settings a b c ∧ s = ⟨v.unrolled a, v.unrolled b, v.unrolled c⟩

/-- Clauses are there only for a query. -/
def ClausesForQuery (values : Value) : Prop :=
  (∃ q, field values "expr" = .xpath q) ∨
    field values "example" = .null ∧ field values "instead" = .null

/-- The rule with a name, the fields of a description and settings. -/
def assembled (name values : Value) (s : Settings) : Rule :=
  ⟨name, field values "description", field values "expr", field values "example",
    field values "instead", s⟩

variable {name values defaultSettings : Value} {s : Settings}

/-- Fields of what can be asked are the ones it holds. -/
theorem CanBeAsked.get (h : CanBeAsked values) {key : String} (hkey : key ∈ fieldNames) :
    values.get key = .ok (held? values key) := by
  obtain ⟨held, hheld⟩ := h key hkey
  rw [held?, hheld]

/-- A mapping can be asked for anything. -/
theorem get_of_entries? {entries : List (Value × Value)}
    (h : values.entries? = some entries)
    (key : String) : values.get key = .ok (Value.lookup key entries) := by
  cases values
  case map =>
      exact congrArg (fun es => Except.ok (Value.lookup key es)) (Option.some.inj h)
  all_goals cases h

theorem canBeAsked_of_entries? {entries : List (Value × Value)}
    (h : values.entries? = some entries) : CanBeAsked values :=
  fun key _ => ⟨_, get_of_entries? h key⟩

theorem held?_of_entries? {entries : List (Value × Value)}
    (h : values.entries? = some entries)
    (key : String) : held? values key = Value.lookup key entries := by
  rw [held?, get_of_entries? h]

/-- Whether a value is nothing. -/
def isNull : Value → Bool
  | .null => true
  | _ => false

theorem isNull_iff {v : Value} : isNull v = true ↔ v = .null := by
  cases v <;> simp [isNull]

/-- A value gives settings exactly if it is such. -/
theorem settingsIn_eq_ok {v : Value} : settingsIn v = .ok s ↔ IsSettings v s := by
  constructor
  · intro h
    cases v
    case settings a b c =>
      cases h
      exact ⟨a, b, c, rfl, rfl⟩
    all_goals cases h
  · rintro ⟨a, b, c, rfl, rfl⟩
    rfl

/-- Any other value is refused, a missing one in other words. -/
theorem settingsIn_eq_error {v : Value} (h : ∀ s, ¬ IsSettings v s) :
    (v = .null ∧ settingsIn v =
      .error (.refused "No settings or default settings specified.")) ∨
      (v ≠ .null ∧ settingsIn v =
        .error (.refused "Settings must be a !settings node.")) := by
  cases v
  case null => exact Or.inl ⟨rfl, rfl⟩
  case settings a b c => exact absurd ⟨a, b, c, rfl, rfl⟩ (h _)
  all_goals exact Or.inr ⟨by simp, rfl⟩

section

variable [Host]

/-- What the description of a rule has to hold. -/
structure IsSound (values defaultSettings : Value) : Prop where
  description : field values "description" ≠ .null
  expr : field values "expr" ≠ .null
  sample : Clause.Shows (field values "expr") true (field values "example")
  remedy : Clause.Shows (field values "expr") false (field values "instead")
  settings : ∃ s, IsSettings (settingsFor values defaultSettings) s

/-- The first thing that is wrong with the description of a rule, in words. -/
inductive Flaw (values defaultSettings : Value) : String → Prop
  | noDescription (hdescription : field values "description" = .null) :
      Flaw values defaultSettings "No description provided."
  | noExpr (hdescription : field values "description" ≠ .null)
      (hexpr : field values "expr" = .null) :
      Flaw values defaultSettings "No expression provided."
  | sample {q : XPath.Query} {said : String}
      (hdescription : field values "description" ≠ .null)
      (hexpr : field values "expr" = .xpath q)
      (hsample : Clause.Flaw "example" q true
        "\x60example\x60 clause is not matched by expression."
          (field values "example") said) :
      Flaw values defaultSettings said
  | remedy {q : XPath.Query} {said : String}
      (hdescription : field values "description" ≠ .null)
      (hexpr : field values "expr" = .xpath q)
      (hsample : Clause.Shows (.xpath q) true (field values "example"))
      (hremedy : Clause.Flaw "instead" q false
        "\x60instead\x60 clause is matched by expression."
          (field values "instead") said) :
      Flaw values defaultSettings said
  | noSettings (hdescription : field values "description" ≠ .null)
      (hexpr : field values "expr" ≠ .null)
      (hsample : Clause.Shows (field values "expr") true (field values "example"))
      (hremedy : Clause.Shows (field values "expr") false (field values "instead"))
      (hsettings : settingsFor values defaultSettings = .null) :
      Flaw values defaultSettings "No settings or default settings specified."
  | otherSettings (hdescription : field values "description" ≠ .null)
      (hexpr : field values "expr" ≠ .null)
      (hsample : Clause.Shows (field values "expr") true (field values "example"))
      (hremedy : Clause.Shows (field values "expr") false (field values "instead"))
      (hnull : settingsFor values defaultSettings ≠ .null)
      (hsettings : ∀ s, ¬ IsSettings (settingsFor values defaultSettings) s) :
      Flaw values defaultSettings "Settings must be a !settings node."

/-- The questions and checks of a rule, in order. -/
theorem ofFields_eq_steps (get : String → Except Fault (Option Value)) :
    ofFields name get defaultSettings = (get "description" >>= fun description =>
      if isNull (description.getD .null) then .error (.refused "No description provided.")
      else get "expr" >>= fun expr =>
        if isNull (expr.getD .null) then .error (.refused "No expression provided.")
        else get "example" >>= fun sample =>
          Clause.check "example" (expr.getD .null) true
            "\x60example\x60 clause is not matched by expression." (sample.getD .null) >>=
              fun _ =>
          get "instead" >>= fun remedy =>
          Clause.check "instead" (expr.getD .null) false
            "\x60instead\x60 clause is matched by expression." (remedy.getD .null) >>=
              fun _ =>
          get "settings" >>= fun settings =>
          settingsIn (settings.getD defaultSettings) >>= fun s =>
            .ok ⟨name, description.getD .null, expr.getD .null, sample.getD .null,
              remedy.getD .null, s⟩) := rfl

/-- The checks of a rule whose fields can be asked for. -/
theorem ofFields_eq (h : CanBeAsked values) :
    ofFields name values.get defaultSettings =
      if isNull (field values "description")
        then .error (.refused "No description provided.")
      else if isNull (field values "expr")
        then .error (.refused "No expression provided.")
      else
        Clause.check "example" (field values "expr") true
          "\x60example\x60 clause is not matched by expression."
            (field values "example") >>=
            fun _ =>
        Clause.check "instead" (field values "expr") false
          "\x60instead\x60 clause is matched by expression." (field values "instead") >>=
            fun _ =>
        settingsIn (settingsFor values defaultSettings) >>= fun s =>
          .ok (assembled name values s) := by
  have hsettings : (held? values "settings").getD defaultSettings =
      settingsFor values defaultSettings := by
    unfold settingsFor
    cases held? values "settings" <;> rfl
  -- every field that is asked for is the one that is held
  have hget (key : String) (hkey : key ∈ fieldNames) := h.get hkey
  simp only [fieldNames, List.forall_mem_cons] at hget
  obtain ⟨hdescription, hexpr, hsample, hremedy, hset, -⟩ := hget
  simp only [ofFields_eq_steps, hdescription, hexpr, hsample, hremedy, hset, ← hsettings]
  rfl

/-- A sound rule is put together from its fields. -/
theorem ofFields_of_isSound (hasked : CanBeAsked values)
    (h : IsSound values defaultSettings)
    (hs : IsSettings (settingsFor values defaultSettings) s) :
    ofFields name values.get defaultSettings = .ok (assembled name values s) := by
  rw [ofFields_eq hasked, if_neg (mt isNull_iff.mp h.description),
    if_neg (mt isNull_iff.mp h.expr),
    bind_of_ok (Clause.check_of_shows h.sample),
      bind_of_ok (Clause.check_of_shows h.remedy),
    bind_of_ok (settingsIn_eq_ok.mpr hs)]

/-- A rule that is not sound fails with the first thing that is wrong with it. -/
theorem flaw_of_not_isSound (hasked : CanBeAsked values)
    (hclauses : ClausesForQuery values)
    (h : ¬ IsSound values defaultSettings) :
    ∃ f, ofFields name values.get defaultSettings = .error f ∧
      Flaw values defaultSettings f.message := by
  rw [ofFields_eq hasked]
  by_cases hdescription : field values "description" = .null
  · rw [if_pos (isNull_iff.mpr hdescription)]
    exact ⟨_, rfl, .noDescription hdescription⟩
  rw [if_neg (mt isNull_iff.mp hdescription)]
  by_cases hexpr : field values "expr" = .null
  · rw [if_pos (isNull_iff.mpr hexpr)]
    exact ⟨_, rfl, .noExpr hdescription hexpr⟩
  rw [if_neg (mt isNull_iff.mp hexpr)]
  by_cases hsample : Clause.Shows (field values "expr") true (field values "example")
  · rw [bind_of_ok (Clause.check_of_shows hsample)]
    by_cases hremedy : Clause.Shows (field values "expr") false (field values "instead")
    · -- both clauses are fine, so it is the settings
      rw [bind_of_ok (Clause.check_of_shows hremedy)]
      have hsettings : ∀ s, ¬ IsSettings (settingsFor values defaultSettings) s :=
        fun s hs => h ⟨hdescription, hexpr, hsample, hremedy, s, hs⟩
      obtain ⟨hnull, herror⟩ | ⟨hnull, herror⟩ := settingsIn_eq_error hsettings
      · rw [herror]
        exact ⟨_, rfl, .noSettings hdescription hexpr hsample hremedy hnull⟩
      · rw [herror]
        exact ⟨_, rfl, .otherSettings hdescription hexpr hsample hremedy hnull hsettings⟩
    · obtain ⟨q, hq⟩ | ⟨-, hnone⟩ := hclauses
      · rw [hq] at hsample hremedy ⊢
        obtain ⟨f, hf, hflaw⟩ := Clause.flaw_of_not_shows hremedy
        refine ⟨f, ?_, .remedy hdescription hq hsample hflaw⟩
        rw [hf]
        rfl
      · exact absurd (Or.inl hnone) hremedy
  · obtain ⟨q, hq⟩ | ⟨hnone, -⟩ := hclauses
    · rw [hq] at hsample ⊢
      obtain ⟨f, hf, hflaw⟩ := Clause.flaw_of_not_shows hsample
      refine ⟨f, ?_, .sample hdescription hq hflaw⟩
      rw [hf]
      rfl
    · exact absurd (Or.inl hnone) hsample

/-- Whether the entry for a rule is what it has to be. -/
def EntryIsSound (defaultSettings : Value) (entry : Value × Value) : Prop :=
  CanBeAsked entry.2 ∧ IsSound entry.2 defaultSettings

/-- A rule is what its entry says: it has the key for its name, and its parts are those
of the description. -/
def Carries (defaultSettings : Value) (entry : Value × Value) (rule : Rule) : Prop :=
  ∃ s, IsSettings (settingsFor entry.2 defaultSettings) s ∧
    rule = assembled entry.1 entry.2 s

/-- Only failures are told with the name of the rule. -/
theorem ofValue_eq_ok {rule : Rule} :
    ofValue name values defaultSettings = .ok rule ↔
      ofFields name values.get defaultSettings = .ok rule := by
  rw [ofValue]
  cases ofFields name values.get defaultSettings <;> simp

/-- A sound entry is a rule. -/
theorem ofValue_of_isSound (h : EntryIsSound defaultSettings (name, values)) :
    ∃ rule, ofValue name values defaultSettings = .ok rule := by
  obtain ⟨hasked, hsound⟩ := h
  obtain ⟨s, hs⟩ := hsound.settings
  exact ⟨_, ofValue_eq_ok.mpr (ofFields_of_isSound hasked hsound hs)⟩

/-- A rule that is accepted has been asked for all of its fields. -/
theorem canBeAsked_of_ofFields {rule : Rule}
    (h : ofFields name values.get defaultSettings = .ok rule) : CanBeAsked values := by
  rw [ofFields_eq_steps] at h
  obtain ⟨description, hdescription, h⟩ := bind_eq_ok.mp h
  split at h
  · cases h
  obtain ⟨expr, hexpr, h⟩ := bind_eq_ok.mp h
  split at h
  · cases h
  obtain ⟨sample, hsample, h⟩ := bind_eq_ok.mp h
  obtain ⟨-, -, h⟩ := bind_eq_ok.mp h
  obtain ⟨remedy, hremedy, h⟩ := bind_eq_ok.mp h
  obtain ⟨-, -, h⟩ := bind_eq_ok.mp h
  obtain ⟨settings, hsettings, -⟩ := bind_eq_ok.mp h
  simp only [CanBeAsked, fieldNames, List.forall_mem_cons]
  exact ⟨⟨_, hdescription⟩, ⟨_, hexpr⟩, ⟨_, hsample⟩, ⟨_, hremedy⟩, ⟨_, hsettings⟩,
    List.forall_mem_nil _⟩

/-- A rule that is accepted is what a sound description says. -/
theorem ofValue_cases {rule : Rule} (h : ofValue name values defaultSettings = .ok rule) :
    EntryIsSound defaultSettings (name, values) ∧
      Carries defaultSettings (name, values) rule := by
  have h := ofValue_eq_ok.mp h
  have hasked := canBeAsked_of_ofFields h
  rw [ofFields_eq hasked] at h
  by_cases hdescription : field values "description" = .null
  · rw [if_pos (isNull_iff.mpr hdescription)] at h
    cases h
  rw [if_neg (mt isNull_iff.mp hdescription)] at h
  by_cases hexpr : field values "expr" = .null
  · rw [if_pos (isNull_iff.mpr hexpr)] at h
    cases h
  rw [if_neg (mt isNull_iff.mp hexpr)] at h
  -- behind the checks, the rule is put together
  obtain ⟨_, hsample, h⟩ := bind_eq_ok.mp h
  obtain ⟨_, hremedy, h⟩ := bind_eq_ok.mp h
  obtain ⟨s, hs, h⟩ := bind_eq_ok.mp h
  cases h
  have hsettings := settingsIn_eq_ok.mp hs
  have hsound : IsSound values defaultSettings :=
    ⟨hdescription, hexpr, Clause.shows_of_check hsample,
      Clause.shows_of_check hremedy, s, hsettings⟩
  exact ⟨⟨hasked, hsound⟩, s, hsettings, rfl⟩

/-- An entry that is not sound is refused with its name and a flaw it has, unless the
name itself cannot be shown. -/
theorem ofValue_of_not_isSound (hasked : CanBeAsked values)
    (hclauses : ClausesForQuery values)
    (h : ¬ IsSound values defaultSettings) :
    ∃ said, Flaw values defaultSettings said ∧
      ofValue name values defaultSettings = .error (if name.isHuge then .hugeInteger
        else .refused ("rule \x60" ++ name.shown ++ "\x60: " ++ said)) := by
  obtain ⟨f, hf, hflaw⟩ : ∃ f, ofFields name values.get defaultSettings = .error f ∧
      Flaw values defaultSettings f.message := flaw_of_not_isSound hasked hclauses h
  refine ⟨f.message, hflaw, ?_⟩
  rw [ofValue, hf]
  dsimp only
  rw [faultIn, Value.shown?]
  cases name.isHuge <;> rfl

end

end Rule

/-! ### Configurations -/

namespace Config

/-- The entries of a mapping. -/
theorem items_of_entries? {v : Value} {entries : List (Value × Value)}
    (h : v.entries? = some entries) : v.items = .ok entries := by
  cases v
  case map => exact congrArg Except.ok (Option.some.inj h)
  all_goals cases h

/-- The value that describes the rules of a configuration; without one there are none. -/
def rulesIn (v : Value) : Value :=
  (Rule.held? v "rules").getD (.map [])

section

variable [Host] {name text : String} {v rules : Value}
  {entries described : List (Value × Value)} {defaultSettings : Value}

/-- Rules are those of the value of the text. -/
theorem load_of_value (hv : valueOf name text = .ok v) : load name text = rulesOf v := by
  rw [load, hv]
  rfl

/-- A value that can be asked describes the rules that its entries describe, one by
one. -/
theorem rulesOf_eq_mapM {own rules : Option Value}
    (hdefault : v.get "default_settings" = .ok own) (hrules : v.get "rules" = .ok rules)
    (hitems : (rulesIn v).items = .ok described) :
    rulesOf v = described.mapM fun e =>
      Rule.ofValue e.1 e.2 (Rule.field v "default_settings") := by
  have hown : Rule.field v "default_settings" = own.getD .null := by
    rw [Rule.field, Rule.held?, hdefault]
  have hin : rulesIn v = rules.getD (.map []) := by
    rw [rulesIn, Rule.held?, hrules]
  rw [rulesOf, bind_of_ok hdefault, bind_of_ok hrules, ← hin, bind_of_ok hitems, hown]

/-- They are the entries of `rules`, in order of the document. -/
theorem load_eq_mapM (hv : valueOf name text = .ok v)
    (hentries : v.entries? = some entries)
    (hrules : Value.lookup "rules" entries = some rules)
    (hdescribed : rules.entries? = some described) :
    load name text = described.mapM fun e =>
      Rule.ofValue e.1 e.2 (Rule.field v "default_settings") := by
  have hget := Rule.get_of_entries? hentries
  rw [load_of_value hv]
  refine rulesOf_eq_mapM (hget _) (hget _) ?_
  rw [rulesIn, Rule.held?_of_entries? hentries, hrules]
  exact items_of_entries? hdescribed

/-- The first rule that is not sound. -/
theorem exists_first_unsound (h : ¬ ∀ e ∈ described, Rule.IsSound e.2 defaultSettings) :
    ∃ front e back, described = front ++ e :: back ∧
      (∀ x ∈ front, Rule.IsSound x.2 defaultSettings) ∧
        ¬ Rule.IsSound e.2 defaultSettings := by
  induction described with
  | nil => simp at h
  | cons e rest ih =>
      by_cases he : Rule.IsSound e.2 defaultSettings
      · have hrest : ¬ ∀ x ∈ rest, Rule.IsSound x.2 defaultSettings :=
          fun hrest => h (List.forall_mem_cons.mpr ⟨he, hrest⟩)
        obtain ⟨front, x, back, rfl, hfront, hx⟩ := ih hrest
        exact ⟨e :: front, x, back, rfl, List.forall_mem_cons.mpr ⟨he, hfront⟩, hx⟩
      · exact ⟨[], e, rest, rfl, List.forall_mem_nil _, he⟩

/-- The rules before the first one that is not sound are read, and that one fails with
what is wrong with it. -/
theorem refused_of_unsound
    (hclauses : ∀ e ∈ described, ∃ fields, e.2.entries? = some fields ∧
      Rule.ClausesForQuery e.2)
    (h : ¬ ∀ e ∈ described, Rule.IsSound e.2 defaultSettings) :
    ∃ front e back said, described = front ++ e :: back ∧
      (∀ x ∈ front, Rule.IsSound x.2 defaultSettings) ∧
        ¬ Rule.IsSound e.2 defaultSettings ∧
      Rule.Flaw e.2 defaultSettings said ∧
      (described.mapM fun e => Rule.ofValue e.1 e.2 defaultSettings) =
        .error (if e.1.isHuge then .hugeInteger
          else .refused ("rule \x60" ++ e.1.shown ++ "\x60: " ++ said)) := by
  -- the first entry that is not sound ends the loading
  obtain ⟨front, e, back, rfl, hfront, he⟩ := exists_first_unsound h
  have hasked (x : Value × Value) (hx : x ∈ front ++ e :: back) :
      Rule.CanBeAsked x.2 := by
    obtain ⟨fields, hfields, -⟩ := hclauses x hx
    exact Rule.canBeAsked_of_entries? hfields
  obtain ⟨-, -, hquery⟩ := hclauses e (by simp)
  obtain ⟨said, hsaid, herror⟩ :=
    Rule.ofValue_of_not_isSound (hasked e (by simp)) hquery he
  refine ⟨front, e, back, said, rfl, hfront, he, hsaid, ?_⟩
  -- those in front of it are rules, so they do not
  refine mapM_append_of_error (fun x hx => ?_) herror
  exact Rule.ofValue_of_isSound ⟨hasked x (List.mem_append_left _ hx), hfront x hx⟩

/-- **What is accepted, and what is said otherwise.** A configuration whose rules are
given by mappings is accepted exactly if each mapping is sound.  Then every rule is what
its entry says, in order; else the first entry that is not sound is named, with the
first thing that is wrong with it.  Only a name that cannot be written keeps it from
being told. -/
theorem load_decides (hv : valueOf name text = .ok v)
    (hentries : v.entries? = some entries)
    (hrules : Value.lookup "rules" entries = some rules)
    (hdescribed : rules.entries? = some described)
    (hclauses : ∀ e ∈ described,
      ∃ fields, e.2.entries? = some fields ∧ Rule.ClausesForQuery e.2) :
    ((∃ rs, load name text = .ok rs) ↔
      ∀ e ∈ described, Rule.IsSound e.2 (Rule.field v "default_settings")) ∧
      (∀ rs, load name text = .ok rs →
        List.Forall₂ (Rule.Carries (Rule.field v "default_settings")) described rs) ∧
      ((¬ ∀ e ∈ described, Rule.IsSound e.2 (Rule.field v "default_settings")) →
        ∃ front e back said, described = front ++ e :: back ∧
          (∀ x ∈ front, Rule.IsSound x.2 (Rule.field v "default_settings")) ∧
          ¬ Rule.IsSound e.2 (Rule.field v "default_settings") ∧
          Rule.Flaw e.2 (Rule.field v "default_settings") said ∧
          (e.1.isHuge = false →
            load name text =
              .error (.refused ("rule \x60" ++ e.1.shown ++ "\x60: " ++ said))) ∧
          (e.1.isHuge = true → load name text = .error .hugeInteger)) := by
  rw [load_eq_mapM hv hentries hrules hdescribed]
  have hasked (e : Value × Value) (he : e ∈ described) : Rule.CanBeAsked e.2 := by
    obtain ⟨fields, hfields, -⟩ := hclauses e he
    exact Rule.canBeAsked_of_entries? hfields
  refine ⟨⟨?_, fun h => ?_⟩, fun rs hrs => ?_, fun h => ?_⟩
  · -- rules are made of sound entries only
    rintro ⟨rs, hrs⟩ e he
    have hsound : ∀ x ∈ described, Rule.IsSound x.2 (Rule.field v "default_settings") :=
      forall_mem_of_forall₂ (mapM_eq_ok.mp hrs).flip
        fun rule x hrule => (Rule.ofValue_cases hrule).1.2
    exact hsound e he
  · exact mapM_of_forall_ok fun e he => Rule.ofValue_of_isSound ⟨hasked e he, h e he⟩
  · exact (mapM_eq_ok.mp hrs).imp fun e rule hrule => (Rule.ofValue_cases hrule).2
  · -- the first entry that is not sound is told, unless its name cannot be shown
    obtain ⟨front, e, back, said, hsplit, hfront, he, hsaid, herror⟩ :=
      refused_of_unsound hclauses h
    rw [herror]
    exact ⟨front, e, back, said, hsplit, hfront, he, hsaid,
      fun hname => by rw [hname]; rfl, fun hname => by rw [hname]; rfl⟩

end

/-- A configuration with one rule. -/
def oneRule : String :=
  "'rules':\n 'A':\n  'description': 'd'\n  'expr': !regex '='\n" ++
  "  'settings': !settings\n   'included': '*'\n   'excluded': ''\n"
    ++ "   'allow_ignore': 'y'\n"

/-- The mapping of its rule. -/
def oneRuleFields : List (Value × Value) :=
  [(.text "description", .text "d"),
   (.text "expr", .regex ⟨"=", { multiline := true, unicode := true },
     .leaf (.point .exact 61)⟩),
   (.text "settings", .settings (.text "*") (.text "") (.text "y"))]

/-- Whether a document was read as that configuration. -/
def isOneRule : Except Yaml.Failure Value → Bool
  | .ok (.map [(.text "rules", .map [(.text "A", .map
      [(.text "description", .text "d"),
       (.text "expr", .regex ⟨"=", ⟨false, false, true, false, true, false, false⟩,
        .leaf (.point .exact 61)⟩),
       (.text "settings", .settings (.text "*") (.text "") (.text "y"))])])]) => true
  | _ => false

/-- The value of that configuration. -/
def oneRuleValue : Value :=
  .map [(.text "rules", .map [(.text "A", .map oneRuleFields)])]

theorem valueOf_of_isOneRule [Host]
    (h : isOneRule (Yaml.load ⟨.configuration, "/.bellybutton.yml"⟩ oneRule) = true) :
    valueOf "/.bellybutton.yml" oneRule = .ok oneRuleValue := by
  rw [valueOf]
  unfold isOneRule at h
  split at h
  · rename_i hload
    rw [hload]
    rfl
  · cases h

/-- A query for a statement that does nothing. -/
def passQuery : XPath.Query :=
  ⟨"/Module/body/Pass",
    .step (.step (.step .top .child (.named "Module") .nil) .child (.named "body") .nil)
      .child (.named "Pass") .nil⟩

/-- Two rules with this query, the first with an example, both with a remedy. -/
def twoRules (remedy : String) : String :=
  String.join ["'default_settings': !settings\n", " 'included': '*'\n",
    " 'excluded': ''\n",
    " 'allow_ignore': 'y'\n", "'rules':\n", " 'B':\n", "  'description': 'd'\n",
    "  'expr': !xpath '/Module/body/Pass'\n", "  'example': 'pass'\n",
      "  'instead': ''\n",
    " 'A':\n", "  'description': 'd'\n", "  'expr': !xpath '/Module/body/Pass'\n",
    "  'instead': '", remedy, "'\n"]

/-- The mapping of the first rule. -/
def firstFields : List (Value × Value) :=
  [(.text "description", .text "d"), (.text "expr", .xpath passQuery),
   (.text "example", .text "pass"), (.text "instead", .text "")]

/-- The mapping of the second rule. -/
def secondFields (remedy : String) : List (Value × Value) :=
  [(.text "description", .text "d"), (.text "expr", .xpath passQuery),
   (.text "instead", .text remedy)]

/-- The entries of the rules. -/
def twoRulesEntries (remedy : String) : List (Value × Value) :=
  [(.text "B", .map firstFields), (.text "A", .map (secondFields remedy))]

/-- The value of that configuration. -/
def twoRulesValue (remedy : String) : Value :=
  .map [(.text "default_settings", .settings (.text "*") (.text "") (.text "y")),
    (.text "rules", .map (twoRulesEntries remedy))]

/-- Whether a document was read as that configuration. -/
def isTwoRules (remedy : String) : Except Yaml.Failure Value → Bool
  | .ok (.map [(.text "default_settings", .settings (.text "*") (.text "") (.text "y")),
      (.text "rules", .map
        [(.text "B", .map
          [(.text "description", .text "d"),
           (.text "expr", .xpath ⟨"/Module/body/Pass",
             .step (.step (.step .top .child (.named "Module") .nil) .child
               (.named "body") .nil)
               .child (.named "Pass") .nil⟩),
           (.text "example", .text "pass"), (.text "instead", .text "")]),
         (.text "A", .map
          [(.text "description", .text "d"),
           (.text "expr", .xpath ⟨"/Module/body/Pass",
             .step (.step (.step .top .child (.named "Module") .nil) .child
               (.named "body") .nil)
               .child (.named "Pass") .nil⟩),
           (.text "instead", .text s)])])]) => s = remedy
  | _ => false

theorem valueOf_of_isTwoRules [Host] {remedy : String}
    (h : isTwoRules remedy (Yaml.load ⟨.configuration, "/.bellybutton.yml"⟩
      (twoRules remedy)) =
      true) : valueOf "/.bellybutton.yml" (twoRules remedy) =
        .ok (twoRulesValue remedy) := by
  rw [valueOf]
  unfold isTwoRules at h
  split at h
  · rename_i hload
    rw [hload, of_decide_eq_true h]
    rfl
  · cases h

open scoped Standard

theorem valueOf_oneRule : valueOf "/.bellybutton.yml" oneRule = .ok oneRuleValue :=
  valueOf_of_isOneRule (by decide +kernel)

/-- Both texts are read as the configuration; the characters are taken line by line. -/
theorem isTwoRules_load {remedy : String} (h : remedy = "" ∨ remedy = "pass") :
    isTwoRules remedy (Yaml.load ⟨.configuration, "/.bellybutton.yml"⟩
      (twoRules remedy)) =
      true := by
  have hchars := congrArg String.toList (show twoRules remedy = String.join _ from rfl)
  rw [String.toList_join] at hchars
  unfold Yaml.load
  rw [hchars]
  rcases h with rfl | rfl
  · decide +kernel
  · decide +kernel

theorem isSound_firstFields :
    Rule.IsSound (.map firstFields) (.settings (.text "*") (.text "") (.text "y")) where
  description := by rintro ⟨⟩
  expr := by rintro ⟨⟩
  sample := Clause.shows_of_isShown (by decide +kernel)
  remedy := Clause.shows_of_isShown (by decide +kernel)
  settings := ⟨_, _, _, _, rfl, rfl⟩

theorem isSound_secondFields :
    Rule.IsSound (.map (secondFields "")) (.settings (.text "*") (.text "") (.text "y"))
      where
  description := by rintro ⟨⟩
  expr := by rintro ⟨⟩
  sample := .inl rfl
  remedy := Clause.shows_of_isShown (by decide +kernel)
  settings := ⟨_, _, _, _, rfl, rfl⟩

theorem shows_pass : Clause.Shows (.xpath passQuery) true (.text "pass") :=
  Clause.shows_of_isShown (by decide +kernel)

/-- With this remedy, the second rule is not sound, and there is one thing to say of
it. -/
theorem eq_of_flaw_secondFields {said : String} {defaultSettings : Value}
    (h : Rule.Flaw (.map (secondFields "pass")) defaultSettings said) :
    said = "\x60instead\x60 clause is matched by expression." := by
  have hnot : ¬ Clause.Shows (.xpath passQuery) false (.text "pass") :=
    Clause.Shows.not_shows (by rintro ⟨⟩) shows_pass
  cases h with
  | noDescription hdescription => cases hdescription
  | noExpr _ hexpr => cases hexpr
  | sample _ hexpr hsample =>
      -- there is no example
      cases hsample with
      | syntaxFault htree => cases htree
      | unreadable hnull => exact absurd rfl hnull
      | noDocument htree => cases htree
      | unanswered htree => cases htree
      | contrary htree => cases htree
  | remedy _ hexpr _ hremedy =>
      cases hexpr
      exact hremedy.eq_of_shows (by rintro ⟨⟩) shows_pass
  | noSettings _ _ _ hremedy => exact absurd hremedy hnot
  | otherSettings _ _ _ hremedy => exact absurd hremedy hnot

/-- The two rules are accepted, in order; if the second remedy is what the query finds,
it is the second rule that is refused. -/
theorem load_decides_twoRules :
    (∃ rs, load "/.bellybutton.yml" (twoRules "") = .ok rs ∧
      List.Forall₂ (Rule.Carries (.settings (.text "*") (.text "") (.text "y")))
        (twoRulesEntries "") rs) ∧
    load "/.bellybutton.yml" (twoRules "pass") =
      .error (.refused
        "rule \x60A\x60: \x60instead\x60 clause is matched by expression.") := by
  have hdescribed (remedy : String) : (Value.map (twoRulesEntries remedy)).entries? =
      some (twoRulesEntries remedy) := rfl
  have hclauses (remedy : String) : ∀ e ∈ twoRulesEntries remedy,
      ∃ fields, e.2.entries? = some fields ∧ Rule.ClausesForQuery e.2 :=
    List.forall_mem_cons.mpr ⟨⟨_, rfl, .inl ⟨_, rfl⟩⟩,
      List.forall_mem_singleton.mpr ⟨_, rfl, .inl ⟨_, rfl⟩⟩⟩
  constructor
  · obtain ⟨haccepts, hcarries, -⟩ := load_decides
      (valueOf_of_isTwoRules (isTwoRules_load (.inl rfl))) rfl rfl
        (hdescribed "") (hclauses "")
    obtain ⟨rs, hrs⟩ := haccepts.mpr (List.forall_mem_cons.mpr
      ⟨isSound_firstFields, List.forall_mem_singleton.mpr isSound_secondFields⟩)
    exact ⟨rs, hrs, hcarries rs hrs⟩
  · obtain ⟨haccepts, -, hrefused⟩ := load_decides
      (valueOf_of_isTwoRules (isTwoRules_load (.inr rfl))) rfl rfl (hdescribed "pass")
      (hclauses "pass")
    have hunsound : ¬ Rule.IsSound (.map (secondFields "pass"))
        (.settings (.text "*") (.text "") (.text "y")) :=
      fun h => Clause.Shows.not_shows (by rintro ⟨⟩) shows_pass h.remedy
    obtain ⟨front, e, back, said, hsplit, -, he, hflaw, htold, -⟩ :=
      hrefused fun h =>
        hunsound (h _ (List.mem_cons_of_mem _ (List.mem_singleton_self _)))
    -- it is not the first rule
    rcases front with - | ⟨x, - | ⟨y, front⟩⟩
    · cases hsplit
      exact absurd isSound_firstFields he
    · cases hsplit
      rw [htold rfl, eq_of_flaw_secondFields hflaw]
      rfl
    · simp [twoRulesEntries] at hsplit

/-- **A refusal that is not told**: with nothing else wrong, a rule without a
description whose name has too many digits ends in a fault that does not name it. -/
theorem rulesOf_unnamed :
    rulesOf (.map [(.text "rules", .map [(.int Source.writtenLimit, .map [])])]) =
      .error .hugeInteger := by
  have hhuge : (Value.int Source.writtenLimit).isHuge = true := by
    rw [Value.isHuge, Int.natAbs_natCast]
    exact decide_eq_true (Nat.le_refl _)
  have hfields : Rule.ofFields (.int Source.writtenLimit) (Value.map []).get .null =
      .error (.refused "No description provided.") := rfl
  have hrule : Rule.ofValue (.int Source.writtenLimit) (.map []) .null =
      .error .hugeInteger := by
    rw [Rule.ofValue, hfields]
    dsimp only
    rw [Rule.faultIn, Value.shown?, hhuge]
    rfl
  have hrules := rulesOf_eq_mapM
    (v := .map [(.text "rules", .map [(.int Source.writtenLimit, .map [])])]) rfl rfl rfl
  exact hrules.trans (mapM_append_of_error (List.forall_mem_nil _) hrule)

end Config

end RuleLint
