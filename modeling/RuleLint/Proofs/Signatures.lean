/-
RuleLint/Proofs/Signatures.lean

From the signature of a command to its parser.

Parameters and defaults are put side by side from their ends: the last parameters have
the defaults, the first ones have none (`paired_eq_zip`).  Then they are added one by
one.  Each becomes one positional argument or one option, at the end of those that are
there (`addParam_eq_ok`), so the parser has them in the order of the parameters
(`addParams_eq_ok`).

A parameter without a default is meant to be a positional argument.  But an underscore
in front of its name is spelt as a dash, and what has a dash in front is an option:
`register_aligned` says what becomes of each parameter, and `register_astray` shows one
that nobody has to give.
-/
import RuleLint.Proofs.Commands

namespace RuleLint.CommandLine

variable {p p' : Parser} {param : String} {default : Option Value} {params : List String}
    {defaults : List Value}

/-! ### Defaults beside parameters -/

theorem zip_replicate_none (params : List String) :
    params.zip (List.replicate params.length (none : Option Value)) =
      params.map fun param => (param, none) := by
  induction params with
  | nil => rfl
  | cons param params ih => exact congrArg ((param, none) :: ·) ih

/-- Pairing from the ends is zipping, once the defaults are filled up in front. -/
theorem paired_eq_zip (h : defaults.length ≤ params.length) : paired params defaults =
    (params.zip (List.replicate (params.length - defaults.length) none ++
      defaults.map some)).map fun x => (some x.1, x.2) := by
  obtain ⟨required, optional, rfl, hlength⟩ : ∃ required optional, required ++ optional =
      params ∧ optional.length = defaults.length :=
    ⟨params.take (params.length - defaults.length),
      params.drop (params.length - defaults.length), List.take_append_drop _ _, by
      rw [List.length_drop]
      omega⟩
  have hcount : (required ++ optional).length - defaults.length = required.length := by
    rw [List.length_append]
    omega
  rw [paired_append hlength, hcount, List.zip_append List.length_replicate.symm,
    zip_replicate_none, List.zip_map_right,
    List.map_append, List.map_map, List.map_map]
  rfl

theorem length_paired (h : defaults.length ≤ params.length) :
    (paired params defaults).length = params.length := by
  rw [paired_eq_zip h, List.length_map, List.length_zip, List.length_append,
    List.length_replicate, List.length_map]
  omega

/-- What stands beside each parameter. -/
theorem getElem?_paired (h : defaults.length ≤ params.length) {i : Nat}
    (hi : i < params.length) {default : Option Value}
    (hdefault : (List.replicate (params.length - defaults.length) none ++
      defaults.map some)[i]? = some default) :
    (paired params defaults)[i]? = some (params[i]?, default) := by
  have hparam : params[i]? = some params[i] :=
    List.getElem?_eq_getElem hi
  have hzip : (params.zip _)[i]? = some (params[i], default) :=
    List.getElem?_zip_eq_some.mpr ⟨hparam, hdefault⟩
  rw [paired_eq_zip h, List.getElem?_map, hzip, hparam]
  rfl

/-! ### Arguments of parameters -/

/-- Whether a parameter becomes a positional argument: it has no default, and no
underscore in front. -/
def IsPositional (param : String) (default : Option Value) : Prop :=
  default = none ∧ param.toList.head? ≠ some '_'

instance (param : String) (default : Option Value) :
    Decidable (IsPositional param default) :=
  inferInstanceAs (Decidable (_ ∧ _))

theorem not_isPositional_some (v : Value) : ¬IsPositional param (some v) :=
  fun h => Option.some_ne_none v h.1

/-- The option for a parameter with a default.  One with a truth value is a flag for the
other one, with a short name besides. -/
def optionWith (param : String) (v : Value) : Opt where
  names := ("--" ++ spelling param) :: match v with
    | .bool _ => ["-" ++ String.ofList ((spelling param).toList.take 1)]
    | _ => []
  key := bare param
  effect := match v with
    | .bool b => .flag !b
    | v => .takes (some v)
  default := v

theorem optionWith_of_ne {v : Value} (h : ∀ b, v ≠ .bool b) :
    optionWith param v =
      { names := ["--" ++ spelling param]
        key := bare param
        effect := .takes (some v)
        default := v } := by
  cases v with
  | bool b => exact absurd rfl (h b)
  | _ => rfl

/-- The option for a parameter that is not a positional argument. -/
def optionOf (param : String) : Option Value → Opt
  | none =>
      { names := [spelling param], key := bare param, effect := .takes none,
        default := defaultUnder (bare param) }
  | some v => optionWith param v

/-- A parameter that can be added becomes one argument of a parser, behind the others of
its kind. -/
theorem addParam_eq_ok (hplain : '-' ∉ param.toList)
    (h : p.addParam param default = .ok p') :
    p' = if IsPositional param default
      then { p with positionals := p.positionals ++ [.one (spelling param)] }
      else { p with options := p.options ++ [optionOf param default] } := by
  obtain ⟨hlong, hkey⟩ := keyAmong_param hplain
  have hown : keyOf (spelling param) = bare param :=
    (keyAmong_singleton _).symm.trans hkey
  unfold Parser.addParam at h
  dsimp only at h
  split at h
  · by_cases hhead : param.toList.head? = some '_'
    · -- the spelling has a dash in front, and is taken for the name of an option
      rw [if_pos ((head_spelling hplain).mpr hhead)] at h
      rw [if_neg (fun hpositional => hpositional.2 hhead), addOption_eq_ok h, hkey, hown]
      rfl
    · rw [if_neg (mt (head_spelling hplain).mp hhead)] at h
      cases h
      rw [if_pos ⟨rfl, hhead⟩]
  · rw [if_neg (not_isPositional_some _), addOption_eq_ok h, hlong]
    rfl
  · rename_i v hv
    rw [if_neg (not_isPositional_some _), addOption_eq_ok h, hlong, optionOf,
      optionWith_of_ne hv]

/-- Parameters that can all be added become arguments of a parser in their order. -/
theorem addParams_eq_ok {pairs : List (Option String × Option Value)}
    (hplain : ∀ x ∈ pairs, '-' ∉ (x.1.getD "").toList)
    (h : p.addParams pairs = (p', none)) :
    p'.positionals = p.positionals ++
        (pairs.filter fun x => IsPositional (x.1.getD "") x.2).map (fun x =>
          .one (spelling (x.1.getD ""))) ∧
      p'.options = p.options ++ (pairs.filter fun x =>
        ¬IsPositional (x.1.getD "") x.2).map fun x => optionOf (x.1.getD "") x.2 := by
  induction pairs generalizing p with
  | nil =>
      cases h
      simp
  | cons x pairs ih =>
      obtain ⟨param, default⟩ := x
      obtain ⟨hx, hplain⟩ := List.forall_mem_cons.mp hplain
      rw [Parser.addParams] at h
      split at h
      · -- one parameter is added as an argument or as an option, and the others behind it
        rename_i q hq
        obtain ⟨hpositionals, hoptions⟩ := ih hplain h
        have hstep := addParam_eq_ok hx hq
        rw [hpositionals, hoptions, hstep]
        by_cases hpositional : IsPositional (param.getD "") default <;> simp [hpositional]
      · cases h

/-! ### The parser of a signature -/

namespace Program

variable {g : Program} {c : Command}

/-- The arguments of a command that is registered, each in the order of the parameters. -/
theorem exists_arguments (hsig : c.signature.WellFormed) (h : (g.register c).2 = none) :
    ∃ e, (g.register c).1.entries = g.entries ++ [e] ∧ e.command = c ∧
      e.parser.positionals =
        (c.signature.required.filter fun param => param.toList.head? ≠ some '_').map
          (fun param => .one (spelling param)) ∧
      e.parser.options =
        helpOption :: (c.signature.required.filter fun param => param.toList.head? =
          some '_').map (fun param => optionOf param none) ++
          (c.signature.optional.zip (c.signature.defaults.getD [])).map fun x =>
            optionWith x.1 x.2 := by
  obtain ⟨-, e, hentries, hcommand, hadded⟩ := exists_entry h
  refine ⟨e, hentries, hcommand, ?_⟩
  obtain ⟨hpositionals, hoptions⟩ := addParams_eq_ok (Signature.plain_paired hsig) hadded
  -- in front only the underscore decides, and behind there is always a default
  have hnone (param : String) : IsPositional param none ↔ param.toList.head? ≠ some '_' :=
    and_iff_right rfl
  rw [← Signature.required_append_optional,
    paired_append (Signature.length_optional hsig)] at hpositionals hoptions
  constructor
  · rw [hpositionals]
    simp [List.filter_append, List.filter_map, Function.comp_def, hnone,
      not_isPositional_some, newParser]
  · rw [hoptions]
    simp [List.filter_append, List.filter_map, Function.comp_def, hnone,
      not_isPositional_some, newParser, optionOf]

/-- Each of the first parameters stands beside no default and each of the others beside
its own, as if the defaults had been filled up in front.  Of a command that is
registered, exactly those of the first parameters become positional arguments that have
no underscore in front, and each of the others becomes one option with its own default.
-/
theorem register_aligned (hdefaults : c.signature.defaults = some defaults)
    (hsig : c.signature.WellFormed) :
    (paired c.signature.params defaults).length = c.signature.params.length ∧
    (paired c.signature.params defaults).map Prod.fst = c.signature.params.map some ∧
    (∀ i < c.signature.requiredCount, (paired c.signature.params defaults)[i]? =
      some (c.signature.params[i]?, none)) ∧
    (∀ j < defaults.length,
      (paired c.signature.params defaults)[c.signature.requiredCount + j]?
      = some (c.signature.params[c.signature.requiredCount + j]?, defaults[j]?)) ∧
    paired c.signature.params defaults =
      (c.signature.params.zip (List.replicate c.signature.requiredCount none ++
        defaults.map some)).map (fun x => (some x.1, x.2)) ∧
    ((g.register c).2 = none → ∃ e, (g.register c).1.entries = g.entries ++ [e] ∧
      e.command = c ∧
      e.parser.positionals =
        (c.signature.required.filter fun param => param.toList.head? ≠ some '_').map
          (fun param => .one (spelling param)) ∧
      e.parser.options =
        helpOption :: (c.signature.required.filter fun param => param.toList.head? =
          some '_').map (fun param => optionOf param none) ++
          (c.signature.optional.zip defaults).map fun x => optionWith x.1 x.2) := by
  have hgetD : c.signature.defaults.getD [] = defaults := by
    rw [hdefaults]
    rfl
  have hfew : defaults.length ≤ c.signature.params.length :=
    hgetD ▸ hsig.few
  have hcount : c.signature.requiredCount = c.signature.params.length -
      defaults.length := by
    rw [Signature.requiredCount, hgetD]
  have hnames := Signature.map_fst_paired hsig
  rw [hgetD] at hnames
  refine ⟨length_paired hfew, hnames, ?_, ?_, ?_, ?_⟩
  · -- the parameters in front have no default
    intro i hi
    apply getElem?_paired hfew (by omega)
    rw [List.getElem?_append_left (by rw [List.length_replicate]; omega)]
    exact List.getElem?_replicate_of_lt (hcount ▸ hi)
  · -- those behind have the defaults in order
    intro j hj
    have hsome : defaults[j]? = some defaults[j] :=
      List.getElem?_eq_getElem hj
    apply getElem?_paired hfew (by omega)
    rw [hcount, List.getElem?_append_right (by rw [List.length_replicate]; omega),
      List.length_replicate, Nat.add_sub_cancel_left,
      List.getElem?_map, hsome]
    rfl
  · rw [hcount]
    exact paired_eq_zip hfew
  · intro h
    exact hgetD ▸ exists_arguments hsig h

/-- A command with two parameters in front and a default of each kind behind them. -/
def search : Command where
  name := "search"
  doc := ""
  signature := { params := ["text", "file_name", "limit", "exact", "label", "depth"],
                 defaults := some [.null, .bool false, .text "", .int 0] }

theorem register_aligned_search : (({ name := "tool" } : Program).register search).2 =
    none ∧ search.signature.WellFormed ∧
    paired search.signature.params [.null, .bool false, .text "", .int 0] =
      [(some "text", none), (some "file_name", none),
      (some "limit", some .null), (some "exact", some (.bool false)),
        (some "label", some (.text "")), (some "depth", some (.int 0))] ∧
    ∃ e, (({ name := "tool" } : Program).register search).1.entries = [e] ∧
      e.parser.positionals = [.one "text", .one "file-name"] ∧
      e.parser.options.map Opt.names = [["-h", "--help"], ["--limit"], ["--exact", "-e"],
        ["--label"], ["--depth"]] := by
  have hregister : (({ name := "tool" } : Program).register search).2 = none :=
    rfl
  have hsig : search.signature.WellFormed :=
    ⟨by decide, by decide, by decide⟩
  obtain ⟨-, -, -, -, hzip, hparser⟩ :=
    register_aligned (g := { name := "tool" }) (c := search) rfl hsig
  obtain ⟨e, hentries, -, hpositionals, hoptions⟩ := hparser hregister
  refine ⟨hregister, hsig, hzip, e, hentries, ?_, ?_⟩
  · rw [hpositionals]
    rfl
  · rw [hoptions]
    rfl

/-- A command with an underscore in front of a parameter without a default. -/
def astray : Command :=
  { name := "f", doc := "",
    signature := { params := ["_a", "b"], defaults := some [.int 1] } }

/-- It is registered without a positional argument: the first parameter has become an
option, and a word for it is refused. -/
theorem register_astray : (({ name := "tool" } : Program).register astray).2 = none ∧
    astray.signature.WellFormed ∧
    astray.signature.required = ["_a"] ∧
    (∃ e, (({ name := "tool" } : Program).register astray).1.entries = [e] ∧
      e.parser.positionals = [] ∧
      e.parser.options.map Opt.names = [["-h", "--help"], ["-a"], ["--b"]]) ∧
    ∃ text, (({ name := "tool" } : Program).register astray).1.read ["f", "x"] =
      .refused text :=
  ⟨rfl, ⟨by decide, by decide, by decide⟩, rfl, ⟨_, rfl, rfl, rfl⟩, _, rfl⟩

end Program

end RuleLint.CommandLine
