/-
RuleLint/Rule/Config.lean

The rules of a configuration.  A configuration has the entries `rules`, which holds
the description of each rule by name, and `default_settings`, for rules that have
no settings of their own.  Configurations and descriptions are mappings, or objects
that can be asked like one.
-/
import RuleLint.Rule.Basic
import RuleLint.Rule.Clause
import RuleLint.Value.Use
import RuleLint.Yaml.Build

namespace RuleLint

variable [Host]

namespace Rule

/-- The settings in a value. -/
def settingsIn : Value → Except Fault Settings
  | .null => .error (.refused "No settings or default settings specified.")
  | .settings included excluded allowIgnore =>
    let unrolled := Value.unrolled (.settings included excluded allowIgnore)
    .ok ⟨unrolled included, unrolled excluded, unrolled allowIgnore⟩
  | _ => .error (.refused "Settings must be a !settings node.")

/-- The rule with a name whose fields are asked for one after the other. -/
def ofFields (name : Value) (get : String → Except Fault (Option Value))
    (defaultSettings : Value) :
    Except Fault Rule := do
  let description := (← get "description").getD .null
  if description matches .null then throw (.refused "No description provided.")
  let expr := (← get "expr").getD .null
  if expr matches .null then throw (.refused "No expression provided.")
  let sample := (← get "example").getD .null
  Clause.check "example" expr true "\x60example\x60 clause is not matched by expression."
    sample
  let remedy := (← get "instead").getD .null
  Clause.check "instead" expr false "\x60instead\x60 clause is matched by expression."
    remedy
  let settings ← settingsIn ((← get "settings").getD defaultSettings)
  return { name, description, expr, sample, remedy, settings }

/-- A fault that says which rule it is about, unless the name cannot be written. -/
def faultIn (name : Value) (f : Fault) : Fault :=
  match name.shown? with
  | .ok shown => .refused ("rule \x60" ++ shown ++ "\x60: " ++ f.message)
  | .error f => f

/-- The rule with a name that a value describes. -/
def ofValue (name values defaultSettings : Value) : Except Fault Rule :=
  match ofFields name values.get defaultSettings with
  | .ok r => .ok r
  | .error f => .error (faultIn name f)

end Rule

namespace Config

/-- The rules that a value describes. -/
def rulesOf (v : Value) : Except Fault (List Rule) := do
  let defaultSettings := (← v.get "default_settings").getD .null
  let rules := (← v.get "rules").getD (.map [])
  (← rules.items).mapM fun (name, values) => Rule.ofValue name values defaultSettings

/-- The value of a configuration with a name. -/
def valueOf (name text : String) : Except Fault Value :=
  match Yaml.load ⟨.configuration, name⟩ text with
  | .ok v => .ok v
  | .error f => .error (.document name f)

/-- The rules of a configuration with a name. -/
def load (name text : String) : Except Fault (List Rule) := do
  rulesOf (← valueOf name text)

end Config

end RuleLint
