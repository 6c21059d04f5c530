import SqlLexicon.Policy
import SqlLexicon.Text.Blank
/-!
# The policy from the environment

Each switch is read from a variable of its own. A variable that is unset or empty leaves the switch
at its default; any other value has to be one of six words, in any ASCII case and with white space
around it. The switches are read in order, and the first bad value is reported. What is read is a
configuration, and a policy is made of it.
-/

namespace SqlLexicon

/-- The variables that are set, each with its value as raw bytes. -/
abbrev Environment := String → Option ByteArray

/-- The two switches as they are configured. -/
structure Config where
  ignoreCase : Bool
  additionalKeywords : Bool
deriving DecidableEq, Repr

inductive Switch
  | ignoreCase
  | additionalKeywords
deriving DecidableEq, Repr

namespace Switch

def field : Switch → String
  | .ignoreCase => "ignore_case"
  | .additionalKeywords => "additional_keywords"

def variableName : Switch → String
  | .ignoreCase => "SQLIDENT_IGNORE_CASE"
  | .additionalKeywords => "SQLIDENT_ADDITIONAL_KEYWORDS"

theorem variableName_inj {s t : Switch} : s.variableName = t.variableName ↔ s = t := by
  cases s <;> cases t <;> decide

/-- How a policy has the switch set. -/
def get (switch : Switch) (policy : Policy) : Bool :=
  match switch with
  | .ignoreCase => policy.ignoreCase
  | .additionalKeywords => policy.additionalKeywords

/-- How the switch is configured when its variable is unset or empty. -/
def default : Switch → Bool
  | .ignoreCase => true
  | .additionalKeywords => false

end Switch

inductive LoadError
  | notUnicode (switch : Switch)
  | notBool (switch : Switch) (word : String)
deriving DecidableEq, Repr

namespace LoadError

def switch : LoadError → Switch
  | .notUnicode switch | .notBool switch _ => switch

/-- The step that failed and the reason, as reports word them. -/
def reason : LoadError → String × String
  | .notUnicode _ => ("load", "value is not valid unicode")
  | .notBool _ word => ("deserialize", "invalid value for bool: '" ++ word ++ "'")

def message (error : LoadError) : String :=
  "Configuration error: failed to " ++ error.reason.1 ++ " value `Config::" ++
    error.switch.field ++ "` from environment variable `" ++ error.switch.variableName ++ "`: " ++
    error.reason.2

end LoadError

namespace Switch

def onWords : List String :=
  ["1", "true", "yes"]

def offWords : List String :=
  ["0", "false", "no"]

/-- The setting that a word stands for, in any ASCII case. -/
def ofWord? (word : String) : Option Bool :=
  let lower := String.ofList (word.toList.map Char.toLower)
  if lower ∈ onWords then some true
  else if lower ∈ offWords then some false
  else none

def ofText (switch : Switch) (value : String) : Except LoadError Bool :=
  match ofWord? (Text.trim value) with
  | some setting => .ok setting
  | none =>
    if value = "" then .ok switch.default
    else .error (.notBool switch (Text.trim value))

def read (switch : Switch) (env : Environment) : Except LoadError Bool :=
  match env switch.variableName with
  | none => .ok switch.default
  | some value =>
    match String.fromUTF8? value with
    | none => .error (.notUnicode switch)
    | some text => switch.ofText text

theorem read_of_unset {switch : Switch} {env : Environment} (h : env switch.variableName = none) :
    switch.read env = .ok switch.default := by
  simp [read, h]

end Switch

def Config.load (env : Environment) : Except LoadError Config := do
  let ignoreCase ← Switch.read .ignoreCase env
  let additionalKeywords ← Switch.read .additionalKeywords env
  return { ignoreCase, additionalKeywords }

namespace Policy

def ofConfig (config : Config) : Policy :=
  ofSwitches config.ignoreCase config.additionalKeywords

def load (env : Environment) : Except LoadError Policy :=
  (Config.load env).map ofConfig

variable {env : Environment}

theorem load_eq_ok_iff_config (policy : Policy) :
    load env = .ok policy ↔
      Config.load env = .ok ⟨policy.ignoreCase, policy.additionalKeywords⟩ := by
  unfold load
  cases Config.load env <;> constructor <;> intro h <;> cases h <;> rfl

theorem load_eq_error_iff_config {error : LoadError} :
    load env = .error error ↔ Config.load env = .error error := by
  unfold load
  cases Config.load env <;> constructor <;> intro h <;> cases h <;> rfl

end Policy

end SqlLexicon
