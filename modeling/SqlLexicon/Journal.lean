import SqlLexicon.Logged
import SqlLexicon.Name.Writing
import SqlLexicon.Span
/-!
# Operations that report their work

The operations that leave events behind. Each has the value of the plain operation; refusing a
name for its shape, classifying a span and loading a configuration leave one event each, and a
failure leaves none. A policy is loaded by way of its configuration, with the event of that.
-/

namespace SqlLexicon.Journal

def isSimple (name : String) : Logged Bool :=
  ⟨Name.isSimple name, ((Name.inspect name).event? name).toList⟩

def write (name : String) : Logged Name.Written :=
  ⟨Name.write name, (isSimple name).events⟩

def token (span : Span) (policy : Policy) : Logged Token :=
  ⟨span.token policy, [.spanClassified span.start span.stop (span.token policy)]⟩

def classifySpan (policy : Policy) (text : String) (start stop : Nat) :
    Logged (Except SpanError Token) :=
  match Span.ofOffsets text start stop with
  | .ok span => .ok <$> token span policy
  | .error error => pure (.error error)

def loadConfig (env : Environment) : Logged (Except LoadError Config) :=
  match Config.load env with
  | .ok config => ⟨.ok config, [.configLoaded config]⟩
  | .error error => pure (.error error)

def load (env : Environment) : Logged (Except LoadError Policy) :=
  (·.map Policy.ofConfig) <$> loadConfig env

@[simp] theorem value_isSimple (name : String) : (isSimple name).value = Name.isSimple name := rfl

@[simp] theorem value_write (name : String) : (write name).value = Name.write name := rfl

@[simp] theorem value_token (span : Span) (policy : Policy) :
    (token span policy).value = span.token policy := rfl

@[simp] theorem value_classifySpan (policy : Policy) (text : String) (start stop : Nat) :
    (classifySpan policy text start stop).value = policy.classifySpan text start stop := by
  simp only [classifySpan, Policy.classifySpan]
  cases Span.ofOffsets text start stop <;> rfl

@[simp] theorem value_loadConfig (env : Environment) :
    (loadConfig env).value = Config.load env := by
  simp only [loadConfig]
  cases Config.load env <;> rfl

@[simp] theorem value_load (env : Environment) : (load env).value = Policy.load env := by
  rw [load, Logged.value_map, value_loadConfig, Policy.load]

theorem loadConfig_of_error {env : Environment} {error : LoadError}
    (h : Config.load env = .error error) : loadConfig env = pure (.error error) := by
  simp only [loadConfig, h]

theorem load_of_error {env : Environment} {error : LoadError}
    (h : Policy.load env = .error error) : load env = pure (.error error) := by
  rw [load, loadConfig_of_error (Policy.load_eq_error_iff_config.mp h)]
  rfl

end SqlLexicon.Journal
