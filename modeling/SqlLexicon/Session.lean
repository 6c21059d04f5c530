import SqlLexicon.Query
/-!
# Sessions

A session holds the policy in force and a saved copy of it. Commands change the policy, ask
questions under it, and move it to and from the saved copy. A failed load leaves the policy as it
was.
-/

namespace SqlLexicon

/-- The policy in force and the saved one. -/
structure Session where
  policy : Policy := {}
  saved : Policy := {}
deriving DecidableEq, Repr

inductive Command
  | reset
  | choose (ignoreCase additionalKeywords : Bool)
  | configure (config : Config)
  | load (env : Environment)
  | setIgnoreCase (value : Bool)
  | setAdditionalKeywords (value : Bool)
  | ask (query : Query)
  | save
  | restore
  | compareSaved

inductive Outcome
  | done
  | answer (answer : Answer)
  | same (value : Bool)
  | failed (error : LoadError)
deriving DecidableEq, Repr

namespace Session

def adopt (session : Session) (policy : Policy) : Session :=
  { session with policy }

/-- What a command leads to, and the session after it. -/
def step (session : Session) : Command → Logged (Outcome × Session)
  | .reset => pure (.done, session.adopt {})
  | .choose ignoreCase additionalKeywords =>
    pure (.done, session.adopt (.ofSwitches ignoreCase additionalKeywords))
  | .configure config => pure (.done, session.adopt (.ofConfig config))
  | .load env => do
    match ← Journal.load env with
    | .ok policy => return (.done, session.adopt policy)
    | .error error => return (.failed error, session)
  | .setIgnoreCase value =>
    pure (.done, session.adopt { session.policy with ignoreCase := value })
  | .setAdditionalKeywords value =>
    pure (.done, session.adopt { session.policy with additionalKeywords := value })
  | .ask query => do
    let answer ← session.policy.answer query
    return (.answer answer, session)
  | .save => pure (.done, { session with saved := session.policy })
  | .restore => pure (.done, session.adopt session.saved)
  | .compareSaved => pure (.same (session.policy == session.saved), session)

def run (session : Session) : List Command → Logged (List (Outcome × Session))
  | [] => pure []
  | command :: commands => do
    let reached ← session.step command
    let later ← reached.2.run commands
    return reached :: later

def after (session : Session) (commands : List Command) : Session :=
  commands.foldl (fun reached command => (reached.step command).value.2) session

/-- A session that starts under the policy of the environment, if that can be loaded. -/
def ofEnvironment (env : Environment) : Logged (Except LoadError Session) := do
  let loaded ← Journal.load env
  return loaded.map fun policy => { policy }

theorem step_load_of_error {env : Environment} {error : LoadError}
    (h : Policy.load env = .error error) (session : Session) :
    session.step (.load env) = pure (.failed error, session) := by
  rw [step, Journal.load_of_error h]
  rfl

theorem ofEnvironment_of_error {env : Environment} {error : LoadError}
    (h : Policy.load env = .error error) : ofEnvironment env = pure (.error error) := by
  rw [ofEnvironment, Journal.load_of_error h]
  rfl

end Session

end SqlLexicon
