import SqlLexicon.Journal
/-!
# Questions under a policy

The three questions that a policy answers, as data, so that runs of questions can be spoken about.
-/

namespace SqlLexicon

/-- A question about a word or about a range of a statement. -/
inductive Query
  | token (word : String)
  | isKeyword (word : String)
  | tokenAt (text : String) (start stop : Nat)
deriving DecidableEq, Repr

inductive Answer
  | token (token : Token)
  | flag (value : Bool)
  | refused (error : SpanError)
deriving DecidableEq, Repr

def Policy.answer (policy : Policy) : Query → Logged Answer
  | .token word => pure (.token (policy.classify word))
  | .isKeyword word => pure (.flag (policy.isKeyword word))
  | .tokenAt text start stop => do
    match ← Journal.classifySpan policy text start stop with
    | .ok token => return .token token
    | .error error => return .refused error

/-- What a policy answers, without the events. -/
def Policy.reply (policy : Policy) : Query → Answer
  | .token word => .token (policy.classify word)
  | .isKeyword word => .flag (policy.isKeyword word)
  | .tokenAt text start stop =>
    match policy.classifySpan text start stop with
    | .ok token => .token token
    | .error error => .refused error

theorem Policy.value_answer (policy : Policy) (query : Query) :
    (policy.answer query).value = policy.reply query := by
  cases query with
  | tokenAt text start stop =>
      simp only [answer, reply, Logged.value_bind, Journal.value_classifySpan]
      cases policy.classifySpan text start stop <;> rfl
  | _ => rfl

end SqlLexicon
