import SqlLexicon.Lexicon.Range
import SqlLexicon.Session
/-!
# Requests

Everything that can be asked of the keyword table and of the environment, each request on its own:
it carries its policy with it, and no request depends on the ones before it.
-/

namespace SqlLexicon

/-- A request with all that is needed to answer it. -/
inductive Request
  | tokenOfRange (policy : Policy) (text : String) (start stop : Nat)
  | isReservedWord (ignoreCase : Bool) (word : String)
  | ask (policy : Policy) (query : Query)
  | spanAt (text : String) (start stop : Nat)
  | spanToken (span : Span) (policy : Policy)
  | loadConfig (env : Environment)
  | openSession (env : Environment)

inductive Reply
  | rangeToken (result : Except RangeError Token)
  | flag (value : Bool)
  | answer (answer : Answer)
  | span (result : Except SpanError Span)
  | token (token : Token)
  | config (result : Except LoadError Config)
  | policy (result : Except LoadError Policy)

namespace Request

def run : Request → Logged Reply
  | .tokenOfRange policy text start stop =>
    pure (.rangeToken (policy.classifyRange text start stop))
  | .isReservedWord ignoreCase word => pure (.flag (Lexicon.isReservedWord ignoreCase word))
  | .ask policy query => .answer <$> policy.answer query
  | .spanAt text start stop => pure (.span (Span.ofOffsets text start stop))
  | .spanToken span policy => .token <$> Journal.token span policy
  | .loadConfig env => .config <$> Journal.loadConfig env
  | .openSession env => do
    let opened ← Session.ofEnvironment env
    return .policy (opened.map Session.policy)

def runAll (requests : List Request) : Logged (List Reply) :=
  requests.mapM run

end Request

end SqlLexicon
