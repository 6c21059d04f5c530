import SqlLexicon.Proofs.Span.Parts
import SqlLexicon.Request
/-!
# Which requests leave events, and which events

Spans are classified and the environment is read behind several requests, and some of these fail.

* `events_run` — one request leaves what its own reply calls for, and no more;
* `runAll_records` — so the events of a run are those of its replies, in order.
-/

namespace SqlLexicon

/-- What an event is to a reader of the events. -/
structure Record where
  level : String
  message : String
  fields : List (String × FieldValue)

def Event.record (event : Event) : Record :=
  ⟨event.level.label, event.message, event.fields⟩

namespace Record

def classified (start stop : Nat) (token : Token) : Record :=
  ⟨"TRACE", "Classified token span",
    [("start", .number start), ("end", .number stop), ("token_type", .text token.spelling)]⟩

def loaded (ignoreCase additionalKeywords : Bool) : Record :=
  ⟨"DEBUG", "Loaded classification policy from environment",
    [("ignore_case", .flag ignoreCase), ("additional_keywords", .flag additionalKeywords)]⟩

end Record

namespace Request

/-- What a request is replied, without the events. -/
def reply : Request → Reply
  | .tokenOfRange policy text start stop => .rangeToken (policy.classifyRange text start stop)
  | .isReservedWord ignoreCase word => .flag (Lexicon.isReservedWord ignoreCase word)
  | .ask policy query => .answer (policy.reply query)
  | .spanAt text start stop => .span (Span.ofOffsets text start stop)
  | .spanToken span policy => .token (span.token policy)
  | .loadConfig env => .config (Config.load env)
  | .openSession env => .policy (Policy.load env)

/-- The events that a request with the given reply calls for: one if a span was classified, with
the offsets of the request and the token of the reply, and one if a configuration or a policy was
loaded, with the two switches of the reply. -/
def records : Request → Reply → List Record
  | .ask _ (.tokenAt _ start stop), .answer (.token token) => [.classified start stop token]
  | .spanToken span _, .token token => [.classified span.start span.stop token]
  | .loadConfig _, .config (.ok config) => [.loaded config.ignoreCase config.additionalKeywords]
  | .openSession _, .policy (.ok policy) => [.loaded policy.ignoreCase policy.additionalKeywords]
  | _, _ => []

/-! ## One request -/

theorem value_run (request : Request) : request.run.value = request.reply := by
  cases request with
  | ask policy query => simp only [run, reply, Logged.value_map, Policy.value_answer]
  | loadConfig env => simp only [run, reply, Logged.value_map, Journal.value_loadConfig]
  | openSession env =>
      simp only [run, reply, Session.ofEnvironment, Logged.value_bind, Logged.value_pure,
        Journal.value_load]
      cases Policy.load env <;> rfl
  | _ => rfl

theorem events_loadConfig (env : Environment) :
    (Journal.loadConfig env).events.map Event.record =
      (loadConfig env).records (.config (Config.load env)) := by
  unfold Journal.loadConfig
  cases Config.load env <;> rfl

/-- A policy is loaded by way of its configuration, and its record is that of the configuration. -/
theorem records_openSession (env : Environment) :
    (openSession env).records (.policy (Policy.load env)) =
      (loadConfig env).records (.config (Config.load env)) := by
  unfold Policy.load
  cases Config.load env <;> rfl

theorem events_classifySpan (policy : Policy) (text : String) (start stop : Nat) :
    (Journal.classifySpan policy text start stop).events.map Event.record =
      (ask policy (.tokenAt text start stop)).records
        (.answer (policy.reply (.tokenAt text start stop))) := by
  cases hspan : Span.ofOffsets text start stop with
  | error error =>
      simp only [Journal.classifySpan, Policy.reply, hspan,
        classifySpan_of_ofOffsets_eq_error policy hspan]
      rfl
  | ok span =>
      simp only [Journal.classifySpan, Policy.reply, hspan,
        classifySpan_of_ofOffsets_eq_ok policy hspan]
      obtain ⟨-, rfl, rfl⟩ := Span.ofOffsets_eq_ok_iff.mp hspan
      rfl

theorem events_answer_tokenAt (policy : Policy) (text : String) (start stop : Nat) :
    (policy.answer (.tokenAt text start stop)).events =
      (Journal.classifySpan policy text start stop).events := by
  simp only [Policy.answer, Logged.events_bind, Journal.value_classifySpan]
  cases policy.classifySpan text start stop <;> exact List.append_nil _

theorem events_ofEnvironment (env : Environment) :
    (Session.ofEnvironment env).events = (Journal.loadConfig env).events := by
  simp only [Session.ofEnvironment, Journal.load, Logged.events_bind, Logged.events_pure,
    Logged.events_map, List.append_nil]

theorem events_run (request : Request) :
    request.run.events.map Event.record = request.records request.reply := by
  cases request with
  | ask policy query =>
      cases query with
      | tokenAt text start stop =>
          rw [run, Logged.events_map, events_answer_tokenAt, events_classifySpan, reply]
      | _ => rfl
  | loadConfig env =>
      rw [run, Logged.events_map, events_loadConfig, reply]
  | openSession env =>
      rw [run, Logged.events_bind, Logged.events_pure, List.append_nil, events_ofEnvironment,
        events_loadConfig, reply, records_openSession]
  | _ => rfl

/-! ## Runs -/

theorem runAll_cons (request : Request) (requests : List Request) :
    runAll (request :: requests) = do
      let reply ← request.run
      let replies ← runAll requests
      return reply :: replies :=
  List.mapM_cons

theorem value_runAll (requests : List Request) : (runAll requests).value = requests.map reply := by
  induction requests with
  | nil => rfl
  | cons request requests ih =>
      rw [runAll_cons, Logged.value_bind, Logged.value_bind, Logged.value_pure, value_run, ih,
        List.map_cons]

/-- **The events of a run are exactly those of the spans it classified and of the configurations
and policies it loaded**, in the order of the requests: each with the offsets of its request and
with what the request was replied. Requests that fail, and all the others, leave none. -/
theorem runAll_records (requests : List Request) :
    (runAll requests).value = requests.map reply ∧
    (runAll requests).events.map Event.record =
      (List.zipWith records requests (runAll requests).value).flatten := by
  refine ⟨value_runAll requests, ?_⟩
  induction requests with
  | nil => rfl
  | cons request requests ih =>
      rw [runAll_cons, Logged.value_bind, Logged.value_bind, Logged.value_pure,
        List.zipWith_cons_cons, List.flatten_cons, ← ih, value_run, ← events_run,
        ← List.map_append, Logged.events_bind, Logged.events_bind, Logged.events_pure,
        List.append_nil]

end Request

end SqlLexicon
