import SqlLexicon.Name.Simple
import SqlLexicon.Settings
/-!
# Events

What the library reports about its work: a name refused for its shape, a span classified, a
configuration loaded. An event has a level, a message that names its kind, and fields that tell the
case.
-/

namespace SqlLexicon

/-- How much detail has to be asked for before an event is shown. -/
inductive Level
  | trace
  | debug
deriving DecidableEq, Repr

def Level.label : Level → String
  | .trace => "TRACE"
  | .debug => "DEBUG"

inductive Event
  | startRefused (name : String) (shape : CharClass)
  | charRefused (name : String) (offset : Nat) (shape : CharClass)
  | spanClassified (start stop : Nat) (token : Token)
  | configLoaded (config : Config)
deriving DecidableEq, Repr

inductive FieldValue
  | text (value : String)
  | number (value : Nat)
  | flag (value : Bool)
deriving DecidableEq, Repr

namespace Event

def level : Event → Level
  | .configLoaded _ => .debug
  | _ => .trace

def message : Event → String
  | .startRefused _ _ => "Identifier cannot start with this character"
  | .charRefused _ _ _ => "Identifier contains a character that needs quoting"
  | .spanClassified _ _ _ => "Classified token span"
  | .configLoaded _ => "Loaded classification policy from environment"

def fields : Event → List (String × FieldValue)
  | .startRefused name shape => [("text", .text name), ("class", .text shape.label)]
  | .charRefused name offset shape =>
    [("text", .text name), ("offset", .number offset), ("class", .text shape.label)]
  | .spanClassified start stop token =>
    [("start", .number start), ("end", .number stop), ("token_type", .text token.spelling)]
  | .configLoaded config =>
    [(Switch.ignoreCase.field, .flag config.ignoreCase),
      (Switch.additionalKeywords.field, .flag config.additionalKeywords)]

end Event

/-- The event by which a finding about a name is reported. A name that is empty, a keyword or simple
is passed over in silence. -/
def Name.Finding.event? (name : String) : Finding → Option Event
  | .badStart shape => some (.startRefused name shape)
  | .badChar offset shape => some (.charRefused name offset shape)
  | .simple | .empty | .keyword => none

end SqlLexicon
