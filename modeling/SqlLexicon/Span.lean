import SqlLexicon.Lexicon.Lookup
import SqlLexicon.Text.Cut
/-!
# Spans of a statement

A span marks one word of a statement. It is kept as the text before the word, the word and the
text after it, so that a span that exists is within its statement and splits no character. A pair
of offsets gives a span exactly when it cuts the statement into three such parts.
-/

namespace SqlLexicon

/-- A word that is not empty, with the text on both sides of it. -/
structure Span where
  before : String
  word : String
  after : String
  word_ne_empty : word ≠ ""
deriving DecidableEq

inductive SpanError
  | outOfRange (start stop size : Nat)
  | splitsCharacter (offset : Nat)
deriving DecidableEq, Repr

def SpanError.message : SpanError → String
  | .outOfRange start stop size =>
    s!"Invalid token span: {start}..{stop} over text of length {size}"
  | .splitsCharacter offset =>
    s!"Token span offset {offset} is not on a character boundary"

namespace Span

def source (span : Span) : String :=
  span.before ++ span.word ++ span.after

def start (span : Span) : Nat :=
  span.before.utf8ByteSize

def stop (span : Span) : Nat :=
  span.before.utf8ByteSize + span.word.utf8ByteSize

def length (span : Span) : Nat :=
  span.word.utf8ByteSize

/-- The span between two byte offsets. The range is checked before the boundaries, and the start
before the end. -/
def ofOffsets (text : String) (start stop : Nat) : Except SpanError Span :=
  if hrange : start < stop ∧ stop ≤ text.utf8ByteSize then
    match Text.cutAt? text start with
    | none => .error (.splitsCharacter start)
    | some (before, rest) =>
      match hcut : Text.cutAt? rest (stop - start) with
      | none => .error (.splitsCharacter stop)
      | some (word, after) =>
        .ok
          { before, word, after
            word_ne_empty := by
              intro hempty
              subst hempty
              have hsize := (Text.cutAt?_eq_some_iff.mp hcut).2
              simp only [String.utf8ByteSize_empty] at hsize
              omega }
  else
    .error (.outOfRange start stop text.utf8ByteSize)

/-- The span of all of a text; an empty text has none. -/
def whole (text : String) : Except SpanError Span :=
  ofOffsets text 0 text.utf8ByteSize

/-- A span is shown as its word. -/
instance : ToString Span := ⟨Span.word⟩

def token (span : Span) (policy : Policy) : Token :=
  policy.classify span.word

theorem length_pos (span : Span) : 0 < span.length := by
  rw [length, Nat.pos_iff_ne_zero]
  exact fun hzero => span.word_ne_empty (String.utf8ByteSize_eq_zero_iff.mp hzero)

theorem stop_eq (span : Span) : span.stop = span.start + span.length := rfl

end Span

/-- What the word between two byte offsets is to the grammar, for offsets that mark a span. -/
def Policy.classifySpan (policy : Policy) (text : String) (start stop : Nat) :
    Except SpanError Token := do
  let span ← Span.ofOffsets text start stop
  return span.token policy

theorem classifySpan_of_ofOffsets_eq_ok {text : String} {start stop : Nat} {span : Span}
    (policy : Policy) (hspan : Span.ofOffsets text start stop = .ok span) :
    policy.classifySpan text start stop = .ok (span.token policy) := by
  rw [Policy.classifySpan, hspan]
  rfl

theorem classifySpan_of_ofOffsets_eq_error {text : String} {start stop : Nat} {error : SpanError}
    (policy : Policy) (herror : Span.ofOffsets text start stop = .error error) :
    policy.classifySpan text start stop = .error error := by
  rw [Policy.classifySpan, herror]
  rfl

end SqlLexicon
