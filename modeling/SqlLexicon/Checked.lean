import SqlLexicon.Lexicon.Range
import SqlLexicon.Name.Writing
import SqlLexicon.Span
/-!
# The operations over checked offsets

The library takes words and spans apart by operations that cannot go wrong. Here the same
operations are carried out over offsets, and every step that could go wrong is checked when it is
taken: a slice faults if its offsets are out of bounds or inside a character, a difference faults
below zero, and the contract of a range is asserted where the range is classified.
-/

namespace SqlLexicon

/-- What stops a computation over offsets. -/
inductive Fault
  | brokenContract (error : RangeError)
  | outOfBounds (start stop size : Nat)
  | insideCharacter (offset : Nat)
  | belowZero (minuend subtrahend : Nat)
deriving DecidableEq, Repr

namespace Checked

open Lexicon Text

/-! ## Slices -/

def difference (minuend subtrahend : Nat) : Except Fault Nat :=
  if subtrahend ≤ minuend then .ok (minuend - subtrahend)
  else .error (.belowZero minuend subtrahend)

def sliceBytes (span : List UInt8) (start stop : Nat) : Except Fault (List UInt8) :=
  if start ≤ stop ∧ stop ≤ span.length then .ok ((span.drop start).take (stop - start))
  else .error (.outOfBounds start stop span.length)

def sliceText (text : String) (start stop : Nat) : Except Fault String :=
  if start ≤ stop ∧ stop ≤ text.utf8ByteSize then
    match cutAt? text start with
    | none => .error (.insideCharacter start)
    | some (_, rest) =>
      match cutAt? rest (stop - start) with
      | none => .error (.insideCharacter stop)
      | some (word, _) => .ok word
  else .error (.outOfBounds start stop text.utf8ByteSize)

/-! ## The lookup -/

/-- Whether two spans have one length and agree after their first bytes. Spans of one length are
both sliced after the first byte, which faults if they are empty. -/
def agreesAfterFirst (ignoreCase : Bool) (word span : List UInt8) : Except Fault Bool :=
  if word.length = span.length then do
    let wordRest ← sliceBytes word 1 word.length
    let spanRest ← sliceBytes span 1 span.length
    return if ignoreCase then equalIgnoringCase wordRest spanRest else wordRest == spanRest
  else return false

def findReserved? (ignoreCase : Bool) (span : List UInt8) : Except Fault (Option Reserved) :=
  match firstByte? ignoreCase span with
  | none => return none
  | some first => do
    let filed? ← (reservedAt first).findM? fun filed =>
      agreesAfterFirst ignoreCase (bytes filed.1) span
    return filed?.map Prod.snd

def isAdditional (ignoreCase : Bool) (span : List UInt8) : Except Fault Bool :=
  match firstByte? ignoreCase span with
  | none => return false
  | some first =>
    (additionalAt first).anyM fun word => agreesAfterFirst ignoreCase (bytes word) span

def classifyBytes (policy : Policy) (span : List UInt8) : Except Fault Token := do
  match ← findReserved? policy.ignoreCase span with
  | some word => return .reserved word
  | none =>
    if policy.additionalKeywords then
      return if ← isAdditional policy.ignoreCase span then .additional else .identifier
    else return .identifier

/-- The contract of a range is asserted before its bytes are sliced out. -/
def classifyRange (policy : Policy) (text : String) (start stop : Nat) : Except Fault Token :=
  if start < stop ∧ stop ≤ text.utf8ByteSize then do
    let span ← sliceBytes (bytes text) start stop
    classifyBytes policy span
  else .error (.brokenContract ⟨start, stop, text.utf8ByteSize⟩)

/-- A word that is not empty is classified as a range of its own. -/
def isReservedWord (ignoreCase : Bool) (word : String) : Except Fault Bool :=
  if word = "" then return false
  else do
    let token ← classifyRange ⟨ignoreCase, false⟩ word 0 word.utf8ByteSize
    return !token.isIdentifier

def classify (policy : Policy) (word : String) : Except Fault Token :=
  classifyBytes policy (bytes word)

def isKeyword (policy : Policy) (word : String) : Except Fault Bool := do
  let token ← classify policy word
  return !token.isIdentifier

/-! ## Names -/

/-- A name of good shape is classified as a range of its own. -/
def isSimple (name : String) : Except Fault Bool :=
  match name.toList with
  | [] => return false
  | c :: chars =>
    if (CharClass.of c).canStart then
      match Name.firstOffender? c.utf8Size chars with
      | some _ => return false
      | none => do
        let token ← classifyRange Name.exactPolicy name 0 name.utf8ByteSize
        return token.isIdentifier
    else return false

def write (name : String) : Except Fault Name.Written := do
  if ← isSimple name then return .bare name
  else return .quoted (String.ofList (Name.doubleQuotes name.toList))

/-! ## Spans -/

/-- A span as a statement and two offsets, which say nothing about each other. -/
structure OffsetSpan where
  text : String
  start : Nat
  stop : Nat
deriving DecidableEq, Repr

namespace OffsetSpan

def ofOffsets (text : String) (start stop : Nat) : Except SpanError OffsetSpan :=
  if start < stop ∧ stop ≤ text.utf8ByteSize then
    match [start, stop].find? fun offset => !decide (IsBoundary text offset) with
    | some offset => .error (.splitsCharacter offset)
    | none => .ok ⟨text, start, stop⟩
  else .error (.outOfRange start stop text.utf8ByteSize)

def whole (text : String) : Except SpanError OffsetSpan :=
  ofOffsets text 0 text.utf8ByteSize

def length (span : OffsetSpan) : Except Fault Nat :=
  difference span.stop span.start

def word (span : OffsetSpan) : Except Fault String :=
  sliceText span.text span.start span.stop

def token (span : OffsetSpan) (policy : Policy) : Except Fault Token := do
  let word ← span.word
  classifyBytes policy (bytes word)

end OffsetSpan

def classifySpan (policy : Policy) (text : String) (start stop : Nat) :
    Except Fault (Except SpanError Token) :=
  match OffsetSpan.ofOffsets text start stop with
  | .error error => return .error error
  | .ok span => do
    let token ← span.token policy
    return .ok token

end Checked

end SqlLexicon
