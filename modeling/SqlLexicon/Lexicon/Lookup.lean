import SqlLexicon.Lexicon.Index
import SqlLexicon.Policy
import SqlLexicon.Token
/-!
# Looking a word up in the index

The first byte of a word selects the keywords it is compared with, so a comparison looks only at
the length and at the bytes after the first. Case is folded over ASCII alone, which loses nothing
because every keyword is upper-case ASCII.
-/

namespace SqlLexicon

namespace Lexicon

open Text

/-- Whether two spans have one length and agree after their first bytes. -/
def agreesAfterFirst (ignoreCase : Bool) (word span : List UInt8) : Bool :=
  word.length == span.length &&
    if ignoreCase then equalIgnoringCase word.tail span.tail else word.tail == span.tail

/-- The byte under which a span is looked up; an empty span has none. -/
def firstByte? (ignoreCase : Bool) (span : List UInt8) : Option UInt8 :=
  span.head?.map fun first => if ignoreCase then upperByte first else first

def findReserved? (ignoreCase : Bool) (span : List UInt8) : Option Reserved := do
  let first ← firstByte? ignoreCase span
  let filed ← (reservedAt first).find? fun (spelling, _) =>
    agreesAfterFirst ignoreCase (bytes spelling) span
  return filed.2

def isAdditional (ignoreCase : Bool) (span : List UInt8) : Bool :=
  match firstByte? ignoreCase span with
  | none => false
  | some first =>
    (additionalAt first).any fun word => agreesAfterFirst ignoreCase (bytes word) span

/-- Whether a word is a reserved keyword. Additional keywords are not considered. -/
def isReservedWord (ignoreCase : Bool) (word : String) : Bool :=
  (findReserved? ignoreCase (bytes word)).isSome

end Lexicon

namespace Policy

open Lexicon

/-- What a span of bytes is to the grammar; an empty span is an identifier. -/
def classifyBytes (policy : Policy) (span : List UInt8) : Token :=
  match findReserved? policy.ignoreCase span with
  | some word => .reserved word
  | none =>
    if policy.additionalKeywords && isAdditional policy.ignoreCase span then .additional
    else .identifier

/-- What a whole word is to the grammar; the empty word is an identifier. -/
def classify (policy : Policy) (word : String) : Token :=
  policy.classifyBytes (Text.bytes word)

def isKeyword (policy : Policy) (word : String) : Bool :=
  !(policy.classify word).isIdentifier

@[simp] theorem classify_empty (policy : Policy) : policy.classify "" = .identifier := by
  obtain ⟨ignoreCase, additionalKeywords⟩ := policy
  cases ignoreCase <;> cases additionalKeywords <;> rfl

theorem isKeyword_iff {policy : Policy} {word : String} :
    policy.isKeyword word = true ↔ policy.classify word ≠ .identifier := by
  rw [isKeyword, Bool.not_eq_true', ← Bool.not_eq_true, Token.isIdentifier_iff]

end Policy

end SqlLexicon
