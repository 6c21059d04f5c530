import SqlLexicon.Lexicon.Lookup
/-!
# Looking a word up in a plain table

The same question without an index: the whole span is compared with the spellings of a table, one
after the other.
-/

namespace SqlLexicon

namespace Lexicon

structure Entry where
  spelling : String
  token : Token
deriving DecidableEq, Repr

/-- The additional keywords, written out. -/
def additionalSpellings : List String :=
  ["TOP", "TODAY", "SYSDATE", "SYSTIME", "SYSTIMESTAMP", "INTERSECTS"]

def entries : List Entry :=
  Reserved.all.map (fun word => ⟨word.spelling, .reserved word⟩) ++
    additionalSpellings.map fun word => ⟨word, .additional⟩

def spellings : List String :=
  entries.map Entry.spelling

/-- Whether the spans are equal, up to ASCII case if case is ignored. -/
def agrees (ignoreCase : Bool) (word span : List UInt8) : Bool :=
  Text.fold ignoreCase word == Text.fold ignoreCase span

end Lexicon

namespace Policy

open Lexicon

/-- Whether the policy counts the keywords with a token as keywords. -/
def admits (policy : Policy) : Token → Bool
  | .additional => policy.additionalKeywords
  | _ => true

/-- What a span is to the grammar by the first admitted entry that it spells. -/
def scan (policy : Policy) (table : List Entry) (span : List UInt8) : Token :=
  let found := table.find? fun entry =>
    policy.admits entry.token && agrees policy.ignoreCase (Text.bytes entry.spelling) span
  (found.map Entry.token).getD .identifier

end Policy

end SqlLexicon
