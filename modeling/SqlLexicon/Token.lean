import SqlLexicon.Reserved
/-!
# What a word is to the grammar

A scanned word is an additional keyword, a name that the user chose, or one of the reserved
keywords. Additional keywords have no token of their own.
-/

namespace SqlLexicon

/-- What a scanned word is to the grammar. -/
inductive Token
  | additional
  | identifier
  | reserved (word : Reserved)
deriving DecidableEq, Ord, Repr

namespace Token

/-- The spelling of a reserved keyword, and a generic word for the two other kinds. -/
def spelling : Token → String
  | .additional => "KEYWORD"
  | .identifier => "IDENTIFIER"
  | .reserved word => word.spelling

def isReserved : Token → Bool
  | .reserved _ => true
  | _ => false

def isIdentifier : Token → Bool
  | .identifier => true
  | _ => false

/-- Every token, in ascending order. -/
def all : List Token :=
  .additional :: .identifier :: Reserved.all.map .reserved

/-- The tokens in ascending order, each as often as it was given. -/
def sort (tokens : List Token) : List Token :=
  tokens.mergeSort fun s t => (compare s t).isLE

@[simp] theorem isIdentifier_iff {token : Token} :
    token.isIdentifier = true ↔ token = .identifier := by
  cases token <;> simp [isIdentifier]

theorem mem_all (token : Token) : token ∈ all := by
  cases token with
  | reserved word => simp [all, Reserved.mem_all word]
  | _ => simp [all]

end Token

end SqlLexicon
