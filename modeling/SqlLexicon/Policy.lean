/-!
# Classification policies

Two switches decide how words are compared with keywords: whether the case of ASCII letters
counts, and whether the additional keywords count as keywords.
-/

namespace SqlLexicon

structure Policy where
  ignoreCase : Bool := true
  additionalKeywords : Bool := false
deriving DecidableEq, Repr

namespace Policy

/-- The policy with its two switches chosen by hand. -/
def ofSwitches (ignoreCase additionalKeywords : Bool) : Policy :=
  { ignoreCase, additionalKeywords }

/-- The four policies, from the strictest to the loosest. -/
def all : List Policy :=
  [⟨false, false⟩, ⟨false, true⟩, ⟨true, false⟩, ⟨true, true⟩]

theorem mem_all (policy : Policy) : policy ∈ all := by
  obtain ⟨ignoreCase, additionalKeywords⟩ := policy
  cases ignoreCase <;> cases additionalKeywords <;> decide

end Policy

end SqlLexicon
