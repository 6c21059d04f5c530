import SqlLexicon.Lexicon.Range
import SqlLexicon.Proofs.Lexicon.Lookup
/-!
# A looser policy finds the same keywords and more

A policy is the looser, the more of its switches are on. What a span spells it spells under every
looser policy, as spellings are their own canonical forms.

* `spells_of_le` — a keyword that is spelled under a policy is spelled under a looser one;
* `classifyBytes_eq_of_ne_identifier` — so a span is no two keywords, not even under two policies;
* `classifyRange_of_le` — a looser policy makes keywords of identifiers, and does nothing else.
-/

namespace SqlLexicon

open Lexicon Text

namespace Policy

/-- The other policy has every switch on that the policy has on. -/
instance : LE Policy where
  le policy other :=
    (policy.ignoreCase = true → other.ignoreCase = true) ∧
      (policy.additionalKeywords = true → other.additionalKeywords = true)

theorem le_loosest (policy : Policy) : policy ≤ ⟨true, true⟩ :=
  ⟨fun _ => rfl, fun _ => rfl⟩

theorem admits_of_le {policy other : Policy} (hle : policy ≤ other) {token : Token}
    (h : policy.admits token = true) : other.admits token = true := by
  cases token with
  | additional => exact hle.2 h
  | _ => rfl

end Policy

variable {policy other : Policy} {span : List UInt8}

theorem spells_of_le (hle : policy ≤ other) {entry : Entry} (hentry : entry ∈ entries)
    (h : policy.Spells span entry) : other.Spells span entry := by
  obtain ⟨hadmits, hfold⟩ := h
  refine ⟨Policy.admits_of_le hle hadmits, ?_⟩
  cases hcase : policy.ignoreCase with
  | true =>
      rw [hcase] at hfold
      rw [hle.1 hcase, hfold]
  | false =>
      rw [hcase] at hfold
      have hexact : span = bytes entry.spelling := hfold
      rw [hexact, fold_spelling hentry]

theorem classifyBytes_of_le (hle : policy ≤ other)
    (h : policy.classifyBytes span ≠ .identifier) :
    other.classifyBytes span = policy.classifyBytes span := by
  obtain ⟨entry, hentry, htoken, hspells⟩ := (classifyBytes_eq_iff h).mp rfl
  exact (classifyBytes_eq_iff h).mpr ⟨entry, hentry, htoken, spells_of_le hle hentry hspells⟩

-- Two policies need not be comparable, but both are below the loosest one.
theorem classifyBytes_eq_of_ne_identifier (h : policy.classifyBytes span ≠ .identifier)
    (hother : other.classifyBytes span ≠ .identifier) :
    policy.classifyBytes span = other.classifyBytes span := by
  rw [← classifyBytes_of_le policy.le_loosest h, classifyBytes_of_le other.le_loosest hother]

/-- Reserved keywords are found by the case policy alone. -/
theorem classifyBytes_eq_reserved_congr (hcase : policy.ignoreCase = other.ignoreCase)
    (word : Reserved) :
    policy.classifyBytes span = .reserved word ↔ other.classifyBytes span = .reserved word := by
  rw [classifyBytes_eq_reserved_iff, classifyBytes_eq_reserved_iff, hcase]

/-- **A looser policy makes keywords of identifiers, and does nothing else.** A range in bounds that
is a keyword under one policy is the same keyword under every looser one. The four answers for a
range hold at most one token besides that of an identifier, and which reserved keyword it is does
not depend on whether additional keywords count. It is an identifier only where it spells no
keyword that the policy admits. -/
theorem classifyRange_of_le {text : String} {start stop : Nat}
    (hrange : start < stop ∧ stop ≤ text.utf8ByteSize) :
    ∃ token : Policy → Token,
      (∀ policy : Policy, policy.classifyRange text start stop = .ok (token policy)) ∧
      (∀ policy other, policy ≤ other → token policy ≠ .identifier →
        token other = token policy) ∧
      (∀ policy other, token policy ≠ .identifier → token other ≠ .identifier →
        token policy = token other) ∧
      (∀ ignoreCase word,
        token ⟨ignoreCase, false⟩ = .reserved word ↔
          token ⟨ignoreCase, true⟩ = .reserved word) ∧
      ∀ policy : Policy, token policy = .identifier ↔
        ∀ entry ∈ entries, ¬policy.Spells (bytesBetween text start stop) entry := by
  refine ⟨fun policy => policy.classifyBytes (bytesBetween text start stop), ?_, ?_, ?_, ?_, ?_⟩
  · intro policy
    exact policy.classifyRange_of_inBounds hrange
  · intro policy other hle h
    exact classifyBytes_of_le hle h
  · intro policy other h hother
    exact classifyBytes_eq_of_ne_identifier h hother
  · intro ignoreCase word
    apply classifyBytes_eq_reserved_congr
    rfl
  · intro policy
    exact classifyBytes_eq_identifier_iff

/-- The theorem at a reserved keyword that an additional keyword starts with. -/
theorem classifyRange_of_le_intersect :
    (2 < 11 ∧ 11 ≤ "Éintersects".utf8ByteSize) ∧
      (⟨true, false⟩ : Policy) ≤ ⟨true, true⟩ ∧
      Policy.classifyRange ⟨true, false⟩ "Éintersects" 2 11 = .ok (.reserved .kwIntersect) ∧
      Policy.classifyRange ⟨true, true⟩ "Éintersects" 2 11 = .ok (.reserved .kwIntersect) := by
  have hrange : 2 < 11 ∧ 11 ≤ "Éintersects".utf8ByteSize := by decide
  have hle : (⟨true, false⟩ : Policy) ≤ ⟨true, true⟩ := Policy.le_loosest _
  have hstrict :
      Policy.classifyRange ⟨true, false⟩ "Éintersects" 2 11 = .ok (.reserved .kwIntersect) :=
    Policy.classifyRange_eq_ok_iff.mpr ⟨hrange, classifyBytes_eq_reserved_iff.mpr (by decide)⟩
  obtain ⟨token, htoken, hloosened, -⟩ := classifyRange_of_le hrange
  have hkeyword : token ⟨true, false⟩ = .reserved .kwIntersect := by
    rw [htoken] at hstrict
    exact Except.ok.inj hstrict
  have hne : token ⟨true, false⟩ ≠ .identifier := by
    rw [hkeyword]
    decide
  refine ⟨hrange, hle, hstrict, ?_⟩
  rw [htoken, hloosened _ _ hle hne, hkeyword]

end SqlLexicon
