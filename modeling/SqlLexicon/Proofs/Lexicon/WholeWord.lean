import SqlLexicon.Proofs.Faults
import SqlLexicon.Proofs.Lexicon.Lookup
/-!
# Whole words

A whole word can be asked about in three ways: whether it is a reserved keyword, what it is under a
policy, and what the span of all of it is. They use different tests for a keyword and treat the
empty word each in a way of their own.

* `isReserved_classify` — under every policy the token of a word is reserved exactly if the word is
  a reserved keyword, whatever the additional keywords are;
* `classify_eq_additional_iff` — with additional keywords, these are what else is found;
* `wholeWord_answers_agree` — the three ways give one answer.
-/

namespace SqlLexicon

theorem Token.ne_identifier_iff {token : Token} :
    token ≠ .identifier ↔ Xor (token.isReserved = true) (token = .additional) := by
  cases token <;> simp [Token.isReserved, Xor]

namespace Lexicon

open Text

variable {ignoreCase : Bool} {word : String}

theorem isReserved_classify (policy : Policy) (word : String) :
    (policy.classify word).isReserved = isReservedWord policy.ignoreCase word := by
  rw [Policy.classify, Policy.classifyBytes, isReservedWord]
  cases findReserved? policy.ignoreCase (bytes word) with
  | some word => rfl
  | none =>
      simp only [Option.isSome_none]
      split <;> rfl

theorem classify_eq_additional_iff :
    Policy.classify ⟨ignoreCase, true⟩ word = .additional ↔
      ∃ extra ∈ additionalWords, agrees ignoreCase (bytes extra) (bytes word) = true := by
  rw [Policy.classify, classifyBytes_eq_additional_iff, and_iff_right rfl]
  apply exists_congr
  intro extra
  rw [mem_additionalWords]
  apply and_congr_right
  intro hextra
  rw [agrees_iff (mem_entries_additional.mpr hextra)]

theorem isKeyword_additional_iff :
    Policy.isKeyword ⟨ignoreCase, true⟩ word = true ↔
      Xor (isReservedWord ignoreCase word = true)
        (∃ extra ∈ additionalWords, agrees ignoreCase (bytes extra) (bytes word) = true) := by
  rw [Policy.isKeyword_iff, Token.ne_identifier_iff, isReserved_classify,
    classify_eq_additional_iff]

end Lexicon

open Lexicon Text

theorem isKeyword_empty (policy : Policy) : policy.isKeyword "" = false := by
  rw [Policy.isKeyword, Policy.classify_empty]
  rfl

theorem exists_whole_token {word : String} (hword : word ≠ "") :
    ∃ span, Span.whole word = .ok span ∧
      Checked.OffsetSpan.whole word = .ok span.offsets ∧
      ∀ policy : Policy, span.token policy = policy.classify word ∧
        span.offsets.token policy = .ok (policy.classify word) := by
  have hspan := Span.whole_eq_ok hword
  refine ⟨_, hspan, ?_, ?_⟩
  · rw [Checked.OffsetSpan.whole_eq_map, hspan]
    rfl
  · intro policy
    exact ⟨rfl, Checked.OffsetSpan.token_eq_ok _ policy⟩

/-- **Every way to ask about a whole word gives one answer.** That a word is a reserved keyword is
what the checked range over all of it says, that it is a keyword without the additional ones, and
that its token is a reserved one. With additional keywords, a word is a keyword exactly if it is
either reserved or equal to an additional keyword, up to ASCII case if case is ignored, and in the
second case its token says so. A word that is not empty has a span, by whose offsets it is
classified as by itself. The empty word is an identifier and no keyword in any of these ways. -/
theorem wholeWord_answers_agree (ignoreCase : Bool) (word : String) :
    let additional := ∃ extra ∈ additionalWords,
      agrees ignoreCase (bytes extra) (bytes word) = true
    Checked.isReservedWord ignoreCase word = .ok (isReservedWord ignoreCase word) ∧
    isReservedWord ignoreCase word = Policy.isKeyword ⟨ignoreCase, false⟩ word ∧
    isReservedWord ignoreCase word = (Policy.classify ⟨ignoreCase, false⟩ word).isReserved ∧
    (Policy.isKeyword ⟨ignoreCase, true⟩ word = true ↔
      Xor (isReservedWord ignoreCase word = true) additional) ∧
    (additional → Policy.classify ⟨ignoreCase, true⟩ word = .additional) ∧
    (word ≠ "" → ∃ span, Span.whole word = .ok span ∧
      Checked.OffsetSpan.whole word = .ok span.offsets ∧
      ∀ policy : Policy, span.token policy = policy.classify word ∧
        span.offsets.token policy = .ok (policy.classify word)) ∧
    Checked.isReservedWord ignoreCase "" = .ok false ∧
    isReservedWord ignoreCase "" = false ∧
    ∀ policy : Policy, policy.isKeyword "" = false ∧ policy.classify "" = .identifier := by
  intro additional
  have hempty : isReservedWord ignoreCase "" = false := by
    rw [Checked.isReservedWord_eq_isKeyword, isKeyword_empty]
  refine ⟨Checked.isReservedWord_eq_ok ignoreCase word,
    Checked.isReservedWord_eq_isKeyword ignoreCase word,
    (isReserved_classify ⟨ignoreCase, false⟩ word).symm, isKeyword_additional_iff,
    classify_eq_additional_iff.mpr, exists_whole_token, ?_, hempty, ?_⟩
  · rw [Checked.isReservedWord_eq_ok, hempty]
  · intro policy
    exact ⟨isKeyword_empty policy, policy.classify_empty⟩

/-- The theorem at an additional keyword in mixed case. -/
theorem wholeWord_answers_agree_sysDate :
    (∃ extra ∈ additionalWords, agrees true (bytes extra) (bytes "SysDate") = true) ∧
      Policy.classify ⟨true, true⟩ "SysDate" = .additional ∧ "SysDate" ≠ "" ∧
      ∃ span, Span.whole "SysDate" = .ok span ∧ span.token ⟨true, true⟩ = .additional := by
  have hadditional :
      ∃ extra ∈ additionalWords, agrees true (bytes extra) (bytes "SysDate") = true :=
    ⟨"SYSDATE", by decide, by decide⟩
  have hword : "SysDate" ≠ "" := by decide
  obtain ⟨-, -, -, -, hkeyword, hwhole, -⟩ := wholeWord_answers_agree true "SysDate"
  obtain ⟨span, hspan, -, htoken⟩ := hwhole hword
  refine ⟨hadditional, hkeyword hadditional, hword, span, hspan, ?_⟩
  rw [(htoken ⟨true, true⟩).1, hkeyword hadditional]

end SqlLexicon
