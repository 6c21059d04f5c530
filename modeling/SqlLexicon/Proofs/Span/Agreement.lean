import SqlLexicon.Lexicon.Range
import SqlLexicon.Proofs.Lexicon.Lookup
import SqlLexicon.Proofs.Span.Offsets
/-!
# Ranges and spans are classified alike

A range is looked up by its bytes alone, while a span splits no character.

* `classifyRange_of_ofOffsets_eq_ok` — where the offsets mark a span, the range has the token of
  the span;
* `classifyRange_of_splits` — a range in bounds that splits a character at either end holds a byte
  of that character, and is an identifier;
* `classifyRange_agrees_classifySpan` — so a keyword that is found by a range is found by a span.
-/

namespace SqlLexicon

open Text

variable {text : String} {start stop : Nat}

/-! ## Spans -/

theorem bytesBetween_source (span : Span) :
    bytesBetween span.source span.start span.stop = bytes span.word :=
  bytesBetween_append span.before span.word span.after

theorem classifyRange_of_ofOffsets_eq_ok {span : Span} (policy : Policy)
    (hspan : Span.ofOffsets text start stop = .ok span) :
    policy.classifyRange text start stop = .ok (span.token policy) := by
  obtain ⟨rfl, rfl, rfl⟩ := Span.ofOffsets_eq_ok_iff.mp hspan
  rw [policy.classifyRange_of_inBounds span.inRange, bytesBetween_source]
  rfl

/-! ## Split characters -/

/-- A range that splits a character holds a byte of it, which is beyond ASCII. -/
theorem exists_byte_of_splits (hrange : start < stop ∧ stop ≤ text.utf8ByteSize)
    (hsplits : ¬(IsBoundary text start ∧ IsBoundary text stop)) :
    ∃ b ∈ bytesBetween text start stop, 0x80 ≤ b.toNat := by
  by_cases hstart : IsBoundary text start
  · have hstop : ¬IsBoundary text stop := fun h => hsplits ⟨hstart, h⟩
    have hlast : stop - 1 = stop ∨ stop - 1 + 1 = stop := by omega
    obtain ⟨b, hb, hle⟩ := le_byte_of_not_isBoundary hstop hrange.2 hlast
    exact ⟨b, mem_bytesBetween_iff.mpr ⟨stop - 1, by omega, by omega, hb⟩, hle⟩
  · have hinside : start ≤ text.utf8ByteSize := by omega
    obtain ⟨b, hb, hle⟩ := le_byte_of_not_isBoundary hstart hinside (Or.inl rfl)
    exact ⟨b, mem_bytesBetween_iff.mpr ⟨start, by omega, hrange.1, hb⟩, hle⟩

theorem classifyRange_of_splits (policy : Policy)
    (hrange : start < stop ∧ stop ≤ text.utf8ByteSize)
    (hsplits : ¬(IsBoundary text start ∧ IsBoundary text stop)) :
    policy.classifyRange text start stop = .ok .identifier := by
  obtain ⟨b, hb, hle⟩ := exists_byte_of_splits hrange hsplits
  rw [policy.classifyRange_of_inBounds hrange, classifyBytes_eq_identifier_of_le hb hle]

theorem exists_splitsCharacter (hrange : start < stop ∧ stop ≤ text.utf8ByteSize)
    (hsplits : ¬(IsBoundary text start ∧ IsBoundary text stop)) :
    ∃ offset ∈ [start, stop], ¬IsBoundary text offset ∧
      Span.ofOffsets text start stop = .error (.splitsCharacter offset) := by
  by_cases hstart : IsBoundary text start
  · have hstop : ¬IsBoundary text stop := fun h => hsplits ⟨hstart, h⟩
    exact ⟨stop, by simp, hstop, Span.ofOffsets_of_stop_splits hrange hstart hstop⟩
  · exact ⟨start, by simp, hstart, Span.ofOffsets_of_start_splits hrange hstart⟩

/-! ## Agreement -/

theorem exists_span_of_classifyRange {policy : Policy} {token : Token}
    (htoken : token ≠ .identifier)
    (hrange : policy.classifyRange text start stop = .ok token) :
    ∃ span, Span.ofOffsets text start stop = .ok span ∧ span.token policy = token := by
  have hbounds := (Policy.classifyRange_eq_ok_iff.mp hrange).1
  have haligned : IsBoundary text start ∧ IsBoundary text stop := by
    by_contra hsplits
    rw [classifyRange_of_splits policy hbounds hsplits, Except.ok.injEq] at hrange
    exact htoken hrange.symm
  obtain ⟨span, hspan⟩ := Span.exists_ofOffsets_eq_ok hbounds haligned.1 haligned.2
  rw [classifyRange_of_ofOffsets_eq_ok policy hspan, Except.ok.injEq] at hrange
  exact ⟨span, hspan, hrange⟩

/-- **A range and a span with the same offsets agree.** Exactly one of three cases holds. Out of
bounds, the range breaks its contract and there is no span, for the same three numbers. In bounds
and on character boundaries, the range, the span, the checked offsets and the word that they cut
out have one token. In bounds but inside a character, there is no span, and the range is an
identifier under every policy. So a range that is a keyword is a span with the same token. -/
theorem classifyRange_agrees_classifySpan (text : String) (start stop : Nat) :
    let inBounds := start < stop ∧ stop ≤ text.utf8ByteSize
    let aligned := IsBoundary text start ∧ IsBoundary text stop
    ((¬inBounds ∧
        Span.ofOffsets text start stop = .error (.outOfRange start stop text.utf8ByteSize) ∧
        ∀ policy : Policy,
          policy.classifyRange text start stop = .error ⟨start, stop, text.utf8ByteSize⟩ ∧
          policy.classifySpan text start stop =
            .error (.outOfRange start stop text.utf8ByteSize)) ∨
      (inBounds ∧ aligned ∧
        ∃ span, Span.ofOffsets text start stop = .ok span ∧
          (span.source = text ∧ span.start = start ∧ span.stop = stop) ∧
          ∀ policy : Policy, ∃ token,
            policy.classifyRange text start stop = .ok token ∧ span.token policy = token ∧
            policy.classifySpan text start stop = .ok token ∧
            policy.classify span.word = token) ∨
      (inBounds ∧ ¬aligned ∧
        ∃ offset ∈ [start, stop], ¬IsBoundary text offset ∧
          Span.ofOffsets text start stop = .error (.splitsCharacter offset) ∧
          ∀ policy : Policy,
            policy.classifySpan text start stop = .error (.splitsCharacter offset) ∧
            policy.classifyRange text start stop = .ok .identifier)) ∧
    ∀ (policy : Policy) (token : Token), token ≠ .identifier →
      policy.classifyRange text start stop = .ok token →
        ∃ span, Span.ofOffsets text start stop = .ok span ∧ span.token policy = token ∧
          policy.classifySpan text start stop = .ok token := by
  intro inBounds aligned
  constructor
  · by_cases hbounds : inBounds
    · right
      by_cases haligned : aligned
      · left
        obtain ⟨span, hspan⟩ := Span.exists_ofOffsets_eq_ok hbounds haligned.1 haligned.2
        refine ⟨hbounds, haligned, span, hspan, Span.ofOffsets_eq_ok_iff.mp hspan, ?_⟩
        intro policy
        exact ⟨span.token policy, classifyRange_of_ofOffsets_eq_ok policy hspan, rfl,
          classifySpan_of_ofOffsets_eq_ok policy hspan, rfl⟩
      · right
        obtain ⟨offset, hoffset, hinside, herror⟩ := exists_splitsCharacter hbounds haligned
        refine ⟨hbounds, haligned, offset, hoffset, hinside, herror, ?_⟩
        intro policy
        exact ⟨classifySpan_of_ofOffsets_eq_error policy herror,
          classifyRange_of_splits policy hbounds haligned⟩
    · left
      have herror := Span.ofOffsets_of_outOfRange hbounds
      refine ⟨hbounds, herror, ?_⟩
      intro policy
      exact ⟨policy.classifyRange_of_outOfBounds hbounds,
        classifySpan_of_ofOffsets_eq_error policy herror⟩
  · intro policy token htoken hrange
    obtain ⟨span, hspan, rfl⟩ := exists_span_of_classifyRange htoken hrange
    exact ⟨span, hspan, rfl, classifySpan_of_ofOffsets_eq_ok policy hspan⟩

/-- The theorem at a keyword that stands right after a two-byte character. -/
theorem classifyRange_agrees_on :
    Token.reserved .kwOn ≠ .identifier ∧
      Policy.classifyRange ⟨false, false⟩ "xÉON" 3 5 = .ok (.reserved .kwOn) ∧
      ∃ span, Span.ofOffsets "xÉON" 3 5 = .ok span ∧
        span.token ⟨false, false⟩ = .reserved .kwOn ∧
        Policy.classifySpan ⟨false, false⟩ "xÉON" 3 5 = .ok (.reserved .kwOn) := by
  have hkeyword : Token.reserved .kwOn ≠ .identifier := by decide
  have hrange : Policy.classifyRange ⟨false, false⟩ "xÉON" 3 5 = .ok (.reserved .kwOn) :=
    Policy.classifyRange_eq_ok_iff.mpr ⟨by decide, by decide⟩
  have hagree := (classifyRange_agrees_classifySpan "xÉON" 3 5).2
  exact ⟨hkeyword, hrange, hagree ⟨false, false⟩ (.reserved .kwOn) hkeyword hrange⟩

end SqlLexicon
