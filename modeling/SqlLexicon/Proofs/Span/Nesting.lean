import SqlLexicon.Proofs.Span.Offsets
/-!
# Spans inside a span

The word of a span is a text of its own and has spans of its own. They are spans of the whole
statement, with offsets that are counted from the start of the outer span.

* `isBoundary_word_iff` — the boundaries of the word are those of the statement, as both ends of
  the word are boundaries of the statement;
* `within`, `ofOffsets_within` — a span of the word, as a span of the statement;
* `ofOffsets_splits_iff` — offsets that split a character of the word split it in the statement;
* `ofOffsets_word_translates` — all of it together.
-/

namespace SqlLexicon.Span

open Text

variable {text : String} {start stop i j : Nat} {inner outer : Span}

/-! ## Boundaries -/

theorem isBoundary_word_iff (outer : Span) {n : Nat} (hle : n ≤ outer.length) :
    IsBoundary outer.source (outer.start + n) ↔ IsBoundary outer.word n := by
  rw [source, String.append_assoc, start, isBoundary_append_iff]
  exact isBoundary_append_left_iff hle

/-! ## The span of a word that is inside another -/

/-- A span of the word of another span, as a span of the other's statement. -/
def within (inner outer : Span) : Span where
  before := outer.before ++ inner.before
  word := inner.word
  after := inner.after ++ outer.after
  word_ne_empty := inner.word_ne_empty

theorem source_within (h : inner.source = outer.word) :
    (inner.within outer).source = outer.source := by
  rw [source, source, ← h, source, within]
  simp only [String.append_assoc]

theorem start_within (inner outer : Span) :
    (inner.within outer).start = outer.start + inner.start :=
  String.utf8ByteSize_append

theorem stop_within (inner outer : Span) :
    (inner.within outer).stop = outer.start + inner.stop := by
  rw [stop_eq, start_within, stop_eq, Nat.add_assoc]
  rfl

theorem token_within (inner outer : Span) (policy : Policy) :
    (inner.within outer).token policy = inner.token policy := rfl

theorem ofOffsets_within (h : ofOffsets outer.word i j = .ok inner) :
    ofOffsets outer.source (outer.start + i) (outer.start + j) = .ok (inner.within outer) := by
  obtain ⟨hsource, rfl, rfl⟩ := ofOffsets_eq_ok_iff.mp h
  exact ofOffsets_eq_ok_iff.mpr
    ⟨source_within hsource, start_within inner outer, stop_within inner outer⟩

/-! ## Split characters -/

theorem ofOffsets_splits_iff (hrange : i < j ∧ j ≤ outer.length) {offset : Nat} :
    ofOffsets outer.word i j = .error (.splitsCharacter offset) ↔
      ofOffsets outer.source (outer.start + i) (outer.start + j) =
        .error (.splitsCharacter (outer.start + offset)) := by
  have hsource : outer.start + i < outer.start + j ∧
      outer.start + j ≤ outer.source.utf8ByteSize := by
    have hstop := outer.stop_eq
    have hle := outer.stop_le_source
    omega
  have hword : i < j ∧ j ≤ outer.word.utf8ByteSize := hrange
  rw [ofOffsets_eq_splits_iff, ofOffsets_eq_splits_iff, and_iff_right hword,
    and_iff_right hsource, isBoundary_word_iff outer (by omega), isBoundary_word_iff outer hrange.2,
    Nat.add_left_cancel_iff, Nat.add_left_cancel_iff]

theorem exists_inner_iff (hrange : i < j ∧ j ≤ outer.length) :
    (∃ span, ofOffsets outer.word i j = .ok span) ↔
      ∃ span, ofOffsets outer.source (outer.start + i) (outer.start + j) = .ok span := by
  constructor
  · intro h
    obtain ⟨inner, hinner⟩ := h
    exact ⟨inner.within outer, ofOffsets_within hinner⟩
  · intro h
    obtain ⟨span, hspan⟩ := h
    have hword : i < j ∧ j ≤ outer.word.utf8ByteSize := hrange
    obtain hok | ⟨offset, hsplits⟩ := exists_ok_or_splits hword
    · exact hok
    -- A character that is split in the word is split in the statement too.
    · rw [ofOffsets_splits_iff hrange, hspan] at hsplits
      cases hsplits

/-- **A span inside a span is a span of the statement.** Within the length of a span, a pair of
offsets marks a span of its word exactly if the pair marks one in the statement when it is counted
from the start of the outer span; both have one word, and one token under every policy. If it
marks none, both pairs are refused because they split a character, at offsets that differ by the
start of the outer span. A pair that is not within the length is out of range. -/
theorem ofOffsets_word_translates (hspan : ofOffsets text start stop = .ok outer) (i j : Nat) :
    (i < j ∧ j ≤ stop - start →
      ((∃ inner, ofOffsets outer.word i j = .ok inner) ↔
        ∃ span, ofOffsets text (start + i) (start + j) = .ok span) ∧
      (∀ inner span, ofOffsets outer.word i j = .ok inner →
        ofOffsets text (start + i) (start + j) = .ok span →
          inner.word = span.word ∧ ∀ policy, inner.token policy = span.token policy) ∧
      (∀ offset, ofOffsets outer.word i j = .error (.splitsCharacter offset) ↔
        ofOffsets text (start + i) (start + j) = .error (.splitsCharacter (start + offset))) ∧
      ((¬∃ inner, ofOffsets outer.word i j = .ok inner) →
        ∃ offset, ofOffsets outer.word i j = .error (.splitsCharacter offset))) ∧
    (¬(i < j ∧ j ≤ stop - start) →
      ofOffsets outer.word i j = .error (.outOfRange i j (stop - start))) := by
  obtain ⟨rfl, rfl, rfl⟩ := ofOffsets_eq_ok_iff.mp hspan
  have hlength : outer.stop - outer.start = outer.length := by
    rw [stop_eq, Nat.add_sub_cancel_left]
  rw [hlength]
  constructor
  · intro hrange
    refine ⟨exists_inner_iff hrange, ?_, fun _ => ofOffsets_splits_iff hrange, ?_⟩
    · intro inner span hinner hsource
      rw [ofOffsets_within hinner] at hsource
      cases hsource
      exact ⟨rfl, fun policy => (token_within inner outer policy).symm⟩
    · intro hnone
      exact (exists_ok_or_splits hrange).resolve_left hnone
  · intro hrange
    exact ofOffsets_of_outOfRange hrange

/-- The theorem at a keyword, and at an offset inside a two-byte character, in a span that starts
after a one-byte character. -/
theorem ofOffsets_word_translates_on :
    (∃ outer, ofOffsets "xÉON " 1 5 = .ok outer ∧
      (2 < 4 ∧ 4 ≤ 5 - 1) ∧ (1 < 4 ∧ 4 ≤ 5 - 1) ∧ ¬(2 < 5 ∧ 5 ≤ 5 - 1) ∧
      (∃ inner, ofOffsets outer.word 2 4 = .ok inner ∧ inner.word = "ON") ∧
      ofOffsets outer.word 1 4 = .error (.splitsCharacter 1) ∧
      ofOffsets outer.word 2 5 = .error (.outOfRange 2 5 4)) := by
  obtain ⟨outer, houter⟩ : ∃ outer, ofOffsets "xÉON " 1 5 = .ok outer := ⟨_, rfl⟩
  have hon : ofOffsets "xÉON " (1 + 2) (1 + 4) = .ok ⟨"xÉ", "ON", " ", by decide⟩ := rfl
  have hsplits : ofOffsets "xÉON " (1 + 1) (1 + 4) = .error (.splitsCharacter (1 + 1)) := rfl
  obtain ⟨hexists, hsame, -⟩ :=
    (ofOffsets_word_translates houter 2 4).1 ⟨by decide, by decide⟩
  obtain ⟨-, -, hinside, -⟩ :=
    (ofOffsets_word_translates houter 1 4).1 ⟨by decide, by decide⟩
  obtain ⟨inner, hinner⟩ := hexists.mpr ⟨_, hon⟩
  refine ⟨outer, houter, by decide, by decide, by decide,
    ⟨inner, hinner, (hsame inner _ hinner hon).1⟩, (hinside 1).mpr hsplits, ?_⟩
  exact (ofOffsets_word_translates houter 2 5).2 (by decide)

end SqlLexicon.Span
