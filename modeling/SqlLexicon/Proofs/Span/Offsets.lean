import SqlLexicon.Proofs.Span.Parts
import SqlLexicon.Proofs.Text.Boundary
/-!
# The spans that offsets mark

Every slice and every length of a span relies on the one check of its offsets.

* `isBoundary_stop_iff` — cutting off the word decides whether the stop is a boundary of the
  whole text;
* `ofOffsets_eq_error_iff` — which error is reported, with the offset that it blames;
* `ofOffsets_marks_substring` — offsets mark a span exactly if they cut out a substring that is
  not empty, and the span is that substring.
-/

namespace SqlLexicon.Span

open Text

variable {text : String} {start stop : Nat}

/-! ## Errors -/

/-- After a cut at the start, the stop is a boundary exactly if the rest can be cut there. -/
theorem isBoundary_stop_iff {before rest : String} (hcut : cutAt? text start = some (before, rest))
    (hle : start ≤ stop) : IsBoundary text stop ↔ (cutAt? rest (stop - start)).isSome = true := by
  obtain ⟨rfl, hstart⟩ := cutAt?_eq_some_iff.mp hcut
  have hstop : stop = before.utf8ByteSize + (stop - start) := by omega
  rw [hstop, isBoundary_append_iff, ← hstop]
  rfl

theorem ofOffsets_of_outOfRange (hrange : ¬(start < stop ∧ stop ≤ text.utf8ByteSize)) :
    ofOffsets text start stop = .error (.outOfRange start stop text.utf8ByteSize) := by
  unfold ofOffsets
  rw [dif_neg hrange]

theorem ofOffsets_of_start_splits (hrange : start < stop ∧ stop ≤ text.utf8ByteSize)
    (hstart : ¬IsBoundary text start) :
    ofOffsets text start stop = .error (.splitsCharacter start) := by
  have hcut : cutAt? text start = none := by simpa [IsBoundary] using hstart
  unfold ofOffsets
  rw [dif_pos hrange]
  simp only [hcut]

theorem ofOffsets_of_stop_splits (hrange : start < stop ∧ stop ≤ text.utf8ByteSize)
    (hstart : IsBoundary text start) (hstop : ¬IsBoundary text stop) :
    ofOffsets text start stop = .error (.splitsCharacter stop) := by
  obtain ⟨⟨before, rest⟩, hcut⟩ := Option.isSome_iff_exists.mp hstart
  rw [isBoundary_stop_iff hcut (Nat.le_of_lt hrange.1)] at hstop
  unfold ofOffsets
  rw [dif_pos hrange]
  simp only [hcut]
  split
  · rfl
  · rename_i hword
    rw [hword] at hstop
    exact absurd rfl hstop

theorem exists_ofOffsets_eq_ok (hrange : start < stop ∧ stop ≤ text.utf8ByteSize)
    (hstart : IsBoundary text start) (hstop : IsBoundary text stop) :
    ∃ span, ofOffsets text start stop = .ok span := by
  obtain ⟨⟨before, rest⟩, hcut⟩ := Option.isSome_iff_exists.mp hstart
  rw [isBoundary_stop_iff hcut (Nat.le_of_lt hrange.1)] at hstop
  unfold ofOffsets
  rw [dif_pos hrange]
  simp only [hcut]
  split
  · rename_i hnone
    rw [hnone] at hstop
    cases hstop
  · exact ⟨_, rfl⟩

/-- The range is checked before the boundaries, and the start before the stop. -/
theorem ofOffsets_eq_error_iff {error : SpanError} :
    ofOffsets text start stop = .error error ↔
      (¬(start < stop ∧ stop ≤ text.utf8ByteSize) ∧
        error = .outOfRange start stop text.utf8ByteSize) ∨
      ((start < stop ∧ stop ≤ text.utf8ByteSize) ∧ ¬IsBoundary text start ∧
        error = .splitsCharacter start) ∨
      ((start < stop ∧ stop ≤ text.utf8ByteSize) ∧ IsBoundary text start ∧
        ¬IsBoundary text stop ∧ error = .splitsCharacter stop) := by
  by_cases hrange : start < stop ∧ stop ≤ text.utf8ByteSize
  · by_cases hstart : IsBoundary text start
    · by_cases hstop : IsBoundary text stop
      · obtain ⟨span, hspan⟩ := exists_ofOffsets_eq_ok hrange hstart hstop
        simp [hspan, hrange, hstart, hstop]
      · rw [ofOffsets_of_stop_splits hrange hstart hstop]
        simp [hrange, hstart, hstop, eq_comm]
    · rw [ofOffsets_of_start_splits hrange hstart]
      simp [hrange, hstart, eq_comm]
  · rw [ofOffsets_of_outOfRange hrange]
    simp [hrange, eq_comm]

theorem ofOffsets_eq_splits_iff {offset : Nat} :
    ofOffsets text start stop = .error (.splitsCharacter offset) ↔
      (start < stop ∧ stop ≤ text.utf8ByteSize) ∧
        ((¬IsBoundary text start ∧ offset = start) ∨
          (IsBoundary text start ∧ ¬IsBoundary text stop ∧ offset = stop)) := by
  rw [ofOffsets_eq_error_iff]
  simp [and_or_left]

/-- A range in bounds marks a span or splits a character. -/
theorem exists_ok_or_splits (hrange : start < stop ∧ stop ≤ text.utf8ByteSize) :
    (∃ span, ofOffsets text start stop = .ok span) ∨
      ∃ offset, ofOffsets text start stop = .error (.splitsCharacter offset) := by
  by_cases hstart : IsBoundary text start
  · by_cases hstop : IsBoundary text stop
    · exact Or.inl (exists_ofOffsets_eq_ok hrange hstart hstop)
    · exact Or.inr ⟨stop, ofOffsets_of_stop_splits hrange hstart hstop⟩
  · exact Or.inr ⟨start, ofOffsets_of_start_splits hrange hstart⟩

/-! ## Substrings -/

variable {before word after : String}

theorem ofOffsets_append (hword : word ≠ "") :
    ofOffsets (before ++ word ++ after) before.utf8ByteSize
        (before.utf8ByteSize + word.utf8ByteSize) =
      .ok ⟨before, word, after, hword⟩ :=
  ofOffsets_source ⟨before, word, after, hword⟩

theorem exists_ofOffsets_eq_ok_iff :
    (∃ span, ofOffsets text start stop = .ok span) ↔
      ∃ before word after, text = before ++ word ++ after ∧ word ≠ "" ∧
        before.utf8ByteSize = start ∧ before.utf8ByteSize + word.utf8ByteSize = stop := by
  constructor
  · intro h
    obtain ⟨span, hspan⟩ := h
    obtain ⟨hsource, hstart, hstop⟩ := ofOffsets_eq_ok_iff.mp hspan
    exact ⟨span.before, span.word, span.after, hsource.symm, span.word_ne_empty, hstart, hstop⟩
  · intro h
    obtain ⟨before, word, after, rfl, hword, rfl, rfl⟩ := h
    exact ⟨_, ofOffsets_append hword⟩

/-- The offsets of a span leave only one choice of its parts. -/
theorem eq_parts_of_ofOffsets_eq_ok {span : Span} (hspan : ofOffsets text start stop = .ok span)
    (htext : text = before ++ word ++ after) (hstart : before.utf8ByteSize = start)
    (hstop : before.utf8ByteSize + word.utf8ByteSize = stop) :
    span.before = before ∧ span.word = word ∧ span.after = after := by
  obtain ⟨-, hspanstart, hspanstop⟩ := ofOffsets_eq_ok_iff.mp hspan
  have hword : word ≠ "" := by
    intro hempty
    have hpos := span.length_pos
    have hlength := span.stop_eq
    rw [hempty, String.utf8ByteSize_empty] at hstop
    omega
  subst htext hstart hstop
  rw [ofOffsets_append hword] at hspan
  cases hspan
  exact ⟨rfl, rfl, rfl⟩

theorem whole_eq_ok (htext : text ≠ "") : whole text = .ok ⟨"", text, "", htext⟩ := by
  have h := @ofOffsets_append "" text "" htext
  simpa [whole] using h

theorem whole_empty : whole "" = .error (.outOfRange 0 0 0) := rfl

/-- **Offsets mark the substrings that are not empty, and no others.** A pair of offsets is taken
exactly if it cuts out a word of the text that is not empty; the span is then that word, and its
length is the distance of the offsets. Any other pair is refused, with all three numbers if it is
out of range, and else with the first of the two offsets that splits a character. The span of a
whole text exists unless the text is empty. -/
theorem ofOffsets_marks_substring (text : String) (start stop : Nat) :
    ((∃ span, ofOffsets text start stop = .ok span) ↔
      ∃ before word after, text = before ++ word ++ after ∧ word ≠ "" ∧
        before.utf8ByteSize = start ∧ before.utf8ByteSize + word.utf8ByteSize = stop) ∧
    (∀ span before word after, ofOffsets text start stop = .ok span →
      text = before ++ word ++ after → before.utf8ByteSize = start →
      before.utf8ByteSize + word.utf8ByteSize = stop →
        span.source = text ∧ span.start = start ∧ span.stop = stop ∧
          span.word = word ∧ toString span = word ∧
          start < stop ∧ span.length = stop - start ∧ span.length = word.utf8ByteSize ∧
          0 < span.length) ∧
    (∀ error, ofOffsets text start stop = .error error ↔
      ((stop ≤ start ∨ text.utf8ByteSize < stop) ∧
        error = .outOfRange start stop text.utf8ByteSize) ∨
      ((start < stop ∧ stop ≤ text.utf8ByteSize) ∧ ¬IsBoundary text start ∧
        error = .splitsCharacter start) ∨
      ((start < stop ∧ stop ≤ text.utf8ByteSize) ∧ IsBoundary text start ∧
        ¬IsBoundary text stop ∧ error = .splitsCharacter stop)) ∧
    ((∃ span, whole text = .ok span) ↔ text ≠ "") ∧
    ∀ span, whole text = .ok span → span.word = text := by
  refine ⟨exists_ofOffsets_eq_ok_iff, ?_, ?_, ?_, ?_⟩
  · intro span before word after hspan htext hstart hstop
    obtain ⟨hsource, hspanstart, hspanstop⟩ := ofOffsets_eq_ok_iff.mp hspan
    obtain ⟨-, hword, -⟩ := eq_parts_of_ofOffsets_eq_ok hspan htext hstart hstop
    have hpos := span.length_pos
    have hlength := span.stop_eq
    have hsize : span.length = word.utf8ByteSize := by rw [length, hword]
    exact ⟨hsource, hspanstart, hspanstop, hword, hword, by omega, by omega, hsize, hpos⟩
  · intro error
    have hrange : ¬(start < stop ∧ stop ≤ text.utf8ByteSize) ↔
        stop ≤ start ∨ text.utf8ByteSize < stop := by omega
    rw [ofOffsets_eq_error_iff, hrange]
  · constructor
    · intro h hempty
      obtain ⟨span, hspan⟩ := h
      rw [hempty, whole_empty] at hspan
      cases hspan
    · intro htext
      exact ⟨_, whole_eq_ok htext⟩
  · intro span hspan
    have htext : text ≠ "" := by
      intro hempty
      rw [hempty, whole_empty] at hspan
      cases hspan
    rw [whole_eq_ok htext] at hspan
    cases hspan
    rfl

/-- The theorem at a word after a two-byte character, and at an offset inside that character. -/
theorem ofOffsets_marks_after_char :
    "xÉON" = "xÉ" ++ "ON" ++ "" ∧
      (∃ span, ofOffsets "xÉON" 3 5 = .ok span ∧ span.word = "ON" ∧ span.length = 5 - 3) ∧
      ofOffsets "xÉON" 2 5 = .error (.splitsCharacter 2) := by
  have htext : "xÉON" = "xÉ" ++ "ON" ++ "" := by decide
  obtain ⟨hok, hparts, -⟩ := ofOffsets_marks_substring "xÉON" 3 5
  obtain ⟨-, -, herror, -⟩ := ofOffsets_marks_substring "xÉON" 2 5
  obtain ⟨span, hspan⟩ := hok.mpr ⟨"xÉ", "ON", "", htext, by decide, by decide, by decide⟩
  obtain ⟨-, -, -, hword, -, -, hlength, -⟩ :=
    hparts span "xÉ" "ON" "" hspan htext (by decide) (by decide)
  refine ⟨htext, ⟨span, hspan, hword, hlength⟩, ?_⟩
  exact (herror (.splitsCharacter 2)).mpr (Or.inr (Or.inl ⟨by decide, by decide, rfl⟩))

end SqlLexicon.Span
