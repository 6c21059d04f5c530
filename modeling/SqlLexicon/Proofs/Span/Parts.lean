import SqlLexicon.Span
/-!
# Spans as the parts of a statement

A pair of offsets marks a span exactly if the text before the word, the word and the text after it
make up the statement and have the lengths that the offsets tell (`ofOffsets_eq_ok_iff`).
-/

namespace SqlLexicon.Span

open Text

theorem cutAt?_append (front back : String) :
    cutAt? (front ++ back) front.utf8ByteSize = some (front, back) :=
  cutAt?_eq_some_iff.mpr ⟨rfl, rfl⟩

theorem stop_le_source (span : Span) : span.stop ≤ span.source.utf8ByteSize := by
  unfold stop source
  rw [String.utf8ByteSize_append, String.utf8ByteSize_append]
  exact Nat.le_add_right _ _

theorem stop_sub_start (span : Span) : span.stop - span.start = span.length := by
  rw [stop_eq, Nat.add_sub_cancel_left]

theorem cutAt?_start (span : Span) :
    cutAt? span.source span.start = some (span.before, span.word ++ span.after) := by
  rw [source, String.append_assoc]
  exact cutAt?_append span.before (span.word ++ span.after)

theorem cutAt?_length (span : Span) :
    cutAt? (span.word ++ span.after) (span.stop - span.start) = some (span.word, span.after) := by
  rw [stop_sub_start]
  exact cutAt?_append span.word span.after

theorem inRange (span : Span) :
    span.start < span.stop ∧ span.stop ≤ span.source.utf8ByteSize := by
  have hlength := span.length_pos
  have hstop := span.stop_eq
  exact ⟨by omega, span.stop_le_source⟩

/-- The offsets of a span mark the span. -/
theorem ofOffsets_source (span : Span) :
    ofOffsets span.source span.start span.stop = .ok span := by
  have hword := span.cutAt?_length
  unfold ofOffsets
  rw [dif_pos span.inRange]
  simp only [span.cutAt?_start]
  split
  · rename_i hnone
    rw [hword] at hnone
    cases hnone
  · rename_i word after hcut
    rw [hword] at hcut
    cases hcut
    rfl

theorem ofOffsets_eq_ok_iff {text : String} {start stop : Nat} {span : Span} :
    ofOffsets text start stop = .ok span ↔
      span.source = text ∧ span.start = start ∧ span.stop = stop := by
  constructor
  · intro h
    unfold ofOffsets at h
    split at h
    · rename_i hrange
      split at h
      · cases h
      · rename_i before rest hbefore
        split at h
        · cases h
        · rename_i word after hcut
          obtain ⟨rfl, hstart⟩ := cutAt?_eq_some_iff.mp hbefore
          obtain ⟨rfl, hlength⟩ := cutAt?_eq_some_iff.mp hcut
          cases h
          refine ⟨String.append_assoc, hstart, ?_⟩
          simp only [Span.stop]
          omega
    · cases h
  · intro h
    obtain ⟨hsource, hstart, hstop⟩ := h
    rw [← hsource, ← hstart, ← hstop]
    exact ofOffsets_source span

end SqlLexicon.Span
