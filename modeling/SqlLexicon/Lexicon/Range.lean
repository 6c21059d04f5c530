import SqlLexicon.Lexicon.Lookup
/-!
# Words given by a range of bytes

A tokenizer hands over a word as two byte offsets into a statement. A range is in contract when it
is not empty and ends within the text; it may start or end inside a character, and its bytes are
then those of no keyword.
-/

namespace SqlLexicon

/-- A range of bytes that is empty or reaches beyond the text. -/
structure RangeError where
  start : Nat
  stop : Nat
  size : Nat
deriving DecidableEq, Repr

def RangeError.message (error : RangeError) : String :=
  s!"token span {error.start}..{error.stop} is invalid for text of length {error.size}"

def Text.bytesBetween (text : String) (start stop : Nat) : List UInt8 :=
  ((Text.bytes text).drop start).take (stop - start)

/-- What the bytes from `start` up to `stop` are to the grammar. -/
def Policy.classifyRange (policy : Policy) (text : String) (start stop : Nat) :
    Except RangeError Token :=
  if start < stop ∧ stop ≤ text.utf8ByteSize then
    .ok (policy.classifyBytes (Text.bytesBetween text start stop))
  else
    .error ⟨start, stop, text.utf8ByteSize⟩

namespace Text

theorem getElem?_bytesBetween {text : String} {start stop i : Nat} (h : i < stop - start) :
    (bytesBetween text start stop)[i]? = (bytes text)[start + i]? := by
  rw [bytesBetween, List.getElem?_take_of_lt h, List.getElem?_drop]

/-- The bytes of a range are those at the offsets from its start up to its end. -/
theorem mem_bytesBetween_iff {text : String} {start stop : Nat} {b : UInt8} :
    b ∈ bytesBetween text start stop ↔
      ∃ i, start ≤ i ∧ i < stop ∧ (bytes text)[i]? = some b := by
  rw [List.mem_iff_getElem?]
  constructor
  · intro h
    obtain ⟨i, hi⟩ := h
    have hlt : i < stop - start := by
      obtain ⟨hlength, -⟩ := List.getElem?_eq_some_iff.mp hi
      rw [bytesBetween, List.length_take] at hlength
      omega
    rw [getElem?_bytesBetween hlt] at hi
    exact ⟨start + i, by omega, by omega, hi⟩
  · intro h
    obtain ⟨i, hstart, hstop, hi⟩ := h
    refine ⟨i - start, ?_⟩
    rw [getElem?_bytesBetween (by omega), Nat.add_sub_cancel' hstart]
    exact hi

/-- Between the offsets of a part of a text are the bytes of that part. -/
theorem bytesBetween_append (before word after : String) :
    bytesBetween (before ++ word ++ after) before.utf8ByteSize
        (before.utf8ByteSize + word.utf8ByteSize) =
      bytes word := by
  rw [bytesBetween, Nat.add_sub_cancel_left, bytes_append, bytes_append, List.append_assoc,
    ← length_bytes before, List.drop_left, ← length_bytes word, List.take_left]

end Text

theorem Policy.classifyRange_of_inBounds (policy : Policy) {text : String} {start stop : Nat}
    (hrange : start < stop ∧ stop ≤ text.utf8ByteSize) :
    policy.classifyRange text start stop =
      .ok (policy.classifyBytes (Text.bytesBetween text start stop)) := by
  rw [classifyRange, if_pos hrange]

theorem Policy.classifyRange_of_outOfBounds (policy : Policy) {text : String} {start stop : Nat}
    (hrange : ¬(start < stop ∧ stop ≤ text.utf8ByteSize)) :
    policy.classifyRange text start stop = .error ⟨start, stop, text.utf8ByteSize⟩ := by
  rw [classifyRange, if_neg hrange]

theorem Policy.classifyRange_eq_ok_iff {policy : Policy} {text : String} {start stop : Nat}
    {token : Token} :
    policy.classifyRange text start stop = .ok token ↔
      (start < stop ∧ stop ≤ text.utf8ByteSize) ∧
        policy.classifyBytes (Text.bytesBetween text start stop) = token := by
  by_cases hrange : start < stop ∧ stop ≤ text.utf8ByteSize
  · rw [policy.classifyRange_of_inBounds hrange]
    simp [hrange]
  · rw [policy.classifyRange_of_outOfBounds hrange]
    simp [hrange]

theorem Policy.classifyRange_whole (policy : Policy) {word : String} (h : word ≠ "") :
    policy.classifyRange word 0 word.utf8ByteSize = .ok (policy.classify word) := by
  have hpos : 0 < word.utf8ByteSize := by
    rw [Nat.pos_iff_ne_zero]
    exact fun hzero => h (String.utf8ByteSize_eq_zero_iff.mp hzero)
  simp only [classifyRange, Text.bytesBetween, hpos, Nat.le_refl, and_self, if_true, List.drop_zero,
    Nat.sub_zero]
  rw [← Text.length_bytes, List.take_length]
  rfl

end SqlLexicon
