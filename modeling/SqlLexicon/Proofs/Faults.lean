import SqlLexicon.Checked
import SqlLexicon.Proofs.Span.Offsets
/-!
# No fault within the contract

Every operation over checked offsets ends in what the library says, and only the contract of a
range can be broken.

* `classifyBytes_eq_ok` — a comparison slices no empty span, because a keyword is looked up under
  its first byte;
* `ofOffsets_eq_map` — offsets are accepted exactly if they mark a span;
* `word_eq_ok`, `length_eq_ok` — on the offsets of a span, the word is sliced out of the statement
  and its length is the difference of the offsets;
* `faults_iff_contract_broken` — all of it together.
-/

namespace SqlLexicon

/-- The offsets of a span, without the parts that they cut out. -/
def Span.offsets (span : Span) : Checked.OffsetSpan :=
  ⟨span.source, span.start, span.stop⟩

namespace Checked

open Lexicon Text

/-! ## Tests that do not fault -/

section

variable {ε α : Type} {xs : List α} {test : α → Except ε Bool} {holds : α → Bool}

theorem findM?_eq_ok (htest : ∀ x ∈ xs, test x = .ok (holds x)) :
    xs.findM? test = .ok (xs.find? holds) := by
  induction xs with
  | nil => rfl
  | cons x xs ih =>
      have htail := ih fun y hy => htest y (List.mem_cons_of_mem x hy)
      rw [List.findM?, htest x List.mem_cons_self, List.find?]
      cases holds x with
      | true => rfl
      | false => exact htail

theorem anyM_eq_ok (htest : ∀ x ∈ xs, test x = .ok (holds x)) :
    xs.anyM test = .ok (xs.any holds) := by
  induction xs with
  | nil => rfl
  | cons x xs ih =>
      have htail := ih fun y hy => htest y (List.mem_cons_of_mem x hy)
      rw [List.anyM, htest x List.mem_cons_self, List.any_cons]
      cases holds x with
      | true => rfl
      | false => exact htail

end

/-! ## The lookup -/

theorem sliceBytes_eq_ok {span : List UInt8} {start stop : Nat}
    (hrange : start ≤ stop ∧ stop ≤ span.length) :
    sliceBytes span start stop = .ok ((span.drop start).take (stop - start)) := by
  rw [sliceBytes, if_pos hrange]

theorem sliceBytes_tail {span : List UInt8} (hspan : span ≠ []) :
    sliceBytes span 1 span.length = .ok span.tail := by
  have hpos := List.length_pos_iff.mpr hspan
  rw [sliceBytes_eq_ok ⟨hpos, Nat.le_refl _⟩, List.drop_one, ← List.length_tail, List.take_length]

example : sliceBytes [] 1 0 = .error (.outOfBounds 1 0 0) := rfl

/-- A word that starts with a byte has a rest to be compared, and so has a span of its length. -/
theorem agreesAfterFirst_eq_ok (ignoreCase : Bool) {word : List UInt8} (span : List UInt8)
    {first : UInt8} (hfirst : word.head? = some first) :
    agreesAfterFirst ignoreCase word span =
      .ok (Lexicon.agreesAfterFirst ignoreCase word span) := by
  have hword : word ≠ [] := by
    rintro rfl
    cases hfirst
  by_cases hlength : word.length = span.length
  · have hspan : span ≠ [] := by
      rw [← List.length_pos_iff, ← hlength]
      exact List.length_pos_iff.mpr hword
    rw [agreesAfterFirst, if_pos hlength, sliceBytes_tail hword, sliceBytes_tail hspan,
      Lexicon.agreesAfterFirst, beq_iff_eq.mpr hlength, Bool.true_and]
    rfl
  · rw [agreesAfterFirst, if_neg hlength, Lexicon.agreesAfterFirst, beq_eq_false_iff_ne.mpr hlength]
    rfl

theorem findReserved?_eq_ok (ignoreCase : Bool) (span : List UInt8) :
    findReserved? ignoreCase span = .ok (Lexicon.findReserved? ignoreCase span) := by
  unfold findReserved? Lexicon.findReserved?
  cases firstByte? ignoreCase span with
  | none => rfl
  | some first =>
      -- Every word that is filed under a byte starts with it, so no comparison faults.
      have htest : ∀ filed ∈ reservedAt first,
          agreesAfterFirst ignoreCase (bytes filed.1) span =
            .ok (Lexicon.agreesAfterFirst ignoreCase (bytes filed.1) span) :=
        fun _ hfiled => agreesAfterFirst_eq_ok ignoreCase span (mem_reservedAt.mp hfiled).2
      simp only [findM?_eq_ok htest]
      exact congrArg Except.ok Option.map_eq_bind

theorem isAdditional_eq_ok (ignoreCase : Bool) (span : List UInt8) :
    isAdditional ignoreCase span = .ok (Lexicon.isAdditional ignoreCase span) := by
  unfold isAdditional Lexicon.isAdditional
  cases firstByte? ignoreCase span with
  | none => rfl
  | some first =>
      have htest : ∀ word ∈ additionalAt first,
          agreesAfterFirst ignoreCase (bytes word) span =
            .ok (Lexicon.agreesAfterFirst ignoreCase (bytes word) span) :=
        fun _ hfiled => agreesAfterFirst_eq_ok ignoreCase span (mem_additionalAt.mp hfiled).2
      exact anyM_eq_ok htest

theorem classifyBytes_eq_ok (policy : Policy) (span : List UInt8) :
    classifyBytes policy span = .ok (policy.classifyBytes span) := by
  simp only [classifyBytes, Policy.classifyBytes, findReserved?_eq_ok, isAdditional_eq_ok]
  cases Lexicon.findReserved? policy.ignoreCase span with
  | some word => rfl
  | none =>
      cases policy.additionalKeywords with
      | false => rfl
      | true => cases Lexicon.isAdditional policy.ignoreCase span <;> rfl

/-! ## Words -/

variable {text : String} {start stop : Nat}

theorem classifyRange_eq_mapError (policy : Policy) (text : String) (start stop : Nat) :
    classifyRange policy text start stop =
      (policy.classifyRange text start stop).mapError .brokenContract := by
  by_cases hrange : start < stop ∧ stop ≤ text.utf8ByteSize
  · have hslice : start ≤ stop ∧ stop ≤ (bytes text).length := by
      rw [length_bytes]
      exact ⟨Nat.le_of_lt hrange.1, hrange.2⟩
    rw [classifyRange, if_pos hrange, sliceBytes_eq_ok hslice,
      policy.classifyRange_of_inBounds hrange]
    exact classifyBytes_eq_ok policy _
  · rw [classifyRange, if_neg hrange, policy.classifyRange_of_outOfBounds hrange]
    rfl

theorem classifyRange_eq_error_iff {policy : Policy} {fault : Fault} :
    classifyRange policy text start stop = .error fault ↔
      ¬(start < stop ∧ stop ≤ text.utf8ByteSize) ∧
        fault = .brokenContract ⟨start, stop, text.utf8ByteSize⟩ := by
  rw [classifyRange_eq_mapError]
  by_cases hrange : start < stop ∧ stop ≤ text.utf8ByteSize
  · rw [policy.classifyRange_of_inBounds hrange]
    constructor
    · intro hfault
      cases hfault
    · intro hbroken
      exact absurd hrange hbroken.1
  · rw [policy.classifyRange_of_outOfBounds hrange]
    constructor
    · intro hfault
      cases hfault
      exact ⟨hrange, rfl⟩
    · intro hbroken
      rw [hbroken.2]
      rfl

/-- A word that is not empty is a range within the contract. -/
theorem classifyRange_whole (policy : Policy) {word : String} (hword : word ≠ "") :
    classifyRange policy word 0 word.utf8ByteSize = .ok (policy.classify word) := by
  rw [classifyRange_eq_mapError, policy.classifyRange_whole hword]
  rfl

theorem classify_eq_ok (policy : Policy) (word : String) :
    classify policy word = .ok (policy.classify word) :=
  classifyBytes_eq_ok policy (bytes word)

theorem isKeyword_eq_ok (policy : Policy) (word : String) :
    isKeyword policy word = .ok (policy.isKeyword word) := by
  rw [isKeyword, classify_eq_ok]
  rfl

/-- A reserved keyword is a keyword without the additional ones. -/
theorem isReservedWord_eq_isKeyword (ignoreCase : Bool) (word : String) :
    Lexicon.isReservedWord ignoreCase word = Policy.isKeyword ⟨ignoreCase, false⟩ word := by
  rw [Lexicon.isReservedWord, Policy.isKeyword, Policy.classify, Policy.classifyBytes]
  cases Lexicon.findReserved? ignoreCase (bytes word) <;> rfl

theorem isReservedWord_eq_ok (ignoreCase : Bool) (word : String) :
    isReservedWord ignoreCase word = .ok (Lexicon.isReservedWord ignoreCase word) := by
  by_cases hword : word = ""
  · subst hword
    rfl
  · rw [isReservedWord, if_neg hword, classifyRange_whole _ hword, isReservedWord_eq_isKeyword]
    rfl

/-! ## Names -/

theorem isSimple_eq_ok (name : String) : isSimple name = .ok (Name.isSimple name) := by
  unfold isSimple Name.isSimple Name.inspect
  cases hchars : name.toList with
  | nil => rfl
  | cons c chars =>
      have hname : name ≠ "" := by
        rintro rfl
        cases hchars
      simp only [classifyRange_whole _ hname]
      cases (CharClass.of c).canStart with
      | false => rfl
      | true =>
          cases Name.firstOffender? c.utf8Size chars with
          | some offender => rfl
          | none =>
              have hidentifier : (Name.exactPolicy.classify name).isIdentifier =
                  !Name.exactPolicy.isKeyword name := by rw [Policy.isKeyword, Bool.not_not]
              change Except.ok (Name.exactPolicy.classify name).isIdentifier = _
              rw [hidentifier]
              cases Name.exactPolicy.isKeyword name <;> rfl

theorem write_eq_ok (name : String) : write name = .ok (Name.write name) := by
  rw [write, isSimple_eq_ok]
  cases hsimple : Name.isSimple name <;> simp [Name.write, hsimple] <;> rfl

/-! ## Spans -/

namespace OffsetSpan

/-- Offsets are accepted exactly if they mark a span, and refused with the same error if not. -/
theorem ofOffsets_eq_map (text : String) (start stop : Nat) :
    ofOffsets text start stop = (Span.ofOffsets text start stop).map Span.offsets := by
  by_cases hrange : start < stop ∧ stop ≤ text.utf8ByteSize
  · rw [ofOffsets, if_pos hrange]
    by_cases hstart : IsBoundary text start
    · by_cases hstop : IsBoundary text stop
      · obtain ⟨span, hspan⟩ := Span.exists_ofOffsets_eq_ok hrange hstart hstop
        obtain ⟨rfl, rfl, rfl⟩ := Span.ofOffsets_eq_ok_iff.mp hspan
        simp [hspan, hstart, hstop, Span.offsets, Except.map]
      · simp [Span.ofOffsets_of_stop_splits hrange hstart hstop, hstart, hstop, Except.map]
    · simp [Span.ofOffsets_of_start_splits hrange hstart, hstart, Except.map]
  · rw [ofOffsets, if_neg hrange, Span.ofOffsets_of_outOfRange hrange]
    rfl

theorem whole_eq_map (text : String) : whole text = (Span.whole text).map Span.offsets :=
  ofOffsets_eq_map text 0 text.utf8ByteSize

theorem length_eq_ok (span : Span) : span.offsets.length = .ok span.length := by
  calc span.offsets.length
    _ = .ok (span.stop - span.start) := if_pos (Nat.le_of_lt span.inRange.1)
    _ = .ok span.length := by rw [span.stop_sub_start]

theorem word_eq_ok (span : Span) : span.offsets.word = .ok span.word := by
  have hrange : span.start ≤ span.stop ∧ span.stop ≤ span.source.utf8ByteSize :=
    ⟨Nat.le_of_lt span.inRange.1, span.inRange.2⟩
  simp only [word, sliceText, Span.offsets, if_pos hrange, span.cutAt?_start, span.cutAt?_length]

-- Offsets that mark no span can fault.
example : OffsetSpan.word ⟨"xÉON", 2, 5⟩ = .error (.insideCharacter 2) := rfl

theorem token_eq_ok (span : Span) (policy : Policy) :
    span.offsets.token policy = .ok (span.token policy) := by
  rw [token, word_eq_ok]
  exact classifyBytes_eq_ok policy (bytes span.word)

end OffsetSpan

theorem classifySpan_eq_ok (policy : Policy) (text : String) (start stop : Nat) :
    classifySpan policy text start stop = .ok (policy.classifySpan text start stop) := by
  rw [classifySpan, Policy.classifySpan, OffsetSpan.ofOffsets_eq_map]
  cases Span.ofOffsets text start stop with
  | error error => rfl
  | ok span =>
      simp only [Except.map, OffsetSpan.token_eq_ok]
      rfl

/-! ## All operations -/

/-- Offsets that are accepted are those of a span. -/
theorem OffsetSpan.exists_offsets_eq {span : OffsetSpan}
    (hspan : ofOffsets text start stop = .ok span) :
    ∃ marked : Span, marked.offsets = span := by
  rw [ofOffsets_eq_map] at hspan
  cases hmarked : Span.ofOffsets text start stop with
  | error error =>
      rw [hmarked] at hspan
      cases hspan
  | ok marked =>
      rw [hmarked] at hspan
      cases hspan
      exact ⟨marked, rfl⟩

/-- Classifying a range faults exactly if the range breaks the contract, and no other operation
faults: not on the empty word or the empty span, not on offsets that are out of range or inside a
character, and not on any span that offsets mark. -/
theorem faults_iff_contract_broken (policy : Policy) (text : String) (start stop : Nat) :
    (∀ fault, classifyRange policy text start stop = .error fault ↔
        ¬(start < stop ∧ stop ≤ text.utf8ByteSize) ∧
          fault = .brokenContract ⟨start, stop, text.utf8ByteSize⟩) ∧
      classifyRange policy text start stop =
        (policy.classifyRange text start stop).mapError .brokenContract ∧
      (∀ span, classifyBytes policy span = .ok (policy.classifyBytes span)) ∧
      isReservedWord policy.ignoreCase text =
        .ok (Lexicon.isReservedWord policy.ignoreCase text) ∧
      isSimple text = .ok (Name.isSimple text) ∧
      write text = .ok (Name.write text) ∧
      classify policy text = .ok (policy.classify text) ∧
      isKeyword policy text = .ok (policy.isKeyword text) ∧
      classifySpan policy text start stop = .ok (policy.classifySpan text start stop) ∧
      OffsetSpan.ofOffsets text start stop =
        (Span.ofOffsets text start stop).map Span.offsets ∧
      OffsetSpan.whole text = (Span.whole text).map Span.offsets ∧
      ∀ span, OffsetSpan.ofOffsets text start stop = .ok span ∨ OffsetSpan.whole text = .ok span →
        ∃ marked : Span, marked.offsets = span ∧ span.length = .ok marked.length ∧
          span.word = .ok marked.word ∧ span.token policy = .ok (marked.token policy) := by
  refine ⟨fun _ => classifyRange_eq_error_iff, classifyRange_eq_mapError policy text start stop,
    classifyBytes_eq_ok policy, isReservedWord_eq_ok policy.ignoreCase text, isSimple_eq_ok text,
    write_eq_ok text, classify_eq_ok policy text, isKeyword_eq_ok policy text,
    classifySpan_eq_ok policy text start stop, OffsetSpan.ofOffsets_eq_map text start stop,
    OffsetSpan.whole_eq_map text, ?_⟩
  intro span hspan
  have hmarked : ∃ marked : Span, marked.offsets = span := by
    cases hspan with
    | inl hoffsets => exact OffsetSpan.exists_offsets_eq hoffsets
    | inr hwhole => exact OffsetSpan.exists_offsets_eq hwhole
  obtain ⟨marked, rfl⟩ := hmarked
  exact ⟨marked, rfl, OffsetSpan.length_eq_ok marked, OffsetSpan.word_eq_ok marked,
    OffsetSpan.token_eq_ok marked policy⟩

theorem faults_iff_contract_broken_at :
    OffsetSpan.ofOffsets "xÉON" 3 5 = .ok ⟨"xÉON", 3, 5⟩ ∧
      (∃ marked : Span, marked.offsets = ⟨"xÉON", 3, 5⟩ ∧
        OffsetSpan.token ⟨"xÉON", 3, 5⟩ ⟨false, false⟩ = .ok (marked.token ⟨false, false⟩)) ∧
      classifyRange ⟨false, false⟩ "xÉON" 5 3 = .error (.brokenContract ⟨5, 3, 5⟩) ∧
      isReservedWord true "" = .ok false := by
  have hspan : OffsetSpan.ofOffsets "xÉON" 3 5 = .ok ⟨"xÉON", 3, 5⟩ := rfl
  obtain ⟨-, -, -, -, -, -, -, -, -, -, -, hspans⟩ :=
    faults_iff_contract_broken ⟨false, false⟩ "xÉON" 3 5
  obtain ⟨hrange, -⟩ := faults_iff_contract_broken ⟨false, false⟩ "xÉON" 5 3
  obtain ⟨-, -, -, hword, -⟩ := faults_iff_contract_broken ⟨true, false⟩ "" 0 0
  obtain ⟨marked, hmarked, -, -, htoken⟩ := hspans _ (Or.inl hspan)
  exact ⟨hspan, ⟨marked, hmarked, htoken⟩, (hrange _).mpr ⟨by decide, by decide⟩, hword⟩

end Checked

end SqlLexicon
