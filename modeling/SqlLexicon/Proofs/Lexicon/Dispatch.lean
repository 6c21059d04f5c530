import SqlLexicon.Proofs.Faults
import SqlLexicon.Proofs.Lexicon.Lookup
/-!
# Comparing after the dispatch

A span is compared only with the words that are filed under its first byte, and only from the
second byte on. By itself this comparison takes words with a wrong first letter for the right ones;
it is the filing that makes it a comparison of the whole span.

* `mem_wordsAt` — under a byte stand the keywords that start with it;
* `agreesAfterFirst_of_mem_wordsAt` — so the first bytes of a span and of a word it is compared
  with agree, and the rest decides;
* `not_agrees_of_mem_wordsAt` — a span agrees with no word under another byte;
* `agreesAfterFirst_decides` — all of it together.
-/

namespace SqlLexicon.Lexicon

open Text

/-- The words that a span is compared with if it is looked up under a first byte. -/
def wordsAt (first : UInt8) : List String :=
  (reservedAt first).map Prod.fst ++ additionalAt first

variable {ignoreCase : Bool} {span : List UInt8} {first : UInt8} {word : String}

/-! ## The words under a byte -/

theorem mem_map_reservedAt :
    word ∈ (reservedAt first).map Prod.fst ↔
      (∃ keyword : Reserved, keyword.spelling = word) ∧ (bytes word).head? = some first := by
  simp only [List.mem_map, Prod.exists, mem_reservedAt]
  constructor
  · rintro ⟨spelling, keyword, ⟨rfl, hhead⟩, rfl⟩
    exact ⟨⟨keyword, rfl⟩, hhead⟩
  · rintro ⟨⟨keyword, rfl⟩, hhead⟩
    exact ⟨keyword.spelling, keyword, ⟨rfl, hhead⟩, rfl⟩

theorem mem_wordsAt :
    word ∈ wordsAt first ↔
      (∃ entry ∈ entries, entry.spelling = word) ∧ (bytes word).head? = some first := by
  rw [wordsAt, List.mem_append, mem_map_reservedAt, mem_additionalAt, mem_additionalWords,
    ← or_and_right]
  apply and_congr_left
  intro _
  constructor
  · rintro (⟨keyword, rfl⟩ | hadditional)
    · exact ⟨_, mem_entries_reserved keyword, rfl⟩
    · exact ⟨_, mem_entries_additional.mpr hadditional, rfl⟩
  · rintro ⟨entry, hentry, rfl⟩
    obtain ⟨keyword, rfl⟩ | ⟨word, hadditional, rfl⟩ := mem_entries.mp hentry
    · exact Or.inl ⟨keyword, rfl⟩
    · exact Or.inr hadditional

theorem nodup_map_filedAt {α : Type} {index : List (Char × List α)} {spelling : α → String}
    (hbuckets : ∀ bucket ∈ index, (bucket.2.map spelling).Nodup) (first : UInt8) :
    ((filedAt index first).map spelling).Nodup := by
  obtain hnil | ⟨bucket, hbucket, -, hfiled⟩ := filedAt_eq_nil_or_bucket index first
  · rw [hnil]
    exact List.nodup_nil
  · rw [hfiled]
    exact hbuckets bucket hbucket

theorem nodup_wordsAt (first : UInt8) : (wordsAt first).Nodup := by
  have hreserved : ((reservedAt first).map Prod.fst).Nodup :=
    nodup_map_filedAt (by decide) first
  have hadditional : (additionalAt first).Nodup := by
    have hmap : ((additionalAt first).map id).Nodup := nodup_map_filedAt (by decide) first
    rwa [List.map_id] at hmap
  refine List.nodup_append.mpr ⟨hreserved, hadditional, ?_⟩
  rintro v hv w hw rfl
  obtain ⟨⟨keyword, hspelling⟩, -⟩ := mem_map_reservedAt.mp hv
  have hword := mem_additionalWords.mp (mem_additionalAt.mp hw).1
  exact spelling_ne_additional hword keyword hspelling

/-! ## The comparison -/

theorem agreesAfterFirst_of_mem_wordsAt (hword : word ∈ wordsAt first)
    (hspan : firstByte? ignoreCase span = some first) :
    agreesAfterFirst ignoreCase (bytes word) span = true ↔
      agrees ignoreCase (bytes word) span = true := by
  obtain ⟨⟨entry, hentry, rfl⟩, hhead⟩ := mem_wordsAt.mp hword
  rw [agreesAfterFirst_spelling_iff hentry hhead hspan, agrees_iff hentry]

-- Without the dispatch a wrong first letter goes unnoticed.
example : agreesAfterFirst false (bytes "ON") (bytes "IN") = true := by decide

theorem checked_agreesAfterFirst_of_mem_wordsAt (hword : word ∈ wordsAt first)
    (hspan : firstByte? ignoreCase span = some first) :
    Checked.agreesAfterFirst ignoreCase (bytes word) span =
      .ok (agrees ignoreCase (bytes word) span) := by
  have hdecides := agreesAfterFirst_of_mem_wordsAt hword hspan
  rw [Checked.agreesAfterFirst_eq_ok ignoreCase span (mem_wordsAt.mp hword).2,
    Bool.eq_iff_iff.mpr hdecides]

/-- A span that agrees with a word is looked up where the word is filed. -/
theorem firstByte?_of_agrees (hword : word ∈ wordsAt first)
    (hagrees : agrees ignoreCase (bytes word) span = true) :
    firstByte? ignoreCase span = some first := by
  obtain ⟨⟨entry, hentry, rfl⟩, hhead⟩ := mem_wordsAt.mp hword
  rw [firstByte?_eq_head?, (agrees_iff hentry).mp hagrees, hhead]

theorem not_agrees_of_mem_wordsAt {other : UInt8} (hother : other ≠ first)
    (hword : word ∈ wordsAt other) (hspan : firstByte? ignoreCase span = some first) :
    agrees ignoreCase (bytes word) span = false := by
  rw [← Bool.not_eq_true]
  intro hagrees
  have hlookup := firstByte?_of_agrees hword hagrees
  rw [hspan, Option.some.injEq] at hlookup
  exact hother hlookup.symm

theorem eq_of_agrees {other : String} {otherFirst : UInt8} (hword : word ∈ wordsAt first)
    (hother : other ∈ wordsAt otherFirst) (hagrees : agrees ignoreCase (bytes word) span = true)
    (hotherAgrees : agrees ignoreCase (bytes other) span = true) : other = word := by
  obtain ⟨⟨entry, hentry, rfl⟩, -⟩ := mem_wordsAt.mp hword
  obtain ⟨⟨otherEntry, hotherEntry, rfl⟩, -⟩ := mem_wordsAt.mp hother
  exact eq_of_fold_eq ((agrees_iff hotherEntry).mp hotherAgrees) ((agrees_iff hentry).mp hagrees)

theorem countP_agreesAfterFirst_le_one (hspan : firstByte? ignoreCase span = some first) :
    (wordsAt first).countP (fun word => agreesAfterFirst ignoreCase (bytes word) span) ≤ 1 := by
  by_cases hfound : ∃ word ∈ wordsAt first, agreesAfterFirst ignoreCase (bytes word) span = true
  · obtain ⟨word, hword, hafter⟩ := hfound
    have hagrees := (agreesAfterFirst_of_mem_wordsAt hword hspan).mp hafter
    have honly : ∀ other ∈ wordsAt first,
        agreesAfterFirst ignoreCase (bytes other) span = true → (other == word) = true := by
      intro other hother hotherAfter
      have hotherAgrees := (agreesAfterFirst_of_mem_wordsAt hother hspan).mp hotherAfter
      exact beq_iff_eq.mpr (eq_of_agrees hword hother hagrees hotherAgrees)
    calc (wordsAt first).countP (fun word => agreesAfterFirst ignoreCase (bytes word) span)
      _ ≤ (wordsAt first).count word := List.countP_mono_left honly
      _ ≤ 1 := List.nodup_iff_count_le_one.mp (nodup_wordsAt first) word
  · have hzero : (wordsAt first).countP
        (fun word => agreesAfterFirst ignoreCase (bytes word) span) = 0 :=
      List.countP_eq_zero.mpr fun word hword hafter => hfound ⟨word, hword, hafter⟩
    omega

/-- **After the dispatch, what follows the first byte decides.** A span that is not empty is looked
up under its first byte, in upper case if case is ignored. For each reserved and each additional
keyword under that byte the comparison of what follows is the comparison of the whole spans, and
slices neither of them out of bounds. No keyword under any other byte agrees with the span, and
under its own byte at most one does. -/
theorem agreesAfterFirst_decides (ignoreCase : Bool) {span : List UInt8} (hspan : span ≠ []) :
    ∃ first, firstByte? ignoreCase span = some first ∧
      first = (if ignoreCase then upperByte (span.head hspan) else span.head hspan) ∧
      (∀ word ∈ wordsAt first,
        (agreesAfterFirst ignoreCase (bytes word) span = true ↔
          agrees ignoreCase (bytes word) span = true) ∧
        Checked.agreesAfterFirst ignoreCase (bytes word) span =
          .ok (agrees ignoreCase (bytes word) span)) ∧
      (∀ other, other ≠ first → ∀ word ∈ wordsAt other,
        agrees ignoreCase (bytes word) span = false) ∧
      (wordsAt first).countP
        (fun word => agreesAfterFirst ignoreCase (bytes word) span) ≤ 1 := by
  have hfirst : firstByte? ignoreCase span =
      some (if ignoreCase then upperByte (span.head hspan) else span.head hspan) := by
    rw [firstByte?, List.head?_eq_some_head hspan]
    rfl
  refine ⟨_, hfirst, rfl, ?_, ?_, countP_agreesAfterFirst_le_one hfirst⟩
  · intro word hword
    exact ⟨agreesAfterFirst_of_mem_wordsAt hword hfirst,
      checked_agreesAfterFirst_of_mem_wordsAt hword hfirst⟩
  · intro other hother word hword
    exact not_agrees_of_mem_wordsAt hother hword hfirst

/-- The theorem at the lower-case `on`, which is compared with `ON` but not with `IS`. -/
theorem agreesAfterFirst_decides_on :
    bytes "on" ≠ [] ∧
      ∃ first, firstByte? true (bytes "on") = some first ∧
        "ON" ∈ wordsAt first ∧ Checked.agreesAfterFirst true (bytes "ON") (bytes "on") = .ok true ∧
        0x49 ≠ first ∧ "IS" ∈ wordsAt 0x49 ∧ agrees true (bytes "IS") (bytes "on") = false := by
  have hspan : bytes "on" ≠ [] := by decide
  have hupper : firstByte? true (bytes "on") = some 0x4F := rfl
  obtain ⟨first, hfirst, -, hsame, hother, -⟩ := agreesAfterFirst_decides true hspan
  obtain rfl : 0x4F = first := Option.some.inj (hupper.symm.trans hfirst)
  have hon : "ON" ∈ wordsAt 0x4F := by decide
  have his : "IS" ∈ wordsAt 0x49 := by decide
  exact ⟨hspan, 0x4F, hfirst, hon, (hsame "ON" hon).2, by decide, his,
    hother 0x49 (by decide) "IS" his⟩

end SqlLexicon.Lexicon
