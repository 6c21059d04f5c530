import SqlLexicon.Proofs.Lexicon.CasePolicy
/-!
# The published list names the keywords

The list is built by a walk over the index, and a word is recognised by a dispatch on its first
byte. Both come to the spellings of the table.

* `perm_words` — the walk meets each spelling once;
* `fields_keywordList` — no spelling holds a comma, so the fields of the list are the sorted words;
* `bytes_lt_of_lt` — the order of ASCII texts is the order of their bytes;
* `keywordList_lists_keywords` — the list holds exactly the words that are recognised, in strictly
  ascending order.
-/

namespace SqlLexicon

namespace Text

theorem flatMap_utf8EncodeChar_lt {s t : List Char} (hs : ∀ c ∈ s, c.toNat < 0x80)
    (ht : ∀ c ∈ t, c.toNat < 0x80) (h : s < t) :
    s.flatMap String.utf8EncodeChar < t.flatMap String.utf8EncodeChar := by
  induction s generalizing t with
  | nil =>
      cases t with
      | nil => cases h
      | cons d t =>
          rw [List.flatMap_cons, utf8EncodeChar_of_lt (ht d List.mem_cons_self)]
          exact List.nil_lt_cons _ _
  | cons c s ih =>
      cases t with
      | nil => cases h
      | cons d t =>
          have hc := hs c List.mem_cons_self
          have hd := ht d List.mem_cons_self
          rw [List.flatMap_cons, List.flatMap_cons, utf8EncodeChar_of_lt hc,
            utf8EncodeChar_of_lt hd, List.singleton_append, List.singleton_append,
            List.cons_lt_cons_iff]
          rcases List.cons_lt_cons_iff.mp h with hlt | ⟨rfl, hlt⟩
          · left
            have hcd : c.toNat < d.toNat := hlt
            rw [UInt8.lt_iff_toNat_lt, UInt8.toNat_ofNat', UInt8.toNat_ofNat']
            omega
          · right
            refine ⟨rfl, ih ?_ ?_ hlt⟩
            · intro e he
              exact hs e (List.mem_cons_of_mem c he)
            · intro e he
              exact ht e (List.mem_cons_of_mem c he)

/-- The order of ASCII texts is the order of their bytes. -/
theorem bytes_lt_of_lt {s t : String} (hs : ∀ b ∈ bytes s, b.toNat < 0x80)
    (ht : ∀ b ∈ bytes t, b.toNat < 0x80) (h : s < t) : bytes s < bytes t :=
  flatMap_utf8EncodeChar_lt (toNat_lt_of_mem_toList hs) (toNat_lt_of_mem_toList ht) h

end Text

open Text

namespace Lexicon

/-! ## The walk over the index -/

theorem perm_reservedWords : reservedWords.Perm (Reserved.all.map Reserved.spelling) := by
  decide

theorem mem_reservedWords {word : String} :
    word ∈ reservedWords ↔ ∃ keyword : Reserved, keyword.spelling = word := by
  rw [perm_reservedWords.mem_iff, List.mem_map]
  simp [Reserved.mem_all]

/-- The walk meets every spelling of the table once. -/
theorem perm_words : (reservedWords ++ additionalWords).Perm spellings := by
  have hspellings : spellings = Reserved.all.map Reserved.spelling ++ additionalSpellings := rfl
  rw [hspellings]
  exact perm_reservedWords.append perm_additionalWords

/-! ## The list -/

theorem perm_sortedWords : sortedWords.Perm spellings :=
  (List.mergeSort_perm _ _).trans perm_words

theorem isSpellingByte_of_mem_sortedWords {word : String} (hword : word ∈ sortedWords)
    {b : UInt8} (hb : b ∈ bytes word) : isSpellingByte b = true := by
  obtain ⟨entry, hentry, rfl⟩ := List.mem_map.mp (perm_sortedWords.mem_iff.mp hword)
  exact isSpellingByte_of_mem hentry hb

theorem fields_keywordList : fields keywordList = sortedWords := by
  apply fields_joinFields
  · intro hnil
    have hlength := perm_sortedWords.length_eq
    rw [hnil] at hlength
    cases hlength
  · intro word hword hcomma
    have hbyte := mem_bytes_of_mem hcomma (by decide)
    have hspelling := isSpellingByte_of_mem_sortedWords hword hbyte
    revert hspelling
    decide

theorem nodup_sortedWords : sortedWords.Nodup :=
  perm_sortedWords.nodup_iff.mpr nodup_spellings

theorem pairwise_sortedWords : sortedWords.Pairwise fun v w => bytes v < bytes w := by
  have hle : sortedWords.Pairwise fun v w => decide (v ≤ w) = true := by
    apply List.pairwise_mergeSort
    · intro u v w huv hvw
      rw [decide_eq_true_eq] at huv hvw ⊢
      exact String.le_trans huv hvw
    · intro v w
      rw [Bool.or_eq_true, decide_eq_true_eq, decide_eq_true_eq]
      exact String.le_total v w
  have hboth := hle.and nodup_sortedWords
  apply hboth.imp_of_mem
  intro v w hv hw hvw
  have hlt : v < w := by
    apply String.not_le.mp
    intro hwv
    exact hvw.2 (String.le_antisymm (of_decide_eq_true hvw.1) hwv)
  apply bytes_lt_of_lt _ _ hlt
  · intro b hb
    exact toNat_lt_of_isSpellingByte (isSpellingByte_of_mem_sortedWords hv hb)
  · intro b hb
    exact toNat_lt_of_isSpellingByte (isSpellingByte_of_mem_sortedWords hw hb)

/-! ## The words that are recognised -/

variable {word : String}

theorem classify_exact_eq_reserved_iff {keyword : Reserved} :
    Policy.classify ⟨false, true⟩ word = .reserved keyword ↔ keyword.spelling = word := by
  rw [Policy.classify, classifyBytes_eq_reserved_iff, eq_comm (a := keyword.spelling)]
  exact bytes_inj

theorem classify_exact_eq_additional_iff :
    Policy.classify ⟨false, true⟩ word = .additional ↔ word ∈ additionalWords := by
  rw [Policy.classify, classifyBytes_eq_additional_iff, mem_additionalWords]
  simp [fold, bytes_inj]

theorem mem_fields_keywordList_iff :
    word ∈ fields keywordList ↔ Policy.classify ⟨false, true⟩ word ≠ .identifier := by
  have hmem : word ∈ fields keywordList ↔ word ∈ reservedWords ∨ word ∈ additionalWords := by
    rw [fields_keywordList, perm_sortedWords.mem_iff, ← perm_words.mem_iff, List.mem_append]
  rw [hmem, mem_reservedWords, ← classify_exact_eq_additional_iff]
  simp only [← classify_exact_eq_reserved_iff]
  cases Policy.classify ⟨false, true⟩ word <;> simp

end Lexicon

open Lexicon

/-- **The keyword list and the lookup name the same words.** A word is a field of the published
list exactly if the strict lookup with additional keywords finds it, as one of the reserved words
if it is their own spelling and as an additional keyword if it is one of those; ignoring case, a
word is a keyword exactly if its upper-case form is a field. The fields are in strictly ascending
order of their bytes, so that no word is listed twice. -/
theorem keywordList_lists_keywords :
    (∀ word : String,
      (word ∈ fields keywordList ↔ Policy.classify ⟨false, true⟩ word ≠ .identifier) ∧
      (word ∈ reservedWords ↔
        ∃ keyword : Reserved, Policy.classify ⟨false, true⟩ word = .reserved keyword ∧
          keyword.spelling = word) ∧
      (word ∈ additionalWords ↔ Policy.classify ⟨false, true⟩ word = .additional) ∧
      (Policy.isKeyword ⟨true, true⟩ word = true ↔ word.toUpper ∈ fields keywordList)) ∧
    (fields keywordList).Nodup ∧
    (fields keywordList).Pairwise fun v w => bytes v < bytes w := by
  refine ⟨?_, ?_, ?_⟩
  · intro word
    refine ⟨mem_fields_keywordList_iff, ?_, classify_exact_eq_additional_iff.symm, ?_⟩
    · simp only [mem_reservedWords, classify_exact_eq_reserved_iff, and_self]
    · rw [Policy.isKeyword_iff, classify_toUpper, mem_fields_keywordList_iff]
  · rw [fields_keywordList]
    exact nodup_sortedWords
  · rw [fields_keywordList]
    exact pairwise_sortedWords

end SqlLexicon
