import Mathlib.Data.List.Nodup
import SqlLexicon.Lexicon.Scan
import SqlLexicon.Proofs.Text.AsciiCase
/-!
# What it means to spell a keyword

The spellings of the keywords are upper-case ASCII and pairwise different. Hence a span agrees
with a spelling exactly if its canonical form is that spelling (`agrees_iff`), and a span spells
at most one keyword (`eq_of_spells`). Neither depends on the order of a table.
-/

namespace SqlLexicon

namespace Lexicon

open Text

/-- The bytes that spellings are made of: the upper-case ASCII letters and the underscore. -/
def isSpellingByte (b : UInt8) : Bool :=
  (0x41 ≤ b && b ≤ 0x5A) || b == 0x5F

/-! ## The table -/

theorem isSpellingByte_of_mem {entry : Entry} (hentry : entry ∈ entries) {b : UInt8}
    (hb : b ∈ bytes entry.spelling) : isSpellingByte b = true := by
  have hall : ∀ entry ∈ entries, (bytes entry.spelling).all isSpellingByte = true := by
    decide
  exact List.all_eq_true.mp (hall entry hentry) b hb

theorem nodup_spellings : spellings.Nodup := by
  decide

theorem eq_of_spelling_eq {v w : Entry} (hv : v ∈ entries) (hw : w ∈ entries)
    (h : v.spelling = w.spelling) : v = w :=
  List.inj_on_of_nodup_map nodup_spellings hv hw h

theorem mem_entries_reserved (word : Reserved) :
    (⟨word.spelling, .reserved word⟩ : Entry) ∈ entries := by
  apply List.mem_append_left
  exact List.mem_map.mpr ⟨word, Reserved.mem_all word, rfl⟩

theorem mem_entries_additional {word : String} :
    (⟨word, .additional⟩ : Entry) ∈ entries ↔ word ∈ additionalSpellings := by
  simp [entries]

theorem mem_entries {entry : Entry} :
    entry ∈ entries ↔
      (∃ word, entry = ⟨word.spelling, .reserved word⟩) ∨
        ∃ word ∈ additionalSpellings, entry = ⟨word, .additional⟩ := by
  simp [entries, Reserved.mem_all, eq_comm]

theorem forall_mem_entries {p : Entry → Prop} :
    (∀ entry ∈ entries, p entry) ↔
      (∀ word : Reserved, p ⟨word.spelling, .reserved word⟩) ∧
        ∀ word ∈ additionalSpellings, p ⟨word, .additional⟩ := by
  constructor
  · intro h
    refine ⟨?_, ?_⟩
    · intro word
      exact h _ (mem_entries_reserved word)
    · intro word hmem
      exact h _ (mem_entries_additional.mpr hmem)
  · intro h entry hentry
    obtain ⟨word, rfl⟩ | ⟨word, hmem, rfl⟩ := mem_entries.mp hentry
    · exact h.1 word
    · exact h.2 word hmem

theorem token_ne_identifier {entry : Entry} (hentry : entry ∈ entries) :
    entry.token ≠ .identifier := by
  obtain ⟨word, rfl⟩ | ⟨word, hmem, rfl⟩ := mem_entries.mp hentry <;> simp

/-- No reserved keyword is spelled as an additional one. -/
theorem spelling_ne_additional {word : String} (hword : word ∈ additionalSpellings)
    (keyword : Reserved) : keyword.spelling ≠ word := by
  intro hspelling
  have hsame := eq_of_spelling_eq (mem_entries_reserved keyword)
    (mem_entries_additional.mpr hword) hspelling
  simp at hsame

/-! ## Comparison with a spelling -/

theorem upperByte_of_isSpellingByte {b : UInt8} (h : isSpellingByte b = true) :
    upperByte b = b := by
  simp only [isSpellingByte, Bool.or_eq_true, Bool.and_eq_true, decide_eq_true_eq, beq_iff_eq,
    UInt8.le_iff_toNat_le, UInt8.reduceToNat] at h
  rw [upperByte_eq_self_iff]
  rcases h with hletter | rfl
  · omega
  · decide

theorem toNat_lt_of_isSpellingByte {b : UInt8} (h : isSpellingByte b = true) :
    b.toNat < 0x80 := by
  simp only [isSpellingByte, Bool.or_eq_true, Bool.and_eq_true, decide_eq_true_eq, beq_iff_eq,
    UInt8.le_iff_toNat_le, UInt8.reduceToNat] at h
  rcases h with hletter | rfl
  · omega
  · decide

theorem fold_spelling {entry : Entry} (hentry : entry ∈ entries) (ignoreCase : Bool) :
    fold ignoreCase (bytes entry.spelling) = bytes entry.spelling :=
  fold_eq_self fun _ hb => upperByte_of_isSpellingByte (isSpellingByte_of_mem hentry hb)

theorem agrees_iff {entry : Entry} (hentry : entry ∈ entries) {ignoreCase : Bool}
    {span : List UInt8} :
    agrees ignoreCase (bytes entry.spelling) span = true ↔
      fold ignoreCase span = bytes entry.spelling := by
  rw [agrees, beq_iff_eq, fold_spelling hentry, eq_comm]

/-- A canonical form is the spelling of one word. -/
theorem eq_of_fold_eq {ignoreCase : Bool} {span : List UInt8} {v w : String}
    (hv : fold ignoreCase span = bytes v) (hw : fold ignoreCase span = bytes w) : v = w :=
  bytes_inj.mp (hv.symm.trans hw)

end Lexicon

open Lexicon Text

/-- The span spells a keyword that the policy admits. -/
def Policy.Spells (policy : Policy) (span : List UInt8) (entry : Entry) : Prop :=
  policy.admits entry.token = true ∧ fold policy.ignoreCase span = bytes entry.spelling

variable {policy : Policy} {span : List UInt8}

theorem spells_iff_agrees {entry : Entry} (hentry : entry ∈ entries) :
    policy.Spells span entry ↔
      (policy.admits entry.token && agrees policy.ignoreCase (bytes entry.spelling) span) =
        true := by
  rw [Bool.and_eq_true, agrees_iff hentry, Policy.Spells]

theorem spells_reserved_iff {word : Reserved} :
    policy.Spells span ⟨word.spelling, .reserved word⟩ ↔
      fold policy.ignoreCase span = bytes word.spelling := by
  simp [Policy.Spells, Policy.admits]

theorem spells_additional_iff {word : String} :
    policy.Spells span ⟨word, .additional⟩ ↔
      policy.additionalKeywords = true ∧ fold policy.ignoreCase span = bytes word := by
  simp [Policy.Spells, Policy.admits]

/-- A span spells at most one keyword. -/
theorem eq_of_spells {v w : Entry} (hv : v ∈ entries) (hw : w ∈ entries)
    (hspellsv : policy.Spells span v) (hspellsw : policy.Spells span w) : v = w := by
  apply eq_of_spelling_eq hv hw
  exact eq_of_fold_eq hspellsv.2 hspellsw.2

end SqlLexicon
