import SqlLexicon.Name.Simple
import SqlLexicon.Proofs.Lexicon.Lookup
/-!
# The language of simple names

A name is simple if it has the shape that unquoted names are folded to and is none of the 48
keywords as they are spelled.

* `canStart_iff`, `canContinue_iff` — the characters that a name may start and go on with, by
  their general categories, and `shaped_iff` — the shape that they give to a name;
* `upperByte_of_mem_bytes` — a name of good shape has no lower-case ASCII letter, so that folding
  changes nothing in it;
* `inspect_eq_simple_iff`, `isKeyword_exactPolicy_iff` — the two halves of the inspection;
* `isSimple_iff_language` — the language.
-/

namespace SqlLexicon

open Unicode

namespace CharClass

variable {c : Char}

/-! ## The characters of a name -/

theorem canStart_iff :
    (CharClass.of c).canStart = true ↔
      c = '_' ∨
        category c ∈ [.uppercaseLetter, .titlecaseLetter, .modifierLetter, .otherLetter] := by
  unfold CharClass.of
  by_cases hunderscore : c = '_'
  · simp [hunderscore, canStart]
  · rw [if_neg hunderscore, or_iff_right hunderscore]
    cases category c <;> simp [canStart]

theorem canContinue_iff :
    (CharClass.of c).canContinue = true ↔
      c = '_' ∨
        category c ∈ [.uppercaseLetter, .titlecaseLetter, .modifierLetter, .otherLetter,
          .decimalNumber] := by
  unfold CharClass.of
  by_cases hunderscore : c = '_'
  · simp [hunderscore, canContinue, canStart]
  · rw [if_neg hunderscore, or_iff_right hunderscore]
    cases category c <;> simp [canContinue, canStart]

/-- No lower-case ASCII letter continues a name. -/
theorem not_lower_of_canContinue (h : (CharClass.of c).canContinue = true) :
    ¬(0x61 ≤ c.toNat ∧ c.toNat ≤ 0x7A) := by
  intro hlower
  rcases canContinue_iff.mp h with hunderscore | hcategory
  · subst hunderscore
    revert hlower
    decide
  · rw [category_of_lowerAscii hlower] at hcategory
    revert hcategory
    decide

end CharClass

namespace Name

open Lexicon Text

/-! ## The shape of a name -/

/-- The characters are those of a name that needs no quotes, keyword or not. -/
def Shaped : List Char → Prop
  | [] => False
  | c :: chars =>
    (CharClass.of c).canStart = true ∧ ∀ d ∈ chars, (CharClass.of d).canContinue = true

theorem shaped_iff {chars : List Char} :
    Shaped chars ↔
      ∃ first rest, chars = first :: rest ∧
        (first = '_' ∨
          category first ∈ [.uppercaseLetter, .titlecaseLetter, .modifierLetter, .otherLetter]) ∧
        ∀ c ∈ rest, c = '_' ∨
          category c ∈ [.uppercaseLetter, .titlecaseLetter, .modifierLetter, .otherLetter,
            .decimalNumber] := by
  cases chars with
  | nil => simp [Shaped]
  | cons c chars => simp [Shaped, CharClass.canStart_iff, CharClass.canContinue_iff]

theorem Shaped.canContinue {chars : List Char} (h : Shaped chars) :
    ∀ c ∈ chars, (CharClass.of c).canContinue = true := by
  cases chars with
  | nil => contradiction
  | cons c chars =>
      intro d hd
      rcases List.mem_cons.mp hd with hfirst | hlater
      · subst hfirst
        exact CharClass.canContinue_of_canStart h.1
      · exact h.2 d hlater

theorem upperByte_of_mem_bytes {name : String} (h : Shaped name.toList) {b : UInt8}
    (hb : b ∈ bytes name) : upperByte b = b := by
  obtain ⟨c, hc, hbc⟩ := mem_bytes.mp hb
  rw [upperByte_eq_self_iff]
  by_cases hascii : c.toNat < 0x80
  · have hlower := CharClass.not_lower_of_canContinue (h.canContinue c hc)
    rw [utf8EncodeChar_of_lt hascii, List.mem_singleton] at hbc
    rw [hbc, UInt8.toNat_ofNat']
    omega
  · have hbyte := le_of_mem_utf8EncodeChar (Nat.le_of_not_lt hascii) hbc
    omega

/-- A name of good shape is its own canonical form under every policy. -/
theorem fold_bytes_of_shaped {name : String} (h : Shaped name.toList) (ignoreCase : Bool) :
    fold ignoreCase (bytes name) = bytes name := by
  apply fold_eq_self
  intro b hb
  exact upperByte_of_mem_bytes h hb

/-! ## The inspection -/

theorem inspect_eq_simple_iff {name : String} :
    inspect name = .simple ↔ Shaped name.toList ∧ exactPolicy.isKeyword name = false := by
  unfold inspect
  cases hname : name.toList with
  | nil => simp [Shaped]
  | cons c chars =>
      by_cases hstart : (CharClass.of c).canStart = true
      · simp only [Shaped, hstart, if_true, true_and]
        cases hoffender : firstOffender? c.utf8Size chars with
        | none =>
            have hchars := firstOffender?_eq_none_iff.mp hoffender
            rw [and_iff_right hchars]
            cases exactPolicy.isKeyword name <;> simp
        | some offender =>
            have hchars : ¬∀ d ∈ chars, (CharClass.of d).canContinue = true := by
              intro hall
              rw [firstOffender?_eq_none_iff.mpr hall] at hoffender
              cases hoffender
            simp [hchars]
      · simp [Shaped, hstart]

/-- The policy by which names are inspected counts every keyword, exactly as it is spelled. -/
theorem spells_exactPolicy_iff {span : List UInt8} {entry : Entry} :
    exactPolicy.Spells span entry ↔ span = bytes entry.spelling := by
  have hadmits : exactPolicy.admits entry.token = true := by
    cases entry.token <;> rfl
  rw [Policy.Spells, and_iff_right hadmits]
  rfl

theorem isKeyword_exactPolicy_iff {name : String} :
    exactPolicy.isKeyword name = true ↔ ∃ entry ∈ entries, bytes name = bytes entry.spelling := by
  simp only [isKeyword_iff_spells, spells_exactPolicy_iff]

theorem isSimple_iff_shaped {name : String} :
    isSimple name = true ↔
      Shaped name.toList ∧ ∀ entry ∈ entries, bytes name ≠ bytes entry.spelling := by
  rw [isSimple_iff, inspect_eq_simple_iff, ← Bool.not_eq_true, isKeyword_exactPolicy_iff]
  simp only [not_exists, not_and, ne_eq]

/-- **The language of simple names.** A name is simple exactly if it is not empty, starts with an
underscore or a letter of the general categories `Lu`, `Lt`, `Lm` and `Lo`, goes on with these and
with decimal numbers of the category `Nd`, and is byte for byte none of the keywords. -/
theorem isSimple_iff_language (name : String) :
    isSimple name = true ↔
      (∃ first rest, name.toList = first :: rest ∧
        (first = '_' ∨
          category first ∈ [.uppercaseLetter, .titlecaseLetter, .modifierLetter, .otherLetter]) ∧
        ∀ c ∈ rest, c = '_' ∨
          category c ∈ [.uppercaseLetter, .titlecaseLetter, .modifierLetter, .otherLetter,
            .decimalNumber]) ∧
      (∀ word : Reserved, bytes name ≠ bytes word.spelling) ∧
      ∀ word ∈ additionalSpellings, bytes name ≠ bytes word := by
  rw [isSimple_iff_shaped, shaped_iff, forall_mem_entries]

/-- Letters of other scripts start a name, digits of other scripts only continue it, and neither
lower-case letters nor other kinds of number do. -/
example :
    ["日本", "表_1", "ǅX", "ʰA", "ÉTÉ", "A٣", "٣A", "été", "Straße", "AⅫ", "A½"].map isSimple =
      [true, true, true, true, true, true, false, false, false, false, false] := by
  decide +kernel

end Name

end SqlLexicon
