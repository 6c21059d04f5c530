import SqlLexicon.Proofs.Lexicon.CasePolicy
import SqlLexicon.Proofs.Name.Language
/-!
# A text of good shape has one case

Names are inspected in exact case. A policy that ignores case would not find more keywords among
them, because a text of good shape has no lower-case ASCII letter that could be folded.

* `fold_bytes_of_wellShaped` — such a text is its own canonical form under every policy;
* `classify_of_wellShaped` — so its token depends on whether additional keywords count, and not on
  whether case does;
* `eq_of_wellShaped` — two such texts that are equal up to ASCII case are the same text;
* `isSimple_iff_not_isKeyword` — hence a name is simple exactly if it is not empty, has a good shape
  and is no keyword to the policy that admits the most.
-/

namespace SqlLexicon.Name

open Lexicon Text

/-- The first character can start a name and the later ones can go on with it. The empty text has
no character that cannot. -/
def WellShaped (chars : List Char) : Prop :=
  (∀ c ∈ chars.head?, (CharClass.of c).canStart = true) ∧
    ∀ c ∈ chars.tail, (CharClass.of c).canContinue = true

variable {name : String}

theorem shaped_iff_wellShaped : Shaped name.toList ↔ name ≠ "" ∧ WellShaped name.toList := by
  rw [ne_eq, ← String.toList_eq_nil_iff]
  cases name.toList with
  | nil => simp [Shaped]
  | cons c chars => simp [Shaped, WellShaped]

/-! ## Folding -/

theorem fold_bytes_of_wellShaped (h : WellShaped name.toList) (ignoreCase : Bool) :
    fold ignoreCase (bytes name) = bytes name := by
  by_cases hname : name = ""
  · rw [hname]
    cases ignoreCase <;> rfl
  · exact fold_bytes_of_shaped (shaped_iff_wellShaped.mpr ⟨hname, h⟩) ignoreCase

theorem toUpper_of_wellShaped (h : WellShaped name.toList) : name.toUpper = name := by
  rw [← bytes_inj, bytes_toUpper]
  exact fold_bytes_of_wellShaped h true

theorem eq_of_wellShaped {other : String} (h : WellShaped name.toList)
    (hother : WellShaped other.toList)
    (hequal : equalIgnoringCase (bytes name) (bytes other) = true) : name = other := by
  rw [← bytes_inj]
  calc bytes name
    _ = fold true (bytes name) := (fold_bytes_of_wellShaped h true).symm
    _ = fold true (bytes other) := equalIgnoringCase_iff.mp hequal
    _ = bytes other := fold_bytes_of_wellShaped hother true

/-! ## Classification -/

variable {policy other : Policy}

theorem classify_of_wellShaped (h : WellShaped name.toList)
    (hadditional : policy.additionalKeywords = other.additionalKeywords) :
    policy.classify name = other.classify name := by
  apply classifyBytes_eq_of_fold_eq hadditional
  rw [fold_bytes_of_wellShaped h, fold_bytes_of_wellShaped h]

/-- A text of good shape is classified alike in any case, wherever it stands in a statement. -/
theorem classifyRange_of_wellShaped (h : WellShaped name.toList)
    (hadditional : policy.additionalKeywords = other.additionalKeywords) (before after : String) :
    policy.classifyRange (before ++ name ++ after) before.utf8ByteSize
        (before.utf8ByteSize + name.utf8ByteSize) =
      other.classifyRange (before ++ name ++ after) before.utf8ByteSize
        (before.utf8ByteSize + name.utf8ByteSize) := by
  have hclassify : policy.classifyBytes (bytes name) = other.classifyBytes (bytes name) :=
    classify_of_wellShaped h hadditional
  rw [Policy.classifyRange, Policy.classifyRange, bytesBetween_append, hclassify]

theorem isSimple_iff_wellShaped :
    isSimple name = true ↔
      name ≠ "" ∧ WellShaped name.toList ∧ Policy.isKeyword ⟨true, true⟩ name = false := by
  rw [isSimple_iff, inspect_eq_simple_iff, shaped_iff_wellShaped, and_assoc]
  apply and_congr_right
  intro _
  apply and_congr_right
  intro hshape
  -- The two policies differ in nothing but the case.
  have hclassify : exactPolicy.classify name = Policy.classify ⟨true, true⟩ name :=
    classify_of_wellShaped hshape rfl
  rw [Policy.isKeyword, Policy.isKeyword, hclassify]

/-- **Inspecting names in exact case loses nothing.** A text of good shape, keyword or not, is its
own upper-case form, and has one token in exact case and in any case, wherever it stands. So a
name is simple exactly if it is not empty, has a good shape and is no keyword to the policy that
ignores case and counts every keyword; and of two different names that are equal up to ASCII case,
one is not simple. -/
theorem isSimple_iff_not_isKeyword (name : String) :
    (WellShaped name.toList →
      name.toUpper = name ∧
      ∀ additionalKeywords,
        Policy.classify ⟨true, additionalKeywords⟩ name =
          Policy.classify ⟨false, additionalKeywords⟩ name ∧
        ∀ before after : String,
          Policy.classifyRange ⟨true, additionalKeywords⟩ (before ++ name ++ after)
              before.utf8ByteSize (before.utf8ByteSize + name.utf8ByteSize) =
            Policy.classifyRange ⟨false, additionalKeywords⟩ (before ++ name ++ after)
              before.utf8ByteSize (before.utf8ByteSize + name.utf8ByteSize)) ∧
    (isSimple name = true ↔
      name ≠ "" ∧ WellShaped name.toList ∧ Policy.isKeyword ⟨true, true⟩ name = false) ∧
    ∀ other, equalIgnoringCase (bytes name) (bytes other) = true → name ≠ other →
      ¬(isSimple name = true ∧ isSimple other = true) := by
  refine ⟨?_, isSimple_iff_wellShaped, ?_⟩
  · intro hshape
    refine ⟨toUpper_of_wellShaped hshape, ?_⟩
    intro additionalKeywords
    refine ⟨classify_of_wellShaped hshape rfl, ?_⟩
    intro before after
    apply classifyRange_of_wellShaped hshape
    rfl
  · intro other hequal hne hboth
    have hname := (isSimple_iff_wellShaped.mp hboth.1).2.1
    have hother := (isSimple_iff_wellShaped.mp hboth.2).2.1
    exact hne (eq_of_wellShaped hname hother hequal)

/-- The theorem at a keyword of good shape that only additional keywords make one, and at two names
that differ in the case of one letter. -/
theorem isSimple_iff_not_isKeyword_top :
    WellShaped "TOP".toList ∧
      Policy.classify ⟨true, true⟩ "TOP" = Policy.classify ⟨false, true⟩ "TOP" ∧
      isSimple "TOP" = false ∧
      equalIgnoringCase (bytes "É_X") (bytes "É_x") = true ∧ "É_X" ≠ "É_x" ∧
      ¬(isSimple "É_X" = true ∧ isSimple "É_x" = true) := by
  have hshape : WellShaped "TOP".toList := by
    constructor
    · intro c hc
      cases hc
      decide
    · exact List.all_eq_true.mp (by decide)
  have hequal : equalIgnoringCase (bytes "É_X") (bytes "É_x") = true := by decide
  have hne : "É_X" ≠ "É_x" := by decide
  obtain ⟨hclassify, hsimple, -⟩ := isSimple_iff_not_isKeyword "TOP"
  obtain ⟨-, -, hdifferent⟩ := isSimple_iff_not_isKeyword "É_X"
  have hkeyword : isSimple "TOP" = false := by
    rw [← Bool.not_eq_true, hsimple]
    intro h
    exact absurd h.2.2 (by decide)
  exact ⟨hshape, ((hclassify hshape).2 true).1, hkeyword, hequal, hne,
    hdifferent "É_x" hequal hne⟩

end SqlLexicon.Name
