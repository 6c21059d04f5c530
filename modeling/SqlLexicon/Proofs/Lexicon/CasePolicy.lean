import SqlLexicon.Proofs.Lexicon.Scan
/-!
# Ignoring case is folding ASCII letters

Case is folded in two places, for the dispatch by first letter and for the comparison of what
follows it. Together they are one folding of the whole span.

* `classifyBytes_eq_of_fold_eq` — a token depends on nothing but the canonical form of its span
  and on whether additional keywords count;
* `classifyRange_ignoringCase` — spans that are equal up to ASCII case have one token, wherever
  they stand, and it is the token of the upper-cased text in exact case.
-/

namespace SqlLexicon

open Lexicon Text

/-- Policies that count the same keywords answer alike on spans with one canonical form. -/
theorem classifyBytes_eq_of_fold_eq {policy other : Policy} {span otherSpan : List UInt8}
    (hadditional : policy.additionalKeywords = other.additionalKeywords)
    (hfold : fold policy.ignoreCase span = fold other.ignoreCase otherSpan) :
    policy.classifyBytes span = other.classifyBytes otherSpan := by
  have hspells : ∀ entry : Entry, policy.Spells span entry ↔ other.Spells otherSpan entry := by
    intro entry
    have hadmits : policy.admits entry.token = other.admits entry.token := by
      cases entry.token with
      | additional => exact hadditional
      | _ => rfl
    rw [Policy.Spells, Policy.Spells, hadmits, hfold]
  apply token_eq_of_forall
  intro token htoken
  rw [classifyBytes_eq_iff htoken, classifyBytes_eq_iff htoken]
  simp only [hspells]

theorem classify_toUpper (additionalKeywords : Bool) (word : String) :
    Policy.classify ⟨true, additionalKeywords⟩ word =
      Policy.classify ⟨false, additionalKeywords⟩ word.toUpper := by
  rw [Policy.classify, Policy.classify, bytes_toUpper]
  exact classifyBytes_eq_of_fold_eq rfl rfl

theorem bytesBetween_toUpper (text : String) (start stop : Nat) :
    bytesBetween text.toUpper start stop = (bytesBetween text start stop).map upperByte := by
  rw [bytesBetween, bytesBetween, bytes_toUpper, List.map_take, List.map_drop]

theorem classifyRange_toUpper (additionalKeywords : Bool) (text : String) (start stop : Nat) :
    Policy.classifyRange ⟨true, additionalKeywords⟩ text start stop =
      Policy.classifyRange ⟨false, additionalKeywords⟩ text.toUpper start stop := by
  by_cases hrange : start < stop ∧ stop ≤ text.utf8ByteSize
  · have hupper : start < stop ∧ stop ≤ text.toUpper.utf8ByteSize := by
      rw [utf8ByteSize_toUpper]
      exact hrange
    rw [Policy.classifyRange_of_inBounds _ hrange, Policy.classifyRange_of_inBounds _ hupper,
      bytesBetween_toUpper]
    exact congrArg Except.ok (classifyBytes_eq_of_fold_eq rfl rfl)
  · have hupper : ¬(start < stop ∧ stop ≤ text.toUpper.utf8ByteSize) := by
      rw [utf8ByteSize_toUpper]
      exact hrange
    rw [Policy.classifyRange_of_outOfBounds _ hrange, Policy.classifyRange_of_outOfBounds _ hupper,
      utf8ByteSize_toUpper]

/-- **Ignoring case is folding ASCII letters and nothing else.** Two ranges in bounds, each
anywhere in a text of its own, have one token if their bytes are equal up to ASCII case, and are
one reserved keyword only if they are; and the token of a range of a text is its token in exact
case in the upper-cased text. -/
theorem classifyRange_ignoringCase (additionalKeywords : Bool) :
    (∀ (text : String) (start stop : Nat) (other : String) (otherStart otherStop : Nat),
      start < stop ∧ stop ≤ text.utf8ByteSize →
      otherStart < otherStop ∧ otherStop ≤ other.utf8ByteSize →
      equalIgnoringCase (bytesBetween text start stop)
          (bytesBetween other otherStart otherStop) = true →
        ∃ token,
          Policy.classifyRange ⟨true, additionalKeywords⟩ text start stop = .ok token ∧
          Policy.classifyRange ⟨true, additionalKeywords⟩ other otherStart otherStop =
            .ok token) ∧
    (∀ (text : String) (start stop : Nat) (other : String) (otherStart otherStop : Nat)
      (word : Reserved),
      Policy.classifyRange ⟨true, additionalKeywords⟩ text start stop = .ok (.reserved word) →
      Policy.classifyRange ⟨true, additionalKeywords⟩ other otherStart otherStop =
          .ok (.reserved word) →
        equalIgnoringCase (bytesBetween text start stop)
          (bytesBetween other otherStart otherStop) = true) ∧
    ∀ (text : String) (start stop : Nat),
      start < stop ∧ stop ≤ text.utf8ByteSize →
        ∃ token,
          Policy.classifyRange ⟨true, additionalKeywords⟩ text start stop = .ok token ∧
          Policy.classifyRange ⟨false, additionalKeywords⟩ text.toUpper start stop =
            .ok token := by
  refine ⟨?_, ?_, ?_⟩
  · intro text start stop other otherStart otherStop hrange hother hequal
    have hfold := equalIgnoringCase_iff.mp hequal
    refine ⟨_, Policy.classifyRange_of_inBounds _ hrange, ?_⟩
    rw [Policy.classifyRange_of_inBounds _ hother]
    exact congrArg Except.ok (classifyBytes_eq_of_fold_eq rfl hfold.symm)
  · intro text start stop other otherStart otherStop word hword hother
    have hfold := classifyBytes_eq_reserved_iff.mp (Policy.classifyRange_eq_ok_iff.mp hword).2
    have hotherfold :=
      classifyBytes_eq_reserved_iff.mp (Policy.classifyRange_eq_ok_iff.mp hother).2
    exact equalIgnoringCase_iff.mpr (hfold.trans hotherfold.symm)
  · intro text start stop hrange
    refine ⟨_, Policy.classifyRange_of_inBounds _ hrange, ?_⟩
    rw [← classifyRange_toUpper]
    exact Policy.classifyRange_of_inBounds _ hrange

/-- The theorem at two spellings of one keyword, of which one stands after a two-byte character
and the other inside a statement. -/
theorem classifyRange_ignoringCase_natural :
    (2 < 9 ∧ 9 ≤ "Énatural".utf8ByteSize) ∧ (2 < 9 ∧ 9 ≤ "a NaTURal join".utf8ByteSize) ∧
      equalIgnoringCase (bytesBetween "Énatural" 2 9) (bytesBetween "a NaTURal join" 2 9) = true ∧
      ∃ token, Policy.classifyRange ⟨true, false⟩ "Énatural" 2 9 = .ok token ∧
        Policy.classifyRange ⟨true, false⟩ "a NaTURal join" 2 9 = .ok token := by
  have hrange : 2 < 9 ∧ 9 ≤ "Énatural".utf8ByteSize := by decide
  have hother : 2 < 9 ∧ 9 ≤ "a NaTURal join".utf8ByteSize := by decide
  have hequal : equalIgnoringCase (bytesBetween "Énatural" 2 9)
      (bytesBetween "a NaTURal join" 2 9) = true := by decide
  have halike := (classifyRange_ignoringCase false).1
  exact ⟨hrange, hother, hequal, halike _ 2 9 _ 2 9 hrange hother hequal⟩

end SqlLexicon
