import SqlLexicon.Text.Bytes
/-!
# Cutting a text at a byte offset

A text can be cut at a byte offset exactly when some prefix of it takes that many bytes, that is,
when the offset does not fall inside a character. `cutAt?_eq_some_iff` says so: the cut, where it
exists, is the only way to write the text as two parts of which the first has the given length.
-/

namespace SqlLexicon.Text

/-- Splits off the characters that take exactly `n` bytes, if a character ends there. -/
def cutChars? : Nat → List Char → Option (List Char × List Char)
  | 0, chars => some ([], chars)
  | _ + 1, [] => none
  | n + 1, c :: chars =>
    if c.utf8Size ≤ n + 1 then
      (cutChars? (n + 1 - c.utf8Size) chars).map fun (front, back) => (c :: front, back)
    else none

/-- The parts of a text before and after a byte offset, if it is a character boundary. -/
def cutAt? (text : String) (offset : Nat) : Option (String × String) :=
  (cutChars? offset text.toList).map fun (front, back) =>
    (String.ofList front, String.ofList back)

/-- An offset of a text that does not fall inside a character or beyond the end. -/
def IsBoundary (text : String) (offset : Nat) : Prop :=
  (cutAt? text offset).isSome = true

instance (text : String) (offset : Nat) : Decidable (IsBoundary text offset) :=
  inferInstanceAs (Decidable (_ = true))

theorem cutChars?_eq_some_iff {n : Nat} {chars front back : List Char} :
    cutChars? n chars = some (front, back) ↔ chars = front ++ back ∧ byteLength front = n := by
  induction chars generalizing n front with
  | nil =>
      cases n with
      | zero =>
          simp only [cutChars?, Option.some.injEq, Prod.mk.injEq]
          constructor
          · intro hparts
            obtain ⟨rfl, rfl⟩ := hparts
            simp
          · intro hparts
            have hnil := List.append_eq_nil_iff.mp hparts.1.symm
            simp [hnil]
      | succ n =>
          simp only [cutChars?, reduceCtorEq, false_iff, not_and]
          intro hnil
          have h := List.append_eq_nil_iff.mp hnil.symm
          simp [h]
  | cons c chars ih =>
      have hpos := c.utf8Size_pos
      cases n with
      | zero =>
          simp only [cutChars?, Option.some.injEq, Prod.mk.injEq, byteLength_eq_zero]
          constructor
          · intro hparts
            obtain ⟨rfl, rfl⟩ := hparts
            simp
          · intro hparts
            obtain ⟨hcut, rfl⟩ := hparts
            simpa using hcut
      | succ n =>
          simp only [cutChars?]
          split
          · rename_i hfits
            simp only [Option.map_eq_some_iff, Prod.exists, Prod.mk.injEq]
            constructor
            · intro hparts
              obtain ⟨front', back', hcut, rfl, rfl⟩ := hparts
              obtain ⟨rfl, hlength⟩ := ih.mp hcut
              refine ⟨rfl, ?_⟩
              simp only [byteLength_cons]
              omega
            · intro hparts
              obtain ⟨hcut, hlength⟩ := hparts
              cases front with
              | nil => simp at hlength
              | cons d front =>
                  simp only [List.cons_append, List.cons.injEq] at hcut
                  obtain ⟨rfl, rfl⟩ := hcut
                  simp only [byteLength_cons] at hlength
                  exact ⟨front, back, ih.mpr ⟨rfl, by omega⟩, rfl, rfl⟩
          · rename_i hfits
            simp only [reduceCtorEq, false_iff, not_and]
            intro hcut hlength
            cases front with
            | nil => simp at hlength
            | cons d front =>
                simp only [List.cons_append, List.cons.injEq] at hcut
                simp only [byteLength_cons, ← hcut.1] at hlength
                omega

theorem cutAt?_eq_some_iff {text front back : String} {offset : Nat} :
    cutAt? text offset = some (front, back) ↔
      text = front ++ back ∧ front.utf8ByteSize = offset := by
  simp only [cutAt?, Option.map_eq_some_iff, Prod.exists, Prod.mk.injEq]
  constructor
  · intro h
    obtain ⟨front', back', hcut, rfl, rfl⟩ := h
    obtain ⟨htext, hlength⟩ := cutChars?_eq_some_iff.mp hcut
    refine ⟨?_, ?_⟩
    · rw [← String.toList_inj]
      simpa using htext
    · rw [← byteLength_toList]
      simpa using hlength
  · intro h
    obtain ⟨rfl, rfl⟩ := h
    refine ⟨front.toList, back.toList, cutChars?_eq_some_iff.mpr ⟨?_, ?_⟩, ?_, ?_⟩
    · simp
    · exact byteLength_toList front
    · simp
    · simp

theorem isBoundary_iff {text : String} {offset : Nat} :
    IsBoundary text offset ↔ ∃ front back, text = front ++ back ∧ front.utf8ByteSize = offset := by
  simp only [IsBoundary, Option.isSome_iff_exists, Prod.exists, cutAt?_eq_some_iff]

end SqlLexicon.Text
