import SqlLexicon.Proofs.Text.AsciiCase
import SqlLexicon.Text.Cut
/-!
# Character boundaries

A boundary of a text is an offset at which the text can be cut in two.

* `isBoundary_append_iff` — behind a front, the boundaries of a text are those of what follows the
  front, shifted by its length;
* `isBoundary_append_left_iff` — up to the end of a front, they are those of the front;
* `exists_char_of_not_isBoundary` — an offset within a text that is no boundary lies inside a
  character;
* `le_byte_of_not_isBoundary` — that character is beyond ASCII, and so are the bytes on both sides
  of the offset.
-/

namespace SqlLexicon.Text

variable {text : String} {offset : Nat}

/-! ## Boundaries -/

theorem utf8ByteSize_ofList (chars : List Char) :
    (String.ofList chars).utf8ByteSize = byteLength chars := by
  rw [← byteLength_toList, String.toList_ofList]

/-- Of two cuts of one text, the longer front is the shorter one and something more. -/
theorem exists_of_append_eq {front back left right : String}
    (hparts : front ++ back = left ++ right) (hle : front.utf8ByteSize ≤ left.utf8ByteSize) :
    ∃ middle, left = front ++ middle ∧ back = middle ++ right := by
  have hchars : front.toList ++ back.toList = left.toList ++ right.toList := by
    rw [← String.toList_append, ← String.toList_append, hparts]
  rw [← byteLength_toList, ← byteLength_toList] at hle
  obtain ⟨middle, hleft, hback⟩ | ⟨middle, hfront, hright⟩ := List.append_eq_append_iff.mp hchars
  · refine ⟨String.ofList middle, ?_, ?_⟩
    · rw [← String.toList_inj, hleft]
      simp
    · rw [← String.toList_inj, hback]
      simp
  · have hmiddle : middle = [] := by
      rw [hfront, byteLength_append] at hle
      rw [← byteLength_eq_zero]
      omega
    subst hmiddle
    rw [List.append_nil, String.toList_inj] at hfront
    rw [List.nil_append, String.toList_inj] at hright
    exact ⟨"", by simp [hfront], by simp [hright]⟩

/-- Cutting behind a front is cutting what follows the front. -/
theorem isBoundary_append_iff {front back : String} {n : Nat} :
    IsBoundary (front ++ back) (front.utf8ByteSize + n) ↔ IsBoundary back n := by
  rw [isBoundary_iff, isBoundary_iff]
  constructor
  · intro h
    obtain ⟨left, right, hparts, hlength⟩ := h
    obtain ⟨middle, rfl, rfl⟩ := exists_of_append_eq hparts (by omega)
    rw [String.utf8ByteSize_append] at hlength
    exact ⟨middle, right, rfl, by omega⟩
  · intro h
    obtain ⟨left, right, rfl, rfl⟩ := h
    exact ⟨front ++ left, right, String.append_assoc.symm, String.utf8ByteSize_append⟩

/-- Up to the end of a front, the boundaries are those of the front. -/
theorem isBoundary_append_left_iff {front back : String} {n : Nat}
    (hle : n ≤ front.utf8ByteSize) : IsBoundary (front ++ back) n ↔ IsBoundary front n := by
  rw [isBoundary_iff, isBoundary_iff]
  constructor
  · intro h
    obtain ⟨left, right, hparts, rfl⟩ := h
    obtain ⟨middle, hfront, -⟩ := exists_of_append_eq hparts.symm hle
    exact ⟨left, middle, hfront, rfl⟩
  · intro h
    obtain ⟨left, right, rfl, rfl⟩ := h
    exact ⟨left, right ++ back, String.append_assoc, rfl⟩

/-! ## Inside a character -/

theorem exists_char_of_cutChars?_eq_none {n : Nat} {chars : List Char}
    (hcut : cutChars? n chars = none) (hle : n ≤ byteLength chars) :
    ∃ front c back, chars = front ++ c :: back ∧
      byteLength front < n ∧ n < byteLength front + c.utf8Size := by
  induction chars generalizing n with
  | nil =>
      have hzero : n = 0 := by simpa using hle
      subst hzero
      simp [cutChars?] at hcut
  | cons c chars ih =>
      cases n with
      | zero => simp [cutChars?] at hcut
      | succ n =>
          rw [cutChars?] at hcut
          split at hcut
          · rename_i hfits
            rw [Option.map_eq_none_iff] at hcut
            rw [byteLength_cons] at hle
            obtain ⟨front, d, back, hchars, hfront, hback⟩ := ih hcut (by omega)
            refine ⟨c :: front, d, back, by rw [hchars, List.cons_append], ?_, ?_⟩
            · rw [byteLength_cons]
              omega
            · rw [byteLength_cons]
              omega
          · rename_i hfits
            refine ⟨[], c, chars, rfl, ?_, ?_⟩
            · simp
            · rw [byteLength_nil]
              omega

theorem exists_char_of_not_isBoundary (hboundary : ¬IsBoundary text offset)
    (hle : offset ≤ text.utf8ByteSize) :
    ∃ front c back, text = front ++ String.singleton c ++ back ∧
      front.utf8ByteSize < offset ∧ offset < front.utf8ByteSize + c.utf8Size := by
  have hcut : cutChars? offset text.toList = none := by
    simpa [IsBoundary, cutAt?] using hboundary
  rw [← byteLength_toList] at hle
  obtain ⟨front, c, back, hchars, hfront, hback⟩ := exists_char_of_cutChars?_eq_none hcut hle
  refine ⟨String.ofList front, c, String.ofList back, ?_, ?_, ?_⟩
  · rw [← String.toList_inj, hchars]
    simp
  · rw [utf8ByteSize_ofList]
    exact hfront
  · rw [utf8ByteSize_ofList]
    exact hback

theorem le_toNat_of_one_lt_utf8Size {c : Char} (h : 1 < c.utf8Size) : 0x80 ≤ c.toNat := by
  apply Nat.le_of_not_lt
  intro hascii
  have hone := String.length_utf8EncodeChar c
  rw [utf8EncodeChar_of_lt hascii, List.length_singleton] at hone
  omega

/-- The bytes before and after an offset inside a character are of that character, which is
beyond ASCII. -/
theorem le_byte_of_not_isBoundary (hboundary : ¬IsBoundary text offset)
    (hle : offset ≤ text.utf8ByteSize) {i : Nat} (hi : i = offset ∨ i + 1 = offset) :
    ∃ b, (bytes text)[i]? = some b ∧ 0x80 ≤ b.toNat := by
  obtain ⟨front, c, back, rfl, hfront, hback⟩ := exists_char_of_not_isBoundary hboundary hle
  have hc : 0x80 ≤ c.toNat := le_toNat_of_one_lt_utf8Size (by omega)
  have hlength := String.length_utf8EncodeChar c
  have hi' : i - front.utf8ByteSize < (String.utf8EncodeChar c).length := by omega
  refine ⟨(String.utf8EncodeChar c)[i - front.utf8ByteSize], ?_, ?_⟩
  · have hsplit : bytes (front ++ String.singleton c ++ back) =
        bytes front ++ (String.utf8EncodeChar c ++ bytes back) := by
      simp [bytes]
    rw [hsplit, List.getElem?_append_right (by rw [length_bytes]; omega), length_bytes,
      List.getElem?_append_left hi', List.getElem?_eq_getElem hi']
  · exact le_of_mem_utf8EncodeChar hc (List.getElem_mem hi')

end SqlLexicon.Text
