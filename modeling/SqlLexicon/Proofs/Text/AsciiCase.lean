import SqlLexicon.Text.Bytes
/-!
# ASCII case folding of bytes

A span is looked up under the upper-case form of its first byte and compared by the lower-case
forms of the others. Both are one folding:

* `equalIgnoringCase_iff` — comparing lower-case forms is comparing upper-case forms;
* `le_of_mem_utf8EncodeChar` — every byte of a character beyond ASCII is beyond ASCII, so that
  folding moves the ASCII letters of a text and nothing else;
* `fold_eq_self` — what has no lower-case ASCII letter is its own canonical form, whatever the
  case policy;
* `bytes_toUpper` — upper-casing a text upper-cases its bytes one by one.
-/

namespace SqlLexicon.Text

/-! ## Single bytes -/

theorem toNat_upperByte (b : UInt8) :
    (upperByte b).toNat =
      if 0x61 ≤ b.toNat ∧ b.toNat ≤ 0x7A then b.toNat - 0x20 else b.toNat := by
  unfold upperByte
  simp only [UInt8.le_iff_toNat_le, UInt8.reduceToNat]
  split
  · rename_i hletter
    rw [UInt8.toNat_sub_of_le]
    · rfl
    · rw [UInt8.le_iff_toNat_le]
      exact Nat.le_trans (by decide) hletter.1
  · rfl

theorem toNat_lowerByte (b : UInt8) :
    (lowerByte b).toNat =
      if 0x41 ≤ b.toNat ∧ b.toNat ≤ 0x5A then b.toNat + 0x20 else b.toNat := by
  unfold lowerByte
  simp only [UInt8.le_iff_toNat_le, UInt8.reduceToNat]
  split
  · simp only [UInt8.toNat_add, UInt8.reduceToNat]
    omega
  · rfl

theorem upperByte_lowerByte (b : UInt8) : upperByte (lowerByte b) = upperByte b := by
  apply UInt8.toNat.inj
  rw [toNat_upperByte, toNat_lowerByte, toNat_upperByte]
  repeat' split
  all_goals omega

theorem lowerByte_upperByte (b : UInt8) : lowerByte (upperByte b) = lowerByte b := by
  apply UInt8.toNat.inj
  rw [toNat_lowerByte, toNat_upperByte, toNat_lowerByte]
  repeat' split
  all_goals omega

/-- Only the lower-case ASCII letters have an upper-case form of their own. -/
theorem upperByte_eq_self_iff {b : UInt8} :
    upperByte b = b ↔ ¬(0x61 ≤ b.toNat ∧ b.toNat ≤ 0x7A) := by
  rw [← UInt8.toNat_inj, toNat_upperByte]
  split <;> omega

/-! ## Spans of bytes -/

theorem equalIgnoringCase_iff {left right : List UInt8} :
    equalIgnoringCase left right = true ↔ left.map upperByte = right.map upperByte := by
  have hupper : ∀ span : List UInt8, (span.map lowerByte).map upperByte = span.map upperByte := by
    intro span
    rw [List.map_map]
    exact List.map_congr_left fun b _ => upperByte_lowerByte b
  have hlower : ∀ span : List UInt8, (span.map upperByte).map lowerByte = span.map lowerByte := by
    intro span
    rw [List.map_map]
    exact List.map_congr_left fun b _ => lowerByte_upperByte b
  rw [equalIgnoringCase, beq_iff_eq]
  constructor
  · intro h
    calc left.map upperByte = (left.map lowerByte).map upperByte := (hupper left).symm
      _ = (right.map lowerByte).map upperByte := by rw [h]
      _ = right.map upperByte := hupper right
  · intro h
    calc left.map lowerByte = (left.map upperByte).map lowerByte := (hlower left).symm
      _ = (right.map upperByte).map lowerByte := by rw [h]
      _ = right.map lowerByte := hlower right

theorem fold_cons (ignoreCase : Bool) (b : UInt8) (span : List UInt8) :
    fold ignoreCase (b :: span) =
      (if ignoreCase then upperByte b else b) :: fold ignoreCase span := by
  cases ignoreCase <;> rfl

theorem fold_append (ignoreCase : Bool) (left right : List UInt8) :
    fold ignoreCase (left ++ right) = fold ignoreCase left ++ fold ignoreCase right := by
  cases ignoreCase with
  | false => rfl
  | true => exact List.map_append

theorem fold_eq_self {ignoreCase : Bool} {span : List UInt8}
    (h : ∀ b ∈ span, upperByte b = b) : fold ignoreCase span = span := by
  cases ignoreCase with
  | false => rfl
  | true =>
      rw [fold, if_pos rfl, List.map_congr_left h, List.map_id']

/-- A byte that is no lower-case ASCII letter stays in place when the span is folded. -/
theorem mem_fold_of_mem {ignoreCase : Bool} {span : List UInt8} {b : UInt8}
    (hb : b ∈ span) (hupper : upperByte b = b) : b ∈ fold ignoreCase span := by
  cases ignoreCase with
  | false => exact hb
  | true =>
      rw [fold, if_pos rfl, List.mem_map]
      exact ⟨b, hb, hupper⟩

/-! ## The bytes of characters -/

theorem utf8EncodeChar_of_lt {c : Char} (h : c.toNat < 0x80) :
    String.utf8EncodeChar c = [UInt8.ofNat c.toNat] := by
  unfold String.utf8EncodeChar
  rw [if_pos]
  · rfl
  · exact Nat.le_of_lt_succ h

/-- No byte of a character beyond ASCII is an ASCII byte. -/
theorem le_of_mem_utf8EncodeChar {c : Char} (h : 0x80 ≤ c.toNat) {b : UInt8}
    (hb : b ∈ String.utf8EncodeChar c) : 0x80 ≤ b.toNat := by
  have hlead : ¬ c.val.toNat ≤ 0x7F := Nat.not_le_of_lt h
  unfold String.utf8EncodeChar at hb
  simp only [hlead, if_false] at hb
  split at hb
  · simp only [List.mem_cons, List.not_mem_nil, or_false] at hb
    rcases hb with rfl | rfl <;> rw [UInt8.toNat_ofNat'] <;> omega
  · split at hb
    · simp only [List.mem_cons, List.not_mem_nil, or_false] at hb
      rcases hb with rfl | rfl | rfl <;> rw [UInt8.toNat_ofNat'] <;> omega
    · simp only [List.mem_cons, List.not_mem_nil, or_false] at hb
      rcases hb with rfl | rfl | rfl | rfl <;> rw [UInt8.toNat_ofNat'] <;> omega

theorem mem_bytes {text : String} {b : UInt8} :
    b ∈ bytes text ↔ ∃ c ∈ text.toList, b ∈ String.utf8EncodeChar c := by
  rw [bytes, List.mem_flatMap]

theorem mem_bytes_of_mem {text : String} {c : Char} (hc : c ∈ text.toList) (h : c.toNat < 0x80) :
    UInt8.ofNat c.toNat ∈ bytes text := by
  refine mem_bytes.mpr ⟨c, hc, ?_⟩
  rw [utf8EncodeChar_of_lt h]
  exact List.mem_singleton_self _

/-- A text of ASCII bytes is a text of ASCII characters. -/
theorem toNat_lt_of_mem_toList {text : String} (hbytes : ∀ b ∈ bytes text, b.toNat < 0x80) :
    ∀ c ∈ text.toList, c.toNat < 0x80 := by
  intro c hc
  apply Nat.lt_of_not_le
  intro hle
  obtain ⟨b, hb⟩ := List.exists_mem_of_ne_nil _ (String.utf8EncodeChar_ne_nil (c := c))
  have hascii := hbytes b (mem_bytes.mpr ⟨c, hc, hb⟩)
  have hbeyond := le_of_mem_utf8EncodeChar hle hb
  omega

/-- The bytes of a text determine it. -/
theorem bytes_inj {s t : String} : bytes s = bytes t ↔ s = t := by
  constructor
  · intro h
    rw [← String.toByteArray_inj, ← String.utf8Encode_toList, ← String.utf8Encode_toList]
    exact congrArg List.toByteArray h
  · intro h
    rw [h]

/-! ## Characters and texts -/

theorem toNat_toUpper (c : Char) :
    c.toUpper.toNat =
      if 0x61 ≤ c.toNat ∧ c.toNat ≤ 0x7A then c.toNat - 0x20 else c.toNat := by
  have hiff : ('a'.val ≤ c.val ∧ c.val ≤ 'z'.val) ↔ (0x61 ≤ c.toNat ∧ c.toNat ≤ 0x7A) := Iff.rfl
  unfold Char.toUpper
  by_cases hletter : 0x61 ≤ c.toNat ∧ c.toNat ≤ 0x7A
  · rw [dif_pos (hiff.mpr hletter), if_pos hletter]
    have hval : c.toNat = c.val.toNat := rfl
    have hshift : ('A'.val - 'a'.val).toNat = 2 ^ 32 - 0x20 := by decide
    change (c.val + ('A'.val - 'a'.val)).toNat = c.toNat - 0x20
    rw [UInt32.toNat_add, hshift, ← hval]
    omega
  · rw [dif_neg (mt hiff.mp hletter), if_neg hletter]

theorem toNat_toLower (c : Char) :
    c.toLower.toNat =
      if 0x41 ≤ c.toNat ∧ c.toNat ≤ 0x5A then c.toNat + 0x20 else c.toNat := by
  have hiff : ('A'.val ≤ c.val ∧ c.val ≤ 'Z'.val) ↔ (0x41 ≤ c.toNat ∧ c.toNat ≤ 0x5A) := Iff.rfl
  unfold Char.toLower
  by_cases hletter : 0x41 ≤ c.toNat ∧ c.toNat ≤ 0x5A
  · rw [dif_pos (hiff.mpr hletter), if_pos hletter]
    have hval : c.toNat = c.val.toNat := rfl
    have hshift : ('a'.val - 'A'.val).toNat = 0x20 := by decide
    change (c.val + ('a'.val - 'A'.val)).toNat = c.toNat + 0x20
    rw [UInt32.toNat_add, hshift, ← hval]
    omega
  · rw [dif_neg (mt hiff.mp hletter), if_neg hletter]

theorem toList_toLower (text : String) : text.toLower.toList = text.toList.map Char.toLower :=
  String.toList_map

theorem utf8EncodeChar_toUpper (c : Char) :
    String.utf8EncodeChar c.toUpper = (String.utf8EncodeChar c).map upperByte := by
  have hupper := toNat_toUpper c
  by_cases hascii : c.toNat < 0x80
  · have hbyte : (UInt8.ofNat c.toNat).toNat = c.toNat := by
      rw [UInt8.toNat_ofNat']
      omega
    have hsmall : c.toUpper.toNat < 0x80 := by
      rw [hupper]
      split <;> omega
    rw [utf8EncodeChar_of_lt hascii, utf8EncodeChar_of_lt hsmall, List.map_singleton]
    congr 1
    apply UInt8.toNat.inj
    rw [toNat_upperByte, hbyte, UInt8.toNat_ofNat', hupper]
    split <;> omega
  · have hsame : c.toUpper = c := by
      apply Char.toNat_inj.mp
      rw [hupper, if_neg (by omega)]
    -- No byte of such a character is a letter either.
    have hbytes : ∀ b ∈ String.utf8EncodeChar c, upperByte b = b := by
      intro b hb
      have hle := le_of_mem_utf8EncodeChar (Nat.le_of_not_lt hascii) hb
      rw [upperByte_eq_self_iff]
      omega
    rw [hsame, List.map_congr_left hbytes, List.map_id']

theorem bytes_toUpper (text : String) : bytes text.toUpper = (bytes text).map upperByte := by
  have hchars : text.toUpper.toList = text.toList.map Char.toUpper := String.toList_map
  rw [bytes, bytes, hchars, List.map_flatMap, List.flatMap_map]
  simp only [utf8EncodeChar_toUpper]

theorem utf8ByteSize_toUpper (text : String) : text.toUpper.utf8ByteSize = text.utf8ByteSize := by
  rw [← length_bytes, bytes_toUpper, List.length_map, length_bytes]

end SqlLexicon.Text
