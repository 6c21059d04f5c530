import SqlLexicon.Proofs.Text.AsciiCase
import SqlLexicon.Text.Blank
/-!
# What trimming leaves

A text is trimmed by dropping white space from its front, and again from the front of what is left
in reverse.

* `trim_eq_iff` — what is left is the part between the white space at both ends, and there is only
  one such part;
* `trim_append` — more white space at either end makes no difference;
* `trim_toLower` — nor does it matter whether a text is trimmed before or after its letters are
  lowered, since no letter is white space.
-/

namespace SqlLexicon.Text

/-- A text of white space and nothing else. -/
def Blank (text : String) : Prop :=
  text.toList.all isBlank = true

instance (text : String) : Decidable (Blank text) :=
  inferInstanceAs (Decidable (_ = true))

/-- The word is what lies between the white space at the two ends of the text. -/
structure TrimsTo (text word : String) : Prop where
  parts : ∃ front back, text = front ++ word ++ back ∧ Blank front ∧ Blank back
  head : ∀ c ∈ word.toList.head?, isBlank c = false
  last : ∀ c ∈ word.toList.getLast?, isBlank c = false

theorem blank_iff {text : String} : Blank text ↔ ∀ c ∈ text.toList, isBlank c = true :=
  List.all_eq_true

theorem blank_append {front back : String} : Blank (front ++ back) ↔ Blank front ∧ Blank back := by
  rw [blank_iff, blank_iff, blank_iff, String.toList_append, List.forall_mem_append]

/-! ## Dropping white space in front -/

theorem dropBlanks_of_blank {chars : List Char} (h : ∀ c ∈ chars, isBlank c = true) :
    dropBlanks chars = [] := by
  have happend := dropBlanks_append_of_blank h []
  rwa [List.append_nil] at happend

theorem dropBlanks_eq_self {chars : List Char} (h : ∀ c ∈ chars.head?, isBlank c = false) :
    dropBlanks chars = chars := by
  cases chars with
  | nil => rfl
  | cons c chars => exact List.dropWhile_cons_of_neg (by simp [h c rfl])

theorem isBlank_head_dropBlanks (chars : List Char) :
    ∀ c ∈ (dropBlanks chars).head?, isBlank c = false := by
  intro c hc
  have hhead := List.head?_dropWhile_not isBlank chars
  rw [dropBlanks] at hc
  rwa [hc] at hhead

theorem exists_dropBlanks (chars : List Char) :
    ∃ front, chars = front ++ dropBlanks chars ∧ ∀ c ∈ front, isBlank c = true :=
  ⟨chars.takeWhile isBlank, List.takeWhile_append_dropWhile.symm,
    List.all_eq_true.mp List.all_takeWhile⟩

/-! ## Both ends -/

theorem trimChars_append {front chars back : List Char}
    (hfront : ∀ c ∈ front, isBlank c = true) (hback : ∀ c ∈ back, isBlank c = true)
    (hhead : ∀ c ∈ chars.head?, isBlank c = false)
    (hlast : ∀ c ∈ chars.getLast?, isBlank c = false) :
    trimChars (front ++ chars ++ back) = chars := by
  rw [trimChars, List.append_assoc, dropBlanks_append_of_blank hfront]
  cases chars with
  | nil =>
      rw [List.nil_append, dropBlanks_of_blank hback]
      rfl
  | cons c chars =>
      have hreverse : ∀ c ∈ back.reverse, isBlank c = true :=
        fun c hc => hback c (List.mem_reverse.mp hc)
      have hdrop : dropBlanks (c :: chars ++ back) = c :: chars ++ back := dropBlanks_eq_self hhead
      rw [hdrop, List.reverse_append, dropBlanks_append_of_blank hreverse, dropBlanks_eq_self,
        List.reverse_reverse]
      rwa [List.head?_reverse]

/-- What follows the leading white space is the trimmed part and the trailing white space. -/
theorem exists_dropBlanks_eq_trimChars (chars : List Char) :
    ∃ back, dropBlanks chars = trimChars chars ++ back ∧ ∀ c ∈ back, isBlank c = true := by
  obtain ⟨back, hreverse, hback⟩ := exists_dropBlanks (dropBlanks chars).reverse
  refine ⟨back.reverse, ?_, fun c hc => hback c (List.mem_reverse.mp hc)⟩
  rw [trimChars, ← List.reverse_append, ← hreverse, List.reverse_reverse]

theorem trimsTo_trim (text : String) : TrimsTo text (trim text) where
  parts := by
    obtain ⟨front, hchars, hfront⟩ := exists_dropBlanks text.toList
    obtain ⟨back, hdrop, hback⟩ := exists_dropBlanks_eq_trimChars text.toList
    refine ⟨String.ofList front, String.ofList back, ?_, ?_, ?_⟩
    · rw [← String.toList_inj, trim]
      simpa [hdrop] using hchars
    · rwa [blank_iff, String.toList_ofList]
    · rwa [blank_iff, String.toList_ofList]
  head := by
    intro c hc
    obtain ⟨back, hdrop, -⟩ := exists_dropBlanks_eq_trimChars text.toList
    apply isBlank_head_dropBlanks text.toList
    rw [trim, String.toList_ofList] at hc
    rw [hdrop, List.head?_append, hc]
    rfl
  last := by
    intro c hc
    rw [trim, String.toList_ofList, trimChars, List.getLast?_reverse] at hc
    exact isBlank_head_dropBlanks _ c hc

theorem trim_eq_iff {text word : String} : trim text = word ↔ TrimsTo text word := by
  constructor
  · rintro rfl
    exact trimsTo_trim text
  · intro h
    obtain ⟨⟨front, back, rfl, hfront, hback⟩, hhead, hlast⟩ := h
    have hchars := trimChars_append (blank_iff.mp hfront) (blank_iff.mp hback) hhead hlast
    rw [trim, String.toList_append, String.toList_append, hchars, String.ofList_toList]

/-- More white space at either end leaves the same word. -/
theorem TrimsTo.append {text word front back : String} (h : TrimsTo text word)
    (hfront : Blank front) (hback : Blank back) : TrimsTo (front ++ text ++ back) word := by
  obtain ⟨⟨inner, outer, rfl, hinner, houter⟩, hhead, hlast⟩ := h
  refine ⟨⟨front ++ inner, outer ++ back, ?_, ?_, ?_⟩, hhead, hlast⟩
  · simp only [String.append_assoc]
  · exact blank_append.mpr ⟨hfront, hinner⟩
  · exact blank_append.mpr ⟨houter, hback⟩

theorem trim_append {front back : String} (hfront : Blank front) (hback : Blank back)
    (text : String) : trim (front ++ text ++ back) = trim text :=
  trim_eq_iff.mpr ((trimsTo_trim text).append hfront hback)

/-- White space only is trimmed to the empty text. -/
theorem trim_of_blank {text : String} (h : Blank text) : trim text = "" :=
  trim_eq_iff.mpr ⟨⟨text, "", by simp, h, rfl⟩, by simp, by simp⟩

/-! ## The case of letters -/

/-- None of the characters from `A` to `z` is white space. -/
theorem isBlank_eq_false_of_le {c : Char} (h : 0x41 ≤ c.toNat ∧ c.toNat ≤ 0x7A) :
    isBlank c = false := by
  simp only [isBlank, Bool.or_eq_false_iff, Bool.and_eq_false_iff, decide_eq_false_iff_not,
    beq_eq_false_iff_ne]
  omega

theorem isBlank_toLower (c : Char) : isBlank c.toLower = isBlank c := by
  have hlower := toNat_toLower c
  split at hlower
  · have hletter : 0x41 ≤ c.toNat ∧ c.toNat ≤ 0x7A := by omega
    have hlowered : 0x41 ≤ c.toLower.toNat ∧ c.toLower.toNat ≤ 0x7A := by omega
    rw [isBlank_eq_false_of_le hletter, isBlank_eq_false_of_le hlowered]
  · rw [Char.toNat_inj.mp hlower]

theorem dropBlanks_map_toLower (chars : List Char) :
    dropBlanks (chars.map Char.toLower) = (dropBlanks chars).map Char.toLower := by
  have hsame : isBlank ∘ Char.toLower = isBlank := funext isBlank_toLower
  rw [dropBlanks, List.dropWhile_map, hsame]
  rfl

/-- Trimming leaves the case of letters alone. -/
theorem trim_toLower (text : String) : trim text.toLower = (trim text).toLower := by
  rw [← String.toList_inj, toList_toLower, trim, trim, toList_toLower, String.toList_ofList,
    String.toList_ofList]
  simp only [trimChars, dropBlanks_map_toLower, ← List.map_reverse]

end SqlLexicon.Text
