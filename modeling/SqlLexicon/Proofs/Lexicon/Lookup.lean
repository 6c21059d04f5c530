import SqlLexicon.Proofs.Lexicon.Spelling
/-!
# The lookup by first letter finds what a span spells

The lookup never compares the first byte of a keyword: it trusts the index to have filed each
keyword under that byte.

* `agreesAfterFirst_iff` — after the dispatch, comparing what follows the first byte compares the
  whole spans;
* `findReserved?_eq_some_iff`, `isAdditional_iff` — both lookups find exactly what the span spells;
* `classifyBytes_eq_iff` — a span is classified as a keyword exactly if it spells the keyword.
-/

namespace SqlLexicon

namespace Lexicon

open Text

variable {ignoreCase : Bool} {span : List UInt8}

/-! ## After the dispatch -/

theorem firstByte?_eq_head? : firstByte? ignoreCase span = (fold ignoreCase span).head? := by
  cases span with
  | nil => cases ignoreCase <;> rfl
  | cons b span =>
      rw [fold_cons]
      rfl

theorem agreesAfterFirst_iff {word : List UInt8} {first : UInt8}
    (hupper : upperByte first = first) (hword : word.head? = some first)
    (hspan : firstByte? ignoreCase span = some first) :
    agreesAfterFirst ignoreCase word span = true ↔ agrees ignoreCase word span = true := by
  obtain ⟨word, hcons⟩ := List.head?_eq_some_iff.mp hword
  subst hcons
  cases span with
  | nil => simp [firstByte?] at hspan
  | cons b span =>
      have hfirst : (if ignoreCase then upperByte b else b) = first := by
        simpa [firstByte?] using hspan
      rw [agrees, beq_iff_eq, fold_cons, fold_cons, hfirst]
      -- The heads now agree, and what is left of the lengths follows from the equal tails.
      cases ignoreCase with
      | false =>
          simp only [agreesAfterFirst, fold, Bool.false_eq_true, if_false, List.tail_cons,
            Bool.and_eq_true, beq_iff_eq, List.cons.injEq, true_and, and_iff_right_iff_imp]
          intro hsame
          rw [hsame]
          rfl
      | true =>
          simp only [agreesAfterFirst, fold, if_true, hupper, List.tail_cons, Bool.and_eq_true,
            beq_iff_eq, equalIgnoringCase_iff, List.cons.injEq, true_and, and_iff_right_iff_imp]
          intro hmap
          have hlength := congrArg List.length hmap
          simpa using hlength

theorem agreesAfterFirst_spelling_iff {entry : Entry} (hentry : entry ∈ entries) {first : UInt8}
    (hhead : (bytes entry.spelling).head? = some first)
    (hspan : firstByte? ignoreCase span = some first) :
    agreesAfterFirst ignoreCase (bytes entry.spelling) span = true ↔
      fold ignoreCase span = bytes entry.spelling := by
  have hfirst := isSpellingByte_of_mem hentry (List.mem_of_mem_head? hhead)
  rw [agreesAfterFirst_iff (upperByte_of_isSpellingByte hfirst) hhead hspan, agrees_iff hentry]

/-- A span that spells a keyword is looked up where the keyword is filed. -/
theorem firstByte?_of_fold {entry : Entry} (hentry : entry ∈ entries)
    (hfold : fold ignoreCase span = bytes entry.spelling) :
    ∃ first, (bytes entry.spelling).head? = some first ∧
      firstByte? ignoreCase span = some first := by
  have hne : ∀ entry ∈ entries, entry.spelling ≠ "" := by decide
  have hbytes : bytes entry.spelling ≠ [] := fun hnil => hne entry hentry (bytes_inj.mp hnil)
  have hhead := List.head?_eq_some_head hbytes
  refine ⟨(bytes entry.spelling).head hbytes, hhead, ?_⟩
  rw [firstByte?_eq_head?, hfold, hhead]

/-! ## The two lookups -/

theorem findReserved?_of_firstByte? {first : UInt8}
    (hspan : firstByte? ignoreCase span = some first) :
    findReserved? ignoreCase span =
      ((reservedAt first).find? fun filed =>
        agreesAfterFirst ignoreCase (bytes filed.1) span).map Prod.snd := by
  rw [findReserved?, hspan, Option.map_eq_bind]
  rfl

theorem fold_of_findReserved? {word : Reserved}
    (hfound : findReserved? ignoreCase span = some word) :
    fold ignoreCase span = bytes word.spelling := by
  cases hspan : firstByte? ignoreCase span with
  | none => simp [findReserved?, hspan] at hfound
  | some first =>
      rw [findReserved?_of_firstByte? hspan] at hfound
      obtain ⟨⟨spelling, found⟩, hfind, hsame⟩ := Option.map_eq_some_iff.mp hfound
      obtain ⟨hspelling, hhead⟩ := mem_reservedAt.mp (List.mem_of_find?_eq_some hfind)
      have hagree := List.find?_some hfind
      subst hsame hspelling
      exact (agreesAfterFirst_spelling_iff (mem_entries_reserved found) hhead hspan).mp hagree

-- That the bucket holds the word makes the search succeed; which entry it stops at is the
-- business of `fold_of_findReserved?`.
theorem isSome_findReserved?_of_fold {word : Reserved}
    (hfold : fold ignoreCase span = bytes word.spelling) :
    (findReserved? ignoreCase span).isSome = true := by
  have hentry := mem_entries_reserved word
  obtain ⟨first, hhead, hspan⟩ := firstByte?_of_fold hentry hfold
  have hagree := (agreesAfterFirst_spelling_iff hentry hhead hspan).mpr hfold
  have hfiled : (word.spelling, word) ∈ reservedAt first := mem_reservedAt.mpr ⟨rfl, hhead⟩
  rw [findReserved?_of_firstByte? hspan, Option.isSome_map, List.find?_isSome]
  exact ⟨_, hfiled, hagree⟩

theorem findReserved?_eq_some_iff {word : Reserved} :
    findReserved? ignoreCase span = some word ↔ fold ignoreCase span = bytes word.spelling := by
  constructor
  · exact fold_of_findReserved?
  · intro hfold
    obtain ⟨other, hfound⟩ := Option.isSome_iff_exists.mp (isSome_findReserved?_of_fold hfold)
    have hspelling : other.spelling = word.spelling :=
      eq_of_fold_eq (fold_of_findReserved? hfound) hfold
    rw [hfound, Reserved.spelling_inj.mp hspelling]

theorem perm_additionalWords : additionalWords.Perm additionalSpellings := by
  decide

theorem mem_additionalWords {word : String} :
    word ∈ additionalWords ↔ word ∈ additionalSpellings :=
  perm_additionalWords.mem_iff

theorem isAdditional_iff :
    isAdditional ignoreCase span = true ↔
      ∃ word ∈ additionalSpellings, fold ignoreCase span = bytes word := by
  constructor
  · intro hfound
    unfold isAdditional at hfound
    split at hfound
    · contradiction
    · rename_i first hspan
      obtain ⟨word, hfiled, hagree⟩ := List.any_eq_true.mp hfound
      obtain ⟨hword, hhead⟩ := mem_additionalAt.mp hfiled
      have hmem := mem_additionalWords.mp hword
      have hentry := mem_entries_additional.mpr hmem
      refine ⟨word, hmem, ?_⟩
      exact (agreesAfterFirst_spelling_iff hentry hhead hspan).mp hagree
  · intro hspelled
    obtain ⟨word, hmem, hfold⟩ := hspelled
    have hentry := mem_entries_additional.mpr hmem
    obtain ⟨first, hhead, hspan⟩ := firstByte?_of_fold hentry hfold
    have hagree := (agreesAfterFirst_spelling_iff hentry hhead hspan).mpr hfold
    have hfiled : word ∈ additionalAt first :=
      mem_additionalAt.mpr ⟨mem_additionalWords.mpr hmem, hhead⟩
    simp only [isAdditional, hspan]
    exact List.any_eq_true.mpr ⟨word, hfiled, hagree⟩

/-- No span spells a reserved and an additional keyword. -/
theorem findReserved?_eq_none_of_additional {word : String} (hmem : word ∈ additionalSpellings)
    (hfold : fold ignoreCase span = bytes word) : findReserved? ignoreCase span = none := by
  rw [Option.eq_none_iff_forall_ne_some]
  intro other hfound
  have hspelling : other.spelling = word := eq_of_fold_eq (fold_of_findReserved? hfound) hfold
  exact spelling_ne_additional hmem other hspelling

end Lexicon

open Lexicon Text

variable {policy : Policy} {span : List UInt8}

/-! ## Keywords -/

theorem classifyBytes_eq_reserved_iff {word : Reserved} :
    policy.classifyBytes span = .reserved word ↔
      fold policy.ignoreCase span = bytes word.spelling := by
  rw [← findReserved?_eq_some_iff]
  unfold Policy.classifyBytes
  split
  · rename_i other hfound
    rw [hfound]
    simp
  · rename_i hnone
    rw [hnone]
    split <;> simp

theorem classifyBytes_eq_additional_iff :
    policy.classifyBytes span = .additional ↔
      policy.additionalKeywords = true ∧
        ∃ word ∈ additionalSpellings, fold policy.ignoreCase span = bytes word := by
  rw [← isAdditional_iff, ← Bool.and_eq_true]
  constructor
  · intro h
    unfold Policy.classifyBytes at h
    split at h
    · cases h
    · split at h
      · assumption
      · cases h
  · intro h
    obtain ⟨word, hmem, hfold⟩ := isAdditional_iff.mp (Bool.and_eq_true _ _ ▸ h).2
    unfold Policy.classifyBytes
    rw [findReserved?_eq_none_of_additional hmem hfold]
    simp only [h, if_true]

theorem classifyBytes_eq_iff {token : Token} (htoken : token ≠ .identifier) :
    policy.classifyBytes span = token ↔
      ∃ entry ∈ entries, entry.token = token ∧ policy.Spells span entry := by
  cases token with
  | identifier => contradiction
  | additional =>
      rw [classifyBytes_eq_additional_iff]
      constructor
      · intro h
        obtain ⟨hswitch, word, hmem, hfold⟩ := h
        have hspells := spells_additional_iff.mpr ⟨hswitch, hfold⟩
        exact ⟨_, mem_entries_additional.mpr hmem, rfl, hspells⟩
      · intro h
        obtain ⟨entry, hentry, htoken, hspells⟩ := h
        obtain ⟨word, rfl⟩ | ⟨word, hmem, rfl⟩ := mem_entries.mp hentry
        · cases htoken
        · obtain ⟨hswitch, hfold⟩ := spells_additional_iff.mp hspells
          exact ⟨hswitch, word, hmem, hfold⟩
  | reserved word =>
      rw [classifyBytes_eq_reserved_iff]
      constructor
      · intro hfold
        exact ⟨_, mem_entries_reserved word, rfl, spells_reserved_iff.mpr hfold⟩
      · intro h
        obtain ⟨entry, hentry, htoken, hspells⟩ := h
        obtain ⟨other, rfl⟩ | ⟨other, hmem, rfl⟩ := mem_entries.mp hentry
        · cases htoken
          exact spells_reserved_iff.mp hspells
        · cases htoken

/-- A span has the token of the keyword that it spells. -/
theorem classifyBytes_of_spells {entry : Entry} (hentry : entry ∈ entries)
    (hspells : policy.Spells span entry) : policy.classifyBytes span = entry.token :=
  (classifyBytes_eq_iff (token_ne_identifier hentry)).mpr ⟨entry, hentry, rfl, hspells⟩

/-! ## Identifiers -/

/-- What spells no admitted keyword is an identifier. -/
theorem classifyBytes_eq_identifier_iff :
    policy.classifyBytes span = .identifier ↔ ∀ entry ∈ entries, ¬policy.Spells span entry := by
  constructor
  · intro h entry hentry hspells
    have htoken := classifyBytes_of_spells hentry hspells
    rw [h] at htoken
    exact token_ne_identifier hentry htoken.symm
  · intro h
    by_contra hkeyword
    obtain ⟨entry, hentry, -, hspells⟩ := (classifyBytes_eq_iff hkeyword).mp rfl
    exact h entry hentry hspells

theorem isKeyword_iff_spells {word : String} :
    policy.isKeyword word = true ↔ ∃ entry ∈ entries, policy.Spells (bytes word) entry := by
  rw [Policy.isKeyword_iff, ne_eq, Policy.classify, classifyBytes_eq_identifier_iff]
  simp only [not_forall, not_not, exists_prop]

/-- A span is an identifier if it holds a byte that no spelling holds in any case. -/
theorem classifyBytes_eq_identifier_of_mem {b : UInt8} (hb : b ∈ span) (hupper : upperByte b = b)
    (hspelling : isSpellingByte b = false) : policy.classifyBytes span = .identifier := by
  rw [classifyBytes_eq_identifier_iff]
  intro entry hentry hspells
  have hmem : b ∈ bytes entry.spelling := by
    rw [← hspells.2]
    exact mem_fold_of_mem hb hupper
  rw [isSpellingByte_of_mem hentry hmem] at hspelling
  contradiction

/-- A span is an identifier if it holds a byte beyond ASCII. -/
theorem classifyBytes_eq_identifier_of_le {b : UInt8} (hb : b ∈ span) (hle : 0x80 ≤ b.toNat) :
    policy.classifyBytes span = .identifier := by
  have hupper : upperByte b = b := by
    rw [upperByte_eq_self_iff]
    omega
  have hspelling : isSpellingByte b = false := by
    rw [← Bool.not_eq_true]
    intro h
    have hlt := toNat_lt_of_isSpellingByte h
    omega
  exact classifyBytes_eq_identifier_of_mem hb hupper hspelling

end SqlLexicon
