import SqlLexicon.Lexicon.Range
import SqlLexicon.Proofs.Lexicon.Lookup
/-!
# The lookup by first letter is a scan of the table

The plain scan compares the whole span with each spelling in turn. It gives a keyword exactly if
the span spells it (`scan_eq_iff`), whatever the order of the table, and so does the lookup.
`classifyRange_eq_scan` says for every range of a text what the common answer is.
-/

namespace SqlLexicon

open Lexicon Text

variable {policy : Policy} {span : List UInt8} {table : List Entry}

theorem scan_eq_iff (hperm : table.Perm entries) {token : Token} (htoken : token ≠ .identifier) :
    policy.scan table span = token ↔
      ∃ entry ∈ entries, entry.token = token ∧ policy.Spells span entry := by
  unfold Policy.scan
  cases hfind : table.find? fun entry =>
      policy.admits entry.token && agrees policy.ignoreCase (bytes entry.spelling) span with
  | none =>
      constructor
      · intro h
        exact absurd h.symm htoken
      · intro h
        obtain ⟨entry, hentry, -, hspells⟩ := h
        have hmiss := List.find?_eq_none.mp hfind entry (hperm.mem_iff.mpr hentry)
        exact absurd ((spells_iff_agrees hentry).mp hspells) hmiss
  | some entry =>
      have hentry := hperm.mem_iff.mp (List.mem_of_find?_eq_some hfind)
      have hmatch := List.find?_some hfind
      have hspells := (spells_iff_agrees hentry).mpr hmatch
      constructor
      · intro h
        exact ⟨entry, hentry, h, hspells⟩
      · intro h
        obtain ⟨other, hother, htoken, hspellsother⟩ := h
        rw [eq_of_spells hother hentry hspellsother hspells] at htoken
        exact htoken

/-- Two tokens are equal if they are the same keyword or no keyword at all. -/
theorem token_eq_of_forall {s t : Token}
    (h : ∀ token, token ≠ .identifier → (s = token ↔ t = token)) : s = t := by
  by_cases hs : s = .identifier
  · by_cases ht : t = .identifier
    · rw [hs, ht]
    · exact (h t ht).mpr rfl
  · exact ((h s hs).mp rfl).symm

theorem classifyBytes_eq_scan (hperm : table.Perm entries) :
    policy.classifyBytes span = policy.scan table span := by
  apply token_eq_of_forall
  intro token htoken
  rw [classifyBytes_eq_iff htoken, scan_eq_iff hperm htoken]

/-- No span agrees with two entries of the table. -/
theorem pairwise_not_agrees (ignoreCase : Bool) (span : List UInt8) :
    entries.Pairwise fun v w =>
      ¬(agrees ignoreCase (bytes v.spelling) span = true ∧
        agrees ignoreCase (bytes w.spelling) span = true) := by
  have hne : entries.Pairwise fun v w => v.spelling ≠ w.spelling :=
    List.pairwise_map.mp nodup_spellings
  apply hne.imp_of_mem
  intro v w hv hw hvw hagree
  apply hvw
  exact eq_of_fold_eq ((agrees_iff hv).mp hagree.1) ((agrees_iff hw).mp hagree.2)

theorem token_eq_identifier_iff {token : Token} :
    token = .identifier ↔ (∀ word, token ≠ .reserved word) ∧ token ≠ .additional := by
  cases token <;> simp

/-- **The index answers as the plain table.** For a range in bounds, whether or not it is aligned
to characters, the lookup by first letter is the scan of all 48 spellings in any order: it gives
the reserved keyword that the whole span agrees with, or the mark of an additional keyword if the
policy counts those and the span agrees with one, or else an identifier. -/
theorem classifyRange_eq_scan (policy : Policy) {text : String} {start stop : Nat}
    (hrange : start < stop ∧ stop ≤ text.utf8ByteSize) :
    let span := bytesBetween text start stop
    let spells := fun word => agrees policy.ignoreCase (bytes word) span = true
    (∀ word : Reserved,
      policy.classifyRange text start stop = .ok (.reserved word) ↔ spells word.spelling) ∧
    (policy.classifyRange text start stop = .ok .additional ↔
      policy.additionalKeywords = true ∧ ∃ word ∈ additionalSpellings, spells word) ∧
    (policy.classifyRange text start stop = .ok .identifier ↔
      (∀ word : Reserved, ¬spells word.spelling) ∧
        ¬(policy.additionalKeywords = true ∧ ∃ word ∈ additionalSpellings, spells word)) ∧
    (∀ table : List Entry, table.Perm entries →
      policy.classifyRange text start stop = .ok (policy.scan table span)) ∧
    entries.length = 48 ∧
    entries.Pairwise fun v w => ¬(spells v.spelling ∧ spells w.spelling) := by
  intro span spells
  have hclassify : policy.classifyRange text start stop = .ok (policy.classifyBytes span) := by
    rw [Policy.classifyRange, if_pos hrange]
  have hreserved : ∀ word : Reserved,
      policy.classifyBytes span = .reserved word ↔ spells word.spelling := by
    intro word
    rw [classifyBytes_eq_reserved_iff]
    exact (agrees_iff (mem_entries_reserved word)).symm
  have hadditional : policy.classifyBytes span = .additional ↔
      policy.additionalKeywords = true ∧ ∃ word ∈ additionalSpellings, spells word := by
    rw [classifyBytes_eq_additional_iff]
    apply and_congr_right
    intro _
    apply exists_congr
    intro word
    apply and_congr_right
    intro hmem
    exact (agrees_iff (mem_entries_additional.mpr hmem)).symm
  simp only [hclassify, Except.ok.injEq]
  refine ⟨hreserved, hadditional, ?_, ?_, rfl, pairwise_not_agrees policy.ignoreCase span⟩
  · rw [token_eq_identifier_iff, ← hadditional]
    apply and_congr_left
    intro _
    exact forall_congr' fun word => not_congr (hreserved word)
  · intro table hperm
    rw [classifyBytes_eq_scan hperm]

/-- The theorem at a range that starts after a two-byte character and is not upper-case. -/
theorem classifyRange_intersects :
    (2 < 12 ∧ 12 ≤ "Éintersects".utf8ByteSize) ∧
      Policy.classifyRange ⟨true, true⟩ "Éintersects" 2 12 = .ok .additional ∧
      Policy.classifyRange ⟨true, true⟩ "Éintersects" 2 12 =
        .ok (Policy.scan ⟨true, true⟩ entries.reverse (bytesBetween "Éintersects" 2 12)) := by
  have hrange : 2 < 12 ∧ 12 ≤ "Éintersects".utf8ByteSize := by decide
  obtain ⟨-, hadditional, -, hscan, -⟩ := classifyRange_eq_scan ⟨true, true⟩ hrange
  refine ⟨hrange, hadditional.mpr ⟨rfl, "INTERSECTS", by decide, by decide⟩, ?_⟩
  exact hscan entries.reverse (List.reverse_perm entries)

end SqlLexicon
