import SqlLexicon.Proofs.Lexicon.Lookup
/-!
# Keywords that begin other keywords

Five keywords of the table begin with another keyword of the table. Each of these ten words is
found as itself and never as its neighbour, and no other keyword stays one when text is added to
its end.

* `extensions` — the five;
* `mem_extensions_of_prefix` — the table holds no others;
* `isKeyword_append_iff` — and so the words hold no others.
-/

namespace SqlLexicon

namespace Lexicon

open Text

/-- A keyword with more text behind it, where the whole is a keyword again. -/
structure Extension where
  entry : Entry
  rest : String
  token : Token
deriving DecidableEq, Repr

/-- The keyword that a keyword is extended to. -/
def Extension.whole (extension : Extension) : Entry :=
  ⟨extension.entry.spelling ++ extension.rest, extension.token⟩

/-- The keywords that are extended to other keywords, and what they then are. -/
def extensions : List Extension :=
  [⟨⟨"CURRENT_TIME", .reserved .kwCurrentTime⟩, "STAMP", .reserved .kwCurrentTimestamp⟩,
    ⟨⟨"FOR", .reserved .kwFor⟩, "EIGN", .reserved .kwForeign⟩,
    ⟨⟨"LOCALTIME", .reserved .kwLocalTime⟩, "STAMP", .reserved .kwLocalTimestamp⟩,
    ⟨⟨"INTERSECT", .reserved .kwIntersect⟩, "S", .additional⟩,
    ⟨⟨"SYSTIME", .additional⟩, "STAMP", .additional⟩]

/-- A span and what follows it are the two parts of an extension, up to ASCII case if the policy
ignores case, and the policy admits the whole. -/
def Extension.Occurs (extension : Extension) (policy : Policy) (span rest : List UInt8) : Prop :=
  policy.admits extension.token = true ∧
    agrees policy.ignoreCase (bytes extension.entry.spelling) span = true ∧
    agrees policy.ignoreCase (bytes extension.rest) rest = true

/-! ## The table -/

theorem entry_mem_of_mem_extensions {extension : Extension} (hmem : extension ∈ extensions) :
    extension.entry ∈ entries ∧ extension.whole ∈ entries := by
  have hall : ∀ extension ∈ extensions, extension.entry ∈ entries ∧ extension.whole ∈ entries := by
    decide
  exact hall extension hmem

theorem mem_extensions_of_prefix {v w : Entry} (hv : v ∈ entries) (hw : w ∈ entries)
    (hstarts : bytes v.spelling <+: bytes w.spelling) :
    v = w ∨ ∃ extension ∈ extensions, extension.entry = v ∧ extension.whole = w := by
  have hall : ∀ v ∈ entries, ∀ w ∈ entries,
      (bytes v.spelling).isPrefixOf (bytes w.spelling) = true →
        v = w ∨ ∃ extension ∈ extensions, extension.entry = v ∧ extension.whole = w := by
    decide +kernel
  exact hall v hv w hw (List.isPrefixOf_iff_prefix.mpr hstarts)

/-- Only the two additional keywords have one token. -/
theorem token_eq_additional_of_mem_extensions {extension : Extension}
    (hmem : extension ∈ extensions) (hsame : extension.entry.token = extension.token) :
    extension.token = .additional := by
  have hall : ∀ extension ∈ extensions,
      extension.entry.token = extension.token → extension.token = .additional := by
    decide
  exact hall extension hmem hsame

theorem admits_entry_of_mem_extensions {policy : Policy} {extension : Extension}
    (hmem : extension ∈ extensions) (hadmits : policy.admits extension.token = true) :
    policy.admits extension.entry.token = true := by
  have hall : ∀ policy ∈ Policy.all, ∀ extension ∈ extensions,
      policy.admits extension.token = true → policy.admits extension.entry.token = true := by
    decide
  exact hall policy policy.mem_all extension hmem hadmits

end Lexicon

open Lexicon Text

variable {policy : Policy} {span rest : List UInt8} {extension : Extension}

/-! ## Spans -/

theorem bytes_whole (extension : Extension) :
    bytes extension.whole.spelling = bytes extension.entry.spelling ++ bytes extension.rest :=
  bytes_append _ _

theorem fold_rest (hmem : extension ∈ extensions) (ignoreCase : Bool) :
    fold ignoreCase (bytes extension.rest) = bytes extension.rest := by
  apply fold_eq_self
  intro b hb
  have hwhole := (entry_mem_of_mem_extensions hmem).2
  apply upperByte_of_isSpellingByte
  apply isSpellingByte_of_mem hwhole
  rw [bytes_whole]
  exact List.mem_append_right _ hb

/-- Where an extension occurs, the span spells its keyword and all of it spells the whole. -/
theorem occurs_iff_spells (hmem : extension ∈ extensions) :
    extension.Occurs policy span rest ↔
      policy.Spells span extension.entry ∧ policy.Spells (span ++ rest) extension.whole := by
  obtain ⟨hentry, -⟩ := entry_mem_of_mem_extensions hmem
  rw [Extension.Occurs, agrees_iff hentry, agrees, beq_iff_eq, fold_rest hmem, Policy.Spells,
    Policy.Spells, fold_append, bytes_whole]
  constructor
  · rintro ⟨hadmits, hspan, hrest⟩
    refine ⟨⟨admits_entry_of_mem_extensions hmem hadmits, hspan⟩, hadmits, ?_⟩
    rw [hspan, hrest]
  · rintro ⟨⟨-, hspan⟩, hadmits, hwhole⟩
    rw [hspan] at hwhole
    exact ⟨hadmits, hspan, (List.append_cancel_left hwhole).symm⟩

/-- A span that spells a keyword, and does so again with more bytes behind it, is that of an
extension. -/
theorem exists_occurs_of_spells {v w : Entry} (hv : v ∈ entries) (hw : w ∈ entries)
    (hspan : policy.Spells span v) (hwhole : policy.Spells (span ++ rest) w) (hrest : rest ≠ []) :
    ∃ extension ∈ extensions, extension.Occurs policy span rest := by
  have hbytes : bytes v.spelling ++ fold policy.ignoreCase rest = bytes w.spelling := by
    rw [← hspan.2, ← hwhole.2, fold_append]
  -- Nothing is left for the rest if both keywords are the same.
  obtain hsame | ⟨extension, hmem, rfl, rfl⟩ := mem_extensions_of_prefix hv hw ⟨_, hbytes⟩
  · rw [hsame, List.append_right_eq_self] at hbytes
    have hlength := congrArg List.length hbytes
    rw [length_fold] at hlength
    exact absurd (List.length_eq_zero_iff.mp hlength) hrest
  · exact ⟨extension, hmem, (occurs_iff_spells hmem).mpr ⟨hspan, hwhole⟩⟩

/-! ## Words -/

/-- **A keyword with text behind it is no keyword, with five exceptions.** Under every policy a word
and the same word with more text are both keywords exactly if the word and the text are, up to
ASCII case if the policy ignores case, `CURRENT_TIME` and `STAMP`, `FOR` and `EIGN`, `LOCALTIME` and
`STAMP`, or with additional keywords `INTERSECT` and `S`, `SYSTIME` and `STAMP`. Both then have the
token of their own spelling, and these differ unless both words are additional keywords. -/
theorem isKeyword_append_iff (policy : Policy) (word : String) {rest : String}
    (hrest : rest ≠ "") :
    (policy.isKeyword word = true ∧ policy.isKeyword (word ++ rest) = true ↔
      ∃ extension ∈ extensions, extension.Occurs policy (bytes word) (bytes rest)) ∧
    ∀ extension ∈ extensions, extension.Occurs policy (bytes word) (bytes rest) →
      policy.classify word = extension.entry.token ∧
      policy.classify (word ++ rest) = extension.token ∧
      (policy.classify word = policy.classify (word ++ rest) →
        policy.classify (word ++ rest) = .additional) := by
  have hbytes : bytes rest ≠ [] := fun hnil => hrest (bytes_inj.mp hnil)
  constructor
  · rw [isKeyword_iff_spells, isKeyword_iff_spells, bytes_append]
    constructor
    · rintro ⟨⟨v, hv, hspan⟩, w, hw, hwhole⟩
      exact exists_occurs_of_spells hv hw hspan hwhole hbytes
    · rintro ⟨extension, hmem, hoccurs⟩
      obtain ⟨hentry, hwhole⟩ := entry_mem_of_mem_extensions hmem
      obtain ⟨hspells, hspellsWhole⟩ := (occurs_iff_spells hmem).mp hoccurs
      exact ⟨⟨_, hentry, hspells⟩, _, hwhole, hspellsWhole⟩
  · intro extension hmem hoccurs
    obtain ⟨hentry, hwhole⟩ := entry_mem_of_mem_extensions hmem
    obtain ⟨hspells, hspellsWhole⟩ := (occurs_iff_spells hmem).mp hoccurs
    rw [Policy.classify, Policy.classify, bytes_append, classifyBytes_of_spells hentry hspells,
      classifyBytes_of_spells hwhole hspellsWhole]
    exact ⟨rfl, rfl, token_eq_additional_of_mem_extensions hmem⟩

/-- The theorem at the exception that is reserved without its last letter and additional with it. -/
theorem isKeyword_append_iff_intersects :
    "s" ≠ "" ∧
      (⟨⟨"INTERSECT", .reserved .kwIntersect⟩, "S", .additional⟩ : Extension) ∈ extensions ∧
      Policy.classify ⟨true, true⟩ "Intersect" = .reserved .kwIntersect ∧
      Policy.classify ⟨true, true⟩ ("Intersect" ++ "s") = .additional ∧
      Policy.isKeyword ⟨true, true⟩ ("Intersect" ++ "s") = true := by
  have hrest : "s" ≠ "" := by decide
  have hmem : (⟨⟨"INTERSECT", .reserved .kwIntersect⟩, "S", .additional⟩ : Extension) ∈
      extensions := by decide
  obtain ⟨hiff, htokens⟩ := isKeyword_append_iff ⟨true, true⟩ "Intersect" hrest
  have hoccurs : Extension.Occurs ⟨⟨"INTERSECT", .reserved .kwIntersect⟩, "S", .additional⟩
      ⟨true, true⟩ (bytes "Intersect") (bytes "s") := ⟨by decide, by decide, by decide⟩
  obtain ⟨hword, hwhole, -⟩ := htokens _ hmem hoccurs
  exact ⟨hrest, hmem, hword, hwhole, (hiff.mpr ⟨_, hmem, hoccurs⟩).2⟩

end SqlLexicon
