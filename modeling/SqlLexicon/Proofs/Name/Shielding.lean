import SqlLexicon.Proofs.Name.RoundTrip
import SqlLexicon.Proofs.Span.Parts
/-!
# A written name is never a keyword

A name is inspected in exact case, yet what is written may be looked up under any policy.

* `classify_of_simple` — the shape of a simple name leaves folding nothing to do, so that what
  the inspection finds in exact case holds in any case;
* `classify_of_mem_quote` — no spelling holds a double quote;
* `write_shielded` — wherever a written name is pasted, its span is an identifier, and the names
  that are keywords under any policy are the ones that are quoted, with nothing to double.
-/

namespace SqlLexicon.Name

open Lexicon Text

variable {policy : Policy} {name : String}

/-! ## The two written forms -/

theorem classify_of_simple (h : isSimple name = true) : policy.classify name = .identifier := by
  obtain ⟨hshaped, hkeyword⟩ := isSimple_iff_shaped.mp h
  rw [Policy.classify, classifyBytes_eq_identifier_iff]
  intro entry hentry hspells
  have hfold := hspells.2
  rw [fold_bytes_of_shaped hshaped] at hfold
  exact hkeyword entry hentry hfold

theorem classify_of_mem_quote (h : '"' ∈ name.toList) : policy.classify name = .identifier := by
  have hbyte : UInt8.ofNat '"'.toNat ∈ bytes name := mem_bytes_of_mem h (by decide)
  exact classifyBytes_eq_identifier_of_mem hbyte (by decide) (by decide)

theorem quote_mem_text_write (h : isSimple name = false) : '"' ∈ (write name).text.toList := by
  rw [text_write_of_not_simple h]
  simp

theorem classify_text_write (policy : Policy) (name : String) :
    policy.classify (write name).text = .identifier := by
  cases h : isSimple name with
  | true =>
      rw [text_write_of_simple h]
      exact classify_of_simple h
  | false => exact classify_of_mem_quote (quote_mem_text_write h)

theorem text_write_ne_empty (name : String) : (write name).text ≠ "" := by
  cases h : isSimple name with
  | true =>
      rw [text_write_of_simple h]
      intro hempty
      subst hempty
      exact (isSimple_iff_shaped.mp h).1
  | false =>
      intro hempty
      have hquote := quote_mem_text_write h
      rw [hempty] at hquote
      cases hquote

/-! ## Keywords -/

theorem doubleQuotes_of_not_mem {chars : List Char} (h : '"' ∉ chars) :
    doubleQuotes chars = chars := by
  induction chars with
  | nil => rfl
  | cons c chars ih =>
      obtain ⟨hc, hchars⟩ := not_or.mp (mt List.mem_cons.mpr h)
      rw [doubleQuotes_cons, if_neg (Ne.symm hc), ih hchars]
      rfl

/-- A keyword is quoted, and there is no quote in it to double. -/
theorem text_write_of_keyword (h : policy.classify name ≠ .identifier) :
    isSimple name = false ∧ (write name).text = "\"" ++ name ++ "\"" := by
  have hsimple : isSimple name = false := by
    rw [← Bool.not_eq_true]
    exact fun hsimple => h (classify_of_simple hsimple)
  have hquote : '"' ∉ name.toList := fun hquote => h (classify_of_mem_quote hquote)
  refine ⟨hsimple, ?_⟩
  rw [text_write_of_not_simple hsimple, doubleQuotes_of_not_mem hquote, String.ofList_toList]

/-- **Writing shields a name from the lexicon.** Pasted between any two texts, a written name
marks a span of its own, which no policy takes for a keyword; and a name that some policy takes
for a keyword is not simple and is written between quotes as it is. -/
theorem write_shielded (name : String) :
    (∀ before after : String, ∃ span : Span,
      Span.ofOffsets (before ++ (write name).text ++ after) before.utf8ByteSize
          (before.utf8ByteSize + (write name).text.utf8ByteSize) = .ok span ∧
        span.word = (write name).text ∧ ∀ policy : Policy, span.token policy = .identifier) ∧
      ∀ policy : Policy, policy.classify name ≠ .identifier →
        isSimple name = false ∧ (write name).text = "\"" ++ name ++ "\"" := by
  refine ⟨?_, fun policy h => text_write_of_keyword h⟩
  intro before after
  refine ⟨⟨before, (write name).text, after, text_write_ne_empty name⟩, ?_, rfl, ?_⟩
  · exact Span.ofOffsets_source ⟨before, (write name).text, after, text_write_ne_empty name⟩
  · intro policy
    exact classify_text_write policy name

/-- The theorem at a keyword in mixed case that only a policy with both switches on admits. -/
theorem write_shielded_sysTime :
    Policy.classify ⟨true, true⟩ "SysTime" ≠ .identifier ∧
      isSimple "SysTime" = false ∧ (write "SysTime").text = "\"" ++ "SysTime" ++ "\"" := by
  have hkeyword : Policy.classify ⟨true, true⟩ "SysTime" ≠ .identifier := by decide
  exact ⟨hkeyword, (write_shielded "SysTime").2 ⟨true, true⟩ hkeyword⟩

end SqlLexicon.Name
